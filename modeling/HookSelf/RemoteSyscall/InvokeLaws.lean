import HookSelf.Collections.Overwrite
import HookSelf.RemoteSyscall.Invoke

namespace HookSelf.RemoteSyscall

open Scripted Overwrite RawSyscall

def failed (answer : Answer) : Bool := rawError answer.result ≠ 0

section Alignment

theorem aligned_add (current : BitVec 64) :
    aligned current + (current &&& BitVec.ofNat 64 (kWordSize - 1)) = current := by
  rw [aligned, BitVec.add_eq_or_of_and_eq_zero]
  · rw [← BitVec.and_or_distrib_left, BitVec.not_or_self, BitVec.and_allOnes]
  · rw [BitVec.and_assoc, ← BitVec.and_assoc _ current, BitVec.and_comm _ current, BitVec.and_assoc]
    simp

theorem offset_eq (current : BitVec 64) :
    (current - aligned current).toNat = current.toNat % 8 := by
  have hoffset : current - aligned current = current &&& BitVec.ofNat 64 (kWordSize - 1) := by
    nth_rewrite 1 [← aligned_add current]
    rw [BitVec.add_comm, BitVec.add_sub_cancel]
  rw [hoffset, BitVec.toNat_and]
  exact Nat.and_two_pow_sub_one_eq_mod current.toNat 3

theorem aligned_add_offset (current : BitVec 64) :
    aligned current + BitVec.ofNat 64 (current.toNat % 8) = current := by
  rw [← offset_eq, BitVec.ofNat_toNat, BitVec.setWidth_eq, BitVec.add_comm, BitVec.sub_add_cancel]

theorem chunk_eq (current : BitVec 64) (left : Nat) :
    chunk current left = min (8 - current.toNat % 8) left := by
  rw [chunk, offset_eq, kWordSize]
  split_ifs <;> omega

theorem chunk_le (current : BitVec 64) (left : Nat) : chunk current left ≤ left := by
  rw [chunk_eq]
  exact min_le_right _ _

end Alignment

theorem setWord_eq_overwrite {memory : Memory} {current : BitVec 64} {bytes : List (BitVec 8)}
    {word : Word} (hbytes : current.toNat % 8 + bytes.length ≤ 8)
    (hword : ∀ index < 8, word index =
      if current.toNat % 8 ≤ index ∧ index < current.toNat % 8 + bytes.length then
        bytes.getD (index - current.toNat % 8) 0
      else memory.word (aligned current) index) :
    memory.setWord (aligned current) word = overwrite memory current bytes := by
  funext place
  have hplace : aligned current + BitVec.ofNat 64 (place - aligned current).toNat = place := by
    rw [BitVec.ofNat_toNat, BitVec.setWidth_eq, BitVec.add_comm, BitVec.sub_add_cancel]
  have hdistance := toNat_sub_add place (aligned current) (n := current.toNat % 8) (by omega)
  rw [aligned_add_offset] at hdistance
  rw [Memory.setWord, overwrite, hdistance, kWordSize]
  generalize hindex : (place - aligned current).toNat = index at *
  by_cases hin : index < 8
  · rw [if_pos hin, hword index hin]
    split_ifs with hchunk hle hle
    · rw [List.getD_eq_getElem?_getD, List.getElem?_eq_getElem (by omega)]
      rfl
    · omega
    · rw [List.getElem?_eq_none (by omega), Memory.word, hplace]
      rfl
    · rw [List.getElem?_eq_none (by omega), Memory.word, hplace]
      rfl
  · rw [if_neg hin, if_pos (by omega), List.getElem?_eq_none (by omega)]
    rfl

section Requests

variable {α : Type} {failure : α} {effect : Answer → Tracee → α × Tracee}
  {world after : World Tracee Answer} {code n : Nat} {value : α} {tid : Int}

def Refused (n : Nat) (world : World Tracee Answer) (code : Nat) (after : World Tracee Answer) :
    Prop :=
  ∃ answer, StopsAt failed n world answer after ∧ rawError answer.result = code

theorem Refused.ne_zero (h : Refused n world code after) : code ≠ 0 := by
  obtain ⟨answer, ⟨_, _, _, hfailed⟩, rfl⟩ := h
  exact of_decide_eq_true hfailed

theorem Refused.behind {between : World Tracee Answer} {m : Nat} (h : Refused m between code after)
    (hfirst : Passes failed n world between) : Refused (n + m) world code after := by
  obtain ⟨answer, hstops, hcode⟩ := h
  exact ⟨answer, hstops.behind hfirst, hcode⟩

theorem request_eq_some (h : request failure effect world = some ((code, value), after)) :
    Refused 0 world code after ∧ after.state = world.state ∨
      ∃ answer, world.answers = answer :: after.answers ∧ Passes failed 1 world after ∧ code = 0 ∧
        value = (effect answer world.state).1 ∧ after.state = (effect answer world.state).2 := by
  obtain ⟨answer, answers, hanswers, hout⟩ := call_eq_some.mp h
  by_cases hfailed : rawError answer.result ≠ 0
  · rw [if_pos hfailed] at hout
    obtain ⟨hvalue, rfl⟩ := Prod.mk.inj hout
    obtain ⟨rfl, rfl⟩ := Prod.mk.inj hvalue
    exact .inl ⟨⟨answer, ⟨world, .refl rfl, hanswers, decide_eq_true hfailed⟩, rfl⟩, rfl⟩
  · rw [if_neg hfailed] at hout
    obtain ⟨hvalue, rfl⟩ := Prod.mk.inj hout
    obtain ⟨rfl, rfl⟩ := Prod.mk.inj hvalue
    exact .inr ⟨answer, hanswers, .one hanswers (decide_eq_false hfailed), rfl, rfl, rfl⟩

theorem ptracePeekData_eq_some {address : BitVec 64} {word : Word} (htid : 0 < tid)
    (h : ptracePeekData tid address world = some ((code, word), after)) :
    after.state = world.state ∧ (Refused 0 world code after ∨
      Passes failed 1 world after ∧ code = 0 ∧ word = world.state.memory.word address) := by
  rw [ptracePeekData, if_neg (by omega)] at h
  rcases request_eq_some h with ⟨hrefused, hstate⟩ | ⟨answer, -, hpasses, hcode, hword, hstate⟩
  · exact ⟨hstate, .inl hrefused⟩
  · exact ⟨hstate, .inr ⟨hpasses, hcode, hword⟩⟩

theorem ptracePokeData_eq_some {address : BitVec 64} {word : Word} {value : Unit}
    (h : ptracePokeData address word world = some ((code, value), after)) :
    Refused 0 world code after ∧ after.state = world.state ∨
      Passes failed 1 world after ∧ code = 0 ∧
        after.state = { world.state with memory := world.state.memory.setWord address word } := by
  rcases request_eq_some h with hrefused | ⟨answer, -, hpasses, hcode, -, hstate⟩
  · exact .inl hrefused
  · exact .inr ⟨hpasses, hcode, hstate⟩

theorem readRegisters_eq_some {registers : Arm64Regs} (htid : 0 < tid)
    (h : readRegisters tid world = some ((code, registers), after)) :
    after.state = world.state ∧ (Refused 0 world code after ∨
      Passes failed 1 world after ∧ registers = world.state.registers ∧
        (code = 0 ↔ world.answers.head?.map (·.length) = some sizeofArm64Regs)) := by
  rw [readRegisters, if_neg (by omega)] at h
  obtain ⟨⟨error, found, length⟩, between, hrequest, hrest⟩ := bind_eq_some.mp h
  dsimp only at hrest
  rcases request_eq_some hrequest with
    ⟨hrefused, hstate⟩ | ⟨answer, hanswers, hpasses, rfl, hfound, hstate⟩
  · rw [if_pos hrefused.ne_zero] at hrest
    obtain ⟨hout, rfl⟩ := Prod.mk.inj (pure_eq_some.mp hrest)
    obtain ⟨rfl, -⟩ := Prod.mk.inj hout
    exact ⟨hstate, .inl hrefused⟩
  · rw [if_neg (not_not.mpr rfl)] at hrest
    obtain ⟨hout, rfl⟩ := Prod.mk.inj (pure_eq_some.mp hrest)
    obtain ⟨rfl, rfl⟩ := Prod.mk.inj hout
    obtain ⟨rfl, rfl⟩ := Prod.mk.inj hfound
    refine ⟨hstate, .inr ⟨hpasses, rfl, ?_⟩⟩
    rw [hanswers]
    simp [eio]

theorem writeRegisters_eq_some {registers : Arm64Regs} {value : Unit} (htid : 0 < tid)
    (h : writeRegisters tid registers world = some ((code, value), after)) :
    Refused 0 world code after ∧ after.state = world.state ∨
      Passes failed 1 world after ∧ code = 0 ∧ after.state = { world.state with registers } := by
  rw [writeRegisters, if_neg (by omega)] at h
  rcases request_eq_some h with hrefused | ⟨answer, -, hpasses, hcode, -, hstate⟩
  · exact .inl hrefused
  · exact .inr ⟨hpasses, hcode, hstate⟩

end Requests

section Rounds

variable {world after : World Tracee Answer} {code size copied rounds : Nat} {tid : Int}
  {address : BitVec 64} {bytes out input : List (BitVec 8)}

theorem map_word_eq_bytesAt (memory : Memory) (current : BitVec 64) (n : Nat) :
    ((List.range n).map fun index =>
      memory.word (aligned current) ((current - aligned current).toNat + index)) =
      bytesAt memory current n := by
  refine List.map_congr_left fun index _ => ?_
  rw [Memory.word, add_ofNat_add, offset_eq, aligned_add_offset]

theorem readRounds_step (htid : 0 < tid) (hcopied : copied < size)
    (h : readRounds tid address size (rounds + 1) copied bytes world = some ((code, out), after)) :
    Refused 0 world code after ∧ after.state = world.state ∨
      ∃ between, Passes failed 1 world between ∧ between.state = world.state ∧
        readRounds tid address size rounds
          (copied + chunk (address + BitVec.ofNat 64 copied) (size - copied))
          (bytes ++ bytesAt world.state.memory (address + BitVec.ofNat 64 copied)
            (chunk (address + BitVec.ofNat 64 copied) (size - copied))) between =
          some ((code, out), after) := by
  rw [readRounds, if_pos hcopied] at h
  dsimp only at h
  generalize hcurrent : address + BitVec.ofNat 64 copied = current at h ⊢
  obtain ⟨⟨error, word⟩, between, hpeek, hrest⟩ := bind_eq_some.mp h
  dsimp only at hrest
  obtain ⟨hstate, hrefused | ⟨hpasses, rfl, rfl⟩⟩ := ptracePeekData_eq_some htid hpeek
  · rw [if_pos hrefused.ne_zero] at hrest
    obtain ⟨hout, rfl⟩ := Prod.mk.inj (pure_eq_some.mp hrest)
    obtain ⟨rfl, -⟩ := Prod.mk.inj hout
    exact .inl ⟨hrefused, hstate⟩
  · rw [if_neg (not_not.mpr rfl)] at hrest
    exact .inr ⟨between, hpasses, hstate, map_word_eq_bytesAt _ current _ ▸ hrest⟩

theorem setWord_chunk {memory : Memory} {current : BitVec 64} {word : Word}
    (hword : current.toNat % 8 ≠ 0 ∨ chunk current (input.length - copied) ≠ 8 →
      word = memory.word (aligned current)) :
    memory.setWord (aligned current) (fun index =>
      if (current - aligned current).toNat ≤ index ∧
        index < (current - aligned current).toNat + chunk current (input.length - copied) then
        input.getD (copied + (index - (current - aligned current).toNat)) 0
      else word index) =
      overwrite memory current
        ((input.drop copied).take (chunk current (input.length - copied))) := by
  have hchunk := chunk_eq current (input.length - copied)
  have hlength : ((input.drop copied).take (chunk current (input.length - copied))).length =
      chunk current (input.length - copied) := by
    rw [List.length_take, List.length_drop]
    omega
  rw [offset_eq]
  refine setWord_eq_overwrite (by omega) fun index hindex => ?_
  rw [hlength]
  split_ifs with hin
  · rw [List.getD_eq_getElem?_getD, List.getD_eq_getElem?_getD,
      List.getElem?_take_of_lt (by omega), List.getElem?_drop]
  · rw [hword (by omega)]

def peeks (current : BitVec 64) (taken : Nat) : Nat :=
  if current.toNat % 8 ≠ 0 ∨ taken ≠ 8 then 1 else 0

theorem wordBefore_eq_some {current : BitVec 64} {taken : Nat} {word : Word} (htid : 0 < tid)
    (h : wordBefore tid current taken world = some ((code, word), after)) :
    after.state = world.state ∧ (Refused 0 world code after ∨
      Passes failed (peeks current taken) world after ∧ code = 0 ∧
        (current.toNat % 8 ≠ 0 ∨ taken ≠ 8 →
          word = world.state.memory.word (aligned current))) := by
  rw [wordBefore, offset_eq, kWordSize] at h
  rw [peeks]
  split_ifs at h ⊢ with hpartial
  · obtain ⟨hstate, hrefused | ⟨hpasses, hcode, hword⟩⟩ := ptracePeekData_eq_some htid h
    · exact ⟨hstate, .inl hrefused⟩
    · exact ⟨hstate, .inr ⟨hpasses, hcode, fun _ => hword⟩⟩
  · obtain ⟨hout, rfl⟩ := Prod.mk.inj (pure_eq_some.mp h)
    exact ⟨rfl, .inr ⟨.refl rfl, (Prod.mk.inj hout).1, fun h => absurd h hpartial⟩⟩

theorem writeRounds_step (htid : 0 < tid) (hcopied : copied < input.length)
    (h : writeRounds tid address input (rounds + 1) copied world = some (code, after)) :
    let current := address + BitVec.ofNat 64 copied
    let taken := chunk current (input.length - copied)
    (∃ n ≤ peeks current taken, Refused n world code after) ∧ after.state = world.state ∨
      ∃ between, Passes failed (peeks current taken + 1) world between ∧
        between.state = { world.state with
          memory := overwrite world.state.memory current ((input.drop copied).take taken) } ∧
        writeRounds tid address input rounds (copied + taken) between = some (code, after) := by
  rw [writeRounds, if_pos hcopied] at h
  dsimp only at h ⊢
  generalize address + BitVec.ofNat 64 copied = current at h ⊢
  obtain ⟨⟨peekError, word⟩, peeked, hpeek, hrest⟩ := bind_eq_some.mp h
  dsimp only at hrest
  obtain ⟨hpeeked, hrefused | ⟨hpasses, rfl, hword⟩⟩ := wordBefore_eq_some htid hpeek
  · rw [if_pos hrefused.ne_zero] at hrest
    obtain ⟨rfl, rfl⟩ := Prod.mk.inj (pure_eq_some.mp hrest)
    exact .inl ⟨⟨0, Nat.zero_le _, hrefused⟩, hpeeked⟩
  · rw [if_neg (not_not.mpr rfl)] at hrest
    obtain ⟨⟨pokeError, _⟩, poked, hpoke, hrest⟩ := bind_eq_some.mp hrest
    dsimp only at hrest
    rcases ptracePokeData_eq_some hpoke with ⟨hrefused, hpoked⟩ | ⟨hdone, rfl, hpoked⟩
    · rw [if_pos hrefused.ne_zero] at hrest
      obtain ⟨rfl, rfl⟩ := Prod.mk.inj (pure_eq_some.mp hrest)
      exact .inl ⟨⟨_, le_rfl, hrefused.behind hpasses⟩, hpoked.trans hpeeked⟩
    · rw [if_neg (not_not.mpr rfl)] at hrest
      refine .inr ⟨poked, hpasses.trans hdone, ?_, hrest⟩
      rw [hpoked, hpeeked, setWord_chunk hword]

def words (current : BitVec 64) (left : Nat) : Nat :=
  if left = 0 then 0 else (current.toNat % 8 + left + 7) / 8

theorem words_chunk (current : BitVec 64) {left : Nat} (hleft : 0 < left) :
    words current left = words (current + BitVec.ofNat 64 (chunk current left))
      (left - chunk current left) + 1 := by
  have hchunk := chunk_eq current left
  have hnext : (current + BitVec.ofNat 64 (chunk current left)).toNat % 8 =
      (current.toNat % 8 + chunk current left) % 8 := by
    rw [BitVec.toNat_add, BitVec.toNat_ofNat]
    omega
  rw [words, words, hnext]
  split_ifs <;> omega

theorem readRounds_done (rounds : Nat) (bytes : List (BitVec 8)) :
    readRounds tid address size rounds size bytes = pure (0, bytes) := by
  cases rounds with
  | zero => rfl
  | succ rounds => rw [readRounds, if_neg (Nat.lt_irrefl _)]

theorem writeRounds_done (rounds : Nat) :
    writeRounds tid address input rounds input.length = pure 0 := by
  cases rounds with
  | zero => rfl
  | succ rounds => rw [writeRounds, if_neg (Nat.lt_irrefl _)]

theorem readRounds_eq_some (htid : 0 < tid) (hcopied : copied ≤ size)
    (hrounds : size - copied ≤ rounds)
    (h : readRounds tid address size rounds copied bytes world = some ((code, out), after)) :
    after.state = world.state ∧
      ((∃ n < words (address + BitVec.ofNat 64 copied) (size - copied),
          Refused n world code after) ∨
        Passes failed (words (address + BitVec.ofNat 64 copied) (size - copied)) world after ∧
          code = 0 ∧ out = bytes ++ bytesAt world.state.memory (address + BitVec.ofNat 64 copied)
            (size - copied)) := by
  induction rounds generalizing copied bytes world with
  | zero =>
    obtain rfl : copied = size := by omega
    obtain ⟨hout, rfl⟩ := Prod.mk.inj (pure_eq_some.mp h)
    obtain ⟨rfl, rfl⟩ := Prod.mk.inj hout
    rw [Nat.sub_self]
    exact ⟨rfl, .inr ⟨.refl rfl, rfl, (List.append_nil _).symm⟩⟩
  | succ rounds ih =>
    rcases hcopied.lt_or_eq with hlt | rfl
    · have hleft : 0 < size - copied := by omega
      have hchunk := chunk_eq (address + BitVec.ofNat 64 copied) (size - copied)
      rw [words_chunk _ hleft]
      rcases readRounds_step htid hlt h with ⟨hrefused, hstate⟩ | ⟨between, hpasses, hstate, hrest⟩
      · exact ⟨hstate, .inl ⟨0, Nat.succ_pos _, hrefused⟩⟩
      · obtain ⟨hafter, hdone⟩ := ih (by omega) (by omega) hrest
        rw [add_ofNat_add, Nat.sub_add_eq] at hdone
        refine ⟨hafter.trans hstate, hdone.imp ?_ ?_⟩
        · rintro ⟨n, hn, hrefused⟩
          exact ⟨n + 1, Nat.succ_lt_succ hn, Nat.add_comm 1 n ▸ hrefused.behind hpasses⟩
        · rintro ⟨hothers, hcode, hout⟩
          refine ⟨Nat.add_comm 1 _ ▸ hpasses.trans hothers, hcode, ?_⟩
          rw [hout, hstate, List.append_assoc, ← bytesAt_add, Nat.add_sub_cancel' (chunk_le _ _)]
    · rw [readRounds_done] at h
      obtain ⟨hout, rfl⟩ := Prod.mk.inj (pure_eq_some.mp h)
      obtain ⟨rfl, rfl⟩ := Prod.mk.inj hout
      rw [Nat.sub_self]
      exact ⟨rfl, .inr ⟨.refl rfl, rfl, (List.append_nil _).symm⟩⟩

theorem readTraceeBytes_eq_some (htid : 0 < tid)
    (h : readTraceeBytes tid address size world = some ((code, out), after)) :
    after.state = world.state ∧ ((∃ n < words address size, Refused n world code after) ∨
      Passes failed (words address size) world after ∧ code = 0 ∧
        out = bytesAt world.state.memory address size) := by
  rw [readTraceeBytes, if_neg (by omega)] at h
  have hread := readRounds_eq_some htid (Nat.zero_le size) le_rfl h
  rwa [BitVec.add_zero, Nat.sub_zero, List.nil_append] at hread

theorem overwrite_take_drop (memory : Memory) (current : BitVec 64) {bytes : List (BitVec 8)}
    {taken : Nat} (htaken : taken ≤ bytes.length) (hfits : bytes.length ≤ 2 ^ 64) :
    overwrite (overwrite memory current (bytes.take taken)) (current + BitVec.ofNat 64 taken)
      (bytes.drop taken) = overwrite memory current bytes := by
  by_cases hrest : bytes.drop taken = []
  · rw [hrest, overwrite_nil, List.take_of_length_le (List.drop_eq_nil_iff.mp hrest)]
  · have happend := @overwrite_append 64 _ memory current (bytes.take taken)
      (bytes.drop taken) (by rw [List.length_take, List.length_drop]; omega) hrest
    rwa [List.length_take, min_eq_left htaken, List.take_append_drop] at happend

theorem writeRounds_eq_some (htid : 0 < tid) (hcopied : copied ≤ input.length)
    (hrounds : input.length - copied ≤ rounds) (hfits : input.length ≤ 2 ^ 64)
    (h : writeRounds tid address input rounds copied world = some (0, after)) :
    after.state = { world.state with
      memory := overwrite world.state.memory (address + BitVec.ofNat 64 copied)
        (input.drop copied) } := by
  induction rounds generalizing copied world with
  | zero =>
    obtain rfl : copied = input.length := by omega
    obtain ⟨-, rfl⟩ := Prod.mk.inj (pure_eq_some.mp h)
    rw [List.drop_length, overwrite_nil]
  | succ rounds ih =>
    rcases hcopied.lt_or_eq with hlt | rfl
    · have hchunk := chunk_eq (address + BitVec.ofNat 64 copied) (input.length - copied)
      rcases writeRounds_step htid hlt h with ⟨⟨n, -, hrefused⟩, -⟩ | ⟨between, -, hstate, hrest⟩
      · exact absurd rfl hrefused.ne_zero
      · rw [ih (by omega) (by omega) hrest, hstate, ← List.drop_drop]
        dsimp only
        rw [add_ofNat_add, overwrite_take_drop _ _ (by rw [List.length_drop]; exact chunk_le _ _)
          (by rw [List.length_drop]; omega)]
    · rw [writeRounds_done] at h
      obtain ⟨-, rfl⟩ := Prod.mk.inj (pure_eq_some.mp h)
      rw [List.drop_length, overwrite_nil]

end Rounds

end HookSelf.RemoteSyscall
