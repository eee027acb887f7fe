import HookSelf.RemoteSyscall.InvokeLaws

/-! When a system call run in the tracee leaves its code and its registers as they were. -/

namespace HookSelf.RemoteSyscall

open Scripted Overwrite RawSyscall

variable {world after : World Tracee Answer} {code : Nat} {tid syscallNumber : Int}
  {result : RemoteSyscallArm64Result}

def Tracee.codeBytes (tracee : Tracee) : List (BitVec 8) :=
  bytesAt tracee.memory tracee.registers.pc 8

def Tracee.halfInjected (tracee : Tracee) : Tracee :=
  { tracee with
    memory := overwrite tracee.memory tracee.registers.pc (encodeInstruction kSvcZero) }

section Injection

variable {pc : BitVec 64} {input : List (BitVec 8)}

theorem and_three_eq_zero_iff : pc &&& 3#64 = 0 ↔ pc.toNat % 4 = 0 := by
  have hbits : (pc &&& 3#64).toNat = pc.toNat % 4 := by
    rw [BitVec.toNat_and]
    exact Nat.and_two_pow_sub_one_eq_mod pc.toNat 2
  rw [← hbits, ← BitVec.toNat_inj]
  rfl

theorem writeTraceeBytes_aligned (htid : 0 < tid) (hpc : pc.toNat % 8 = 0)
    (hinput : input.length = 8) (h : writeTraceeBytes tid pc input world = some (code, after)) :
    code ≠ 0 ∧ after.state = world.state ∨ code = 0 := by
  rw [writeTraceeBytes, if_neg (by omega), hinput] at h
  have hchunk : chunk (pc + BitVec.ofNat 64 0) (input.length - 0) = 8 := by
    rw [chunk_eq, BitVec.add_zero, hpc, hinput]
    rfl
  rcases writeRounds_step htid (by omega) h with ⟨⟨n, -, hrefused⟩, hstate⟩ | ⟨between, -, -, hrest⟩
  · exact .inl ⟨hrefused.ne_zero, hstate⟩
  · rw [hchunk, Nat.zero_add, ← hinput, writeRounds_done] at hrest
    exact .inr (Prod.mk.inj (pure_eq_some.mp hrest)).1

theorem writeTraceeBytes_split (htid : 0 < tid) (hpc : pc.toNat % 8 = 4)
    (hinput : input.length = 8) (h : writeTraceeBytes tid pc input world = some (code, after)) :
    (∃ n < 2, Refused n world code after) ∧ after.state = world.state ∨
      (∃ n < 2, Refused (2 + n) world code after) ∧ after.state = { world.state with
        memory := overwrite world.state.memory pc (input.take 4) } ∨
      code = 0 ∧ Passes failed 4 world after := by
  rw [writeTraceeBytes, if_neg (by omega), hinput] at h
  have hfirst : chunk (pc + BitVec.ofNat 64 0) (input.length - 0) = 4 := by
    rw [chunk_eq, BitVec.add_zero, hpc, hinput]
    rfl
  have hnext : (pc + BitVec.ofNat 64 4).toNat % 8 = 0 := by
    rw [BitVec.toNat_add, BitVec.toNat_ofNat]
    omega
  have hsecond : chunk (pc + BitVec.ofNat 64 4) (input.length - 4) = 4 := by
    rw [chunk_eq, hnext, hinput]
    rfl
  have hfirstPeeks : peeks (pc + BitVec.ofNat 64 0) 4 = 1 := if_pos (.inr (by decide))
  have hsecondPeeks : peeks (pc + BitVec.ofNat 64 4) 4 = 1 := if_pos (.inr (by decide))
  rcases writeRounds_step htid (by omega) h with
    ⟨⟨n, hn, hrefused⟩, hstate⟩ | ⟨between, hpasses, hstate, hrest⟩
  · rw [hfirst, hfirstPeeks] at hn
    exact .inl ⟨⟨n, by omega, hrefused⟩, hstate⟩
  · rw [hfirst, hfirstPeeks] at hpasses
    rw [hfirst, List.drop_zero, BitVec.add_zero] at hstate
    rw [hfirst, Nat.zero_add] at hrest
    rcases writeRounds_step htid (by omega) hrest with
      ⟨⟨n, hn, hrefused⟩, hsame⟩ | ⟨done, hothers, -, hrest⟩
    · rw [hsecond, hsecondPeeks] at hn
      exact .inr (.inl ⟨⟨n, by omega, hrefused.behind hpasses⟩, hsame.trans hstate⟩)
    · rw [hsecond, hsecondPeeks] at hothers
      rw [hsecond, show 4 + 4 = input.length from hinput.symm, writeRounds_done] at hrest
      obtain ⟨hcode, rfl⟩ := Prod.mk.inj (pure_eq_some.mp hrest)
      exact .inr (.inr ⟨hcode, hpasses.trans hothers⟩)

theorem writeTraceeBytes_done (htid : 0 < tid) (hfits : input.length ≤ 2 ^ 64)
    (h : writeTraceeBytes tid pc input world = some (0, after)) :
    after.state = { world.state with memory := overwrite world.state.memory pc input } := by
  rw [writeTraceeBytes, if_neg (by omega)] at h
  have hwrite := writeRounds_eq_some htid (Nat.zero_le _) le_rfl hfits h
  rwa [BitVec.add_zero, List.drop_zero] at hwrite

end Injection

theorem runInjected_restores {saved injected : Arm64Regs} {savedCode : List (BitVec 8)}
    (htid : 0 < tid) (hsaved : savedCode.length = 8)
    (h : runInjected tid saved injected savedCode world = some ((code, result), after))
    (hcode : code ≠ eownerdead) :
    bytesAt after.state.memory saved.pc 8 = savedCode ∧ after.state.registers = saved := by
  obtain ⟨_, _, -, h⟩ := bind_eq_some.mp h
  obtain ⟨_, _, -, h⟩ := bind_eq_some.mp h
  obtain ⟨_, _, -, h⟩ := bind_eq_some.mp h
  obtain ⟨_, ended, -, h⟩ := bind_eq_some.mp h
  obtain ⟨codeRestoreError, codeRestored, hcodeRestore, h⟩ := bind_eq_some.mp h
  obtain ⟨⟨registerRestoreError, _⟩, restored, hregisterRestore, h⟩ := bind_eq_some.mp h
  obtain ⟨hout, rfl⟩ := Prod.mk.inj (pure_eq_some.mp h)
  obtain ⟨rfl, -⟩ := Prod.mk.inj hout
  split_ifs at hcode with hrestore
  · exact absurd rfl hcode
  · obtain ⟨hcodeZero, hregisterZero⟩ := not_or.mp hrestore
    rw [not_not] at hcodeZero hregisterZero
    subst hcodeZero hregisterZero
    have hbytes := writeTraceeBytes_done htid (by omega) hcodeRestore
    rcases writeRegisters_eq_some htid hregisterRestore with ⟨hrefused, -⟩ | ⟨-, -, hregisters⟩
    · exact absurd rfl hrefused.ne_zero
    · have hread := @bytesAt_overwrite 64 _ ended.state.memory saved.pc savedCode (by omega)
      rw [hsaved] at hread
      rw [hregisters, hbytes]
      exact ⟨hread, rfl⟩

@[simp] theorem injectedCode_length : injectedCode.length = 8 := rfl

section Injected

variable {saved injected : Arm64Regs} {savedCode : List (BitVec 8)}

theorem injectThen_aligned (htid : 0 < tid) (hpc : saved.pc.toNat % 8 = 0)
    (hsaved : savedCode.length = 8)
    (h : injectThen tid saved injected savedCode world = some ((code, result), after)) :
    after.state = world.state ∨ (code ≠ eownerdead →
      bytesAt after.state.memory saved.pc 8 = savedCode ∧ after.state.registers = saved) := by
  obtain ⟨writeError, written, hwrite, h⟩ := bind_eq_some.mp h
  rcases writeTraceeBytes_aligned htid hpc injectedCode_length hwrite with ⟨herror, hsame⟩ | rfl
  · rw [if_pos herror] at h
    obtain ⟨-, rfl⟩ := Prod.mk.inj (pure_eq_some.mp h)
    exact .inl hsame
  · rw [if_neg (not_not.mpr rfl)] at h
    exact .inr (runInjected_restores htid hsaved h)

theorem injectThen_split (htid : 0 < tid) (hpc : saved.pc.toNat % 8 = 4)
    (hsaved : savedCode.length = 8)
    (h : injectThen tid saved injected savedCode world = some ((code, result), after)) :
    (∃ n < 2, Refused n world code after) ∧ after.state = world.state ∨
      (∃ n < 2, Refused (2 + n) world code after) ∧ after.state = { world.state with
        memory := overwrite world.state.memory saved.pc (encodeInstruction kSvcZero) } ∨
      (∃ between, Passes failed 4 world between) ∧ (code ≠ eownerdead →
        bytesAt after.state.memory saved.pc 8 = savedCode ∧ after.state.registers = saved) := by
  obtain ⟨writeError, written, hwrite, h⟩ := bind_eq_some.mp h
  rcases writeTraceeBytes_split htid hpc injectedCode_length hwrite with
    ⟨⟨n, hn, hrefused⟩, hsame⟩ | ⟨⟨n, hn, hrefused⟩, hhalf⟩ | ⟨rfl, hpasses⟩
  · rw [if_pos hrefused.ne_zero] at h
    obtain ⟨hout, rfl⟩ := Prod.mk.inj (pure_eq_some.mp h)
    obtain ⟨rfl, -⟩ := Prod.mk.inj hout
    exact .inl ⟨⟨n, hn, hrefused⟩, hsame⟩
  · rw [if_pos hrefused.ne_zero] at h
    obtain ⟨hout, rfl⟩ := Prod.mk.inj (pure_eq_some.mp h)
    obtain ⟨rfl, -⟩ := Prod.mk.inj hout
    exact .inr (.inl ⟨⟨n, hn, hrefused⟩, hhalf⟩)
  · rw [if_neg (not_not.mpr rfl)] at h
    exact .inr (.inr ⟨⟨written, hpasses⟩, runInjected_restores htid hsaved h⟩)

end Injected

/-- The first failed call is the one that reads or writes the second word of the code, with the
first word written already. -/
structure TornInjection (tid syscallNumber : Int) (world : World Tracee Answer) : Prop where
  valid : 0 < tid ∧ 0 ≤ syscallNumber
  split : world.state.registers.pc.toNat % 8 = 4
  registers : world.answers.head?.map (·.length) = some sizeofArm64Regs
  stops : ∃ n, (n = 5 ∨ n = 6) ∧ world.answers.findIdx? failed = some n ∧
    world.answers[n]?.map (rawError ·.result) ≠ some eownerdead
  changed : bytesAt world.state.memory world.state.registers.pc 4 ≠ encodeInstruction kSvcZero

theorem Refused.not_torn {n : Nat} (h : Refused n world code after) (hn : n < 5) :
    ¬TornInjection tid syscallNumber world := by
  intro htorn
  obtain ⟨answer, hstops, -⟩ := h
  obtain ⟨k, hk, hfound, -⟩ := htorn.stops
  obtain rfl := Option.some.inj (hstops.findIdx_eq.1.symm.trans hfound)
  omega

theorem not_torn_of_passes {between : World Tracee Answer} {n : Nat}
    (h : Passes failed n world between) (hn : 7 ≤ n) :
    ¬TornInjection tid syscallNumber world := by
  intro htorn
  obtain ⟨k, hk, hfound, -⟩ := htorn.stops
  have := h.le_findIdx hfound
  omega

/-- What a run returns: nothing was touched, only half of the code was written, or the code was
put back. -/
theorem invokeStoppedArm64Syscall_cases {arguments : Fin 6 → BitVec 64}
    (h : invokeStoppedArm64Syscall tid syscallNumber arguments world =
      some ((code, result), after)) :
    (after.state = world.state ∧ ¬TornInjection tid syscallNumber world) ∨
      (0 < tid ∧ 0 ≤ syscallNumber ∧ world.state.registers.pc.toNat % 8 = 4 ∧
        world.answers.head?.map (·.length) = some sizeofArm64Regs ∧
        (∃ n, (n = 5 ∨ n = 6) ∧ Refused n world code after) ∧
        after.state = world.state.halfInjected) ∨
      ¬TornInjection tid syscallNumber world ∧ (code ≠ eownerdead →
        bytesAt after.state.memory world.state.registers.pc 8 = world.state.codeBytes ∧
          after.state.registers = world.state.registers) := by
  rw [invokeStoppedArm64Syscall] at h
  split_ifs at h with hinvalid
  · obtain ⟨-, rfl⟩ := Prod.mk.inj (pure_eq_some.mp h)
    exact .inl ⟨rfl, fun htorn => by have := htorn.valid; omega⟩
  have htid : 0 < tid := by omega
  obtain ⟨⟨readError, saved⟩, started, hregisters, h⟩ := bind_eq_some.mp h
  dsimp only at h
  obtain ⟨hstarted, hrefused | ⟨hpasses, rfl, hlength⟩⟩ := readRegisters_eq_some htid hregisters
  · rw [if_pos (.inl hrefused.ne_zero)] at h
    obtain ⟨-, rfl⟩ := Prod.mk.inj (pure_eq_some.mp h)
    exact .inl ⟨hstarted, hrefused.not_torn (by decide)⟩
  generalize hpc : world.state.registers.pc = pc at h ⊢
  by_cases hstop : readError ≠ 0 ∨ pc = 0 ∨ pc &&& 3#64 ≠ 0
  · rw [if_pos hstop] at h
    obtain ⟨-, rfl⟩ := Prod.mk.inj (pure_eq_some.mp h)
    refine .inl ⟨hstarted, fun htorn => ?_⟩
    have hsplit := hpc ▸ htorn.split
    rcases hstop with herror | rfl | hbits
    · exact herror (hlength.mpr htorn.registers)
    · exact absurd hsplit (by decide)
    · exact hbits (and_three_eq_zero_iff.mpr (by omega))
  obtain ⟨rfl, -, hbits⟩ : readError = 0 ∧ pc ≠ 0 ∧ pc &&& 3#64 = 0 := by
    simpa only [not_or, not_not] using hstop
  rw [and_three_eq_zero_iff] at hbits
  rw [if_neg hstop] at h
  obtain ⟨⟨codeError, savedCode⟩, copied, hread, hinject⟩ := bind_eq_some.mp h
  dsimp only at hinject
  have hwords : words pc 8 ≤ 2 := by
    rw [words]
    split_ifs <;> omega
  obtain ⟨hcopied, ⟨n, hn, hrefused⟩ | ⟨hcopies, rfl, rfl⟩⟩ := readTraceeBytes_eq_some htid hread
  · rw [if_pos hrefused.ne_zero] at hinject
    obtain ⟨-, rfl⟩ := Prod.mk.inj (pure_eq_some.mp hinject)
    exact .inl ⟨hcopied.trans hstarted, (hrefused.behind hpasses).not_torn (by omega)⟩
  rw [if_neg (not_not.mpr rfl)] at hinject
  have hsame := hcopied.trans hstarted
  have hcode : bytesAt started.state.memory pc 8 = world.state.codeBytes := by
    rw [Tracee.codeBytes, hstarted, hpc]
  rw [hcode] at hinject
  subst hpc
  rcases (by omega : world.state.registers.pc.toNat % 8 = 0 ∨
    world.state.registers.pc.toNat % 8 = 4) with haligned | hsplit
  · have hintact : ¬TornInjection tid syscallNumber world := fun htorn => by
      have := htorn.split
      omega
    rcases injectThen_aligned htid haligned (bytesAt_length _ _ _) hinject with hkept | hrestored
    · exact .inl ⟨hkept.trans hsame, hintact⟩
    · exact .inr (.inr ⟨hintact, hrestored⟩)
  · have htwo : words world.state.registers.pc 8 = 2 := by
      rw [words, hsplit]
      rfl
    rw [htwo] at hcopies
    have hbefore := hpasses.trans hcopies
    rcases injectThen_split htid hsplit (bytesAt_length _ _ _) hinject with
      ⟨⟨n, hn, hrefused⟩, hkept⟩ | ⟨⟨n, hn, hrefused⟩, hhalf⟩ | ⟨⟨between, hothers⟩, hrestored⟩
    · exact .inl ⟨hkept.trans hsame, (hrefused.behind hbefore).not_torn (by omega)⟩
    · refine .inr (.inl ⟨htid, by omega, hsplit, hlength.mp rfl,
        ⟨_, by omega, hrefused.behind hbefore⟩, ?_⟩)
      rw [hhalf, hsame, Tracee.halfInjected]
    · exact .inr (.inr ⟨not_torn_of_passes (hbefore.trans hothers) (by decide), hrestored⟩)

theorem halfInjected_codeBytes (tracee : Tracee) :
    bytesAt tracee.halfInjected.memory tracee.registers.pc 8 = tracee.codeBytes ↔
      bytesAt tracee.memory tracee.registers.pc 4 = encodeInstruction kSvcZero := by
  have hfirst := @bytesAt_overwrite 64 _ tracee.memory tracee.registers.pc
    (encodeInstruction kSvcZero) (by decide)
  have hsecond := @bytesAt_overwrite_behind 64 _ tracee.memory tracee.registers.pc
    (encodeInstruction kSvcZero) 4 (by decide)
  rw [Tracee.codeBytes, bytesAt_add _ _ 4 4, bytesAt_add tracee.memory _ 4 4]
  constructor
  · intro h
    exact (List.append_inj_left h (by simp)).symm.trans hfirst
  · intro h
    exact congrArg₂ (· ++ ·) (hfirst.trans h.symm) hsecond

/-- The code and the registers are as before, unless the owner is told, exactly when the injection
was not torn. -/
theorem invokeStoppedArm64Syscall_restores_iff (tid syscallNumber : Int)
    (arguments : Fin 6 → BitVec 64) (world after : World Tracee Answer) (code : Nat)
    (result : RemoteSyscallArm64Result)
    (h : invokeStoppedArm64Syscall tid syscallNumber arguments world =
      some ((code, result), after)) :
    (code ≠ eownerdead →
      bytesAt after.state.memory world.state.registers.pc 8 = world.state.codeBytes ∧
        after.state.registers = world.state.registers) ↔
      ¬TornInjection tid syscallNumber world := by
  rcases invokeStoppedArm64Syscall_cases h with ⟨hsame, hintact⟩ |
    ⟨htid, hsyscall, hsplit, hlength, ⟨n, hn, answer, hstops, hcode⟩, hhalf⟩ | ⟨hintact, hrestored⟩
  · exact iff_of_true (fun _ => hsame ▸ ⟨rfl, rfl⟩) hintact
  · obtain ⟨hfound, hanswer⟩ := hstops.findIdx_eq
    rw [hhalf, halfInjected_codeBytes]
    constructor
    · intro hkept htorn
      obtain ⟨k, -, hk, hother⟩ := htorn.stops
      obtain rfl := Option.some.inj (hk.symm.trans hfound)
      rw [hanswer, Option.map_some, hcode] at hother
      exact htorn.changed (hkept fun h => hother (h ▸ rfl)).1
    · intro hintact hother
      refine ⟨by_contra fun hchanged => hintact ⟨⟨htid, hsyscall⟩, hsplit, hlength,
        ⟨n, hn, hfound, ?_⟩, hchanged⟩, rfl⟩
      rw [hanswer, Option.map_some, hcode]
      exact fun h => hother (Option.some.inj h)
  · exact iff_of_true hrestored hintact

def pageEndTracee : Tracee := ⟨fun _ => 0, ⟨fun _ => 0, 0, 4092, 0⟩⟩

def succeeds : Answer := ⟨0, sizeofArm64Regs, 0, pageEndTracee⟩

def trapWorld : World Tracee Answer :=
  ⟨pageEndTracee, List.replicate 9 succeeds ++ [⟨1, 0, 0x57f#32, pageEndTracee⟩] ++
    List.replicate 6 succeeds⟩

theorem invokeStoppedArm64Syscall_restores_trapped :
    ∃ after, invokeStoppedArm64Syscall 1 222 (fun _ => 0) trapWorld = some ((0, ⟨0, 0⟩), after) ∧
      ((0 ≠ eownerdead → bytesAt after.state.memory 4092 8 = pageEndTracee.codeBytes ∧
        after.state.registers = pageEndTracee.registers) ↔ ¬TornInjection 1 222 trapWorld) := by
  obtain ⟨after, hafter⟩ : ∃ after,
      invokeStoppedArm64Syscall 1 222 (fun _ => 0) trapWorld = some ((0, ⟨0, 0⟩), after) := ⟨_, rfl⟩
  exact ⟨after, hafter, invokeStoppedArm64Syscall_restores_iff 1 222 _ trapWorld after 0 _ hafter⟩

/-- The page behind it cannot be written: the first instruction injected stays. -/
theorem invokeStoppedArm64Syscall_leaves_code :
    ¬∀ (tid syscallNumber : Int) (arguments : Fin 6 → BitVec 64) (world after : World Tracee Answer)
      (code : Nat) (result : RemoteSyscallArm64Result),
      invokeStoppedArm64Syscall tid syscallNumber arguments world =
          some ((code, result), after) →
        code ≠ eownerdead →
        bytesAt after.state.memory world.state.registers.pc 8 = world.state.codeBytes ∧
          after.state.registers = world.state.registers := by
  intro h
  have := (h 1 222 (fun _ => 0)
    ⟨pageEndTracee, List.replicate 6 succeeds ++ [⟨-5, 0, 0, pageEndTracee⟩]⟩ _ eio noResult rfl
    (by decide)).1
  revert this
  decide +kernel

end HookSelf.RemoteSyscall
