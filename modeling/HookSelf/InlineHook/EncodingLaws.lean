import HookSelf.InlineHook.Arm64Encoding

/-! The PC-relative classes of A64 as the architecture defines them, and the codec against them. -/

namespace HookSelf.InlineHook.Arm64

open BitField

section Architecture

def FixedBits (top : BitVec 8) : InstructionKind → Prop
  | .b => top.extractLsb' 2 6 = 0b000101
  | .bl => top.extractLsb' 2 6 = 0b100101
  | .bCond => top = 0b01010100
  | .compareBranch => top.extractLsb' 1 6 = 0b011010
  | .testBranch => top.extractLsb' 1 6 = 0b011011
  | .adr => top.extractLsb' 7 1 = 0 ∧ top.extractLsb' 0 5 = 0b10000
  | .adrp => top.extractLsb' 7 1 = 1 ∧ top.extractLsb' 0 5 = 0b10000
  | .literalLoad => top.extractLsb' 3 3 = 0b011 ∧ top.extractLsb' 0 2 = 0b00
  | .other => False

instance (top : BitVec 8) (kind : InstructionKind) : Decidable (FixedBits top kind) :=
  match kind with
  | .b | .bl | .bCond | .compareBranch | .testBranch => inferInstanceAs (Decidable (_ = _))
  | .adr | .adrp | .literalLoad => inferInstanceAs (Decidable (_ ∧ _))
  | .other => inferInstanceAs (Decidable False)

def OfKind (instruction : Word) (kind : InstructionKind) : Prop :=
  FixedBits (instruction.extractLsb' 24 8) kind

instance (instruction : Word) (kind : InstructionKind) : Decidable (OfKind instruction kind) :=
  inferInstanceAs (Decidable (FixedBits _ _))

def imm26 (instruction : Word) : BitVec 26 := instruction.extractLsb' 0 26
def imm19 (instruction : Word) : BitVec 19 := instruction.extractLsb' 5 19
def imm14 (instruction : Word) : BitVec 14 := instruction.extractLsb' 5 14
def immhiImmlo (instruction : Word) : BitVec 21 :=
  instruction.extractLsb' 5 19 ++ instruction.extractLsb' 29 2

def page (address : Address) : Address := address.extractLsb' 12 52 ++ 0#12

/-- The address the instruction refers to when it executes at `pc`. -/
def architecturalTarget (instruction : Word) (pc : Address) : InstructionKind → Address
  | .b | .bl => pc + (imm26 instruction ++ 0#2).signExtend 64
  | .bCond | .compareBranch | .literalLoad => pc + (imm19 instruction ++ 0#2).signExtend 64
  | .testBranch => pc + (imm14 instruction ++ 0#2).signExtend 64
  | .adr => pc + (immhiImmlo instruction).signExtend 64
  | .adrp => page pc + (immhiImmlo instruction ++ 0#12).signExtend 64
  | .other => 0

def immediateBits : InstructionKind → Word
  | .b | .bl => mask 32 0 26
  | .bCond | .compareBranch | .literalLoad => mask 32 5 19
  | .testBranch => mask 32 5 14
  | .adr | .adrp => mask 32 29 2 ||| mask 32 5 19
  | .other => 0

def namedBy (kind : InstructionKind) (address : Address) : Address :=
  if kind = .adrp then page address else address

def alignment : InstructionKind → Int
  | .adr | .other => 1
  | .adrp => 4096
  | _ => 4

def reach : InstructionKind → Int
  | .b | .bl => 2 ^ 27
  | .bCond | .compareBranch | .literalLoad => 2 ^ 20
  | .testBranch => 2 ^ 15
  | .adr => 2 ^ 20
  | .adrp => 2 ^ 32
  | .other => 0

def distance (kind : InstructionKind) (pc target : Address) : Int :=
  (namedBy kind target).toNat - (namedBy kind pc).toNat

def Reachable (kind : InstructionKind) (pc target : Address) : Prop :=
  alignment kind ∣ distance kind pc target ∧
    -reach kind ≤ distance kind pc target ∧ distance kind pc target < reach kind

instance (kind : InstructionKind) (pc target : Address) : Decidable (Reachable kind pc target) :=
  inferInstanceAs (Decidable (_ ∧ _))

end Architecture

section Kinds

def kindOfTop (top : BitVec 8) : InstructionKind :=
  if top &&& 0x7c = 0x14 then if top &&& 0x80 ≠ 0 then .bl else .b
  else if top &&& 0xff = 0x54 then .bCond
  else if top &&& 0x7e = 0x34 then .compareBranch
  else if top &&& 0x7e = 0x36 then .testBranch
  else if top &&& 0x1f = 0x10 then if top &&& 0x80 ≠ 0 then .adrp else .adr
  else if top &&& 0x3b = 0x18 then .literalLoad
  else .other

theorem decodeKind_eq (instruction : Word) :
    decodeKind instruction = kindOfTop (instruction.extractLsb' 24 8) := by
  have htest (m v : BitVec 8) := and_shiftLeft_eq_iff instruction m v 24 (by decide)
  simp only [decodeKind, kindOfTop, ne_eq, ← htest]
  rfl

theorem kindOfTop_of_fixedBits : ∀ (top : BitVec 8) (kind : InstructionKind),
    FixedBits top kind → kindOfTop top = kind := by
  intro top kind
  revert top
  cases kind <;> decide +kernel

theorem OfKind.decodeKind {instruction : Word} {kind : InstructionKind}
    (h : OfKind instruction kind) : decodeKind instruction = kind :=
  (decodeKind_eq instruction).trans (kindOfTop_of_fixedBits _ _ h)

theorem fixedBits_kindOfTop : ∀ top : BitVec 8, kindOfTop top ≠ .other →
    FixedBits top (kindOfTop top) := by
  decide +kernel

theorem ofKind_of_decodeKind {instruction : Word} {kind : InstructionKind}
    (h : decodeKind instruction = kind) (hother : kind ≠ .other) : OfKind instruction kind := by
  rw [decodeKind_eq] at h
  subst h
  exact fixedBits_kindOfTop _ hother

end Kinds

section Arithmetic

theorem and_sign_eq_zero {n : Nat} (v : BitVec (n + 1)) (hn : n < 64) :
    v.setWidth 64 &&& ((1 : BitVec 64) <<< n) = 0 ↔ v.msb = false := by
  have htwo : (1 : BitVec 64) <<< n = BitVec.twoPow 64 n := rfl
  have hne : BitVec.twoPow 64 n ≠ 0#64 := by
    intro h
    have hbit := congrArg (BitVec.getLsbD · n) h
    simp [hn] at hbit
  rw [htwo, BitVec.and_twoPow, BitVec.msb_eq_getLsbD_last]
  simp [hn, hne]

theorem signExtend_setWidth {n : Nat} (v : BitVec (n + 1)) (hn : n + 1 < 63) :
    signExtend (v.setWidth 64) (n + 1) = v.toInt := by
  have hv := v.isLt
  have hpow : 2 ^ (n + 1) ≤ 2 ^ 62 := Nat.pow_le_pow_right Nat.two_pos (by omega)
  have hmask : ((1 : BitVec 64) <<< (n + 1)) - 1 = mask 64 0 (n + 1) :=
    one_shiftLeft_sub_one (by omega)
  have hself : v.setWidth 64 &&& mask 64 0 (n + 1) = v.setWidth 64 := by
    apply BitVec.eq_of_getLsbD_eq
    intro i hi
    rw [BitVec.getLsbD_and, getLsbD_mask]
    cases hbit : (v.setWidth 64).getLsbD i with
    | false => rfl
    | true =>
      rw [BitVec.getLsbD_setWidth, Bool.and_eq_true] at hbit
      have hlt := BitVec.lt_of_getLsbD hbit.2
      simp [hi, hlt]
  have hneg : ~~~(v.setWidth 64) &&& mask 64 0 (n + 1) = (~~~v).setWidth 64 := by
    apply BitVec.eq_of_getLsbD_eq
    intro i hi
    rw [BitVec.getLsbD_and, getLsbD_mask]
    simp [hi, Bool.and_comm]
  have hcomp : ((~~~v).setWidth 64 + 1).toNat = 2 ^ (n + 1) - v.toNat := by
    rw [BitVec.toNat_add, BitVec.toNat_setWidth, BitVec.toNat_not]
    have hone : (1 : BitVec 64).toNat = 1 := rfl
    omega
  simp only [signExtend, hmask, hself, hneg, Nat.add_sub_cancel,
    and_sign_eq_zero v (show n < 64 by omega)]
  rw [BitVec.toInt_eq_msb_cond v]
  cases hmsb : v.msb with
  | false =>
    have hnat : (v.setWidth 64).toNat = v.toNat := by
      rw [BitVec.toNat_setWidth, Nat.mod_eq_of_lt (by omega)]
    simp [BitVec.toInt_eq_toNat_of_lt (show 2 * (v.setWidth 64).toNat < 2 ^ 64 by omega), hnat]
  | true =>
    rw [if_neg (by decide), if_pos rfl, BitVec.toInt_eq_toNat_of_lt (by omega), hcomp]
    omega

theorem signedDifference_eq (target source : Address) :
    signedDifference target source =
      if -2 ^ 63 ≤ (target.toNat : Int) - source.toNat ∧
          (target.toNat : Int) - source.toNat < 2 ^ 63 then
        some ((target.toNat : Int) - source.toNat)
      else none := by
  have ht := target.isLt
  have hs := source.isLt
  have hmin : ((1 : BitVec 64) <<< 63).toNat = 2 ^ 63 := rfl
  rw [signedDifference]
  by_cases hle : source ≤ target
  · have hsub : (target - source).toNat = target.toNat - source.toNat :=
      BitVec.toNat_sub_of_le hle
    rw [if_pos hle]
    rw [BitVec.le_def] at hle
    by_cases hbig : (target - source).toNat > int64Max
    · rw [int64Max] at hbig
      simp only [int64Max, hbig, if_true]
      rw [if_neg (by omega)]
    · rw [int64Max] at hbig
      simp only [int64Max, hbig, if_false]
      rw [if_pos (by omega), BitVec.toInt_eq_toNat_of_lt (by omega)]
      congr 1
      omega
  · have hlt : target ≤ source := by
      rw [BitVec.le_def] at hle ⊢
      omega
    have hsub : (source - target).toNat = source.toNat - target.toNat :=
      BitVec.toNat_sub_of_le hlt
    rw [if_neg hle]
    rw [BitVec.le_def] at hle
    simp only [gt_iff_lt, BitVec.lt_def, BitVec.toNat_inj.symm, hmin]
    by_cases hbig : 2 ^ 63 < (source - target).toNat
    · rw [if_pos hbig, if_neg (by omega)]
    · rw [if_neg hbig]
      by_cases hmost : (source - target).toNat = 2 ^ 63
      · rw [if_pos hmost, if_pos (by omega)]
        congr 1
        omega
      · rw [if_neg hmost, if_pos (by omega), BitVec.toInt_eq_toNat_of_lt (by omega)]
        congr 1
        omega

theorem encodeSignedImmediate_eq {n : Nat} (hn : n + 1 < 32) (byteOffset : Int) :
    encodeSignedImmediate byteOffset (n + 1) =
      if 4 ∣ byteOffset ∧ -(2 ^ n * 4) ≤ byteOffset ∧ byteOffset < 2 ^ n * 4 then
        some ((BitVec.ofInt (n + 1) (byteOffset / 4)).setWidth 32)
      else none := by
  have hmask : ((1 : Word) <<< (n + 1)) - 1 = mask 32 0 (n + 1) := one_shiftLeft_sub_one hn
  by_cases hdvd : (4 : Int) ∣ byteOffset
  · have hword : (BitVec.ofInt 32 (byteOffset / 4)).setWidth (n + 1) =
        BitVec.ofInt (n + 1) (byteOffset / 4) := setWidth_ofInt (by omega) _
    have hmul : byteOffset = byteOffset / 4 * 4 := (Int.ediv_mul_cancel hdvd).symm
    simp only [encodeSignedImmediate, Int.dvd_iff_tmod_eq_zero.mp hdvd, Int.tdiv_eq_ediv_of_dvd hdvd,
      hmask, and_mask_zero, hword, Nat.add_sub_cancel, ne_eq, not_true_eq_false, if_false, hdvd,
      true_and]
    generalize byteOffset / 4 = units at *
    generalize (2 : Int) ^ n = bound at *
    split_ifs <;> first | rfl | omega
  · have hmod : byteOffset.tmod 4 ≠ 0 := fun h => hdvd (Int.dvd_iff_tmod_eq_zero.mpr h)
    simp [encodeSignedImmediate, hmod, hdvd]

end Arithmetic

section Decode

theorem mask_eq : mask 32 0 26 = 0x03ffffff ∧ mask 32 0 19 = 0x7ffff ∧ mask 32 0 14 = 0x3fff ∧
    mask 64 0 2 = 0x3 ∧ mask 64 0 19 = 0x7ffff := by decide

theorem page_eq (address : Address) : address &&& ~~~0xfff = page address := by
  have hmask : ~~~(0xfff : Address) = mask 64 12 52 := by decide
  apply BitVec.eq_of_getLsbD_eq
  intro i hi
  rw [hmask, BitVec.getLsbD_and, getLsbD_mask, page, BitVec.getLsbD_append]
  by_cases hlow : i < 12
  · simp [hlow]
  · simp [hlow, hi, show i - 12 < 52 by omega, show 12 + (i - 12) = i by omega,
      show 12 ≤ i by omega]

theorem shifted_imm26 (instruction : Word) :
    (instruction &&& 0x03ffffff).setWidth 64 <<< 2 = (imm26 instruction ++ 0#2).setWidth 64 := by
  have hfield := shiftRight_and_mask instruction 0 26
  rw [BitVec.ushiftRight_zero, mask_eq.1] at hfield
  rw [hfield, setWidth_setWidth_of_le _ _ (by decide), setWidth_shiftLeft, imm26]

theorem shifted_field (instruction : Word) (n : Nat) (hn : n ≤ 32) :
    ((instruction >>> 5) &&& mask 32 0 n).setWidth 64 <<< 2 =
      (instruction.extractLsb' 5 n ++ 0#2).setWidth 64 := by
  rw [shiftRight_and_mask, setWidth_setWidth_of_le _ _ hn, setWidth_shiftLeft]

theorem getLsbD_immhiImmlo (instruction : Word) (i : Nat) : (immhiImmlo instruction).getLsbD i =
    if i < 2 then (instruction.extractLsb' 29 2).getLsbD i
    else (instruction.extractLsb' 5 19).getLsbD (i - 2) := by
  have happend := BitVec.getLsbD_append (x := instruction.extractLsb' 5 19)
    (y := instruction.extractLsb' 29 2) (i := i)
  rw [immhiImmlo]
  exact happend

theorem split_immediate (instruction : Word) :
    ((instruction.setWidth 64 >>> 29) &&& (0x3 : BitVec 64)) |||
        (((instruction.setWidth 64 >>> 5) &&& 0x7ffff) <<< 2) =
      (immhiImmlo instruction).setWidth 64 := by
  rw [← mask_eq.2.2.2.1, ← mask_eq.2.2.2.2, shiftRight_and_mask, shiftRight_and_mask,
    extract_setWidth _ _ _ (by decide), extract_setWidth _ _ _ (by decide)]
  apply BitVec.eq_of_getLsbD_eq
  intro i hi
  by_cases hlow : i < 2
  · simp [getLsbD_immhiImmlo, hi, hlow]
  · simp [getLsbD_immhiImmlo, hi, hlow]

theorem decodePcRelativeTarget_eq {instruction : Word} {kind : InstructionKind}
    (h : OfKind instruction kind) (pc : Address) :
    decodePcRelativeTarget instruction pc = architecturalTarget instruction pc kind := by
  have h19 := shifted_field instruction 19 (by decide)
  have h14 := shifted_field instruction 14 (by decide)
  rw [mask_eq.2.1] at h19
  rw [mask_eq.2.2.1] at h14
  simp only [decodePcRelativeTarget, h.decodeKind, shifted_imm26, h19, h14, split_immediate]
  cases kind with
  | b | bl => simp only [signExtend_setWidth (imm26 instruction ++ 0#2) (by decide)]; rfl
  | bCond | compareBranch | literalLoad =>
    simp only [signExtend_setWidth (instruction.extractLsb' 5 19 ++ 0#2) (by decide)]; rfl
  | testBranch =>
    simp only [signExtend_setWidth (instruction.extractLsb' 5 14 ++ 0#2) (by decide)]; rfl
  | adr => simp only [signExtend_setWidth (immhiImmlo instruction) (by decide)]; rfl
  | adrp =>
    have happend := toInt_append_zero (immhiImmlo instruction) 12
    simp only [signExtend_setWidth (immhiImmlo instruction) (by decide), page_eq, if_true,
      architecturalTarget, BitVec.signExtend, happend]
    rfl
  | other => exact h.elim

end Decode

section Encode

def withImmediate (instruction : Word) (distance : Int) : InstructionKind → Word
  | .b | .bl => insert instruction 0 (BitVec.ofInt 26 (distance / 4))
  | .bCond | .compareBranch | .literalLoad => insert instruction 5 (BitVec.ofInt 19 (distance / 4))
  | .testBranch => insert instruction 5 (BitVec.ofInt 14 (distance / 4))
  | .adr => insertSplit instruction (BitVec.ofInt 21 distance)
  | .adrp => insertSplit instruction (BitVec.ofInt 21 (distance / 4096))
  | .other => instruction
where
  insertSplit (instruction : Word) (value : BitVec 21) : Word :=
    insert (insert instruction 29 (value.extractLsb' 0 2)) 5 (value.extractLsb' 2 19)

theorem insertSplit_eq (instruction : Word) (v : BitVec 21) :
    (instruction &&& ~~~(((0x3 : Word) <<< 29) ||| ((0x7ffff : Word) <<< 5))) |||
        ((v.setWidth 32 &&& 0x3) <<< 29) ||| (((v.setWidth 32 >>> 2) &&& 0x7ffff) <<< 5) =
      withImmediate.insertSplit instruction v := by
  have hlo : ((0x3 : Word) <<< 29) = mask 32 29 2 := by decide
  have hhi : ((0x7ffff : Word) <<< 5) = mask 32 5 19 := by decide
  have hextract (lo n : Nat) : (v.setWidth 32 >>> lo) &&& mask 32 0 n =
      (v.extractLsb' lo n).setWidth 32 := by
    rw [shiftRight_and_mask, extract_setWidth _ _ _ (by decide)]
  have hlow : v.setWidth 32 &&& 0x3 = (v.extractLsb' 0 2).setWidth 32 := hextract 0 2
  have hhigh : (v.setWidth 32 >>> 2) &&& 0x7ffff = (v.extractLsb' 2 19).setWidth 32 :=
    hextract 2 19
  rw [hlo, hhi, hlow, hhigh, withImmediate.insertSplit]
  apply BitVec.eq_of_getLsbD_eq
  intro i hi
  rw [getLsbD_insert _ _ _ _ hi, getLsbD_insert _ _ _ _ hi]
  simp only [BitVec.getLsbD_or, BitVec.getLsbD_and, BitVec.getLsbD_not, getLsbD_mask,
    BitVec.getLsbD_shiftLeft, BitVec.getLsbD_setWidth, BitVec.getLsbD_extractLsb', hi]
  by_cases h5 : i < 5
  · simp [h5, show ¬ 5 ≤ i by omega, show ¬ 29 ≤ i by omega, show i < 29 by omega]
  by_cases h24 : i < 24
  · simp [h5, h24, show 5 ≤ i by omega, show ¬ 29 ≤ i by omega, show i < 29 by omega,
      show i - 5 < 19 by omega, show i - 5 < 32 by omega]
  by_cases h29 : i < 29
  · simp [h5, h24, h29, show ¬ 29 ≤ i by omega, show ¬ i - 5 < 19 by omega]
  by_cases h31 : i < 31
  · simp [h24, h29, h31, show 29 ≤ i by omega, show ¬ i - 5 < 19 by omega,
      show i - 29 < 2 by omega, show i - 29 < 32 by omega]
  · simp [h24, h31, show ¬ i - 5 < 19 by omega, show ¬ i - 29 < 2 by omega]

theorem immhiImmlo_insertSplit (instruction : Word) (v : BitVec 21) :
    immhiImmlo (withImmediate.insertSplit instruction v) = v := by
  apply BitVec.eq_of_getLsbD_eq
  intro i hi
  rw [getLsbD_immhiImmlo, withImmediate.insertSplit, extract_insert _ _ (by decide),
    extract_insert_of_disjoint _ _ (by decide) (by decide), extract_insert _ _ (by decide)]
  split_ifs with hlow
  · simp [hlow]
  · simp [show i - 2 < 19 by omega, show 2 + (i - 2) = i by omega]

theorem OfKind.withImmediate {instruction : Word} {kind : InstructionKind}
    (h : OfKind instruction kind) (distance : Int) :
    OfKind (withImmediate instruction distance kind) kind := by
  have hsplit (v : BitVec 21) : (withImmediate.insertSplit instruction v).extractLsb' 24 8 =
      insert (instruction.extractLsb' 24 8) 5 (v.extractLsb' 0 2) := by
    rw [withImmediate.insertSplit, extract_insert_of_disjoint _ _ (by decide) (by decide),
      extract_insert_inside _ _ (by decide) (by decide)]
  have hlow (v : BitVec 26) : (insert instruction 0 v).extractLsb' 24 8 =
      insert (instruction.extractLsb' 24 8) 0 (v.extractLsb' 24 2) :=
    extract_insert_low _ _ (by decide) (by decide)
  unfold OfKind at h ⊢
  cases kind with
  | b | bl =>
    rw [Arm64.withImmediate, hlow]
    exact (extract_insert_of_disjoint _ _ (by decide) (by decide)).trans h
  | bCond | compareBranch | literalLoad | testBranch =>
    rw [Arm64.withImmediate, extract_insert_of_disjoint _ _ (by decide) (by decide)]
    exact h
  | adr | adrp =>
    rw [Arm64.withImmediate, hsplit]
    exact ⟨(extract_insert_of_disjoint _ _ (by decide) (by decide)).trans h.1,
      (extract_insert_of_disjoint _ _ (by decide) (by decide)).trans h.2⟩
  | other => exact h

theorem withImmediate_outside (instruction : Word) (distance : Int) (kind : InstructionKind) :
    withImmediate instruction distance kind &&& ~~~immediateBits kind =
      instruction &&& ~~~immediateBits kind := by
  have hsplit (v : BitVec 21) :
      withImmediate.insertSplit instruction v &&& ~~~(mask 32 29 2 ||| mask 32 5 19) =
        instruction &&& ~~~(mask 32 29 2 ||| mask 32 5 19) := by
    rw [withImmediate.insertSplit, BitVec.not_or, BitVec.and_comm (~~~mask 32 29 2),
      ← BitVec.and_assoc, insert_and_not_mask, BitVec.and_assoc, BitVec.and_comm (~~~mask 32 5 19),
      ← BitVec.and_assoc, insert_and_not_mask, BitVec.and_assoc]
  cases kind with
  | adr | adrp => exact hsplit _
  | other => rfl
  | _ => exact insert_and_not_mask _ _

theorem add_ofInt_distance (source target : Address) :
    source + BitVec.ofInt 64 ((target.toNat : Int) - source.toNat) = target := by
  have hself (a : Address) : BitVec.ofInt 64 a.toNat = a := by
    rw [BitVec.ofInt_natCast, BitVec.ofNat_toNat, BitVec.setWidth_eq]
  nth_rewrite 1 [← hself source]
  rw [← BitVec.ofInt_add, add_sub_cancel, hself]

theorem architecturalTarget_withImmediate (instruction : Word) {kind : InstructionKind}
    (hkind : kind ≠ .other) {pc target : Address} (h : Reachable kind pc target) :
    architecturalTarget (withImmediate instruction (distance kind pc target) kind) pc kind =
      namedBy kind target := by
  have hsum : namedBy kind pc + BitVec.ofInt 64 (distance kind pc target) = namedBy kind target :=
    add_ofInt_distance _ _
  obtain ⟨hdvd, hmin, hmax⟩ := h
  generalize distance kind pc target = d at *
  have hscaled (n k : Nat) (hd : (2 ^ k : Int) ∣ d) (hlo : -(2 ^ n * 2 ^ k : Int) ≤ d)
      (hhi : d < (2 ^ n * 2 ^ k : Int)) :
      (BitVec.ofInt (n + 1) (d / 2 ^ k) ++ 0#k).signExtend 64 = BitVec.ofInt 64 d := by
    have hpos : (0 : Int) < 2 ^ k := by positivity
    have hmul : d / 2 ^ k * 2 ^ k = d := Int.ediv_mul_cancel hd
    rw [BitVec.signExtend, toInt_append_zero, BitVec.toInt_ofInt_eq_self (by omega), hmul]
    · rw [Nat.add_sub_cancel]
      exact Int.le_of_mul_le_mul_right (by rw [hmul, neg_mul]; exact hlo) hpos
    · rw [Nat.add_sub_cancel]
      exact Int.lt_of_mul_lt_mul_right (by rw [hmul]; exact hhi) hpos.le
  cases kind with
  | b | bl =>
    rw [← hsum, ← hscaled 25 2 hdvd hmin hmax]
    simp only [architecturalTarget, withImmediate, imm26, extract_insert _ _ (show 0 + 26 ≤ 32 by decide)]
    rfl
  | bCond | compareBranch | literalLoad =>
    rw [← hsum, ← hscaled 18 2 hdvd hmin hmax]
    simp only [architecturalTarget, withImmediate, imm19, extract_insert _ _ (show 5 + 19 ≤ 32 by decide)]
    rfl
  | testBranch =>
    rw [← hsum, ← hscaled 13 2 hdvd hmin hmax]
    simp only [architecturalTarget, withImmediate, imm14, extract_insert _ _ (show 5 + 14 ≤ 32 by decide)]
    rfl
  | adr =>
    rw [← hsum, architecturalTarget, withImmediate, immhiImmlo_insertSplit, BitVec.signExtend,
      BitVec.toInt_ofInt_eq_self (by decide) hmin hmax]
    rfl
  | adrp =>
    rw [← hsum, ← hscaled 20 12 hdvd hmin hmax, architecturalTarget, withImmediate,
      immhiImmlo_insertSplit]
    rfl
  | other => exact absurd rfl hkind

theorem encode_difference {n : Nat} (hn : n + 1 < 32) (target source : Address)
    (put : Word → Option Word) :
    ((signedDifference target source).bind fun offset =>
        (encodeSignedImmediate offset (n + 1)).bind put) =
      if 4 ∣ (target.toNat : Int) - source.toNat ∧
          -(2 ^ n * 4) ≤ (target.toNat : Int) - source.toNat ∧
            (target.toNat : Int) - source.toNat < 2 ^ n * 4 then
        put ((BitVec.ofInt (n + 1) (((target.toNat : Int) - source.toNat) / 4)).setWidth 32)
      else none := by
  have hbound : (2 : Int) ^ n ≤ 2 ^ 30 := pow_le_pow_right₀ (by norm_num) (by omega)
  rw [signedDifference_eq]
  generalize (target.toNat : Int) - source.toNat = d
  by_cases hfit : -2 ^ 63 ≤ d ∧ d < 2 ^ 63
  · rw [if_pos hfit, Option.bind_some, encodeSignedImmediate_eq hn]
    split_ifs <;> rfl
  · rw [if_neg hfit, if_neg (by omega), Option.bind_none]

theorem page_toNat (address : Address) :
    (page address).toNat = (address.extractLsb' 12 52).toNat * 4096 := by
  rw [page, BitVec.toNat_append, BitVec.toNat_ofNat, Nat.zero_mod, Nat.or_zero, Nat.shiftLeft_eq]

theorem dvd_page_distance (source target : Address) :
    (4096 : Int) ∣ (page target).toNat - (page source).toNat := by
  rw [page_toNat, page_toNat]
  exact ⟨(target.extractLsb' 12 52).toNat - (source.extractLsb' 12 52).toNat, by push_cast; ring⟩

theorem low21 (offset : Int) :
    BitVec.ofInt 32 offset &&& 0x1fffff = (BitVec.ofInt 21 offset).setWidth 32 := by
  have hmask : (0x1fffff : Word) = mask 32 0 21 := by decide
  rw [hmask, and_mask_zero, setWidth_ofInt (by decide)]

theorem encode_split {d bound : Int} (instruction : Word) {difference : Option Int}
    (hbound : 2 ^ 20 ≤ bound)
    (h : difference = if -bound ≤ d ∧ d < bound then some d else none) :
    (difference.bind fun offset =>
        if offset < -2 ^ 20 ∨ offset > 2 ^ 20 - 1 then none
        else some (withImmediate.insertSplit instruction (BitVec.ofInt 21 offset))) =
      if -2 ^ 20 ≤ d ∧ d < 2 ^ 20 then
        some (withImmediate.insertSplit instruction (BitVec.ofInt 21 d))
      else none := by
  rw [h]
  by_cases hfit : -bound ≤ d ∧ d < bound
  · rw [if_pos hfit, Option.bind_some]
    by_cases hin : -2 ^ 20 ≤ d ∧ d < 2 ^ 20
    · rw [if_neg (by omega), if_pos hin]
    · rw [if_pos (by omega), if_neg hin]
  · rw [if_neg hfit, if_neg (by omega), Option.bind_none]

theorem pcRelativeWord_eq {instruction : Word} {kind : InstructionKind}
    (h : OfKind instruction kind) (pc target : Address) :
    pcRelativeWord instruction pc target =
      if Reachable kind pc target then
        some (withImmediate instruction (distance kind pc target) kind)
      else none := by
  rw [pcRelativeWord, h.decodeKind]
  cases kind with
  | b | bl =>
    refine (encode_difference (by decide) target pc _).trans (if_congr Iff.rfl ?_ rfl)
    rw [withImmediate, BitField.insert, BitVec.shiftLeft_zero]
    rfl
  | bCond | compareBranch | literalLoad | testBranch =>
    exact encode_difference (by decide) target pc _
  | adr =>
    simp only [low21, insertSplit_eq]
    refine (encode_split instruction (by decide) (signedDifference_eq target pc)).trans ?_
    exact if_congr ⟨fun h => ⟨one_dvd _, h⟩, fun h => h.2⟩ rfl rfl
  | adrp =>
    obtain ⟨q, hq⟩ := dvd_page_distance pc target
    have hd : distance .adrp pc target = 4096 * q := hq
    have hmap : (signedDifference (page target) (page pc)).map (·.tdiv 4096) =
        if -2 ^ 51 ≤ q ∧ q < 2 ^ 51 then some q else none := by
      rw [signedDifference_eq, hq]
      by_cases hin : -2 ^ 51 ≤ q ∧ q < 2 ^ 51
      · rw [if_pos hin, if_pos (by omega), Option.map_some, Int.mul_tdiv_cancel_left _ (by decide)]
      · rw [if_neg hin, if_neg (by omega), Option.map_none]
    simp only [low21, insertSplit_eq, page_eq, if_true]
    refine (encode_split instruction (by decide) hmap).trans (if_congr ?_ ?_ rfl)
    · simp only [Reachable, hd, alignment, reach]
      omega
    · rw [withImmediate, hd, Int.mul_ediv_cancel_left _ (by decide)]
  | other => exact h.elim

/-- `EncodePcRelative` in one equation: the output is written only on success. -/
theorem encodePcRelative_eq {instruction : Word} {kind : InstructionKind}
    (h : OfKind instruction kind) (pc target : Address) (old : Word) :
    encodePcRelative instruction pc target (some old) =
      if Reachable kind pc target then
        (true, some (withImmediate instruction (distance kind pc target) kind))
      else (false, some old) := by
  rw [encodePcRelative, pcRelativeWord_eq h]
  by_cases hr : Reachable kind pc target <;> simp only [hr, if_true, if_false]

end Encode

/-- The codec is exact for the PC-relative classes: the decoder gives the architectural target,
the encoder succeeds when the distance fits, and then it changes the immediate only. -/
theorem pcRelative_codec (instruction : Word) (kind : InstructionKind)
    (hkind : OfKind instruction kind) (pc target : Address) (old : Word) :
    decodePcRelativeTarget instruction pc = architecturalTarget instruction pc kind ∧
      ((encodePcRelative instruction pc target (some old)).1 = true ↔ Reachable kind pc target) ∧
      (∀ encoded, encodePcRelative instruction pc target (some old) = (true, encoded) →
        ∃ word, encoded = some word ∧ OfKind word kind ∧ decodeKind word = decodeKind instruction ∧
          decodePcRelativeTarget word pc = namedBy kind target ∧
          word &&& ~~~immediateBits kind = instruction &&& ~~~immediateBits kind) ∧
      (∀ encoded, encodePcRelative instruction pc target (some old) = (false, encoded) →
        encoded = some old) := by
  refine ⟨decodePcRelativeTarget_eq hkind pc, ?_⟩
  rw [encodePcRelative_eq hkind]
  by_cases hr : Reachable kind pc target
  · have hother : kind ≠ .other := by
      rintro rfl
      exact hkind
    have hword := hkind.withImmediate (distance kind pc target)
    simp only [hr, if_true, Prod.mk.injEq, true_and, Bool.true_eq_false, false_and,
      false_implies, implies_true, and_true, forall_eq']
    refine ⟨_, rfl, hword, hword.decodeKind.trans hkind.decodeKind.symm, ?_,
      withImmediate_outside _ _ _⟩
    rw [decodePcRelativeTarget_eq hword, architecturalTarget_withImmediate _ hother hr]
  · simp [hr]

theorem pcRelative_codec_branch :
    OfKind 0x14000000 .b ∧
      (encodePcRelative 0x14000000 0x1000 0xff8 (some 0)).1 = true :=
  ⟨by decide, ((pcRelative_codec 0x14000000 .b (by decide) 0x1000 0xff8 0).2.1).mpr (by decide)⟩

end HookSelf.InlineHook.Arm64
