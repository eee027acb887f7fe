import Mathlib

/-! Handles that pack a slot index and a generation into one 64-bit word: sixteen bits for the index,
counted from one, and as much of the generation as fits above them. -/

namespace HookSelf.Handles

def handle (index : Nat) (generation : BitVec 64) : BitVec 64 :=
  (generation <<< 16) ||| BitVec.ofNat 64 (index + 1)

def handleIndex (slots : Nat) (handle : BitVec 64) : Nat :=
  let encoded := (handle &&& 0xffff).toNat
  if encoded = 0 then slots else encoded - 1

def generationLimit : Nat := 2 ^ 48

variable {index other : Nat} {generation later : BitVec 64}

theorem handle_toNat (hindex : index + 1 < 2 ^ 16) :
    (handle index generation).toNat =
      generation.toNat % generationLimit * 2 ^ 16 + (index + 1) := by
  have hshift : generation.toNat <<< 16 % 2 ^ 64 = generation.toNat % 2 ^ 48 * 2 ^ 16 := by
    rw [Nat.shiftLeft_eq]
    omega
  have hsmall : (index + 1) % 2 ^ 64 = index + 1 := Nat.mod_eq_of_lt (by omega)
  rw [handle, BitVec.toNat_or, BitVec.toNat_shiftLeft, BitVec.toNat_ofNat, hshift, hsmall,
    generationLimit]
  generalize generation.toNat % 2 ^ 48 = low
  rw [← Nat.shiftLeft_eq, ← Nat.shiftLeft_add_eq_or_of_lt hindex]

theorem handleIndex_handle {slots : Nat} (hindex : index + 1 < 2 ^ 16) :
    handleIndex slots (handle index generation) = index := by
  have hlow : (handle index generation &&& 0xffff).toNat = index + 1 := by
    rw [BitVec.toNat_and, handle_toNat hindex]
    have hmask : (0xffff : BitVec 64).toNat = 2 ^ 16 - 1 := rfl
    rw [hmask, Nat.and_two_pow_sub_one_eq_mod]
    omega
  rw [handleIndex, hlow]
  exact if_neg (Nat.succ_ne_zero index)

theorem handle_ne_zero (hindex : index + 1 < 2 ^ 16) : handle index generation ≠ 0 := by
  intro h
  have hnat := congrArg BitVec.toNat h
  rw [handle_toNat hindex] at hnat
  exact Nat.succ_ne_zero _ hnat

theorem handle_generation_inj (hindex : index + 1 < 2 ^ 16) (hother : other + 1 < 2 ^ 16)
    (hgeneration : generation.toNat < generationLimit) (hlater : later.toNat < generationLimit)
    (h : handle index generation = handle other later) : generation = later := by
  have hnat := congrArg BitVec.toNat h
  rw [handle_toNat hindex, handle_toNat hother, Nat.mod_eq_of_lt hgeneration,
    Nat.mod_eq_of_lt hlater] at hnat
  exact BitVec.eq_of_toNat_eq (by omega)

end HookSelf.Handles
