import Mathlib

/-! Rounding to a power of two with a mask. -/

namespace HookSelf.Alignment

variable {w k : ℕ} {value mask : BitVec w}

theorem toNat_and_mask (hmask : mask.toNat = 2 ^ k - 1) :
    (value &&& mask).toNat = value.toNat % 2 ^ k := by
  rw [BitVec.toNat_and, hmask, Nat.and_two_pow_sub_one_eq_mod]

theorem toNat_and_not_mask (hmask : mask.toNat = 2 ^ k - 1) :
    (value &&& ~~~mask).toNat = value.toNat - value.toNat % 2 ^ k := by
  have hdisjoint : (value &&& mask) &&& (value &&& ~~~mask) = 0 := by
    ext i hi
    simp only [BitVec.getElem_and, BitVec.getElem_not]
    cases value[i] <;> cases mask[i] <;> simp
  have hsplit : (value &&& mask) + (value &&& ~~~mask) = value := by
    rw [BitVec.add_eq_or_of_and_eq_zero _ _ hdisjoint]
    ext i hi
    simp only [BitVec.getElem_or, BitVec.getElem_and, BitVec.getElem_not]
    cases value[i] <;> cases mask[i] <;> rfl
  have hsum := congrArg BitVec.toNat hsplit
  rw [BitVec.toNat_add_of_and_eq_zero hdisjoint, toNat_and_mask hmask] at hsum
  omega

theorem lt_sub_mod_add {p : ℕ} (hp : 0 < p) (n : ℕ) : n < n - n % p + p := by
  have hlt := Nat.mod_lt n hp
  have hle := Nat.mod_le n p
  omega

end HookSelf.Alignment
