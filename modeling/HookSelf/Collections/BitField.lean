import Mathlib

/-! Bit fields of a word: reading one, replacing one, and two's complement fields. -/

namespace HookSelf.BitField

variable {w n lo len lo' len' i : Nat}

def mask (w lo len : Nat) : BitVec w := (BitVec.allOnes len).setWidth w <<< lo

def insert (word : BitVec w) (lo : Nat) (v : BitVec n) : BitVec w :=
  (word &&& ~~~mask w lo n) ||| (v.setWidth w <<< lo)

@[simp] theorem getLsbD_mask :
    (mask w lo len).getLsbD i = decide (i < w ∧ lo ≤ i ∧ i < lo + len) := by
  rw [Bool.eq_iff_iff]
  simp only [mask, BitVec.getLsbD_shiftLeft, BitVec.getLsbD_setWidth, BitVec.getLsbD_allOnes,
    Bool.and_eq_true, Bool.not_eq_true', decide_eq_true_eq, decide_eq_false_iff_not]
  omega

theorem getLsbD_insert (word : BitVec w) (lo : Nat) (v : BitVec n) (i : Nat) (hi : i < w) :
    (insert word lo v).getLsbD i =
      if lo ≤ i ∧ i < lo + n then v.getLsbD (i - lo) else word.getLsbD i := by
  simp only [insert, BitVec.getLsbD_or, BitVec.getLsbD_and, BitVec.getLsbD_not, getLsbD_mask,
    BitVec.getLsbD_shiftLeft, BitVec.getLsbD_setWidth, hi]
  by_cases hlo : lo ≤ i
  · by_cases hend : i < lo + n
    · have hpos : i - lo < w := by omega
      simp [hlo, hend, hpos]
    · have hout : v.getLsbD (i - lo) = false := BitVec.getLsbD_of_ge _ _ (by omega)
      simp [hend, hout]
  · have hlt : i < lo := by omega
    simp [hlo, hlt]

theorem extract_insert (word : BitVec w) (v : BitVec n) (hfit : lo + n ≤ w) :
    (insert word lo v).extractLsb' lo n = v := by
  apply BitVec.eq_of_getLsbD_eq
  intro i hi
  rw [BitVec.getLsbD_extractLsb', getLsbD_insert _ _ _ _ (by omega)]
  simp [hi]

theorem extract_insert_of_disjoint (word : BitVec w) (v : BitVec n) (hfit : lo' + len' ≤ w)
    (hdisj : lo' + len' ≤ lo ∨ lo + n ≤ lo') :
    (insert word lo v).extractLsb' lo' len' = word.extractLsb' lo' len' := by
  apply BitVec.eq_of_getLsbD_eq
  intro i hi
  rw [BitVec.getLsbD_extractLsb', getLsbD_insert _ _ _ _ (by omega), if_neg (by omega),
    BitVec.getLsbD_extractLsb']

theorem insert_and_not_mask (word : BitVec w) (v : BitVec n) :
    insert word lo v &&& ~~~mask w lo n = word &&& ~~~mask w lo n := by
  apply BitVec.eq_of_getLsbD_eq
  intro i hi
  simp only [BitVec.getLsbD_and, getLsbD_insert _ _ _ _ hi, BitVec.getLsbD_not, getLsbD_mask, hi]
  split_ifs with hin <;> simp [hin]

theorem extract_insert_low (word : BitVec w) (v : BitVec n) (hfit : lo + len ≤ w) (hlo : lo ≤ n) :
    (insert word 0 v).extractLsb' lo len =
      insert (word.extractLsb' lo len) 0 (v.extractLsb' lo (n - lo)) := by
  apply BitVec.eq_of_getLsbD_eq
  intro i hi
  rw [BitVec.getLsbD_extractLsb', getLsbD_insert _ _ _ _ (by omega), getLsbD_insert _ _ _ _ hi,
    BitVec.getLsbD_extractLsb', BitVec.getLsbD_extractLsb']
  by_cases hin : lo + i < n
  · simp [hi, hin, show i < n - lo by omega]
  · simp [hi, hin, show ¬ i < n - lo by omega]

theorem extract_insert_inside (word : BitVec w) (v : BitVec n) (hfit : lo' + len' ≤ w)
    (hlo : lo' ≤ lo) :
    (insert word lo v).extractLsb' lo' len' =
      insert (word.extractLsb' lo' len') (lo - lo') v := by
  apply BitVec.eq_of_getLsbD_eq
  intro i hi
  rw [BitVec.getLsbD_extractLsb', getLsbD_insert _ _ _ _ (by omega), getLsbD_insert _ _ _ _ hi,
    BitVec.getLsbD_extractLsb']
  by_cases hin : lo ≤ lo' + i ∧ lo' + i < lo + n
  · rw [if_pos hin, if_pos (by omega), show lo' + i - lo = i - (lo - lo') by omega]
    simp [hi]
  · rw [if_neg hin, if_neg (by omega)]

theorem and_shiftLeft_eq_iff (word : BitVec w) (m v : BitVec n) (lo : Nat) (hfit : lo + n ≤ w) :
    word &&& (m.setWidth w <<< lo) = v.setWidth w <<< lo ↔ word.extractLsb' lo n &&& m = v := by
  constructor
  · intro h
    apply BitVec.eq_of_getLsbD_eq
    intro i hi
    have hbit := congrArg (BitVec.getLsbD · (lo + i)) h
    simpa [hi, show lo + i < w by omega, show i < w by omega, show ¬ lo + i < lo by omega]
      using hbit
  · rintro rfl
    apply BitVec.eq_of_getLsbD_eq
    intro i hi
    by_cases hlo : i < lo
    · simp [hlo]
    · by_cases hn : i - lo < n
      · simp [hlo, hi, hn, show lo + (i - lo) = i by omega]
      · simp [hlo, hn, BitVec.getLsbD_of_ge m (i - lo) (by omega)]

theorem one_shiftLeft_sub_one (hn : n < w) : (1#w <<< n) - 1#w = mask w 0 n := by
  apply BitVec.eq_of_toNat_eq
  have hpow : 2 ^ n < 2 ^ w := Nat.pow_lt_pow_right Nat.one_lt_two hn
  have hpos : 0 < 2 ^ n := Nat.two_pow_pos n
  have hone : 1 % 2 ^ w = 1 := Nat.mod_eq_of_lt (by omega)
  have hle : 1#w ≤ 1#w <<< n := by
    rw [BitVec.le_def]
    simp [hone, Nat.shiftLeft_eq, Nat.mod_eq_of_lt hpow, Nat.one_le_two_pow]
  rw [BitVec.toNat_sub_of_le hle]
  simp [mask, hone, Nat.shiftLeft_eq, Nat.mod_eq_of_lt hpow,
    Nat.mod_eq_of_lt (show 2 ^ n - 1 < 2 ^ w by omega)]

theorem and_mask_zero (word : BitVec w) : word &&& mask w 0 n = (word.setWidth n).setWidth w := by
  apply BitVec.eq_of_getLsbD_eq
  intro i hi
  rw [BitVec.getLsbD_and, getLsbD_mask]
  simp [hi, Bool.and_comm]

theorem shiftRight_and_mask (word : BitVec w) (lo n : Nat) :
    (word >>> lo) &&& mask w 0 n = (word.extractLsb' lo n).setWidth w := by
  apply BitVec.eq_of_getLsbD_eq
  intro i hi
  rw [BitVec.getLsbD_and, getLsbD_mask]
  simp [hi, Bool.and_comm]

theorem setWidth_setWidth_of_le (v : BitVec n) (W : Nat) (h : n ≤ w) :
    (v.setWidth w).setWidth W = v.setWidth W := by
  apply BitVec.eq_of_getLsbD_eq
  intro i hi
  by_cases hn : i < n
  · simp [hi, show i < w by omega]
  · simp [BitVec.getLsbD_of_ge v i (by omega)]

theorem extract_setWidth (v : BitVec n) (lo len : Nat) (h : n ≤ w) :
    (v.setWidth w).extractLsb' lo len = v.extractLsb' lo len := by
  apply BitVec.eq_of_getLsbD_eq
  intro i hi
  by_cases hin : lo + i < n
  · simp [hi, show lo + i < w by omega]
  · simp [hi, BitVec.getLsbD_of_ge v (lo + i) (by omega)]

theorem setWidth_shiftLeft (v : BitVec n) (k : Nat) :
    v.setWidth w <<< k = (v ++ 0#k).setWidth w := by
  apply BitVec.eq_of_getLsbD_eq
  intro i hi
  by_cases hk : i < k
  · simp [BitVec.getLsbD_append, hk]
  · simp [BitVec.getLsbD_append, hk, hi]

theorem setWidth_ofInt (h : n ≤ w) (z : Int) :
    (BitVec.ofInt w z).setWidth n = BitVec.ofInt n z := by
  have hdvd : ((2 ^ n : Nat) : Int) ∣ (2 ^ w : Nat) := Int.natCast_dvd_natCast.mpr (Nat.pow_dvd_pow 2 h)
  have hmod (k : Nat) : 0 ≤ z % ((2 ^ k : Nat) : Int) :=
    Int.emod_nonneg _ (Int.natCast_ne_zero.mpr (Nat.two_pow_pos k).ne')
  apply BitVec.eq_of_toNat_eq
  rw [BitVec.toNat_setWidth, BitVec.toNat_ofInt, BitVec.toNat_ofInt]
  apply Int.ofNat_inj.mp
  rw [Int.natCast_emod, Int.toNat_of_nonneg (hmod w), Int.toNat_of_nonneg (hmod n),
    Int.emod_emod_of_dvd _ hdvd]

theorem toInt_append_zero (v : BitVec (n + 1)) (k : Nat) :
    (v ++ 0#k).toInt = v.toInt * 2 ^ k := by
  simp [BitVec.toInt_append, Int.mul_comm]

end HookSelf.BitField
