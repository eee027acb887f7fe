import Mathlib

namespace HookSelf.Flags

variable {w : Nat} {s a d k : BitVec w}

theorem set_and_self (hd : d ≠ 0) : (s ||| d) &&& d ≠ 0 := by
  have h : (s ||| d) &&& d = d := by
    ext i hi
    simp only [BitVec.getElem_and, BitVec.getElem_or]
    grind
  rwa [h]

theorem clear_within (hs : s &&& ~~~k = 0) : (s &&& ~~~a) &&& ~~~k = 0 := by
  ext i hi
  have hbit := congrArg (fun x => x[i]) hs
  simp only [BitVec.getElem_and, BitVec.getElem_not] at hbit ⊢
  grind

theorem set_within (hs : s &&& ~~~k = 0) (hd : d &&& ~~~k = 0) : (s ||| d) &&& ~~~k = 0 := by
  ext i hi
  have hbit := congrArg (fun x => x[i]) hs
  have hbit' := congrArg (fun x => x[i]) hd
  simp only [BitVec.getElem_and, BitVec.getElem_or, BitVec.getElem_not]
    at hbit hbit' ⊢
  grind

theorem or_of_bit {i : Nat} (h : s &&& BitVec.twoPow w i ≠ 0) : s ||| BitVec.twoPow w i = s := by
  have hi : s.getLsbD i = true := by
    by_contra hclear
    refine h (BitVec.eq_of_getLsbD_eq fun j hj => ?_)
    simp only [BitVec.getLsbD_and, BitVec.getLsbD_twoPow]
    by_cases hij : i = j <;> simp_all
  refine BitVec.eq_of_getLsbD_eq fun j hj => ?_
  simp only [BitVec.getLsbD_or, BitVec.getLsbD_twoPow]
  by_cases hij : i = j <;> simp_all

end HookSelf.Flags
