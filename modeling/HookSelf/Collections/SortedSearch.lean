import Mathlib

/-! Lists kept strictly increasing by a key: insertion before the first key that is not smaller,
and the binary search for that position. -/

namespace HookSelf.SortedSearch

variable {α κ : Type} [LinearOrder κ] {key : α → κ} {l : List α} {x y : α} {k : κ}

def Increasing (key : α → κ) (l : List α) : Prop := l.Pairwise fun a b => key a < key b

section Insert

def insertionPoint (key : α → κ) (l : List α) (k : κ) : Nat :=
  (l.takeWhile fun a => key a < k).length

theorem insertionPoint_cons (a : α) (l : List α) (k : κ) : insertionPoint key (a :: l) k =
    if key a < k then insertionPoint key l k + 1 else 0 := by
  by_cases h : key a < k <;> simp [insertionPoint, h]

theorem insertIdx_insertionPoint_cons (a : α) (l : List α) (k : κ) (x : α) :
    (a :: l).insertIdx (insertionPoint key (a :: l) k) x =
      if key a < k then a :: l.insertIdx (insertionPoint key l k) x else x :: a :: l := by
  rw [insertionPoint_cons]
  split_ifs <;> rfl

theorem mem_insertIdx_insertionPoint :
    y ∈ l.insertIdx (insertionPoint key l k) x ↔ y = x ∨ y ∈ l := by
  induction l with
  | nil => simp [insertionPoint]
  | cons a l ih =>
    rw [insertIdx_insertionPoint_cons]
    split_ifs
    · rw [List.mem_cons, ih, List.mem_cons]
      tauto
    · simp

theorem length_insertIdx_insertionPoint :
    (l.insertIdx (insertionPoint key l k) x).length = l.length + 1 := by
  induction l with
  | nil => simp [insertionPoint]
  | cons a l ih =>
    rw [insertIdx_insertionPoint_cons]
    split_ifs
    · simp [ih]
    · simp

theorem Increasing.insertIdx (h : Increasing key l) (hfresh : ∀ y ∈ l, key y ≠ key x) :
    Increasing key (l.insertIdx (insertionPoint key l (key x)) x) := by
  induction l with
  | nil => simp [insertionPoint, Increasing]
  | cons a l ih =>
    obtain ⟨ha, hl⟩ := List.pairwise_cons.mp h
    rw [insertIdx_insertionPoint_cons]
    split_ifs with hlt
    · refine List.pairwise_cons.mpr ⟨fun y hy => ?_, ih hl fun y hy => hfresh y (.tail a hy)⟩
      rcases mem_insertIdx_insertionPoint.mp hy with rfl | hy
      · exact hlt
      · exact ha y hy
    · have hxa : key x < key a := lt_of_le_of_ne (not_lt.mp hlt) (hfresh a List.mem_cons_self).symm
      refine List.pairwise_cons.mpr ⟨fun y hy => ?_, h⟩
      rcases List.mem_cons.mp hy with rfl | hy
      · exact hxa
      · exact hxa.trans (ha y hy)

theorem Increasing.exists_at_insertionPoint (h : Increasing key l) :
    (∃ y, l[insertionPoint key l k]? = some y ∧ key y = k) ↔ ∃ y ∈ l, key y = k := by
  refine ⟨fun ⟨y, hy, hk⟩ => ⟨y, List.mem_of_getElem? hy, hk⟩, ?_⟩
  rintro ⟨y, hy, rfl⟩
  induction l with
  | nil => exact absurd hy List.not_mem_nil
  | cons a l ih =>
    obtain ⟨ha, hl⟩ := List.pairwise_cons.mp h
    rw [insertionPoint_cons]
    rcases List.mem_cons.mp hy with rfl | hy
    · exact ⟨y, by simp, rfl⟩
    · rw [if_pos (ha y hy)]
      simpa using ih hl hy

end Insert

section Search

def lowerBound (key : α → κ) (l : List α) (k : κ) : Nat → Nat → Nat → Nat
  | 0, first, _ => first
  | fuel + 1, first, last =>
    if first < last then
      let middle := first + (last - first) / 2
      match l[middle]? with
      | none => first
      | some a =>
        if key a < k then lowerBound key l k fuel (middle + 1) last
        else lowerBound key l k fuel first middle
    else first

structure Brackets (key : α → κ) (l : List α) (k : κ) (first last : Nat) : Prop where
  le : first ≤ last
  le_length : last ≤ l.length
  below : ∀ i a, l[i]? = some a → i < first → key a < k
  above : ∀ i a, l[i]? = some a → last ≤ i → k ≤ key a

theorem Increasing.getElem?_le (h : Increasing key l) {i j : Nat} (hij : i ≤ j)
    (hi : l[i]? = some x) (hj : l[j]? = some y) : key x ≤ key y := by
  rcases hij.lt_or_eq with hlt | rfl
  · obtain ⟨hi', rfl⟩ := List.getElem?_eq_some_iff.mp hi
    obtain ⟨hj', rfl⟩ := List.getElem?_eq_some_iff.mp hj
    exact (List.pairwise_iff_getElem.mp h i j hi' hj' hlt).le
  · rw [hi] at hj
    rw [Option.some.inj hj]

theorem Increasing.lowerBound (h : Increasing key l) {fuel first last : Nat}
    (hb : Brackets key l k first last) (hfuel : last - first ≤ fuel) :
    Brackets key l k (lowerBound key l k fuel first last)
      (lowerBound key l k fuel first last) := by
  induction fuel generalizing first last with
  | zero =>
    obtain rfl : first = last := by have := hb.le; omega
    exact hb
  | succ fuel ih =>
    by_cases hlt : first < last
    · have hmid : first + (last - first) / 2 < l.length := by have := hb.le_length; omega
      simp only [SortedSearch.lowerBound, if_pos hlt, List.getElem?_eq_getElem hmid]
      have hget := List.getElem?_eq_getElem hmid
      split_ifs with hk
      · refine ih ⟨by omega, hb.le_length, fun i a hi hlt' => ?_, hb.above⟩ (by omega)
        exact lt_of_le_of_lt (h.getElem?_le (by omega) hi hget) hk
      · refine ih ⟨by omega, by omega, hb.below, fun i a hi hle => ?_⟩ (by omega)
        exact (not_lt.mp hk).trans (h.getElem?_le hle hget hi)
    · obtain rfl : first = last := by have := hb.le; omega
      simpa [SortedSearch.lowerBound] using hb

theorem Increasing.exists_at_lowerBound (h : Increasing key l) :
    (∃ y, l[SortedSearch.lowerBound key l k l.length 0 l.length]? = some y ∧ key y = k) ↔
      ∃ y ∈ l, key y = k := by
  refine ⟨fun ⟨y, hy, hk⟩ => ⟨y, List.mem_of_getElem? hy, hk⟩, ?_⟩
  rintro ⟨y, hy, hk⟩
  have hstart : Brackets key l k 0 l.length :=
    ⟨Nat.zero_le _, le_rfl, fun i a _ hi => absurd hi (Nat.not_lt_zero i), fun i a hi hle => by
      obtain ⟨hlt, -⟩ := List.getElem?_eq_some_iff.mp hi
      omega⟩
  have hend := h.lowerBound hstart (Nat.sub_zero l.length).le
  generalize SortedSearch.lowerBound key l k l.length 0 l.length = r at hend ⊢
  obtain ⟨i, hi⟩ := List.getElem?_of_mem hy
  have hri : r ≤ i := not_lt.mp fun hlt => absurd hk (hend.below i y hi hlt).ne
  obtain ⟨hlt, -⟩ := List.getElem?_eq_some_iff.mp hi
  have hget := List.getElem?_eq_getElem (show r < l.length by omega)
  exact ⟨_, hget, le_antisymm (hk ▸ h.getElem?_le hri hget hi) (hend.above r _ hget le_rfl)⟩

end Search

end HookSelf.SortedSearch
