import Mathlib

/-! The parts of a range of numbers that an ascending list of points leaves. -/

namespace HookSelf.Gaps

def gaps (last : Nat) : Nat → List Nat → List (Nat × Nat)
  | next, [] => if next ≤ last then [(next, last)] else []
  | next, point :: points =>
    if next < point then (next, point - 1) :: gaps last (point + 1) points
    else gaps last (point + 1) points

structure Ascending (last next : Nat) (points : List Nat) : Prop where
  sorted : points.Pairwise (· < ·)
  low : ∀ point ∈ points, next ≤ point
  high : ∀ point ∈ points, point ≤ last

variable {last next point : Nat} {points : List Nat}

theorem Ascending.tail (h : Ascending last next (point :: points)) :
    Ascending last (point + 1) points :=
  ⟨h.sorted.tail, fun _ hmem => List.rel_of_pairwise_cons h.sorted hmem,
    fun _ hmem => h.high _ (List.mem_cons_of_mem _ hmem)⟩

theorem mem_gaps_nil {gap : Nat × Nat} :
    gap ∈ gaps last next [] ↔ next ≤ last ∧ gap = (next, last) := by
  rw [gaps]
  split_ifs with hle <;> simp [hle]

theorem mem_gaps_cons {gap : Nat × Nat} : gap ∈ gaps last next (point :: points) ↔
    next < point ∧ gap = (next, point - 1) ∨ gap ∈ gaps last (point + 1) points := by
  rw [gaps]
  split_ifs with hlt <;> simp [hlt]

theorem gaps_bounds (h : Ascending last next points) {gap : Nat × Nat}
    (hgap : gap ∈ gaps last next points) : next ≤ gap.1 ∧ gap.1 ≤ gap.2 ∧ gap.2 ≤ last := by
  induction points generalizing next with
  | nil =>
    obtain ⟨hle, rfl⟩ := mem_gaps_nil.mp hgap
    exact ⟨Nat.le_refl _, hle, Nat.le_refl _⟩
  | cons point points ih =>
    have hlow := h.low point List.mem_cons_self
    have hhigh := h.high point List.mem_cons_self
    rcases mem_gaps_cons.mp hgap with ⟨hlt, rfl⟩ | hmem
    · exact ⟨Nat.le_refl _, Nat.le_sub_one_of_lt hlt, by omega⟩
    · obtain ⟨hfirst, hrest⟩ := ih h.tail hmem
      exact ⟨by omega, hrest⟩

theorem mem_gaps (h : Ascending last next points) (number : Nat) :
    (∃ gap ∈ gaps last next points, gap.1 ≤ number ∧ number ≤ gap.2) ↔
      next ≤ number ∧ number ≤ last ∧ number ∉ points := by
  induction points generalizing next with
  | nil =>
    rw [gaps]
    split_ifs with hle
    · simp
    · simp
      omega
  | cons point points ih =>
    have hlow := h.low point List.mem_cons_self
    have hbelow : number ∈ points → point < number := List.rel_of_pairwise_cons h.sorted
    have hhigh := h.high point List.mem_cons_self
    rw [gaps, List.mem_cons]
    split_ifs with hlt
    · rw [List.exists_mem_cons_iff, ih h.tail]
      constructor
      · rintro (⟨hfirst, hlast⟩ | ⟨hfirst, hlast, hmem⟩)
        · have hless : number < point := by omega
          exact ⟨hfirst, by omega, not_or.mpr ⟨by omega, fun hmem => by have := hbelow hmem; omega⟩⟩
        · exact ⟨by omega, hlast, not_or.mpr ⟨by omega, hmem⟩⟩
      · rintro ⟨hfirst, hlast, hmem⟩
        rcases Nat.lt_trichotomy number point with hless | rfl | hmore
        · exact .inl ⟨hfirst, Nat.le_sub_one_of_lt hless⟩
        · exact absurd (.inl rfl) hmem
        · exact .inr ⟨hmore, hlast, fun hother => hmem (.inr hother)⟩
    · obtain rfl : next = point := by omega
      rw [ih h.tail]
      constructor
      · rintro ⟨hfirst, hlast, hmem⟩
        exact ⟨by omega, hlast, not_or.mpr ⟨by omega, hmem⟩⟩
      · rintro ⟨hfirst, hlast, hmem⟩
        have hne : number ≠ next := fun heq => hmem (.inl heq)
        exact ⟨by omega, hlast, fun hother => hmem (.inr hother)⟩

theorem gaps_pairwise (h : Ascending last next points) :
    (gaps last next points).Pairwise fun gap gap' => gap.2 + 1 < gap'.1 := by
  induction points generalizing next with
  | nil =>
    rw [gaps]
    split_ifs
    · exact List.pairwise_singleton _ _
    · exact List.Pairwise.nil
  | cons point points ih =>
    rw [gaps]
    split_ifs with hlt
    · refine List.pairwise_cons.mpr ⟨fun gap hgap => ?_, ih h.tail⟩
      have := (gaps_bounds h.tail hgap).1
      show point - 1 + 1 < gap.1
      omega
    · exact ih h.tail

/-- A gap ends at a point or at an end of the range. -/
theorem gaps_maximal (h : Ascending last next points) {gap : Nat × Nat}
    (hgap : gap ∈ gaps last next points) :
    (gap.1 = next ∨ ∃ point ∈ points, gap.1 = point + 1) ∧
      (gap.2 = last ∨ gap.2 + 1 ∈ points) := by
  induction points generalizing next with
  | nil =>
    obtain ⟨-, rfl⟩ := mem_gaps_nil.mp hgap
    exact ⟨.inl rfl, .inl rfl⟩
  | cons point points ih =>
    rcases mem_gaps_cons.mp hgap with ⟨hlt, rfl⟩ | hmem
    · refine ⟨.inl rfl, .inr ?_⟩
      show point - 1 + 1 ∈ _
      rw [Nat.sub_add_cancel (by omega)]
      exact List.mem_cons_self
    · obtain ⟨hfirst, hlast⟩ := ih h.tail hmem
      refine ⟨.inr ?_, hlast.imp_right (List.mem_cons_of_mem _)⟩
      rcases hfirst with heq | ⟨other, hother, heq⟩
      · exact ⟨point, List.mem_cons_self, heq⟩
      · exact ⟨other, List.mem_cons_of_mem _ hother, heq⟩

end HookSelf.Gaps
