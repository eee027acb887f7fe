import HookSelf.Collections.Gaps
import HookSelf.CloseRange.Replay

namespace HookSelf.CloseRange

open Gaps

section Collect

theorem mem_insertSortedUnique {fd other : Int} {fds : List Int} :
    other ∈ insertSortedUnique fd fds ↔ other = fd ∨ other ∈ fds := by
  induction fds with
  | nil => simp [insertSortedUnique]
  | cons current rest ih =>
    rw [insertSortedUnique]
    split_ifs with hlt heq
    · rw [List.mem_cons, ih, List.mem_cons, or_left_comm]
    · subst heq
      simp
    · rw [List.mem_cons]

theorem insertSortedUnique_sorted (fd : Int) {fds : List Int} (h : fds.Pairwise (· < ·)) :
    (insertSortedUnique fd fds).Pairwise (· < ·) := by
  induction fds with
  | nil => exact List.pairwise_singleton _ _
  | cons current rest ih =>
    obtain ⟨hcurrent, hrest⟩ := List.pairwise_cons.mp h
    rw [insertSortedUnique]
    split_ifs with hlt heq
    · refine List.pairwise_cons.mpr ⟨fun other hother => ?_, ih hrest⟩
      rcases mem_insertSortedUnique.mp hother with rfl | hmem
      · exact hlt
      · exact hcurrent other hmem
    · exact h
    · have hless : fd < current := by omega
      refine List.pairwise_cons.mpr ⟨fun other hother => ?_, h⟩
      rcases List.mem_cons.mp hother with rfl | hmem
      · exact hless
      · exact hless.trans (hcurrent other hmem)

theorem insertSortedUnique_length (fd : Int) (fds : List Int) :
    (insertSortedUnique fd fds).length ≤ fds.length + 1 := by
  induction fds with
  | nil => exact le_rfl
  | cons current rest ih =>
    rw [insertSortedUnique]
    split_ifs
    · exact Nat.succ_le_succ ih
    · exact Nat.le_succ _
    · exact le_rfl

theorem collectProtected_some {first last : Nat} {fds collected : List Int}
    (hsorted : collected.Pairwise (· < ·))
    (hlength : collected.length + fds.length ≤ kCloseRangeReplayProtectedCapacity) :
    ∃ result, collectProtected first last fds collected = some result ∧
      result.Pairwise (· < ·) ∧ result.length ≤ kCloseRangeReplayProtectedCapacity ∧
      ∀ fd, fd ∈ result ↔ fd ∈ collected ∨ fd ∈ fds ∧ FdInRange fd first last := by
  induction fds generalizing collected with
  | nil => exact ⟨collected, rfl, hsorted, hlength, fun fd => by simp⟩
  | cons fd rest ih =>
    rw [List.length_cons] at hlength
    rw [collectProtected]
    by_cases hrange : FdInRange fd first last
    · rw [if_neg (not_not.mpr hrange), if_neg (by omega)]
      have hone := insertSortedUnique_length fd collected
      obtain ⟨result, hresult, hsorted', hlength', hmem⟩ :=
        ih (insertSortedUnique_sorted fd hsorted) (by omega)
      refine ⟨result, hresult, hsorted', hlength', fun other => ?_⟩
      rw [hmem, mem_insertSortedUnique, List.mem_cons, or_and_right, or_assoc, or_left_comm]
      have hself : other = fd ↔ other = fd ∧ FdInRange other first last :=
        ⟨fun heq => ⟨heq, heq ▸ hrange⟩, And.left⟩
      rw [← hself]
    · rw [if_pos hrange]
      obtain ⟨result, hresult, hsorted', hlength', hmem⟩ := ih hsorted (by omega)
      refine ⟨result, hresult, hsorted', hlength', fun other => ?_⟩
      rw [hmem, List.mem_cons, or_and_right]
      have hnever : ¬(other = fd ∧ FdInRange other first last) :=
        fun ⟨heq, hother⟩ => hrange (heq ▸ hother)
      rw [or_iff_right hnever]

end Collect

section Search

variable {last : Nat}

/-- The descriptors as numbers. -/
abbrev points (fds : List Int) : List Nat := fds.map Int.toNat

def Found.Matches (last next index : Nat) (fds : List Int) : Found → Prop
  | .before first protectedFd found =>
    ∃ skipped fd rest, fds = skipped ++ fd :: rest ∧ found = index + skipped.length ∧
      protectedFd = fd.toNat ∧ first < protectedFd ∧ next ≤ first ∧
      (next = (points fds).headD 0 → skipped ≠ []) ∧
      gaps last next (points fds) =
        (first, protectedFd - 1) :: gaps last protectedFd (points (fd :: rest))
  | .tail first => next ≤ first ∧ gaps last next (points fds) = [(first, last)]
  | .finished => gaps last next (points fds) = []

theorem gaps_self (last : Nat) (fd : Int) (rest : List Int) :
    gaps last fd.toNat (points (fd :: rest)) = gaps last (fd.toNat + 1) (points rest) :=
  if_neg (lt_irrefl _)

theorem Found.Matches.cons {fd : Int} {rest : List Int} {index : Nat} {found : Found}
    (h : found.Matches last (fd.toNat + 1) (index + 1) rest) :
    found.Matches last fd.toNat index (fd :: rest) := by
  cases found with
  | before first protectedFd position =>
    obtain ⟨skipped, other, rest', hrest, hposition, hfd, hlt, hle, _, hgaps⟩ := h
    refine ⟨fd :: skipped, other, rest', by rw [hrest, List.cons_append], ?_, hfd, hlt, by omega,
      fun _ => List.cons_ne_nil _ _, ?_⟩
    · rw [hposition, List.length_cons]
      omega
    · rw [gaps_self]
      exact hgaps
  | tail first =>
    obtain ⟨hle, hgaps⟩ := h
    exact ⟨by omega, (gaps_self last fd rest).trans hgaps⟩
  | finished => exact (gaps_self last fd rest).trans h

theorem findSegment_matches (hlast : last ≤ uint32Max) {fds : List Int} {next : Nat}
    (h : Ascending last next (points fds)) (index : Nat) :
    (findSegment last fds index next).Matches last next index fds := by
  induction fds generalizing next index with
  | nil =>
    rw [findSegment]
    split_ifs with hle
    · exact ⟨le_rfl, if_pos hle⟩
    · exact if_neg hle
  | cons fd rest ih =>
    have hlow : next ≤ fd.toNat := h.low _ List.mem_cons_self
    have hhigh : fd.toNat ≤ last := h.high _ List.mem_cons_self
    rw [findSegment, if_neg (by omega)]
    by_cases hlt : next < fd.toNat
    · rw [if_pos hlt]
      refine ⟨[], fd, rest, rfl, rfl, rfl, hlt, le_rfl, fun heq => absurd heq hlt.ne, ?_⟩
      rw [gaps_self]
      exact if_pos hlt
    · obtain rfl : next = fd.toNat := by omega
      rw [if_neg hlt]
      by_cases hend : fd.toNat = uint32Max ∨ fd.toNat = last
      · rw [if_pos hend]
        have hempty : rest = [] := by
          refine List.eq_nil_iff_forall_not_mem.mpr fun other hother => ?_
          have hmem := List.mem_map_of_mem (f := Int.toNat) hother
          have hmore := h.tail.low _ hmem
          have hless := h.tail.high _ hmem
          omega
        rw [hempty]
        refine (gaps_self last fd []).trans (if_neg ?_)
        omega
      · rw [if_neg hend]
        exact (ih h.tail (index + 1)).cons

end Search

end HookSelf.CloseRange
