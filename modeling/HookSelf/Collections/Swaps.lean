import Mathlib

/-! Lists of compare-exchanges over a memory, carried out in order and undone in reverse order. -/

namespace HookSelf.Swaps

/-- Replace `old` at `key` by `new`. -/
structure Swap (κ ν : Type) where
  key : κ
  old : ν
  new : ν

variable {κ ν : Type} [DecidableEq κ] [DecidableEq ν] {swap : Swap κ ν} {swaps : List (Swap κ ν)}
  {memory : κ → ν}

def swapAll : List (Swap κ ν) → (κ → ν) → Nat × (κ → ν)
  | [], memory => (0, memory)
  | swap :: swaps, memory =>
    if memory swap.key = swap.old then
      let rest := swapAll swaps (Function.update memory swap.key swap.new)
      (rest.1 + 1, rest.2)
    else (0, memory)

def undo (swap : Swap κ ν) (memory : κ → ν) : Bool × (κ → ν) :=
  if memory swap.key = swap.new then (true, Function.update memory swap.key swap.old)
  else (decide (memory swap.key = swap.old), memory)

def undoAll : List (Swap κ ν) → (κ → ν) → Bool × (κ → ν)
  | [], memory => (true, memory)
  | swap :: swaps, memory =>
    let rest := undoAll swaps memory
    let first := undo swap rest.2
    (rest.1 && first.1, first.2)

theorem swapAll_le (swaps : List (Swap κ ν)) (memory : κ → ν) :
    (swapAll swaps memory).1 ≤ swaps.length := by
  induction swaps generalizing memory with
  | nil => exact Nat.le_refl 0
  | cons swap swaps ih =>
    rw [swapAll]
    split_ifs
    · exact Nat.succ_le_succ (ih _)
    · exact Nat.zero_le _

theorem undoAll_swapAll (swaps : List (Swap κ ν)) (memory : κ → ν) :
    undoAll (swaps.take (swapAll swaps memory).1) (swapAll swaps memory).2 = (true, memory) := by
  induction swaps generalizing memory with
  | nil => rfl
  | cons swap swaps ih =>
    rw [swapAll]
    split_ifs with hold
    · have hback : Function.update (Function.update memory swap.key swap.new) swap.key swap.old =
          memory := by
        rw [Function.update_idem, ← hold, Function.update_eq_self]
      simp [undoAll, ih, undo, hback]
    · rfl

theorem key_ne_of_complete {k : κ} (hfull : (swapAll swaps memory).1 = swaps.length)
    (hother : ∀ swap ∈ swaps, swap.key = k → swap.old ≠ memory k) :
    ∀ swap ∈ swaps, swap.key ≠ k := by
  induction swaps generalizing memory with
  | nil => simp
  | cons first rest ih =>
    rw [swapAll] at hfull
    split_ifs at hfull with hold
    · have hne : first.key ≠ k := by
        rintro rfl
        exact hother first List.mem_cons_self rfl hold.symm
      have hkeep : Function.update memory first.key first.new k = memory k :=
        Function.update_of_ne hne.symm _ _
      have hrest := ih (Nat.succ.inj hfull) fun swap hmem hkey =>
        hkeep.symm ▸ hother swap (List.mem_cons_of_mem _ hmem) hkey
      intro swap hmem
      rcases List.mem_cons.mp hmem with rfl | hmem
      · exact hne
      · exact hrest swap hmem

theorem swapAll_complete (hfull : (swapAll swaps memory).1 = swaps.length)
    (hold : ∀ swap ∈ swaps, memory swap.key = swap.old) (hne : ∀ swap ∈ swaps, swap.old ≠ swap.new) :
    (∀ swap ∈ swaps, (swapAll swaps memory).2 swap.key = swap.new) ∧
      ∀ k, (∀ swap ∈ swaps, swap.key ≠ k) → (swapAll swaps memory).2 k = memory k := by
  induction swaps generalizing memory with
  | nil => simp [swapAll]
  | cons first rest ih =>
    have hfirst := hold first List.mem_cons_self
    rw [swapAll, if_pos hfirst] at hfull ⊢
    have hfull' := Nat.succ.inj hfull
    have hdistinct : ∀ swap ∈ rest, swap.key ≠ first.key := by
      refine key_ne_of_complete hfull' fun swap hmem hkey => ?_
      have hsame := hold swap (List.mem_cons_of_mem _ hmem)
      rw [Function.update_self, ← hsame, hkey, hfirst]
      exact hne first List.mem_cons_self
    obtain ⟨hnew, hframe⟩ := ih hfull'
      (fun swap hmem => by
        rw [Function.update_of_ne (hdistinct swap hmem)]
        exact hold swap (List.mem_cons_of_mem _ hmem))
      (fun swap hmem => hne swap (List.mem_cons_of_mem _ hmem))
    refine ⟨fun swap hmem => ?_, fun k hk => ?_⟩
    · rcases List.mem_cons.mp hmem with rfl | hmem
      · rw [hframe _ hdistinct, Function.update_self]
      · exact hnew swap hmem
    · rw [hframe k fun swap hmem => hk swap (List.mem_cons_of_mem _ hmem)]
      exact Function.update_of_ne (hk first List.mem_cons_self).symm _ _

theorem undo_key (h : memory swap.key = swap.old ∨ memory swap.key = swap.new) :
    (undo swap memory).1 = true ∧ (undo swap memory).2 swap.key = swap.old := by
  rw [undo]
  split_ifs with hnew
  · exact ⟨rfl, Function.update_self ..⟩
  · have hold := h.resolve_right hnew
    exact ⟨decide_eq_true hold, hold⟩

theorem undo_of_ne {k : κ} (hk : swap.key ≠ k) : (undo swap memory).2 k = memory k := by
  rw [undo]
  split_ifs
  · exact Function.update_of_ne hk.symm _ _
  · rfl

theorem undoAll_of_ne {k : κ} (hk : ∀ swap ∈ swaps, swap.key ≠ k) :
    (undoAll swaps memory).2 k = memory k := by
  induction swaps with
  | nil => rfl
  | cons first rest ih =>
    rw [undoAll, undo_of_ne (hk first List.mem_cons_self)]
    exact ih fun swap hmem => hk swap (List.mem_cons_of_mem _ hmem)

/-- From old and new values in any mixture every old value is put back, when swaps of one place
agree on it. -/
theorem undoAll_mixed
    (hagree : ∀ s ∈ swaps, ∀ t ∈ swaps, s.key = t.key → s.old = t.old)
    (hmixed : ∀ swap ∈ swaps, memory swap.key = swap.old ∨ memory swap.key = swap.new) :
    (undoAll swaps memory).1 = true ∧
      ∀ swap ∈ swaps, (undoAll swaps memory).2 swap.key = swap.old := by
  induction swaps with
  | nil => simp [undoAll]
  | cons first rest ih =>
    obtain ⟨hdone, hrest⟩ := ih
      (fun s hs t ht => hagree s (List.mem_cons_of_mem _ hs) t (List.mem_cons_of_mem _ ht))
      (fun swap hmem => hmixed swap (List.mem_cons_of_mem _ hmem))
    have hplace : (undoAll rest memory).2 first.key = first.old ∨
        (undoAll rest memory).2 first.key = first.new := by
      by_cases hnamed : ∃ swap ∈ rest, swap.key = first.key
      · obtain ⟨swap, hmem, hkey⟩ := hnamed
        left
        rw [← hkey, hrest swap hmem]
        exact hagree swap (List.mem_cons_of_mem _ hmem) first List.mem_cons_self hkey
      · rw [undoAll_of_ne fun swap hmem hkey => hnamed ⟨swap, hmem, hkey⟩]
        exact hmixed first List.mem_cons_self
    obtain ⟨hok, hkey⟩ := undo_key hplace
    refine ⟨by rw [undoAll, hdone, hok]; rfl, fun swap hmem => ?_⟩
    by_cases hsame : first.key = swap.key
    · rw [undoAll, ← hsame, hkey]
      exact hagree first List.mem_cons_self swap hmem hsame
    · rw [undoAll, undo_of_ne hsame]
      rcases List.mem_cons.mp hmem with rfl | hmem
      · exact absurd rfl hsame
      · exact hrest swap hmem

end HookSelf.Swaps
