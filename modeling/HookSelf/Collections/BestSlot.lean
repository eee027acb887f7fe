import HookSelf.Collections.SlotTable

/-! Searching the slots of a table for the first one of highest rank. -/

namespace HookSelf.SlotTable

variable {β : Type} [LinearOrder β] {n s : Nat} {p q : Nat → Prop} {rank rank' : Nat → β}

def keepBest (p : Nat → Prop) [DecidablePred p] (rank : Nat → β) (slot : Nat) (best : Option Nat) :
    Option Nat :=
  if p slot then
    match best with
    | none => some slot
    | some b => if rank b < rank slot then some slot else best
  else best

def bestSlot (n : Nat) (p : Nat → Prop) [DecidablePred p] (rank : Nat → β) : Option Nat :=
  forSlots (keepBest p rank) n none

structure IsBest (n : Nat) (p : Nat → Prop) (rank : Nat → β) (s : Nat) : Prop where
  lt : s < n
  holds : p s
  best : ∀ x < n, p x → rank x < rank s ∨ rank x = rank s ∧ s ≤ x

theorem IsBest.unique {t : Nat} (h : IsBest n p rank s) (h' : IsBest n p rank t) : s = t := by
  rcases h.best t h'.lt h'.holds with hlt | ⟨heq, hle⟩
  · rcases h'.best s h.lt h.holds with hlt' | ⟨heq', -⟩
    · exact absurd hlt (lt_asymm hlt')
    · exact absurd heq' hlt.ne'
  · rcases h'.best s h.lt h.holds with hlt' | ⟨-, hle'⟩
    · exact absurd heq hlt'.ne'
    · exact le_antisymm hle hle'

def Found (k : Nat) (p : Nat → Prop) (rank : Nat → β) : Option Nat → Prop
  | none => ∀ x < k, ¬p x
  | some s => IsBest k p rank s

variable [DecidablePred p] [DecidablePred q]

theorem Found.step {k : Nat} {best : Option Nat} (h : Found k p rank best) :
    Found (k + 1) p rank (keepBest p rank k best) := by
  unfold keepBest
  by_cases hk : p k
  · rw [if_pos hk]
    cases best with
    | none =>
      refine ⟨Nat.lt_succ_self k, hk, fun x hx hpx => ?_⟩
      rcases Nat.lt_succ_iff_lt_or_eq.mp hx with hlt | rfl
      · exact absurd hpx (h x hlt)
      · exact .inr ⟨rfl, le_rfl⟩
    | some b =>
      have h : IsBest k p rank b := h
      dsimp only
      split_ifs with hrank
      · refine ⟨Nat.lt_succ_self k, hk, fun x hx hpx => ?_⟩
        rcases Nat.lt_succ_iff_lt_or_eq.mp hx with hlt | rfl
        · rcases h.best x hlt hpx with hlt' | ⟨heq, -⟩
          · exact .inl (hlt'.trans hrank)
          · exact .inl (heq.trans_lt hrank)
        · exact .inr ⟨rfl, le_rfl⟩
      · refine ⟨h.lt.trans (Nat.lt_succ_self k), h.holds, fun x hx hpx => ?_⟩
        rcases Nat.lt_succ_iff_lt_or_eq.mp hx with hlt | rfl
        · exact h.best x hlt hpx
        · rcases (not_lt.mp hrank).lt_or_eq with hlt | heq
          · exact .inl hlt
          · exact .inr ⟨heq, h.lt.le⟩
  · rw [if_neg hk]
    cases best with
    | none =>
      intro x hx
      rcases Nat.lt_succ_iff_lt_or_eq.mp hx with hlt | rfl
      · exact h x hlt
      · exact hk
    | some b =>
      have h : IsBest k p rank b := h
      refine ⟨h.lt.trans (Nat.lt_succ_self k), h.holds, fun x hx hpx => ?_⟩
      rcases Nat.lt_succ_iff_lt_or_eq.mp hx with hlt | rfl
      · exact h.best x hlt hpx
      · exact absurd hpx hk

theorem bestSlot_found : Found n p rank (bestSlot n p rank) :=
  forSlots_induct (fun k best => Found k p rank best) (fun _ hx => absurd hx (Nat.not_lt_zero _))
    fun _ _ _ h => h.step

theorem bestSlot_eq_some : bestSlot n p rank = some s ↔ IsBest n p rank s := by
  have hfound := @bestSlot_found β _ n p rank _
  constructor
  · intro h
    rwa [h] at hfound
  · intro h
    cases hres : bestSlot n p rank with
    | none =>
      rw [hres] at hfound
      exact absurd h.holds (hfound s h.lt)
    | some t =>
      rw [hres] at hfound
      rw [IsBest.unique hfound h]

theorem bestSlot_eq_none : bestSlot n p rank = none ↔ ∀ x < n, ¬p x := by
  have hfound := @bestSlot_found β _ n p rank _
  constructor
  · intro h
    rwa [h] at hfound
  · intro h
    cases hres : bestSlot n p rank with
    | none => rfl
    | some t =>
      rw [hres] at hfound
      have hfound : IsBest n p rank t := hfound
      exact absurd hfound.holds (h t hfound.lt)

end HookSelf.SlotTable
