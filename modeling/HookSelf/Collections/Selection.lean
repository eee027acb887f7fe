import Mathlib

/-! A scan that keeps the best eligible item of a list, where a relation says which items give way to
a later one. -/

namespace HookSelf.Selection

section Scan

variable {α : Type} {p : α → Prop} [DecidablePred p] {yields : α → α → Prop} [DecidableRel yields]
  {l : List α} {x y : α}

def keepBest (p : α → Prop) [DecidablePred p] (yields : α → α → Prop) [DecidableRel yields]
    (best : Option α) (x : α) : Option α :=
  if p x then
    match best with
    | none => some x
    | some b => if yields b x then some x else some b
  else best

def best (p : α → Prop) [DecidablePred p] (yields : α → α → Prop) [DecidableRel yields]
    (l : List α) : Option α :=
  l.foldl (keepBest p yields) none

def IsBest (p : α → Prop) (yields : α → α → Prop) (l : List α) (x : α) : Prop :=
  ∃ before after, l = before ++ x :: after ∧ p x ∧
    (∀ y ∈ before, p y → yields y x) ∧ ∀ y ∈ after, p y → ¬yields x y

/-- An item gives way to whatever one better than it, or as good, gives way to. -/
structure Ranked (yields : α → α → Prop) : Prop where
  trans {x y z : α} : yields x y → yields y z → yields x z
  skip {x y z : α} : ¬yields x y → yields x z → yields y z

omit [DecidablePred p] [DecidableRel yields] in
theorem IsBest.append_kept (h : IsBest p yields l x) (hy : p y → ¬yields x y) :
    IsBest p yields (l ++ [y]) x := by
  obtain ⟨before, after, rfl, hx, hbefore, hafter⟩ := h
  refine ⟨before, after ++ [y], by simp, hx, hbefore, fun z hz hp => ?_⟩
  rcases List.mem_append.mp hz with hz | hz
  · exact hafter z hz hp
  · obtain rfl := List.mem_singleton.mp hz
    exact hy hp

omit [DecidablePred p] [DecidableRel yields] in
theorem IsBest.append_taken (h : IsBest p yields l x) (hranked : Ranked yields) (hy : p y)
    (hyields : yields x y) : IsBest p yields (l ++ [y]) y := by
  obtain ⟨before, after, rfl, hx, hbefore, hafter⟩ := h
  refine ⟨before ++ x :: after, [], rfl, hy, fun z hz hp => ?_, by simp⟩
  rcases List.mem_append.mp hz with hz | hz
  · exact hranked.trans (hbefore z hz hp) hyields
  · rcases List.mem_cons.mp hz with rfl | hz
    · exact hyields
    · exact hranked.skip (hafter z hz hp) hyields

theorem best_spec (hranked : Ranked yields) (p : α → Prop) [DecidablePred p] (l : List α) :
    match best p yields l with
    | none => ∀ x ∈ l, ¬p x
    | some x => IsBest p yields l x := by
  induction l using List.reverseRecOn with
  | nil => simp [best]
  | append_singleton l x ih =>
    rw [best, List.foldl_append, List.foldl_cons, List.foldl_nil, ← best]
    rcases hl : best p yields l with _ | b <;> rw [hl] at ih <;> by_cases hx : p x
    · simp only [keepBest, if_pos hx]
      exact ⟨l, [], rfl, hx, fun y hy hp => absurd hp (ih y hy), by simp⟩
    · simp only [keepBest, if_neg hx]
      intro y hy
      rcases List.mem_append.mp hy with hy | hy
      · exact ih y hy
      · rwa [List.mem_singleton.mp hy]
    · by_cases hyields : yields b x
      · simp only [keepBest, if_pos hx, if_pos hyields]
        exact ih.append_taken hranked hx hyields
      · simp only [keepBest, if_pos hx, if_neg hyields]
        exact ih.append_kept fun _ => hyields
    · simp only [keepBest, if_neg hx]
      exact ih.append_kept fun hp => absurd hp hx

theorem best_eq_some (hranked : Ranked yields) (h : best p yields l = some x) :
    IsBest p yields l x := by
  have hs := best_spec hranked p l
  rwa [h] at hs

theorem best_eq_none_iff (hranked : Ranked yields) :
    best p yields l = none ↔ ∀ x ∈ l, ¬p x := by
  have h := best_spec hranked p l
  constructor
  · intro hl
    rwa [hl] at h
  · intro hn
    rcases hl : best p yields l with _ | x
    · rfl
    · obtain ⟨before, after, rfl, hx, -⟩ := best_eq_some hranked hl
      exact absurd hx (hn x (by simp))

end Scan

section Order

variable {α β : Type} [LinearOrder β] {rank : α → β}

theorem ranked_le (rank : α → β) : Ranked fun x y => rank x ≤ rank y :=
  ⟨le_trans, fun h hle => (not_le.mp h).le.trans hle⟩

theorem ranked_lt (rank : α → β) : Ranked fun x y => rank x < rank y :=
  ⟨lt_trans, fun h hlt => (not_lt.mp h).trans_lt hlt⟩

variable {p : α → Prop} [DecidablePred p] {l : List α} {x : α}

/-- The eligible item of the highest rank, the last of equals, with its position. -/
def lastMaxAt (p : α → Prop) [DecidablePred p] (rank : α → β) (l : List α) : Option (α × Nat) :=
  best (fun x => p x.1) (fun x y => rank x.1 ≤ rank y.1) l.zipIdx

theorem zipIdx_pairwise (l : List α) : l.zipIdx.Pairwise fun a b => a.2 < b.2 := by
  have h : (l.zipIdx.map Prod.snd).Pairwise (· < ·) := by
    rw [List.zipIdx_map_snd]
    exact List.pairwise_lt_range'
  exact List.pairwise_map.mp h

/-- The item kept is the eligible one maximal by rank and then by position. -/
theorem lastMaxAt_max {i : Nat} (h : lastMaxAt p rank l = some (x, i)) :
    l[i]? = some x ∧ p x ∧
      ∀ j y, l[j]? = some y → p y → toLex (rank y, j) ≤ toLex (rank x, i) := by
  obtain ⟨before, after, hl, hx, hbefore, hafter⟩ := best_eq_some (ranked_le _) h
  have hmem : (x, i) ∈ l.zipIdx := by simp [hl]
  refine ⟨List.mk_mem_zipIdx_iff_getElem?.mp hmem, hx, fun j y hj hy => ?_⟩
  have hpair := zipIdx_pairwise l
  rw [hl, List.pairwise_append, List.pairwise_cons] at hpair
  have hjmem : (y, j) ∈ l.zipIdx := List.mk_mem_zipIdx_iff_getElem?.mpr hj
  rw [hl] at hjmem
  rw [Prod.Lex.toLex_le_toLex]
  rcases List.mem_append.mp hjmem with hj' | hj'
  · have hlt : j < i := hpair.2.2 _ hj' _ List.mem_cons_self
    rcases (hbefore _ hj' hy).lt_or_eq with hr | hr
    · exact .inl hr
    · exact .inr ⟨hr, hlt.le⟩
  · rcases List.mem_cons.mp hj' with heq | hj'
    · obtain ⟨rfl, rfl⟩ := Prod.mk.inj heq
      exact .inr ⟨rfl, le_rfl⟩
    · exact .inl (not_le.mp (hafter _ hj' hy))

theorem lastMaxAt_eq_none_iff : lastMaxAt p rank l = none ↔ ∀ (j : Nat) y, l[j]? = some y → ¬p y := by
  rw [lastMaxAt, best_eq_none_iff (ranked_le _)]
  constructor
  · exact fun h j y hj => h (y, j) (List.mk_mem_zipIdx_iff_getElem?.mpr hj)
  · exact fun h a ha => h a.2 a.1 (List.mk_mem_zipIdx_iff_getElem?.mp ha)

theorem lastMaxAt_eq_some_iff {i : Nat} : lastMaxAt p rank l = some (x, i) ↔
    l[i]? = some x ∧ p x ∧
      ∀ j y, l[j]? = some y → p y → toLex (rank y, j) ≤ toLex (rank x, i) := by
  constructor
  · exact lastMaxAt_max
  · rintro ⟨hi, hx, hmax⟩
    rcases hl : lastMaxAt p rank l with _ | ⟨y, j⟩
    · exact absurd hx (lastMaxAt_eq_none_iff.mp hl i x hi)
    · obtain ⟨hj, hy, hmax'⟩ := lastMaxAt_max hl
      have heq := le_antisymm (hmax j y hj hy) (hmax' i x hi hx)
      obtain rfl : j = i := congrArg (fun z => (ofLex z).2) heq
      rw [hi] at hj
      rw [Option.some.inj hj]

end Order

end HookSelf.Selection
