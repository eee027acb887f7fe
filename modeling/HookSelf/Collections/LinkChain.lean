import Mathlib

/-! Links given by a partial map without cycles: every node leads to one that has no link.  A walk
with enough fuel decides whether a node lies on a path, and one link can be changed, or two nodes
merged, as long as no path is closed. -/

universe u

namespace HookSelf.LinkChain

variable {α : Type u}

/-- Following the links from `a`, the node without a link is `k` steps away. -/
inductive Climbs (up : α → Option α) : Nat → α → Prop
  | stop {a : α} : up a = none → Climbs up 0 a
  | step {a b : α} {k : Nat} : up a = some b → Climbs up k b → Climbs up (k + 1) a

/-- `c` is `a` or is reached from it. -/
inductive OnPath (up : α → Option α) (c : α) : α → Prop
  | here : OnPath up c c
  | above {a b : α} : up a = some b → OnPath up c b → OnPath up c a

def Grounded (up : α → Option α) (a : α) : Prop := ∃ k, Climbs up k a

variable {up up' : α → Option α} {a b c : α} {k l n : Nat}

theorem Grounded.step (hup : up a = some b) : Grounded up b → Grounded up a
  | ⟨k, h⟩ => ⟨k + 1, .step hup h⟩

theorem Grounded.next (h : Grounded up a) (hup : up a = some b) : Grounded up b := by
  obtain ⟨k, h⟩ := h
  cases h with
  | stop hnone => exact nomatch hnone.symm.trans hup
  | step hup' hb =>
    cases hup.symm.trans hup'
    exact ⟨_, hb⟩

theorem Climbs.unique (h : Climbs up k a) (h' : Climbs up l a) : k = l := by
  induction h generalizing l with
  | stop hnone =>
    cases h' with
    | stop => rfl
    | step hup => exact nomatch hnone.symm.trans hup
  | step hup _ ih =>
    cases h' with
    | stop hnone => exact nomatch hnone.symm.trans hup
    | step hup' hb' =>
      cases hup.symm.trans hup'
      rw [ih hb']

theorem Climbs.exists_at (h : Climbs up k a) {j : Nat} (hj : j < k) :
    ∃ c, Climbs up (j + 1) c ∧ ∃ d, up c = some d := by
  induction h with
  | stop => omega
  | @step a b k hup hb ih =>
    rcases Nat.lt_succ_iff_lt_or_eq.mp hj with hlt | rfl
    · exact ih hlt
    · exact ⟨a, .step hup hb, b, hup⟩

theorem Climbs.le_slots (h : Climbs up k a) (slot : α → Nat)
    (slot_lt : ∀ a b, up a = some b → slot a < n)
    (slot_inj : ∀ a b c d, up a = some b → up c = some d → slot a = slot c → a = c) : k ≤ n := by
  have node (j : Fin k) := h.exists_at j.isLt
  choose f hf using node
  have inj : Function.Injective fun j : Fin k =>
      (⟨slot (f j), slot_lt _ _ (hf j).2.choose_spec⟩ : Fin n) := by
    intro i j hij
    have heq : f i = f j :=
      slot_inj _ _ _ _ (hf i).2.choose_spec (hf j).2.choose_spec (congrArg Fin.val hij)
    have hi := (hf i).1
    rw [heq] at hi
    exact Fin.ext (Nat.succ_injective (hi.unique (hf j).1))
  simpa using Fintype.card_le_of_injective _ inj

theorem Climbs.onPath (h : Climbs up k a) (hc : OnPath up c a) : ∃ j ≤ k, Climbs up j c := by
  induction hc generalizing k with
  | here => exact ⟨k, le_rfl, h⟩
  | above hup _ ih =>
    cases h with
    | stop hnone => exact nomatch hnone.symm.trans hup
    | step hup' hb =>
      cases hup.symm.trans hup'
      obtain ⟨j, hj, hc⟩ := ih hb
      exact ⟨j, by omega, hc⟩

theorem Grounded.not_onPath_next (h : Grounded up a) (hup : up a = some b) : ¬OnPath up a b := by
  intro hab
  obtain ⟨k, hb⟩ := h.next hup
  obtain ⟨j, hj, ha⟩ := hb.onPath hab
  have := ha.unique (.step hup hb)
  omega

theorem OnPath.eq_or_linked (h : OnPath up c a) : c = a ∨ ∃ x, up x = some c := by
  induction h with
  | here => exact .inl rfl
  | above hup _ ih =>
    rcases ih with rfl | hx
    · exact .inr ⟨_, hup⟩
    · exact .inr hx

theorem Climbs.congr_avoid (h : Climbs up k a) (havoid : ¬OnPath up c a)
    (hup : ∀ x, x ≠ c → up' x = up x) : Climbs up' k a := by
  induction h with
  | @stop a hnone =>
    have hac : a ≠ c := by
      rintro rfl
      exact havoid .here
    exact .stop (by rw [hup a hac, hnone])
  | @step a b k hab _ ih =>
    have hac : a ≠ c := by
      rintro rfl
      exact havoid .here
    exact .step (by rw [hup a hac, hab]) (ih fun hc => havoid (.above hab hc))

theorem Grounded.cut (h : Grounded up a) (hup : ∀ x, x ≠ c → up' x = up x) (hc : up' c = none) :
    Grounded up' a := by
  obtain ⟨k, h⟩ := h
  induction h with
  | @stop a hnone =>
    refine ⟨0, .stop ?_⟩
    by_cases hac : a = c
    · rw [hac, hc]
    · rw [hup a hac, hnone]
  | @step a b k hab _ ih =>
    by_cases hac : a = c
    · exact ⟨0, .stop (by rw [hac, hc])⟩
    · exact ih.step (by rw [hup a hac, hab])

theorem Grounded.relink (h : Grounded up a) (hb : Grounded up b) (hcb : ¬OnPath up c b)
    (hup : ∀ x, x ≠ c → up' x = up x) (hc : up' c = some b) : Grounded up' a := by
  have hc' : Grounded up' c := Grounded.step hc (hb.imp fun _ hb => hb.congr_avoid hcb hup)
  obtain ⟨k, h⟩ := h
  induction h with
  | @stop a hnone =>
    by_cases hac : a = c
    · rw [hac]
      exact hc'
    · exact ⟨0, .stop (by rw [hup a hac, hnone])⟩
  | @step a b k hab _ ih =>
    by_cases hac : a = c
    · rw [hac]
      exact hc'
    · exact ih.step (by rw [hup a hac, hab])

section Merge

variable [DecidableEq α] {old new : α}

/-- The node that stands for `x` when `old` becomes `new`. -/
def rename (old new x : α) : α := if x = old then new else x

theorem rename_of_ne {x : α} (h : x ≠ old) : rename old new x = x := if_neg h

theorem Climbs.rename_avoid (h : Climbs up k a) (hold : ¬OnPath up old a) (hnew : ¬OnPath up new a)
    (hup : ∀ x, x ≠ old → x ≠ new → up' x = (up x).map (rename old new)) : Climbs up' k a := by
  induction h with
  | @stop a hnone =>
    refine .stop ?_
    rw [hup a (fun h => hold (h ▸ .here)) fun h => hnew (h ▸ .here), hnone, Option.map_none]
  | @step a b k hab _ ih =>
    have hb : b ≠ old := fun h => hold (.above hab (h ▸ .here))
    refine .step ?_ (ih (fun h => hold (.above hab h)) fun h => hnew (.above hab h))
    rw [hup a (fun h => hold (h ▸ .here)) fun h => hnew (h ▸ .here), hab, Option.map_some,
      rename_of_ne hb]

theorem Grounded.rename_source {source other : α} (h : Grounded up source)
    (hpair : source = old ∧ other = new ∨ source = new ∧ other = old)
    (havoid : ¬OnPath up other source)
    (hup : ∀ x, x ≠ old → x ≠ new → up' x = (up x).map (rename old new))
    (hnew : up' new = (up source).map (rename old new)) : Grounded up' new := by
  rcases hsource : up source with _ | b
  · exact ⟨0, .stop (by rw [hnew, hsource, Option.map_none])⟩
  · have hsb := h.not_onPath_next hsource
    have hob : ¬OnPath up other b := fun hb => havoid (.above hsource hb)
    have hboth : ¬OnPath up old b ∧ ¬OnPath up new b := by
      rcases hpair with ⟨rfl, rfl⟩ | ⟨rfl, rfl⟩
      exacts [⟨hsb, hob⟩, ⟨hob, hsb⟩]
    refine Grounded.step (b := b) ?_
      ((h.next hsource).imp fun _ hb => hb.rename_avoid hboth.1 hboth.2 hup)
    have hbo : b ≠ old := by
      rintro rfl
      exact hboth.1 .here
    rw [hnew, hsource, Option.map_some, rename_of_ne hbo]

/-- Merging two nodes of which at most one has a link keeps every node grounded if neither is
reached from the other. -/
theorem Grounded.merge (h : ∀ a, Grounded up a) (hone : up old = none ∨ up new = none)
    (hon : ¬OnPath up new old) (hno : ¬OnPath up old new) (hold : up' old = none)
    (hnew : up' new = (up old <|> up new).map (rename old new))
    (hup : ∀ x, x ≠ old → x ≠ new → up' x = (up x).map (rename old new)) (a : α) :
    Grounded up' a := by
  have hmerged : Grounded up' new := by
    rcases hone with hnone | hnone
    · refine (h new).rename_source (.inr ⟨rfl, rfl⟩) hno hup ?_
      simpa [hnone] using hnew
    · refine (h old).rename_source (.inl ⟨rfl, rfl⟩) hon hup ?_
      rw [hnew]
      cases up old <;> simp [hnone]
  have hall : ∀ k x, Climbs up k x → Grounded up' (rename old new x) := by
    intro k x hx
    induction hx with
    | @stop x hnone =>
      by_cases hxo : x = old
      · rwa [rename, if_pos hxo]
      · rw [rename_of_ne hxo]
        by_cases hxn : x = new
        · rwa [hxn]
        · exact ⟨0, .stop (by rw [hup x hxo hxn, hnone, Option.map_none])⟩
    | @step x y k hxy _ ih =>
      by_cases hxo : x = old
      · rwa [rename, if_pos hxo]
      · rw [rename_of_ne hxo]
        by_cases hxn : x = new
        · rwa [hxn]
        · exact ih.step (by rw [hup x hxo hxn, hxy, Option.map_some])
  by_cases hao : a = old
  · exact ⟨0, .stop (by rw [hao, hold])⟩
  · obtain ⟨k, hk⟩ := h a
    have := hall k a hk
    rwa [rename_of_ne hao] at this

end Merge

section Walk

variable [DecidableEq α] {depth : Nat}

/-- Follow at most `depth` nodes from `a`, looking for `c`; running out counts as finding it. -/
def walk (up : α → Option α) (c : α) : Nat → α → Bool
  | 0, _ => true
  | depth + 1, a =>
    if a = c then true
    else
      match up a with
      | none => false
      | some b => walk up c depth b

theorem walk_sound (h : walk up c depth a = false) : ¬OnPath up c a := by
  induction depth generalizing a with
  | zero => simp [walk] at h
  | succ depth ih =>
    rw [walk] at h
    split_ifs at h with hac
    intro hc
    cases hc with
    | here => exact hac rfl
    | above hup hb =>
      rw [hup] at h
      exact ih h hb

theorem walk_complete (hk : Climbs up k a) (hdepth : k < depth) (h : ¬OnPath up c a) :
    walk up c depth a = false := by
  induction hk generalizing depth with
  | @stop a hnone =>
    cases depth with
    | zero => omega
    | succ depth =>
      have hac : a ≠ c := fun hac => h (hac ▸ .here)
      simp [walk, hac, hnone]
  | @step a b k hup _ ih =>
    cases depth with
    | zero => omega
    | succ depth =>
      have hac : a ≠ c := fun hac => h (hac ▸ .here)
      have hb : walk up c depth b = false := ih (by omega) fun hc => h (.above hup hc)
      simp [walk, hac, hup, hb]

end Walk

end HookSelf.LinkChain
