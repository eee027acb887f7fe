import HookSelf.Collections.SlotTable
import HookSelf.Collections.LinkChain

/-! Slot tables whose live records carry distinct keys: the search for a key, and the links from the
key of a record to another key. -/

universe u v

namespace HookSelf.KeyedTable

open SlotTable LinkChain

variable {ρ : Type u} {κ : Type v}

section Keys

variable (n : Nat) (live : ρ → Prop) (key : ρ → κ)

def Distinct (f : Nat → ρ) : Prop :=
  ∀ a < n, ∀ b < n, live (f a) → live (f b) → key (f a) = key (f b) → a = b

def Holds (f : Nat → ρ) (k : κ) : Prop := ∃ s < n, live (f s) ∧ key (f s) = k

variable {n live key} {f f' : Nat → ρ} {k : κ} {s : Nat} {v : ρ}

theorem Distinct.update (h : Distinct n live key f)
    (hnew : live v → ∀ a < n, a ≠ s → live (f a) → key (f a) ≠ key v) :
    Distinct n live key (Function.update f s v) := by
  intro a ha b hb hla hlb heq
  by_cases has : a = s <;> by_cases hbs : b = s
  · rw [has, hbs]
  · subst has
    rw [Function.update_self] at hla heq
    rw [Function.update_of_ne hbs] at hlb heq
    exact absurd heq.symm (hnew hla b hb hbs hlb)
  · subst hbs
    rw [Function.update_self] at hlb heq
    rw [Function.update_of_ne has] at hla heq
    exact absurd heq (hnew hlb a ha has hla)
  · rw [Function.update_of_ne has] at hla heq
    rw [Function.update_of_ne hbs] at hlb heq
    exact h a ha b hb hla hlb heq

theorem Distinct.replace (h : Distinct n live key f) (hs : s < n) (hlive : live (f s))
    (hkey : key v = key (f s)) : Distinct n live key (Function.update f s v) :=
  h.update fun _ a ha has hla heq => has (h a ha s hs hla hlive (heq.trans hkey))

theorem Distinct.vacate (h : Distinct n live key f) (hv : ¬live v) :
    Distinct n live key (Function.update f s v) :=
  h.update fun hlive => absurd hlive hv

theorem Distinct.congr (h : Distinct n live key f)
    (hsame : ∀ a < n, (live (f' a) ↔ live (f a)) ∧ key (f' a) = key (f a)) :
    Distinct n live key f' := by
  intro a ha b hb hla hlb heq
  rw [(hsame a ha).1] at hla
  rw [(hsame b hb).1] at hlb
  rw [(hsame a ha).2, (hsame b hb).2] at heq
  exact h a ha b hb hla hlb heq

theorem Holds.congr (hsame : ∀ a < n, (live (f' a) ↔ live (f a)) ∧ key (f' a) = key (f a)) :
    Holds n live key f' k ↔ Holds n live key f k := by
  refine exists_congr fun a => and_congr_right fun ha => ?_
  rw [(hsame a ha).1, (hsame a ha).2]

theorem Holds.update_of_ne (h : Holds n live key f k) (hs : live (f s) → key (f s) ≠ k) :
    Holds n live key (Function.update f s v) k := by
  obtain ⟨a, ha, hla, hka⟩ := h
  have has : a ≠ s := by
    rintro rfl
    exact hs hla hka
  exact ⟨a, ha, by rwa [Function.update_of_ne has], by rwa [Function.update_of_ne has]⟩

theorem Distinct.mono {live' : ρ → Prop} (h : Distinct n live key f)
    (hlive : ∀ r, live' r → live r) : Distinct n live' key f :=
  fun a ha b hb hla hlb => h a ha b hb (hlive _ hla) (hlive _ hlb)

theorem Holds.occupy_iff (hs : s < n) (hfree : ¬live (f s)) :
    Holds n live key (Function.update f s v) k ↔ Holds n live key f k ∨ live v ∧ k = key v := by
  constructor
  · rintro ⟨a, ha, hla, rfl⟩
    by_cases has : a = s
    · subst has
      rw [Function.update_self] at hla ⊢
      exact .inr ⟨hla, rfl⟩
    · rw [Function.update_of_ne has] at hla ⊢
      exact .inl ⟨a, ha, hla, rfl⟩
  · rintro (hold | ⟨hv, rfl⟩)
    · exact hold.update_of_ne fun hlive => absurd hlive hfree
    · exact ⟨s, hs, by rwa [Function.update_self], by rw [Function.update_self]⟩

theorem Holds.overwrite_iff (h : Distinct n live key f) (hs : s < n) (hlive : live (f s)) :
    Holds n live key (Function.update f s v) k ↔
      Holds n live key f k ∧ k ≠ key (f s) ∨ live v ∧ k = key v := by
  constructor
  · rintro ⟨a, ha, hla, rfl⟩
    by_cases has : a = s
    · subst has
      rw [Function.update_self] at hla ⊢
      exact .inr ⟨hla, rfl⟩
    · rw [Function.update_of_ne has] at hla ⊢
      exact .inl ⟨⟨a, ha, hla, rfl⟩, fun heq => has (h a ha s hs hla hlive heq)⟩
  · rintro (⟨hold, hne⟩ | ⟨hv, rfl⟩)
    · exact hold.update_of_ne fun _ => hne.symm
    · exact ⟨s, hs, by rwa [Function.update_self], by rw [Function.update_self]⟩

end Keys

variable [DecidableEq κ]

section Search

variable (n : Nat) (live : ρ → Prop) [DecidablePred live] (key : ρ → κ)

def lookup (f : Nat → ρ) (k : κ) : Option Nat := firstSlot n fun s => live (f s) ∧ key (f s) = k

variable {n live key} {f f' : Nat → ρ} {k : κ} {s : Nat} {v : ρ}

theorem lookup_spec (h : lookup n live key f k = some s) : s < n ∧ live (f s) ∧ key (f s) = k :=
  firstSlot_some h

theorem lookup_eq_none : lookup n live key f k = none ↔ ¬Holds n live key f k := by
  simp only [lookup, firstSlot_none, Holds, not_exists, not_and]

theorem Distinct.lookup_eq_some (h : Distinct n live key f) :
    lookup n live key f k = some s ↔ s < n ∧ live (f s) ∧ key (f s) = k := by
  refine ⟨lookup_spec, fun ⟨hs, hlive, hkey⟩ => ?_⟩
  exact firstSlot_unique hs ⟨hlive, hkey⟩ fun x hx hxp =>
    h x hx s hs hxp.1 hlive (hxp.2.trans hkey.symm)

theorem Distinct.insert (h : Distinct n live key f) (hfree : lookup n live key f (key v) = none) :
    Distinct n live key (Function.update f s v) :=
  h.update fun _ a ha _ hla heq => lookup_eq_none.mp hfree ⟨a, ha, hla, heq⟩

end Search

section Links

variable (n : Nat) (live : ρ → Prop) [DecidablePred live] (key : ρ → κ) (next : ρ → Option κ)

/-- The key that the record with key `k` links to. -/
def link (f : Nat → ρ) (k : κ) : Option κ := (lookup n live key f k).bind fun s => next (f s)

variable {n live key next} {f f' : Nat → ρ} {k t : κ} {s : Nat} {v : ρ}

theorem Distinct.link_eq (h : Distinct n live key f) (hs : s < n) (hlive : live (f s)) :
    link n live key next f (key (f s)) = next (f s) := by
  rw [link, h.lookup_eq_some.mpr ⟨hs, hlive, rfl⟩, Option.bind_some]

theorem link_eq_none (h : ¬Holds n live key f k) : link n live key next f k = none := by
  rw [link, lookup_eq_none.mpr h, Option.bind_none]

theorem link_eq_some (h : link n live key next f k = some t) :
    ∃ s < n, live (f s) ∧ key (f s) = k ∧ next (f s) = some t := by
  rw [link, Option.bind_eq_some_iff] at h
  obtain ⟨s, hs, hnext⟩ := h
  obtain ⟨hlt, hlive, hkey⟩ := lookup_spec hs
  exact ⟨s, hlt, hlive, hkey, hnext⟩

theorem link_update_of_ne (hold : live (f s) → key (f s) ≠ k) (hnew : live v → key v ≠ k) :
    link n live key next (Function.update f s v) k = link n live key next f k := by
  have hlookup : lookup n live key (Function.update f s v) k = lookup n live key f k := by
    refine firstSlot_congr fun x _ => ?_
    by_cases hxs : x = s
    · subst hxs
      rw [Function.update_self]
      exact ⟨fun h => absurd h.2 (hnew h.1), fun h => absurd h.2 (hold h.1)⟩
    · rw [Function.update_of_ne hxs]
  rw [link, link, hlookup]
  rcases hres : lookup n live key f k with _ | a
  · rfl
  · obtain ⟨_, hlive, hkey⟩ := lookup_spec hres
    have has : a ≠ s := by
      rintro rfl
      exact hold hlive hkey
    simp only [Option.bind_some, Function.update_of_ne has]

theorem Distinct.link_occupy (h : Distinct n live key f) (hs : s < n) (hfree : ¬live (f s))
    (hnew : lookup n live key f (key v) = none) (hv : live v) :
    link n live key next (Function.update f s v) =
      Function.update (link n live key next f) (key v) (next v) := by
  funext k
  by_cases hk : k = key v
  · have hlink : link n live key next (Function.update f s v) (key (Function.update f s v s)) =
        next (Function.update f s v s) :=
      (h.insert hnew).link_eq hs (by rwa [Function.update_self])
    rw [Function.update_self] at hlink
    rw [hk, hlink, Function.update_self]
  · rw [Function.update_of_ne hk]
    exact link_update_of_ne (fun hlive => absurd hlive hfree) fun _ => Ne.symm hk

theorem Distinct.link_vacate (h : Distinct n live key f) (hs : s < n) (hlive : live (f s))
    (hv : ¬live v) : link n live key next (Function.update f s v) =
      Function.update (link n live key next f) (key (f s)) none := by
  funext k
  by_cases hk : k = key (f s)
  · rw [hk, Function.update_self]
    refine link_eq_none fun hholds => ?_
    rcases (Holds.overwrite_iff h hs hlive).mp hholds with hold | hnew
    · exact hold.2 rfl
    · exact hv hnew.1
  · rw [Function.update_of_ne hk]
    exact link_update_of_ne (fun _ => Ne.symm hk) fun hnew => absurd hnew hv

theorem link_congr (h : ∀ a < n, (live (f' a) ↔ live (f a)) ∧ key (f' a) = key (f a) ∧
    (live (f a) → next (f' a) = next (f a))) :
    link n live key next f' = link n live key next f := by
  funext k
  have hlookup : lookup n live key f' k = lookup n live key f k :=
    firstSlot_congr fun a ha => by rw [(h a ha).1, (h a ha).2.1]
  rw [link, link, hlookup]
  rcases hres : lookup n live key f k with _ | a
  · rfl
  · obtain ⟨ha, hlive, _⟩ := lookup_spec hres
    simp only [Option.bind_some, (h a ha).2.2 hlive]

/-- A path of links is no longer than the table. -/
theorem climbs_le {j : Nat} (h : Climbs (link n live key next f) j k) : j ≤ n := by
  refine h.le_slots (fun k => (lookup n live key f k).getD 0) (fun a b hab => ?_)
    fun a b c d hab hcd heq => ?_
  · rw [link, Option.bind_eq_some_iff] at hab
    obtain ⟨s, hs, _⟩ := hab
    simpa [hs] using (lookup_spec hs).1
  · rw [link, Option.bind_eq_some_iff] at hab hcd
    obtain ⟨s, hs, _⟩ := hab
    obtain ⟨s', hs', _⟩ := hcd
    simp only [hs, hs', Option.getD_some] at heq
    rw [← (lookup_spec hs).2.2, heq, (lookup_spec hs').2.2]

end Links

end HookSelf.KeyedTable
