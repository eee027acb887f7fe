import Mathlib

/-! Programs that call an environment. The environment is a list of answers, one for each call; a
program that has used them up has not returned yet. -/

namespace HookSelf.Scripted

variable {σ ρ α β : Type}

structure World (σ ρ : Type) where
  state : σ
  answers : List ρ

abbrev Script (σ ρ α : Type) : Type := StateT (World σ ρ) Option α

def call (effect : ρ → σ → α × σ) : Script σ ρ α := fun world =>
  match world.answers with
  | [] => none
  | answer :: answers =>
    some ((effect answer world.state).1, ⟨(effect answer world.state).2, answers⟩)

section Inversion

variable {world : World σ ρ} {x : Script σ ρ α} {f : α → Script σ ρ β} {outcome : β × World σ ρ}

theorem bind_eq_some : (x >>= f) world = some outcome ↔
    ∃ value between, x world = some (value, between) ∧ f value between = some outcome := by
  constructor
  · intro h
    obtain ⟨⟨value, between⟩, hx, hf⟩ := Option.bind_eq_some_iff.mp h
    exact ⟨value, between, hx, hf⟩
  · rintro ⟨value, between, hx, hf⟩
    exact Option.bind_eq_some_iff.mpr ⟨(value, between), hx, hf⟩

theorem pure_eq_some {value : β} :
    (pure value : Script σ ρ β) world = some outcome ↔ outcome = (value, world) :=
  ⟨fun h => (Option.some.inj h).symm, fun h => h ▸ rfl⟩

theorem call_eq_some {effect : ρ → σ → β × σ} : call effect world = some outcome ↔
    ∃ answer answers, world.answers = answer :: answers ∧
      outcome = ((effect answer world.state).1, ⟨(effect answer world.state).2, answers⟩) := by
  rw [call]
  cases world.answers with
  | nil => exact ⟨nofun, fun ⟨_, _, h, _⟩ => nomatch h⟩
  | cons answer answers =>
    constructor
    · intro h
      exact ⟨answer, answers, rfl, (Option.some.inj h).symm⟩
    · rintro ⟨_, _, hcons, rfl⟩
      obtain ⟨rfl, rfl⟩ := List.cons.inj hcons
      rfl

end Inversion

section Keeping

variable {x y : Script σ ρ α} {f : α → Script σ ρ β} {c : Prop} [Decidable c]

def Keeps (x : Script σ ρ α) : Prop :=
  ∀ world value after, x world = some (value, after) → after.state = world.state

theorem Keeps.pure (value : α) : Keeps (Pure.pure value : Script σ ρ α) := by
  intro world _ after h
  obtain ⟨-, rfl⟩ := Prod.mk.inj (pure_eq_some.mp h)
  rfl

theorem Keeps.bind (hx : Keeps x) (hf : ∀ value, Keeps (f value)) : Keeps (x >>= f) := by
  intro world _ after h
  obtain ⟨value, between, hfirst, hrest⟩ := bind_eq_some.mp h
  exact (hf value _ _ _ hrest).trans (hx _ _ _ hfirst)

theorem Keeps.ite (hx : c → Keeps x) (hy : ¬c → Keeps y) : Keeps (if c then x else y) := by
  split_ifs with h
  · exact hx h
  · exact hy h

theorem Keeps.call {effect : ρ → σ → α × σ} (h : ∀ answer state, (effect answer state).2 = state) :
    Keeps (call effect) := by
  intro world value after hcall
  obtain ⟨answer, answers, -, hout⟩ := call_eq_some.mp hcall
  rw [(Prod.mk.inj hout).2]
  exact h answer world.state

end Keeping

section Passing

variable {failed : ρ → Bool} {world between after : World σ ρ} {n m : Nat}

def Passes (failed : ρ → Bool) (n : Nat) (world after : World σ ρ) : Prop :=
  ∃ used : List ρ, world.answers = used ++ after.answers ∧ used.length = n ∧
    ∀ answer ∈ used, failed answer = false

theorem Passes.refl (h : after.answers = world.answers) : Passes failed 0 world after :=
  ⟨[], h.symm, rfl, nofun⟩

theorem Passes.trans (hfirst : Passes failed n world between)
    (hthen : Passes failed m between after) : Passes failed (n + m) world after := by
  obtain ⟨used, hused, rfl, hpassed⟩ := hfirst
  obtain ⟨rest, hrest, rfl, hothers⟩ := hthen
  refine ⟨used ++ rest, by rw [hused, hrest, List.append_assoc], List.length_append, ?_⟩
  intro answer hanswer
  exact (List.mem_append.mp hanswer).elim (hpassed answer) (hothers answer)

theorem Passes.one {answer : ρ} (h : world.answers = answer :: after.answers)
    (hanswer : failed answer = false) : Passes failed 1 world after :=
  ⟨[answer], h, rfl, fun _ hmem => List.mem_singleton.mp hmem ▸ hanswer⟩

def StopsAt (failed : ρ → Bool) (n : Nat) (world : World σ ρ) (answer : ρ) (after : World σ ρ) :
    Prop :=
  ∃ between : World σ ρ, Passes failed n world between ∧
    between.answers = answer :: after.answers ∧ failed answer

variable {answer : ρ}

theorem StopsAt.behind (hthen : StopsAt failed m between answer after)
    (hfirst : Passes failed n world between) : StopsAt failed (n + m) world answer after := by
  obtain ⟨last, hlast, hanswer, hfailed⟩ := hthen
  exact ⟨last, hfirst.trans hlast, hanswer, hfailed⟩

theorem StopsAt.findIdx_eq (h : StopsAt failed n world answer after) :
    world.answers.findIdx? failed = some n ∧ world.answers[n]? = some answer := by
  obtain ⟨between, ⟨used, hused, rfl, hpassed⟩, hanswer, hfailed⟩ := h
  rw [hused, hanswer]
  refine ⟨?_, by simp⟩
  rw [List.findIdx?_append, List.findIdx?_eq_none_iff.mpr hpassed, List.findIdx?_cons,
    if_pos hfailed]
  simp

theorem Passes.le_findIdx {k : Nat} (h : Passes failed n world after)
    (hk : world.answers.findIdx? failed = some k) : n ≤ k := by
  obtain ⟨used, hused, rfl, hpassed⟩ := h
  rw [hused, List.findIdx?_append, List.findIdx?_eq_none_iff.mpr hpassed] at hk
  obtain ⟨rest, -, rfl⟩ := Option.map_eq_some_iff.mp hk
  exact Nat.le_add_left _ _

end Passing

end HookSelf.Scripted
