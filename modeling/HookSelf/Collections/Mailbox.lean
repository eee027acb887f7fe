import Mathlib

/-! A box of elements taken out in the order they were put in, until it retires.  An element that
is final is only ever alone in the box, and taking it retires the box. -/

namespace HookSelf.Mailbox

variable {α : Type}

/-- What one step does to a box. -/
inductive Act (α : Type)
  | idle
  | put (a : α)
  | take (a : α)
  | retire

def puts : List (Act α) → List α
  | [] => []
  | .put a :: acts => a :: puts acts
  | _ :: acts => puts acts

def takes : List (Act α) → List α
  | [] => []
  | .take a :: acts => a :: takes acts
  | _ :: acts => takes acts

variable {final : α → Prop} {box box' : Option (List α)} {act : Act α} {acts : List (Act α)}
  {q q' : List α}

/-- One step of a box; a retired box is `none`. -/
inductive Step (final : α → Prop) : Option (List α) → Act α → Option (List α) → Prop
  | idle {box : Option (List α)} : Step final box .idle box
  | put {q : List α} {a : α} : Step final (some q) (.put a) (some (q ++ [a]))
  | take {q : List α} {a : α} (h : ¬final a) : Step final (some (a :: q)) (.take a) (some q)
  | last {a : α} (h : final a) : Step final (some [a]) (.take a) none
  | retire {q : List α} : Step final (some q) .retire none

inductive Steps (final : α → Prop) : Option (List α) → List (Act α) → Option (List α) → Prop
  | nil {box : Option (List α)} : Steps final box [] box
  | cons {box box' box'' : Option (List α)} {act : Act α} {acts : List (Act α)}
      (h : Step final box act box') (hs : Steps final box' acts box'') :
      Steps final box (act :: acts) box''

theorem Steps.retired (h : Steps final none acts box) :
    box = none ∧ puts acts = [] ∧ takes acts = [] := by
  induction acts with
  | nil =>
    cases h
    exact ⟨rfl, rfl, rfl⟩
  | cons act acts ih =>
    obtain _ | ⟨hstep, hrest⟩ := h
    cases hstep
    exact ih hrest

/-- What was there and what came in is what went out and what is left. -/
theorem Steps.conserve (h : Steps final (some q) acts (some q')) :
    q ++ puts acts = takes acts ++ q' := by
  induction acts generalizing q with
  | nil =>
    cases h
    simp [puts, takes]
  | cons act acts ih =>
    obtain _ | ⟨hstep, hrest⟩ := h
    cases hstep with
    | idle => exact ih hrest
    | put => simpa [puts, takes] using ih hrest
    | take => simpa [puts, takes] using ih hrest
    | last => exact nomatch hrest.retired.1
    | retire => exact nomatch hrest.retired.1

theorem Steps.takes_prefix (h : Steps final (some q) acts box) : takes acts <+: q ++ puts acts := by
  induction acts generalizing q with
  | nil => simp [takes]
  | cons act acts ih =>
    obtain _ | ⟨hstep, hrest⟩ := h
    cases hstep with
    | idle => exact ih hrest
    | put => simpa [puts, takes] using ih hrest
    | take => simpa [puts, takes] using ih hrest
    | last =>
      obtain ⟨-, hputs, htakes⟩ := hrest.retired
      simp [puts, takes, hputs, htakes]
    | retire =>
      obtain ⟨-, -, htakes⟩ := hrest.retired
      simp [takes, htakes]

/-- A final element is the last one taken, and the box is then retired. -/
theorem Steps.final_last (h : Steps final (some q) acts box) :
    (∀ a ∈ (takes acts).dropLast, ¬final a) ∧ ((∃ a ∈ takes acts, final a) → box = none) := by
  induction acts generalizing q with
  | nil => simp [takes]
  | cons act acts ih =>
    obtain _ | ⟨hstep, hrest⟩ := h
    cases hstep with
    | idle => exact ih hrest
    | put => exact ih hrest
    | @take _ a hfinal =>
      obtain ⟨hearlier, hbox⟩ := ih hrest
      rw [takes]
      refine ⟨fun b hb => ?_, fun ⟨b, hb, hbfinal⟩ => ?_⟩
      · rcases hlist : takes acts with _ | ⟨c, rest⟩
        · simp [hlist] at hb
        · rw [hlist, List.dropLast_cons_cons, List.mem_cons, ← hlist] at hb
          rcases hb with rfl | hb
          exacts [hfinal, hearlier b hb]
      · rcases List.mem_cons.mp hb with rfl | hb
        exacts [absurd hbfinal hfinal, hbox ⟨b, hb, hbfinal⟩]
    | last =>
      obtain ⟨hbox, -, htakes⟩ := hrest.retired
      simp [takes, htakes, hbox]
    | retire =>
      obtain ⟨hbox, -, htakes⟩ := hrest.retired
      simp [takes, htakes]

end HookSelf.Mailbox
