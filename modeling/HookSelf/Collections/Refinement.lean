import Mathlib

/-! Runs of calls that answer and change a state, and abstractions that every call respects. -/

namespace HookSelf.Refinement

variable {σ τ γ ρ : Type} {run : σ → γ → ρ × σ} {spec : τ → γ → ρ × τ}

/-- The answers to the calls, in order, and the state they leave. -/
def runAll (run : σ → γ → ρ × σ) : List γ → σ → List ρ × σ
  | [], state => ([], state)
  | call :: calls, state =>
    let (answer, next) := run state call
    let (answers, last) := runAll run calls next
    (answer :: answers, last)

/-- The call answers as specified, and the abstraction of what it leaves is what is specified. -/
structure Refines (Inv : σ → Prop) (abs : σ → τ) (result : ρ × σ) (specified : ρ × τ) : Prop where
  inv : Inv result.2
  answer : result.1 = specified.1
  state : abs result.2 = specified.2

theorem Refines.map {Inv : σ → Prop} {abs : σ → τ} {result : ρ × σ} {specified : ρ × τ} {ρ' : Type}
    (h : Refines Inv abs result specified) (g : ρ → ρ') :
    Refines Inv abs (result.map g id) (specified.map g id) :=
  ⟨h.inv, congrArg g h.answer, h.state⟩

theorem runAll_refines {Inv : σ → Prop} {abs : σ → τ} {Allowed : γ → Prop}
    (hstep : ∀ state call, Inv state → Allowed call →
      Refines Inv abs (run state call) (spec (abs state) call))
    {state : σ} (h : Inv state) {calls : List γ} (hcalls : ∀ call ∈ calls, Allowed call) :
    Refines Inv abs (runAll run calls state) (runAll spec calls (abs state)) := by
  induction calls generalizing state with
  | nil => exact ⟨h, rfl, rfl⟩
  | cons call calls ih =>
    rw [List.forall_mem_cons] at hcalls
    have hfirst := hstep state call h hcalls.1
    have hrest := ih hfirst.inv hcalls.2
    rw [hfirst.state] at hrest
    exact ⟨hrest.inv, congrArg₂ List.cons hfirst.answer hrest.answer, hrest.state⟩

end HookSelf.Refinement
