import Mathlib

/-! What holds after an operation that returned a value, for operations that return a state
together with a value or an error. -/

namespace HookSelf.Postcondition

variable {σ ε α : Type} {outcome x y : σ × Except ε α} {post : σ → α → Prop} {c : Prop} [Decidable c]
  {state : σ}

/-- If the operation returned a value, the condition holds of it and of the state left behind. -/
def Grants (outcome : σ × Except ε α) (post : σ → α → Prop) : Prop :=
  ∀ value, outcome.2 = .ok value → post outcome.1 value

theorem Grants.refused {e : ε} : Grants (state, .error e) post := fun _ h => nomatch h

theorem Grants.done {value : α} (h : post state value) : Grants (state, (.ok value : Except ε α)) post :=
  fun _ heq => Except.ok.inj heq ▸ h

theorem Grants.ite (hx : c → Grants x post) (hy : ¬c → Grants y post) :
    Grants (if c then x else y) post := by
  split_ifs with hc
  · exact hx hc
  · exact hy hc

theorem Grants.guard {e : ε} (hy : ¬c → Grants y post) :
    Grants (if c then (state, .error e) else y) post :=
  .ite (fun _ => .refused) hy

end HookSelf.Postcondition
