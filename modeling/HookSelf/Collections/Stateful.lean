import Mathlib

/-! What holds of the value and the state after a computation with a state. -/

namespace HookSelf.Stateful

variable {σ α β : Type} {x : StateM σ α} {f : α → StateM σ β} {s : σ} {post mid : α → σ → Prop}

def After (x : StateM σ α) (s : σ) (post : α → σ → Prop) : Prop := post (x s).1 (x s).2

theorem After.pure {a : α} (h : post a s) : After (pure a : StateM σ α) s post := h

theorem After.imp (h : After x s mid) (himp : ∀ a s', mid a s' → post a s') : After x s post :=
  himp _ _ h

theorem After.bind {post : β → σ → Prop} (h : After x s mid)
    (hf : ∀ a s', mid a s' → After (f a) s' post) : After (x >>= f) s post :=
  hf _ _ h

theorem After.ite {c : Prop} [Decidable c] {y : StateM σ α} (hx : c → After x s post)
    (hy : ¬c → After y s post) : After (if c then x else y) s post := by
  split_ifs with hc
  · exact hx hc
  · exact hy hc

end HookSelf.Stateful
