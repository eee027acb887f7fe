import Mathlib

/-! Programs that carry a state and may fail with an error. -/

namespace HookSelf.Fallible

variable {ε σ α β : Type} {x y : ExceptT ε (StateM σ) α} {f : α → ExceptT ε (StateM σ) β}
  {a : α} {e : ε} {s t : σ} {c : Prop} [Decidable c]

section Run

theorem run_bind (x : ExceptT ε (StateM σ) α) (f : α → ExceptT ε (StateM σ) β) (s : σ) :
    (x >>= f).run s =
      match x.run s with
      | (.ok a, t) => (f a).run t
      | (.error e, t) => (.error e, t) := by
  show (ExceptT.bind x f) s = _
  simp only [ExceptT.bind, ExceptT.mk, bind, StateT.bind, ExceptT.run]
  rcases x s with ⟨e | a, t⟩
  · rfl
  · rfl

theorem run_bind_ok (h : x.run s = (.ok a, t)) : (x >>= f).run s = (f a).run t := by
  rw [run_bind, h]

theorem run_bind_error (h : x.run s = (.error e, t)) : (x >>= f).run s = (.error e, t) := by
  rw [run_bind, h]

theorem run_tryCatch (x : ExceptT ε (StateM σ) α) (g : ε → ExceptT ε (StateM σ) α) (s : σ) :
    (tryCatch x g).run s =
      match x.run s with
      | (.ok a, t) => (.ok a, t)
      | (.error e, t) => (g e).run t := by
  show (ExceptT.tryCatch x g) s = _
  simp only [ExceptT.tryCatch, ExceptT.mk, bind, StateT.bind, ExceptT.run]
  rcases x s with ⟨e | a, t⟩
  · rfl
  · rfl

end Run

section Ensures

variable {P Q : α → Prop} {R : β → Prop}

/-- Every value that the program returns satisfies the condition. -/
def Ensures (x : ExceptT ε (StateM σ) α) (P : α → Prop) : Prop :=
  ∀ s a t, x.run s = (.ok a, t) → P a

theorem Ensures.pure (h : P a) : Ensures (Pure.pure a : ExceptT ε (StateM σ) α) P := by
  rintro s b t heq
  obtain rfl : a = b := Except.ok.inj (Prod.mk.inj heq).1
  exact h

theorem Ensures.throw : Ensures (throw e : ExceptT ε (StateM σ) α) P :=
  fun _ _ _ heq => nomatch (Prod.mk.inj heq).1

theorem Ensures.imp (h : Ensures x P) (hPQ : ∀ a, P a → Q a) : Ensures x Q :=
  fun s a t heq => hPQ a (h s a t heq)

theorem Ensures.bind (hx : Ensures x P) (hf : ∀ a, P a → Ensures (f a) R) :
    Ensures (x >>= f) R := by
  intro s b t heq
  rw [run_bind] at heq
  rcases hrun : x.run s with ⟨e | a, u⟩
  · rw [hrun] at heq
    exact nomatch (Prod.mk.inj heq).1
  · rw [hrun] at heq
    exact hf a (hx s a u hrun) u b t heq

theorem Ensures.map {g : α → β} (hx : Ensures x fun a => R (g a)) : Ensures (g <$> x) R := by
  rw [map_eq_pure_bind]
  exact hx.bind fun a ha => .pure ha

theorem Ensures.ite (hx : c → Ensures x P) (hy : ¬c → Ensures y P) :
    Ensures (if c then x else y) P := by
  split_ifs with hc
  · exact hx hc
  · exact hy hc

theorem Ensures.tryCatch {g : ε → ExceptT ε (StateM σ) α} (hx : Ensures x P)
    (hg : ∀ e, Ensures (g e) P) : Ensures (tryCatch x g) P := by
  intro s a t heq
  rw [run_tryCatch] at heq
  rcases hrun : x.run s with ⟨e | b, u⟩
  · rw [hrun] at heq
    exact hg e u a t heq
  · rw [hrun] at heq
    obtain rfl : b = a := Except.ok.inj (Prod.mk.inj heq).1
    exact hx s b u hrun

theorem Ensures.trivial : Ensures x fun _ => True := fun _ _ _ _ => True.intro

end Ensures

section Yields

variable {Q : α → σ → Prop} {R : β → σ → Prop} {E : ε → σ → Prop}

/-- What holds after a program that is run from a state, whether it returns or fails. -/
def Yields (x : ExceptT ε (StateM σ) α) (s : σ) (Q : α → σ → Prop) (E : ε → σ → Prop) : Prop :=
  match x.run s with
  | (.ok a, t) => Q a t
  | (.error e, t) => E e t

theorem Yields.pure (h : Q a s) : Yields (Pure.pure a : ExceptT ε (StateM σ) α) s Q E := h

theorem Yields.throw (h : E e s) : Yields (throw e : ExceptT ε (StateM σ) α) s Q E := h

theorem Yields.of_ok (hrun : x.run s = (.ok a, t)) (h : Q a t) : Yields x s Q E := by
  rw [Yields, hrun]
  exact h

theorem Yields.of_error (hrun : x.run s = (.error e, t)) (h : E e t) : Yields x s Q E := by
  rw [Yields, hrun]
  exact h

theorem Yields.imp {S : α → σ → Prop} {F : ε → σ → Prop} (h : Yields x s Q E)
    (hQS : ∀ a t, Q a t → S a t) (hEF : ∀ e t, E e t → F e t) : Yields x s S F := by
  unfold Yields at h ⊢
  rcases hrun : x.run s with ⟨e | a, t⟩
  · rw [hrun] at h
    exact hEF e t h
  · rw [hrun] at h
    exact hQS a t h

theorem Yields.bind {F : ε → σ → Prop} (h : Yields x s Q F) (hF : ∀ e t, F e t → E e t)
    (hf : ∀ a t, Q a t → Yields (f a) t R E) : Yields (x >>= f) s R E := by
  unfold Yields at h ⊢
  rw [run_bind]
  rcases hrun : x.run s with ⟨e | a, t⟩
  · rw [hrun] at h
    exact hF e t h
  · rw [hrun] at h
    exact hf a t h

theorem Yields.bind_ok (h : Yields x s Q fun _ _ => False)
    (hf : ∀ a t, Q a t → Yields (f a) t R E) : Yields (x >>= f) s R E :=
  h.bind (fun _ _ => False.elim) hf

theorem Yields.ite (hx : c → Yields x s Q E) (hy : ¬c → Yields y s Q E) :
    Yields (if c then x else y) s Q E := by
  split_ifs with hc
  · exact hx hc
  · exact hy hc

end Yields

end HookSelf.Fallible
