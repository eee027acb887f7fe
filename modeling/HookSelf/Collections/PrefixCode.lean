import Mathlib

/-! Codes whose words can be read off one by one, up to a closing symbol. -/

namespace HookSelf.PrefixCode

variable {α β : Type} {code : α → List β} {stop : β}

/-- No word of the code begins another, and none begins with the closing symbol. -/
structure Delimited (code : α → List β) (stop : β) : Prop where
  inj {a b : α} {x y : List β} : code a ++ x = code b ++ y → a = b
  ne_stop {a : α} {x y : List β} : code a ++ x ≠ stop :: y

theorem Delimited.flatMap_append_inj (h : Delimited code stop) {as bs : List α} {x y : List β}
    (heq : as.flatMap code ++ stop :: x = bs.flatMap code ++ stop :: y) : as = bs ∧ x = y := by
  induction as generalizing bs with
  | nil =>
    cases bs with
    | nil => exact ⟨rfl, List.tail_eq_of_cons_eq heq⟩
    | cons b bs =>
      rw [List.flatMap_cons, List.append_assoc] at heq
      exact (h.ne_stop heq.symm).elim
  | cons a as ih =>
    cases bs with
    | nil =>
      rw [List.flatMap_cons, List.append_assoc] at heq
      exact (h.ne_stop heq).elim
    | cons b bs =>
      rw [List.flatMap_cons, List.flatMap_cons, List.append_assoc, List.append_assoc] at heq
      obtain rfl := h.inj heq
      obtain ⟨rfl, rfl⟩ := ih (List.append_cancel_left heq)
      exact ⟨rfl, rfl⟩

theorem append_stop_inj {as bs x y : List β} (has : stop ∉ as) (hbs : stop ∉ bs)
    (heq : as ++ stop :: x = bs ++ stop :: y) : as = bs ∧ x = y := by
  induction as generalizing bs with
  | nil =>
    cases bs with
    | nil => exact ⟨rfl, List.tail_eq_of_cons_eq heq⟩
    | cons b bs => exact (hbs (List.head_eq_of_cons_eq heq ▸ List.mem_cons_self)).elim
  | cons a as ih =>
    cases bs with
    | nil => exact (has (List.head_eq_of_cons_eq heq ▸ List.mem_cons_self)).elim
    | cons b bs =>
      obtain ⟨rfl, htail⟩ := List.cons_eq_cons.mp heq
      obtain ⟨rfl, rfl⟩ := ih (fun h => has (.tail _ h)) (fun h => hbs (.tail _ h)) htail
      exact ⟨rfl, rfl⟩

end HookSelf.PrefixCode
