import Mathlib

/-! Fixed-capacity tables indexed by slot: counting the slots with a property, searching for a
free slot from a hint, and loops over all slots in ascending order. -/

universe u v

namespace HookSelf.SlotTable

section Count

variable {p q : Nat → Prop} [DecidablePred p] [DecidablePred q] {n s : Nat}

theorem count_change_one (hs : s < n) (h : ∀ x, x ≠ s → (q x ↔ p x)) :
    Nat.count q n + (if p s then 1 else 0) = Nat.count p n + (if q s then 1 else 0) := by
  induction n with
  | zero => omega
  | succ n ih =>
    rw [Nat.count_succ, Nat.count_succ]
    by_cases hn : s = n
    · subst hn
      have same : Nat.count q s = Nat.count p s := by
        clear ih hs
        have hlt : ∀ m, m ≤ s → Nat.count q m = Nat.count p m := by
          intro m
          induction m with
          | zero => intro _; rfl
          | succ m ihm =>
            intro hm
            rw [Nat.count_succ, Nat.count_succ, ihm (by omega)]
            simp [h m (by omega)]
        exact hlt s le_rfl
      omega
    · have := ih (by omega)
      have hq : (if q n then 1 else 0) = (if p n then 1 else 0) := by
        simp [h n (Ne.symm hn)]
      omega

theorem count_congr (h : ∀ x < n, (q x ↔ p x)) : Nat.count q n = Nat.count p n := by
  induction n with
  | zero => rfl
  | succ n ih =>
    rw [Nat.count_succ, Nat.count_succ, ih fun x hx => h x (by omega)]
    simp [h n (by omega)]

theorem count_eq_zero : Nat.count p n = 0 ↔ ∀ x < n, ¬p x := by
  induction n with
  | zero => simp
  | succ n ih =>
    rw [Nat.count_succ]
    constructor
    · intro h x hx
      have hn : ¬p n := by
        intro hp
        simp [hp] at h
      rcases Nat.lt_succ_iff_lt_or_eq.mp hx with hx | rfl
      · exact ih.mp (by omega) x hx
      · exact hn
    · intro h
      have hn := h n (by omega)
      simp [hn, ih.mpr fun x hx => h x (by omega)]

theorem count_pos_of (hs : s < n) (hp : p s) : 0 < Nat.count p n := by
  rcases Nat.eq_zero_or_pos (Nat.count p n) with h | h
  · exact absurd hp (count_eq_zero.mp h s hs)
  · exact h

end Count

section Tally

variable {α : Type u} {f : Nat → α} {p q : α → Prop} [DecidablePred p] [DecidablePred q]
  {n s : Nat} {v : α}

/-- How many of the first `n` slots of a table hold a record with the property. -/
def tally (n : Nat) (f : Nat → α) (p : α → Prop) [DecidablePred p] : Nat :=
  Nat.count (fun x => p (f x)) n

theorem tally_update (hs : s < n) : tally n (Function.update f s v) p + (if p (f s) then 1 else 0) =
    tally n f p + (if p v then 1 else 0) := by
  have h := count_change_one (p := fun x => p (f x)) (q := fun x => p (Function.update f s v x)) hs
    fun x hx => by rw [Function.update_of_ne hx]
  simp only [Function.update_self] at h
  exact h

theorem tally_update_iff (hs : s < n) (h : p v ↔ p (f s)) :
    tally n (Function.update f s v) p = tally n f p := by
  have := tally_update hs (f := f) (p := p) (v := v)
  simp only [h] at this
  omega

theorem tally_occupy (hs : s < n) (hold : ¬p (f s)) (hnew : p v) :
    tally n (Function.update f s v) p = tally n f p + 1 := by
  have := tally_update hs (f := f) (p := p) (v := v)
  simpa [hold, hnew] using this

theorem tally_vacate (hs : s < n) (hold : p (f s)) (hnew : ¬p v) :
    tally n (Function.update f s v) p = tally n f p - 1 := by
  have := tally_update hs (f := f) (p := p) (v := v)
  simp only [hold, hnew, if_true, if_false] at this
  omega

theorem tally_congr {g : Nat → α} (h : ∀ x < n, (q (g x) ↔ p (f x))) : tally n g q = tally n f p :=
  count_congr h

theorem tally_eq_zero : tally n f p = 0 ↔ ∀ x < n, ¬p (f x) := count_eq_zero

theorem tally_pos (hs : s < n) (hp : p (f s)) : 0 < tally n f p :=
  count_pos_of (p := fun x => p (f x)) hs hp

theorem tally_le : tally n f p ≤ n := Nat.count_le _

theorem tally_of_forall (h : ∀ x < n, p (f x)) : tally n f p = n := Nat.count_of_forall h

theorem forall_update {P : Nat → α → Prop} (h : ∀ x < n, P x (f x)) (hv : P s v) :
    ∀ x < n, P x (Function.update f s v x) := by
  intro x hx
  by_cases hxs : x = s
  · subst hxs
    rwa [Function.update_self]
  · rw [Function.update_of_ne hxs]
    exact h x hx

end Tally

section Search

variable {p : Nat → Prop} [DecidablePred p] {n s hint : Nat}

def firstSlot (n : Nat) (p : Nat → Prop) [DecidablePred p] : Option Nat :=
  (List.range n).find? fun s => decide (p s)

theorem firstSlot_some (h : firstSlot n p = some s) : s < n ∧ p s := by
  have hp := List.find?_some h
  have hm := List.mem_of_find?_eq_some h
  simp at hp hm
  exact ⟨hm, hp⟩

theorem firstSlot_some_iff :
    firstSlot n p = some s ↔ s < n ∧ p s ∧ ∀ x < s, ¬p x := by
  simp only [firstSlot, List.find?_range_eq_some, decide_eq_true_eq, List.mem_range]
  constructor
  · rintro ⟨hp, hs, hmin⟩
    exact ⟨hs, hp, fun x hx => by simpa using hmin x hx⟩
  · rintro ⟨hs, hp, hmin⟩
    exact ⟨hp, hs, fun x hx => by simpa using hmin x hx⟩

theorem firstSlot_none : firstSlot n p = none ↔ ∀ x < n, ¬p x := by
  simp [firstSlot]

theorem firstSlot_congr {q : Nat → Prop} [DecidablePred q] (h : ∀ x < n, (p x ↔ q x)) :
    firstSlot n p = firstSlot n q := by
  ext s
  simp only [firstSlot_some_iff]
  refine and_congr_right fun hs => and_congr (h s hs) (forall₂_congr fun x hx => ?_)
  rw [h x (by omega)]

theorem firstSlot_unique (hs : s < n) (hp : p s) (huniq : ∀ x < n, p x → x = s) :
    firstSlot n p = some s := by
  rw [firstSlot_some_iff]
  refine ⟨hs, hp, fun x hx hpx => ?_⟩
  have := huniq x (by omega) hpx
  omega

/-- The slot reached `offset` places after `hint`, wrapping once at the capacity. -/
def wrapSlot (n hint offset : Nat) : Nat :=
  if hint + offset ≥ n then hint + offset - n else hint + offset

def slotFrom (n hint : Nat) (p : Nat → Prop) [DecidablePred p] : Option Nat :=
  ((List.range n).map (wrapSlot n hint)).find? fun s => decide (p s)

theorem slotFrom_some (hint_lt : hint < n) (h : slotFrom n hint p = some s) : s < n ∧ p s := by
  have hp := List.find?_some h
  have hm := List.mem_of_find?_eq_some h
  simp only [List.mem_map, List.mem_range, decide_eq_true_eq] at hp hm
  obtain ⟨off, hoff, rfl⟩ := hm
  refine ⟨?_, hp⟩
  unfold wrapSlot
  split_ifs <;> omega

theorem slotFrom_none (hint_lt : hint < n) (h : slotFrom n hint p = none) (hs : s < n) : ¬p s := by
  have hall := List.find?_eq_none.mp h
  simp only [List.mem_map, List.mem_range, decide_eq_true_eq, forall_exists_index, and_imp] at hall
  refine hall s (if hint ≤ s then s - hint else s + n - hint) ?_ ?_
  · split_ifs <;> omega
  · unfold wrapSlot
    split_ifs <;> omega

def advanceHint (slot capacity : Nat) : Nat :=
  if slot + 1 = capacity then 0 else slot + 1

theorem advanceHint_lt (hs : s < n) : advanceHint s n < n := by
  unfold advanceHint
  split_ifs <;> omega

end Search

section Loops

variable {α : Type u} {ε : Type v}

def forSlots (body : Nat → α → α) : Nat → α → α
  | 0, a => a
  | n + 1, a => body n (forSlots body n a)

/-- What holds before the loop and is carried from each slot to the next holds after it. -/
theorem forSlots_induct {f : Nat → α → α} (P : Nat → α → Prop) {n : Nat} {a : α}
    (init : P 0 a) (step : ∀ k < n, ∀ b, P k b → P (k + 1) (f k b)) :
    P n (forSlots f n a) := by
  induction n with
  | zero => exact init
  | succ n ih => exact step n (by omega) _ (ih fun k hk => step k (by omega))

/-- A loop that maps every record of a table, where `set` puts the records into the state. -/
theorem forSlots_map {ρ : Type} (get : α → Nat → ρ) (set : α → (Nat → ρ) → α)
    (hself : ∀ a, set a (get a) = a) (hget : ∀ a r, get (set a r) = r)
    (hset : ∀ a r r', set (set a r) r' = set a r') (g : ρ → ρ) (n : Nat) (a : α) :
    forSlots (fun slot a => set a (Function.update (get a) slot (g (get a slot)))) n a =
      set a fun s => if s < n then g (get a s) else get a s := by
  refine forSlots_induct (fun k b => b = set a fun s => if s < k then g (get a s) else get a s) ?_ ?_
  · simpa using (hself a).symm
  rintro k - b rfl
  rw [hset, hget]
  congr 1
  funext s
  rw [Function.update_apply]
  by_cases hs : s = k
  · simp [hs]
  · have hiff : s < k + 1 ↔ s < k := by omega
    simp [hs, hiff]

theorem forSlots_inv {f : Nat → α → α} (P : α → Prop) {n : Nat} {a : α}
    (init : P a) (step : ∀ k < n, ∀ b, P b → P (f k b)) : P (forSlots f n a) :=
  forSlots_induct (fun _ => P) init step

def tryForSlots (body : Nat → α → α × Except ε Unit) : Nat → α → α × Except ε Unit
  | 0, a => (a, .ok ())
  | n + 1, a =>
    match tryForSlots body n a with
    | (b, .error e) => (b, .error e)
    | (b, .ok ()) => body n b

def Ends (P : α → Prop) (Q : α → ε → Prop) : α × Except ε Unit → Prop
  | (a, .ok ()) => P a
  | (a, .error e) => Q a e

theorem tryForSlots_induct {f : Nat → α → α × Except ε Unit}
    (P : Nat → α → Prop) (Q : α → ε → Prop) {n : Nat} {a : α} (init : P 0 a)
    (step : ∀ k < n, ∀ b, P k b → Ends (P (k + 1)) Q (f k b)) :
    Ends (P n) Q (tryForSlots f n a) := by
  induction n with
  | zero => exact init
  | succ n ih =>
    have prev := ih fun k hk => step k (by omega)
    simp only [tryForSlots]
    rcases hres : tryForSlots f n a with ⟨b, _ | _⟩
    · rw [hres] at prev
      exact prev
    · rw [hres] at prev
      exact step n (by omega) b prev

/-- Copying an occupied slot of a table behind those already at the front of an array. -/
def packSlot (select : Nat → Option α) (slot : Nat) (packed : (Nat → α) × Nat) : (Nat → α) × Nat :=
  match select slot with
  | none => packed
  | some entry => (Function.update packed.1 packed.2 entry, packed.2 + 1)

def packSlots (select : Nat → Option α) (n : Nat) (array : Nat → α) : (Nat → α) × Nat :=
  forSlots (packSlot select) n (array, 0)

end Loops

end HookSelf.SlotTable
