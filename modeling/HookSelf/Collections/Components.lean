import Mathlib

/-! Strings as lists of components between separators, and how `.` and `..` act on such lists. -/

namespace HookSelf.Components

variable {α : Type} {sep dot : α}

def components [DecidableEq α] (sep : α) (l : List α) : List (List α) :=
  (l.splitOn sep).filter (· ≠ [])

def joined (sep : α) (parts : List (List α)) : List α := parts.flatMap (sep :: ·)

def render (sep : α) (parts : List (List α)) : List α :=
  if parts = [] then [sep] else joined sep parts

def step [DecidableEq α] (dot : α) (parts : List (List α)) (part : List α) : List (List α) :=
  if part = [dot] then parts else if part = [dot, dot] then parts.dropLast else parts ++ [part]

def resolve [DecidableEq α] (dot : α) (parts : List (List α)) : List (List α) :=
  parts.foldl (step dot) []

structure Plain (sep dot : α) (part : List α) : Prop where
  nonempty : part ≠ []
  unbroken : sep ∉ part
  ne_here : part ≠ [dot]
  ne_up : part ≠ [dot, dot]

section Split

variable [DecidableEq α]

@[simp] theorem components_nil : components sep ([] : List α) = [] := by
  simp [components, List.splitOn]

theorem components_append_cons (l r : List α) :
    components sep (l ++ sep :: r) = components sep l ++ components sep r := by
  simp only [components, List.splitOn]
  rw [List.splitOnP_append_cons _ _ (by simp), List.filter_append]

theorem components_cons_sep (l : List α) : components sep (sep :: l) = components sep l :=
  components_append_cons [] l

theorem components_of_not_mem {l : List α} (h : sep ∉ l) :
    components sep l = if l = [] then [] else [l] := by
  have hsingle : l.splitOn sep = [l] :=
    List.splitOnP_eq_singleton fun a ha => by simpa using ne_of_mem_of_not_mem ha h
  rw [components, hsingle]
  by_cases hl : l = [] <;> simp [hl]

theorem components_append_sep (l : List α) : components sep (l ++ [sep]) = components sep l := by
  rw [components_append_cons, components_nil, List.append_nil]

/-- Strings are built from unbroken parts. -/
theorem split_induction (sep : α) {motive : List α → Prop} (last : ∀ l, sep ∉ l → motive l)
    (cons : ∀ l r, sep ∉ l → motive r → motive (l ++ sep :: r)) (l : List α) : motive l := by
  induction hlength : l.length using Nat.strongRecOn generalizing l with
  | ind n ih =>
    by_cases hmem : sep ∈ l
    · obtain ⟨first, rest, rfl, hfirst⟩ := List.eq_append_cons_of_mem hmem
      refine cons first rest hfirst (ih rest.length ?_ rest rfl)
      rw [← hlength, List.length_append, List.length_cons]
      omega
    · exact last l hmem

theorem mem_components {l part : List α} (h : part ∈ components sep l) :
    part ≠ [] ∧ sep ∉ part := by
  induction l using split_induction sep with
  | last l hl =>
    rw [components_of_not_mem hl] at h
    split_ifs at h with hempty
    · exact absurd h List.not_mem_nil
    · obtain rfl := List.mem_singleton.mp h
      exact ⟨hempty, hl⟩
  | cons l r hl ih =>
    rw [components_append_cons, components_of_not_mem hl] at h
    rcases List.mem_append.mp h with hfirst | hrest
    · split_ifs at hfirst with hempty
      · exact absurd hfirst List.not_mem_nil
      · obtain rfl := List.mem_singleton.mp hfirst
        exact ⟨hempty, hl⟩
    · exact ih hrest

theorem joined_components_length (l : List α) :
    (joined sep (components sep l)).length ≤ l.length + 1 := by
  induction l using split_induction sep with
  | last l hl =>
    rw [components_of_not_mem hl]
    split_ifs <;> simp [joined]
  | cons l r hl ih =>
    have hfirst : (joined sep (components sep l)).length ≤ l.length + 1 := by
      rw [components_of_not_mem hl]
      split_ifs <;> simp [joined]
    rw [components_append_cons, joined, List.flatMap_append, List.length_append,
      List.length_append, List.length_cons]
    unfold joined at hfirst ih
    omega

end Split

section Render

variable {parts rest : List (List α)} {part : List α}

theorem joined_append (parts rest : List (List α)) :
    joined sep (parts ++ rest) = joined sep parts ++ joined sep rest :=
  List.flatMap_append

theorem joined_singleton (part : List α) : joined sep [part] = sep :: part := by simp [joined]

theorem render_of_ne_nil (h : parts ≠ []) : render sep parts = joined sep parts := if_neg h

theorem render_append_singleton (parts : List (List α)) (part : List α) :
    render sep (parts ++ [part]) =
      if parts = [] then render sep parts ++ part else render sep parts ++ sep :: part := by
  rw [render_of_ne_nil (List.append_ne_nil_of_right_ne_nil _ (List.cons_ne_nil _ _)), joined_append,
    joined_singleton]
  split_ifs with hparts
  · subst hparts
    rfl
  · rw [render_of_ne_nil hparts]

theorem joined_length_pos (h : parts ≠ []) : 0 < (joined sep parts).length := by
  obtain ⟨part, rest, rfl⟩ := List.exists_cons_of_ne_nil h
  simp [joined]

theorem render_length_pos (parts : List (List α)) : 0 < (render sep parts).length := by
  unfold render
  split_ifs with hparts
  · exact Nat.one_pos
  · exact joined_length_pos hparts

theorem one_lt_render_length (hparts : ∀ part ∈ parts, part ≠ []) :
    1 < (render sep parts).length ↔ parts ≠ [] := by
  constructor
  · rintro hlength rfl
    simp [render] at hlength
  · intro hne
    obtain ⟨part, rest, rfl⟩ := List.exists_cons_of_ne_nil hne
    have := List.length_pos_iff.mpr (hparts part List.mem_cons_self)
    rw [render_of_ne_nil hne]
    simp only [joined, List.flatMap_cons, List.length_append, List.length_cons]
    omega

theorem render_length_le (parts rest : List (List α)) :
    (render sep parts).length ≤ (render sep (parts ++ rest)).length := by
  by_cases hparts : parts = []
  · subst hparts
    exact render_length_pos _
  · rw [render_of_ne_nil hparts, render_of_ne_nil (List.append_ne_nil_of_left_ne_nil hparts _),
      joined_append, List.length_append]
    exact Nat.le_add_right _ _

variable [DecidableEq α]

theorem components_joined (hparts : ∀ part ∈ parts, part ≠ [] ∧ sep ∉ part) :
    components sep (joined sep parts) = parts := by
  induction parts using List.reverseRecOn with
  | nil => exact components_nil
  | append_singleton parts part ih =>
    obtain ⟨hne, hunbroken⟩ := hparts part (List.mem_append_right _ List.mem_cons_self)
    rw [joined_append, joined_singleton, components_append_cons,
      ih fun other hother => hparts other (List.mem_append_left _ hother),
      components_of_not_mem hunbroken, if_neg hne]

theorem components_render (hparts : ∀ part ∈ parts, part ≠ [] ∧ sep ∉ part) :
    components sep (render sep parts) = parts := by
  unfold render
  split_ifs with hempty
  · rw [hempty, components_cons_sep, components_nil]
  · exact components_joined hparts

end Render

section Resolve

variable [DecidableEq α] {parts stack : List (List α)}

theorem step_plain {part : List α} (h : Plain sep dot part) (stack : List (List α)) :
    step dot stack part = stack ++ [part] := by
  rw [step, if_neg h.ne_here, if_neg h.ne_up]

theorem foldl_step_plain (h : ∀ part ∈ parts, Plain sep dot part) :
    parts.foldl (step dot) stack = stack ++ parts := by
  induction parts generalizing stack with
  | nil => exact (List.append_nil _).symm
  | cons part parts ih =>
    rw [List.foldl_cons, step_plain (h part List.mem_cons_self),
      ih fun other hother => h other (List.mem_cons_of_mem _ hother), List.append_assoc]
    rfl

theorem resolve_plain (h : ∀ part ∈ parts, Plain sep dot part) : resolve dot parts = parts :=
  foldl_step_plain h

theorem plain_step {part : List α} (hstack : ∀ other ∈ stack, Plain sep dot other)
    (hpart : part ≠ [] ∧ sep ∉ part) : ∀ other ∈ step dot stack part, Plain sep dot other := by
  unfold step
  split_ifs with hhere hup
  · exact hstack
  · exact fun other hother => hstack other (List.dropLast_subset _ hother)
  · intro other hother
    rcases List.mem_append.mp hother with hold | hnew
    · exact hstack other hold
    · obtain rfl := List.mem_singleton.mp hnew
      exact ⟨hpart.1, hpart.2, hhere, hup⟩

theorem plain_resolve (hparts : ∀ part ∈ parts, part ≠ [] ∧ sep ∉ part) :
    ∀ part ∈ resolve dot parts, Plain sep dot part := by
  suffices h : ∀ stack : List (List α), (∀ other ∈ stack, Plain sep dot other) →
      ∀ part ∈ parts.foldl (step dot) stack, Plain sep dot part from h [] nofun
  induction parts with
  | nil => exact fun _ hstack => hstack
  | cons part parts ih =>
    intro stack hstack
    exact ih (fun other hother => hparts other (List.mem_cons_of_mem _ hother)) _
      (plain_step hstack (hparts part List.mem_cons_self))

theorem joined_step_length (stack : List (List α)) (part : List α) :
    (joined sep (step dot stack part)).length ≤ (joined sep stack).length + part.length + 1 := by
  unfold step
  split_ifs
  · omega
  · obtain ⟨last, hlast⟩ := stack.dropLast_prefix
    have hlength := congrArg (fun parts => (joined sep parts).length) hlast
    simp only [joined_append, List.length_append] at hlength
    omega
  · rw [joined_append, joined_singleton, List.length_append, List.length_cons]
    omega

theorem joined_resolve_length (parts : List (List α)) :
    (joined sep (resolve dot parts)).length ≤ (joined sep parts).length := by
  suffices h : ∀ stack : List (List α), (joined sep (parts.foldl (step dot) stack)).length ≤
      (joined sep stack).length + (joined sep parts).length by simpa [resolve, joined] using h []
  induction parts with
  | nil => exact fun stack => Nat.le_add_right _ _
  | cons part parts ih =>
    intro stack
    have hfirst := @joined_step_length α sep dot _ stack part
    have hrest := ih (step dot stack part)
    rw [List.foldl_cons]
    simp only [joined, List.flatMap_cons, List.length_append, List.length_cons] at hfirst hrest ⊢
    omega

end Resolve

end HookSelf.Components
