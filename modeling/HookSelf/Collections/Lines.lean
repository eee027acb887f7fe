import HookSelf.Collections.Components

/-! A text as the list of its records, each with the separator that ends it. -/

namespace HookSelf.Lines

variable {α : Type} [DecidableEq α] {sep : α} {l r text record : List α}

def records (sep : α) : List α → List (List α)
  | [] => []
  | a :: rest =>
    if a = sep then [a] :: records sep rest
    else
      match records sep rest with
      | [] => [[a]]
      | record :: others => (a :: record) :: others

def line (sep : α) (text : List α) : List α := text.takeWhile (· ≠ sep)

def recordLength (sep : α) (text : List α) : ℕ :=
  let lineEnd := (line sep text).length
  if lineEnd < text.length then lineEnd + 1 else lineEnd

theorem records_append_cons (h : sep ∉ l) :
    records sep (l ++ sep :: r) = (l ++ [sep]) :: records sep r := by
  induction l with
  | nil => simp [records]
  | cons a l ih =>
    rw [List.mem_cons, not_or] at h
    rw [List.cons_append, records, if_neg (Ne.symm h.1), ih h.2]
    rfl

theorem records_of_not_mem (h : sep ∉ l) (hne : l ≠ []) : records sep l = [l] := by
  induction l with
  | nil => exact absurd rfl hne
  | cons a l ih =>
    rw [List.mem_cons, not_or] at h
    rw [records, if_neg (Ne.symm h.1)]
    by_cases hl : l = []
    · subst hl
      rfl
    · rw [ih h.2 hl]

theorem line_append_cons (h : sep ∉ l) : line sep (l ++ sep :: r) = l := by
  rw [line, List.takeWhile_append_of_pos fun a ha => by simpa using ne_of_mem_of_not_mem ha h,
    List.takeWhile_cons_of_neg (by simp), List.append_nil]

theorem line_of_not_mem (h : sep ∉ l) : line sep l = l := by
  induction l with
  | nil => rfl
  | cons a l ih =>
    rw [List.mem_cons, not_or] at h
    rw [line, List.takeWhile_cons_of_pos (by simpa using Ne.symm h.1), ← line, ih h.2]

theorem recordLength_append_cons (h : sep ∉ l) :
    recordLength sep (l ++ sep :: r) = l.length + 1 := by
  rw [recordLength, line_append_cons h]
  simp

theorem recordLength_of_not_mem (h : sep ∉ l) : recordLength sep l = l.length := by
  rw [recordLength, line_of_not_mem h]
  simp

theorem records_eq_cons (hne : text ≠ []) : records sep text =
    text.take (recordLength sep text) :: records sep (text.drop (recordLength sep text)) := by
  cases text using Components.split_induction sep with
  | last l hl =>
    rw [recordLength_of_not_mem hl, records_of_not_mem hl hne]
    simp [records]
  | cons l r hl =>
    rw [recordLength_append_cons hl, records_append_cons hl, ← List.singleton_append (l := r),
      ← List.append_assoc, List.take_left' (by simp), List.drop_left' (by simp)]

theorem recordLength_pos (hne : text ≠ []) :
    0 < recordLength sep text ∧ recordLength sep text ≤ text.length := by
  cases text using Components.split_induction sep with
  | last l hl => simpa [recordLength_of_not_mem hl] using List.length_pos_iff.mpr hne
  | cons l r hl => simp [recordLength_append_cons hl]

theorem line_take (text : List α) :
    line sep (text.take (recordLength sep text)) = line sep text := by
  cases text using Components.split_induction sep with
  | last l hl => rw [recordLength_of_not_mem hl, List.take_length]
  | cons l r hl =>
    rw [recordLength_append_cons hl, ← List.singleton_append (l := r), ← List.append_assoc,
      List.take_left' (by simp), List.append_assoc, List.singleton_append, line_append_cons hl,
      line_append_cons hl]

theorem flatten_records (text : List α) : (records sep text).flatten = text := by
  induction text using Components.split_induction sep with
  | last l hl =>
    by_cases hne : l = []
    · simp [hne, records]
    · simp [records_of_not_mem hl hne]
  | cons l r hl ih => simp [records_append_cons hl, ih]

theorem drop_line_of_mem_records (h : record ∈ records sep text) :
    record.drop (line sep record).length = [] ∨ record.drop (line sep record).length = [sep] := by
  induction text using Components.split_induction sep with
  | last l hl =>
    by_cases hne : l = []
    · simp [hne, records] at h
    · rw [records_of_not_mem hl hne, List.mem_singleton] at h
      rw [h, line_of_not_mem hl, List.drop_length]
      exact .inl rfl
  | cons l r hl ih =>
    rw [records_append_cons hl, List.mem_cons] at h
    rcases h with rfl | h
    · rw [line_append_cons hl, List.drop_left]
      exact .inr rfl
    · exact ih h

theorem length_records_le (text : List α) : (records sep text).length ≤ text.length := by
  induction text using Components.split_induction sep with
  | last l hl =>
    by_cases hne : l = []
    · simp [hne, records]
    · have hpos := List.length_pos_iff.mpr hne
      rw [records_of_not_mem hl hne, List.length_singleton]
      exact hpos
  | cons l r hl ih =>
    rw [records_append_cons hl, List.length_cons, List.length_append, List.length_cons]
    omega

/-- What is kept of the records of a text has just these records. -/
theorem records_filter (p : List α → Bool) (text : List α) :
    records sep ((records sep text).filter p).flatten = (records sep text).filter p := by
  induction text using Components.split_induction sep with
  | last l hl =>
    by_cases hne : l = []
    · simp [hne, records]
    · rw [records_of_not_mem hl hne, List.filter_cons]
      split_ifs
      · simpa using records_of_not_mem hl hne
      · rfl
  | cons l r hl ih =>
    rw [records_append_cons hl, List.filter_cons]
    split_ifs
    · rw [List.flatten_cons, List.append_assoc, List.singleton_append, records_append_cons hl, ih]
    · exact ih

end HookSelf.Lines
