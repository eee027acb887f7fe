import HookSelf.Collections.Components
import HookSelf.PathResolver.Normalize

namespace HookSelf.PathResolver

open Components

abbrev parts (path : List UInt8) : List (List UInt8) := components slash path
abbrev shown (stack : List (List UInt8)) : List UInt8 := render slash stack
abbrev PlainParts (stack : List (List UInt8)) : Prop := ∀ part ∈ stack, Plain slash dot part

theorem shown_length_le (stack rest : List (List UInt8)) :
    (shown stack).length ≤ (shown (stack ++ rest)).length :=
  render_length_le stack rest

theorem shown_length_pos (stack : List (List UInt8)) : 0 < (shown stack).length :=
  render_length_pos stack

section Segments

variable {rest : List UInt8}

theorem parts_dropWhile (rest : List UInt8) :
    parts (rest.dropWhile (· = slash)) = parts rest := by
  induction rest with
  | nil => rfl
  | cons byte rest ih =>
    by_cases hbyte : byte = slash
    · subst hbyte
      rw [List.dropWhile_cons_of_pos (by simp), ih]
      exact (components_cons_sep rest).symm
    · rw [List.dropWhile_cons_of_neg (by simpa using hbyte)]

theorem nextSegment_unbroken (rest : List UInt8) : slash ∉ (nextSegment rest).1 := by
  intro hmem
  simpa using List.mem_takeWhile_imp hmem

theorem parts_nextSegment (rest : List UInt8) :
    parts rest = (if (nextSegment rest).1 = [] then [] else [(nextSegment rest).1]) ++
      parts (nextSegment rest).2 := by
  rw [← components_of_not_mem (nextSegment_unbroken rest), ← parts_dropWhile rest, nextSegment]
  generalize rest.dropWhile (· = slash) = start
  have hsplit := List.takeWhile_append_dropWhile (p := (· ≠ slash)) (l := start)
  cases hrest : start.dropWhile (· ≠ slash) with
  | nil =>
    rw [hrest, List.append_nil] at hsplit
    simp only [hsplit, components_nil, List.append_nil]
  | cons byte rest =>
    have hbyte : byte = slash := by
      have := List.head?_dropWhile_not (p := (· ≠ slash)) start
      rw [hrest] at this
      simpa using this
    subst hbyte
    rw [hrest] at hsplit
    show parts start = parts (start.takeWhile (· ≠ slash)) ++ parts (slash :: rest)
    rw [show parts (slash :: rest) = parts rest from components_cons_sep rest]
    exact (congrArg parts hsplit).symm.trans (components_append_cons _ rest)

theorem nextSegment_length (h : rest ≠ []) : (nextSegment rest).2.length < rest.length := by
  obtain ⟨byte, tail, rfl⟩ := List.exists_cons_of_ne_nil h
  rw [nextSegment, List.length_cons, Nat.lt_succ_iff]
  by_cases hbyte : byte = slash
  · rw [List.dropWhile_cons_of_pos (by simpa using hbyte)]
    exact (List.length_dropWhile_le _ _).trans (List.length_dropWhile_le _ _)
  · rw [List.dropWhile_cons_of_neg (by simpa using hbyte)]
    dsimp only
    rw [List.dropWhile_cons_of_pos (by simpa using hbyte)]
    exact List.length_dropWhile_le _ _

end Segments

section Stack

variable {floor capacity : Nat} {base part : List UInt8} {kept stack : List (List UInt8)}

theorem backUp_append (hpart : slash ∉ part) (hfloor : floor ≤ base.length)
    (hbase : base.length = floor ∨ base.getLast? = some slash) {n : Nat} (hn : n ≤ part.length) :
    backUp (base ++ part) floor (base.length + n) = base.length := by
  induction n with
  | zero =>
    cases hlength : base.length with
    | zero => rfl
    | succ length =>
      refine if_neg fun ⟨habove, hbyte⟩ => ?_
      rcases hbase with hbase | hbase
      · omega
      · rw [List.getElem?_append_left (by omega), ← hbase, List.getLast?_eq_getElem?,
          hlength] at hbyte
        exact hbyte rfl
  | succ n ih =>
    have hbyte : (base ++ part)[base.length + n]? ≠ some slash := by
      rw [List.getElem?_append_right (Nat.le_add_right _ _), Nat.add_sub_cancel_left]
      exact fun hbyte => hpart (List.mem_of_getElem? hbyte)
    rw [← Nat.add_assoc, backUp, if_pos ⟨by omega, hbyte⟩]
    exact ih (by omega)

theorem popSegment_floor (output : List UInt8) : popSegment output.length output = output := by
  have hstop : backUp output output.length output.length = output.length := by
    simpa using @backUp_append output.length output [] List.not_mem_nil le_rfl (.inl rfl) 0 le_rfl
  rw [popSegment, hstop, if_neg (Nat.lt_irrefl _), List.take_length]

theorem popSegment_append (hpart : slash ∉ part) :
    popSegment (shown kept).length (shown (kept ++ stack ++ [part])) = shown (kept ++ stack) := by
  have hfloor := shown_length_le kept stack
  rw [show shown (kept ++ stack ++ [part]) = _ from render_append_singleton _ _]
  split_ifs with hempty
  · have hkept : kept = [] := (List.append_eq_nil_iff.mp hempty).1
    rw [hempty, hkept, popSegment, List.length_append,
      backUp_append hpart le_rfl (.inl rfl) le_rfl]
    exact List.take_left
  · have hstop := @backUp_append (shown kept).length (shown (kept ++ stack) ++ [slash]) part hpart
      (by rw [List.length_append]; omega) (.inr (by simp)) _ le_rfl
    rw [← List.length_append, List.append_assoc, List.singleton_append] at hstop
    rw [popSegment, hstop, List.length_append, if_pos (by simp; omega)]
    exact List.take_left

theorem popSegment_shown (hstack : ∀ part ∈ stack, slash ∉ part) :
    popSegment (shown kept).length (shown (kept ++ stack)) = shown (kept ++ stack.dropLast) := by
  induction stack using List.reverseRecOn with
  | nil => rw [List.dropLast_nil, List.append_nil, popSegment_floor]
  | append_singleton stack part =>
    rw [List.dropLast_concat, ← List.append_assoc]
    exact popSegment_append (hstack part (List.mem_append_right _ List.mem_cons_self))

theorem pushSegment_shown (hstack : ∀ part ∈ stack, part ≠ []) :
    pushSegment capacity (shown stack) part =
      if capacity < (shown (stack ++ [part])).length + 1 then .error .enametoolong
      else .ok (shown (stack ++ [part])) := by
  have hlength : 1 < (shown stack).length ↔ stack ≠ [] := one_lt_render_length hstack
  rw [show shown (stack ++ [part]) = _ from render_append_singleton _ _, pushSegment]
  by_cases hempty : stack = []
  · rw [if_neg (mt hlength.mp (not_not.mpr hempty)), if_pos hempty]
    simp only [List.length_append, Nat.add_zero, ne_eq, not_true_eq_false, if_false,
      List.append_nil, gt_iff_lt]
  · rw [if_pos (hlength.mpr hempty), if_neg hempty]
    simp only [List.length_append, List.length_cons, ne_eq, one_ne_zero, not_false_eq_true, if_true,
      List.append_assoc, List.singleton_append, gt_iff_lt, Nat.add_assoc, Nat.add_comm 1]

end Stack

def stepWithin (kept : List (List UInt8)) (capacity : Nat) (stack : List (List UInt8))
    (part : List UInt8) : Except Errno (List (List UInt8)) :=
  if capacity < (shown (kept ++ step dot stack part)).length + 1 then .error .enametoolong
  else .ok (step dot stack part)

section Fold

variable {capacity rounds : Nat} {part rest : List UInt8} {kept stack final : List (List UInt8)}
  {path : List (List UInt8)}

theorem shown_dropLast_length (kept stack : List (List UInt8)) :
    (shown (kept ++ stack.dropLast)).length ≤ (shown (kept ++ stack)).length := by
  obtain ⟨last, hlast⟩ := stack.dropLast_prefix
  calc (shown (kept ++ stack.dropLast)).length
    _ ≤ (shown (kept ++ stack.dropLast ++ last)).length := shown_length_le _ last
    _ = (shown (kept ++ stack)).length := by rw [List.append_assoc, hlast]

theorem stepWithin_here (hroom : (shown (kept ++ stack)).length < capacity) :
    stepWithin kept capacity stack [dot] = .ok stack :=
  if_neg (by simpa [step] using hroom)

theorem stepWithin_up (hroom : (shown (kept ++ stack)).length < capacity) :
    stepWithin kept capacity stack [dot, dot] = .ok stack.dropLast :=
  if_neg (by simpa [step] using (shown_dropLast_length kept stack).trans_lt hroom)

theorem stepWithin_plain (hpart : Plain slash dot part) (hstack : PlainParts (kept ++ stack)) :
    (stepWithin kept capacity stack part).map (shown <| kept ++ ·) =
      pushSegment capacity (shown (kept ++ stack)) part := by
  rw [pushSegment_shown fun other hother => (hstack other hother).nonempty, stepWithin,
    step_plain hpart, List.append_assoc]
  split_ifs <;> rfl

theorem stepWithin_ok {next : List (List UInt8)}
    (h : stepWithin kept capacity stack part = .ok next) :
    next = step dot stack part ∧ (shown (kept ++ next)).length < capacity := by
  rw [stepWithin] at h
  split_ifs at h with hroom
  obtain rfl := Except.ok.inj h
  exact ⟨rfl, by omega⟩

theorem scanSegments_eq_foldlM (hkept : PlainParts kept) (hstack : PlainParts stack)
    (hroom : (shown (kept ++ stack)).length < capacity) (hrounds : rest.length ≤ rounds) :
    scanSegments (shown kept).length capacity rounds rest (shown (kept ++ stack)) =
      ((parts rest).foldlM (stepWithin kept capacity) stack).map (shown <| kept ++ ·) := by
  induction rounds generalizing rest stack with
  | zero =>
    obtain rfl := List.length_eq_zero_iff.mp (Nat.le_zero.mp hrounds)
    rfl
  | succ rounds ih =>
    by_cases hrest : rest = []
    · subst hrest
      rfl
    have hrounds : (nextSegment rest).2.length ≤ rounds := by
      have := nextSegment_length hrest
      omega
    rw [scanSegments, if_neg hrest]
    dsimp only
    split_ifs with hskip hup
    · rw [ih hstack hroom hrounds, parts_nextSegment rest]
      rcases hskip with hempty | hhere
      · rw [if_pos (List.length_eq_zero_iff.mp hempty), List.nil_append]
      · rw [hhere, if_neg (List.cons_ne_nil _ _), List.singleton_append, List.foldlM_cons,
          stepWithin_here hroom]
        rfl
    · have hunbroken : ∀ part ∈ stack, slash ∉ part := fun part hpart =>
        (hstack part hpart).unbroken
      have hdropped : PlainParts stack.dropLast := fun part hpart =>
        hstack part (List.dropLast_subset _ hpart)
      rw [popSegment_shown hunbroken,
        ih hdropped ((shown_dropLast_length kept stack).trans_lt hroom) hrounds,
        parts_nextSegment rest, hup, if_neg (List.cons_ne_nil _ _), List.singleton_append,
        List.foldlM_cons, stepWithin_up hroom]
      rfl
    · have hne : (nextSegment rest).1 ≠ [] := fun h => hskip (.inl (List.length_eq_zero_iff.mpr h))
      have hpart : Plain slash dot (nextSegment rest).1 :=
        ⟨hne, nextSegment_unbroken rest, fun h => hskip (.inr h), hup⟩
      have hall : PlainParts (kept ++ stack) := fun part hmem =>
        (List.mem_append.mp hmem).elim (hkept part) (hstack part)
      rw [parts_nextSegment rest, if_neg hne, List.singleton_append, List.foldlM_cons,
        ← stepWithin_plain hpart hall]
      cases hnext : stepWithin kept capacity stack (nextSegment rest).1 with
      | error code => rfl
      | ok next =>
        obtain ⟨rfl, hroom⟩ := stepWithin_ok hnext
        exact ih (plain_step hstack ⟨hne, hpart.unbroken⟩) hroom hrounds

theorem foldlM_stepWithin_ok (hroom : (shown (kept ++ stack)).length < capacity)
    (h : path.foldlM (stepWithin kept capacity) stack = .ok final) :
    final = path.foldl (step dot) stack ∧ (shown (kept ++ final)).length < capacity := by
  induction path generalizing stack with
  | nil =>
    obtain rfl := Except.ok.inj h
    exact ⟨rfl, hroom⟩
  | cons part path ih =>
    rw [List.foldlM_cons] at h
    cases hnext : stepWithin kept capacity stack part with
    | error code =>
      rw [hnext] at h
      cases h
    | ok next =>
      rw [hnext] at h
      obtain ⟨rfl, hroom⟩ := stepWithin_ok hnext
      exact ih hroom h

theorem foldlM_stepWithin_plain (hpath : PlainParts path)
    (hroom : (shown (kept ++ stack ++ path)).length < capacity) :
    path.foldlM (stepWithin kept capacity) stack = .ok (stack ++ path) := by
  induction path generalizing stack with
  | nil => rw [List.append_nil]; rfl
  | cons part path ih =>
    have hnext : stepWithin kept capacity stack part = .ok (stack ++ [part]) := by
      have hlength := shown_length_le (kept ++ stack ++ [part]) path
      rw [List.append_cons] at hroom
      rw [stepWithin, step_plain (hpath part List.mem_cons_self), ← List.append_assoc]
      exact if_neg (by omega)
    rw [List.foldlM_cons, hnext, List.append_cons stack part path]
    exact @ih (stack ++ [part]) (fun other hother => hpath other (List.mem_cons_of_mem _ hother))
      (by simpa [List.append_assoc] using hroom)

end Fold

end HookSelf.PathResolver
