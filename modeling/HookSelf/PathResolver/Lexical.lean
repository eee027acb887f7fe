import HookSelf.PathResolver.NormalizeLaws

/-! What the normalised paths are: the fold of the components over those of the root. -/

namespace HookSelf.PathResolver

open Components

def closing (trailing : Bool) (stack : List (List UInt8)) : List UInt8 :=
  if trailing ∧ stack ≠ [] then [slash] else []

def walk (kept : List (List UInt8)) (capacity : Nat) (trailing : Bool) (path : List (List UInt8)) :
    Except Errno (List UInt8) := do
  let stack ← path.foldlM (stepWithin kept capacity) []
  let output := shown (kept ++ stack) ++ closing trailing stack
  if capacity < output.length + 1 then .error .enametoolong else .ok output

section Walk

variable {capacity rounds : Nat} {trailing : Bool} {rest out : List UInt8}
  {kept stack path : List (List UInt8)}

theorem shown_length_lt (hparts : PlainParts (kept ++ stack)) :
    (shown kept).length < (shown (kept ++ stack)).length ↔ stack ≠ [] := by
  constructor
  · rintro hlength rfl
    simp at hlength
  · intro hstack
    by_cases hkept : kept = []
    · subst hkept
      exact (one_lt_render_length fun part hpart => (hparts part hpart).nonempty).mpr hstack
    · rw [shown, shown, render_of_ne_nil hkept,
        render_of_ne_nil (List.append_ne_nil_of_left_ne_nil hkept _), joined_append,
        List.length_append]
      exact Nat.lt_add_of_pos_right (joined_length_pos hstack)

theorem finishPath_shown (hparts : PlainParts (kept ++ stack))
    (hroom : (shown (kept ++ stack)).length < capacity) :
    finishPath (shown kept).length capacity trailing (shown (kept ++ stack)) =
      if capacity < (shown (kept ++ stack) ++ closing trailing stack).length + 1 then
        .error .enametoolong
      else .ok (shown (kept ++ stack) ++ closing trailing stack) := by
  have hlength := shown_length_lt hparts
  rw [finishPath, closing]
  by_cases hkeep : trailing ∧ stack ≠ []
  · rw [if_pos ⟨hkeep.1, hlength.mpr hkeep.2⟩, if_pos hkeep]
    simp only [List.length_append, List.length_cons, List.length_nil, gt_iff_lt, Nat.add_assoc]
  · rw [if_neg fun h => hkeep ⟨h.1, hlength.mp h.2⟩, if_neg hkeep, List.append_nil,
      if_neg (by omega)]

theorem scan_finish_eq_walk (hkept : PlainParts kept) (hroom : (shown kept).length < capacity)
    (hrounds : rest.length ≤ rounds) :
    (do
      let output ← scanSegments (shown kept).length capacity rounds rest (shown kept)
      finishPath (shown kept).length capacity trailing output) =
      walk kept capacity trailing (parts rest) := by
  have hscan := @scanSegments_eq_foldlM capacity rounds rest kept [] hkept nofun
    (by simpa using hroom) hrounds
  rw [List.append_nil] at hscan
  rw [hscan, walk]
  cases hfold : (parts rest).foldlM (stepWithin kept capacity) [] with
  | error code => rfl
  | ok final =>
    obtain ⟨rfl, hroom⟩ := foldlM_stepWithin_ok (by simpa using hroom) hfold
    have hfinal : PlainParts (resolve dot (parts rest)) := plain_resolve fun _ => mem_components
    exact finishPath_shown
      (fun part hpart => (List.mem_append.mp hpart).elim (hkept part) (hfinal part)) hroom

theorem walk_ok (hroom : (shown kept).length < capacity)
    (h : walk kept capacity trailing path = .ok out) :
    out = shown (kept ++ resolve dot path) ++ closing trailing (resolve dot path) ∧
      out.length < capacity := by
  rw [walk] at h
  cases hfold : path.foldlM (stepWithin kept capacity) [] with
  | error code =>
    rw [hfold] at h
    cases h
  | ok final =>
    obtain ⟨rfl, -⟩ := foldlM_stepWithin_ok (by simpa using hroom) hfold
    rw [hfold] at h
    change (if _ then _ else _) = _ at h
    split_ifs at h with hfull
    obtain rfl := Except.ok.inj h
    exact ⟨rfl, by omega⟩

theorem walk_plain (hpath : PlainParts path)
    (hroom : (shown (kept ++ path) ++ closing trailing path).length < capacity) :
    walk kept capacity trailing path = .ok (shown (kept ++ path) ++ closing trailing path) := by
  have hfits : (shown (kept ++ path)).length < capacity := by
    rw [List.length_append] at hroom
    omega
  have hfold : path.foldlM (stepWithin kept capacity) [] = .ok path :=
    foldlM_stepWithin_plain hpath (by rwa [List.append_nil])
  rw [walk, hfold]
  exact if_neg (by omega)

end Walk

section Canonical

variable {trailing : Bool} {segment rest path : List UInt8} {stack : List (List UInt8)}

theorem canonicalScan_unbroken (hrest : slash ∉ rest) :
    canonicalScan segment rest =
      (segment ++ rest ≠ [dot] ∧ segment ++ rest ≠ [dot, dot] : Bool) := by
  induction rest generalizing segment with
  | nil => rw [List.append_nil]; rfl
  | cons byte rest ih =>
    rw [canonicalScan, if_pos (List.ne_of_not_mem_cons hrest).symm,
      ih (List.not_mem_of_not_mem_cons hrest), ← List.append_cons]

theorem canonicalScan_append_cons {part : List UInt8} (hpart : slash ∉ part) :
    canonicalScan segment (part ++ slash :: rest) =
      if (segment ++ part).length = 0 ∨ segment ++ part = [dot] ∨ segment ++ part = [dot, dot] then
        false
      else canonicalScan [] rest := by
  induction part generalizing segment with
  | nil => rw [List.append_nil]; rfl
  | cons byte part ih =>
    rw [List.cons_append, canonicalScan, if_pos (List.ne_of_not_mem_cons hpart).symm,
      ih (List.not_mem_of_not_mem_cons hpart), ← List.append_cons]

theorem closing_cons {part : List UInt8} (hstack : stack ≠ []) :
    closing trailing (part :: stack) = closing trailing stack := by
  simp only [closing, ne_eq, hstack, not_false_eq_true, reduceCtorEq]

theorem exists_shown_cons (stack : List (List UInt8)) : ∃ rest, shown stack = slash :: rest := by
  cases stack with
  | nil => exact ⟨[], rfl⟩
  | cons part stack => exact ⟨_, rfl⟩

theorem shown_cons {part : List UInt8} (hstack : stack ≠ []) :
    shown (part :: stack) = slash :: part ++ shown stack := by
  rw [shown, shown, render_of_ne_nil (List.cons_ne_nil _ _), render_of_ne_nil hstack]
  rfl

theorem canonicalScan_shown (hstack : PlainParts stack)
    (hrest : slash :: rest = shown stack ++ closing trailing stack) : canonicalScan [] rest := by
  induction stack generalizing rest with
  | nil =>
    obtain rfl : rest = [] := by simpa [shown, render, closing] using hrest
    rfl
  | cons part stack ih =>
    have hpart := hstack part List.mem_cons_self
    have hkept : ¬(part.length = 0 ∨ part = [dot] ∨ part = [dot, dot]) := by
      rintro (h | h | h)
      · exact hpart.nonempty (List.length_eq_zero_iff.mp h)
      · exact hpart.ne_here h
      · exact hpart.ne_up h
    by_cases hlast : stack = []
    · subst hlast
      have hrest : rest = part ++ closing trailing [part] := by
        simpa [shown, render, joined] using hrest
      cases trailing with
      | false =>
        obtain rfl : rest = part := by simpa [closing] using hrest
        rw [canonicalScan_unbroken hpart.unbroken]
        exact decide_eq_true ⟨hpart.ne_here, hpart.ne_up⟩
      | true =>
        obtain rfl : rest = part ++ [slash] := by simpa [closing] using hrest
        rw [canonicalScan_append_cons hpart.unbroken, List.nil_append, if_neg hkept]
        rfl
    · obtain ⟨tail, htail⟩ := exists_shown_cons stack
      rw [shown_cons hlast, closing_cons hlast, htail, List.cons_append, List.cons_append,
        List.append_assoc, List.cons_append] at hrest
      obtain rfl := (List.cons.inj hrest).2
      rw [canonicalScan_append_cons hpart.unbroken, List.nil_append, if_neg hkept]
      refine ih (fun other hother => hstack other (List.mem_cons_of_mem _ hother)) ?_
      rw [htail, List.cons_append]

theorem exists_of_canonicalScan (h : canonicalScan [] rest) :
    ∃ stack trailing, PlainParts stack ∧ slash :: rest = shown stack ++ closing trailing stack := by
  induction rest using split_induction slash with
  | last part hpart =>
    rw [canonicalScan_unbroken hpart] at h
    obtain ⟨hhere, hup⟩ := of_decide_eq_true h
    by_cases hempty : part = []
    · subst hempty
      exact ⟨[], false, nofun, rfl⟩
    · refine ⟨[part], false, fun other hother => ?_, by simp [shown, render, joined, closing]⟩
      obtain rfl := List.mem_singleton.mp hother
      exact ⟨hempty, hpart, hhere, hup⟩
  | cons part rest hpart ih =>
    rw [canonicalScan_append_cons hpart, List.nil_append] at h
    split_ifs at h with hkept
    simp only [not_or, List.length_eq_zero_iff] at hkept
    obtain ⟨stack, trailing, hstack, hrest⟩ := ih h
    have hparts : PlainParts (part :: stack) := fun other hother =>
      (List.mem_cons.mp hother).elim (fun h => h ▸ ⟨hkept.1, hpart, hkept.2.1, hkept.2.2⟩)
        (hstack other)
    by_cases hlast : stack = []
    · subst hlast
      obtain rfl : rest = [] := by simpa [shown, render, closing] using hrest
      exact ⟨[part], true, hparts, by simp [shown, render, joined, closing]⟩
    · refine ⟨part :: stack, trailing, hparts, ?_⟩
      rw [shown_cons hlast, closing_cons hlast, List.append_assoc, ← hrest]
      rfl

theorem canonicalAbsolutePath_iff :
    canonicalAbsolutePath path ↔
      ∃ stack trailing, PlainParts stack ∧ path = shown stack ++ closing trailing stack := by
  constructor
  · intro h
    simp only [canonicalAbsolutePath, decide_eq_true_eq] at h
    obtain ⟨rest, rfl⟩ := List.head?_eq_some_iff.mp h.1
    refine exists_of_canonicalScan (h.2.elim (fun hlength => ?_) id)
    obtain rfl : rest = [] := List.length_eq_zero_iff.mp (Nat.succ.inj hlength)
    rfl
  · rintro ⟨stack, trailing, hstack, rfl⟩
    obtain ⟨rest, hrest⟩ := exists_shown_cons stack
    rw [hrest, List.cons_append]
    exact decide_eq_true ⟨rfl, .inr (@canonicalScan_shown trailing _ stack hstack (hrest ▸ rfl))⟩

theorem parts_shown (hstack : PlainParts stack) : parts (shown stack) = stack :=
  components_render fun part hpart => ⟨(hstack part hpart).nonempty, (hstack part hpart).unbroken⟩

theorem parts_append_closing : parts (path ++ closing trailing stack) = parts path := by
  rw [closing]
  split_ifs
  · exact components_append_sep path
  · rw [List.append_nil]

theorem parts_canonical (hstack : PlainParts stack) :
    parts (shown stack ++ closing trailing stack) = stack := by
  rw [parts_append_closing, parts_shown hstack]

theorem eq_shown_or_of_canonical (h : canonicalAbsolutePath path) :
    PlainParts (parts path) ∧
      (path = shown (parts path) ∨ path = shown (parts path) ++ [slash]) := by
  obtain ⟨stack, trailing, hstack, rfl⟩ := canonicalAbsolutePath_iff.mp h
  rw [parts_canonical hstack, closing]
  refine ⟨hstack, ?_⟩
  split_ifs
  · exact .inr rfl
  · exact .inl (List.append_nil _)

theorem shown_getLast (hstack : PlainParts stack) (hne : stack ≠ []) :
    (shown stack).getLast? ≠ some slash := by
  obtain ⟨others, part, rfl⟩ := (List.eq_nil_or_concat' stack).resolve_left hne
  have hpart := hstack part (List.mem_append_right _ List.mem_cons_self)
  intro hlast
  rw [shown, render_of_ne_nil hne, joined_append, joined_singleton,
    List.getLast?_append_of_ne_nil _ (List.cons_ne_nil _ _),
    ← List.singleton_append, List.getLast?_append_of_ne_nil _ hpart.nonempty] at hlast
  exact hpart.unbroken (List.mem_of_getLast? hlast)

theorem closing_trailingSlash (hstack : PlainParts stack) :
    closing (trailingSlash (shown stack ++ closing trailing stack)) stack =
      closing trailing stack := by
  by_cases hne : stack = []
  · simp only [closing, hne, ne_eq, not_true_eq_false, and_false, if_false]
  · cases trailing with
    | false =>
      have hplain : trailingSlash (shown stack) = false :=
        decide_eq_false fun h => shown_getLast hstack hne h.2
      simp only [closing, Bool.false_eq_true, false_and, if_false, List.append_nil, hplain]
    | true =>
      have hslash : trailingSlash (shown stack ++ [slash]) := by
        have := shown_length_pos stack
        refine decide_eq_true ⟨?_, by simp⟩
        rw [List.length_append, List.length_singleton]
        omega
      simp only [closing, hne, ne_eq, not_false_eq_true, and_self, if_true, hslash]

theorem stripSlashes_shown (hstack : PlainParts stack) (tail : List UInt8) :
    stripSlashes (shown stack ++ tail) (shown stack).length = shown stack := by
  cases hlength : (shown stack).length with
  | zero => exact absurd hlength (Nat.ne_of_gt (shown_length_pos stack))
  | succ length =>
    have hstop : ¬(length + 1 > 1 ∧ (shown stack ++ tail)[length]? = some slash) := by
      rintro ⟨hlong, hbyte⟩
      have hne : stack ≠ [] :=
        (one_lt_render_length fun part hpart => (hstack part hpart).nonempty).mp (hlength ▸ hlong)
      rw [List.getElem?_append_left (by omega)] at hbyte
      refine shown_getLast hstack hne ?_
      rw [List.getLast?_eq_getElem?, hlength]
      exact hbyte
    rw [stripSlashes, if_neg hstop, ← hlength]
    exact List.take_left

theorem stripSlashes_canonical (hstack : PlainParts stack) :
    stripSlashes (shown stack ++ closing trailing stack)
      (shown stack ++ closing trailing stack).length = shown stack := by
  rw [closing]
  split_ifs
  · have hpos := shown_length_pos stack
    rw [List.length_append, List.length_singleton, stripSlashes,
      if_pos ⟨by omega, by rw [List.getElem?_append_right le_rfl, Nat.sub_self]; rfl⟩]
    exact stripSlashes_shown hstack _
  · have := stripSlashes_shown hstack []
    rwa [List.append_nil] at this ⊢

end Canonical

section Normal

variable {capacity : Nat} {input out root path : List UInt8}

theorem parts_drop_one (h : input.head? = some slash) : parts (input.drop 1) = parts input := by
  obtain ⟨rest, rfl⟩ := List.head?_eq_some_iff.mp h
  exact (components_cons_sep rest).symm

theorem normalizeAbsolutePath_eq_walk (hinput : input.head? = some slash)
    (hcapacity : 2 ≤ capacity) :
    normalizeAbsolutePath input capacity =
      walk [] capacity (trailingSlash input) (parts input) := by
  rw [normalizeAbsolutePath, if_neg (not_or.mpr ⟨not_not.mpr hinput, Nat.not_lt.mpr hcapacity⟩),
    ← parts_drop_one hinput]
  exact @scan_finish_eq_walk capacity _ _ _ [] (List.forall_mem_nil _) hcapacity
    (by rw [List.length_drop]; omega)

theorem normalizeAbsolutePath_ok (h : normalizeAbsolutePath input capacity = .ok out) :
    input.head? = some slash ∧ 2 ≤ capacity ∧ out.length < capacity ∧
      out = shown (resolve dot (parts input)) ++
        closing (trailingSlash input) (resolve dot (parts input)) := by
  by_cases hbad : input.head? ≠ some slash ∨ capacity < 2
  · rw [normalizeAbsolutePath, if_pos hbad] at h
    cases h
  · obtain ⟨hinput, hcapacity⟩ := not_or.mp hbad
    rw [not_not] at hinput
    rw [not_lt] at hcapacity
    rw [normalizeAbsolutePath_eq_walk hinput hcapacity] at h
    obtain ⟨hout, hroom⟩ := walk_ok hcapacity h
    exact ⟨hinput, hcapacity, hroom, hout⟩

theorem plainParts_resolve (input : List UInt8) : PlainParts (resolve dot (parts input)) :=
  plain_resolve fun _ => mem_components

theorem canonicalAbsolutePath_normalized (h : normalizeAbsolutePath input capacity = .ok out) :
    canonicalAbsolutePath out :=
  canonicalAbsolutePath_iff.mpr
    ⟨_, _, plainParts_resolve input, (normalizeAbsolutePath_ok h).2.2.2⟩

theorem normalizeAbsolutePath_idempotent (h : normalizeAbsolutePath input capacity = .ok out) :
    normalizeAbsolutePath out capacity = .ok out := by
  obtain ⟨-, hcapacity, hroom, hout⟩ := normalizeAbsolutePath_ok h
  have hstack := plainParts_resolve input
  have hhead : out.head? = some slash := by
    obtain ⟨rest, hrest⟩ := exists_shown_cons (resolve dot (parts input))
    rw [hout, hrest]
    rfl
  have hparts : parts out = resolve dot (parts input) := by rw [hout, parts_canonical hstack]
  have hclosing : closing (trailingSlash out) (resolve dot (parts input)) =
      closing (trailingSlash input) (resolve dot (parts input)) := by
    rw [hout, closing_trailingSlash hstack]
  rw [normalizeAbsolutePath_eq_walk hhead hcapacity, hparts]
  refine (walk_plain hstack ?_).trans ?_
  · rwa [List.nil_append, hclosing, ← hout]
  · rw [List.nil_append, hclosing, ← hout]

theorem closing_length_le (trailing : Bool) (stack : List (List UInt8)) :
    (closing trailing stack).length ≤ if trailing then 1 else 0 := by
  cases trailing with
  | false => exact le_rfl
  | true => by_cases hstack : stack = [] <;> simp [closing, hstack]

theorem joined_parts_length (hinput : input.head? = some slash) :
    (joined slash (parts input)).length + (if trailingSlash input then 1 else 0) ≤
      input.length := by
  obtain ⟨rest, rfl⟩ := List.head?_eq_some_iff.mp hinput
  rw [← parts_drop_one hinput, List.drop_one, List.tail_cons, List.length_cons]
  split_ifs with htrailing
  · obtain ⟨hlong, hlast⟩ := of_decide_eq_true htrailing
    have hrest : rest ≠ [] := List.length_pos_iff.mp (Nat.lt_of_succ_lt_succ hlong)
    rw [← List.singleton_append, List.getLast?_append_of_ne_nil _ hrest] at hlast
    obtain ⟨init, rfl⟩ := List.getLast?_eq_some_iff.mp hlast
    rw [parts, components_append_sep, List.length_append, List.length_singleton]
    exact Nat.succ_le_succ (joined_components_length init)
  · exact joined_components_length rest

theorem normalizeAbsolutePath_length (h : normalizeAbsolutePath input capacity = .ok out) :
    out.length ≤ input.length := by
  obtain ⟨hinput, -, -, hout⟩ := normalizeAbsolutePath_ok h
  have hroom := joined_parts_length hinput
  have hresolve := @joined_resolve_length _ slash dot _ (parts input)
  by_cases hempty : resolve dot (parts input) = []
  · obtain ⟨rest, rfl⟩ := List.head?_eq_some_iff.mp hinput
    rw [hout, hempty, closing, if_neg fun h => h.2 rfl]
    exact Nat.succ_le_succ (Nat.zero_le _)
  · have hclosing := closing_length_le (trailingSlash input) (resolve dot (parts input))
    rw [hout, List.length_append, shown, render_of_ne_nil hempty]
    omega

theorem stripSlashes_normalized (hroot : canonicalAbsolutePath root)
    (h : normalizeAbsolutePath root capacity = .ok out) :
    PlainParts (parts root) ∧ stripSlashes out out.length = shown (parts root) := by
  obtain ⟨stack, trailing, hstack, rfl⟩ := canonicalAbsolutePath_iff.mp hroot
  obtain ⟨-, -, -, rfl⟩ := normalizeAbsolutePath_ok h
  rw [parts_canonical hstack, resolve_plain hstack]
  exact ⟨hstack, stripSlashes_canonical hstack⟩

theorem combineRootAndNormalizePath_ok (hroot : canonicalAbsolutePath root)
    (h : combineRootAndNormalizePath root path capacity = .ok out) :
    out = shown (parts root ++ resolve dot (parts path)) ++
      closing (trailingSlash path) (resolve dot (parts path)) := by
  by_cases hbad : root.head? ≠ some slash ∨ path = [] ∨ capacity < 2
  · rw [combineRootAndNormalizePath, if_pos hbad] at h
    cases h
  rw [combineRootAndNormalizePath, if_neg hbad] at h
  cases hnormal : normalizeAbsolutePath root pathCapacity with
  | error code =>
    rw [hnormal] at h
    cases h
  | ok normalized =>
    obtain ⟨hparts, hstrip⟩ := stripSlashes_normalized hroot hnormal
    rw [hnormal] at h
    change (if (stripSlashes normalized normalized.length).length + 1 > capacity then _
      else _) = _ at h
    rw [hstrip] at h
    by_cases hfull : (shown (parts root)).length + 1 > capacity
    · rw [if_pos hfull] at h
      cases h
    · have hrest : parts (if path.head? = some slash then path.drop 1 else path) = parts path := by
        split_ifs with hhead
        · exact parts_drop_one hhead
        · rfl
      have hrounds :
          (if path.head? = some slash then path.drop 1 else path).length ≤ path.length := by
        split_ifs
        · rw [List.length_drop]
          exact Nat.sub_le _ _
        · exact le_rfl
      have hroom : (shown (parts root)).length < capacity := by omega
      rw [if_neg hfull, scan_finish_eq_walk hparts hroom hrounds, hrest] at h
      exact (walk_ok hroom h).1

/-- A path below a canonical root is the root followed by what is left of the components of the
path, with the slash at its end kept; a normalised path is canonical, no longer, and stays. -/
theorem lexical_normalization (root path input : List UInt8) (capacity : Nat) :
    (canonicalAbsolutePath root →
      (root = shown (parts root) ∨ root = shown (parts root) ++ [slash]) ∧
      ∀ out, combineRootAndNormalizePath root path capacity = .ok out →
        parts root <+: parts out ∧
        out = shown (parts root ++ resolve dot (parts path)) ++
          if trailingSlash path ∧ resolve dot (parts path) ≠ [] then [slash] else []) ∧
    ∀ out, normalizeAbsolutePath input capacity = .ok out →
      normalizeAbsolutePath out capacity = .ok out ∧ out.length ≤ input.length ∧
      canonicalAbsolutePath out := by
  refine ⟨fun hroot => ?_, fun out h => ⟨normalizeAbsolutePath_idempotent h,
    normalizeAbsolutePath_length h, canonicalAbsolutePath_normalized h⟩⟩
  obtain ⟨hplain, hshown⟩ := eq_shown_or_of_canonical hroot
  refine ⟨hshown, fun out h => ?_⟩
  have hout := combineRootAndNormalizePath_ok hroot h
  have hall : PlainParts (parts root ++ resolve dot (parts path)) := fun part hpart =>
    (List.mem_append.mp hpart).elim (hplain part) (plainParts_resolve path part)
  refine ⟨?_, hout⟩
  rw [hout, parts_append_closing, parts_shown hall]
  exact List.prefix_append _ _

theorem lexical_normalization_up :
    combineRootAndNormalizePath [slash, 114] [97, slash, dot, dot, slash, dot, dot, slash, 98] 16 =
        .ok [slash, 114, slash, 98] ∧
      [slash, 114, slash, 98] = shown (parts [slash, 114] ++ resolve dot
        (parts [97, slash, dot, dot, slash, dot, dot, slash, 98])) ++ [] := by
  have hroot : canonicalAbsolutePath [slash, 114] := by decide +kernel
  have hok : combineRootAndNormalizePath [slash, 114]
      [97, slash, dot, dot, slash, dot, dot, slash, 98] 16 = .ok [slash, 114, slash, 98] := by
    decide +kernel
  exact ⟨hok, (((lexical_normalization [slash, 114] _ [slash] 16).1 hroot).2 _ hok).2⟩

theorem combineRootAndNormalizePath_keeps_slash :
    ¬∀ (root path : List UInt8) (capacity : Nat) (out : List UInt8), canonicalAbsolutePath root →
      combineRootAndNormalizePath root path capacity = .ok out →
      out = shown (parts root ++ resolve dot (parts path)) := by
  intro h
  have := h [slash, 114] [97, slash] pathCapacity [slash, 114, slash, 97, slash] (by decide +kernel)
    (by decide +kernel)
  revert this
  decide +kernel

end Normal

end HookSelf.PathResolver
