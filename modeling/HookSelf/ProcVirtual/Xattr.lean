import HookSelf.ProcVirtual.Text

/-! The overlay of an extended attribute on the list of names of a file
(`ApplyXattrListOverlay` in `proc_virtual_view.cpp`). -/

namespace HookSelf.ProcVirtual

open Buffer Lines ProcText

section Model

abbrev xattrNameMax : ℕ := 255

structure XattrListOverlayResult where
  outputSize : ℕ
  namesSeen : ℕ
  namesEmitted : ℕ
  injected : Bool
  deriving DecidableEq, Repr

def validateNames : ℕ → List UInt8 → ℕ → Except Errno ℕ
  | 0, _, seen => .ok seen
  | rounds + 1, rest, seen =>
    if rest = [] then .ok seen
    else
      let name := line 0 rest
      if name.length = rest.length ∨ name = [] ∨ name.length > xattrNameMax then .error .eproto
      else validateNames rounds (rest.drop (name.length + 1)) (seen + 1)

def validateXattrList (input : List UInt8) : Except Errno ℕ := validateNames input.length input 0

def findName (name : List UInt8) : ℕ → List UInt8 → Bool
  | 0, _ => false
  | rounds + 1, rest =>
    if rest = [] then false
    else if line 0 rest = name then true
    else findName name rounds (rest.drop ((line 0 rest).length + 1))

def xattrNameSeenBefore (input : List UInt8) (nameStart : ℕ) (name : List UInt8) : Bool :=
  findName name nameStart (input.take nameStart)

def xattrListContains (list name : List UInt8) : Bool := findName name list.length list

def measureNames (input : List UInt8) : ℕ → ℕ → ℕ × ℕ → Option (ℕ × ℕ)
  | 0, _, measured => some measured
  | rounds + 1, cursor, (requiredSize, namesEmitted) =>
    if cursor < input.length then
      let name := line 0 (input.drop cursor)
      let next := cursor + name.length + 1
      if xattrNameSeenBefore input cursor name then
        measureNames input rounds next (requiredSize, namesEmitted)
      else
        match addSize requiredSize (name.length + 1) with
        | none => none
        | some requiredSize => measureNames input rounds next (requiredSize, namesEmitted + 1)
    else some (requiredSize, namesEmitted)

def writeNames (input : List UInt8) (same : Bool) : ℕ → ℕ → List UInt8 × ℕ → List UInt8 × ℕ
  | 0, _, written => written
  | rounds + 1, cursor, (output, writeOffset) =>
    if cursor < input.length then
      let name := line 0 ((if same then output else input).drop cursor)
      let next := cursor + name.length + 1
      if xattrListContains (output.take writeOffset) name then
        writeNames input same rounds next (output, writeOffset)
      else
        writeNames input same rounds next
          (write (write output writeOffset name) (writeOffset + name.length) [0],
            writeOffset + (name.length + 1))
    else (output, writeOffset)

/-- The output buffer, the result and the return value. With `same`, the input is the start of the
output buffer. -/
def applyXattrListOverlay (input injectName output : List UInt8) (outputCapacity : ℕ) (same : Bool) :
    List UInt8 × XattrListOverlayResult × Except Errno Unit :=
  if injectName.length > xattrNameMax ∨ 0 ∈ injectName then (output, ⟨0, 0, 0, false⟩, .error .einval)
  else
    match validateXattrList input with
    | .error error => (output, ⟨0, 0, 0, false⟩, .error error)
    | .ok namesSeen =>
      match measureNames input input.length 0 (0, 0) with
      | none => (output, ⟨0, 0, 0, false⟩, .error .eoverflow)
      | some (listedSize, listed) =>
        let inject := injectName.length ≠ 0 && !xattrListContains input injectName
        match if inject then addSize listedSize (injectName.length + 1) else some listedSize with
        | none => (output, ⟨0, 0, 0, false⟩, .error .eoverflow)
        | some requiredSize =>
          let result := ⟨requiredSize, namesSeen, listed + inject.toNat, inject⟩
          if outputCapacity = 0 then (output, result, .ok ())
          else if outputCapacity < requiredSize then (output, result, .error .erange)
          else if requiredSize = 0 then (output, result, .ok ())
          else
            let (copied, writeOffset) := writeNames input same input.length 0 (output, 0)
            let (written, writeOffset) :=
              if inject then
                (write (write copied writeOffset injectName) (writeOffset + injectName.length) [0],
                  writeOffset + (injectName.length + 1))
              else (copied, writeOffset)
            (written, result, if writeOffset = requiredSize then .ok () else .error .eio)

def applyXattrGetOverlay (value output : List UInt8) (outputCapacity : ℕ) :
    List UInt8 × ℕ × Except Errno Unit :=
  if outputCapacity = 0 then (output, value.length, .ok ())
  else if outputCapacity < value.length then (output, value.length, .error .erange)
  else (write output 0 value, value.length, .ok ())

end Model

section Names

variable {names done todo : List (List UInt8)} {name : List UInt8} {rounds : ℕ}

def IsXattrName (name : List UInt8) : Prop := name ≠ [] ∧ 0 ∉ name ∧ name.length ≤ xattrNameMax

instance : DecidablePred IsXattrName := fun _ => inferInstanceAs (Decidable (_ ∧ _ ∧ _))

def encode (names : List (List UInt8)) : List UInt8 := names.flatMap (· ++ [0])

@[simp] theorem encode_nil : encode [] = [] := by
  simp [encode]

@[simp] theorem encode_cons : encode (name :: names) = name ++ 0 :: encode names := by
  simp [encode]

@[simp] theorem encode_append : encode (done ++ todo) = encode done ++ encode todo := by
  simp [encode]

theorem encode_cons_ne_nil : encode (name :: names) ≠ [] := by simp

theorem line_encode (h : IsXattrName name) (tail : List UInt8) :
    line 0 (name ++ 0 :: tail) = name :=
  line_append_cons h.2.1

theorem drop_encode (tail : List UInt8) : (name ++ 0 :: tail).drop (name.length + 1) = tail := by
  rw [← List.singleton_append, ← List.append_assoc, List.drop_left' (by simp)]

theorem findName_encode (hnames : ∀ name ∈ names, IsXattrName name)
    (hrounds : (encode names).length ≤ rounds) :
    findName name rounds (encode names) = decide (name ∈ names) := by
  induction names generalizing rounds with
  | nil =>
    cases rounds with
    | zero => rfl
    | succ rounds => rfl
  | cons first names ih =>
    rw [List.forall_mem_cons] at hnames
    cases rounds with
    | zero => simp at hrounds
    | succ rounds =>
      rw [findName, if_neg encode_cons_ne_nil]
      rw [encode_cons, List.length_append, List.length_cons] at hrounds
      rw [encode_cons, line_encode hnames.1, drop_encode, ih hnames.2 (by omega)]
      by_cases hfirst : first = name
      · simp [hfirst]
      · simp [hfirst, Ne.symm hfirst]

theorem validateXattrList_encode (hnames : ∀ name ∈ names, IsXattrName name) :
    validateXattrList (encode names) = .ok names.length := by
  have hrun : ∀ rounds seen, (encode names).length ≤ rounds →
      validateNames rounds (encode names) seen = .ok (seen + names.length) := by
    induction names with
    | nil =>
      intro rounds seen _
      cases rounds with
      | zero => rfl
      | succ rounds => rfl
    | cons name names ih =>
      intro rounds seen hrounds
      rw [List.forall_mem_cons] at hnames
      cases rounds with
      | zero => simp at hrounds
      | succ rounds =>
        rw [encode_cons, List.length_append, List.length_cons] at hrounds
        have hvalid : ¬(name.length = (name ++ 0 :: encode names).length ∨ name = [] ∨
            name.length > xattrNameMax) := by
          have hmax := hnames.1.2.2
          simp only [hnames.1.1, List.length_append, List.length_cons, false_or]
          omega
        rw [validateNames, if_neg encode_cons_ne_nil, encode_cons, line_encode hnames.1]
        dsimp only
        rw [if_neg hvalid, drop_encode, ih hnames.2 rounds (seen + 1) (by omega), List.length_cons]
        congr 1
        omega
  rw [validateXattrList, hrun _ _ le_rfl, Nat.zero_add]

theorem eraseDups_concat (done : List (List UInt8)) (name : List UInt8) :
    (done ++ [name]).eraseDups = if name ∈ done then done.eraseDups
      else done.eraseDups ++ [name] := by
  rw [List.eraseDups_append]
  split_ifs with hmem
  · simp [List.removeAll, hmem]
  · simp [List.removeAll, hmem, List.eraseDups_cons]

theorem encode_eraseDups_length_mono (done todo : List (List UInt8)) :
    (encode done.eraseDups).length ≤ (encode (done ++ todo).eraseDups).length := by
  rw [List.eraseDups_append, encode_append, List.length_append]
  exact Nat.le_add_right _ _

theorem encode_eraseDups_length_le (names : List (List UInt8)) :
    (encode names.eraseDups).length ≤ (encode names).length := by
  induction names using List.reverseRecOn with
  | nil => exact le_rfl
  | append_singleton done name ih =>
    rw [eraseDups_concat]
    split_ifs
    · exact ih.trans (by simp)
    · simpa using ih

theorem xattrNameSeenBefore_encode (hdone : ∀ name ∈ done, IsXattrName name) (tail : List UInt8) :
    xattrNameSeenBefore (encode done ++ tail) (encode done).length name = decide (name ∈ done) := by
  rw [xattrNameSeenBefore, List.take_left, findName_encode hdone le_rfl]

theorem xattrListContains_encode (hnames : ∀ name ∈ names, IsXattrName name) :
    xattrListContains (encode names) name = decide (name ∈ names) :=
  findName_encode hnames le_rfl

/-- A scan that takes one encoded name a round answers what each round answers or leaves to the
next one. -/
theorem scan_encode {σ ρ : Type} (scan : ℕ → ℕ → σ → ρ) (state : List (List UInt8) → σ) {answer : ρ}
    (Inv : List (List UInt8) → Prop) (hstart : Inv [])
    (hend : Inv names → ∀ rounds, scan rounds (encode names).length (state names) = answer)
    (hstep : ∀ done name todo, names = done ++ name :: todo → Inv done → ∀ rounds,
      scan (rounds + 1) (encode done).length (state done) = answer ∨
        Inv (done ++ [name]) ∧ scan (rounds + 1) (encode done).length (state done) =
          scan rounds (encode (done ++ [name])).length (state (done ++ [name]))) :
    scan (encode names).length 0 (state []) = answer := by
  have hrun : ∀ todo done rounds, names = done ++ todo → Inv done → (encode todo).length ≤ rounds →
      scan rounds (encode done).length (state done) = answer := by
    intro todo
    induction todo with
    | nil =>
      intro done rounds hnames hinv _
      rw [List.append_nil] at hnames
      exact hnames ▸ hend (hnames ▸ hinv) rounds
    | cons name todo ih =>
      intro done rounds hnames hinv hrounds
      rw [encode_cons, List.length_append, List.length_cons] at hrounds
      obtain ⟨rounds, rfl⟩ := Nat.exists_eq_succ_of_ne_zero (show rounds ≠ 0 by omega)
      rcases hstep done name todo hnames hinv rounds with hanswer | ⟨hnext, hpass⟩
      · exact hanswer
      · rw [Nat.succ_eq_add_one, hpass]
        exact ih (done ++ [name]) rounds (by simpa using hnames) hnext (by omega)
  exact hrun names [] _ rfl hstart le_rfl

theorem next_encode : (encode done).length + name.length + 1 = (encode (done ++ [name])).length := by
  simp [Nat.add_assoc]

theorem measureNames_all (hnames : ∀ name ∈ names, IsXattrName name) :
    measureNames (encode names) (encode names).length 0 (0, 0) =
      if (encode names.eraseDups).length ≤ uintptrMax then
        some ((encode names.eraseDups).length, names.eraseDups.length) else none := by
  refine scan_encode (measureNames (encode names))
    (fun done => ((encode done.eraseDups).length, done.eraseDups.length))
    (fun done => (encode done.eraseDups).length ≤ uintptrMax) (Nat.zero_le _) ?_ ?_
  · intro hfits rounds
    rw [if_pos hfits]
    cases rounds with
    | zero => rfl
    | succ rounds => rw [measureNames, if_neg (Nat.lt_irrefl _)]
  · rintro done name todo rfl hfits rounds
    obtain ⟨hdone, hname, -⟩ : (∀ name ∈ done, IsXattrName name) ∧ IsXattrName name ∧ _ := by
      simpa [or_imp, forall_and] using hnames
    have hline : line 0 ((encode (done ++ name :: todo)).drop (encode done).length) = name := by
      rw [encode_append, List.drop_left, encode_cons, line_encode hname]
    have hseen : xattrNameSeenBefore (encode (done ++ name :: todo)) (encode done).length name =
        decide (name ∈ done) := by
      rw [encode_append, xattrNameSeenBefore_encode hdone]
    have hsize : (encode (done.eraseDups ++ [name])).length =
        (encode done.eraseDups).length + (name.length + 1) := by simp
    rw [measureNames, if_pos (by simp)]
    dsimp only
    rw [hline, hseen, next_encode, eraseDups_concat]
    by_cases hmem : name ∈ done
    · rw [if_pos (by simpa using hmem), if_pos hmem]
      exact .inr ⟨hfits, rfl⟩
    · rw [if_neg (by simpa using hmem), if_neg hmem, addSize, hsize]
      by_cases hover : (encode done.eraseDups).length + (name.length + 1) > uintptrMax
      · have hmono := encode_eraseDups_length_mono (done ++ [name]) todo
        rw [eraseDups_concat, if_neg hmem, hsize, List.append_assoc, List.singleton_append] at hmono
        rw [if_pos hover]
        exact .inl (if_neg (by omega)).symm
      · rw [if_neg hover, List.length_append, List.length_singleton]
        exact .inr ⟨Nat.not_lt.mp hover, rfl⟩

theorem drop_source {original tail : List UInt8} {same : Bool}
    (hsame : same = true → original = encode (done ++ todo) ++ tail) :
    ∃ rest, (if same then encode done.eraseDups ++ original.drop (encode done.eraseDups).length
      else encode (done ++ todo)).drop (encode done).length = encode todo ++ rest := by
  cases same with
  | false => exact ⟨[], by rw [if_neg (by decide), encode_append, List.drop_left, List.append_nil]⟩
  | true =>
    refine ⟨tail, ?_⟩
    have hle := encode_eraseDups_length_le done
    rw [if_pos rfl, List.drop_append, List.drop_eq_nil_of_le hle, List.nil_append, List.drop_drop,
      Nat.add_sub_cancel' hle, hsame rfl, encode_append, List.append_assoc, List.drop_left]

theorem write_encode {original : List UInt8} (kept : List (List UInt8)) :
    write (write (encode kept ++ original.drop (encode kept).length) (encode kept).length name)
      ((encode kept).length + name.length) [0] =
      encode (kept ++ [name]) ++ original.drop (encode (kept ++ [name])).length := by
  rw [write_write (by simp), write, List.take_left, List.drop_append,
    List.drop_eq_nil_of_le (Nat.le_add_right _ _), List.nil_append, Nat.add_sub_cancel_left,
    List.drop_drop]
  simp

theorem writeNames_all {output tail : List UInt8} {same : Bool}
    (hnames : ∀ name ∈ names, IsXattrName name)
    (hsame : same = true → output = encode names ++ tail) :
    writeNames (encode names) same (encode names).length 0 (output, 0) =
      (encode names.eraseDups ++ output.drop (encode names.eraseDups).length,
        (encode names.eraseDups).length) := by
  refine scan_encode (writeNames (encode names) same) (fun done => (encode done.eraseDups ++
    output.drop (encode done.eraseDups).length, (encode done.eraseDups).length)) (fun _ => True)
    trivial ?_ ?_
  · intro _ rounds
    cases rounds with
    | zero => rfl
    | succ rounds => rw [writeNames, if_neg (Nat.lt_irrefl _)]
  · rintro done name todo rfl - rounds
    obtain ⟨hdone, hname, -⟩ : (∀ name ∈ done, IsXattrName name) ∧ IsXattrName name ∧ _ := by
      simpa [or_imp, forall_and] using hnames
    obtain ⟨rest, hrest⟩ := drop_source hsame
    refine .inr ⟨trivial, ?_⟩
    rw [writeNames, if_pos (by simp)]
    dsimp only
    rw [hrest, encode_cons, List.append_assoc, List.cons_append, line_encode hname,
      List.take_left, xattrListContains_encode (by simpa using hdone), next_encode, eraseDups_concat]
    by_cases hmem : name ∈ done
    · rw [if_pos (by simpa using hmem), if_pos hmem]
    · have hsize : (encode done.eraseDups).length + (name.length + 1) =
          (encode (done.eraseDups ++ [name])).length := by simp
      rw [if_neg (by simpa using hmem), if_neg hmem, write_encode, hsize]

end Names

section Overlay

variable {names : List (List UInt8)} {injectName : List UInt8}

def Injects (injectName : List UInt8) (names : List (List UInt8)) : Prop :=
  injectName ≠ [] ∧ injectName ∉ names

instance (injectName : List UInt8) (names : List (List UInt8)) :
    Decidable (Injects injectName names) :=
  inferInstanceAs (Decidable (_ ∧ _))

def overlay (injectName : List UInt8) (names : List (List UInt8)) : List (List UInt8) :=
  names.eraseDups ++ if Injects injectName names then [injectName] else []

def overlayResult (injectName : List UInt8) (names : List (List UInt8)) :
    XattrListOverlayResult where
  outputSize := (encode (overlay injectName names)).length
  namesSeen := names.length
  namesEmitted := (overlay injectName names).length
  injected := Injects injectName names

theorem injects_eq (hnames : ∀ name ∈ names, IsXattrName name) :
    (decide (injectName.length ≠ 0) && !xattrListContains (encode names) injectName) =
      decide (Injects injectName names) := by
  rw [xattrListContains_encode hnames, ← decide_not, ← Bool.decide_and]
  exact decide_eq_decide.mpr (and_congr (by simp) Iff.rfl)

theorem requiredSize_eq : (if decide (Injects injectName names) then
      addSize (encode names.eraseDups).length (injectName.length + 1)
    else some (encode names.eraseDups).length) =
      if Injects injectName names ∧ uintptrMax < (encode (overlay injectName names)).length then none
      else some (encode (overlay injectName names)).length := by
  by_cases hinject : Injects injectName names
  · have hlength : (encode (overlay injectName names)).length =
        (encode names.eraseDups).length + (injectName.length + 1) := by
      simp [overlay, hinject]
    rw [if_pos (by simpa using hinject), addSize, hlength]
    simp only [hinject, true_and]
  · simp [overlay, hinject]

theorem overlayResult_eq : overlayResult injectName names =
    ⟨(encode (overlay injectName names)).length, names.length,
      names.eraseDups.length + (decide (Injects injectName names)).toNat,
      decide (Injects injectName names)⟩ := by
  unfold overlayResult overlay
  by_cases hinject : Injects injectName names
  · simp [hinject]
  · simp [hinject]

theorem write_overlay {output : List UInt8} (names : List (List UInt8)) (injectName : List UInt8) :
    (if decide (Injects injectName names) then
      (write (write (encode names.eraseDups ++ output.drop (encode names.eraseDups).length)
        (encode names.eraseDups).length injectName)
        ((encode names.eraseDups).length + injectName.length) [0],
        (encode names.eraseDups).length + (injectName.length + 1))
    else (encode names.eraseDups ++ output.drop (encode names.eraseDups).length,
      (encode names.eraseDups).length)) =
      (encode (overlay injectName names) ++ output.drop (encode (overlay injectName names)).length,
        (encode (overlay injectName names)).length) := by
  by_cases hinject : Injects injectName names
  · have hlength : (encode names.eraseDups).length + (injectName.length + 1) =
        (encode (names.eraseDups ++ [injectName])).length := by simp
    rw [if_pos (by simpa using hinject), write_encode, overlay, if_pos hinject, hlength]
  · simp [overlay, hinject]

theorem encode_eraseDups_length_le_overlay :
    (encode names.eraseDups).length ≤ (encode (overlay injectName names)).length := by
  rw [overlay, encode_append, List.length_append]
  exact Nat.le_add_right _ _

theorem applyXattrListOverlay_encode {output tail : List UInt8} {same : Bool}
    (hnames : ∀ name ∈ names, IsXattrName name) (hinject : injectName = [] ∨ IsXattrName injectName)
    (hsame : same = true → output = encode names ++ tail) (capacity : ℕ) :
    applyXattrListOverlay (encode names) injectName output capacity same =
      if uintptrMax < (encode (overlay injectName names)).length then
        (output, ⟨0, 0, 0, false⟩, .error .eoverflow)
      else if capacity = 0 then (output, overlayResult injectName names, .ok ())
      else if capacity < (encode (overlay injectName names)).length then
        (output, overlayResult injectName names, .error .erange)
      else (encode (overlay injectName names) ++
        output.drop (encode (overlay injectName names)).length,
        overlayResult injectName names, .ok ()) := by
  have hvalid : ¬(injectName.length > xattrNameMax ∨ 0 ∈ injectName) := by
    rcases hinject with rfl | ⟨-, hzero, hmax⟩
    · simp
    · rw [not_or]
      exact ⟨Nat.not_lt.mpr hmax, hzero⟩
  unfold applyXattrListOverlay
  rw [if_neg hvalid, validateXattrList_encode hnames]
  dsimp only
  rw [measureNames_all hnames, injects_eq hnames]
  have hle := @encode_eraseDups_length_le_overlay names injectName
  by_cases hlisted : (encode names.eraseDups).length ≤ uintptrMax
  · rw [if_pos hlisted]
    dsimp only
    rw [requiredSize_eq]
    by_cases hover : uintptrMax < (encode (overlay injectName names)).length
    · have hinjects : Injects injectName names := by
        by_contra hnot
        simp only [overlay, if_neg hnot, List.append_nil] at hover
        omega
      rw [if_pos ⟨hinjects, hover⟩, if_pos hover]
    · rw [if_neg fun h => hover h.2, if_neg hover]
      dsimp only
      rw [writeNames_all hnames hsame, ← overlayResult_eq]
      dsimp only
      rw [write_overlay]
      dsimp only
      rw [if_pos rfl]
      split_ifs with hquery hsmall hempty
      · rfl
      · rfl
      · have hnil := List.length_eq_zero_iff.mp hempty
        simp [hnil]
      · rfl
  · have hover : uintptrMax < (encode (overlay injectName names)).length := by omega
    rw [if_neg hlisted, if_pos hover]

end Overlay

end HookSelf.ProcVirtual
