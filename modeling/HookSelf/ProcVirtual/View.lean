import HookSelf.ProcVirtual.TextLaws

/-! Whole texts: the loop over the lines, mapping by mapping, and what both passes make of it. -/

namespace HookSelf.ProcVirtual

open Buffer Lines ProcText

section Emit

variable {state : TextState} {record bytes more : List UInt8} {rule : ProcReversePathRule}

def TextState.emit (state : TextState) (bytes : List UInt8) : TextState :=
  { state with
    writeOffset := state.writeOffset + bytes.length
    output := state.output.map fun output => write output state.writeOffset bytes }

def TextState.Room (state : TextState) : Prop :=
  ∀ output ∈ state.output, state.writeOffset ≤ output.length

theorem TextState.emit_emit (h : state.Room) :
    (state.emit bytes).emit more = state.emit (bytes ++ more) := by
  unfold TextState.emit
  cases hout : state.output with
  | none => simp [Nat.add_assoc]
  | some output => simp [Nat.add_assoc, write_write (h output hout)]

def TextState.countRewritten (state : TextState) (rewritten : Bool) : TextState :=
  { state with
    current :=
      { state.current with pathsRewritten := state.current.pathsRewritten + rewritten.toNat } }

theorem TextState.Room.emit (h : state.Room) : (state.emit bytes).Room := by
  intro output hout
  obtain ⟨before, hbefore, rfl⟩ := Option.map_eq_some_iff.mp hout
  exact le_length_write (h before hbefore)

theorem TextState.emit_nil : state.emit [] = state := by
  have hout : state.output.map (fun output => write output state.writeOffset []) = state.output := by
    cases state.output with
    | none => rfl
    | some output => simp [write]
  unfold TextState.emit
  rw [hout]
  rfl

theorem TextState.copyRecord_eq : state.copyRecord record =
    if state.writeOffset + record.length ≤ uintptrMax then .ok (state.emit record)
    else .error .eoverflow := by
  unfold TextState.copyRecord addSize
  by_cases hfits : state.writeOffset + record.length ≤ uintptrMax
  · rw [if_neg (Nat.not_lt.mpr hfits), if_pos hfits]
    rfl
  · rw [if_pos (Nat.lt_of_not_le hfits), if_neg hfits]

theorem addSize_three (first second third offset : ℕ) :
    ((addSize first second).bind (addSize · third)).bind (addSize offset ·) =
      if offset + (first + second + third) ≤ uintptrMax then some (offset + (first + second + third))
      else none := by
  unfold addSize
  by_cases hfirst : first + second > uintptrMax
  · rw [if_pos hfirst, if_neg (by omega)]
    rfl
  rw [if_neg hfirst, Option.bind_some]
  by_cases hsecond : first + second + third > uintptrMax
  · rw [if_pos hsecond, if_neg (by omega)]
    rfl
  rw [if_neg hsecond, Option.bind_some]
  by_cases hthird : offset + (first + second + third) > uintptrMax
  · rw [if_pos hthird, if_neg (by omega)]
  · rw [if_neg hthird, if_pos (by omega)]

theorem translatedPathSize_eq {path : List UInt8}
    (h : translationSuffixOffset path rule ≤ path.length) :
    translatedPathSize path rule =
      if (translatedPath path rule).length ≤ uintptrMax then some (translatedPath path rule).length
      else none := by
  rw [translatedPathSize, if_neg (Nat.not_lt.mpr h), addSize, translatedPath, List.length_append,
    List.length_drop]
  by_cases hfits : rule.guestPrefix.length + (path.length - joinedSuffixOffset path rule) ≤ uintptrMax
  · rw [if_neg (Nat.not_lt.mpr hfits), if_pos hfits]
  · rw [if_pos (Nat.lt_of_not_le hfits), if_neg hfits]

theorem writeTranslatedPath_eq {path output : List UInt8} {offset : ℕ} (h : offset ≤ output.length) :
    writeTranslatedPath path rule output offset = write output offset (translatedPath path rule) := by
  rw [writeTranslatedPath, write_write h, translatedPath]

def translatedRecord (record : List UInt8) (pathOffset : ℕ) (rule : ProcReversePathRule) :
    List UInt8 :=
  record.take pathOffset ++ translatedPath ((line newline record).drop pathOffset) rule ++
    record.drop (line newline record).length

theorem write_translatedRecord {output : List UInt8} {offset pathOffset : ℕ}
    (hroom : offset ≤ output.length) (hoffset : pathOffset ≤ (line newline record).length)
    (hending : record.drop (line newline record).length = [] ∨
      record.drop (line newline record).length = [newline]) :
    (if record.length - (line newline record).length ≠ 0 then
      write (writeTranslatedPath ((line newline record).drop pathOffset) rule
        (write output offset (record.take pathOffset)) (offset + pathOffset))
        (offset + (translatedRecord record pathOffset rule).length - 1) [newline]
    else writeTranslatedPath ((line newline record).drop pathOffset) rule
        (write output offset (record.take pathOffset)) (offset + pathOffset)) =
      write output offset (translatedRecord record pathOffset rule) := by
  have hline : (line newline record).length ≤ record.length :=
    (List.takeWhile_prefix _).length_le
  have htake : (record.take pathOffset).length = pathOffset := by
    rw [List.length_take]
    omega
  have hfront : writeTranslatedPath ((line newline record).drop pathOffset) rule
      (write output offset (record.take pathOffset)) (offset + pathOffset) =
      write output offset (record.take pathOffset ++
        translatedPath ((line newline record).drop pathOffset) rule) := by
    have hreach := @le_length_write _ output (record.take pathOffset) offset hroom
    rw [htake] at hreach
    rw [writeTranslatedPath_eq hreach, ← write_write hroom, htake]
  have hsize : record.length - (line newline record).length =
      (record.drop (line newline record).length).length := List.length_drop.symm
  rw [hfront, hsize, translatedRecord]
  rcases hending with hend | hend
  · simp [hend]
  · have hlast := @write_write _ output (record.take pathOffset ++
      translatedPath ((line newline record).drop pathOffset) rule) offset [newline] hroom
    rw [hend, if_pos (by simp), ← hlast]
    congr 1
    simp only [List.length_append, List.length_singleton]
    omega

theorem TextState.translateRecord_eq {pathOffset : ℕ} (hroom : state.Room)
    (hoffset : pathOffset ≤ (line newline record).length)
    (hsuffix : translationSuffixOffset ((line newline record).drop pathOffset) rule ≤
      ((line newline record).drop pathOffset).length)
    (hending : record.drop (line newline record).length = [] ∨
      record.drop (line newline record).length = [newline]) :
    state.translateRecord record pathOffset rule =
      if state.writeOffset + (translatedRecord record pathOffset rule).length ≤ uintptrMax then
        .ok ((state.countRewritten true).emit (translatedRecord record pathOffset rule))
      else .error .eoverflow := by
  have hline : (line newline record).length ≤ record.length :=
    (List.takeWhile_prefix _).length_le
  have hlength : (translatedRecord record pathOffset rule).length = pathOffset +
      (translatedPath ((line newline record).drop pathOffset) rule).length +
      (record.length - (line newline record).length) := by
    simp only [translatedRecord, List.length_append, List.length_take, List.length_drop]
    omega
  unfold TextState.translateRecord
  dsimp only
  rw [translatedPathSize_eq hsuffix]
  by_cases hpath : (translatedPath ((line newline record).drop pathOffset) rule).length ≤ uintptrMax
  · rw [if_pos hpath]
    dsimp only
    rw [addSize_three, ← hlength]
    by_cases hfits :
      state.writeOffset + (translatedRecord record pathOffset rule).length ≤ uintptrMax
    · rw [if_pos hfits, if_pos hfits]
      dsimp only
      unfold TextState.emit TextState.countRewritten
      congr 2
      cases hout : state.output with
      | none => rfl
      | some output =>
        exact congrArg some (write_translatedRecord (hroom output hout) hoffset hending)
    · rw [if_neg hfits, if_neg hfits]
  · rw [if_neg hpath, if_neg (by omega)]

end Emit

section Mappings

/-- A mapping of the text: its line, and the lines of details that follow it. -/
structure Mapping where
  header : List UInt8
  details : List (List UInt8)
  start : ℕ
  stop : ℕ
  front : List UInt8
  path : List UInt8
  isHeader : IsMapHeader (line newline header) start stop front path
  isDetail : ∀ detail ∈ details, ∀ start stop front path,
    ¬IsMapHeader (line newline detail) start stop front path

variable {options : ProcTextRewriteOptions} {kind : ProcTextKind} {mapping : Mapping}
  {state : TextState} {rules : List ProcReversePathRule}

def Mapping.records (mapping : Mapping) : List (List UInt8) := mapping.header :: mapping.details

def Mapping.Hidden (options : ProcTextRewriteOptions) (mapping : Mapping) : Prop :=
  ∃ range ∈ options.hiddenRanges, range.Meets mapping.start mapping.stop

instance (options : ProcTextRewriteOptions) : DecidablePred (Mapping.Hidden options) :=
  fun _ => inferInstanceAs (Decidable (∃ _ ∈ _, _))

def shownPath (rules : List ProcReversePathRule) (path : List UInt8) : List UInt8 :=
  match selectReverseRule path rules with
  | none => path
  | some rule => relocated path rule

def Mapping.shownHeader (rules : List ProcReversePathRule) (mapping : Mapping) : List UInt8 :=
  mapping.front ++ shownPath rules mapping.path ++
    mapping.header.drop (line newline mapping.header).length

def Mapping.shown (rules : List ProcReversePathRule) (mapping : Mapping) : List UInt8 :=
  mapping.shownHeader rules ++ mapping.details.flatten

def Mapping.rewritten (rules : List ProcReversePathRule) (mapping : Mapping) : Bool :=
  (selectReverseRule mapping.path rules).isSome

theorem Mapping.drop_line : (line newline mapping.header).drop mapping.front.length =
    mapping.path := by
  rw [mapping.isHeader.1, List.drop_left]

theorem Mapping.header_eq : mapping.header = mapping.front ++ mapping.path ++
    mapping.header.drop (line newline mapping.header).length := by
  rw [← mapping.isHeader.1]
  exact (List.prefix_iff_eq_append.mp (List.takeWhile_prefix _)).symm

theorem Mapping.take_header : mapping.header.take mapping.front.length = mapping.front := by
  rw [mapping.header_eq, List.append_assoc, List.take_left]

structure ValidOptions (options : ProcTextRewriteOptions) : Prop where
  fits : ∀ range ∈ options.hiddenRanges, range.size = 0 ∨ range.Fits
  hosts : ∀ rule ∈ options.reverseRules, isCanonicalAbsolutePrefix rule.hostPrefix = true
  guests : ∀ rule ∈ options.reverseRules, isCanonicalAbsolutePrefix rule.guestPrefix = true

theorem validOptions_of_validate (h : validateRewriteOptions options = .ok ()) :
    ValidOptions options := by
  unfold validateRewriteOptions validateRanges at h
  by_cases hranges : ∃ range ∈ options.hiddenRanges,
      range.size ≠ 0 ∧ range.start.toNat > uintptrMax - range.size.toNat
  · rw [if_pos hranges] at h
    exact nomatch h
  rw [if_neg hranges] at h
  dsimp only at h
  split_ifs at h with hrules
  refine ⟨fun range hrange => ?_, fun rule hrule => ?_, fun rule hrule => ?_⟩
  · by_contra hnot
    rw [not_or, ← AddressRange.fits_iff, not_not] at hnot
    exact hranges ⟨range, hrange, hnot⟩
  · by_contra hnot
    exact hrules ⟨rule, hrule, .inr (.inl hnot)⟩
  · by_contra hnot
    exact hrules ⟨rule, hrule, .inr (.inr hnot)⟩

theorem overlapsHiddenRange_iff (hvalid : ValidOptions options) :
    overlapsHiddenRange mapping.start mapping.stop options.hiddenRanges = true ↔
      mapping.Hidden options := by
  simp only [overlapsHiddenRange, List.any_eq_true, Mapping.Hidden]
  refine exists_congr fun range => and_congr_right fun hrange => ?_
  rw [AddressRange.meets_iff mapping.isHeader.2.2.1]
  by_cases hsize : range.size = 0
  · simp [hsize]
  · have hfits := (hvalid.fits range hrange).resolve_left hsize
    have hsum : (range.start + range.size).toNat = range.start.toNat + range.size.toNat := by
      rw [UInt64.toNat_add]
      unfold AddressRange.Fits uintptrMax at hfits
      omega
    simp [hsize, hsum]

theorem processRecord_header (hvalid : ValidOptions options) (hroom : state.Room)
    (hending : mapping.header.drop (line newline mapping.header).length = [] ∨
      mapping.header.drop (line newline mapping.header).length = [newline]) :
    processRecord options kind mapping.header state =
      if mapping.Hidden options then .ok (state.seeMapping kind true)
      else if state.writeOffset + (mapping.shownHeader options.reverseRules).length ≤ uintptrMax then
        .ok (((state.seeMapping kind false).countRewritten
          (mapping.rewritten options.reverseRules)).emit (mapping.shownHeader options.reverseRules))
      else .error .eoverflow := by
  unfold processRecord
  dsimp only
  rw [mapping.isHeader.parse]
  dsimp only
  by_cases hhidden : mapping.Hidden options
  · rw [if_pos hhidden, if_pos ((overlapsHiddenRange_iff hvalid).mpr hhidden)]
  rw [if_neg hhidden, if_neg (mt (overlapsHiddenRange_iff hvalid).mp hhidden), Mapping.drop_line]
  unfold Mapping.shownHeader Mapping.rewritten shownPath
  cases hrule : selectReverseRule mapping.path options.reverseRules with
  | none =>
    dsimp only
    rw [← Mapping.header_eq, TextState.copyRecord_eq]
    rfl
  | some rule =>
    obtain ⟨hmem, -, hmatch⟩ := selectReverseRule_applies hrule
    have hhost := hvalid.hosts rule hmem
    have hrecord : translatedRecord mapping.header mapping.front.length rule =
        mapping.front ++ relocated mapping.path rule ++
          mapping.header.drop (line newline mapping.header).length := by
      rw [translatedRecord, Mapping.take_header, Mapping.drop_line,
        translatedPath_eq hhost (hvalid.guests rule hmem) hmatch]
    dsimp only
    have hseen : (state.seeMapping kind false).Room := hroom
    rw [TextState.translateRecord_eq hseen _ _ hending, hrecord]
    · rfl
    · rw [mapping.isHeader.1, List.length_append]
      exact Nat.le_add_right _ _
    · rw [Mapping.drop_line]
      exact translationSuffixOffset_le hmatch

end Mappings

section Run

variable {options : ProcTextRewriteOptions} {kind : ProcTextKind} {mapping : Mapping}
  {mappings : List Mapping} {state : TextState} {all more : List (List UInt8)}

def processRecords (options : ProcTextRewriteOptions) (kind : ProcTextKind) :
    List (List UInt8) → TextState → Except Errno TextState
  | [], state => .ok state
  | record :: all, state =>
    match processRecord options kind record state with
    | .error error => .error error
    | .ok state => processRecords options kind all state

theorem processFrom_eq {rounds : ℕ} {rest : List UInt8} (h : rest.length ≤ rounds) :
    processFrom options kind rounds rest state =
      processRecords options kind (records newline rest) state := by
  induction rounds generalizing rest state with
  | zero =>
    rw [List.length_eq_zero_iff.mp (Nat.le_zero.mp h)]
    rfl
  | succ rounds ih =>
    rw [processFrom]
    by_cases hrest : rest = []
    · rw [if_pos hrest, hrest]
      rfl
    · have hpos : 0 < recordLength newline rest ∧ _ := recordLength_pos hrest
      rw [if_neg hrest, records_eq_cons hrest, processRecords]
      dsimp only
      cases processRecord options kind (rest.take (recordLength newline rest)) state with
      | error error => rfl
      | ok state => exact ih (by rw [List.length_drop]; omega)

theorem processRecords_append : processRecords options kind (all ++ more) state =
    match processRecords options kind all state with
    | .error error => .error error
    | .ok state => processRecords options kind more state := by
  induction all generalizing state with
  | nil => rfl
  | cons record all ih =>
    rw [List.cons_append, processRecords, processRecords]
    cases processRecord options kind record state with
    | error error => rfl
    | ok state => exact ih

theorem processRecord_detail {detail : List UInt8}
    (hdetail : parseMapHeader (line newline detail) = none)
    (hmapping : state.haveSmapsMapping = true) : processRecord options .smaps detail state =
      if state.currentSmapsHidden then .ok state else state.copyRecord detail := by
  unfold processRecord
  dsimp only
  rw [hdetail]
  dsimp only
  rw [if_neg (by simp [hmapping])]

theorem processRecords_hidden_details
    (hdetails : ∀ detail ∈ all, parseMapHeader (line newline detail) = none)
    (hmapping : state.haveSmapsMapping = true) (hhidden : state.currentSmapsHidden = true) :
    processRecords options .smaps all state = .ok state := by
  induction all with
  | nil => rfl
  | cons detail all ih =>
    rw [List.forall_mem_cons] at hdetails
    rw [processRecords, processRecord_detail hdetails.1 hmapping, if_pos hhidden]
    exact ih hdetails.2

theorem processRecords_shown_details
    (hdetails : ∀ detail ∈ all, parseMapHeader (line newline detail) = none)
    (hmapping : state.haveSmapsMapping = true) (hhidden : state.currentSmapsHidden = false)
    (hroom : state.Room) (hoffset : state.writeOffset ≤ uintptrMax) :
    processRecords options .smaps all state =
      if state.writeOffset + all.flatten.length ≤ uintptrMax then .ok (state.emit all.flatten)
      else .error .eoverflow := by
  induction all generalizing state with
  | nil => simp [processRecords, hoffset, TextState.emit_nil]
  | cons detail all ih =>
    rw [List.forall_mem_cons] at hdetails
    rw [processRecords, processRecord_detail hdetails.1 hmapping, if_neg (by simp [hhidden]),
      TextState.copyRecord_eq, List.flatten_cons, List.length_append]
    by_cases hfits : state.writeOffset + detail.length ≤ uintptrMax
    · rw [if_pos hfits]
      dsimp only
      rw [@ih (state.emit detail) hdetails.2 hmapping hhidden hroom.emit hfits,
        TextState.emit_emit hroom]
      refine if_congr ?_ rfl rfl
      rw [TextState.emit, Nat.add_assoc]
    · rw [if_neg hfits, if_neg (by omega)]

theorem processRecords_mapping (hvalid : ValidOptions options) (hroom : state.Room)
    (hkind : kind = .maps → mapping.details = [])
    (hending : mapping.header.drop (line newline mapping.header).length = [] ∨
      mapping.header.drop (line newline mapping.header).length = [newline]) :
    processRecords options kind mapping.records state =
      if mapping.Hidden options then .ok (state.seeMapping kind true)
      else if state.writeOffset + (mapping.shown options.reverseRules).length ≤ uintptrMax then
        .ok (((state.seeMapping kind false).countRewritten
          (mapping.rewritten options.reverseRules)).emit (mapping.shown options.reverseRules))
      else .error .eoverflow := by
  have hdetails : ∀ detail ∈ mapping.details, parseMapHeader (line newline detail) = none :=
    fun detail hdetail => parseMapHeader_eq_none (mapping.isDetail detail hdetail)
  rw [Mapping.records, processRecords, processRecord_header hvalid hroom hending, Mapping.shown,
    List.length_append]
  by_cases hhidden : mapping.Hidden options
  · rw [if_pos hhidden, if_pos hhidden]
    dsimp only
    cases kind with
    | maps =>
      rw [hkind rfl]
      rfl
    | smaps => exact processRecords_hidden_details hdetails (by simp [TextState.seeMapping]) rfl
  rw [if_neg hhidden, if_neg hhidden]
  by_cases hheader :
    state.writeOffset + (mapping.shownHeader options.reverseRules).length ≤ uintptrMax
  · rw [if_pos hheader]
    dsimp only
    have hroom' : ((state.seeMapping kind false).countRewritten
      (mapping.rewritten options.reverseRules)).Room := hroom
    cases kind with
    | maps =>
      rw [hkind rfl, List.flatten_nil, List.append_nil, List.length_nil, Nat.add_zero,
        if_pos hheader]
      rfl
    | smaps =>
      rw [processRecords_shown_details hdetails (by simp [TextState.seeMapping,
        TextState.countRewritten, TextState.emit]) rfl hroom'.emit hheader,
        TextState.emit_emit hroom', ← Nat.add_assoc]
      rfl
  · rw [if_neg hheader, if_neg (by omega)]

def view (options : ProcTextRewriteOptions) (mappings : List Mapping) : List UInt8 :=
  (mappings.filter fun mapping => ¬mapping.Hidden options).flatMap
    (Mapping.shown options.reverseRules)

def ProcTextRewriteResult.count (current : ProcTextRewriteResult)
    (options : ProcTextRewriteOptions) (mappings : List Mapping) : ProcTextRewriteResult :=
  { current with
    mappingsSeen := current.mappingsSeen + mappings.length
    mappingsHidden := current.mappingsHidden + mappings.countP (·.Hidden options)
    pathsRewritten := current.pathsRewritten +
      (mappings.filter fun mapping => ¬mapping.Hidden options).countP
        (·.rewritten options.reverseRules) }

theorem count_cons_hidden (h : mapping.Hidden options) :
    (state.seeMapping kind true).current.count options mappings =
      state.current.count options (mapping :: mappings) := by
  simp [ProcTextRewriteResult.count, TextState.seeMapping, h, Nat.add_assoc, Nat.add_comm 1]

theorem count_cons_shown (h : ¬mapping.Hidden options) :
    ((state.seeMapping kind false).countRewritten (mapping.rewritten options.reverseRules)).current.count
      options mappings = state.current.count options (mapping :: mappings) := by
  cases hrewritten : mapping.rewritten options.reverseRules with
  | true =>
    simp [ProcTextRewriteResult.count, TextState.seeMapping, TextState.countRewritten, h, hrewritten,
      Nat.add_assoc, Nat.add_comm 1]
  | false =>
    simp [ProcTextRewriteResult.count, TextState.seeMapping, TextState.countRewritten, h, hrewritten,
      Nat.add_assoc, Nat.add_comm 1]

def TextState.counted (state : TextState) (options : ProcTextRewriteOptions)
    (mappings : List Mapping) (flags : Bool × Bool) : TextState :=
  { state with
    current := state.current.count options mappings
    haveSmapsMapping := flags.1
    currentSmapsHidden := flags.2 }

theorem processRecords_mappings (hvalid : ValidOptions options)
    (hkind : kind = .maps → ∀ mapping ∈ mappings, mapping.details = [])
    (hending : ∀ mapping ∈ mappings,
      mapping.header.drop (line newline mapping.header).length = [] ∨
      mapping.header.drop (line newline mapping.header).length = [newline])
    (hroom : state.Room) (hoffset : state.writeOffset ≤ uintptrMax) :
    ∃ flags, processRecords options kind (mappings.flatMap Mapping.records) state =
      if state.writeOffset + (view options mappings).length ≤ uintptrMax then
        .ok ((state.counted options mappings flags).emit (view options mappings))
      else .error .eoverflow := by
  induction mappings generalizing state with
  | nil =>
    refine ⟨(state.haveSmapsMapping, state.currentSmapsHidden), ?_⟩
    have hview : view options [] = [] := rfl
    rw [hview, List.length_nil, Nat.add_zero, if_pos hoffset, TextState.emit_nil]
    rfl
  | cons mapping mappings ih =>
    rw [List.forall_mem_cons] at hending
    have hmapping := @processRecords_mapping options kind mapping state hvalid hroom
      (fun h => hkind h mapping List.mem_cons_self) hending.1
    have hkind' := fun h m hm => hkind h m (List.mem_cons_of_mem mapping hm)
    rw [List.flatMap_cons, processRecords_append, hmapping]
    by_cases hhidden : mapping.Hidden options
    · have hview : view options (mapping :: mappings) = view options mappings := by
        simp [view, hhidden]
      obtain ⟨flags, hrun⟩ := @ih (state.seeMapping kind true) hkind' hending.2 hroom hoffset
      refine ⟨flags, ?_⟩
      rw [if_pos hhidden, hview]
      dsimp only
      rw [hrun, TextState.counted, count_cons_hidden hhidden]
      rfl
    · have hview : view options (mapping :: mappings) =
          mapping.shown options.reverseRules ++ view options mappings := by
        simp [view, hhidden]
      rw [if_neg hhidden, hview, List.length_append]
      by_cases hfits :
        state.writeOffset + (mapping.shown options.reverseRules).length ≤ uintptrMax
      · have hroom' : ((state.seeMapping kind false).countRewritten
          (mapping.rewritten options.reverseRules)).Room := hroom
        obtain ⟨flags, hrun⟩ := ih hkind' hending.2 hroom'.emit hfits
        refine ⟨flags, ?_⟩
        have hemit := @TextState.emit_emit (state.counted options (mapping :: mappings) flags)
          (mapping.shown options.reverseRules) (view options mappings) hroom
        rw [if_pos hfits, ← hemit, ← Nat.add_assoc, TextState.counted, ← count_cons_shown hhidden]
        exact hrun
      · refine ⟨default, ?_⟩
        rw [if_neg hfits, if_neg (by omega)]

end Run

section Exact

variable {options : ProcTextRewriteOptions} {kind : ProcTextKind} {text : List UInt8}
  {mappings : List Mapping}

def result (options : ProcTextRewriteOptions) (mappings : List Mapping) : ProcTextRewriteResult where
  outputSize := (view options mappings).length
  mappingsSeen := mappings.length
  mappingsHidden := mappings.countP (·.Hidden options)
  pathsRewritten := (mappings.filter fun mapping => ¬mapping.Hidden options).countP
    (·.rewritten options.reverseRules)

/-- The lines of a well-formed text are those of some mappings; only `smaps` has details. -/
structure IsText (kind : ProcTextKind) (text : List UInt8) (mappings : List Mapping) : Prop where
  records_eq : records newline text = mappings.flatMap Mapping.records
  details_eq : kind = .maps → ∀ mapping ∈ mappings, mapping.details = []

theorem IsText.ending (h : IsText kind text mappings) : ∀ mapping ∈ mappings,
    mapping.header.drop (line newline mapping.header).length = [] ∨
      mapping.header.drop (line newline mapping.header).length = [newline] := by
  intro mapping hmapping
  have hmem : mapping.header ∈ records newline text := by
    rw [h.records_eq]
    exact List.mem_flatMap.mpr ⟨mapping, hmapping, List.mem_cons_self⟩
  exact drop_line_of_mem_records hmem

theorem processProcText_eq (hvalid : ValidOptions options) (htext : IsText kind text mappings)
    (output : Option (List UInt8)) : processProcText options kind text output =
      if (view options mappings).length ≤ uintptrMax then
        .ok (result options mappings, output.map (write · 0 (view options mappings)))
      else .error .eoverflow := by
  have hroom : TextState.Room ⟨⟨0, 0, 0, 0⟩, 0, false, false, output⟩ :=
    fun _ _ => Nat.zero_le _
  obtain ⟨flags, hrun⟩ := processRecords_mappings hvalid htext.details_eq htext.ending hroom
    (Nat.zero_le _)
  unfold processProcText
  rw [processFrom_eq le_rfl, htext.records_eq, hrun, Nat.zero_add]
  split_ifs
  · simp [result, TextState.emit, TextState.counted, ProcTextRewriteResult.count]
  · rfl

theorem rewriteProcText_valid (hvalid : validateRewriteOptions options = .ok ())
    (htext : IsText kind text mappings) (hsize : (view options mappings).length ≤ uintptrMax)
    (output : List UInt8) : rewriteProcText options kind text output =
      if (view options mappings).length ≤ output.length then
        (view options mappings ++ output.drop (view options mappings).length,
          result options mappings, .ok ())
      else (output, result options mappings, .error .enospc) := by
  have hrun := processProcText_eq (validOptions_of_validate hvalid) htext
  simp only [if_pos hsize] at hrun
  have houtput : (result options mappings).outputSize = (view options mappings).length := rfl
  unfold rewriteProcText
  rw [hvalid, hrun none]
  dsimp only [Option.map_none]
  rw [houtput]
  by_cases hfits : (view options mappings).length ≤ output.length
  · rw [if_neg (Nat.not_lt.mpr hfits), if_pos hfits]
    split_ifs with hempty
    · have hnil : view options mappings = [] := List.length_eq_zero_iff.mp hempty
      simp [hnil]
    · rw [hrun (some output)]
      simp [write]
  · rw [if_pos (Nat.lt_of_not_le hfits), if_neg hfits]

/-- The rewritten text is the view of the mappings, and the measuring pass gives its length. Options
that do not validate, and a view longer than the address space, are errors without output. -/
theorem rewriteProcText_eq_view (htext : IsText kind text mappings) (output : List UInt8) :
    (∀ error, validateRewriteOptions options = .error error →
      rewriteProcText options kind text output = (output, ⟨0, 0, 0, 0⟩, .error error)) ∧
    (validateRewriteOptions options = .ok () → uintptrMax < (view options mappings).length →
      rewriteProcText options kind text output = (output, ⟨0, 0, 0, 0⟩, .error .eoverflow)) ∧
    (validateRewriteOptions options = .ok () → (view options mappings).length ≤ uintptrMax →
      processProcText options kind text none = .ok (result options mappings, none) ∧
      rewriteProcText options kind text output =
        if (view options mappings).length ≤ output.length then
          (view options mappings ++ output.drop (view options mappings).length,
            result options mappings, .ok ())
        else (output, result options mappings, .error .enospc)) := by
  refine ⟨fun error herror => ?_, fun hvalid hlong => ?_, fun hvalid hsize => ⟨?_, ?_⟩⟩
  · unfold rewriteProcText
    rw [herror]
  · have hrun := processProcText_eq (validOptions_of_validate hvalid) htext none
    unfold rewriteProcText
    rw [hvalid, hrun, if_neg (Nat.not_le.mpr hlong)]
  · rw [processProcText_eq (validOptions_of_validate hvalid) htext none, if_pos hsize]
    rfl
  · exact rewriteProcText_valid hvalid htext hsize output

def sampleHeader : List UInt8 := "10-20 r 0 0 0 /h/a\n".toUTF8.data.toList

def hiddenHeader : List UInt8 := "20-28 x 0 0 0 /h/b\n".toUTF8.data.toList

def sampleDetail : List UInt8 := "Size: 4\n".toUTF8.data.toList

set_option maxRecDepth 4000 in
theorem sampleHeader_isMapHeader : IsMapHeader (line newline sampleHeader) 0x10 0x20
    "10-20 r 0 0 0 ".toUTF8.data.toList "/h/a".toUTF8.data.toList :=
  ⟨by decide, by decide, by decide, "10".toUTF8.data.toList, "20".toUTF8.data.toList,
    " r 0 0 0 /h/a".toUTF8.data.toList, [32], by decide, parseHex_eq_some.mp (by decide),
    parseHex_eq_some.mp (by decide), by decide,
    afterFields_eq_some.mp (by decide +kernel), by decide⟩

set_option maxRecDepth 4000 in
theorem hiddenHeader_isMapHeader : IsMapHeader (line newline hiddenHeader) 0x20 0x28
    "20-28 x 0 0 0 ".toUTF8.data.toList "/h/b".toUTF8.data.toList :=
  ⟨by decide, by decide, by decide, "20".toUTF8.data.toList, "28".toUTF8.data.toList,
    " x 0 0 0 /h/b".toUTF8.data.toList, [32], by decide, parseHex_eq_some.mp (by decide),
    parseHex_eq_some.mp (by decide), by decide,
    afterFields_eq_some.mp (by decide +kernel), by decide⟩

theorem sampleDetail_not_isMapHeader {start stop : ℕ} {front path : List UInt8} :
    ¬IsMapHeader (line newline sampleDetail) start stop front path := by
  intro hheader
  have hnone : parseMapHeader (line newline sampleDetail) = none := by decide
  rw [hheader.parse] at hnone
  cases hnone

def sampleMapping : Mapping where
  header := sampleHeader
  details := [sampleDetail]
  start := 0x10
  stop := 0x20
  front := "10-20 r 0 0 0 ".toUTF8.data.toList
  path := "/h/a".toUTF8.data.toList
  isHeader := sampleHeader_isMapHeader
  isDetail := by
    intro detail hdetail start stop front path
    obtain rfl := List.mem_singleton.mp hdetail
    exact sampleDetail_not_isMapHeader

def hiddenMapping : Mapping where
  header := hiddenHeader
  details := [sampleDetail]
  start := 0x20
  stop := 0x28
  front := "20-28 x 0 0 0 ".toUTF8.data.toList
  path := "/h/b".toUTF8.data.toList
  isHeader := hiddenHeader_isMapHeader
  isDetail := by
    intro detail hdetail start stop front path
    obtain rfl := List.mem_singleton.mp hdetail
    exact sampleDetail_not_isMapHeader

def sampleText : List UInt8 := sampleHeader ++ sampleDetail ++ (hiddenHeader ++ sampleDetail)

def sampleOptions : ProcTextRewriteOptions where
  hiddenRanges := [⟨0x20, 16⟩]
  reverseRules := [⟨"/h".toUTF8.data.toList, "/g".toUTF8.data.toList, 0, reversePathRuleVisible⟩]

theorem sampleText_isText : IsText .smaps sampleText [sampleMapping, hiddenMapping] :=
  ⟨by decide +kernel, nofun⟩

/-- One mapping keeps its details under the visible path, the other lies in the hidden range. -/
theorem rewriteProcText_eq_view_sample :
    IsText .smaps sampleText [sampleMapping, hiddenMapping] ∧
    validateRewriteOptions sampleOptions = .ok () ∧
    rewriteProcText sampleOptions .smaps sampleText (List.replicate 27 0) =
      ("10-20 r 0 0 0 /g/a\nSize: 4\n".toUTF8.data.toList, ⟨27, 2, 1, 1⟩, .ok ()) := by
  have hvalid : validateRewriteOptions sampleOptions = .ok () := by decide +kernel
  have hview := (rewriteProcText_eq_view sampleText_isText (List.replicate 27 0)).2.2 hvalid
    (by decide +kernel)
  refine ⟨sampleText_isText, hvalid, hview.2.trans ?_⟩
  decide +kernel

end Exact

end HookSelf.ProcVirtual
