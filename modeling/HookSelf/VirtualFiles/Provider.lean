import HookSelf.Collections.Compaction
import HookSelf.Config.Types
import HookSelf.Errno
import HookSelf.ProcText.Fields

/-! The providers of virtual proc files (`virtual_file_provider.cpp`): the text that stands in for
`/proc/<pid>/status` and `/proc/<pid>/maps`. -/

namespace HookSelf.VirtualFiles

open Buffer Compaction Config Lines ProcText

abbrev VirtualFileHiddenRange : Type := AddressRange

section Maps

def mappingPath (line : List UInt8) : Option (List UInt8) :=
  (afterFields 5 line).bind fun rest =>
    let path := rest.dropWhile isSpace
    if path = [] then none else some path

def mappingRange (line : List UInt8) : Option (ℕ × ℕ) :=
  let startText := line.takeWhile (· ≠ dash)
  if startText = [] ∨ startText.length = line.length then none
  else
    (parseHex startText).bind fun start =>
      (parseHex ((line.drop (startText.length + 1)).takeWhile (!isSpace ·))).bind fun stop =>
        if start < stop then some (start, stop) else none

def overlapsHiddenRange (start stop : ℕ) (ranges : List VirtualFileHiddenRange) : Bool :=
  ranges.any fun range =>
    if range.size = 0 ∨ range.start.toNat > uintptrMax - range.size.toNat then false
    else
      let hiddenEnd := range.start.toNat + range.size.toNat
      start < hiddenEnd && range.start.toNat < stop

def contains (data needle : List UInt8) : Bool :=
  if needle.length = 0 ∨ needle.length > data.length then false
  else (List.range (data.length - needle.length + 1)).any fun i =>
    (data.drop i).take needle.length = needle

abbrev sessionName : List UInt8 := "hookself-session".toUTF8.data.toList
abbrev vfileName : List UInt8 := "hookself-vfile".toUTF8.data.toList
abbrev libraryName : List UInt8 := "libhookself.so".toUTF8.data.toList

def hiddenByPath (path : List UInt8) : Bool :=
  contains path sessionName || contains path vfileName || contains path libraryName

def hiddenLine (ranges : List VirtualFileHiddenRange) (line : List UInt8) : Bool :=
  (match mappingRange line with
    | none => false
    | some (start, stop) => overlapsHiddenRange start stop ranges) ||
  match mappingPath line with
    | none => false
    | some path => hiddenByPath path

def nextMapping (ranges : List VirtualFileHiddenRange) (_ : Unit) (rest : List UInt8) :
    Except Empty (ℕ × Bool × Unit) :=
  .ok (recordLength newline rest, hiddenLine ranges (line newline rest), ())

def filterInternalMappings (data : List UInt8) (ranges : List VirtualFileHiddenRange) :
    List UInt8 × ℕ :=
  match compact (nextMapping ranges) data.length () data 0 0 with
  | (buffer, .ok (size, ())) => (buffer, size)

end Maps

section Status

abbrev tracerPidKey : List UInt8 := "TracerPid:".toUTF8.data.toList
abbrev tracerPidReplacement : List UInt8 := "TracerPid:\t0".toUTF8.data.toList

def startsWith (data start : List UInt8) : Bool :=
  data.length ≥ start.length && data.take start.length = start

structure TracerPidMatch where
  start : ℕ
  stop : ℕ
  count : ℕ
  deriving DecidableEq, Repr

/-- One line of the scan; the number of matches is a `uint32_t`. -/
def TracerPidMatch.see (found : TracerPidMatch) (lineStart : ℕ) (text : List UInt8) :
    TracerPidMatch :=
  if startsWith text tracerPidKey then
    ⟨lineStart, lineStart + text.length, (found.count + 1) % 2 ^ 32⟩
  else found

def scanTracerPid (data : List UInt8) : ℕ → ℕ → TracerPidMatch → TracerPidMatch
  | 0, _, found => found
  | rounds + 1, lineStart, found =>
    if lineStart < data.length then
      let text := line newline (data.drop lineStart)
      let lineEnd := lineStart + text.length
      scanTracerPid data rounds (if lineEnd < data.length then lineEnd + 1 else lineEnd)
        (found.see lineStart text)
    else found

def rewriteTracerPid (data : List UInt8) : List UInt8 × ℕ × Except Errno Unit :=
  let found := scanTracerPid data data.length 0 ⟨0, 0, 0⟩
  if found.count = 0 then (data, data.length, .error .enodata)
  else if found.count ≠ 1 then (data, data.length, .error .eproto)
  else
    let replacementSize := tracerPidReplacement.length
    let oldSize := found.stop - found.start
    if oldSize < replacementSize then (data, data.length, .error .eproto)
    else
      let written := write data found.start tracerPidReplacement
      if oldSize ≠ replacementSize then
        (move written (found.start + replacementSize) found.stop (data.length - found.stop),
          data.length - (oldSize - replacementSize), .ok ())
      else (written, data.length, .ok ())

end Status

section Snapshot

inductive ReadAnswer
  | interrupted
  | failed (error : Errno)
  | bytes (data : List UInt8)
  deriving DecidableEq, Repr

/-- The reads of a source, which end with an empty one. A text that fills the buffer is the whole
text only if there is nothing behind it. -/
def readFrom (capacity : ℕ) : List ReadAnswer → List UInt8 → Option (Except Errno (List UInt8))
  | [], _ => none
  | .interrupted :: answers, output => readFrom capacity answers output
  | .failed error :: _, _ => some (.error error)
  | .bytes data :: answers, output =>
    if data = [] then some (.ok output)
    else if output.length < capacity then readFrom capacity answers (output ++ data)
    else some (.error .efbig)

def readSnapshot (fd : ℤ) (seek : Except Errno Unit) (answers : List ReadAnswer) (capacity : ℕ) :
    Option (Except Errno (List UInt8)) :=
  if fd < 0 ∨ capacity = 0 then some (.error .einval)
  else
    match seek with
    | .error error => some (.error error)
    | .ok () => readFrom capacity answers []

def provide (provider : ℤ) (flags : BitVec 32) (ranges : List VirtualFileHiddenRange)
    (data : List UInt8) : Except Errno (List UInt8) :=
  if provider = vfileProcStatus then
    match rewriteTracerPid data with
    | (_, _, .error error) => .error error
    | (buffer, size, .ok ()) => .ok (buffer.take size)
  else if provider = vfileProcMaps then
    if flags &&& vfileHideInternalMappings ≠ 0 then
      .ok ((filterInternalMappings data ranges).1.take (filterInternalMappings data ranges).2)
    else .ok data
  else if provider = vfileSelinuxContext then .ok data
  else .error .einval

def generateVirtualFileProviderSnapshot (provider : ℤ) (flags : BitVec 32) (sourceFd : ℤ)
    (seek : Except Errno Unit) (answers : List ReadAnswer) (configuredContent : List UInt8)
    (ranges : List VirtualFileHiddenRange) (capacity : ℕ) : Option (Except Errno (List UInt8)) :=
  if capacity = 0 ∨ configuredContent.length > capacity then some (.error .einval)
  else if provider = vfileSelinuxContext ∧ configuredContent.length ≠ 0 then
    some (.ok configuredContent)
  else
    (readSnapshot sourceFd seek answers capacity).map fun
      | .error error => .error error
      | .ok data => provide provider flags ranges data

end Snapshot

section MapsLaws

variable {data needle text : List UInt8} {ranges : List VirtualFileHiddenRange} {start stop : ℕ}

theorem contains_iff : contains data needle = true ↔ needle ≠ [] ∧ needle <:+: data := by
  rw [contains]
  split_ifs with h
  · refine ⟨nofun, fun ⟨hne, hinfix⟩ => ?_⟩
    have hle := hinfix.length_le
    have hpos := List.length_pos_iff.mpr hne
    omega
  · simp only [List.any_eq_true, List.mem_range, decide_eq_true_eq]
    constructor
    · rintro ⟨i, -, hi⟩
      refine ⟨fun hnil => h (Or.inl (by simp [hnil])), ?_⟩
      rw [← hi]
      exact (List.take_prefix _ _).isInfix.trans (List.drop_suffix _ _).isInfix
    · rintro ⟨-, before, after, rfl⟩
      refine ⟨before.length, ?_, ?_⟩
      · simp only [List.length_append]
        omega
      · rw [List.append_assoc, List.drop_left, List.take_left]

/-- The address range in front of a line: two hexadecimal numbers with a dash between them, up to
the first blank. -/
def IsMapping (text : List UInt8) (start stop : ℕ) : Prop :=
  ∃ startText stopText rest, text = startText ++ dash :: (stopText ++ rest) ∧
    (∀ c ∈ stopText, isSpace c = false) ∧ StartsBlank rest ∧
    IsHex startText start ∧ IsHex stopText stop ∧ start < stop

theorem mappingRange_append {startText rest : List UInt8} (h : dash ∉ startText) :
    mappingRange (startText ++ dash :: rest) = some (start, stop) ↔
      IsHex startText start ∧ IsHex (rest.takeWhile (!isSpace ·)) stop ∧ start < stop := by
  have hline : (startText ++ dash :: rest).takeWhile (· ≠ dash) = startText := line_append_cons h
  have hdrop : (startText ++ dash :: rest).drop (startText.length + 1) = rest := by simp
  rw [mappingRange, hline, hdrop]
  by_cases hempty : startText = []
  · rw [if_pos (Or.inl hempty)]
    exact ⟨nofun, fun hhex => absurd hempty hhex.1.1⟩
  rw [if_neg (by simp [hempty])]
  simp only [Option.bind_eq_some_iff, parseHex_eq_some, Option.ite_none_right_eq_some,
    Option.some.injEq, Prod.mk.injEq]
  constructor
  · rintro ⟨_, hstart, _, hstop, hlt, rfl, rfl⟩
    exact ⟨hstart, hstop, hlt⟩
  · rintro ⟨hstart, hstop, hlt⟩
    exact ⟨start, hstart, stop, hstop, hlt, rfl, rfl⟩

theorem mappingRange_eq_some : mappingRange text = some (start, stop) ↔
    IsMapping text start stop := by
  constructor
  · intro h
    cases text using Components.split_induction dash with
    | last l hl =>
      have hline : text.takeWhile (· ≠ dash) = text := line_of_not_mem hl
      rw [mappingRange, hline, if_pos (Or.inr rfl)] at h
      exact nomatch h
    | cons l r hl =>
      obtain ⟨hstart, hstop, hlt⟩ := (mappingRange_append hl).mp h
      refine ⟨l, r.takeWhile (!isSpace ·), r.dropWhile (!isSpace ·), ?_, fun c hc => ?_,
        startsBlank_dropWhile r, hstart, hstop, hlt⟩
      · rw [List.takeWhile_append_dropWhile]
      · simpa using List.mem_takeWhile_imp hc
  · rintro ⟨startText, stopText, rest, rfl, hstop, hrest, hstart, hvalue, hlt⟩
    rw [mappingRange_append hstart.dash_not_mem, (takeWhile_field hstop hrest).1]
    exact ⟨hstart, hvalue, hlt⟩

def IsPath (text path : List UInt8) : Prop :=
  ∃ blanks, Fields 5 text (blanks ++ path) ∧ (∀ c ∈ blanks, isSpace c = true) ∧ path ≠ [] ∧
    StartsField path

theorem mappingPath_eq_some {path : List UInt8} :
    mappingPath text = some path ↔ IsPath text path := by
  rw [mappingPath, Option.bind_eq_some_iff]
  simp only [afterFields_eq_some]
  constructor
  · rintro ⟨rest, hfields, hpath⟩
    split_ifs at hpath with hempty
    obtain rfl := Option.some.inj hpath
    refine ⟨rest.takeWhile isSpace, ?_, fun c hc => List.mem_takeWhile_imp hc, hempty,
      startsField_dropWhile rest⟩
    rwa [List.takeWhile_append_dropWhile]
  · rintro ⟨blanks, hfields, hblanks, hne, hpath⟩
    refine ⟨_, hfields, ?_⟩
    rw [dropWhile_blanks hblanks hpath, if_neg hne]

def fitting (ranges : List VirtualFileHiddenRange) : List VirtualFileHiddenRange :=
  ranges.filter fun range => decide range.Fits

/-- A line whose address range meets a hidden range, or whose path has an internal name in it. -/
def Hidden (ranges : List VirtualFileHiddenRange) (text : List UInt8) : Prop :=
  (∃ start stop, IsMapping text start stop ∧
    ∃ range ∈ ranges, range.Meets start stop) ∨
  ∃ path, IsPath text path ∧
    ∃ name ∈ [sessionName, vfileName, libraryName], name <:+: path

theorem overlapsHiddenRange_iff (h : start < stop) : overlapsHiddenRange start stop ranges = true ↔
    ∃ range ∈ fitting ranges, range.Meets start stop := by
  simp only [overlapsHiddenRange, List.any_eq_true, fitting, List.mem_filter, decide_eq_true_eq,
    and_assoc]
  refine exists_congr fun range => and_congr_right fun _ => ?_
  rw [AddressRange.meets_iff h, ← AddressRange.fits_iff]
  split_ifs with hskip
  · tauto
  · simp only [Bool.and_eq_true, decide_eq_true_eq]
    tauto

theorem hiddenByPath_iff {path : List UInt8} : hiddenByPath path = true ↔
    ∃ name ∈ [sessionName, vfileName, libraryName], name <:+: path := by
  have hnames : sessionName ≠ [] ∧ vfileName ≠ [] ∧ libraryName ≠ [] := by decide
  simp only [hiddenByPath, Bool.or_eq_true, contains_iff, List.mem_cons, List.not_mem_nil, or_false,
    exists_eq_or_imp, exists_eq_left, hnames.1, hnames.2.1, hnames.2.2, ne_eq, not_false_eq_true,
    true_and, or_assoc]

theorem hiddenLine_iff : hiddenLine ranges text = true ↔ Hidden (fitting ranges) text := by
  rw [hiddenLine, Bool.or_eq_true, Hidden]
  refine or_congr ?_ ?_
  · simp only [← mappingRange_eq_some]
    rcases hrange : mappingRange text with _ | ⟨start, stop⟩
    · simp
    · obtain ⟨-, -, -, -, -, -, -, -, hlt⟩ := mappingRange_eq_some.mp hrange
      rw [overlapsHiddenRange_iff hlt]
      simp
  · simp only [← mappingPath_eq_some]
    cases mappingPath text with
    | none => simp
    | some path => simp only [hiddenByPath_iff, Option.some.injEq, exists_eq_left']

instance (ranges : List VirtualFileHiddenRange) (text : List UInt8) :
    Decidable (Hidden (fitting ranges) text) :=
  decidable_of_iff _ hiddenLine_iff

theorem nextMapping_cuts : Cuts (nextMapping ranges) := by
  intro _ rest length dropped _ hne hnext
  obtain ⟨rfl, -⟩ := Prod.mk.inj (Except.ok.inj hnext)
  exact recordLength_pos hne

theorem cut_nextMapping {rest : List UInt8} {rounds : ℕ} (h : rest.length ≤ rounds) :
    cut (nextMapping ranges) rounds () rest =
      .ok ((records newline rest).map fun r => (r, hiddenLine ranges (line newline r)), ()) := by
  induction rounds generalizing rest with
  | zero =>
    rw [List.length_eq_zero_iff.mp (Nat.le_zero.mp h)]
    rfl
  | succ rounds ih =>
    rw [cut]
    split_ifs with hrest
    · rw [hrest]
      rfl
    · have hpos : 0 < recordLength newline rest ∧ _ := recordLength_pos hrest
      rw [records_eq_cons hrest, List.map_cons, line_take, nextMapping]
      dsimp only
      rw [ih (by rw [List.length_drop]; omega)]

theorem kept_map (hidden : List UInt8 → Bool) (all : List (List UInt8)) :
    kept (all.map fun r => (r, hidden r)) = (all.filter (!hidden ·)).flatten := by
  induction all with
  | nil => rfl
  | cons r all ih =>
    cases h : hidden r with
    | true => simp [h, ih]
    | false => simp [h, ih]

def filtered (data : List UInt8) (ranges : List VirtualFileHiddenRange) : List UInt8 :=
  let (buffer, size) := filterInternalMappings data ranges
  buffer.take size

theorem filtered_eq (data : List UInt8) (ranges : List VirtualFileHiddenRange) :
    filtered data ranges =
      ((records newline data).filter fun r => !hiddenLine ranges (line newline r)).flatten := by
  have hcuts : Cuts (nextMapping ranges) := nextMapping_cuts
  have hspec := compact_spec hcuts data.length () [] [] data
  rw [cut_nextMapping le_rfl] at hspec
  obtain ⟨tail, hrun, -⟩ := hspec
  simp only [List.nil_append, List.length_nil, kept_map] at hrun
  rw [filtered, filterInternalMappings, hrun]
  exact List.take_left

theorem filtered_eq_hidden (data : List UInt8) (ranges : List VirtualFileHiddenRange) :
    filtered data ranges = ((records newline data).filter fun record =>
      ¬Hidden (fitting ranges) (line newline record)).flatten := by
  rw [filtered_eq]
  congr 2
  funext record
  simp [← hiddenLine_iff]

end MapsLaws

section StatusLaws

variable {data text : List UInt8} {all before after : List (List UInt8)} {record : List UInt8}
  {found : TracerPidMatch} {lineStart : ℕ}

def IsTracerPid (record : List UInt8) : Prop := tracerPidKey <+: line newline record

instance (record : List UInt8) : Decidable (IsTracerPid record) :=
  inferInstanceAs (Decidable (_ <+: _))

theorem startsWith_iff {start : List UInt8} : startsWith data start = true ↔ start <+: data := by
  rw [startsWith, Bool.and_eq_true, decide_eq_true_eq, decide_eq_true_eq, List.prefix_iff_eq_take]
  constructor
  · exact fun h => h.2.symm
  · intro h
    refine ⟨?_, h.symm⟩
    rw [h]
    exact List.length_take_le' _ _

theorem TracerPidMatch.see_eq : found.see lineStart (line newline record) =
    if IsTracerPid record then
      ⟨lineStart, lineStart + (line newline record).length, (found.count + 1) % 2 ^ 32⟩
    else found :=
  if_congr startsWith_iff rfl rfl

def seeRecords : ℕ → List (List UInt8) → TracerPidMatch → TracerPidMatch
  | _, [], found => found
  | lineStart, record :: all, found =>
    seeRecords (lineStart + record.length) all (found.see lineStart (line newline record))

theorem scanTracerPid_eq (done : List UInt8) {rest : List UInt8} {rounds : ℕ}
    (h : rest.length ≤ rounds) : scanTracerPid (done ++ rest) rounds done.length found =
      seeRecords done.length (records newline rest) found := by
  induction rounds generalizing done rest found with
  | zero =>
    rw [List.length_eq_zero_iff.mp (Nat.le_zero.mp h)]
    rfl
  | succ rounds ih =>
    rw [scanTracerPid]
    by_cases hrest : rest = []
    · rw [hrest, if_neg (by simp)]
      rfl
    have hpos : 0 < recordLength newline rest ∧ _ := recordLength_pos hrest
    have hlength : (done ++ rest.take (recordLength newline rest)).length =
        if done.length + (line newline rest).length < (done ++ rest).length
        then done.length + (line newline rest).length + 1
        else done.length + (line newline rest).length := by
      rw [List.length_append, List.length_take_of_le hpos.2, recordLength, List.length_append]
      simp only [Nat.add_lt_add_iff_left]
      split_ifs
      · rfl
      · rfl
    have hdata : done ++ rest = done ++ rest.take (recordLength newline rest) ++
        rest.drop (recordLength newline rest) := by simp
    have hlt : done.length < (done ++ rest).length := by
      have := List.length_pos_iff.mpr hrest
      rw [List.length_append]
      omega
    rw [if_pos hlt, List.drop_left]
    dsimp only
    rw [← hlength, records_eq_cons hrest, seeRecords, line_take]
    nth_rewrite 1 [hdata]
    rw [ih _ (by rw [List.length_drop]; omega), List.length_append]

theorem seeRecords_append : seeRecords lineStart (before ++ after) found =
    seeRecords (lineStart + before.flatten.length) after (seeRecords lineStart before found) := by
  induction before generalizing lineStart found with
  | nil => rfl
  | cons record before ih =>
    rw [List.cons_append, seeRecords, ih, seeRecords, List.flatten_cons, List.length_append,
      Nat.add_assoc]

theorem seeRecords_of_not (h : ∀ record ∈ all, ¬IsTracerPid record) :
    seeRecords lineStart all found = found := by
  induction all generalizing lineStart with
  | nil => rfl
  | cons record all ih =>
    rw [List.forall_mem_cons] at h
    rw [seeRecords, TracerPidMatch.see_eq, if_neg h.1, ih h.2]

theorem seeRecords_count (h : found.count < 2 ^ 32) : (seeRecords lineStart all found).count =
    (found.count + all.countP (IsTracerPid ·)) % 2 ^ 32 := by
  induction all generalizing lineStart found with
  | nil => exact (Nat.mod_eq_of_lt h).symm
  | cons record all ih =>
    rw [seeRecords, TracerPidMatch.see_eq]
    split_ifs with hrecord
    · rw [ih (Nat.mod_lt _ (by decide)), List.countP_cons_of_pos (by simpa using hrecord),
        Nat.mod_add_mod, Nat.add_right_comm, Nat.add_assoc]
    · rw [ih h, List.countP_cons_of_neg (by simpa using hrecord)]

/-- One line of the text gives the tracer, and it is long enough for the replacement. -/
structure OnlyTracerPid (data : List UInt8) (before : List (List UInt8)) (record : List UInt8)
    (after : List (List UInt8)) : Prop where
  records_eq : records newline data = before ++ record :: after
  isTracerPid : IsTracerPid record
  others : ∀ other ∈ before ++ after, ¬IsTracerPid other
  fits : tracerPidReplacement.length ≤ (line newline record).length

theorem scanTracerPid_all : scanTracerPid data data.length 0 found =
    seeRecords 0 (records newline data) found := by
  have hscan := @scanTracerPid_eq found [] data data.length le_rfl
  simpa using hscan

theorem scanTracerPid_only (hrecords : records newline data = before ++ record :: after)
    (hrecord : IsTracerPid record) (hothers : ∀ other ∈ before ++ after, ¬IsTracerPid other) :
    scanTracerPid data data.length 0 ⟨0, 0, 0⟩ = ⟨before.flatten.length,
      before.flatten.length + (line newline record).length, 1⟩ := by
  rw [List.forall_mem_append] at hothers
  rw [scanTracerPid_all, hrecords, seeRecords_append, seeRecords_of_not hothers.1, seeRecords,
    seeRecords_of_not hothers.2, TracerPidMatch.see_eq, if_pos hrecord, Nat.zero_add]
  rfl

theorem exists_only (h : (records newline data).countP (IsTracerPid ·) = 1) :
    ∃ before record after, records newline data = before ++ record :: after ∧
      IsTracerPid record ∧ ∀ other ∈ before ++ after, ¬IsTracerPid other := by
  obtain ⟨record, hmem, hrecord⟩ := List.countP_pos_iff.mp (by rw [h]; exact Nat.one_pos)
  obtain ⟨before, after, hsplit⟩ := List.append_of_mem hmem
  rw [hsplit, List.countP_append, List.countP_cons, if_pos hrecord] at h
  have hzero : (before ++ after).countP (IsTracerPid ·) = 0 := by
    rw [List.countP_append]
    omega
  refine ⟨before, record, after, hsplit, by simpa using hrecord, fun other hother => ?_⟩
  simpa using List.countP_eq_zero.mp hzero other hother

/-- A text that fits the buffer of a provider. -/
abbrev ProviderText : Type := { data : List UInt8 // data.length ≤ maxVirtualFileSize }

theorem rewriteTracerPid_only (h : OnlyTracerPid data before record after) :
    ∃ buffer size, rewriteTracerPid data = (buffer, size, .ok ()) ∧
      buffer.take size = before.flatten ++ tracerPidReplacement ++
        (record.drop (line newline record).length ++ after.flatten) := by
  have hdata : data = before.flatten ++ line newline record ++
      (record.drop (line newline record).length ++ after.flatten) := by
    have hrecord := List.prefix_iff_eq_append.mp
      (List.takeWhile_prefix (l := record) (· ≠ newline))
    have hflatten : (records newline data).flatten = data := flatten_records data
    rw [← hflatten, h.records_eq, List.flatten_append, List.flatten_cons, List.append_assoc,
      ← List.append_assoc (line newline record), line, hrecord]
  have hfits := h.fits
  rw [rewriteTracerPid, scanTracerPid_only h.records_eq h.isTracerPid h.others]
  generalize record.drop (line newline record).length ++ after.flatten = tail at *
  generalize line newline record = text at *
  generalize before.flatten = first at *
  generalize tracerPidReplacement = replacement at *
  subst hdata
  dsimp only
  rw [if_neg Nat.one_ne_zero, if_neg (by simp), Nat.add_sub_cancel_left, if_neg (by omega)]
  split_ifs with hlength
  · refine ⟨_, _, rfl, ?_⟩
    have hbuffer := @take_move_write _ replacement first text tail hfits
    simp only [List.length_append] at hbuffer ⊢
    rw [← hbuffer]
    congr 2
    · omega
    · omega
  · refine ⟨_, _, rfl, ?_⟩
    rw [write_append first (not_not.mp hlength)]
    simp [not_not.mp hlength]

theorem rewriteTracerPid_not_only (hsize : data.length ≤ maxVirtualFileSize)
    (h : ¬∃ before record after, OnlyTracerPid data before record after) :
    rewriteTracerPid data = (data, data.length, .error
      (if ∃ record ∈ records newline data, IsTracerPid record then .eproto else .enodata)) := by
  have hcount : (scanTracerPid data data.length 0 ⟨0, 0, 0⟩).count =
      (records newline data).countP (IsTracerPid ·) := by
    have hrecords : (records newline data).length ≤ data.length := length_records_le data
    have hle : (records newline data).countP (IsTracerPid ·) ≤ (records newline data).length :=
      List.countP_le_length
    rw [scanTracerPid_all, seeRecords_count (by decide), Nat.zero_add]
    refine Nat.mod_eq_of_lt ?_
    unfold maxVirtualFileSize at hsize
    omega
  by_cases hzero : (records newline data).countP (IsTracerPid ·) = 0
  · have hnone : ¬∃ record ∈ records newline data, IsTracerPid record := by
      rintro ⟨record, hmem, hrecord⟩
      exact List.countP_eq_zero.mp hzero record hmem (by simpa using hrecord)
    rw [rewriteTracerPid]
    dsimp only
    rw [if_pos (hcount.trans hzero), if_neg hnone]
  have hsome : ∃ record ∈ records newline data, IsTracerPid record := by
    simpa using List.countP_pos_iff.mp (Nat.pos_of_ne_zero hzero)
  rw [if_pos hsome, rewriteTracerPid]
  dsimp only
  rw [if_neg (hcount ▸ hzero)]
  by_cases hone : (records newline data).countP (IsTracerPid ·) = 1
  · obtain ⟨before, record, after, hrecords, hrecord, hothers⟩ := exists_only hone
    have hshort : (line newline record).length < tracerPidReplacement.length := by
      by_contra hfits
      exact h ⟨before, record, after, hrecords, hrecord, hothers, Nat.not_lt.mp hfits⟩
    rw [if_neg (by simpa [hcount] using hone), scanTracerPid_only hrecords hrecord hothers]
    dsimp only
    rw [Nat.add_sub_cancel_left, if_pos hshort]
  · rw [if_pos (hcount ▸ hone)]

end StatusLaws

section SnapshotLaws

/-- What is left of the buffer, or the one byte behind a full one. -/
def asked (capacity done : ℕ) : ℕ := if done < capacity then capacity - done else 1

/-- The answers of a file to the reads of a snapshot that has `done` bytes: what is left of it comes
in pieces of any size up to what was asked for, and then an empty read. -/
inductive Serves (capacity : ℕ) : ℕ → List UInt8 → List ReadAnswer → Prop
  | interrupted {done : ℕ} {rest : List UInt8} {answers : List ReadAnswer}
      (h : Serves capacity done rest answers) : Serves capacity done rest (.interrupted :: answers)
  | ended {done : ℕ} {answers : List ReadAnswer} : Serves capacity done [] (.bytes [] :: answers)
  | bytes {done : ℕ} {data rest : List UInt8} {answers : List ReadAnswer} (hne : data ≠ [])
      (hasked : data.length ≤ asked capacity done)
      (h : done < capacity → Serves capacity (done + data.length) rest answers) :
      Serves capacity done (data ++ rest) (.bytes data :: answers)

variable {answers : List ReadAnswer} {capacity : ℕ} {content rest output : List UInt8}

theorem Serves.readFrom_eq (h : Serves capacity output.length rest answers)
    (hfits : output.length ≤ capacity) : readFrom capacity answers output =
      some (if (output ++ rest).length ≤ capacity then .ok (output ++ rest)
        else .error .efbig) := by
  induction answers generalizing output rest with
  | nil => exact nomatch h
  | cons answer answers ih =>
    cases h with
    | interrupted h => exact ih h hfits
    | ended => rw [readFrom, if_pos rfl, List.append_nil, if_pos hfits]
    | @bytes _ _ data rest hne hasked h =>
      rw [readFrom, if_neg hne]
      split_ifs with hroom hall hall
      · rw [asked, if_pos hroom] at hasked
        rw [← List.length_append] at h
        rw [ih (h hroom) (by rw [List.length_append]; omega), List.append_assoc, if_pos hall]
      · rw [asked, if_pos hroom] at hasked
        rw [← List.length_append] at h
        rw [ih (h hroom) (by rw [List.length_append]; omega), List.append_assoc, if_neg hall]
      · have hpos := List.length_pos_iff.mpr hne
        rw [List.length_append, List.length_append] at hall
        omega
      · rfl

/-- A snapshot is made of the whole source, however its reads are cut, and only if the source fits
the buffer. -/
theorem generateVirtualFileProviderSnapshot_whole (flags : BitVec 32)
    (ranges : List VirtualFileHiddenRange) {sourceFd : ℤ}
    (hserves : Serves capacity 0 content answers) (hfd : 0 ≤ sourceFd) (hcapacity : 0 < capacity) :
    let snapshot (provider : ℤ) := generateVirtualFileProviderSnapshot provider flags sourceFd
      (.ok ()) answers [] ranges capacity
    (capacity < content.length → ∀ provider, snapshot provider = some (.error .efbig)) ∧
    (content.length ≤ capacity →
      snapshot vfileSelinuxContext = some (.ok content) ∧
      snapshot vfileProcMaps = some (.ok
        (if flags &&& vfileHideInternalMappings ≠ 0 then
          ((records newline content).filter fun record =>
            ¬Hidden (fitting ranges) (line newline record)).flatten
        else content)) ∧
      ∀ before record after, OnlyTracerPid content before record after →
        snapshot vfileProcStatus = some (.ok (before.flatten ++ tracerPidReplacement ++
          (record.drop (line newline record).length ++ after.flatten)))) := by
  intro snapshot
  have hsnapshot (provider : ℤ) : snapshot provider =
      some (if content.length ≤ capacity then provide provider flags ranges content
        else .error .efbig) := by
    have hread := @Serves.readFrom_eq _ _ _ [] hserves (Nat.zero_le _)
    have hvalid : ¬(capacity = 0 ∨ ([] : List UInt8).length > capacity) := by
      rw [List.length_nil]
      omega
    simp only [snapshot, generateVirtualFileProviderSnapshot, if_neg hvalid, readSnapshot,
      if_neg (show ¬(sourceFd < 0 ∨ capacity = 0) by omega), hread, List.nil_append,
      Option.map_some]
    split_ifs <;> simp_all
  refine ⟨fun hlong provider => ?_, fun hfits => ⟨?_, ?_, fun before record after honly => ?_⟩⟩
  · rw [hsnapshot, if_neg (Nat.not_le.mpr hlong)]
  · rw [hsnapshot, if_pos hfits]
    rfl
  · rw [hsnapshot, if_pos hfits, provide, if_neg (by decide), if_pos rfl]
    split_ifs
    · rw [← filtered_eq_hidden]
      rfl
    · rfl
  · obtain ⟨buffer, size, hrun, htext⟩ := rewriteTracerPid_only honly
    rw [hsnapshot, if_pos hfits, provide, if_pos rfl, hrun, ← htext]

def mapsHead : List UInt8 := "10-20 ".toUTF8.data.toList

def mapsTail : List UInt8 := "a\n30-40 b\n".toUTF8.data.toList

theorem maps_serves : Serves 20 0 (mapsHead ++ (mapsTail ++ []))
    [.bytes mapsHead, .interrupted, .bytes mapsTail, .bytes []] :=
  .bytes (by decide +kernel) (by decide +kernel) fun _ =>
    .interrupted (.bytes (by decide +kernel) (by decide +kernel) fun _ => .ended)

/-- A file read in two pieces with an interruption between them; one of two mappings is hidden. -/
theorem generateVirtualFileProviderSnapshot_whole_maps :
    generateVirtualFileProviderSnapshot vfileProcMaps vfileHideInternalMappings 3 (.ok ())
      [.bytes mapsHead, .interrupted, .bytes mapsTail, .bytes []] [] [⟨0x38, 0x10⟩] 20 =
        some (.ok ("10-20 a\n".toUTF8.data.toList)) := by
  refine ((generateVirtualFileProviderSnapshot_whole vfileHideInternalMappings [⟨0x38, 0x10⟩]
    maps_serves (show (0 : ℤ) ≤ 3 by decide) (by decide)).2 (by decide +kernel)).2.1.trans ?_
  decide +kernel

end SnapshotLaws

section Exact

/-- The providers transform a text exactly. A hidden range whose end is not an address hides
nothing. -/
theorem providers_exact (maps : List UInt8) (ranges : List VirtualFileHiddenRange)
    (status : ProviderText) :
    filtered maps ranges = ((records newline maps).filter fun record =>
      ¬Hidden (fitting ranges) (line newline record)).flatten ∧
    filtered (filtered maps ranges) ranges = filtered maps ranges ∧
    ((rewriteTracerPid status).2.2 = .ok () ↔
      ∃ before record after, OnlyTracerPid status before record after) ∧
    (∀ before record after, OnlyTracerPid status before record after →
      (rewriteTracerPid status).1.take (rewriteTracerPid status).2.1 =
        before.flatten ++ tracerPidReplacement ++
          (record.drop (line newline record).length ++ after.flatten)) ∧
    ((rewriteTracerPid status).2.2 ≠ .ok () →
      (rewriteTracerPid status).1 = status ∧ (rewriteTracerPid status).2.1 = status.1.length) := by
  refine ⟨filtered_eq_hidden maps ranges, ?_, ?_, ?_, ?_⟩
  · rw [filtered_eq (filtered maps ranges), filtered_eq maps, records_filter, List.filter_filter]
    simp
  · constructor
    · intro hok
      by_contra hnone
      rw [rewriteTracerPid_not_only status.2 hnone] at hok
      exact nomatch hok
    · rintro ⟨before, record, after, honly⟩
      obtain ⟨buffer, size, hrun, -⟩ := rewriteTracerPid_only honly
      rw [hrun]
  · intro before record after honly
    obtain ⟨buffer, size, hrun, htext⟩ := rewriteTracerPid_only honly
    rw [hrun]
    exact htext
  · intro hfailed
    have hnone : ¬∃ before record after, OnlyTracerPid status before record after := by
      rintro ⟨before, record, after, honly⟩
      obtain ⟨buffer, size, hrun, -⟩ := rewriteTracerPid_only honly
      exact hfailed (by rw [hrun])
    rw [rewriteTracerPid_not_only status.2 hnone]
    exact ⟨rfl, rfl⟩

def statusText : List UInt8 := "TracerPid:\t42\n".toUTF8.data.toList

theorem statusText_only : OnlyTracerPid statusText [] statusText [] where
  records_eq := by decide +kernel
  isTracerPid := by decide +kernel
  others := nofun
  fits := by decide +kernel

theorem providers_exact_statusText :
    (OnlyTracerPid statusText [] statusText [] ∧
      (rewriteTracerPid statusText).1.take (rewriteTracerPid statusText).2.1 =
        tracerPidReplacement ++ [newline]) ∧
    (rewriteTracerPid []).2.2 ≠ .ok () ∧ (rewriteTracerPid []).1 = [] := by
  have honly := (providers_exact [] [] ⟨statusText, by decide +kernel⟩).2.2.2.1 _ _ _ statusText_only
  have hempty : (rewriteTracerPid []).2.2 ≠ .ok () := by decide
  exact ⟨⟨statusText_only, honly⟩, hempty,
    ((providers_exact [] [] ⟨[], by decide⟩).2.2.2.2 hempty).1⟩

def topText : List UInt8 := "fffffffffffffff0-ffffffffffffffff\n".toUTF8.data.toList

def topRange : VirtualFileHiddenRange := ⟨0xfffffffffffffff0, 16⟩

theorem topText_isMapping :
    IsMapping (line newline topText) 0xfffffffffffffff0 0xffffffffffffffff :=
  mappingRange_eq_some.mp (by decide +kernel)

/-- A hidden range that ends with the address space hides nothing. -/
theorem hidden_mapping_kept : records newline topText = [topText] ∧
    Hidden [topRange] (line newline topText) ∧ filtered topText [topRange] = topText := by
  refine ⟨by decide +kernel, Or.inl ⟨_, _, topText_isMapping, topRange, List.mem_singleton_self _,
    ?_⟩, by decide +kernel⟩
  exact (AddressRange.meets_iff (by decide)).mpr (by decide)

end Exact

end HookSelf.VirtualFiles
