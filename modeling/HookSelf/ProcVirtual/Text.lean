import HookSelf.Collections.Buffer
import HookSelf.Errno
import HookSelf.ProcText.Fields

/-! The rewritten view of `/proc/<pid>/maps` and `smaps` (`proc_virtual_view.cpp`). -/

namespace HookSelf.ProcVirtual

open Buffer Lines ProcText

abbrev slash : UInt8 := 47

abbrev ProcVirtualAddressRange : Type := AddressRange

structure ProcReversePathRule where
  hostPrefix : List UInt8
  guestPrefix : List UInt8
  priority : ℤ
  flags : BitVec 32
  deriving DecidableEq, Repr

abbrev reversePathRuleVisible : BitVec 32 := 1

structure ProcTextRewriteOptions where
  hiddenRanges : List ProcVirtualAddressRange
  reverseRules : List ProcReversePathRule
  deriving DecidableEq, Repr

structure ProcTextRewriteResult where
  outputSize : ℕ
  mappingsSeen : ℕ
  mappingsHidden : ℕ
  pathsRewritten : ℕ
  deriving DecidableEq, Repr

inductive ProcTextKind
  | maps
  | smaps
  deriving DecidableEq, Repr

def addSize (left right : ℕ) : Option ℕ :=
  if left + right > uintptrMax then none else some (left + right)

section Options

def segmentAllowed (segment : List UInt8) : Bool :=
  segment ≠ [] ∧ segment ≠ [46] ∧ segment ≠ [46, 46]

def segmentsAllowed (segment : List UInt8) : List UInt8 → Bool
  | [] => segmentAllowed segment
  | c :: rest =>
    if c ≠ slash then c ≠ 0 && segmentsAllowed (segment ++ [c]) rest
    else segmentAllowed segment && segmentsAllowed [] rest

def isCanonicalAbsolutePrefix (path : List UInt8) : Bool :=
  if path.head? ≠ some slash ∨ (path.length > 1 ∧ path.getLast? = some slash) then false
  else if path.length = 1 then true
  else segmentsAllowed [] path.tail

def validateRanges (ranges : List ProcVirtualAddressRange) : Except Errno Unit :=
  if ∃ range ∈ ranges, range.size ≠ 0 ∧ range.start.toNat > uintptrMax - range.size.toNat then
    .error .eoverflow
  else .ok ()

def validateRewriteOptions (options : ProcTextRewriteOptions) : Except Errno Unit :=
  match validateRanges options.hiddenRanges with
  | .error error => .error error
  | .ok () =>
    if ∃ rule ∈ options.reverseRules, rule.flags &&& ~~~reversePathRuleVisible ≠ 0 ∨
        ¬isCanonicalAbsolutePrefix rule.hostPrefix ∨ ¬isCanonicalAbsolutePrefix rule.guestPrefix then
      .error .einval
    else .ok ()

end Options

section Header

structure ParsedMapHeader where
  start : ℕ
  stop : ℕ
  pathOffset : ℕ
  deriving DecidableEq, Repr

def parseMapHeader (text : List UInt8) : Option ParsedMapHeader :=
  let rangeText := text.takeWhile (!isSpace ·)
  let startText := rangeText.takeWhile (· ≠ dash)
  if startText = [] ∨ startText.length + 1 ≥ rangeText.length then none
  else
    (parseHex startText).bind fun start =>
      (parseHex (rangeText.drop (startText.length + 1))).bind fun stop =>
        if start ≥ stop then none
        else (afterFields 4 (text.drop rangeText.length)).map fun rest =>
          ⟨start, stop, text.length - (rest.dropWhile isSpace).length⟩

def overlapsHiddenRange (start stop : ℕ) (ranges : List ProcVirtualAddressRange) : Bool :=
  ranges.any fun range =>
    if range.size = 0 then false
    else
      let hiddenEnd := (range.start + range.size).toNat
      start < hiddenEnd && range.start.toNat < stop

end Header

section Translation

abbrev deletedSuffix : List UInt8 := " (deleted)".toUTF8.data.toList

def visiblePathLength (path : List UInt8) : ℕ :=
  if path.length ≥ deletedSuffix.length ∧
      path.drop (path.length - deletedSuffix.length) = deletedSuffix then
    path.length - deletedSuffix.length
  else path.length

def prefixMatches (path start : List UInt8) : Bool :=
  if start.length > path.length ∨ path.take start.length ≠ start then false
  else start = [slash] ∨ start.length = path.length ∨ path[start.length]? = some slash

/-- One rule of the search: a later rule wins with a longer prefix, or with a higher priority. -/
def keepReverseRule (path : List UInt8) (selected : Option ProcReversePathRule)
    (rule : ProcReversePathRule) : Option ProcReversePathRule :=
  if rule.flags &&& reversePathRuleVisible = 0 ∨
      ¬prefixMatches (path.take (visiblePathLength path)) rule.hostPrefix then selected
  else
    match selected with
    | none => some rule
    | some other =>
      if rule.hostPrefix.length > other.hostPrefix.length ∨
          rule.hostPrefix.length = other.hostPrefix.length ∧ rule.priority > other.priority then
        some rule
      else selected

def selectReverseRule (path : List UInt8) (rules : List ProcReversePathRule) :
    Option ProcReversePathRule :=
  if path.head? ≠ some slash then none else rules.foldl (keepReverseRule path) none

def translationSuffixOffset (path : List UInt8) (rule : ProcReversePathRule) : ℕ :=
  if rule.hostPrefix.length = 1 ∧ visiblePathLength path > 1 then 0 else rule.hostPrefix.length

def joinedSuffixOffset (path : List UInt8) (rule : ProcReversePathRule) : ℕ :=
  let suffixOffset := translationSuffixOffset path rule
  if rule.guestPrefix.getLast? = some slash ∧ path[suffixOffset]? = some slash then suffixOffset + 1
  else suffixOffset

def translatedPathSize (path : List UInt8) (rule : ProcReversePathRule) : Option ℕ :=
  if translationSuffixOffset path rule > path.length then none
  else addSize rule.guestPrefix.length (path.length - joinedSuffixOffset path rule)

def writeTranslatedPath (path : List UInt8) (rule : ProcReversePathRule) (output : List UInt8)
    (offset : ℕ) : List UInt8 :=
  write (write output offset rule.guestPrefix) (offset + rule.guestPrefix.length)
    (path.drop (joinedSuffixOffset path rule))

end Translation

section Process

/-- What the loop over the lines carries; there is no output while it only measures. -/
structure TextState where
  current : ProcTextRewriteResult
  writeOffset : ℕ
  haveSmapsMapping : Bool
  currentSmapsHidden : Bool
  output : Option (List UInt8)
  deriving DecidableEq, Repr

def TextState.copyRecord (state : TextState) (record : List UInt8) : Except Errno TextState :=
  match addSize state.writeOffset record.length with
  | none => .error .eoverflow
  | some nextWrite =>
    .ok { state with
      writeOffset := nextWrite
      output := state.output.map fun output => write output state.writeOffset record }

def TextState.translateRecord (state : TextState) (record : List UInt8) (pathOffset : ℕ)
    (rule : ProcReversePathRule) : Except Errno TextState :=
  let text := line newline record
  let path := text.drop pathOffset
  let newlineSize := record.length - text.length
  match translatedPathSize path rule with
  | none => .error .eoverflow
  | some translatedSize =>
    match ((addSize pathOffset translatedSize).bind (addSize · newlineSize)).bind
      (addSize state.writeOffset ·) with
    | none => .error .eoverflow
    | some nextWrite =>
      .ok { state with
        current := { state.current with pathsRewritten := state.current.pathsRewritten + 1 }
        writeOffset := nextWrite
        output := state.output.map fun output =>
          let output := write output state.writeOffset (record.take pathOffset)
          let output := writeTranslatedPath path rule output (state.writeOffset + pathOffset)
          if newlineSize ≠ 0 then write output (nextWrite - 1) [newline] else output }

/-- A mapping is seen, hidden or not; the details that follow it in `smaps` go with it. -/
def TextState.seeMapping (state : TextState) (kind : ProcTextKind) (hidden : Bool) : TextState :=
  { state with
    current :=
      { state.current with
        mappingsSeen := state.current.mappingsSeen + 1
        mappingsHidden := state.current.mappingsHidden + hidden.toNat }
    haveSmapsMapping := state.haveSmapsMapping || kind = .smaps
    currentSmapsHidden := if kind = .smaps then hidden else state.currentSmapsHidden }

def processRecord (options : ProcTextRewriteOptions) (kind : ProcTextKind) (record : List UInt8)
    (state : TextState) : Except Errno TextState :=
  let text := line newline record
  match parseMapHeader text with
  | none =>
    if kind = .maps ∨ ¬state.haveSmapsMapping then .error .eproto
    else if state.currentSmapsHidden then .ok state
    else state.copyRecord record
  | some header =>
    if overlapsHiddenRange header.start header.stop options.hiddenRanges then
      .ok (state.seeMapping kind true)
    else
      match selectReverseRule (text.drop header.pathOffset) options.reverseRules with
      | none => (state.seeMapping kind false).copyRecord record
      | some rule => (state.seeMapping kind false).translateRecord record header.pathOffset rule

def processFrom (options : ProcTextRewriteOptions) (kind : ProcTextKind) :
    ℕ → List UInt8 → TextState → Except Errno TextState
  | 0, _, state => .ok state
  | rounds + 1, rest, state =>
    if rest = [] then .ok state
    else
      let recordEnd := recordLength newline rest
      match processRecord options kind (rest.take recordEnd) state with
      | .error error => .error error
      | .ok state => processFrom options kind rounds (rest.drop recordEnd) state

def processProcText (options : ProcTextRewriteOptions) (kind : ProcTextKind) (input : List UInt8)
    (output : Option (List UInt8)) : Except Errno (ProcTextRewriteResult × Option (List UInt8)) :=
  match processFrom options kind input.length input ⟨⟨0, 0, 0, 0⟩, 0, false, false, output⟩ with
  | .error error => .error error
  | .ok state => .ok ({ state.current with outputSize := state.writeOffset }, state.output)

def rewriteProcText (options : ProcTextRewriteOptions) (kind : ProcTextKind)
    (input output : List UInt8) : List UInt8 × ProcTextRewriteResult × Except Errno Unit :=
  match validateRewriteOptions options with
  | .error error => (output, ⟨0, 0, 0, 0⟩, .error error)
  | .ok () =>
    match processProcText options kind input none with
    | .error error => (output, ⟨0, 0, 0, 0⟩, .error error)
    | .ok (measured, _) =>
      if measured.outputSize > output.length then (output, measured, .error .enospc)
      else if measured.outputSize = 0 then (output, measured, .ok ())
      else
        match processProcText options kind input (some output) with
        | .error error => (output, measured, .error error)
        | .ok (written, buffer) =>
          if written ≠ measured then (buffer.getD output, measured, .error .eio)
          else (buffer.getD output, measured, .ok ())

def rewriteProcMaps (options : ProcTextRewriteOptions) (input output : List UInt8) :
    List UInt8 × ProcTextRewriteResult × Except Errno Unit :=
  rewriteProcText options .maps input output

def rewriteProcSmaps (options : ProcTextRewriteOptions) (input output : List UInt8) :
    List UInt8 × ProcTextRewriteResult × Except Errno Unit :=
  rewriteProcText options .smaps input output

end Process

end HookSelf.ProcVirtual
