import HookSelf.Collections.Compaction
import HookSelf.Collections.LittleEndian
import HookSelf.ProcVirtual.Path

/-! Hiding entries of the proc directories from `getdents64` (`CompactProcDirents64`). -/

namespace HookSelf.ProcVirtual

open Buffer Compaction LittleEndian ProcText

section Model

abbrev dirent64RecordLengthOffset : ℕ := 16
abbrev dirent64OffsetOffset : ℕ := 8
abbrev dirent64NameOffset : ℕ := 19
abbrev dirent64MinimumLength : ℕ := dirent64NameOffset + 1
abbrev dirent64Alignment : ℕ := 8
abbrev dirent64NameMax : ℕ := 255

/-- The length of a record with the longest name, rounded up to the alignment. -/
abbrev dirent64MaximumLength : ℕ :=
  (dirent64NameOffset + dirent64NameMax + 1 + dirent64Alignment - 1) / dirent64Alignment *
    dirent64Alignment

structure ProcDirentFilterOptions where
  directoryKind : ProcVirtualNodeKind
  tracerPid : ℤ
  protectedFds : List ℤ
  hiddenMapRanges : List ProcVirtualAddressRange
  deriving DecidableEq, Repr

structure ProcDirentCompactResult where
  visibleSize : ℕ
  recordsSeen : ℕ
  recordsHidden : ℕ
  lastDOff : BitVec 64
  lastVisibleDOff : BitVec 64
  allHidden : Bool
  deriving DecidableEq, Repr

def readUint16 (data : List UInt8) : ℕ := number (data.take 2)

def readInt64 (data : List UInt8) : BitVec 64 := .ofNat 64 (number (data.take 8))

def parseMapFileName (name : List UInt8) : Option (ℕ × ℕ) :=
  let startText := name.takeWhile (· ≠ dash)
  if name.length < 3 ∨ startText = [] ∨ startText.length + 1 ≥ name.length then none
  else
    (parseHex startText).bind fun start =>
      (parseHex (name.drop (startText.length + 1))).bind fun stop =>
        if start < stop then some (start, stop) else none

def hideDirent (name : List UInt8) (options : ProcDirentFilterOptions) : Bool :=
  match options.directoryKind with
  | .rootDirectory =>
    options.tracerPid > 0 && (isPositiveDecimal name).any fun pid => (pid : ℤ) = options.tracerPid
  | .fdDirectory | .fdInfoDirectory =>
    (isNonnegativeDecimal name).any fun fd => (fd : ℤ) ∈ options.protectedFds
  | .mapFilesDirectory =>
    (parseMapFileName name).any fun (start, stop) =>
      overlapsHiddenRange start stop options.hiddenMapRanges
  | _ => false

def validateDirentOptions (options : ProcDirentFilterOptions) : Except Errno Unit :=
  if options.directoryKind ≠ .rootDirectory ∧ options.directoryKind ≠ .fdDirectory ∧
      options.directoryKind ≠ .fdInfoDirectory ∧ options.directoryKind ≠ .mapFilesDirectory then
    .error .einval
  else validateRanges options.hiddenMapRanges

def direntName (recordLength : ℕ) (rest : List UInt8) : Option (List UInt8) :=
  let nameCapacity := recordLength - dirent64NameOffset
  let name := ((rest.drop dirent64NameOffset).take nameCapacity).takeWhile (· ≠ 0)
  if name = [] ∨ name.length = nameCapacity ∨ name.length > dirent64NameMax then none else some name

def nextDirent (options : ProcDirentFilterOptions) (result : ProcDirentCompactResult)
    (rest : List UInt8) : Except Errno (ℕ × Bool × ProcDirentCompactResult) :=
  if rest.length < dirent64MinimumLength then .error .eproto
  else
    let recordLength := readUint16 (rest.drop dirent64RecordLengthOffset)
    if recordLength < dirent64MinimumLength ∨ recordLength > dirent64MaximumLength ∨
        recordLength > rest.length ∨ recordLength % dirent64Alignment ≠ 0 then .error .eproto
    else
      match direntName recordLength rest with
      | none => .error .eproto
      | some name =>
        let dOff := readInt64 (rest.drop dirent64OffsetOffset)
        let hidden := hideDirent name options
        .ok (recordLength, hidden,
          { result with
            recordsSeen := result.recordsSeen + 1
            recordsHidden := result.recordsHidden + hidden.toNat
            lastDOff := dOff
            lastVisibleDOff := if hidden then result.lastVisibleDOff else dOff })

def compactProcDirents64 (buffer : List UInt8) (options : ProcDirentFilterOptions) :
    List UInt8 × Except Errno ProcDirentCompactResult :=
  match validateDirentOptions options with
  | .error error => (buffer, .error error)
  | .ok () =>
    match compact (nextDirent options) buffer.length ⟨0, 0, 0, 0, 0, false⟩ buffer 0 0 with
    | (compacted, .error error) => (compacted, .error error)
    | (compacted, .ok (visibleSize, result)) =>
      (compacted, .ok { result with
        visibleSize
        allHidden := buffer.length ≠ 0 && visibleSize = 0 })

end Model

end HookSelf.ProcVirtual
