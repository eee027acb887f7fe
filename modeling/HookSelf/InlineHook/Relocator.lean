import HookSelf.Collections.LittleEndian
import HookSelf.InlineHook.Arm64Encoding

/-! The relocation of one instruction (`arm64_relocator.cpp`) and the bridge and trampoline built
from it (`inline_hook.cpp`). A buffer is the memory from its first byte on. -/

namespace HookSelf.InlineHook

inductive InlineResult
  | ok
  | invalidArgument
  | abiMismatch
  | unsupportedArch
  | alreadyInstalled
  | notFound
  | noMemory
  | range
  | relocation
  | protection
  | conflict
  | busy
  | internal
  deriving DecidableEq, Repr

structure InfoFlags where
  patchAfterBti : Bool
  patchAfterPac : Bool
  nearBridge : Bool
  usesX17 : Bool
  relocationExpanded : Bool
  trampolineRetained : Bool
  deriving DecidableEq, Repr

def InfoFlags.none : InfoFlags := ⟨false, false, false, false, false, false⟩

end HookSelf.InlineHook

namespace HookSelf.InlineHook.Arm64

abbrev Buffer := Nat → UInt8

def store (buffer : Buffer) (offset : Nat) (bytes : List UInt8) : Buffer := fun index =>
  if offset ≤ index ∧ index < offset + bytes.length then bytes.getD (index - offset) 0
  else buffer index

structure CodeWriter where
  buffer : Buffer
  capacity : Nat
  size : Nat
  base : Address

namespace CodeWriter

def init (buffer : Buffer) (capacity : Nat) (base : Address) : CodeWriter :=
  ⟨buffer, capacity, 0, base⟩

def addressAt (writer : CodeWriter) (offset : Nat) : Address :=
  writer.base + BitVec.ofNat 64 offset

def address (writer : CodeWriter) : Address := writer.addressAt writer.size

/-- `Emit32` and `Emit64`; `none` is the result `false`. -/
def emit (writer : CodeWriter) (bytes : List UInt8) : Option CodeWriter :=
  if writer.size > writer.capacity ∨ writer.capacity - writer.size < bytes.length then none
  else some { writer with
    buffer := store writer.buffer writer.size bytes
    size := writer.size + bytes.length }

def emit32 (writer : CodeWriter) (value : Word) : Option CodeWriter :=
  writer.emit (LittleEndian.unsigned 4 value.toNat)

def emit64 (writer : CodeWriter) (value : BitVec 64) : Option CodeWriter :=
  writer.emit (LittleEndian.unsigned 8 value.toNat)

def align8 (writer : CodeWriter) : Option CodeWriter :=
  if writer.address &&& 7 = 0 then some writer else writer.emit32 kNop

def patch32 (writer : CodeWriter) (offset : Nat) (value : Word) : Option CodeWriter :=
  if offset > writer.size ∨ writer.size - offset < 4 then none
  else some { writer with
    buffer := store writer.buffer offset (LittleEndian.unsigned 4 value.toNat) }

end CodeWriter

inductive RelocationStatus
  | ok
  | invalidArgument
  | noSpace
  | range
  | unsupported
  deriving DecidableEq, Repr

structure AddressMap where
  source : Address
  destination : Address
  deriving DecidableEq, Repr

structure RelocationRequest where
  instruction : Word
  sourcePc : Address
  continuation : Address
  overwrittenStart : Address
  overwrittenSize : BitVec 64
  internalMaps : List AddressMap
  output : Buffer
  outputCapacity : Nat
  outputAddress : Address

structure RelocationResult where
  codeSize : Nat
  totalSize : Nat
  expanded : Bool
  usesX17 : Bool
  deriving DecidableEq, Repr

structure LiteralFixup where
  instructionOffset : Nat
  reg : Word
  value : BitVec 64
  deriving DecidableEq, Repr

structure Relocation where
  writer : CodeWriter
  fixups : List LiteralFixup
  result : RelocationResult

def Relocation.init (request : RelocationRequest) : Relocation :=
  ⟨.init request.output request.outputCapacity request.outputAddress, [], ⟨0, 0, false, false⟩⟩

/-- A relocation that may return a status other than `kOk`. -/
abbrev Relocate := ExceptT RelocationStatus (StateM Relocation)

def mapInternalTarget (request : RelocationRequest) (target : Address) : Address :=
  match request.internalMaps.find? fun entry => entry.source = target with
  | some entry => entry.destination
  | none => target

namespace Relocate

def here : Relocate Address := fun relocation => (.ok relocation.writer.address, relocation)

def size : Relocate Nat := fun relocation => (.ok relocation.writer.size, relocation)

def write (operation : CodeWriter → Option CodeWriter) (status : RelocationStatus) :
    Relocate Unit := fun relocation =>
  match operation relocation.writer with
  | some writer => (.ok (), { relocation with writer })
  | none => (.error status, relocation)

def encoded (outcome : Bool × Option Word) (status : RelocationStatus) : Relocate Word :=
  match outcome with
  | (true, some word) => pure word
  | _ => throw status

def setResult (change : RelocationResult → RelocationResult) : Relocate Unit := fun relocation =>
  (.ok (), { relocation with result := change relocation.result })

def addFixup (reg : Word) (value : BitVec 64) (status : RelocationStatus) : Relocate Unit :=
  fun relocation =>
    if relocation.fixups.length ≥ 2 then (.error status, relocation)
    else (.ok (), { relocation with
      fixups := relocation.fixups ++ [⟨relocation.writer.size, reg, value⟩] })

def emitLoadAddress (reg : Word) (value : BitVec 64) (status : RelocationStatus) :
    Relocate Unit := do
  addFixup reg value status
  write (·.emit32 0) status

def finalizeLiteral (fixup : LiteralFixup) : Relocate Unit := do
  write CodeWriter.align8 .noSpace
  let literalAddress ← here
  write (·.emit64 fixup.value) .noSpace
  let relocation ← get
  let load ← encoded (encodeLdrLiteralX fixup.reg
    (relocation.writer.addressAt fixup.instructionOffset) literalAddress (some 0)) .noSpace
  write (·.patch32 fixup.instructionOffset load) .noSpace

def finalizeLiterals : List LiteralFixup → Relocate Unit
  | [] => pure ()
  | fixup :: fixups => do
    finalizeLiteral fixup
    finalizeLiterals fixups

end Relocate

/-- The bytes a literal load reads; a prefetch reads none. -/
def literalAccessSize (instruction : Word) : BitVec 64 :=
  if literalVector instruction = 0 then
    if literalOpc instruction = 0 ∨ literalOpc instruction = 2 then 4
    else if literalOpc instruction = 1 then 8 else 0
  else if literalOpc instruction = 0 then 4
  else if literalOpc instruction = 1 then 8
  else if literalOpc instruction = 2 then 16 else 0

def overlapsOverwrittenBytes (request : RelocationRequest) (instruction : Word)
    (address : Address) : Bool :=
  let accessSize := literalAccessSize instruction
  if accessSize = 0 then false
  else if request.overwrittenSize = 0 then false
  else if request.overwrittenStart > lastAddress - request.overwrittenSize ∨
      address > lastAddress - accessSize then true
  else
    let accessEnd := address + accessSize
    let overwrittenEnd := request.overwrittenStart + request.overwrittenSize
    address < overwrittenEnd ∧ request.overwrittenStart < accessEnd

section Kinds

open Relocate

variable (request : RelocationRequest)

/-- `B` and `BL`. Each relocation returns whether the code continues behind it. -/
def relocateBranch (link : Bool) : Relocate Bool := do
  let target := mapInternalTarget request
    (decodePcRelativeTarget request.instruction request.sourcePc)
  if link then
    emitLoadAddress 30 (request.sourcePc + 4) .range
    let word ← encoded (encodeBranch (← here) target false (some 0)) .range
    write (·.emit32 word) .noSpace
    setResult ({ · with expanded := true })
  else
    let word ← encoded (encodePcRelative request.instruction (← here) target (some 0)) .range
    write (·.emit32 word) .noSpace
  return false

def relocateFarConditional (target : Address) : Relocate Unit := do
  let pc ← here
  let skip ← encoded (encodePcRelative (invertConditional request.instruction) pc (pc + 8)
    (some 0)) .range
  let branch ← encoded (encodeBranch (pc + 4) target false (some 0)) .range
  write (·.emit32 skip) .noSpace
  write (·.emit32 branch) .noSpace
  setResult ({ · with expanded := true })

def relocateConditional (kind : InstructionKind) : Relocate Bool := do
  let target := mapInternalTarget request
    (decodePcRelativeTarget request.instruction request.sourcePc)
  if kind = .bCond ∧ request.instruction &&& 0xe = 0xe then
    let word ← encoded (encodeBranch (← here) target false (some 0)) .range
    write (·.emit32 word) .noSpace
    return false
  else
    match encodePcRelative request.instruction (← here) target (some 0) with
    | (true, some word) => write (·.emit32 word) .noSpace
    | _ => relocateFarConditional request target
    return true

def relocateFarAddress (target : Address) : Relocate Unit := do
  let destination := request.instruction &&& 0x1f
  if destination = 31 then write (·.emit32 kNop) .noSpace
  else emitLoadAddress destination target .noSpace
  setResult ({ · with expanded := true })

def relocateAddress : Relocate Bool := do
  let target := decodePcRelativeTarget request.instruction request.sourcePc
  match encodePcRelative request.instruction (← here) target (some 0) with
  | (true, some word) => write (·.emit32 word) .noSpace
  | _ => relocateFarAddress request target
  return true

def canUseDestination (instruction : Word) : Bool :=
  literalVector instruction = 0 ∧ literalOpc instruction ≠ 3 ∧ instruction &&& 0x1f ≠ 31

def emitMemoryLoad (target : Address) (memoryLoad : Word) : Relocate Unit := do
  if canUseDestination request.instruction then
    emitLoadAddress (request.instruction &&& 0x1f) target .noSpace
    write (·.emit32 memoryLoad) .noSpace
  else
    write (·.emit32 kStrX17PreIndexSpMinus16) .noSpace
    emitLoadAddress 17 target .noSpace
    write (·.emit32 memoryLoad) .noSpace
    write (·.emit32 kLdrX17PostIndexSpPlus16) .noSpace
  setResult ({ · with
    expanded := true
    usesX17 := !canUseDestination request.instruction })

def literalBase (instruction : Word) : Word :=
  if canUseDestination instruction then instruction &&& 0x1f else 17

def relocateLiteral : Relocate Bool := do
  let target := decodePcRelativeTarget request.instruction request.sourcePc
  if overlapsOverwrittenBytes request request.instruction target then
    throw .unsupported
  else
    match encodePcRelative request.instruction (← here) target (some 0) with
    | (true, some word) => write (·.emit32 word) .noSpace
    | _ =>
      match encodeLiteralMemoryLoad request.instruction (literalBase request.instruction) with
      | some memoryLoad => emitMemoryLoad request target memoryLoad
      | none => throw .unsupported
    return true

def relocateByKind : Relocate Bool :=
  match decodeKind request.instruction with
  | .b => relocateBranch request false
  | .bl => relocateBranch request true
  | .bCond => relocateConditional request .bCond
  | .compareBranch => relocateConditional request .compareBranch
  | .testBranch => relocateConditional request .testBranch
  | .adr | .adrp => relocateAddress request
  | .literalLoad => relocateLiteral request
  | .other => do
    write (·.emit32 request.instruction) .noSpace
    return true

def appendBranch : Relocate Unit := do
  let word ← encoded (encodeBranch (← here) request.continuation false (some 0)) .range
  write (·.emit32 word) .noSpace

def finishRelocation : Relocate Unit := do
  let codeSize ← size
  setResult ({ · with codeSize := codeSize })
  let relocation ← get
  finalizeLiterals relocation.fixups
  let totalSize ← size
  setResult ({ · with totalSize := totalSize })

def relocate : Relocate Unit := do
  if isRegisterBranchWithLink request.instruction ∨
      isExceptionGeneration request.instruction then
    throw .unsupported
  else
    let appendContinuation ← relocateByKind request
    if appendContinuation then appendBranch request else pure ()
    finishRelocation

def RelocationRequest.invalid : Bool :=
  request.outputCapacity < 4 ∨ request.sourcePc = 0 ∨ request.outputAddress = 0

/-- The status, the buffer left behind, and the result where it was written. -/
def relocateOneAndContinue : RelocationStatus × Buffer × Option RelocationResult :=
  if request.invalid then (.invalidArgument, request.output, none)
  else
    match (relocate request).run (.init request) with
    | (.ok (), relocation) => (.ok, relocation.writer.buffer, some relocation.result)
    | (.error status, relocation) => (status, relocation.writer.buffer, some relocation.result)

end Kinds

end HookSelf.InlineHook.Arm64

namespace HookSelf.InlineHook.CodePage

open Arm64

def kBridgeCapacity : Nat := 64
def kOriginalOffset : Nat := 64
def kOriginalCapacity : Nat := 192

def shifted (buffer : Buffer) (offset : Nat) : Buffer := fun index => buffer (offset + index)

def spliced (buffer : Buffer) (offset : Nat) (part : Buffer) : Buffer := fun index =>
  if offset ≤ index then part (index - offset) else buffer index

def relocationError : RelocationStatus → InlineResult
  | .ok => .ok
  | .invalidArgument => .invalidArgument
  | .noSpace => .internal
  | .range => .range
  | .unsupported => .relocation

abbrev Build := ExceptT InlineResult (StateM CodeWriter)

namespace Build

def write (operation : CodeWriter → Option CodeWriter) : Build Unit := fun writer =>
  match operation writer with
  | some writer => (.ok (), writer)
  | none => (.error .internal, writer)

def emitFarBranch (destination : Address) : Build Unit := do
  let loadOffset := (← get).size
  write (·.emit32 0)
  write (·.emit32 kBrX17)
  write CodeWriter.align8
  let literalAddress := (← get).address
  write (·.emit64 destination)
  let loadAddress := (← get).addressAt loadOffset
  match encodeLdrLiteralX 17 loadAddress literalAddress (some 0) with
  | (true, some load) => write (·.patch32 loadOffset load)
  | _ => throw .internal

def emitBridge (replacement : Address) (authenticate : Word) : Build Bool := do
  if authenticate ≠ 0 then write (·.emit32 authenticate) else pure ()
  match encodeBranch (← get).address replacement false (some 0) with
  | (true, some branch) => do
    write (·.emit32 branch)
    return false
  | _ => do
    emitFarBranch replacement
    return true

end Build

structure Bridge where
  bridgeAddress : Address
  flags : InfoFlags
  usedSize : Nat
  deriving DecidableEq, Repr

/-- The result, the page, and what the output parameters hold where they were written. -/
def buildBridge (page : Buffer) (pageAddress replacement : Address) (authenticate : Word)
    (flags : InfoFlags) : InlineResult × Buffer × Option Bridge :=
  match (Build.emitBridge replacement authenticate).run
      (.init page kBridgeCapacity pageAddress) with
  | (.ok usesX17, writer) => (.ok, writer.buffer, some ⟨pageAddress,
      { flags with nearBridge := true, usesX17 := flags.usesX17 || usesX17 }, writer.size⟩)
  | (.error result, writer) => (result, writer.buffer, none)

structure Trampoline where
  original : Address
  relocatedSize : Nat
  flags : InfoFlags
  usedSize : Nat
  deriving DecidableEq, Repr

namespace Build

/-- The landing pad and the copied instruction in front of the relocated one, and the addresses at
which the copies start. -/
def emitPrefix (target patchAddress : Address) (firstInstruction : Word)
    (copiedInstructionCount : Nat) : Build (List AddressMap) := do
  write (·.emit32 kBtiC)
  let first : AddressMap := ⟨target, (← get).address⟩
  if copiedInstructionCount = 2 then
    write (·.emit32 firstInstruction)
    return [first, ⟨patchAddress, (← get).address⟩]
  else
    return [first]

end Build

def trampolineRequest (target patchAddress : Address) (patchedInstruction : Word)
    (copiedInstructionCount : Nat) (maps : List AddressMap) (writer : CodeWriter) :
    RelocationRequest where
  instruction := patchedInstruction
  sourcePc := patchAddress
  continuation := target + BitVec.ofNat 64 (copiedInstructionCount * 4)
  overwrittenStart := patchAddress
  overwrittenSize := 4
  internalMaps := maps
  output := shifted writer.buffer writer.size
  outputCapacity := kOriginalCapacity - writer.size
  outputAddress := writer.address

def buildOriginalTrampoline (page : Buffer) (pageAddress target patchAddress : Address)
    (firstInstruction patchedInstruction : Word) (copiedInstructionCount : Nat)
    (flags : InfoFlags) : InlineResult × Buffer × Option Trampoline :=
  if copiedInstructionCount = 0 ∨ copiedInstructionCount > 2 then (.invalidArgument, page, none)
  else
    let outputAddress := pageAddress + BitVec.ofNat 64 kOriginalOffset
    match (Build.emitPrefix target patchAddress firstInstruction copiedInstructionCount).run
        (.init (shifted page kOriginalOffset) kOriginalCapacity outputAddress) with
    | (.error result, writer) => (result, spliced page kOriginalOffset writer.buffer, none)
    | (.ok maps, writer) =>
      let (status, part, relocation) := relocateOneAndContinue (trampolineRequest target
        patchAddress patchedInstruction copiedInstructionCount maps writer)
      let page := spliced page kOriginalOffset (spliced writer.buffer writer.size part)
      match status, relocation with
      | .ok, some relocation =>
        (.ok, page, some ⟨outputAddress, writer.size + relocation.codeSize,
          { flags with
            relocationExpanded := flags.relocationExpanded || relocation.expanded
            usesX17 := flags.usesX17 || relocation.usesX17
            trampolineRetained := true },
          kOriginalOffset + writer.size + relocation.totalSize⟩)
      | status, _ => (relocationError status, page, none)

end HookSelf.InlineHook.CodePage
