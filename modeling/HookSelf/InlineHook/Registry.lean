import HookSelf.Collections.Handles
import HookSelf.Collections.SlotTable
import HookSelf.InlineHook.NearPage
import HookSelf.InlineHook.Relocator

/-! The inline hook registry (`inline_hook.cpp`). Every call holds the registry lock from its first
look at the registry to its end, so a call is one step. Code memory holds one instruction word per
aligned address; what the system answers during a call is a parameter. -/

namespace HookSelf.InlineHook

open Arm64 CodePage SlotTable Handles

def kMaxHooks : Nat := 256

inductive EntryState
  | free
  | active
  | removed
  deriving DecidableEq, Repr

structure PreparedHook where
  target : Address
  replacement : Address
  original : Address
  patchAddress : Address
  bridgeAddress : Address
  codePage : Address
  originalInstruction : Word
  patchInstruction : Word
  relocatedSize : Nat
  infoFlags : InfoFlags
  deriving DecidableEq, Repr

structure HookEntry extends PreparedHook where
  handle : BitVec 64
  generation : BitVec 64
  state : EntryState
  deriving DecidableEq, Repr

section Memory

/-- An address that is not mapped holds no word. -/
abbrev Code := Address → Option Word

/-- What the system answers to `PatchExecutableInstruction`: whether the maps and smaps files show a
suitable mapping, and which of its `mprotect` calls fail. -/
structure PatchHost where
  regionFound : Bool
  architectureFound : Bool
  mprotectFails : Nat → Bool

def patchExecutableInstruction (host : PatchHost) (code : Code) (address : Address)
    (expected replacement : Word) : InlineResult × Code :=
  if address &&& 3 ≠ 0 then (.invalidArgument, code)
  else
    match code address with
    | none => (.protection, code)
    | some word =>
      if ¬host.regionFound ∨ ¬host.architectureFound ∨ host.mprotectFails 0 then (.protection, code)
      else if word ≠ expected then
        (if host.mprotectFails 1 then .protection else .conflict, code)
      else if host.mprotectFails 1 then
        (.protection, Function.update (Function.update code address replacement) address expected)
      else (.ok, Function.update code address replacement)

def InPage (page : Address) (pageSize : Nat) (address : Address) : Prop :=
  page.toNat ≤ address.toNat ∧ address.toNat < page.toNat + pageSize

instance (page : Address) (pageSize : Nat) (address : Address) :
    Decidable (InPage page pageSize address) :=
  inferInstanceAs (Decidable (_ ∧ _))

def wordAt (page : Buffer) (offset : Nat) : Word :=
  BitVec.ofNat 32 (LittleEndian.number ((List.range 4).map fun index => page (offset + index)))

def mapPage (code : Code) (page : Address) (pageSize : Nat) (buffer : Buffer) : Code := fun address =>
  if InPage page pageSize address then some (wordAt buffer (address.toNat - page.toNat))
  else code address

def releaseUnpublishedPage (code : Code) (page : Address) (pageSize : Nat) : Code :=
  fun address => if InPage page pageSize address then none else code address

end Memory

section Prepare

/-- What the system answers to an installation: the mappings it lists, the pages `mmap` gives, and
whether the page can be made executable. -/
structure InstallHost where
  replacementExecutable : Bool
  readable : Address → Bool
  pageSize : Address
  maps : Option (List NearPage.MemoryRegion)
  mapper : NearPage.Mapper
  mprotectFails : Bool
  patch : PatchHost

def InstallHost.codePage (host : InstallHost) (reference : Address) : Option Address :=
  (NearPage.allocateNearCodePage host.mapper host.pageSize reference NearPage.kNearAllocationRange
    host.maps ⟨[], false⟩).1

def finalizeCodePage (host : InstallHost) (usedSize : Nat) : InlineResult :=
  if usedSize = 0 ∨ usedSize > host.pageSize.toNat then .invalidArgument
  else if host.mprotectFails then .protection
  else .ok

def readExecutableInstruction (host : InstallHost) (code : Code) (address : Address) :
    Except InlineResult Word :=
  if address &&& 3 ≠ 0 then .error .invalidArgument
  else
    match code address with
    | none => .error .protection
    | some word => if host.readable address then .ok word else .error .protection

structure Entry where
  patchAddress : Address
  firstInstruction : Word
  patchedInstruction : Word
  copiedInstructionCount : Nat
  authenticate : Word
  flags : InfoFlags

def readEntry (host : InstallHost) (code : Code) (target : Address) : Except InlineResult Entry := do
  let firstInstruction ← readExecutableInstruction host code target
  if isBti firstInstruction then
    let patchedInstruction ← readExecutableInstruction host code (target + 4)
    return ⟨target + 4, firstInstruction, patchedInstruction, 2, 0,
      { InfoFlags.none with patchAfterBti := true }⟩
  else
    match isPacEntry firstInstruction with
    | some authenticate =>
      let patchedInstruction ← readExecutableInstruction host code (target + 4)
      return ⟨target + 4, firstInstruction, patchedInstruction, 2, authenticate,
        { InfoFlags.none with patchAfterPac := true }⟩
    | none => return ⟨target, firstInstruction, firstInstruction, 1, 0, InfoFlags.none⟩

def branchWord (pc target : Address) : Option Word :=
  match encodeBranch pc target false (some 0) with
  | (true, word) => word
  | (false, _) => none

structure Patch where
  instruction : Word
  bridgeAddress : Address
  flags : InfoFlags
  bridgeEnd : Nat
  page : Buffer

/-- The branch that replaces the instruction: to the replacement if it is near and no authentication
is due, else to the bridge. -/
def buildPatch (entry : Entry) (page : Buffer) (pageAddress replacement : Address)
    (flags : InfoFlags) : Except InlineResult Patch :=
  match decide (entry.authenticate = 0), branchWord entry.patchAddress replacement with
  | true, some patch => .ok ⟨patch, 0, flags, 0, page⟩
  | _, _ =>
    match buildBridge page pageAddress replacement entry.authenticate flags with
    | (.ok, page, some bridge) =>
      match branchWord entry.patchAddress bridge.bridgeAddress with
      | some patch => .ok ⟨patch, bridge.bridgeAddress, bridge.flags, bridge.usedSize, page⟩
      | none => .error .range
    | (result, _, _) => .error result

def fillCodePage (host : InstallHost) (target replacement pageAddress : Address) (entry : Entry) :
    Except InlineResult (PreparedHook × Buffer) :=
  match buildOriginalTrampoline (fun _ => 0) pageAddress target entry.patchAddress
      entry.firstInstruction entry.patchedInstruction entry.copiedInstructionCount entry.flags with
  | (.ok, page, some trampoline) =>
    match buildPatch entry page pageAddress replacement trampoline.flags with
    | .error error => .error error
    | .ok patch =>
      let result := finalizeCodePage host (max trampoline.usedSize patch.bridgeEnd)
      if result ≠ .ok then .error result
      else .ok ({
        target := target
        replacement := replacement
        original := trampoline.original
        patchAddress := entry.patchAddress
        bridgeAddress := patch.bridgeAddress
        codePage := pageAddress
        originalInstruction := entry.patchedInstruction
        patchInstruction := patch.instruction
        relocatedSize := trampoline.relocatedSize
        infoFlags := patch.flags }, patch.page)
  | (result, _, _) => .error result

/-- A page that is released holds nothing, whatever was built in it. -/
def prepareHook (host : InstallHost) (code : Code) (target replacement : Address) :
    Except InlineResult PreparedHook × Code :=
  if ¬host.replacementExecutable then (.error .protection, code)
  else
    match readEntry host code target with
    | .error error => (.error error, code)
    | .ok entry =>
      match host.codePage entry.patchAddress with
      | none => (.error .noMemory, code)
      | some page =>
        match fillCodePage host target replacement page entry with
        | .error error => (.error error, releaseUnpublishedPage code page host.pageSize.toNat)
        | .ok (prepared, buffer) => (.ok prepared, mapPage code page host.pageSize.toNat buffer)

end Prepare

section Registry

structure Registry where
  code : Code
  entries : Nat → HookEntry
  generation : BitVec 64

def findActiveTargetLocked (registry : Registry) (target : Address) : Option Nat :=
  firstSlot kMaxHooks fun index =>
    (registry.entries index).state = .active ∧ (registry.entries index).target = target

def findHandleLocked (registry : Registry) (handle : BitVec 64) : Option Nat :=
  let index := handleIndex kMaxHooks handle
  if index ≥ kMaxHooks ∨ (registry.entries index).handle ≠ handle ∨
      (registry.entries index).state = .free then none
  else some index

def findReusableEntryLocked (registry : Registry) : Option Nat :=
  firstSlot kMaxHooks fun index => (registry.entries index).state ≠ .active

def nextGeneration (generation : BitVec 64) : BitVec 64 :=
  if generation + 1 = 0 then generation + 2 else generation + 1

def publishedEntry (generation : BitVec 64) (index : Nat) (prepared : PreparedHook) : HookEntry where
  toPreparedHook := prepared
  handle := handle index generation
  generation := generation
  state := .active

def publishEntry (registry : Registry) (index : Nat) (prepared : PreparedHook) : Registry :=
  let generation := nextGeneration registry.generation
  { registry with
    generation := generation
    entries := Function.update registry.entries index (publishedEntry generation index prepared) }

structure InlineOptions where
  structSize : Nat
  abiVersion : Nat
  flags : BitVec 32
  reserved : Fin 5 → BitVec 32

def sizeofOptions : Nat := 32
def inlineAbiVersion : Nat := 1

def hookselfInlineDefaultOptions : InlineOptions := ⟨sizeofOptions, inlineAbiVersion, 0, fun _ => 0⟩

def hookselfInlineValidateOptions (options : InlineOptions) : InlineResult :=
  if options.structSize ≠ sizeofOptions then .invalidArgument
  else if options.abiVersion ≠ inlineAbiVersion then .abiMismatch
  else if options.flags ≠ 0 then .invalidArgument
  else if ∃ i, options.reserved i ≠ 0 then .invalidArgument
  else .ok

structure InstallOutcome where
  result : InlineResult
  handle : Option (BitVec 64)
  original : Option Address
  registry : Registry

def refuse (result : InlineResult) (registry : Registry) : InstallOutcome :=
  ⟨result, none, none, registry⟩

/-- `wantsOriginal` tells whether the caller passes a place for the trampoline's address; without one
the page of a failed patch is released. -/
def installLocked (host : InstallHost) (registry : Registry) (target replacement : Address)
    (wantsOriginal : Bool) : InstallOutcome :=
  match findActiveTargetLocked registry target with
  | some _ => refuse .alreadyInstalled registry
  | none =>
    match findReusableEntryLocked registry with
    | none => refuse .busy registry
    | some index =>
      match prepareHook host registry.code target replacement with
      | (.error error, code) => refuse error { registry with code := code }
      | (.ok prepared, code) =>
        let (result, code) := patchExecutableInstruction host.patch code prepared.patchAddress
          prepared.originalInstruction prepared.patchInstruction
        if result ≠ .ok then
          refuse result { registry with
            code := if wantsOriginal then code
              else releaseUnpublishedPage code prepared.codePage host.pageSize.toNat }
        else
          let registry := publishEntry { registry with code := code } index prepared
          ⟨.ok, some (registry.entries index).handle, some prepared.original, registry⟩

def hookselfInlineInstall (host : InstallHost) (registry : Registry) (target replacement : Address)
    (options : Option InlineOptions) (wantsOriginal : Bool) : InstallOutcome :=
  let options := options.getD hookselfInlineDefaultOptions
  if target = 0 ∨ replacement = 0 ∨ target = replacement ∨ target &&& 3 ≠ 0 ∨
      replacement &&& 3 ≠ 0 then
    refuse .invalidArgument registry
  else if hookselfInlineValidateOptions options ≠ .ok then
    refuse (hookselfInlineValidateOptions options) registry
  else installLocked host registry target replacement wantsOriginal

def removeEntryLocked (host : PatchHost) (registry : Registry) (index : Option Nat) :
    InlineResult × Registry :=
  match index with
  | none => (.notFound, registry)
  | some index =>
    let entry := registry.entries index
    if entry.state ≠ .active then (.notFound, registry)
    else
      let (result, code) := patchExecutableInstruction host registry.code entry.patchAddress
        entry.patchInstruction entry.originalInstruction
      (result, { registry with
        code := code
        entries := if result = .ok then
          Function.update registry.entries index { entry with state := .removed }
        else registry.entries })

def hookselfInlineRemove (host : PatchHost) (registry : Registry) (handle : BitVec 64) :
    InlineResult × Registry :=
  if handle = 0 then (.invalidArgument, registry)
  else removeEntryLocked host registry (findHandleLocked registry handle)

def hookselfInlineUnhook (host : PatchHost) (registry : Registry) (target : Address) :
    InlineResult × Registry :=
  if target = 0 ∨ target &&& 3 ≠ 0 then (.invalidArgument, registry)
  else removeEntryLocked host registry (findActiveTargetLocked registry target)

end Registry

end HookSelf.InlineHook
