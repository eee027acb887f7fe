import HookSelf.ElfHook.Types
import HookSelf.Limits
import HookSelf.Collections.Swaps

/-! The pointer patch transaction (`elf_hook/internal/memory.cpp`): pages are made writable, the
slots compare-exchanged, and the protections restored. The memory holds the slots by address, the
protections by page address and the number of `mprotect` calls made so far; what the kernel answers
to each call is a parameter. -/

namespace HookSelf.ElfHook

structure PointerPatch where
  address : Address
  expected : BitVec 64
  desired : BitVec 64
deriving DecidableEq, Repr

structure Protection where
  read : Bool
  write : Bool
  exec : Bool
  bti : Bool
  mte : Bool
deriving DecidableEq, Repr

def Protection.orWrite (protection : Protection) : Protection := { protection with write := true }

structure PageChange where
  address : Address
  originalProtection : Protection
  changed : Bool
deriving DecidableEq, Repr

structure PointerPageProtection where
  address : Address
  protection : Protection
deriving DecidableEq, Repr

structure PointerPatchOutcome where
  recoveryRequired : Bool
  desiredVisible : Bool
  pages : List PointerPageProtection
deriving DecidableEq, Repr

/-- What the kernel answers: whether the maps and smaps files show the mapping of the `i`-th patch,
which pages are private, and which `mprotect` calls fail. -/
structure Kernel where
  systemPageSize : Nat
  mapsShows : Nat → Bool
  smapsShows : Nat → Bool
  privateMapping : Address → Bool
  mprotectFails : Nat → Bool

/-- A compare-exchange on a page without write permission sets `fault`. -/
structure Memory where
  slots : Address → BitVec 64
  protection : Address → Protection
  mprotectCalls : Nat
  fault : Bool

def pointerBytes : Nat := 8

/-- A power of two from 4096 to 65536, else 4096. -/
def pageSize (kernel : Kernel) : Nat :=
  if 4096 ≤ kernel.systemPageSize ∧ kernel.systemPageSize ≤ 65536 ∧
      kernel.systemPageSize &&& (kernel.systemPageSize - 1) = 0 then kernel.systemPageSize
  else 4096

def alignDown (value : Address) (alignment : Nat) : Address :=
  value &&& ~~~(BitVec.ofNat 64 alignment - 1)

section Kernel

variable (kernel : Kernel)

def pageOf (address : Address) : Address := alignDown address (pageSize kernel)

/-- The protection of the mapping that holds the `index`-th slot and whether it is private. -/
def findMemoryRegion (memory : Memory) (index : Nat) (address : Address) :
    Option (Protection × Bool) :=
  if address = 0 ∨ address.toNat > uintptrMax - pointerBytes then none
  else if kernel.mapsShows index then
    let protection := memory.protection (pageOf kernel address)
    some ({ protection with bti := false, mte := false }, kernel.privateMapping (pageOf kernel address))
  else none

def findArchitectureProtection (memory : Memory) (index : Nat) (address : Address) :
    Option (Bool × Bool) :=
  if kernel.smapsShows index then
    let protection := memory.protection (pageOf kernel address)
    some (protection.bti, protection.mte)
  else none

/-- `mprotect` of one page; a failed call changes nothing. -/
def mprotect (page : Address) (protection : Protection) (memory : Memory) : Bool × Memory :=
  if kernel.mprotectFails memory.mprotectCalls then
    (false, { memory with mprotectCalls := memory.mprotectCalls + 1 })
  else
    (true, { memory with
      mprotectCalls := memory.mprotectCalls + 1
      protection := Function.update memory.protection page protection })

def compareExchange (address : Address) (expected desired : BitVec 64) (memory : Memory) :
    Bool × Memory :=
  let memory :=
    { memory with fault := memory.fault || !(memory.protection (pageOf kernel address)).write }
  if memory.slots address = expected then
    (true, { memory with slots := Function.update memory.slots address desired })
  else (false, memory)

def restorePageAttempts (page : PageChange) : Nat → Memory → Bool × PageChange × Memory
  | 0, memory => (false, page, memory)
  | attempts + 1, memory =>
    let (done, memory) := mprotect kernel page.address page.originalProtection memory
    if done then (true, { page with changed := false }, memory)
    else restorePageAttempts page attempts memory

def restorePage (page : PageChange) (memory : Memory) : Bool × PageChange × Memory :=
  if page.changed then restorePageAttempts kernel page 3 memory else (true, page, memory)

/-- The last page first, each with three attempts. -/
def restorePages : List PageChange → Memory → Bool × List PageChange × Memory
  | [], memory => (true, [], memory)
  | page :: pages, memory =>
    let (restored, pages, memory) := restorePages pages memory
    let (pageRestored, page, memory) := restorePage kernel page memory
    (restored && pageRestored, page :: pages, memory)

def makePagesWritable : List PageChange → Memory → Bool × List PageChange × Memory
  | [], memory => (true, [], memory)
  | page :: pages, memory =>
    let (done, memory) := mprotect kernel page.address page.originalProtection.orWrite memory
    let page := if done then { page with changed := !page.originalProtection.write } else page
    let (writable, pages, memory) := makePagesWritable pages memory
    (done && writable, page :: pages, memory)

def rollBackPatches : List PointerPatch → Memory → Bool × Memory
  | [], memory => (true, memory)
  | patch :: patches, memory =>
    let (rolledBack, memory) := rollBackPatches patches memory
    let (exchanged, memory) := compareExchange kernel patch.address patch.desired patch.expected memory
    (rolledBack && (exchanged || decide (memory.slots patch.address = patch.expected)), memory)

def anyDesiredValue (patches : List PointerPatch) (memory : Memory) : Bool :=
  patches.any fun patch => memory.slots patch.address = patch.desired

def recoveryRequired (patches : List PointerPatch) (outcome : PointerPatchOutcome) (memory : Memory) :
    Result × PointerPatchOutcome × Memory :=
  (.recoveryRequired,
    { outcome with recoveryRequired := true, desiredVisible := anyDesiredValue patches memory },
    memory)

def inspectPatch (memory : Memory) (index : Nat) (patch : PointerPatch) : Except Result Protection :=
  if patch.address = 0 ∨ patch.expected = 0 ∨ patch.desired = 0 ∨
      patch.expected = patch.desired ∨ patch.address &&& 7 ≠ 0 then .error .invalidArgument
  else
    match findMemoryRegion kernel memory index patch.address with
    | none => .error .protection
    | some (region, privateMapping) =>
      if !region.read || region.exec || !privateMapping then .error .protection
      else
        match findArchitectureProtection kernel memory index patch.address with
        | none => .error .protection
        | some (bti, mte) => .ok { region with bti := bti, mte := mte }

def collectPages (memory : Memory) :
    Nat → List PointerPatch → List PageChange → Except Result (List PageChange)
  | _, [], pages => .ok pages
  | index, patch :: patches, pages =>
    match inspectPatch kernel memory index patch with
    | .error result => .error result
    | .ok protection =>
      let pageAddress := pageOf kernel patch.address
      match pages.find? (·.address = pageAddress) with
      | some page =>
        if page.originalProtection ≠ protection then .error .protection
        else collectPages memory (index + 1) patches pages
      | none => collectPages memory (index + 1) patches (pages ++ [⟨pageAddress, protection, false⟩])

def savePageProtections (pages : List PageChange) : List PointerPageProtection :=
  pages.map fun page => ⟨page.address, page.originalProtection⟩

/-- Add write permission page by page up to the first failure: whether all succeeded and the pages
treated so far. -/
def unprotectPages : List PageChange → Memory → Bool × List PageChange × Memory
  | [], memory => (true, [], memory)
  | page :: pages, memory =>
    if page.originalProtection.write then
      let (done, pages, memory) := unprotectPages pages memory
      (done, page :: pages, memory)
    else
      let (done, memory) := mprotect kernel page.address page.originalProtection.orWrite memory
      if done then
        let (done, pages, memory) := unprotectPages pages memory
        (done, { page with changed := true } :: pages, memory)
      else (false, [], memory)

def exchangePatches : List PointerPatch → Memory → Nat × Memory
  | [], memory => (0, memory)
  | patch :: patches, memory =>
    let (exchanged, memory) :=
      compareExchange kernel patch.address patch.expected patch.desired memory
    if exchanged then
      let (count, memory) := exchangePatches patches memory
      (count + 1, memory)
    else (0, memory)

def reprotectPages (patches : List PointerPatch) (pages : List PageChange)
    (outcome : PointerPatchOutcome) (memory : Memory) : Result × PointerPatchOutcome × Memory :=
  let (restored, pages, memory) := restorePages kernel pages memory
  if restored then (.ok, { outcome with desiredVisible := true }, memory)
  else
    let (writable, pages, memory) := makePagesWritable kernel pages memory
    let (rolledBack, memory) :=
      if writable then rollBackPatches kernel patches memory else (false, memory)
    let (restored, _, memory) := restorePages kernel pages memory
    if rolledBack && restored then (.protection, outcome, memory)
    else recoveryRequired patches outcome memory

def patchSlots (patches : List PointerPatch) (pages : List PageChange)
    (outcome : PointerPatchOutcome) (memory : Memory) : Result × PointerPatchOutcome × Memory :=
  let (patchedCount, memory) := exchangePatches kernel patches memory
  if patchedCount < patches.length then
    let (rolledBack, memory) := rollBackPatches kernel (patches.take patchedCount) memory
    let (restored, _, memory) := restorePages kernel pages memory
    if rolledBack && restored then (.conflict, outcome, memory)
    else recoveryRequired patches outcome memory
  else reprotectPages kernel patches pages outcome memory

def commitPages (patches : List PointerPatch) (pages : List PageChange)
    (outcome : PointerPatchOutcome) (memory : Memory) : Result × PointerPatchOutcome × Memory :=
  let (writable, pages, memory) := unprotectPages kernel pages memory
  if !writable then
    let (restored, _, memory) := restorePages kernel pages memory
    if restored then (.protection, outcome, memory) else recoveryRequired patches outcome memory
  else if patches.any fun patch => memory.slots patch.address ≠ patch.expected then
    let (restored, _, memory) := restorePages kernel pages memory
    if restored then (.conflict, outcome, memory) else recoveryRequired patches outcome memory
  else patchSlots kernel patches pages outcome memory

def commitPointerPatches (patches : List PointerPatch) (outcome : PointerPatchOutcome)
    (memory : Memory) : Result × PointerPatchOutcome × Memory :=
  if patches.length = 0 ∨ patches.length > kMaxSlotsPerHook then (.invalidArgument, outcome, memory)
  else
    match collectPages kernel memory 0 patches [] with
    | .error result => (result, ⟨false, false, []⟩, memory)
    | .ok pages => commitPages kernel patches pages ⟨false, false, savePageProtections pages⟩ memory

def reopenedPages (outcome : PointerPatchOutcome) : List PageChange :=
  outcome.pages.map fun page => ⟨page.address, page.protection, true⟩

def recoverPointerPatches (patches : List PointerPatch) (outcome : PointerPatchOutcome)
    (memory : Memory) : Result × Memory :=
  if patches.length = 0 ∨ patches.length > kMaxSlotsPerHook ∨ !outcome.recoveryRequired ∨
      outcome.pages.length = 0 ∨ outcome.pages.length > kMaxSlotsPerHook then
    (.invalidArgument, memory)
  else
    let (writable, pages, memory) := makePagesWritable kernel (reopenedPages outcome) memory
    if !writable then
      let (_, _, memory) := restorePages kernel pages memory
      (.recoveryRequired, memory)
    else if patches.any fun patch =>
        memory.slots patch.address ≠ patch.expected ∧ memory.slots patch.address ≠ patch.desired then
      let (restored, _, memory) := restorePages kernel pages memory
      (if restored then .conflict else .recoveryRequired, memory)
    else
      let (rolledBack, memory) := rollBackPatches kernel patches memory
      let (restored, _, memory) := restorePages kernel pages memory
      (if rolledBack && restored then .ok else .recoveryRequired, memory)

end Kernel

end HookSelf.ElfHook
