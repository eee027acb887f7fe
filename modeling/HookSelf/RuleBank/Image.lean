import HookSelf.Collections.Fnv
import HookSelf.Collections.LittleEndian
import HookSelf.RuleBank.Decode

/-! The bank as it lies in shared memory: header, descriptors and arena, filled in place, so that a
serialisation that fails leaves its traces behind. -/

namespace HookSelf.RuleBank

open PathState SlotTable Config Fnv LittleEndian

/-- The bank with the header fields that `InitializeBankLayout` and `SerializeConfig` keep. The
descriptor lists hold what was written so far; the rest of each array is zero. -/
structure BankImage extends SharedRuleBank where
  checksum : BitVec 64
  bankSize : Nat
  pathRuleCount : Nat
  syscallRuleCount : Nat
  virtualFileCount : Nat
  pathRulesOffset : Nat
  syscallRulesOffset : Nat
  virtualFilesOffset : Nat

section Bytes

def stringRefBytes (ref : SharedStringRef) : List UInt8 :=
  unsigned 4 ref.offset ++ unsigned 4 ref.length

def pathRuleBytes (desc : SharedPathRuleDesc) : List UInt8 :=
  unsigned 4 desc.ruleId ++ signed 4 desc.priority ++ signed 4 desc.action ++
    unsigned 4 desc.operationMask.toNat ++ unsigned 4 desc.flags.toNat ++ signed 4 desc.denyErrno ++
    stringRefBytes desc.guestPrefix ++ stringRefBytes desc.hostPrefix

/-- With four bytes of padding before the first 64-bit field and the reserved word at the end. -/
def syscallRuleBytes (desc : SharedSyscallRuleDesc) : List UInt8 :=
  unsigned 4 desc.ruleId ++ signed 4 desc.syscallNumber ++ signed 4 desc.action ++
    unsigned 4 desc.phaseMask.toNat ++ unsigned 4 desc.argumentIndex ++ unsigned 4 0 ++
    unsigned 8 desc.argumentMatchMask.toNat ++ unsigned 8 desc.argumentMatchValue.toNat ++
    unsigned 8 desc.replacementValue.toNat ++ signed 4 desc.replacementSyscallNumber ++
    signed 4 desc.denyErrno ++ unsigned 4 desc.flags.toNat ++ unsigned 4 0

def virtualFileBytes (desc : SharedVirtualFileDesc) : List UInt8 :=
  unsigned 4 desc.fileId ++ signed 4 desc.provider ++ unsigned 4 desc.mode.toNat ++
    unsigned 4 desc.flags.toNat ++ signed 4 desc.targetFd ++ unsigned 4 0 ++
    stringRefBytes desc.guestPath ++ stringRefBytes desc.backingPath

def arrayByte {α : Type} (bytes : α → List UInt8) (size offset : Nat) (descs : List α)
    (index : Nat) : Option UInt8 :=
  if offset ≤ index then (descs[(index - offset) / size]?).map fun desc =>
    (bytes desc).getD ((index - offset) % size) 0
  else none

def BankImage.byte (image : BankImage) (index : Nat) : UInt8 :=
  ((arrayByte pathRuleBytes sizeofPathRuleDesc image.pathRulesOffset image.pathRules index).or
    ((arrayByte syscallRuleBytes sizeofSyscallRuleDesc image.syscallRulesOffset
      image.syscallRules index).or
    (arrayByte virtualFileBytes sizeofVirtualFileDesc image.virtualFilesOffset image.virtualFiles
      index))).getD (image.bytes index)

def BankImage.hash (image : BankImage) : BitVec 64 :=
  fnv1a64 ((List.range (image.bankSize - sizeofBankHeader)).map fun index =>
    image.byte (sizeofBankHeader + index))

end Bytes

section Valid

def rangeInsideBank (offset size bankSize : Nat) : Bool :=
  offset ≤ bankSize ∧ size ≤ bankSize - offset

def referenceInsideArena (image : BankImage) (ref : SharedStringRef) : Bool :=
  ¬(ref.offset < image.arenaOffset ∨ ¬rangeInsideBank ref.offset ref.length image.bankSize ∨
    ref.offset > image.arenaOffset + image.arenaUsed ∨
    ref.length > image.arenaOffset + image.arenaUsed - ref.offset) ∧
  ref.length ≠ 0 ∧ image.byte (ref.offset + ref.length - 1) = 0

def bankShapeValid (image : BankImage) (regionSize : Nat) : Bool :=
  regionSize = sharedRuleBankBytes ∧ image.bankSize = regionSize ∧
    image.pathRuleCount ≤ maxPathRules ∧ image.syscallRuleCount ≤ maxSyscallRules ∧
    image.virtualFileCount ≤ maxVirtualFiles ∧
    rangeInsideBank image.pathRulesOffset (sizeofPathRuleDesc * maxPathRules) image.bankSize ∧
    rangeInsideBank image.syscallRulesOffset (sizeofSyscallRuleDesc * maxSyscallRules)
      image.bankSize ∧
    rangeInsideBank image.virtualFilesOffset (sizeofVirtualFileDesc * maxVirtualFiles)
      image.bankSize ∧
    rangeInsideBank image.arenaOffset image.arenaCapacity image.bankSize ∧
    image.arenaUsed ≤ image.arenaCapacity

def bankLayoutValid (image : BankImage) (regionSize : Nat) (populated : Bool) : Bool :=
  if ¬bankShapeValid image regionSize then false
  else if ¬populated then
    image.generation = 0 ∧ image.checksum = 0 ∧ image.pathRuleCount = 0 ∧
      image.syscallRuleCount = 0 ∧ image.virtualFileCount = 0 ∧ image.arenaUsed = 0
  else
    ((image.pathRules.take image.pathRuleCount).all fun desc =>
      referenceInsideArena image desc.guestPrefix ∧ referenceInsideArena image desc.hostPrefix) ∧
    ((image.virtualFiles.take image.virtualFileCount).all fun desc =>
      referenceInsideArena image desc.guestPath ∧ referenceInsideArena image desc.backingPath) ∧
    image.generation ≠ 0 ∧ image.checksum = image.hash

end Valid

section Serialize

/-- `InitializeBankLayout`: all zero but for the layout. -/
def initializeBankImage (bankSize : Nat) : BankImage where
  toSharedRuleBank := initializeBankLayout bankSize
  checksum := 0
  bankSize := bankSize
  pathRuleCount := 0
  syscallRuleCount := 0
  virtualFileCount := 0
  pathRulesOffset := alignUp sizeofBankHeader 4
  syscallRulesOffset := alignUp (alignUp sizeofBankHeader 4 + sizeofPathRuleDesc * maxPathRules) 8
  virtualFilesOffset :=
    alignUp (alignUp (alignUp sizeofBankHeader 4 + sizeofPathRuleDesc * maxPathRules) 8 +
      sizeofSyscallRuleDesc * maxSyscallRules) 4

def zeroRef : SharedStringRef := ⟨0, 0⟩

def placePathRule (bank : SharedRuleBank) (source : HookselfPathRule) : Bool × SharedRuleBank :=
  let place (bank : SharedRuleBank) (guestPrefix hostPrefix : SharedStringRef) :=
    { bank with pathRules := bank.pathRules ++ [describePathRule source guestPrefix hostPrefix] }
  match writeArenaString bank source.guestPrefix with
  | none => (false, place bank zeroRef zeroRef)
  | some (bank, guestPrefix) =>
    match writeArenaString bank source.hostPrefix with
    | none => (false, place bank guestPrefix zeroRef)
    | some (bank, hostPrefix) => (true, place bank guestPrefix hostPrefix)

def placeVirtualFile (backing : VirtualBacking) (bank : SharedRuleBank)
    (source : HookselfVirtualFile × Nat) : Bool × SharedRuleBank :=
  let place (bank : SharedRuleBank) (guestPath backingPath : SharedStringRef) :=
    { bank with virtualFiles := bank.virtualFiles ++ [{
        fileId := source.1.fileId
        provider := source.1.provider
        mode := source.1.mode
        flags := source.1.flags
        targetFd := backing.fd source.2
        guestPath := guestPath
        backingPath := backingPath }] }
  match writeArenaString bank source.1.guestPath with
  | none => (false, place bank zeroRef zeroRef)
  | some (bank, guestPath) =>
    match backing.paths with
    | none => (false, place bank guestPath zeroRef)
    | some paths =>
      match writeArenaString bank (paths source.2) with
      | none => (false, place bank guestPath zeroRef)
      | some (bank, backingPath) => (true, place bank guestPath backingPath)

def placeAll {α : Type} (place : SharedRuleBank → α → Bool × SharedRuleBank) :
    List α → SharedRuleBank → Bool × SharedRuleBank
  | [], bank => (true, bank)
  | item :: items, bank =>
    match place bank item with
    | (false, bank) => (false, bank)
    | (true, bank) => placeAll place items bank

def serializeRules (config : HookselfConfig) (image : BankImage) : Bool × BankImage :=
  match placeAll placePathRule config.pathRules.items image.toSharedRuleBank with
  | (false, bank) => (false, { image with toSharedRuleBank := bank })
  | (true, bank) =>
    (true, { image with
      toSharedRuleBank := { bank with
        syscallRules := config.syscallRules.items.map describeSyscallRule }
      pathRuleCount := config.pathRules.count
      syscallRuleCount := config.syscallRules.count })

def serializeVirtualFiles (config : HookselfConfig) (backing : VirtualBacking) (image : BankImage) :
    Bool × BankImage :=
  match placeAll (placeVirtualFile backing) config.virtualFiles.items.zipIdx
      image.toSharedRuleBank with
  | (false, bank) => (false, { image with toSharedRuleBank := bank })
  | (true, bank) =>
    let image := { image with
      toSharedRuleBank := bank
      virtualFileCount := config.virtualFiles.count }
    (true, { image with checksum := image.hash })

def serializeInto (config : HookselfConfig) (generation bankSize : Nat) (backing : VirtualBacking) :
    Bool × BankImage :=
  match serializeRules config { initializeBankImage bankSize with generation := generation } with
  | (false, image) => (false, image)
  | (true, image) => serializeVirtualFiles config backing image

end Serialize

end HookSelf.RuleBank
