import HookSelf.EventRing.Ring
import HookSelf.Limits
import HookSelf.RuleBank.ImageLaws

/-! The shared session: its mapping, validation, creation, and the publication of a configuration into
the bank that is not active. The regions `CreateSharedSession` lays out do not overlap, so that each
is an object of its own here. -/

namespace HookSelf.RuleBank

open PathState SlotTable Config EventRing

def kSharedMagic : Nat := 0x48535341
def kSharedAbiVersion : Nat := 12
def kSharedArchArm64 : Nat := 1
def kMaxTrackedTasks : Nat := 512
def kMaxRuntimeApiBypassSlots : Nat := 64
def sizeofSharedHeader : Nat := 256
def sizeofScratchFrame : Nat := 1344
def uint64Max : Nat := 2 ^ 64 - 1

/-- The last values of the two state fields the validator bounds. -/
def fdOperationComplete : Nat := 3
def selectiveInstallAmbiguousFatal : Nat := 8

def stateConfigured : Nat := 1
def stateStopped : Nat := 7

structure SharedRegion where
  offset : Nat
  size : Nat

structure SharedHeader where
  magic : Nat
  abiVersion : Nat
  headerSize : Nat
  arch : Nat
  pageSize : Nat
  totalSize : Nat
  targetPid : Int
  bootstrapTid : Int
  nonce : Nat
  targetStartTime : Nat
  traceeScratchAddress : Nat
  control : SharedRegion
  eventRing : SharedRegion
  ruleBanks : Nat → SharedRegion
  scratch : SharedRegion

structure SharedControlPage where
  tracerState : Nat
  activeRuleBank : Nat
  publishedGeneration : Nat
  configFlags : BitVec 32
  failureMode : Int
  logLevel : Int
  backend : Int
  protectedFdCount : Nat
  protectedFdRegistryGeneration : Nat
  teardownBypassTid : Int
  teardownBypassFd : Int
  teardownBypassActive : Nat
  teardownFrozen : Nat
  teardownRelease : Nat
  runtimeApiBypassTids : Nat → Int
  fdOperationState : Nat
  selectiveInstallState : Nat
  filterCommitted : Nat
  policyEnabled : Nat

/-- `SharedSessionMapping` with the memory behind it. An address of zero is a null pointer, and
`fdObjectUnchanged` is the answer of `CheckFdObjectIdentity`. -/
structure SharedSession where
  fd : Int
  fdObjectUnchanged : Bool
  prefixMapping : Nat
  prefixSize : Nat
  traceeScratchMapping : Nat
  scratchSize : Nat
  totalSize : Nat
  header : SharedHeader
  control : SharedControlPage
  eventRing : EventRingHeader
  ruleBanks : Nat → BankImage

def sharedScratchBytes : Nat := alignUp (sizeofScratchFrame * kMaxTrackedTasks) 4096

section Access

def regionInsidePrefix (session : SharedSession) (region : SharedRegion) : Bool :=
  session.prefixMapping ≠ 0 ∧ region.offset ≤ session.prefixSize ∧
    region.size ≤ session.prefixSize - region.offset

def getSharedHeader (session : SharedSession) : Option SharedHeader :=
  if session.prefixMapping = 0 ∨ session.prefixSize < sizeofSharedHeader then none
  else some session.header

def getSharedControl (session : SharedSession) : Option SharedControlPage :=
  (getSharedHeader session).bind fun header =>
    if regionInsidePrefix session header.control then some session.control else none

def getSharedEventRing (session : SharedSession) : Option EventRingHeader :=
  (getSharedHeader session).bind fun header =>
    if regionInsidePrefix session header.eventRing then some session.eventRing else none

def getSharedRuleBank (session : SharedSession) (bankIndex : Nat) : Option BankImage :=
  (getSharedHeader session).bind fun header =>
    if bankIndex < 2 ∧ regionInsidePrefix session (header.ruleBanks bankIndex) then
      some (session.ruleBanks bankIndex)
    else none

end Access

section Validate

def sessionLayoutValid (session : SharedSession) (header : SharedHeader) : Bool :=
  ¬(session.fd < 0 ∨ ¬session.fdObjectUnchanged ∨ session.traceeScratchMapping = 0 ∨
    header.magic ≠ kSharedMagic ∨ header.abiVersion ≠ kSharedAbiVersion ∨
    header.headerSize ≠ sizeofSharedHeader ∨ header.arch ≠ kSharedArchArm64 ∨
    header.totalSize ≠ session.totalSize ∨ header.pageSize = 0 ∨
    header.pageSize &&& (header.pageSize - 1) ≠ 0 ∨ session.prefixSize % header.pageSize ≠ 0 ∨
    session.scratchSize % header.pageSize ≠ 0 ∨
    session.totalSize ≠ session.prefixSize + session.scratchSize ∨
    header.traceeScratchAddress ≠ session.traceeScratchMapping ∨
    ¬regionInsidePrefix session header.control ∨ ¬regionInsidePrefix session header.eventRing ∨
    ¬regionInsidePrefix session (header.ruleBanks 0) ∨
    ¬regionInsidePrefix session (header.ruleBanks 1) ∨ header.control.size ≠ header.pageSize ∨
    (header.ruleBanks 0).size ≠ sharedRuleBankBytes ∨
    (header.ruleBanks 1).size ≠ sharedRuleBankBytes ∨ header.scratch.offset ≠ session.prefixSize ∨
    header.scratch.size ≠ session.scratchSize ∨ header.scratch.size ≠ sharedScratchBytes)

def sessionRingValid (ring : EventRingHeader) (header : SharedHeader) : Bool :=
  ¬(ring.magic ≠ kEventRingMagic ∨ ring.version ≠ kEventRingVersion ∨
    ring.eventSize ≠ sizeofEvent ∨ ring.capacity = 0 ∨ ring.capacity > maxEventCapacity ∨
    eventRingBytes ring.capacity > header.eventRing.size)

def sessionControlValid (control : SharedControlPage) : Bool :=
  ¬(control.activeRuleBank > 1 ∨ control.publishedGeneration = 0 ∨
    control.protectedFdRegistryGeneration = 0 ∨ control.protectedFdCount > kMaxProtectedFds ∨
    control.fdOperationState > fdOperationComplete ∨
    control.selectiveInstallState > selectiveInstallAmbiguousFatal ∨ control.filterCommitted > 1 ∨
    control.policyEnabled > 1 ∨ control.teardownBypassActive > 1 ∨ control.teardownFrozen > 1 ∨
    control.teardownRelease > 1 ∨
    (control.teardownBypassActive ≠ 0 ∧
      (control.teardownBypassTid ≤ 0 ∨ control.teardownBypassFd < 0))) ∧
  ∀ slot < kMaxRuntimeApiBypassSlots, control.runtimeApiBypassTids slot ≥ 0

def validateSharedSession (session : SharedSession) : Bool :=
  match getSharedHeader session with
  | none => false
  | some header =>
    if ¬sessionLayoutValid session header then false
    else
      match getSharedEventRing session, getSharedControl session with
      | some ring, some control =>
        if ¬sessionRingValid ring header ∨ ¬sessionControlValid control then false
        else
          match getSharedRuleBank session control.activeRuleBank,
              getSharedRuleBank session (1 - control.activeRuleBank) with
          | some active, some inactive =>
            active.generation = control.publishedGeneration ∧
              bankLayoutValid active (header.ruleBanks control.activeRuleBank).size true ∧
              bankLayoutValid inactive (header.ruleBanks (1 - control.activeRuleBank)).size
                (inactive.generation ≠ 0)
          | _, _ => false
      | _, _ => false

end Validate

section Publish

def Publishable (state : Nat) : Prop := state = stateConfigured ∨ state = stateStopped

instance (state : Nat) : Decidable (Publishable state) := inferInstanceAs (Decidable (_ ∨ _))

def writeRuleBank (session : SharedSession) (index : Nat) (bank : BankImage) : SharedSession :=
  { session with ruleBanks := Function.update session.ruleBanks index bank }

def publishSharedConfig (config : HookselfConfig) (backing : VirtualBacking)
    (session : SharedSession) : HookselfResult × SharedSession :=
  if hookselfValidateConfig (some config) ≠ .ok then (hookselfValidateConfig (some config), session)
  else if ¬validateSharedSession session then (.internal, session)
  else if ¬Publishable session.control.tracerState then (.invalidState, session)
  else if session.control.activeRuleBank > 1 ∨ session.control.publishedGeneration = uint64Max then
    (.internal, session)
  else
    let nextBank := 1 - session.control.activeRuleBank
    let generation := session.control.publishedGeneration + 1
    match getSharedRuleBank session nextBank with
    | none => (.capacity, session)
    | some _ =>
      match serializeInto config generation (session.header.ruleBanks nextBank).size backing with
      | (false, bank) => (.capacity, writeRuleBank session nextBank bank)
      | (true, bank) =>
        (.ok, { writeRuleBank session nextBank bank with
          control := { session.control with
            configFlags := config.flags
            failureMode := config.failureMode
            logLevel := config.logLevel
            backend := config.backend
            publishedGeneration := generation
            activeRuleBank := nextBank } })

end Publish

section Create

/-- What the system answers while a session is created; an `Except.error` carries `errno`. -/
structure SessionHost where
  pageValue : Int
  memfdCreate : Except Int Nat
  identityCaptured : Bool
  ftruncate : Except Int Unit
  mmapPrefix : Except Int Nat
  mmapScratch : Except Int Nat

inductive CreateError
  | result (code : HookselfResult)
  | errno (error : Int)

structure SessionTarget where
  pid : Int
  bootstrapTid : Int
  startTime : Nat
  nonce : Nat

structure SessionRegions where
  control : SharedRegion
  eventRing : SharedRegion
  bank0 : SharedRegion
  bank1 : SharedRegion
  prefixSize : Nat

def sessionRegions (pageSize eventCapacity : Nat) : SessionRegions :=
  let control : SharedRegion := ⟨pageSize, pageSize⟩
  let offset := alignUp (pageSize + pageSize) pageSize
  let eventRing : SharedRegion := ⟨offset, alignUp (eventRingBytes eventCapacity) pageSize⟩
  let offset := alignUp (offset + eventRing.size) pageSize
  let bank0 : SharedRegion := ⟨offset, sharedRuleBankBytes⟩
  let offset := offset + sharedRuleBankBytes
  let bank1 : SharedRegion := ⟨offset, sharedRuleBankBytes⟩
  ⟨control, eventRing, bank0, bank1, alignUp (offset + sharedRuleBankBytes) pageSize⟩

def initialControl (config : HookselfConfig) : SharedControlPage where
  tracerState := stateConfigured
  activeRuleBank := 0
  publishedGeneration := 1
  configFlags := config.flags
  failureMode := config.failureMode
  logLevel := config.logLevel
  backend := config.backend
  protectedFdCount := 0
  protectedFdRegistryGeneration := 1
  teardownBypassTid := 0
  teardownBypassFd := 0
  teardownBypassActive := 0
  teardownFrozen := 0
  teardownRelease := 0
  runtimeApiBypassTids := fun _ => 0
  fdOperationState := 0
  selectiveInstallState := 0
  filterCommitted := 0
  policyEnabled := 0

def openSessionMemory (host : SessionHost) : Except CreateError (Nat × Nat × Nat) := do
  let fd ← host.memfdCreate.mapError .errno
  if ¬host.identityCaptured then throw (.result .internal)
  host.ftruncate.mapError .errno
  let prefixMapping ← host.mmapPrefix.mapError .errno
  let scratchMapping ← host.mmapScratch.mapError .errno
  return (fd, prefixMapping, scratchMapping)

def initialHeader (target : SessionTarget) (pageSize scratchMapping : Nat) (regions : SessionRegions) :
    SharedHeader where
  magic := kSharedMagic
  abiVersion := kSharedAbiVersion
  headerSize := sizeofSharedHeader
  arch := kSharedArchArm64
  pageSize := pageSize
  totalSize := regions.prefixSize + sharedScratchBytes
  targetPid := target.pid
  bootstrapTid := target.bootstrapTid
  nonce := target.nonce
  targetStartTime := target.startTime
  traceeScratchAddress := scratchMapping
  control := regions.control
  eventRing := regions.eventRing
  ruleBanks := fun index => if index = 0 then regions.bank0 else regions.bank1
  scratch := ⟨regions.prefixSize, sharedScratchBytes⟩

def createSharedSession (host : SessionHost) (target : SessionTarget) (config : HookselfConfig)
    (backing : VirtualBacking) : Except CreateError SharedSession :=
  let pageSize := host.pageValue.toNat
  let regions := sessionRegions pageSize config.eventCapacity
  if target.pid ≤ 0 ∨ target.bootstrapTid ≤ 0 then .error (.result .invalidArgument)
  else if hookselfValidateConfig (some config) ≠ .ok then
    .error (.result (hookselfValidateConfig (some config)))
  else if host.pageValue ≤ 0 ∨ pageSize &&& (pageSize - 1) ≠ 0 then .error (.result .internal)
  else if regions.prefixSize + sharedScratchBytes > uint32Max then .error (.result .capacity)
  else
    match openSessionMemory host with
    | .error error => .error error
    | .ok (fd, prefixMapping, scratchMapping) =>
      match initializeEventRing regions.eventRing.size config.eventCapacity,
          serializeInto config 1 regions.bank0.size backing with
      | some eventRing, (true, bank) =>
        .ok {
          fd := fd
          fdObjectUnchanged := true
          prefixMapping := prefixMapping
          prefixSize := regions.prefixSize
          traceeScratchMapping := scratchMapping
          scratchSize := sharedScratchBytes
          totalSize := regions.prefixSize + sharedScratchBytes
          header := initialHeader target pageSize scratchMapping regions
          control := initialControl config
          eventRing := eventRing
          ruleBanks := fun index =>
            if index = 0 then bank else initializeBankImage regions.bank1.size }
      | _, _ => .error (.result .capacity)

end Create

end HookSelf.RuleBank
