import HookSelf.LogicalPtrace.Validate
import HookSelf.PtraceDispatch.Host

/-! The dispatcher: the ptrace and wait calls in flight, and for each relation the stop that was
delivered last and the stops that are pending. -/

namespace HookSelf.PtraceDispatch

open SlotTable LogicalPtrace

@[irreducible] def kLogicalPtraceDispatchCapacity : Nat := 512

def kLogicalPtraceDispatchMagic : Nat := 0x48534c44
def kLogicalPtraceDispatchVersion : Nat := 1
def kLogicalPtraceDispatchInvalidSlot : Nat := 4294967295

def kLogicalPtraceStopCurrentValid : BitVec 32 := 1
def kLogicalPtraceStopInterruptPending : BitVec 32 := 2
def kLogicalPtraceStopAttachPending : BitVec 32 := 4

def kLogicalPtraceStopFlagMask : BitVec 32 :=
  kLogicalPtraceStopCurrentValid ||| kLogicalPtraceStopInterruptPending |||
    kLogicalPtraceStopAttachPending

inductive LogicalPtraceOperationState
  | immediate
  | heldWait
  | heldReady
  | other (value : Nat)
  deriving DecidableEq

structure LogicalPtraceDispatchOperation where
  occupied : Nat := 0
  slot : Nat
  generation : Nat := 0
  caller : LogicalTaskKey := {}
  syscallNumber : Int := 0
  state : LogicalPtraceOperationState := .other 0
  visibleResult : Int := 0

structure LogicalPtraceDispatchStop where
  flags : BitVec 32 := 0
  relationSlot : Nat
  relationGeneration : Nat := 0
  tracee : LogicalTaskKey := {}
  current : LogicalPtraceEvent := emptyEvent

def clearOperation (slot : Nat) : LogicalPtraceDispatchOperation := { slot }
def clearStop (slot : Nat) : LogicalPtraceDispatchStop := { relationSlot := slot }

structure LogicalPtraceDispatcher where
  magic : Nat := kLogicalPtraceDispatchMagic
  version : Nat := kLogicalPtraceDispatchVersion
  operationCount : Nat := 0
  operationFreeHint : Nat := 0
  mutationGeneration : Nat := 0
  nextOperationGeneration : Nat := 1
  operations : Nat → LogicalPtraceDispatchOperation := clearOperation
  stops : Nat → LogicalPtraceDispatchStop := clearStop

def initLogicalPtraceDispatcher : LogicalPtraceDispatcher := {}

def IsLogicalPtraceDispatcherInitialized (dispatcher : LogicalPtraceDispatcher) : Prop :=
  dispatcher.magic = kLogicalPtraceDispatchMagic ∧
    dispatcher.version = kLogicalPtraceDispatchVersion ∧
    dispatcher.operationCount ≤ kLogicalPtraceDispatchCapacity ∧
    dispatcher.operationFreeHint < kLogicalPtraceDispatchCapacity ∧
    dispatcher.nextOperationGeneration ≠ 0

instance (dispatcher : LogicalPtraceDispatcher) :
    Decidable (IsLogicalPtraceDispatcherInitialized dispatcher) :=
  inferInstanceAs (Decidable (_ ∧ _))

def noteDispatch (dispatcher : LogicalPtraceDispatcher) : LogicalPtraceDispatcher :=
  { dispatcher with mutationGeneration := (dispatcher.mutationGeneration + 1) % uint64Size }

def modifyOperation (dispatcher : LogicalPtraceDispatcher) (slot : Nat)
    (f : LogicalPtraceDispatchOperation → LogicalPtraceDispatchOperation) :
    LogicalPtraceDispatcher :=
  { dispatcher with
    operations := Function.update dispatcher.operations slot (f (dispatcher.operations slot)) }

def modifyStop (dispatcher : LogicalPtraceDispatcher) (slot : Nat)
    (f : LogicalPtraceDispatchStop → LogicalPtraceDispatchStop) : LogicalPtraceDispatcher :=
  { dispatcher with stops := Function.update dispatcher.stops slot (f (dispatcher.stops slot)) }

section Operations

def findOperation (dispatcher : LogicalPtraceDispatcher) (caller : LogicalTaskKey) : Option Nat :=
  if ¬IsLogicalPtraceDispatcherInitialized dispatcher then none
  else
    firstSlot kLogicalPtraceDispatchCapacity fun slot =>
      (dispatcher.operations slot).occupied ≠ 0 ∧
        logicalTaskKeysEqual (dispatcher.operations slot).caller caller

def insertOperation (dispatcher : LogicalPtraceDispatcher) (caller : LogicalTaskKey)
    (syscallNumber : Int) (state : LogicalPtraceOperationState) (result : Int) :
    LogicalPtraceDispatcher × Except Nat Nat :=
  if findOperation dispatcher caller ≠ none then (dispatcher, .error (errorNumber .ebusy))
  else if dispatcher.operationCount = kLogicalPtraceDispatchCapacity then
    (dispatcher, .error (errorNumber .enospc))
  else
    match slotFrom kLogicalPtraceDispatchCapacity dispatcher.operationFreeHint
        fun slot => (dispatcher.operations slot).occupied = 0 with
    | none => (dispatcher, .error (errorNumber .enospc))
    | some slot =>
      (noteDispatch
        { modifyOperation dispatcher slot fun _ =>
            { occupied := 1, slot, caller, syscallNumber, state, visibleResult := result
              generation := (allocateSequence dispatcher.nextOperationGeneration).1 } with
          nextOperationGeneration := (allocateSequence dispatcher.nextOperationGeneration).2
          operationCount := dispatcher.operationCount + 1
          operationFreeHint := advanceHint slot kLogicalPtraceDispatchCapacity }, .ok slot)

def eraseOperation (dispatcher : LogicalPtraceDispatcher) (slot : Nat) : LogicalPtraceDispatcher :=
  noteDispatch
    { modifyOperation dispatcher slot fun _ => clearOperation slot with
      operationCount := decrementCount dispatcher.operationCount
      operationFreeHint := slot }

end Operations

section Stops

/-- `EnsureStopRecord`: the dispatcher whose stop record is that of the relation, unless the slot of
the relation is out of range. -/
def ensureStopRecord (dispatcher : LogicalPtraceDispatcher) (relation : LogicalPtraceRelation) :
    Option LogicalPtraceDispatcher :=
  if relation.slot ≥ kLogicalPtraceDispatchCapacity then none
  else
    let stop := dispatcher.stops relation.slot
    if stop.relationGeneration ≠ relation.generation ∨
        ¬logicalTaskKeysEqual stop.tracee relation.tracee then
      some (modifyStop dispatcher relation.slot fun _ =>
        { clearStop relation.slot with
          relationGeneration := relation.generation, tracee := relation.tracee })
    else some dispatcher

def CurrentValid (stop : LogicalPtraceDispatchStop) : Prop :=
  stop.flags &&& kLogicalPtraceStopCurrentValid ≠ 0

instance (stop : LogicalPtraceDispatchStop) : Decidable (CurrentValid stop) :=
  inferInstanceAs (Decidable (_ ≠ _))

def InterruptPending (stop : LogicalPtraceDispatchStop) : Prop :=
  stop.flags &&& kLogicalPtraceStopInterruptPending ≠ 0

instance (stop : LogicalPtraceDispatchStop) : Decidable (InterruptPending stop) :=
  inferInstanceAs (Decidable (_ ≠ _))

def AttachPending (stop : LogicalPtraceDispatchStop) : Prop :=
  stop.flags &&& kLogicalPtraceStopAttachPending ≠ 0

instance (stop : LogicalPtraceDispatchStop) : Decidable (AttachPending stop) :=
  inferInstanceAs (Decidable (_ ≠ _))

def forgetStop (dispatcher : LogicalPtraceDispatcher) (relationSlot : Nat) :
    LogicalPtraceDispatcher :=
  if relationSlot < kLogicalPtraceDispatchCapacity then
    noteDispatch (modifyStop dispatcher relationSlot fun _ => clearStop relationSlot)
  else dispatcher

def rememberDeliveredStop (dispatcher : LogicalPtraceDispatcher) (relationSlot : Nat)
    (relationGeneration : Nat) (tracee : LogicalTaskKey) (event : LogicalPtraceEvent) :
    LogicalPtraceDispatcher :=
  if relationSlot ≥ kLogicalPtraceDispatchCapacity then dispatcher
  else
    noteDispatch (modifyStop dispatcher relationSlot fun _ =>
      { flags := kLogicalPtraceStopCurrentValid, relationSlot, relationGeneration, tracee
        current := event })

end Stops

section Validator

def OperationStateValid (state : LogicalPtraceOperationState) : Prop :=
  state = .immediate ∨ state = .heldWait ∨ state = .heldReady

/-- `EventSnapshotValid` makes the checks that the logical table makes of a queued event. -/
def EventSnapshotValid (event : LogicalPtraceEvent) : Prop :=
  event.sequence ≠ 0 ∧ eventKindValid event.kind ∧
    event.flags &&& ~~~kLogicalPtraceEventFlagMask = 0 ∧
    event.signalNumber ≥ 0 ∧ event.signalNumber < nsig ∧ event.reserved = 0 ∧
    (event.flags &&& kLogicalPtraceEventFlagSyscallNumberValid ≠ 0 ∨
      event.guestSyscallNumber = -1)

def OperationRecordValid (dispatcher : LogicalPtraceDispatcher) (logical : LogicalPtraceTable)
    (slot : Nat) : Prop :=
  let operation := dispatcher.operations slot
  operation.slot = slot ∧ operation.occupied ≤ 1 ∧
    if operation.occupied = 0 then operation.generation = 0 ∧ operation.caller.tid = 0
    else
      (operation.generation ≠ 0 ∧ TaskKeyValid operation.caller ∧ operation.syscallNumber ≥ 0 ∧
        OperationStateValid operation.state ∧
        findLogicalProcess logical (logicalProcessKeyForTask operation.caller) ≠ none) ∧
      (operation.state = .heldWait ↔ findLogicalWait logical operation.caller ≠ none) ∧
      ∀ other < kLogicalPtraceDispatchCapacity, slot < other →
        (dispatcher.operations other).occupied ≠ 0 →
        ¬logicalTaskKeysEqual operation.caller (dispatcher.operations other).caller

def StopOfRelationValid (stop : LogicalPtraceDispatchStop) (relation : LogicalPtraceRelation) :
    Prop :=
  (relation.generation = stop.relationGeneration ∧
      logicalTaskKeysEqual relation.tracee stop.tracee) ∧
    (CurrentValid stop → EventSnapshotValid stop.current ∧ relation.state = .stopped) ∧
    (¬CurrentValid stop → stop.current.sequence = 0) ∧
    (CurrentValid stop → relation.eventCount ≠ 0 →
      relation.eventCount = 1 ∧ relation.headEvent.sequence = stop.current.sequence) ∧
    (AttachPending stop → relation.attachKind = .attach ∧ relation.state = .attachPending) ∧
    (InterruptPending stop → relation.attachKind = .seize ∧ relation.state ≠ .stopped ∧
      relation.state ≠ .exitZombie)

def StopRecordValid (dispatcher : LogicalPtraceDispatcher) (logical : LogicalPtraceTable)
    (slot : Nat) : Prop :=
  let stop := dispatcher.stops slot
  (stop.relationSlot = slot ∧ stop.flags &&& ~~~kLogicalPtraceStopFlagMask = 0 ∧
      ¬(CurrentValid stop ∧ stop.flags &&& (kLogicalPtraceStopInterruptPending |||
        kLogicalPtraceStopAttachPending) ≠ 0)) ∧
    if stop.relationGeneration = 0 then
      stop.flags = 0 ∧ stop.tracee.tid = 0 ∧ stop.current.sequence = 0
    else
      ∃ relation ∈ logicalPtraceRelationAt logical slot,
        StopOfRelationValid stop (logical.relations relation)

def ValidateLogicalPtraceDispatcher (dispatcher : LogicalPtraceDispatcher)
    (logical : LogicalPtraceTable) : Prop :=
  IsLogicalPtraceDispatcherInitialized dispatcher ∧ ValidateLogicalPtraceTable logical ∧
    (∀ slot < kLogicalPtraceDispatchCapacity, OperationRecordValid dispatcher logical slot) ∧
    (∀ slot < kLogicalPtraceDispatchCapacity, StopRecordValid dispatcher logical slot) ∧
    tally kLogicalPtraceDispatchCapacity dispatcher.operations (·.occupied ≠ 0) =
      dispatcher.operationCount

end Validator

end HookSelf.PtraceDispatch
