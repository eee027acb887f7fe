import HookSelf.LogicalPtrace.Table

/-! The checks on keys, events and requests, the searches for a record, and the two chain walks. -/

namespace HookSelf.LogicalPtrace

open SlotTable

def ProcessKeyValid (key : LogicalProcessKey) : Prop :=
  key.tgid > 0 ∧ key.reserved = 0 ∧ key.generation ≠ 0

instance (key : LogicalProcessKey) : Decidable (ProcessKeyValid key) :=
  inferInstanceAs (Decidable (_ ∧ _))

def TaskKeyValid (key : LogicalTaskKey) : Prop :=
  key.tid > 0 ∧ key.tgid > 0 ∧ key.generation ≠ 0 ∧ key.processGeneration ≠ 0

instance (key : LogicalTaskKey) : Decidable (TaskKeyValid key) :=
  inferInstanceAs (Decidable (_ ∧ _))

def PidIdentityValid (identity : LogicalPidIdentity) : Prop :=
  ¬(identity.pid < -1 ∨ identity.reserved ≠ 0) ∧ (identity.pid > 0 ∨ identity.startTime = 0)

instance (identity : LogicalPidIdentity) : Decidable (PidIdentityValid identity) :=
  inferInstanceAs (Decidable (_ ∧ _))

def DumpableValid (dumpable : Int) : Prop := dumpable ≥ 0 ∧ dumpable ≤ 2

instance (dumpable : Int) : Decidable (DumpableValid dumpable) :=
  inferInstanceAs (Decidable (_ ∧ _))

def AttachKindValid (kind : LogicalPtraceAttachKind) : Prop :=
  kind = .traceme ∨ kind = .attach ∨ kind = .seize

instance (kind : LogicalPtraceAttachKind) : Decidable (AttachKindValid kind) :=
  inferInstanceAs (Decidable (_ ∨ _))

def relationStateValid : LogicalPtraceRelationState → Bool
  | .other _ => false
  | _ => true

def WaitClassValid (waitClass : LogicalPtraceWaitClass) : Prop :=
  waitClass = .normal ∨ waitClass = .clone

instance (waitClass : LogicalPtraceWaitClass) : Decidable (WaitClassValid waitClass) :=
  inferInstanceAs (Decidable (_ ∨ _))

def ResumeModeValid (mode : LogicalPtraceResumeMode) : Prop :=
  mode = .cont ∨ mode = .syscall ∨ mode = .singleStep

instance (mode : LogicalPtraceResumeMode) : Decidable (ResumeModeValid mode) :=
  inferInstanceAs (Decidable (_ ∨ _))

def eventKindValid : LogicalPtraceEventKind → Bool
  | .other _ => false
  | _ => true

def EventIsExit (event : LogicalPtraceEvent) : Prop :=
  event.kind = .exited ∨ event.kind = .signaled

instance (event : LogicalPtraceEvent) : Decidable (EventIsExit event) :=
  inferInstanceAs (Decidable (_ ∨ _))

def WaitKindValid (kind : LogicalWaitKind) : Prop := kind = .wait4 ∨ kind = .waitId

instance (kind : LogicalWaitKind) : Decidable (WaitKindValid kind) :=
  inferInstanceAs (Decidable (_ ∨ _))

def WaitSelectorValid (kind : LogicalWaitSelectorKind) : Prop :=
  kind = .any ∨ kind = .tid ∨ kind = .processGroup

instance (kind : LogicalWaitSelectorKind) : Decidable (WaitSelectorValid kind) :=
  inferInstanceAs (Decidable (_ ∨ _))

def optionBit (options bit : BitVec 32) : Nat := if options &&& bit ≠ 0 then 1 else 0

def WaitRequestValid (request : LogicalWaitRequest) : Prop :=
  (TaskKeyValid request.waiter ∧ WaitKindValid request.kind ∧
      WaitSelectorValid request.selectorKind ∧ request.nohang ≤ 1 ∧ request.nowait ≤ 1 ∧
      request.reserved = 0 ∧ request.nohang = optionBit request.options kLogicalWaitNoHang ∧
      request.nowait = optionBit request.options kLogicalWaitNowait) ∧
    (if request.selectorKind = .any then request.selectorId = 0 else request.selectorId > 0) ∧
    if request.kind = .wait4 then
      request.options &&& ~~~kWait4OptionMask = 0 ∧ request.nowait = 0 ∧ request.infoAddress = 0
    else
      request.options &&& ~~~kWaitIdOptionMask = 0 ∧
        request.options &&& (kLogicalWaitStopped ||| kLogicalWaitExited ||| kLogicalWaitContinued) ≠
          0 ∧ request.statusAddress = 0

instance (request : LogicalWaitRequest) : Decidable (WaitRequestValid request) := by
  unfold WaitRequestValid
  infer_instance

/-- The checks `QueueLogicalPtraceEvent` makes of an event that has no sequence number yet. -/
def EventQueueable (event : LogicalPtraceEvent) : Prop :=
  event.sequence = 0 ∧ eventKindValid event.kind ∧
    event.flags &&& ~~~kLogicalPtraceEventFlagMask = 0 ∧
    event.signalNumber ≥ 0 ∧ event.signalNumber < nsig ∧ event.reserved = 0

instance (event : LogicalPtraceEvent) : Decidable (EventQueueable event) :=
  inferInstanceAs (Decidable (_ ∧ _))

def EventValid (event : LogicalPtraceEvent) : Prop :=
  (event.sequence ≠ 0 ∧ eventKindValid event.kind ∧
      event.flags &&& ~~~kLogicalPtraceEventFlagMask = 0 ∧
      event.signalNumber ≥ 0 ∧ event.signalNumber < nsig ∧ event.reserved = 0) ∧
    ¬(event.flags &&& kLogicalPtraceEventFlagSyscallNumberValid = 0 ∧
      event.guestSyscallNumber ≠ -1)

instance (event : LogicalPtraceEvent) : Decidable (EventValid event) :=
  inferInstanceAs (Decidable (_ ∧ _))

def IsLogicalPtraceTableInitialized (table : LogicalPtraceTable) : Prop :=
  table.magic = kLogicalPtraceMagic ∧ table.version = kLogicalPtraceVersion ∧
    table.processCount ≤ kLogicalPtraceProcessCapacity ∧
    table.relationCount ≤ kLogicalPtraceRelationCapacity ∧
    table.fakeTracemeCount ≤ kLogicalPtraceFakeTracemeCapacity ∧
    table.waitCount ≤ kLogicalPtraceWaitCapacity ∧
    table.processFreeHint < kLogicalPtraceProcessCapacity ∧
    table.relationFreeHint < kLogicalPtraceRelationCapacity ∧
    table.fakeTracemeFreeHint < kLogicalPtraceFakeTracemeCapacity ∧
    table.waitFreeHint < kLogicalPtraceWaitCapacity ∧
    table.nextRelationGeneration ≠ 0 ∧ table.nextEventSequence ≠ 0 ∧ table.nextWaitGeneration ≠ 0

instance (table : LogicalPtraceTable) : Decidable (IsLogicalPtraceTableInitialized table) :=
  inferInstanceAs (Decidable (_ ∧ _))

def findLogicalProcess (table : LogicalPtraceTable) (key : LogicalProcessKey) : Option Nat :=
  if ¬IsLogicalPtraceTableInitialized table ∨ ¬ProcessKeyValid key then none
  else
    firstSlot kLogicalPtraceProcessCapacity fun slot =>
      (table.processes slot).occupied ≠ 0 ∧ logicalProcessKeysEqual (table.processes slot).key key

def findFakeTraceme (table : LogicalPtraceTable) (task : LogicalTaskKey) : Option Nat :=
  if ¬IsLogicalPtraceTableInitialized table ∨ ¬TaskKeyValid task then none
  else
    firstSlot kLogicalPtraceFakeTracemeCapacity fun slot =>
      (table.fakeTraceme slot).occupied ≠ 0 ∧ logicalTaskKeysEqual (table.fakeTraceme slot).task task

def findLogicalPtraceRelation (table : LogicalPtraceTable) (tracee : LogicalTaskKey) : Option Nat :=
  if ¬IsLogicalPtraceTableInitialized table ∨ ¬TaskKeyValid tracee then none
  else
    firstSlot kLogicalPtraceRelationCapacity fun slot =>
      (table.relations slot).occupied ≠ 0 ∧ logicalTaskKeysEqual (table.relations slot).tracee tracee

def findLogicalWait (table : LogicalPtraceTable) (waiter : LogicalTaskKey) : Option Nat :=
  if ¬IsLogicalPtraceTableInitialized table ∨ ¬TaskKeyValid waiter then none
  else
    firstSlot kLogicalPtraceWaitCapacity fun slot =>
      (table.waits slot).occupied ≠ 0 ∧ logicalTaskKeysEqual (table.waits slot).request.waiter waiter

def logicalPtraceRelationAt (table : LogicalPtraceTable) (slot : Nat) : Option Nat :=
  if ¬IsLogicalPtraceTableInitialized table ∨ slot ≥ kLogicalPtraceRelationCapacity ∨
      (table.relations slot).occupied = 0 then none
  else some slot

def ParentKnown (process : LogicalProcessRecord) : Prop :=
  process.flags &&& kLogicalProcessFlagParentKnown ≠ 0

instance (process : LogicalProcessRecord) : Decidable (ParentKnown process) :=
  inferInstanceAs (Decidable (_ ≠ _))

def ProcessReferenced (table : LogicalPtraceTable) (key : LogicalProcessKey) : Prop :=
  (∃ slot < kLogicalPtraceProcessCapacity, (table.processes slot).occupied ≠ 0 ∧
      ParentKnown (table.processes slot) ∧
      logicalProcessKeysEqual (table.processes slot).parent key) ∨
    (∃ slot < kLogicalPtraceRelationCapacity, (table.relations slot).occupied ≠ 0 ∧
      (logicalProcessKeysEqual (logicalProcessKeyForTask (table.relations slot).tracee) key ∨
        logicalProcessKeysEqual (logicalProcessKeyForTask (table.relations slot).tracer) key)) ∨
    (∃ slot < kLogicalPtraceFakeTracemeCapacity, (table.fakeTraceme slot).occupied ≠ 0 ∧
      logicalProcessKeysEqual (logicalProcessKeyForTask (table.fakeTraceme slot).task) key) ∨
    ∃ slot < kLogicalPtraceWaitCapacity, (table.waits slot).occupied ≠ 0 ∧
      logicalProcessKeysEqual (logicalProcessKeyForTask (table.waits slot).request.waiter) key

instance (table : LogicalPtraceTable) (key : LogicalProcessKey) :
    Decidable (ProcessReferenced table key) := by
  unfold ProcessReferenced
  infer_instance

def parentChainFrom (table : LogicalPtraceTable) (expected : LogicalProcessKey) :
    Nat → LogicalProcessKey → Bool
  | 0, _ => true
  | depth + 1, current =>
    if logicalProcessKeysEqual current expected then true
    else
      match findLogicalProcess table current with
      | none => false
      | some slot =>
        if ParentKnown (table.processes slot) then
          parentChainFrom table expected depth (table.processes slot).parent
        else false

def parentChainContains (table : LogicalPtraceTable) (current expected : LogicalProcessKey) : Bool :=
  parentChainFrom table expected kLogicalPtraceProcessCapacity current

def ptraceChainFrom (table : LogicalPtraceTable) (expected : LogicalTaskKey) :
    Nat → LogicalTaskKey → Bool
  | 0, _ => true
  | depth + 1, current =>
    if logicalTaskKeysEqual current expected then true
    else
      match findLogicalPtraceRelation table current with
      | none => false
      | some slot => ptraceChainFrom table expected depth (table.relations slot).tracer

def ptraceChainContains (table : LogicalPtraceTable) (current expected : LogicalTaskKey) : Bool :=
  ptraceChainFrom table expected kLogicalPtraceRelationCapacity current

def EventMatchesWaitKind (request : LogicalWaitRequest) (event : LogicalPtraceEvent) : Prop :=
  if request.kind = .wait4 then
    event.kind ≠ .continued ∨ request.options &&& kLogicalWaitContinued ≠ 0
  else if EventIsExit event then request.options &&& kLogicalWaitExited ≠ 0
  else if event.kind = .continued then request.options &&& kLogicalWaitContinued ≠ 0
  else request.options &&& kLogicalWaitStopped ≠ 0

instance (request : LogicalWaitRequest) (event : LogicalPtraceEvent) :
    Decidable (EventMatchesWaitKind request event) := by
  unfold EventMatchesWaitKind
  infer_instance

def WaitClassMatches (options : BitVec 32) (waitClass : LogicalPtraceWaitClass) : Prop :=
  options &&& kLogicalWaitAll ≠ 0 ∨ (options &&& kLogicalWaitClone ≠ 0 ↔ waitClass = .clone)

instance (options : BitVec 32) (waitClass : LogicalPtraceWaitClass) :
    Decidable (WaitClassMatches options waitClass) :=
  inferInstanceAs (Decidable (_ ∨ _))

def RelationOwnedByWaiter (relation : LogicalPtraceRelation) (request : LogicalWaitRequest) : Prop :=
  (relation.tracer.tgid = request.waiter.tgid ∧
      relation.tracer.processGeneration = request.waiter.processGeneration) ∧
    (request.options &&& kLogicalWaitNoThread = 0 ∨
      logicalTaskKeysEqual relation.tracer request.waiter)

instance (relation : LogicalPtraceRelation) (request : LogicalWaitRequest) :
    Decidable (RelationOwnedByWaiter relation request) :=
  inferInstanceAs (Decidable (_ ∧ _))

def selectorMatches (table : LogicalPtraceTable) (relation : LogicalPtraceRelation)
    (request : LogicalWaitRequest) : Bool :=
  if request.selectorKind = .any then true
  else if request.selectorKind = .tid then relation.tracee.tid = request.selectorId
  else
    match findLogicalProcess table (logicalProcessKeyForTask relation.tracee) with
    | none => false
    | some slot => (table.processes slot).processGroup = request.selectorId

end HookSelf.LogicalPtrace
