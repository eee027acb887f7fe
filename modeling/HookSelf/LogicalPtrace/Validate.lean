import HookSelf.LogicalPtrace.Waits

namespace HookSelf.LogicalPtrace

open SlotTable

def ProcessRecordValid (table : LogicalPtraceTable) (slot : Nat) : Prop :=
  let process := table.processes slot
  process.slot = slot ∧ process.occupied ≤ 1 ∧
    if process.occupied = 0 then process.key.tgid = 0 ∧ process.key.generation = 0
    else
      (ProcessKeyValid process.key ∧ process.processGroup > 0 ∧
        DumpableValid process.logicalDumpable ∧ PidIdentityValid process.logicalPtracer ∧
        process.reserved = 0 ∧ process.flags &&& ~~~kLogicalProcessFlagParentKnown = 0) ∧
      (if ParentKnown process then
        ProcessKeyValid process.parent ∧ ¬logicalProcessKeysEqual process.key process.parent ∧
          findLogicalProcess table process.parent ≠ none ∧
          parentChainContains table process.parent process.key = false
      else process.parent.tgid = 0 ∧ process.parent.generation = 0) ∧
      ∀ other < kLogicalPtraceProcessCapacity, slot < other → (table.processes other).occupied ≠ 0 →
        ¬logicalProcessKeysEqual process.key (table.processes other).key

def RelationInitialStateValid (relation : LogicalPtraceRelation) : Prop :=
  if relation.state = .attachPending then relation.attachKind = .attach
  else if relation.state = .seizeRunning then relation.attachKind = .seize
  else if relation.state = .listening then relation.attachKind = .seize
  else True

instance (relation : LogicalPtraceRelation) : Decidable (RelationInitialStateValid relation) := by
  unfold RelationInitialStateValid
  infer_instance

def RelationRuns (state : LogicalPtraceRelationState) : Prop :=
  state = .attachPending ∨ state = .seizeRunning ∨ state = .runningCont ∨ state = .runningSyscall ∨
    state = .runningSingleStep ∨ state = .listening

instance (state : LogicalPtraceRelationState) : Decidable (RelationRuns state) :=
  inferInstanceAs (Decidable (_ ∨ _))

/-- The loop over the first `index` queued events: `exit_seen` after it, or nothing if an event is
invalid or follows an exit. -/
def scanEvents (relation : LogicalPtraceRelation) : Nat → Option Bool
  | 0 => some false
  | index + 1 =>
    match scanEvents relation index with
    | some false =>
      let event := relation.events (relation.eventSlot index)
      if EventValid event then some (decide (EventIsExit event)) else none
    | _ => none

def RelationRecordValid (table : LogicalPtraceTable) (slot : Nat) : Prop :=
  let relation := table.relations slot
  relation.slot = slot ∧ relation.occupied ≤ 1 ∧
    if relation.occupied = 0 then relation.generation = 0 ∧ relation.eventCount = 0
    else
      (relation.generation ≠ 0 ∧ TaskKeyValid relation.tracee ∧ TaskKeyValid relation.tracer ∧
        relation.tracee.tgid ≠ relation.tracer.tgid ∧ AttachKindValid relation.attachKind ∧
        relationStateValid relation.state ∧ WaitClassValid relation.waitClass ∧
        RelationInitialStateValid relation ∧
        ptraceChainContains table relation.tracer relation.tracee = false ∧
        relation.options &&& ~~~kLogicalPtraceKnownOptionMask = 0 ∧
        relation.eventHead < kLogicalPtraceEventQueueCapacity ∧
        relation.eventCount ≤ kLogicalPtraceEventQueueCapacity ∧ relation.reserved = 0 ∧
        findLogicalProcess table (logicalProcessKeyForTask relation.tracee) ≠ none ∧
        findLogicalProcess table (logicalProcessKeyForTask relation.tracer) ≠ none) ∧
      ¬(RelationRuns relation.state ∧ relation.eventCount ≠ 0) ∧
      ¬(relation.state = .exitZombie ∧ relation.eventCount = 0) ∧
      scanEvents relation relation.eventCount = some (decide (relation.state = .exitZombie)) ∧
      ∀ other < kLogicalPtraceRelationCapacity, slot < other →
        (table.relations other).occupied ≠ 0 →
        ¬logicalTaskKeysEqual relation.tracee (table.relations other).tracee

def FakeTracemeRecordValid (table : LogicalPtraceTable) (slot : Nat) : Prop :=
  let fake := table.fakeTraceme slot
  fake.slot = slot ∧ fake.occupied ≤ 1 ∧
    if fake.occupied = 0 then fake.task.tid = 0 ∧ fake.task.generation = 0
    else
      (TaskKeyValid fake.task ∧
        findLogicalProcess table (logicalProcessKeyForTask fake.task) ≠ none) ∧
      ∀ other < kLogicalPtraceFakeTracemeCapacity, slot < other →
        (table.fakeTraceme other).occupied ≠ 0 →
        ¬logicalTaskKeysEqual fake.task (table.fakeTraceme other).task

def WaitRecordValid (table : LogicalPtraceTable) (slot : Nat) : Prop :=
  let wait := table.waits slot
  wait.slot = slot ∧ wait.occupied ≤ 1 ∧
    if wait.occupied = 0 then wait.generation = 0 ∧ wait.request.waiter.tid = 0
    else
      (wait.generation ≠ 0 ∧ WaitRequestValid wait.request ∧
        findLogicalProcess table (logicalProcessKeyForTask wait.request.waiter) ≠ none) ∧
      ∀ other < kLogicalPtraceWaitCapacity, slot < other → (table.waits other).occupied ≠ 0 →
        ¬logicalTaskKeysEqual wait.request.waiter (table.waits other).request.waiter

def ValidateLogicalPtraceTable (table : LogicalPtraceTable) : Prop :=
  IsLogicalPtraceTableInitialized table ∧
    (∀ slot < kLogicalPtraceProcessCapacity, ProcessRecordValid table slot) ∧
    (∀ slot < kLogicalPtraceRelationCapacity, RelationRecordValid table slot) ∧
    (∀ slot < kLogicalPtraceFakeTracemeCapacity, FakeTracemeRecordValid table slot) ∧
    (∀ slot < kLogicalPtraceWaitCapacity, WaitRecordValid table slot) ∧
    tally kLogicalPtraceProcessCapacity table.processes (·.occupied ≠ 0) = table.processCount ∧
    tally kLogicalPtraceRelationCapacity table.relations (·.occupied ≠ 0) = table.relationCount ∧
    tally kLogicalPtraceFakeTracemeCapacity table.fakeTraceme (·.occupied ≠ 0) =
      table.fakeTracemeCount ∧
    tally kLogicalPtraceWaitCapacity table.waits (·.occupied ≠ 0) = table.waitCount

end HookSelf.LogicalPtrace
