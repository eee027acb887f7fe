import HookSelf.LogicalPtrace.Writes
import HookSelf.PtraceDispatch.Calls

/-! The invariant of the dispatcher: a wait is registered exactly for the callers of the held
operations, and a stop record in use is about the relation of its slot and in one of four phases.
It implies what the validator checks. -/

namespace HookSelf.PtraceDispatch

open SlotTable KeyedTable LogicalPtrace

theorem kLogicalPtraceDispatchCapacity_eq :
    kLogicalPtraceDispatchCapacity = kLogicalPtraceRelationCapacity := by
  rw [kLogicalPtraceDispatchCapacity, kLogicalPtraceRelationCapacity]

section Operations

def LogicalPtraceDispatchOperation.Used (operation : LogicalPtraceDispatchOperation) : Prop :=
  operation.occupied ≠ 0

instance : DecidablePred LogicalPtraceDispatchOperation.Used :=
  fun operation => inferInstanceAs (Decidable (operation.occupied ≠ 0))

def LogicalPtraceDispatchOperation.Held (operation : LogicalPtraceDispatchOperation) : Prop :=
  operation.Used ∧ operation.state = .heldWait

def Held (O : Nat → LogicalPtraceDispatchOperation) (task : LogicalTaskKey) : Prop :=
  Holds kLogicalPtraceDispatchCapacity LogicalPtraceDispatchOperation.Held
    LogicalPtraceDispatchOperation.caller O task

def Waiting (W : Nat → LogicalWaitRecord) (task : LogicalTaskKey) : Prop :=
  Holds kLogicalPtraceWaitCapacity LogicalWaitRecord.Used LogicalWaitRecord.waiter W task

structure OperationLive (slot : Nat) (operation : LogicalPtraceDispatchOperation) : Prop where
  slot_eq : operation.slot = slot
  occupied : operation.occupied = 1
  generation : operation.generation ≠ 0
  caller : TaskKeyValid operation.caller
  syscallNumber : operation.syscallNumber ≥ 0
  state : OperationStateValid operation.state

/-- The operations in flight, given the processes and the tasks that wait. -/
structure OperationsInv (dispatcher : LogicalPtraceDispatcher) (P : Nat → LogicalProcessRecord)
    (waiting : LogicalTaskKey → Prop) : Prop extends
    TaskPart kLogicalPtraceDispatchCapacity LogicalPtraceDispatchOperation.Used
      LogicalPtraceDispatchOperation.caller clearOperation OperationLive P dispatcher.operations where
  initialized : IsLogicalPtraceDispatcherInitialized dispatcher
  held : ∀ task, waiting task ↔ Held dispatcher.operations task
  count : tally kLogicalPtraceDispatchCapacity dispatcher.operations (·.Used) =
    dispatcher.operationCount

end Operations

section Stops

inductive StopPhase (stop : LogicalPtraceDispatchStop) (relation : LogicalPtraceRelation) : Prop
  | idle (hflags : stop.flags = 0) (hnone : stop.current.sequence = 0)
  | current (hflags : stop.flags = kLogicalPtraceStopCurrentValid)
      (hevent : EventValid stop.current) (hstate : relation.state = .stopped)
      (hqueue : relation.eventCount ≠ 0 →
        relation.eventCount = 1 ∧ relation.headEvent.sequence = stop.current.sequence)
  | attach (hflags : stop.flags = kLogicalPtraceStopAttachPending)
      (hnone : stop.current.sequence = 0) (hkind : relation.attachKind = .attach)
      (hstate : relation.state = .attachPending)
  | interrupt (hflags : stop.flags = kLogicalPtraceStopInterruptPending)
      (hnone : stop.current.sequence = 0) (hkind : relation.attachKind = .seize)
      (hstate : relation.state ≠ .stopped ∧ relation.state ≠ .exitZombie)

structure StopLive (slot : Nat) (stop : LogicalPtraceDispatchStop)
    (relation : LogicalPtraceRelation) : Prop where
  slot_eq : stop.relationSlot = slot
  used : relation.Used
  generation : stop.relationGeneration = relation.generation
  tracee : stop.tracee = relation.tracee
  phase : StopPhase stop relation

/-- A stop record is clear or about the relation of its slot. -/
def StopOk (slot : Nat) (stop : LogicalPtraceDispatchStop) (relation : LogicalPtraceRelation) :
    Prop :=
  stop = clearStop slot ∨ StopLive slot stop relation

def StopPart (R : Nat → LogicalPtraceRelation) (T : Nat → LogicalPtraceDispatchStop) : Prop :=
  ∀ s < kLogicalPtraceRelationCapacity, StopOk s (T s) (R s)

variable {R : Nat → LogicalPtraceRelation} {T : Nat → LogicalPtraceDispatchStop} {s : Nat}
  {v : LogicalPtraceRelation} {t : LogicalPtraceDispatchStop}

theorem StopPart.update (h : StopPart R T) (hnew : StopOk s t v) :
    StopPart (Function.update R s v) (Function.update T s t) := by
  intro a ha
  by_cases has : a = s
  · subst has
    simpa using hnew
  · simpa [has] using h a ha

theorem StopPart.updateRelation (h : StopPart R T) (hnew : StopOk s (T s) v) :
    StopPart (Function.update R s v) T := by
  simpa using h.update hnew

theorem StopPart.updateStop (h : StopPart R T) (hnew : StopOk s t (R s)) :
    StopPart R (Function.update T s t) := by
  simpa using h.update hnew

theorem StopOk.of_unused (h : StopOk s t v) (hunused : ¬v.Used) : t = clearStop s :=
  h.resolve_right fun hlive => hunused hlive.used

end Stops

structure DispatchInv (dispatcher : LogicalPtraceDispatcher) (logical : LogicalPtraceTable) :
    Prop where
  table : Inv logical
  operations : OperationsInv dispatcher logical.processes (Waiting logical.waits)
  stops : StopPart logical.relations dispatcher.stops

section Find

variable {dispatcher : LogicalPtraceDispatcher} {logical : LogicalPtraceTable}
  {P : Nat → LogicalProcessRecord} {waiting : LogicalTaskKey → Prop} {task : LogicalTaskKey}
  {s : Nat}

theorem OperationsInv.live (h : OperationsInv dispatcher P waiting)
    (hs : s < kLogicalPtraceDispatchCapacity) (hused : (dispatcher.operations s).Used) :
    OperationLive s (dispatcher.operations s) :=
  (h.ok s hs).resolve_left fun hclear => hused (by rw [hclear]; rfl)

theorem OperationsInv.findOperation_eq (h : OperationsInv dispatcher P waiting) :
    findOperation dispatcher task =
      lookup kLogicalPtraceDispatchCapacity LogicalPtraceDispatchOperation.Used
        LogicalPtraceDispatchOperation.caller dispatcher.operations task := by
  rw [findOperation, if_neg (not_not.mpr h.initialized)]
  exact firstSlot_congr fun s _ => and_congr_right fun _ => logicalTaskKeysEqual_iff

theorem OperationsInv.waiting_iff (h : OperationsInv dispatcher P waiting)
    (hs : s < kLogicalPtraceDispatchCapacity) (hused : (dispatcher.operations s).Used) :
    waiting (dispatcher.operations s).caller ↔ (dispatcher.operations s).state = .heldWait := by
  rw [h.held]
  constructor
  · rintro ⟨a, ha, ⟨haused, hstate⟩, hcaller⟩
    rwa [← h.distinct a ha s hs haused hused hcaller]
  · exact fun hstate => ⟨s, hs, ⟨hused, hstate⟩, rfl⟩

theorem OperationsInv.not_waiting (h : OperationsInv dispatcher P waiting)
    (hnone : findOperation dispatcher task = none) : ¬waiting task := by
  rw [h.findOperation_eq, lookup_eq_none] at hnone
  rw [h.held]
  exact fun ⟨a, ha, ⟨hused, _⟩, hcaller⟩ => hnone ⟨a, ha, hused, hcaller⟩

theorem waiting_iff_findWait (h : Sound logical) :
    Waiting logical.waits task ↔ findLogicalWait logical task ≠ none := by
  rw [h.findWait_eq, Ne, lookup_eq_none, not_not]
  rfl

theorem relationAt_eq (h : Sound logical) (hs : s < kLogicalPtraceRelationCapacity)
    (hused : (logical.relations s).Used) : logicalPtraceRelationAt logical s = some s := by
  have hat : ¬(¬IsLogicalPtraceTableInitialized logical ∨ s ≥ kLogicalPtraceRelationCapacity ∨
      (logical.relations s).occupied = 0) := by
    simp only [not_or, not_not]
    exact ⟨h.initialized, not_le.mpr hs, hused⟩
  rw [logicalPtraceRelationAt, if_neg hat]

end Find

section Validator

variable {dispatcher : LogicalPtraceDispatcher} {logical : LogicalPtraceTable} {s : Nat}

theorem eventSnapshotValid_of_valid {event : LogicalPtraceEvent} (h : EventValid event) :
    EventSnapshotValid event := by
  obtain ⟨⟨h1, h2, h3, h4, h5, h6⟩, h7⟩ := h
  exact ⟨h1, h2, h3, h4, h5, h6, by tauto⟩

theorem DispatchInv.operationRecordValid (h : DispatchInv dispatcher logical)
    (hs : s < kLogicalPtraceDispatchCapacity) : OperationRecordValid dispatcher logical s := by
  rcases h.operations.ok s hs with hclear | hlive
  · simp [OperationRecordValid, hclear, clearOperation]
  · have hused : (dispatcher.operations s).Used := by
      simp [LogicalPtraceDispatchOperation.Used, hlive.occupied]
    refine ⟨hlive.slot_eq, hlive.occupied.le, ?_⟩
    rw [if_neg hused]
    refine ⟨⟨hlive.generation, hlive.caller, hlive.syscallNumber, hlive.state,
      (hasProcess_of_task h.table.initialized hlive.caller).mpr
        (h.operations.process s hs hused)⟩, ?_,
      not_same_task h.operations.distinct hs hused⟩
    rw [← waiting_iff_findWait h.table.sound, h.operations.waiting_iff hs hused]

theorem StopPhase.valid {stop : LogicalPtraceDispatchStop} {relation : LogicalPtraceRelation}
    (h : StopPhase stop relation) :
    (stop.flags &&& ~~~kLogicalPtraceStopFlagMask = 0 ∧
        ¬(CurrentValid stop ∧ stop.flags &&& (kLogicalPtraceStopInterruptPending |||
          kLogicalPtraceStopAttachPending) ≠ 0)) ∧
      (CurrentValid stop → EventSnapshotValid stop.current ∧ relation.state = .stopped) ∧
      (¬CurrentValid stop → stop.current.sequence = 0) ∧
      (CurrentValid stop → relation.eventCount ≠ 0 →
        relation.eventCount = 1 ∧ relation.headEvent.sequence = stop.current.sequence) ∧
      (AttachPending stop → relation.attachKind = .attach ∧ relation.state = .attachPending) ∧
      (InterruptPending stop → relation.attachKind = .seize ∧ relation.state ≠ .stopped ∧
        relation.state ≠ .exitZombie) := by
  cases h with
  | idle hflags hnone =>
    simp [CurrentValid, AttachPending, InterruptPending, hflags, hnone]
  | current hflags hevent hstate hqueue =>
    simp only [CurrentValid, AttachPending, InterruptPending, hflags]
    exact ⟨by decide, fun _ => ⟨eventSnapshotValid_of_valid hevent, hstate⟩,
      fun hno => absurd (by decide) hno, fun _ => hqueue, fun hyes => absurd hyes (by decide),
      fun hyes => absurd hyes (by decide)⟩
  | attach hflags hnone hkind hstate =>
    simp only [CurrentValid, AttachPending, InterruptPending, hflags]
    exact ⟨by decide, fun hyes => absurd hyes (by decide), fun _ => hnone,
      fun hyes => absurd hyes (by decide), fun _ => ⟨hkind, hstate⟩,
      fun hyes => absurd hyes (by decide)⟩
  | interrupt hflags hnone hkind hstate =>
    simp only [CurrentValid, AttachPending, InterruptPending, hflags]
    exact ⟨by decide, fun hyes => absurd hyes (by decide), fun _ => hnone,
      fun hyes => absurd hyes (by decide), fun hyes => absurd hyes (by decide),
      fun _ => ⟨hkind, hstate⟩⟩

theorem DispatchInv.stopRecordValid (h : DispatchInv dispatcher logical)
    (hs : s < kLogicalPtraceDispatchCapacity) : StopRecordValid dispatcher logical s := by
  rw [kLogicalPtraceDispatchCapacity_eq] at hs
  rcases h.stops s hs with hclear | hlive
  · simp [StopRecordValid, hclear, clearStop, CurrentValid, emptyEvent]
  · obtain ⟨⟨hmask, hexclusive⟩, hrest⟩ := hlive.phase.valid
    have hgeneration := (h.table.relations.live hs hlive.used).generation
    refine ⟨⟨hlive.slot_eq, hmask, hexclusive⟩, ?_⟩
    rw [if_neg (by rw [hlive.generation]; exact hgeneration)]
    exact ⟨s, relationAt_eq h.table.sound hs hlive.used,
      ⟨hlive.generation.symm, logicalTaskKeysEqual_iff.mpr hlive.tracee.symm⟩, hrest⟩

theorem DispatchInv.validate (h : DispatchInv dispatcher logical) :
    ValidateLogicalPtraceDispatcher dispatcher logical :=
  ⟨h.operations.initialized, h.table.validate, fun _ hs => h.operationRecordValid hs,
    fun _ hs => h.stopRecordValid hs, h.operations.count⟩

end Validator

theorem DispatchInv.init : DispatchInv initLogicalPtraceDispatcher initLogicalPtraceTable where
  table := Inv.init
  operations :=
    { initialized := by
        refine ⟨rfl, rfl, Nat.zero_le _, ?_, Nat.one_ne_zero⟩
        simp [initLogicalPtraceDispatcher, kLogicalPtraceDispatchCapacity]
      ok := fun _ _ => .inl rfl
      distinct := fun _ _ _ _ hused => absurd rfl hused
      process := fun _ _ hused => absurd rfl hused
      held := fun _ => iff_of_false (fun ⟨_, _, hused, _⟩ => hused rfl)
        fun ⟨_, _, ⟨hused, _⟩, _⟩ => hused rfl
      count := tally_eq_zero.mpr fun _ _ hused => hused rfl }
  stops := fun _ _ => .inl rfl

end HookSelf.PtraceDispatch
