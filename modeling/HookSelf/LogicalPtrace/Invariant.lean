import HookSelf.LogicalPtrace.Queue
import HookSelf.Collections.KeyedTable

/-! The invariant of the logical ptrace table: distinct keys, no cycle of parents or of tracers,
queues in which an exit comes last, and exact counts.  It implies what the validator checks. -/

namespace HookSelf.LogicalPtrace

open SlotTable LinkChain KeyedTable

def LogicalProcessKey.id (key : LogicalProcessKey) : Int × Nat := (key.tgid, key.generation)

theorem logicalProcessKeysEqual_iff {first second : LogicalProcessKey} :
    logicalProcessKeysEqual first second ↔ first.id = second.id := by
  simp [logicalProcessKeysEqual, LogicalProcessKey.id]

def LogicalTaskKey.processId (task : LogicalTaskKey) : Int × Nat :=
  (logicalProcessKeyForTask task).id

theorem TaskKeyValid.process {task : LogicalTaskKey} (h : TaskKeyValid task) :
    ProcessKeyValid (logicalProcessKeyForTask task) :=
  ⟨h.2.1, rfl, h.2.2.2⟩

section Tables

def LogicalProcessRecord.Used (process : LogicalProcessRecord) : Prop := process.occupied ≠ 0

instance : DecidablePred LogicalProcessRecord.Used :=
  fun process => inferInstanceAs (Decidable (process.occupied ≠ 0))

def LogicalProcessRecord.id (process : LogicalProcessRecord) : Int × Nat := process.key.id

def LogicalProcessRecord.parentId (process : LogicalProcessRecord) : Option (Int × Nat) :=
  if ParentKnown process then some process.parent.id else none

def LogicalPtraceRelation.Used (relation : LogicalPtraceRelation) : Prop := relation.occupied ≠ 0

instance : DecidablePred LogicalPtraceRelation.Used :=
  fun relation => inferInstanceAs (Decidable (relation.occupied ≠ 0))

def LogicalFakeTracemeRecord.Used (fake : LogicalFakeTracemeRecord) : Prop := fake.occupied ≠ 0

instance : DecidablePred LogicalFakeTracemeRecord.Used :=
  fun fake => inferInstanceAs (Decidable (fake.occupied ≠ 0))

def LogicalWaitRecord.Used (wait : LogicalWaitRecord) : Prop := wait.occupied ≠ 0

instance : DecidablePred LogicalWaitRecord.Used :=
  fun wait => inferInstanceAs (Decidable (wait.occupied ≠ 0))

def LogicalWaitRecord.waiter (wait : LogicalWaitRecord) : LogicalTaskKey := wait.request.waiter

def HasProcess (P : Nat → LogicalProcessRecord) (id : Int × Nat) : Prop :=
  Holds kLogicalPtraceProcessCapacity LogicalProcessRecord.Used LogicalProcessRecord.id P id

def parentLink (P : Nat → LogicalProcessRecord) : Int × Nat → Option (Int × Nat) :=
  link kLogicalPtraceProcessCapacity LogicalProcessRecord.Used LogicalProcessRecord.id
    LogicalProcessRecord.parentId P

def tracerLink (R : Nat → LogicalPtraceRelation) : LogicalTaskKey → Option LogicalTaskKey :=
  link kLogicalPtraceRelationCapacity LogicalPtraceRelation.Used LogicalPtraceRelation.tracee
    (fun relation => some relation.tracer) R

end Tables

structure ProcessLive (slot : Nat) (process : LogicalProcessRecord) : Prop where
  slot_eq : process.slot = slot
  occupied : process.occupied = 1
  key : ProcessKeyValid process.key
  group : process.processGroup > 0
  dumpable : DumpableValid process.logicalDumpable
  ptracer : PidIdentityValid process.logicalPtracer
  reserved : process.reserved = 0
  flags : process.flags &&& ~~~kLogicalProcessFlagParentKnown = 0
  parent : ParentKnown process → ProcessKeyValid process.parent
  no_parent : ¬ParentKnown process → process.parent.tgid = 0 ∧ process.parent.generation = 0

structure ProcessPart (P : Nat → LogicalProcessRecord) : Prop where
  ok : ∀ s < kLogicalPtraceProcessCapacity, P s = clearProcessRecord s ∨ ProcessLive s (P s)
  distinct : Distinct kLogicalPtraceProcessCapacity LogicalProcessRecord.Used
    LogicalProcessRecord.id P
  parent : ∀ s < kLogicalPtraceProcessCapacity, (P s).Used → ∀ id ∈ (P s).parentId, HasProcess P id
  grounded : ∀ id, Grounded (parentLink P) id

structure RelationLive (slot : Nat) (relation : LogicalPtraceRelation) : Prop where
  slot_eq : relation.slot = slot
  occupied : relation.occupied = 1
  generation : relation.generation ≠ 0
  tracee : TaskKeyValid relation.tracee
  tracer : TaskKeyValid relation.tracer
  apart : relation.tracee.tgid ≠ relation.tracer.tgid
  attachKind : AttachKindValid relation.attachKind
  state : relationStateValid relation.state = true
  waitClass : WaitClassValid relation.waitClass
  initial : RelationInitialStateValid relation
  options : relation.options &&& ~~~kLogicalPtraceKnownOptionMask = 0
  head : relation.eventHead < kLogicalPtraceEventQueueCapacity
  count : relation.eventCount ≤ kLogicalPtraceEventQueueCapacity
  reserved : relation.reserved = 0
  runs : RelationRuns relation.state → relation.eventCount = 0
  queue : ExitLast relation.queued
  exit_iff : EndsInExit relation.queued ↔ relation.state = .exitZombie

structure RelationPart (P : Nat → LogicalProcessRecord) (R : Nat → LogicalPtraceRelation) :
    Prop where
  ok : ∀ s < kLogicalPtraceRelationCapacity, R s = clearRelationRecord s ∨ RelationLive s (R s)
  distinct : Distinct kLogicalPtraceRelationCapacity LogicalPtraceRelation.Used
    LogicalPtraceRelation.tracee R
  tracee : ∀ s < kLogicalPtraceRelationCapacity, (R s).Used → HasProcess P (R s).tracee.processId
  tracer : ∀ s < kLogicalPtraceRelationCapacity, (R s).Used → HasProcess P (R s).tracer.processId
  grounded : ∀ task, Grounded (tracerLink R) task

/-- Records of tasks: a slot is clear or holds a live record, no two are about one task, and the
process of each is registered. -/
structure TaskPart {ρ : Type} (n : Nat) (used : ρ → Prop) (taskOf : ρ → LogicalTaskKey)
    (clear : Nat → ρ) (Live : Nat → ρ → Prop) (P : Nat → LogicalProcessRecord) (f : Nat → ρ) :
    Prop where
  ok : ∀ s < n, f s = clear s ∨ Live s (f s)
  distinct : Distinct n used taskOf f
  process : ∀ s < n, used (f s) → HasProcess P (taskOf (f s)).processId

structure FakeLive (slot : Nat) (fake : LogicalFakeTracemeRecord) : Prop where
  slot_eq : fake.slot = slot
  occupied : fake.occupied = 1
  task : TaskKeyValid fake.task

abbrev FakePart : (Nat → LogicalProcessRecord) → (Nat → LogicalFakeTracemeRecord) → Prop :=
  TaskPart kLogicalPtraceFakeTracemeCapacity LogicalFakeTracemeRecord.Used
    LogicalFakeTracemeRecord.task clearFakeTracemeRecord FakeLive

structure WaitLive (slot : Nat) (wait : LogicalWaitRecord) : Prop where
  slot_eq : wait.slot = slot
  occupied : wait.occupied = 1
  generation : wait.generation ≠ 0
  request : WaitRequestValid wait.request

abbrev WaitPart : (Nat → LogicalProcessRecord) → (Nat → LogicalWaitRecord) → Prop :=
  TaskPart kLogicalPtraceWaitCapacity LogicalWaitRecord.Used LogicalWaitRecord.waiter
    clearWaitRecord WaitLive

structure Inv (table : LogicalPtraceTable) : Prop where
  initialized : IsLogicalPtraceTableInitialized table
  processes : ProcessPart table.processes
  relations : RelationPart table.processes table.relations
  fakes : FakePart table.processes table.fakeTraceme
  waits : WaitPart table.processes table.waits
  processCount : tally kLogicalPtraceProcessCapacity table.processes (·.Used) = table.processCount
  relationCount : tally kLogicalPtraceRelationCapacity table.relations (·.Used) =
    table.relationCount
  fakeCount : tally kLogicalPtraceFakeTracemeCapacity table.fakeTraceme (·.Used) =
    table.fakeTracemeCount
  waitCount : tally kLogicalPtraceWaitCapacity table.waits (·.Used) = table.waitCount

/-- What is left of the invariant after any calls at all: the relations and waits in use are well
formed.  Nothing is said of who traces whom, since a renaming can close a cycle of tracers. -/
structure Sound (table : LogicalPtraceTable) : Prop where
  initialized : IsLogicalPtraceTableInitialized table
  relations : ∀ s < kLogicalPtraceRelationCapacity,
    table.relations s = clearRelationRecord s ∨ RelationLive s (table.relations s)
  waits : WaitPart table.processes table.waits
  relationCount : tally kLogicalPtraceRelationCapacity table.relations (·.Used) =
    table.relationCount
  waitCount : tally kLogicalPtraceWaitCapacity table.waits (·.Used) = table.waitCount

theorem Inv.sound {table : LogicalPtraceTable} (h : Inv table) : Sound table :=
  ⟨h.initialized, h.relations.ok, h.waits, h.relationCount, h.waitCount⟩

section Records

variable {P P' : Nat → LogicalProcessRecord} {R : Nat → LogicalPtraceRelation} {s : Nat}

theorem ProcessPart.live (h : ProcessPart P) (hs : s < kLogicalPtraceProcessCapacity)
    (hused : (P s).Used) : ProcessLive s (P s) :=
  (h.ok s hs).resolve_left fun hclear => hused (by rw [hclear]; rfl)

theorem RelationPart.live (h : RelationPart P R) (hs : s < kLogicalPtraceRelationCapacity)
    (hused : (R s).Used) : RelationLive s (R s) :=
  (h.ok s hs).resolve_left fun hclear => hused (by rw [hclear]; rfl)

theorem Sound.live {table : LogicalPtraceTable} (h : Sound table)
    (hs : s < kLogicalPtraceRelationCapacity) (hused : (table.relations s).Used) :
    RelationLive s (table.relations s) :=
  (h.relations s hs).resolve_left fun hclear => hused (by rw [hclear]; rfl)

section Tasks

variable {ρ : Type} {n : Nat} {used : ρ → Prop} {taskOf : ρ → LogicalTaskKey} {clear : Nat → ρ}
  {Live : Nat → ρ → Prop} {f : Nat → ρ} {v : ρ}

theorem TaskPart.put (h : TaskPart n used taskOf clear Live P f) (hv : v = clear s ∨ Live s v)
    (hdistinct : Distinct n used taskOf (Function.update f s v))
    (hprocess : used v → HasProcess P (taskOf v).processId) :
    TaskPart n used taskOf clear Live P (Function.update f s v) where
  ok := forall_update (P := fun s v => v = clear s ∨ Live s v) h.ok hv
  distinct := hdistinct
  process := forall_update (P := fun _ v => used v → HasProcess P (taskOf v).processId) h.process
    hprocess

theorem TaskPart.mono (h : TaskPart n used taskOf clear Live P f)
    (hP : ∀ s < n, used (f s) → HasProcess P (taskOf (f s)).processId →
      HasProcess P' (taskOf (f s)).processId) : TaskPart n used taskOf clear Live P' f :=
  { h with process := fun s hs hused => hP s hs hused (h.process s hs hused) }

end Tasks

theorem FakePart.live {F : Nat → LogicalFakeTracemeRecord} (h : FakePart P F)
    (hs : s < kLogicalPtraceFakeTracemeCapacity) (hused : (F s).Used) : FakeLive s (F s) :=
  (h.ok s hs).resolve_left fun hclear => hused (by rw [hclear]; rfl)

theorem WaitPart.live {W : Nat → LogicalWaitRecord} (h : WaitPart P W)
    (hs : s < kLogicalPtraceWaitCapacity) (hused : (W s).Used) : WaitLive s (W s) :=
  (h.ok s hs).resolve_left fun hclear => hused (by rw [hclear]; rfl)

theorem RelationLive.used {relation : LogicalPtraceRelation} (h : RelationLive s relation) :
    relation.Used := by
  rw [LogicalPtraceRelation.Used, h.occupied]
  exact Nat.one_ne_zero

end Records

section Find

variable {table : LogicalPtraceTable} {key : LogicalProcessKey} {task : LogicalTaskKey}

theorem findLogicalProcess_eq (h : IsLogicalPtraceTableInitialized table)
    (hkey : ProcessKeyValid key) :
    findLogicalProcess table key =
      lookup kLogicalPtraceProcessCapacity LogicalProcessRecord.Used LogicalProcessRecord.id
        table.processes key.id := by
  rw [findLogicalProcess, if_neg (by simp [h, hkey])]
  exact firstSlot_congr fun s _ => and_congr_right fun _ => logicalProcessKeysEqual_iff

theorem findLogicalProcess_ne_none (h : IsLogicalPtraceTableInitialized table)
    (hkey : ProcessKeyValid key) :
    findLogicalProcess table key ≠ none ↔ HasProcess table.processes key.id := by
  rw [findLogicalProcess_eq h hkey, Ne, lookup_eq_none, not_not]
  rfl

theorem findLogicalProcess_some {slot : Nat} (h : findLogicalProcess table key = some slot) :
    slot < kLogicalPtraceProcessCapacity ∧ (table.processes slot).Used ∧
      (table.processes slot).id = key.id := by
  rw [findLogicalProcess] at h
  split_ifs at h
  obtain ⟨hlt, hused, hid⟩ := firstSlot_some h
  exact ⟨hlt, hused, logicalProcessKeysEqual_iff.mp hid⟩

theorem hasProcess_of_task (h : IsLogicalPtraceTableInitialized table) (htask : TaskKeyValid task) :
    findLogicalProcess table (logicalProcessKeyForTask task) ≠ none ↔
      HasProcess table.processes task.processId :=
  findLogicalProcess_ne_none h htask.process

/-- A search by task key finds what the keyed lookup finds: a live record's key is valid. -/
theorem lookup_of_valid {ρ : Type} {n : Nat} {live : ρ → Prop} [DecidablePred live]
    (taskOf : ρ → LogicalTaskKey) {f : Nat → ρ} (h : IsLogicalPtraceTableInitialized table)
    (hvalid : ∀ s < n, live (f s) → TaskKeyValid (taskOf (f s))) :
    (if ¬IsLogicalPtraceTableInitialized table ∨ ¬TaskKeyValid task then none
      else firstSlot n fun s => live (f s) ∧ logicalTaskKeysEqual (taskOf (f s)) task) =
      lookup n live taskOf f task := by
  by_cases htask : TaskKeyValid task
  · rw [if_neg (by simp [h, htask])]
    exact firstSlot_congr fun s _ => and_congr_right fun _ => logicalTaskKeysEqual_iff
  · rw [if_pos (.inr htask)]
    symm
    rw [lookup_eq_none]
    rintro ⟨s, hs, hlive, rfl⟩
    exact htask (hvalid s hs hlive)

theorem Sound.findRelation_eq (h : Sound table) :
    findLogicalPtraceRelation table task =
      lookup kLogicalPtraceRelationCapacity LogicalPtraceRelation.Used LogicalPtraceRelation.tracee
        table.relations task :=
  lookup_of_valid _ h.initialized fun _ hs hused => (h.live hs hused).tracee

theorem Inv.findRelation_eq (h : Inv table) :
    findLogicalPtraceRelation table task =
      lookup kLogicalPtraceRelationCapacity LogicalPtraceRelation.Used LogicalPtraceRelation.tracee
        table.relations task :=
  h.sound.findRelation_eq

theorem Inv.findFake_eq (h : Inv table) :
    findFakeTraceme table task =
      lookup kLogicalPtraceFakeTracemeCapacity LogicalFakeTracemeRecord.Used
        LogicalFakeTracemeRecord.task table.fakeTraceme task :=
  lookup_of_valid _ h.initialized fun _ hs hused => (h.fakes.live hs hused).task

theorem Sound.findWait_eq (h : Sound table) :
    findLogicalWait table task =
      lookup kLogicalPtraceWaitCapacity LogicalWaitRecord.Used LogicalWaitRecord.waiter
        table.waits task :=
  lookup_of_valid LogicalWaitRecord.waiter h.initialized fun _ hs hused =>
    (h.waits.live hs hused).request.1.1

theorem Inv.findWait_eq (h : Inv table) :
    findLogicalWait table task =
      lookup kLogicalPtraceWaitCapacity LogicalWaitRecord.Used LogicalWaitRecord.waiter
        table.waits task :=
  h.sound.findWait_eq

end Find

section Chains

variable {table : LogicalPtraceTable}

theorem Inv.ptraceChain_eq_walk (h : Inv table) (expected : LogicalTaskKey) (depth : Nat)
    (current : LogicalTaskKey) :
    ptraceChainFrom table expected depth current =
      walk (tracerLink table.relations) expected depth current := by
  induction depth generalizing current with
  | zero => rfl
  | succ depth ih =>
    simp only [ptraceChainFrom, walk, logicalTaskKeysEqual_iff, tracerLink, link, h.findRelation_eq]
    split_ifs
    · rfl
    · cases lookup kLogicalPtraceRelationCapacity LogicalPtraceRelation.Used
        LogicalPtraceRelation.tracee table.relations current with
      | none => rfl
      | some slot => exact ih _

theorem Inv.parentChain_eq_walk (h : Inv table) (expected : LogicalProcessKey) (depth : Nat)
    {current : LogicalProcessKey} (hcurrent : ProcessKeyValid current) :
    parentChainFrom table expected depth current =
      walk (parentLink table.processes) expected.id depth current.id := by
  induction depth generalizing current with
  | zero => rfl
  | succ depth ih =>
    simp only [parentChainFrom, walk, logicalProcessKeysEqual_iff, parentLink, link,
      findLogicalProcess_eq h.initialized hcurrent]
    split_ifs
    · rfl
    · rcases hslot : lookup kLogicalPtraceProcessCapacity LogicalProcessRecord.Used
        LogicalProcessRecord.id table.processes current.id with _ | slot
      · rfl
      · obtain ⟨hlt, hused, _⟩ := lookup_spec hslot
        simp only [Option.bind_some, LogicalProcessRecord.parentId]
        split_ifs with hknown
        · exact ih ((h.processes.live hlt hused).parent hknown)
        · rfl

/-- A link of a live record is not closed by a path, and the walk has the fuel to see it. -/
theorem walk_of_link {ρ κ : Type} [DecidableEq κ] {n : Nat} {live : ρ → Prop} [DecidablePred live]
    {key : ρ → κ} {next : ρ → Option κ} {f : Nat → ρ} {a b : κ}
    (hgrounded : Grounded (link n live key next f) a) (hlink : link n live key next f a = some b) :
    walk (link n live key next f) a n b = false := by
  obtain ⟨k, hb⟩ := hgrounded.next hlink
  have hle : k + 1 ≤ n := climbs_le (.step hlink hb)
  exact walk_complete hb (by omega) (hgrounded.not_onPath_next hlink)

theorem Inv.ptraceChain_false (h : Inv table) {s : Nat} (hs : s < kLogicalPtraceRelationCapacity)
    (hused : (table.relations s).Used) :
    ptraceChainContains table (table.relations s).tracer (table.relations s).tracee = false := by
  rw [ptraceChainContains, h.ptraceChain_eq_walk]
  exact walk_of_link (h.relations.grounded _) (h.relations.distinct.link_eq hs hused)

theorem Inv.parentLink_eq (h : Inv table) {s : Nat} (hs : s < kLogicalPtraceProcessCapacity)
    (hused : (table.processes s).Used) (hknown : ParentKnown (table.processes s)) :
    parentLink table.processes (table.processes s).key.id =
      some (table.processes s).parent.id := by
  refine (h.processes.distinct.link_eq hs hused).trans ?_
  rw [LogicalProcessRecord.parentId, if_pos hknown]

end Chains

section Validator

variable {table : LogicalPtraceTable} {s : Nat}

theorem not_same_task {ρ : Type} {n : Nat} {used : ρ → Prop} {taskOf : ρ → LogicalTaskKey}
    {f : Nat → ρ} (h : Distinct n used taskOf f) (hs : s < n) (hused : used (f s)) :
    ∀ other < n, s < other → used (f other) →
      ¬logicalTaskKeysEqual (taskOf (f s)) (taskOf (f other)) := by
  intro other hother hlt hused' heq
  have := h s hs other hother hused hused' (logicalTaskKeysEqual_iff.mp heq)
  omega

theorem Inv.processRecordValid (h : Inv table) (hs : s < kLogicalPtraceProcessCapacity) :
    ProcessRecordValid table s := by
  rcases h.processes.ok s hs with hclear | hlive
  · simp [ProcessRecordValid, hclear, clearProcessRecord]
  · have hused : (table.processes s).Used := by simp [LogicalProcessRecord.Used, hlive.occupied]
    refine ⟨hlive.slot_eq, hlive.occupied.le, ?_⟩
    rw [if_neg hused]
    refine ⟨⟨hlive.key, hlive.group, hlive.dumpable, hlive.ptracer, hlive.reserved, hlive.flags⟩,
      ?_, fun other hother hlt hused' heq => ?_⟩
    · split_ifs with hknown
      · have hlink := h.parentLink_eq hs hused hknown
        have hvalid := hlive.parent hknown
        refine ⟨hvalid, fun heq => ?_, ?_, ?_⟩
        · rw [← logicalProcessKeysEqual_iff.mp heq] at hlink
          exact (h.processes.grounded _).not_onPath_next hlink .here
        · refine (findLogicalProcess_ne_none h.initialized hvalid).mpr ?_
          exact h.processes.parent s hs hused _ (by simp [LogicalProcessRecord.parentId, hknown])
        · rw [parentChainContains, h.parentChain_eq_walk _ _ hvalid]
          exact walk_of_link (h.processes.grounded _) hlink
      · exact hlive.no_parent hknown
    · have := h.processes.distinct s hs other hother hused hused' (logicalProcessKeysEqual_iff.mp heq)
      omega

theorem Inv.relationRecordValid (h : Inv table) (hs : s < kLogicalPtraceRelationCapacity) :
    RelationRecordValid table s := by
  rcases h.relations.ok s hs with hclear | hlive
  · simp [RelationRecordValid, hclear, clearRelationRecord]
  · have hused := hlive.used
    refine ⟨hlive.slot_eq, hlive.occupied.le, ?_⟩
    rw [if_neg hused]
    refine ⟨⟨hlive.generation, hlive.tracee, hlive.tracer, hlive.apart, hlive.attachKind,
      hlive.state, hlive.waitClass, hlive.initial, h.ptraceChain_false hs hused, hlive.options,
      hlive.head, hlive.count, hlive.reserved,
      (hasProcess_of_task h.initialized hlive.tracee).mpr (h.relations.tracee s hs hused),
      (hasProcess_of_task h.initialized hlive.tracer).mpr (h.relations.tracer s hs hused)⟩,
      fun hruns => hruns.2 (hlive.runs hruns.1), fun hzombie => ?_, ?_,
      not_same_task h.relations.distinct hs hused⟩
    · have hend := hlive.exit_iff.mpr hzombie.1
      rw [queued_eq_nil.mpr hzombie.2] at hend
      simp [EndsInExit] at hend
    · rw [scanEvents_iff, decide_eq_true_eq]
      exact ⟨hlive.queue, hlive.exit_iff⟩

theorem Inv.fakeRecordValid (h : Inv table) (hs : s < kLogicalPtraceFakeTracemeCapacity) :
    FakeTracemeRecordValid table s := by
  rcases h.fakes.ok s hs with hclear | hlive
  · simp [FakeTracemeRecordValid, hclear, clearFakeTracemeRecord]
  · have hused : (table.fakeTraceme s).Used := by
      simp [LogicalFakeTracemeRecord.Used, hlive.occupied]
    refine ⟨hlive.slot_eq, hlive.occupied.le, ?_⟩
    rw [if_neg hused]
    exact ⟨⟨hlive.task, (hasProcess_of_task h.initialized hlive.task).mpr
      (h.fakes.process s hs hused)⟩, not_same_task h.fakes.distinct hs hused⟩

theorem Inv.waitRecordValid (h : Inv table) (hs : s < kLogicalPtraceWaitCapacity) :
    WaitRecordValid table s := by
  rcases h.waits.ok s hs with hclear | hlive
  · simp [WaitRecordValid, hclear, clearWaitRecord]
  · have hused : (table.waits s).Used := by simp [LogicalWaitRecord.Used, hlive.occupied]
    refine ⟨hlive.slot_eq, hlive.occupied.le, ?_⟩
    rw [if_neg hused]
    exact ⟨⟨hlive.generation, hlive.request, (hasProcess_of_task h.initialized
      hlive.request.1.1).mpr (h.waits.process s hs hused)⟩,
      not_same_task h.waits.distinct hs hused⟩

theorem Inv.validate (h : Inv table) : ValidateLogicalPtraceTable table :=
  ⟨h.initialized, fun _ hs => h.processRecordValid hs, fun _ hs => h.relationRecordValid hs,
    fun _ hs => h.fakeRecordValid hs, fun _ hs => h.waitRecordValid hs, h.processCount,
    h.relationCount, h.fakeCount, h.waitCount⟩

end Validator

theorem Inv.init : Inv initLogicalPtraceTable := by
  have hP : ∀ id, parentLink clearProcessRecord id = none := fun _ =>
    link_eq_none fun ⟨_, _, hused, _⟩ => hused rfl
  have hR : ∀ task, tracerLink clearRelationRecord task = none := fun _ =>
    link_eq_none fun ⟨_, _, hused, _⟩ => hused rfl
  exact
    { initialized := by
        refine ⟨rfl, rfl, Nat.zero_le _, Nat.zero_le _, Nat.zero_le _, Nat.zero_le _, ?_⟩
        simp [initLogicalPtraceTable, kLogicalPtraceProcessCapacity, kLogicalPtraceRelationCapacity,
          kLogicalPtraceFakeTracemeCapacity, kLogicalPtraceWaitCapacity]
      processes :=
        { ok := fun _ _ => .inl rfl
          distinct := fun _ _ _ _ hused => absurd rfl hused
          parent := fun _ _ hused => absurd rfl hused
          grounded := fun id => ⟨0, .stop (hP id)⟩ }
      relations :=
        { ok := fun _ _ => .inl rfl
          distinct := fun _ _ _ _ hused => absurd rfl hused
          tracee := fun _ _ hused => absurd rfl hused
          tracer := fun _ _ hused => absurd rfl hused
          grounded := fun task => ⟨0, .stop (hR task)⟩ }
      fakes :=
        { ok := fun _ _ => .inl rfl
          distinct := fun _ _ _ _ hused => absurd rfl hused
          process := fun _ _ hused => absurd rfl hused }
      waits :=
        { ok := fun _ _ => .inl rfl
          distinct := fun _ _ _ _ hused => absurd rfl hused
          process := fun _ _ hused => absurd rfl hused }
      processCount := tally_eq_zero.mpr fun _ _ hused => hused rfl
      relationCount := tally_eq_zero.mpr fun _ _ hused => hused rfl
      fakeCount := tally_eq_zero.mpr fun _ _ hused => hused rfl
      waitCount := tally_eq_zero.mpr fun _ _ hused => hused rfl }

end HookSelf.LogicalPtrace
