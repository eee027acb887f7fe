import HookSelf.LogicalPtrace.Checks

namespace HookSelf.LogicalPtrace

open SlotTable

def allocateSequence (next : Nat) : Nat × Nat :=
  let value := if next = 0 then 1 else next
  let following := (value + 1) % uint64Size
  (value, if following = 0 then 1 else following)

def decrementCount (count : Nat) : Nat := if count = 0 then 4294967295 else count - 1

section Processes

def newProcess (slot : Nat) (key : LogicalProcessKey) (parent : Option LogicalProcessKey)
    (processGroup logicalDumpable : Int) (logicalPtracer : LogicalPidIdentity) :
    LogicalProcessRecord :=
  { occupied := 1, slot, key, processGroup, logicalDumpable, logicalPtracer
    parent := parent.getD {}
    flags := if parent.isSome then kLogicalProcessFlagParentKnown else 0 }

def ParentMissing (table : LogicalPtraceTable) (key parent : LogicalProcessKey) : Prop :=
  ¬ProcessKeyValid parent ∨ logicalProcessKeysEqual key parent ∨
    findLogicalProcess table parent = none

instance (table : LogicalPtraceTable) (key parent : LogicalProcessKey) :
    Decidable (ParentMissing table key parent) :=
  inferInstanceAs (Decidable (_ ∨ _))

def insertLogicalProcess (table : LogicalPtraceTable) (key : LogicalProcessKey)
    (parent : Option LogicalProcessKey) (processGroup logicalDumpable : Int)
    (logicalPtracer : LogicalPidIdentity) : Outcome Nat :=
  if ¬IsLogicalPtraceTableInitialized table ∨ ¬ProcessKeyValid key ∨ processGroup ≤ 0 ∨
      ¬DumpableValid logicalDumpable ∨ ¬PidIdentityValid logicalPtracer then
    (table, .error .einval)
  else if findLogicalProcess table key ≠ none then (table, .error .eexist)
  else if ∃ p ∈ parent, ParentMissing table key p then (table, .error .esrch)
  else if table.processCount = kLogicalPtraceProcessCapacity then (table, .error .enospc)
  else
    match slotFrom kLogicalPtraceProcessCapacity table.processFreeHint
        fun slot => (table.processes slot).occupied = 0 with
    | none => (table, .error .enospc)
    | some slot =>
      (noteMutation
        { modifyProcess table slot fun _ =>
            newProcess slot key parent processGroup logicalDumpable logicalPtracer with
          processCount := table.processCount + 1
          processFreeHint := advanceHint slot kLogicalPtraceProcessCapacity }, .ok slot)

def inheritLogicalProcess (table : LogicalPtraceTable) (child parent : LogicalProcessKey)
    (childProcessGroup : Int) : Outcome Nat :=
  if ¬IsLogicalPtraceTableInitialized table then (table, .error .einval)
  else
    match findLogicalProcess table parent with
    | none => (table, .error .esrch)
    | some slot =>
      insertLogicalProcess table child (some parent) childProcessGroup
        (table.processes slot).logicalDumpable (table.processes slot).logicalPtracer

def eraseLogicalProcess (table : LogicalPtraceTable) (key : LogicalProcessKey) : Outcome Unit :=
  if ¬IsLogicalPtraceTableInitialized table ∨ ¬ProcessKeyValid key then (table, .error .einval)
  else
    match findLogicalProcess table key with
    | none => (table, .error .esrch)
    | some process =>
      if ProcessReferenced table key then (table, .error .ebusy)
      else
        let slot := (table.processes process).slot
        (noteMutation
          { modifyProcess table process fun _ => clearProcessRecord slot with
            processCount := decrementCount table.processCount
            processFreeHint := slot }, .ok ())

def setProcess (table : LogicalPtraceTable) (key : LogicalProcessKey) (argumentValid : Prop)
    [Decidable argumentValid] (f : LogicalProcessRecord → LogicalProcessRecord) : Outcome Unit :=
  if ¬IsLogicalPtraceTableInitialized table ∨ ¬argumentValid then (table, .error .einval)
  else
    match findLogicalProcess table key with
    | none => (table, .error .esrch)
    | some slot => (noteMutation (modifyProcess table slot f), .ok ())

def setLogicalProcessDumpable (table : LogicalPtraceTable) (key : LogicalProcessKey)
    (logicalDumpable : Int) : Outcome Unit :=
  setProcess table key (DumpableValid logicalDumpable) fun process => { process with logicalDumpable }

def setLogicalProcessPtracer (table : LogicalPtraceTable) (key : LogicalProcessKey)
    (logicalPtracer : LogicalPidIdentity) : Outcome Unit :=
  setProcess table key (PidIdentityValid logicalPtracer) fun process =>
    { process with logicalPtracer }

def setLogicalProcessGroup (table : LogicalPtraceTable) (key : LogicalProcessKey)
    (processGroup : Int) : Outcome Unit :=
  setProcess table key (processGroup > 0) fun process => { process with processGroup }

def setLogicalProcessParent (table : LogicalPtraceTable) (key : LogicalProcessKey)
    (parent : Option LogicalProcessKey) : Outcome Unit :=
  if ¬IsLogicalPtraceTableInitialized table ∨ ¬ProcessKeyValid key then (table, .error .einval)
  else
    match findLogicalProcess table key with
    | none => (table, .error .esrch)
    | some slot =>
      if ∃ p ∈ parent, ¬ProcessKeyValid p then (table, .error .einval)
      else if ∃ p ∈ parent, logicalProcessKeysEqual key p ∨ parentChainContains table p key then
        (table, .error .eloop)
      else if ∃ p ∈ parent, findLogicalProcess table p = none then (table, .error .esrch)
      else
        (noteMutation (modifyProcess table slot fun process =>
          { process with
            parent := parent.getD {}
            flags := if parent.isSome then
                process.flags &&& ~~~kLogicalProcessFlagParentKnown ||| kLogicalProcessFlagParentKnown
              else process.flags &&& ~~~kLogicalProcessFlagParentKnown }), .ok ())

end Processes

section FakeTraceme

def claimLogicalFakeTraceme (table : LogicalPtraceTable) (task : LogicalTaskKey) : Outcome Unit :=
  if ¬IsLogicalPtraceTableInitialized table ∨ ¬TaskKeyValid task then (table, .error .einval)
  else if findLogicalProcess table (logicalProcessKeyForTask task) = none then
    (table, .error .esrch)
  else if findFakeTraceme table task ≠ none then (table, .error .eperm)
  else if table.fakeTracemeCount = kLogicalPtraceFakeTracemeCapacity then (table, .error .enospc)
  else
    match slotFrom kLogicalPtraceFakeTracemeCapacity table.fakeTracemeFreeHint
        fun slot => (table.fakeTraceme slot).occupied = 0 with
    | none => (table, .error .enospc)
    | some slot =>
      (noteMutation
        { modifyFakeTraceme table slot fun _ => { occupied := 1, slot, task } with
          fakeTracemeCount := table.fakeTracemeCount + 1
          fakeTracemeFreeHint := advanceHint slot kLogicalPtraceFakeTracemeCapacity }, .ok ())

def clearLogicalFakeTraceme (table : LogicalPtraceTable) (task : LogicalTaskKey) : Outcome Unit :=
  if ¬IsLogicalPtraceTableInitialized table ∨ ¬TaskKeyValid task then (table, .error .einval)
  else
    match findFakeTraceme table task with
    | none => (table, .error .esrch)
    | some record =>
      let slot := (table.fakeTraceme record).slot
      (noteMutation
        { modifyFakeTraceme table record fun _ => clearFakeTracemeRecord slot with
          fakeTracemeCount := decrementCount table.fakeTracemeCount
          fakeTracemeFreeHint := slot }, .ok ())

end FakeTraceme

section Relations

def initialState : LogicalPtraceAttachKind → LogicalPtraceRelationState
  | .attach => .attachPending
  | .seize => .seizeRunning
  | _ => .runningCont

/-- Writing a new relation into a free slot: the count, the hint and the relation counter move. -/
def occupyRelation (table : LogicalPtraceTable) (slot : Nat) (relation : LogicalPtraceRelation) :
    LogicalPtraceTable :=
  noteMutation
    { modifyRelation table slot fun _ => relation with
      nextRelationGeneration := (allocateSequence table.nextRelationGeneration).2
      relationCount := table.relationCount + 1
      relationFreeHint := advanceHint slot kLogicalPtraceRelationCapacity }

def createLogicalPtraceRelation (table : LogicalPtraceTable) (tracee tracer : LogicalTaskKey)
    (attachKind : LogicalPtraceAttachKind) (waitClass : LogicalPtraceWaitClass)
    (options : BitVec 64) : Outcome Nat :=
  if ¬IsLogicalPtraceTableInitialized table ∨ ¬TaskKeyValid tracee ∨ ¬TaskKeyValid tracer ∨
      ¬AttachKindValid attachKind ∨ ¬WaitClassValid waitClass ∨
      options &&& ~~~kLogicalPtraceKnownOptionMask ≠ 0 then
    (table, .error .einval)
  else if tracee.tgid = tracer.tgid then (table, .error .eperm)
  else
    match findLogicalProcess table (logicalProcessKeyForTask tracee),
      findLogicalProcess table (logicalProcessKeyForTask tracer) with
    | some traceeProcess, some tracerProcess =>
      if attachKind = .traceme ∧ (¬ParentKnown (table.processes traceeProcess) ∨
          ¬logicalProcessKeysEqual (table.processes traceeProcess).parent
            (table.processes tracerProcess).key) then
        (table, .error .eperm)
      else if ptraceChainContains table tracer tracee then (table, .error .eloop)
      else if findLogicalPtraceRelation table tracee ≠ none then (table, .error .eperm)
      else if table.relationCount = kLogicalPtraceRelationCapacity then (table, .error .enospc)
      else
        match slotFrom kLogicalPtraceRelationCapacity table.relationFreeHint
            fun slot => (table.relations slot).occupied = 0 with
        | none => (table, .error .enospc)
        | some slot =>
          (occupyRelation table slot
            { occupied := 1, slot, tracee, tracer, attachKind, waitClass, options
              generation := (allocateSequence table.nextRelationGeneration).1
              state := initialState attachKind }, .ok slot)
    | _, _ => (table, .error .esrch)

def storedEvent (event : LogicalPtraceEvent) (sequence : Nat) : LogicalPtraceEvent :=
  { event with
    sequence
    guestSyscallNumber :=
      if event.flags &&& kLogicalPtraceEventFlagSyscallNumberValid = 0 then -1
      else event.guestSyscallNumber }

def createInheritedLogicalPtraceRelation (table : LogicalPtraceTable)
    (parentTracee childTracee : LogicalTaskKey) (waitClass : LogicalPtraceWaitClass)
    (initialStop : LogicalPtraceEvent) : Outcome (Nat × Nat) :=
  if ¬IsLogicalPtraceTableInitialized table ∨ ¬TaskKeyValid parentTracee ∨
      ¬TaskKeyValid childTracee ∨ ¬WaitClassValid waitClass ∨ ¬EventQueueable initialStop ∨
      EventIsExit initialStop ∨ initialStop.kind = .continued then
    (table, .error .einval)
  else
    match findLogicalPtraceRelation table parentTracee with
    | none => (table, .error .esrch)
    | some parentSlot =>
      let parent := table.relations parentSlot
      if parent.state = .exitZombie then (table, .error .esrch)
      else if childTracee.tgid = parent.tracer.tgid then (table, .error .eperm)
      else if findLogicalProcess table (logicalProcessKeyForTask childTracee) = none ∨
          findLogicalProcess table (logicalProcessKeyForTask parent.tracer) = none then
        (table, .error .esrch)
      else if ptraceChainContains table parent.tracer childTracee then (table, .error .eloop)
      else if findLogicalPtraceRelation table childTracee ≠ none then (table, .error .eperm)
      else if table.relationCount = kLogicalPtraceRelationCapacity then (table, .error .enospc)
      else
        match slotFrom kLogicalPtraceRelationCapacity table.relationFreeHint
            fun slot => (table.relations slot).occupied = 0 with
        | none => (table, .error .enospc)
        | some slot =>
          let sequence := (allocateSequence table.nextEventSequence).1
          (occupyRelation
            { table with nextEventSequence := (allocateSequence table.nextEventSequence).2 } slot
            { occupied := 1, slot, tracee := childTracee, tracer := parent.tracer
              attachKind := parent.attachKind, waitClass, options := parent.options
              generation := (allocateSequence table.nextRelationGeneration).1
              state := .stopped
              eventCount := 1
              events := Function.update (fun _ => emptyEvent) 0 (storedEvent initialStop sequence) },
            .ok (slot, sequence))

def eraseRelationAt (table : LogicalPtraceTable) (slot : Nat) : LogicalPtraceTable :=
  noteMutation
    { modifyRelation table slot fun _ => clearRelationRecord slot with
      relationCount := decrementCount table.relationCount
      relationFreeHint := slot }

def eraseLogicalPtraceRelation (table : LogicalPtraceTable) (tracee : LogicalTaskKey)
    (discardPendingEvents : Bool) : Outcome Unit :=
  if ¬IsLogicalPtraceTableInitialized table ∨ ¬TaskKeyValid tracee then (table, .error .einval)
  else
    match findLogicalPtraceRelation table tracee with
    | none => (table, .error .esrch)
    | some relation =>
      if discardPendingEvents = false ∧ (table.relations relation).eventCount ≠ 0 then
        (table, .error .ebusy)
      else (eraseRelationAt table (table.relations relation).slot, .ok ())

def setLogicalPtraceOptions (table : LogicalPtraceTable) (tracee : LogicalTaskKey)
    (options : BitVec 64) : Outcome Unit :=
  if ¬IsLogicalPtraceTableInitialized table ∨ options &&& ~~~kLogicalPtraceKnownOptionMask ≠ 0 then
    (table, .error .einval)
  else
    match findLogicalPtraceRelation table tracee with
    | none => (table, .error .esrch)
    | some slot =>
      if (table.relations slot).state ≠ .stopped then (table, .error .ebusy)
      else
        (noteMutation (modifyRelation table slot fun relation => { relation with options }), .ok ())

def resumedState : LogicalPtraceResumeMode → LogicalPtraceRelationState
  | .cont => .runningCont
  | .syscall => .runningSyscall
  | _ => .runningSingleStep

def busyOrGone (state : LogicalPtraceRelationState) : Errno :=
  if state = .exitZombie then .esrch else .ebusy

def resumeLogicalPtraceRelation (table : LogicalPtraceTable) (tracee : LogicalTaskKey)
    (mode : LogicalPtraceResumeMode) : Outcome Unit :=
  if ¬IsLogicalPtraceTableInitialized table ∨ ¬ResumeModeValid mode then (table, .error .einval)
  else
    match findLogicalPtraceRelation table tracee with
    | none => (table, .error .esrch)
    | some slot =>
      if (table.relations slot).state ≠ .stopped then
        (table, .error (busyOrGone (table.relations slot).state))
      else if (table.relations slot).eventCount ≠ 0 then (table, .error .ebusy)
      else
        (noteMutation (modifyRelation table slot fun relation =>
          { relation with state := resumedState mode }), .ok ())

def listenLogicalPtraceRelation (table : LogicalPtraceTable) (tracee : LogicalTaskKey) :
    Outcome Unit :=
  if ¬IsLogicalPtraceTableInitialized table then (table, .error .einval)
  else
    match findLogicalPtraceRelation table tracee with
    | none => (table, .error .esrch)
    | some slot =>
      if (table.relations slot).attachKind ≠ .seize then (table, .error .eio)
      else if (table.relations slot).state ≠ .stopped ∨ (table.relations slot).eventCount ≠ 0 then
        (table, .error (busyOrGone (table.relations slot).state))
      else
        (noteMutation (modifyRelation table slot fun relation =>
          { relation with state := .listening }), .ok ())

end Relations

end HookSelf.LogicalPtrace
