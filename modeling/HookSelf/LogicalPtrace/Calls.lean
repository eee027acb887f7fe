import HookSelf.LogicalPtrace.Waits

/-! Every operation of the table as one call, and what a call that fails leaves behind. -/

namespace HookSelf.LogicalPtrace

open SlotTable

inductive TableCall
  | insertProcess (key : LogicalProcessKey) (parent : Option LogicalProcessKey)
      (processGroup logicalDumpable : Int) (logicalPtracer : LogicalPidIdentity)
  | inheritProcess (child parent : LogicalProcessKey) (childProcessGroup : Int)
  | eraseProcess (key : LogicalProcessKey)
  | setProcessDumpable (key : LogicalProcessKey) (logicalDumpable : Int)
  | setProcessPtracer (key : LogicalProcessKey) (logicalPtracer : LogicalPidIdentity)
  | setProcessGroup (key : LogicalProcessKey) (processGroup : Int)
  | setProcessParent (key : LogicalProcessKey) (parent : Option LogicalProcessKey)
  | claimFakeTraceme (task : LogicalTaskKey)
  | clearFakeTraceme (task : LogicalTaskKey)
  | createRelation (tracee tracer : LogicalTaskKey) (attachKind : LogicalPtraceAttachKind)
      (waitClass : LogicalPtraceWaitClass) (options : BitVec 64)
  | createInheritedRelation (parentTracee childTracee : LogicalTaskKey)
      (waitClass : LogicalPtraceWaitClass) (initialStop : LogicalPtraceEvent)
  | eraseRelation (tracee : LogicalTaskKey) (discardPendingEvents : Bool)
  | setOptions (tracee : LogicalTaskKey) (options : BitVec 64)
  | resume (tracee : LogicalTaskKey) (mode : LogicalPtraceResumeMode)
  | listen (tracee : LogicalTaskKey)
  | queueEvent (tracee : LogicalTaskKey) (event : LogicalPtraceEvent)
  | peekEvent (tracee : LogicalTaskKey) (hasOutput : Bool)
  | setEventRegisters (tracee : LogicalTaskKey) (registers : Arm64Regs) (syscallNumberValid : Bool)
      (syscallNumber : Int)
  | setEventSiginfo (tracee : LogicalTaskKey) (signalInfo : Siginfo)
  | consumeEvent (tracee : LogicalTaskKey) (preserve hasOutput : Bool)
  | beginWait (request : LogicalWaitRequest)
  | endWait (waiter : LogicalTaskKey)
  | selectWait (waiter : LogicalTaskKey) (hasOutput : Bool)
  | consumeWait (waiter : LogicalTaskKey) (found : LogicalWaitMatch) (hasOutput : Bool)
  | rekey (oldIdentity newIdentity : LogicalTaskKey)

def Outcome.status {α : Type} (outcome : Outcome α) : Outcome Unit :=
  (outcome.1, outcome.2.map fun _ => ())

def TableCall.run (table : LogicalPtraceTable) : TableCall → Outcome Unit
  | .insertProcess key parent processGroup logicalDumpable logicalPtracer =>
    (insertLogicalProcess table key parent processGroup logicalDumpable logicalPtracer).status
  | .inheritProcess child parent childProcessGroup =>
    (inheritLogicalProcess table child parent childProcessGroup).status
  | .eraseProcess key => eraseLogicalProcess table key
  | .setProcessDumpable key logicalDumpable => setLogicalProcessDumpable table key logicalDumpable
  | .setProcessPtracer key logicalPtracer => setLogicalProcessPtracer table key logicalPtracer
  | .setProcessGroup key processGroup => setLogicalProcessGroup table key processGroup
  | .setProcessParent key parent => setLogicalProcessParent table key parent
  | .claimFakeTraceme task => claimLogicalFakeTraceme table task
  | .clearFakeTraceme task => clearLogicalFakeTraceme table task
  | .createRelation tracee tracer attachKind waitClass options =>
    (createLogicalPtraceRelation table tracee tracer attachKind waitClass options).status
  | .createInheritedRelation parentTracee childTracee waitClass initialStop =>
    (createInheritedLogicalPtraceRelation table parentTracee childTracee waitClass
      initialStop).status
  | .eraseRelation tracee discardPendingEvents =>
    eraseLogicalPtraceRelation table tracee discardPendingEvents
  | .setOptions tracee options => setLogicalPtraceOptions table tracee options
  | .resume tracee mode => resumeLogicalPtraceRelation table tracee mode
  | .listen tracee => listenLogicalPtraceRelation table tracee
  | .queueEvent tracee event => (queueLogicalPtraceEvent table tracee event).status
  | .peekEvent tracee hasOutput =>
    Outcome.status (table, peekLogicalPtraceEvent table tracee hasOutput)
  | .setEventRegisters tracee registers syscallNumberValid syscallNumber =>
    setLogicalPtraceEventRegisters table tracee registers syscallNumberValid syscallNumber
  | .setEventSiginfo tracee signalInfo => setLogicalPtraceEventSiginfo table tracee signalInfo
  | .consumeEvent tracee preserve hasOutput =>
    (consumeLogicalPtraceEvent table tracee preserve hasOutput).status
  | .beginWait request => (beginLogicalWait table request).status
  | .endWait waiter => endLogicalWait table waiter
  | .selectWait waiter hasOutput =>
    Outcome.status (table, selectLogicalWaitEvent table waiter hasOutput)
  | .consumeWait waiter found hasOutput =>
    (consumeLogicalWaitEvent table waiter found hasOutput).status
  | .rekey oldIdentity newIdentity => rekeyLogicalPtraceTask table oldIdentity newIdentity

section Failure

variable {table : LogicalPtraceTable} {α : Type}

def Keeps (table : LogicalPtraceTable) (outcome : Outcome α) : Prop :=
  ∀ e, outcome.2 = .error e → outcome.1 = table

theorem Keeps.refused {result : Except Errno α} : Keeps table (table, result) := fun _ _ => rfl

theorem Keeps.done {table' : LogicalPtraceTable} {value : α} : Keeps table (table', .ok value) :=
  fun _ h => nomatch h

theorem Keeps.ite {c : Prop} [Decidable c] {x y : Outcome α} (hx : c → Keeps table x)
    (hy : ¬c → Keeps table y) : Keeps table (if c then x else y) := by
  split_ifs with hc
  exacts [hx hc, hy hc]

theorem Keeps.guard {c : Prop} [Decidable c] {e : Errno} {y : Outcome α} (hy : Keeps table y) :
    Keeps table (if c then (table, .error e) else y) :=
  .ite (fun _ => .refused) fun _ => hy

theorem Keeps.status {outcome : Outcome α} (h : Keeps table outcome) :
    Keeps table outcome.status := by
  obtain ⟨table', e | value⟩ := outcome
  · exact fun _ _ => h e rfl
  · exact .done

theorem insertLogicalProcess_keeps (key : LogicalProcessKey) (parent : Option LogicalProcessKey)
    (processGroup logicalDumpable : Int) (logicalPtracer : LogicalPidIdentity) :
    Keeps table
      (insertLogicalProcess table key parent processGroup logicalDumpable logicalPtracer) := by
  refine .guard <| .guard <| .guard <| .guard ?_
  split
  exacts [.refused, .done]

theorem inheritLogicalProcess_keeps (child parent : LogicalProcessKey) (childProcessGroup : Int) :
    Keeps table (inheritLogicalProcess table child parent childProcessGroup) := by
  refine .guard ?_
  split
  exacts [.refused, insertLogicalProcess_keeps _ _ _ _ _]

theorem eraseLogicalProcess_keeps (key : LogicalProcessKey) :
    Keeps table (eraseLogicalProcess table key) := by
  refine .guard ?_
  split
  exacts [.refused, .guard .done]

theorem setProcess_keeps (key : LogicalProcessKey) (argumentValid : Prop) [Decidable argumentValid]
    (f : LogicalProcessRecord → LogicalProcessRecord) :
    Keeps table (setProcess table key argumentValid f) := by
  refine .guard ?_
  split
  exacts [.refused, .done]

theorem setLogicalProcessParent_keeps (key : LogicalProcessKey)
    (parent : Option LogicalProcessKey) :
    Keeps table (setLogicalProcessParent table key parent) := by
  refine .guard ?_
  split
  exacts [.refused, .guard <| .guard <| .guard .done]

theorem claimLogicalFakeTraceme_keeps (task : LogicalTaskKey) :
    Keeps table (claimLogicalFakeTraceme table task) := by
  refine .guard <| .guard <| .guard <| .guard ?_
  split
  exacts [.refused, .done]

theorem clearLogicalFakeTraceme_keeps (task : LogicalTaskKey) :
    Keeps table (clearLogicalFakeTraceme table task) := by
  refine .guard ?_
  split
  exacts [.refused, .done]

theorem createLogicalPtraceRelation_keeps (tracee tracer : LogicalTaskKey)
    (attachKind : LogicalPtraceAttachKind) (waitClass : LogicalPtraceWaitClass)
    (options : BitVec 64) :
    Keeps table
      (createLogicalPtraceRelation table tracee tracer attachKind waitClass options) := by
  refine .guard <| .guard ?_
  split
  · refine .guard <| .guard <| .guard <| .guard ?_
    split
    exacts [.refused, .done]
  · exact .refused

theorem createInheritedLogicalPtraceRelation_keeps (parentTracee childTracee : LogicalTaskKey)
    (waitClass : LogicalPtraceWaitClass) (initialStop : LogicalPtraceEvent) :
    Keeps table (createInheritedLogicalPtraceRelation table parentTracee childTracee waitClass
      initialStop) := by
  refine .guard ?_
  split
  · exact .refused
  · refine .guard <| .guard <| .guard <| .guard <| .guard <| .guard ?_
    split
    exacts [.refused, .done]

theorem eraseLogicalPtraceRelation_keeps (tracee : LogicalTaskKey) (discardPendingEvents : Bool) :
    Keeps table (eraseLogicalPtraceRelation table tracee discardPendingEvents) := by
  refine .guard ?_
  split
  exacts [.refused, .guard .done]

theorem setLogicalPtraceOptions_keeps (tracee : LogicalTaskKey) (options : BitVec 64) :
    Keeps table (setLogicalPtraceOptions table tracee options) := by
  refine .guard ?_
  split
  exacts [.refused, .guard .done]

theorem resumeLogicalPtraceRelation_keeps (tracee : LogicalTaskKey)
    (mode : LogicalPtraceResumeMode) :
    Keeps table (resumeLogicalPtraceRelation table tracee mode) := by
  refine .guard ?_
  split
  exacts [.refused, .guard <| .guard .done]

theorem listenLogicalPtraceRelation_keeps (tracee : LogicalTaskKey) :
    Keeps table (listenLogicalPtraceRelation table tracee) := by
  refine .guard ?_
  split
  exacts [.refused, .guard <| .guard .done]

theorem queueLogicalPtraceEvent_keeps (tracee : LogicalTaskKey) (event : LogicalPtraceEvent) :
    Keeps table (queueLogicalPtraceEvent table tracee event) := by
  refine .guard ?_
  split
  exacts [.refused, .guard <| .guard .done]

theorem setHeadEvent_keeps (tracee : LogicalTaskKey)
    (f : LogicalPtraceEvent → LogicalPtraceEvent) :
    Keeps table (setHeadEvent table tracee f) := by
  refine .guard ?_
  split
  exacts [.refused, .guard .done]

/-- The second protocol check cannot fail: the queue of the exit event held that event alone. -/
theorem consumeLogicalPtraceEvent_keeps (tracee : LogicalTaskKey) (preserve hasOutput : Bool) :
    Keeps table (consumeLogicalPtraceEvent table tracee preserve hasOutput) := by
  refine .guard ?_
  split
  · exact .refused
  · refine .guard <| .ite (fun _ => .refused) fun _ => .ite (fun _ => .refused) fun hproto => ?_
    refine .ite (fun hexit => .ite (fun hcount => ?_) fun _ => .done) fun _ => .done
    have hone : (table.relations _).eventCount = 1 := not_not.mp fun hne => hproto ⟨hexit, hne⟩
    simp [noteMutation, modifyRelation, popRelationEvent, hone, decrementCount] at hcount

theorem beginLogicalWait_keeps (request : LogicalWaitRequest) :
    Keeps table (beginLogicalWait table request) := by
  refine .guard <| .guard <| .guard <| .guard ?_
  split
  exacts [.refused, .done]

theorem endLogicalWait_keeps (waiter : LogicalTaskKey) :
    Keeps table (endLogicalWait table waiter) := by
  refine .guard ?_
  split
  exacts [.refused, .done]

theorem consumeLogicalWaitEvent_keeps (waiter : LogicalTaskKey) (found : LogicalWaitMatch)
    (hasOutput : Bool) : Keeps table (consumeLogicalWaitEvent table waiter found hasOutput) := by
  refine .guard ?_
  split
  · exact .refused
  · exact .guard <| .ite (fun _ => .done) fun _ => .ite (fun _ => .guard .done) fun _ => .done

theorem rekeyLogicalPtraceTask_keeps (oldIdentity newIdentity : LogicalTaskKey) :
    Keeps table (rekeyLogicalPtraceTask table oldIdentity newIdentity) :=
  .guard <| .ite (fun _ => .done) fun _ => .guard <| .guard <| .guard <| .guard <| .guard <|
    .guard <| .guard <| .guard .done

theorem TableCall.run_keeps (call : TableCall) : Keeps table (call.run table) := by
  cases call with
  | insertProcess => exact (insertLogicalProcess_keeps _ _ _ _ _).status
  | inheritProcess => exact (inheritLogicalProcess_keeps _ _ _).status
  | eraseProcess => exact eraseLogicalProcess_keeps _
  | setProcessDumpable => exact setProcess_keeps _ _ _
  | setProcessPtracer => exact setProcess_keeps _ _ _
  | setProcessGroup => exact setProcess_keeps _ _ _
  | setProcessParent => exact setLogicalProcessParent_keeps _ _
  | claimFakeTraceme => exact claimLogicalFakeTraceme_keeps _
  | clearFakeTraceme => exact clearLogicalFakeTraceme_keeps _
  | createRelation => exact (createLogicalPtraceRelation_keeps _ _ _ _ _).status
  | createInheritedRelation => exact (createInheritedLogicalPtraceRelation_keeps _ _ _ _).status
  | eraseRelation => exact eraseLogicalPtraceRelation_keeps _ _
  | setOptions => exact setLogicalPtraceOptions_keeps _ _
  | resume => exact resumeLogicalPtraceRelation_keeps _ _
  | listen => exact listenLogicalPtraceRelation_keeps _
  | queueEvent => exact (queueLogicalPtraceEvent_keeps _ _).status
  | peekEvent => exact Keeps.refused.status
  | setEventRegisters => exact setHeadEvent_keeps _ _
  | setEventSiginfo => exact setHeadEvent_keeps _ _
  | consumeEvent => exact (consumeLogicalPtraceEvent_keeps _ _ _).status
  | beginWait => exact (beginLogicalWait_keeps _).status
  | endWait => exact endLogicalWait_keeps _
  | selectWait => exact Keeps.refused.status
  | consumeWait => exact (consumeLogicalWaitEvent_keeps _ _ _).status
  | rekey => exact rekeyLogicalPtraceTask_keeps _ _

/-- A call that returns an error number changes nothing in the table. -/
theorem TableCall.run_eq_self_of_error {call : TableCall} {e : Errno}
    (herror : (call.run table).2 = .error e) : (call.run table).1 = table :=
  call.run_keeps e herror

end Failure

def soleProcess : LogicalProcessKey := { tgid := 7, generation := 1 }

def insertSole : TableCall := .insertProcess soleProcess none 7 1 {}

theorem TableCall.run_insert_twice :
    (insertSole.run (insertSole.run initLogicalPtraceTable).1).2 = .error .eexist ∧
      (insertSole.run (insertSole.run initLogicalPtraceTable).1).1 =
        (insertSole.run initLogicalPtraceTable).1 :=
  ⟨by decide +kernel, TableCall.run_eq_self_of_error (e := .eexist) (by decide +kernel)⟩

end HookSelf.LogicalPtrace
