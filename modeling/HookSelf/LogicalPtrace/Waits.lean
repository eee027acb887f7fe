import HookSelf.LogicalPtrace.Operations

/-! The operations on the event queues, the registered waits, and the migration of a task key.
`hasOutput` says whether the caller passed an output pointer. -/

namespace HookSelf.LogicalPtrace

open SlotTable

section Events

def LogicalPtraceRelation.eventSlot (relation : LogicalPtraceRelation) (index : Nat) : Nat :=
  (relation.eventHead + index) % kLogicalPtraceEventQueueCapacity

def LogicalPtraceRelation.headEvent (relation : LogicalPtraceRelation) : LogicalPtraceEvent :=
  relation.events relation.eventHead

def pushRelationEvent (relation : LogicalPtraceRelation) (event : LogicalPtraceEvent) :
    LogicalPtraceRelation :=
  { relation with
    events := Function.update relation.events (relation.eventSlot relation.eventCount) event
    eventCount := relation.eventCount + 1
    state := if EventIsExit event then .exitZombie else .stopped }

def queueLogicalPtraceEvent (table : LogicalPtraceTable) (tracee : LogicalTaskKey)
    (event : LogicalPtraceEvent) : Outcome Nat :=
  if ¬IsLogicalPtraceTableInitialized table ∨ ¬EventQueueable event then (table, .error .einval)
  else
    match findLogicalPtraceRelation table tracee with
    | none => (table, .error .esrch)
    | some slot =>
      if (table.relations slot).state = .exitZombie then (table, .error .esrch)
      else if (table.relations slot).eventCount = kLogicalPtraceEventQueueCapacity then
        (table, .error .enospc)
      else
        let sequence := (allocateSequence table.nextEventSequence).1
        (noteMutation
          { modifyRelation table slot fun relation =>
              pushRelationEvent relation (storedEvent event sequence) with
            nextEventSequence := (allocateSequence table.nextEventSequence).2 }, .ok sequence)

def peekLogicalPtraceEvent (table : LogicalPtraceTable) (tracee : LogicalTaskKey)
    (hasOutput : Bool) : Except Errno LogicalPtraceEvent :=
  if hasOutput = false ∨ ¬IsLogicalPtraceTableInitialized table then .error .einval
  else
    match findLogicalPtraceRelation table tracee with
    | none => .error .esrch
    | some slot =>
      if (table.relations slot).eventCount = 0 then .error .eagain
      else .ok (table.relations slot).headEvent

def replaceHeadEvent (relation : LogicalPtraceRelation) (event : LogicalPtraceEvent) :
    LogicalPtraceRelation :=
  { relation with events := Function.update relation.events relation.eventHead event }

def setHeadEvent (table : LogicalPtraceTable) (tracee : LogicalTaskKey)
    (f : LogicalPtraceEvent → LogicalPtraceEvent) : Outcome Unit :=
  if ¬IsLogicalPtraceTableInitialized table then (table, .error .einval)
  else
    match findLogicalPtraceRelation table tracee with
    | none => (table, .error .esrch)
    | some slot =>
      if (table.relations slot).eventCount = 0 ∨ ((table.relations slot).state ≠ .stopped ∧
          (table.relations slot).state ≠ .exitZombie) then
        (table, .error .ebusy)
      else
        (noteMutation (modifyRelation table slot fun relation =>
          replaceHeadEvent relation (f relation.headEvent)), .ok ())

def withRegisters (registers : Arm64Regs) (syscallNumber : Option Int) (event : LogicalPtraceEvent) :
    LogicalPtraceEvent :=
  let flags := event.flags ||| kLogicalPtraceEventFlagRegistersValid
  { event with
    guestRegisters := registers
    flags := if syscallNumber.isSome then flags ||| kLogicalPtraceEventFlagSyscallNumberValid
      else flags &&& ~~~kLogicalPtraceEventFlagSyscallNumberValid
    guestSyscallNumber := syscallNumber.getD (-1) }

def setLogicalPtraceEventRegisters (table : LogicalPtraceTable) (tracee : LogicalTaskKey)
    (registers : Arm64Regs) (syscallNumberValid : Bool) (syscallNumber : Int) : Outcome Unit :=
  setHeadEvent table tracee
    (withRegisters registers (if syscallNumberValid then some syscallNumber else none))

def setLogicalPtraceEventSiginfo (table : LogicalPtraceTable) (tracee : LogicalTaskKey)
    (signalInfo : Siginfo) : Outcome Unit :=
  setHeadEvent table tracee fun event =>
    { event with signalInfo, flags := event.flags ||| kLogicalPtraceEventFlagSiginfoValid }

def popRelationEvent (relation : LogicalPtraceRelation) : LogicalPtraceRelation :=
  let eventCount := decrementCount relation.eventCount
  { relation with
    events := Function.update relation.events relation.eventHead emptyEvent
    eventHead := if eventCount = 0 then 0
      else (relation.eventHead + 1) % kLogicalPtraceEventQueueCapacity
    eventCount }

def consumeLogicalPtraceEvent (table : LogicalPtraceTable) (tracee : LogicalTaskKey)
    (preserve hasOutput : Bool) : Outcome LogicalPtraceEvent :=
  if hasOutput = false ∨ ¬IsLogicalPtraceTableInitialized table then (table, .error .einval)
  else
    match findLogicalPtraceRelation table tracee with
    | none => (table, .error .esrch)
    | some slot =>
      let relation := table.relations slot
      if relation.eventCount = 0 then (table, .error .eagain)
      else if preserve then (table, .ok relation.headEvent)
      else if EventIsExit relation.headEvent ∧ relation.eventCount ≠ 1 then (table, .error .eproto)
      else
        let popped := noteMutation (modifyRelation table slot popRelationEvent)
        if EventIsExit relation.headEvent then
          if (popped.relations slot).eventCount ≠ 0 then (popped, .error .eproto)
          else (eraseRelationAt popped (popped.relations slot).slot, .ok relation.headEvent)
        else (popped, .ok relation.headEvent)

end Events

section Waits

def buildLogicalWait4Request (waiter : LogicalTaskKey) (pid callerProcessGroup : Int)
    (options : BitVec 32) (statusAddress rusageAddress token : Nat) (hasOutput : Bool) :
    Except Errno LogicalWaitRequest :=
  if hasOutput = false ∨ ¬TaskKeyValid waiter ∨ options &&& ~~~kWait4OptionMask ≠ 0 then
    .error .einval
  else
    let request (selectorKind : LogicalWaitSelectorKind) (selectorId : Int) : LogicalWaitRequest :=
      { waiter, kind := .wait4, selectorKind, selectorId, options
        nohang := optionBit options kLogicalWaitNoHang, statusAddress, rusageAddress, token }
    if pid > 0 then .ok (request .tid pid)
    else if pid = 0 then
      if callerProcessGroup ≤ 0 then .error .einval
      else .ok (request .processGroup callerProcessGroup)
    else if pid ≠ -1 then
      if pid = -2147483648 then .error .einval else .ok (request .processGroup (-pid))
    else .ok (request .any 0)

def buildLogicalWaitIdRequest (waiter : LogicalTaskKey) (idType : LogicalWaitIdType) (id : Nat)
    (callerProcessGroup : Int) (options : BitVec 32) (infoAddress rusageAddress token : Nat)
    (hasOutput : Bool) : Except Errno LogicalWaitRequest :=
  if hasOutput = false ∨ ¬TaskKeyValid waiter ∨ options &&& ~~~kWaitIdOptionMask ≠ 0 ∨
      options &&& (kLogicalWaitStopped ||| kLogicalWaitExited ||| kLogicalWaitContinued) = 0 then
    .error .einval
  else
    let request (selectorKind : LogicalWaitSelectorKind) (selectorId : Int) : LogicalWaitRequest :=
      { waiter, kind := .waitId, selectorKind, selectorId, options
        nohang := optionBit options kLogicalWaitNoHang
        nowait := optionBit options kLogicalWaitNowait, infoAddress, rusageAddress, token }
    match idType with
    | .all => .ok (request .any 0)
    | .pid => if id = 0 ∨ id > 2147483647 then .error .einval else .ok (request .tid id)
    | .processGroup =>
      if id > 2147483647 ∨ (id = 0 ∧ callerProcessGroup ≤ 0) then .error .einval
      else .ok (request .processGroup (if id = 0 then callerProcessGroup else id))
    | .pidFd => .error .eopnotsupp
    | .other _ => .error .einval

def beginLogicalWait (table : LogicalPtraceTable) (request : LogicalWaitRequest) : Outcome Nat :=
  if ¬IsLogicalPtraceTableInitialized table ∨ ¬WaitRequestValid request then
    (table, .error .einval)
  else if findLogicalProcess table (logicalProcessKeyForTask request.waiter) = none then
    (table, .error .esrch)
  else if findLogicalWait table request.waiter ≠ none then (table, .error .ebusy)
  else if table.waitCount = kLogicalPtraceWaitCapacity then (table, .error .enospc)
  else
    match slotFrom kLogicalPtraceWaitCapacity table.waitFreeHint
        fun slot => (table.waits slot).occupied = 0 with
    | none => (table, .error .enospc)
    | some slot =>
      (noteMutation
        { modifyWait table slot fun _ =>
            { occupied := 1, slot, request
              generation := (allocateSequence table.nextWaitGeneration).1 } with
          nextWaitGeneration := (allocateSequence table.nextWaitGeneration).2
          waitCount := table.waitCount + 1
          waitFreeHint := advanceHint slot kLogicalPtraceWaitCapacity }, .ok slot)

def eraseWaitAt (table : LogicalPtraceTable) (slot : Nat) : LogicalPtraceTable :=
  noteMutation
    { modifyWait table slot fun _ => clearWaitRecord slot with
      waitCount := decrementCount table.waitCount
      waitFreeHint := slot }

def endLogicalWait (table : LogicalPtraceTable) (waiter : LogicalTaskKey) : Outcome Unit :=
  if ¬IsLogicalPtraceTableInitialized table ∨ ¬TaskKeyValid waiter then (table, .error .einval)
  else
    match findLogicalWait table waiter with
    | none => (table, .error .esrch)
    | some wait => (eraseWaitAt table (table.waits wait).slot, .ok ())

def RelationAwaited (table : LogicalPtraceTable) (request : LogicalWaitRequest)
    (relation : LogicalPtraceRelation) : Prop :=
  RelationOwnedByWaiter relation request ∧ selectorMatches table relation request ∧
    WaitClassMatches request.options relation.waitClass

instance (table : LogicalPtraceTable) (request : LogicalWaitRequest)
    (relation : LogicalPtraceRelation) : Decidable (RelationAwaited table request relation) :=
  inferInstanceAs (Decidable (_ ∧ _))

structure WaitSelection where
  matchingRelation : Bool := false
  oldestSequence : Nat := uint64Size - 1
  found : LogicalWaitMatch := { relationSlot := kInvalidLogicalPtraceSlot }

def selectStep (table : LogicalPtraceTable) (request : LogicalWaitRequest) (slot : Nat)
    (selection : WaitSelection) : WaitSelection :=
  let relation := table.relations slot
  if relation.occupied = 0 ∨ ¬RelationAwaited table request relation then selection
  else if relation.eventCount = 0 ∨ ¬EventMatchesWaitKind request relation.headEvent ∨
      relation.headEvent.sequence ≥ selection.oldestSequence then
    { selection with matchingRelation := true }
  else
    { matchingRelation := true
      oldestSequence := relation.headEvent.sequence
      found := { relationSlot := slot, relationGeneration := relation.generation
                 eventSequence := relation.headEvent.sequence } }

def selectLogicalWaitEvent (table : LogicalPtraceTable) (waiter : LogicalTaskKey)
    (hasOutput : Bool) : Except Errno LogicalWaitMatch :=
  if hasOutput = false ∨ ¬IsLogicalPtraceTableInitialized table then .error .einval
  else
    match findLogicalWait table waiter with
    | none => .error .esrch
    | some wait =>
      let selection := forSlots (selectStep table (table.waits wait).request)
        kLogicalPtraceRelationCapacity {}
      if selection.found.relationSlot ≠ kInvalidLogicalPtraceSlot then .ok selection.found
      else if selection.matchingRelation then .error .eagain
      else .error .echild

def MatchCurrent (table : LogicalPtraceTable) (request : LogicalWaitRequest)
    (found : LogicalWaitMatch) : Prop :=
  let relation := table.relations found.relationSlot
  relation.occupied ≠ 0 ∧ relation.generation = found.relationGeneration ∧
    relation.eventCount ≠ 0 ∧ relation.headEvent.sequence = found.eventSequence ∧
    RelationAwaited table request relation ∧ EventMatchesWaitKind request relation.headEvent

instance (table : LogicalPtraceTable) (request : LogicalWaitRequest) (found : LogicalWaitMatch) :
    Decidable (MatchCurrent table request found) :=
  inferInstanceAs (Decidable (_ ∧ _))

def consumeLogicalWaitEvent (table : LogicalPtraceTable) (waiter : LogicalTaskKey)
    (found : LogicalWaitMatch) (hasOutput : Bool) : Outcome LogicalPtraceEvent :=
  if hasOutput = false ∨ ¬IsLogicalPtraceTableInitialized table ∨
      found.relationSlot ≥ kLogicalPtraceRelationCapacity ∨ found.relationGeneration = 0 ∨
      found.eventSequence = 0 then
    (table, .error .einval)
  else
    match findLogicalWait table waiter with
    | none => (table, .error .esrch)
    | some wait =>
      let request := (table.waits wait).request
      let waitSlot := (table.waits wait).slot
      let relation := table.relations found.relationSlot
      if ¬MatchCurrent table request found then (table, .error .estale)
      else if request.nowait ≠ 0 then (eraseWaitAt table waitSlot, .ok relation.headEvent)
      else if EventIsExit relation.headEvent then
        if relation.eventCount ≠ 1 then (table, .error .eproto)
        else
          let popped := modifyRelation table found.relationSlot popRelationEvent
          (eraseWaitAt (eraseRelationAt popped (popped.relations found.relationSlot).slot) waitSlot,
            .ok relation.headEvent)
      else
        (eraseWaitAt (noteMutation (modifyRelation table found.relationSlot popRelationEvent))
          waitSlot, .ok relation.headEvent)

end Waits

section Rekey

def renameTracer (oldIdentity newIdentity : LogicalTaskKey) (relation : LogicalPtraceRelation) :
    LogicalPtraceRelation :=
  if relation.occupied ≠ 0 ∧ logicalTaskKeysEqual relation.tracer oldIdentity then
    { relation with tracer := newIdentity }
  else relation

def renameTask (table : LogicalPtraceTable) (oldIdentity newIdentity : LogicalTaskKey)
    (oldFake oldWait oldTracee : Option Nat) : LogicalPtraceTable :=
  let fakes := oldFake.elim table fun slot =>
    modifyFakeTraceme table slot fun record => { record with task := newIdentity }
  let waits := oldWait.elim fakes fun slot =>
    modifyWait fakes slot fun wait =>
      { wait with request := { wait.request with waiter := newIdentity } }
  let tracees := oldTracee.elim waits fun slot =>
    modifyRelation waits slot fun relation => { relation with tracee := newIdentity }
  noteMutation
    (forSlots (fun slot table => modifyRelation table slot (renameTracer oldIdentity newIdentity))
      kLogicalPtraceRelationCapacity tracees)

def TracesAt (table : LogicalPtraceTable) (task : LogicalTaskKey) (slot : Nat) : Prop :=
  (table.relations slot).occupied ≠ 0 ∧ logicalTaskKeysEqual (table.relations slot).tracer task

instance (table : LogicalPtraceTable) (task : LogicalTaskKey) (slot : Nat) :
    Decidable (TracesAt table task slot) :=
  inferInstanceAs (Decidable (_ ∧ _))

def rekeyLogicalPtraceTask (table : LogicalPtraceTable)
    (oldIdentity newIdentity : LogicalTaskKey) : Outcome Unit :=
  if ¬IsLogicalPtraceTableInitialized table ∨ ¬TaskKeyValid oldIdentity ∨
      ¬TaskKeyValid newIdentity then
    (table, .error .einval)
  else if logicalTaskKeysEqual oldIdentity newIdentity then (table, .ok ())
  else if oldIdentity.tgid ≠ newIdentity.tgid ∨
      oldIdentity.processGeneration ≠ newIdentity.processGeneration then
    (table, .error .exdev)
  else if findLogicalProcess table (logicalProcessKeyForTask oldIdentity) = none ∨
      findLogicalProcess table (logicalProcessKeyForTask newIdentity) = none then
    (table, .error .esrch)
  else
    let oldFake := findFakeTraceme table oldIdentity
    let oldWait := findLogicalWait table oldIdentity
    let oldTracee := findLogicalPtraceRelation table oldIdentity
    if oldFake ≠ none ∧ findFakeTraceme table newIdentity ≠ none then (table, .error .eexist)
    else if oldWait ≠ none ∧ findLogicalWait table newIdentity ≠ none then (table, .error .eexist)
    else if oldTracee ≠ none ∧ findLogicalPtraceRelation table newIdentity ≠ none then
      (table, .error .eexist)
    else if ∃ slot ∈ oldTracee, (table.relations slot).tracer.tgid = newIdentity.tgid then
      (table, .error .eperm)
    else if ∃ slot < kLogicalPtraceRelationCapacity, TracesAt table oldIdentity slot ∧
        (table.relations slot).tracee.tgid = newIdentity.tgid then
      (table, .error .eperm)
    else if oldFake = none ∧ oldWait = none ∧ oldTracee = none ∧
        ¬∃ slot < kLogicalPtraceRelationCapacity, TracesAt table oldIdentity slot then
      (table, .error .esrch)
    else (renameTask table oldIdentity newIdentity oldFake oldWait oldTracee, .ok ())

end Rekey

end HookSelf.LogicalPtrace
