import HookSelf.PtraceDispatch.Requests

namespace HookSelf.PtraceDispatch

open SlotTable LogicalPtrace

variable {σ : Type}

section Output

def termSignal (status : BitVec 32) : Nat := status.toNat % 128

def statusCode (status : BitVec 32) : Int := status.toNat / 256 % 256

def waitIdCode (event : LogicalPtraceEvent) : Nat × Int :=
  let status := BitVec.ofInt 32 event.waitStatus
  if event.kind = .exited then (1, if termSignal status = 0 then statusCode status else 0)
  else if event.kind = .signaled then
    (if status &&& 0x80 ≠ 0 then 3 else 2,
      if termSignal status ≠ 0 ∧ termSignal status ≠ 127 then termSignal status
      else event.signalNumber)
  else if event.kind = .continued then (6, 18)
  else (4, if termSignal status = 127 then statusCode status else event.signalNumber)

def buildWaitIdSiginfo (tracee : LogicalTaskKey) (event : LogicalPtraceEvent) (uid : Nat) :
    List UInt8 :=
  le 4 17 ++ le 4 0 ++ le 4 (waitIdCode event).1 ++ le 4 0 ++ leInt 4 tracee.tid ++ le 4 uid ++
    leInt 4 (waitIdCode event).2 ++ le 100 0

def writeOptional (io : DispatchIo σ) (host : σ) (task : LogicalTaskKey) (address : Nat)
    (input : List UInt8) : Reply σ Unit :=
  if address ≠ 0 then writeMemory io host task address input else (host, .ok ())

def writeRusage (io : DispatchIo σ) (host : σ) (request : LogicalWaitRequest)
    (tracee : LogicalTaskKey) (event : LogicalPtraceEvent) : Reply σ Unit :=
  if request.rusageAddress ≠ 0 then
    match fillWaitRusage io host tracee event with
    | (host, .error error) => (host, .error error)
    | (host, .ok usage) =>
      writeMemory io host request.waiter request.rusageAddress (usage.take rusageSize)
  else (host, .ok ())

def writeWaitOutput (io : DispatchIo σ) (host : σ) (request : LogicalWaitRequest)
    (tracee : LogicalTaskKey) (event : LogicalPtraceEvent) : Reply σ Int :=
  if request.kind = .wait4 then
    match writeOptional io host request.waiter request.statusAddress
        (leInt 4 event.waitStatus) with
    | (host, .error error) => (host, .error error)
    | (host, .ok ()) =>
      match writeRusage io host request tracee event with
      | (host, .error error) => (host, .error error)
      | (host, .ok ()) => (host, .ok tracee.tid)
  else
    match queryUid io host tracee with
    | (host, .error error) => (host, .error error)
    | (host, .ok uid) =>
      match writeOptional io host request.waiter request.infoAddress
          (buildWaitIdSiginfo tracee event uid) with
      | (host, .error error) => (host, .error error)
      | (host, .ok ()) =>
        match writeRusage io host request tracee event with
        | (host, .error error) => (host, .error error)
        | (host, .ok ()) => (host, .ok 0)

def zeroNoHangWaitId (io : DispatchIo σ) (host : σ) (request : LogicalWaitRequest) :
    Reply σ Unit :=
  if request.kind ≠ .waitId ∨ request.infoAddress = 0 then (host, .ok ())
  else writeMemory io host request.waiter request.infoAddress (le 128 0)

end Output

section Waits

def noteDelivered (dispatcher : LogicalPtraceDispatcher) (relation : LogicalPtraceRelation)
    (event : LogicalPtraceEvent) : LogicalPtraceDispatcher :=
  if ¬EventIsExit event then
    rememberDeliveredStop dispatcher relation.slot relation.generation relation.tracee event
  else forgetStop dispatcher relation.slot

def completeSelectedWait (io : DispatchIo σ) (machine : Machine σ) (waiter : LogicalTaskKey)
    (found : LogicalWaitMatch) : Machine σ × Except Nat Int :=
  match findLogicalWait machine.logical waiter,
    logicalPtraceRelationAt machine.logical found.relationSlot with
  | some wait, some slot =>
    let relation := machine.logical.relations slot
    if relation.generation ≠ found.relationGeneration ∨ relation.eventCount = 0 ∨
        relation.headEvent.sequence ≠ found.eventSequence then
      (machine, .error (errorNumber .estale))
    else
      match writeWaitOutput io machine.host (machine.logical.waits wait).request relation.tracee
          relation.headEvent with
      | (host, .error error) =>
        ({ machine with host, logical := (endLogicalWait machine.logical waiter).1 }, .ok (-error))
      | (host, .ok visibleResult) =>
        match consumeLogicalWaitEvent machine.logical waiter found true with
        | (logical, .error error) => ({ machine with host, logical }, .error (errorNumber error))
        | (logical, .ok event) =>
          ({ host, logical, dispatcher := noteDelivered machine.dispatcher relation event },
            .ok visibleResult)
  | _, _ => (machine, .error (errorNumber .estale))

def mapWaitIdType : Nat → Option LogicalWaitIdType
  | 0 => some .all
  | 1 => some .pid
  | 2 => some .processGroup
  | 3 => some .pidFd
  | _ => none

def nrWaitId : Int := 95
def nrPtrace : Int := 117
def nrWait4 : Int := 260

def buildWaitRequest (logical : LogicalPtraceTable) (caller : LogicalTaskKey) (syscallNumber : Int)
    (arguments : Fin 6 → BitVec 64) : Option LogicalWaitRequest :=
  match findLogicalProcess logical (logicalProcessKeyForTask caller) with
  | none => none
  | some process =>
    let group := (logical.processes process).processGroup
    if syscallNumber = nrWait4 then
      (buildLogicalWait4Request caller ((arguments 0).setWidth 32).toInt group
        ((arguments 2).setWidth 32) (arguments 1).toNat (arguments 3).toNat 0 true).toOption
    else
      match mapWaitIdType (arguments 0).toNat with
      | none => none
      | some type =>
        (buildLogicalWaitIdRequest caller type (arguments 1).toNat group
          ((arguments 3).setWidth 32) (arguments 2).toNat (arguments 4).toNat 0 true).toOption

def kLogicalPtraceEntryHandled : BitVec 32 := 1
def kLogicalPtraceEntrySuppress : BitVec 32 := 2
def kLogicalPtraceEntryMayHold : BitVec 32 := 4
def kLogicalPtraceEntryTargetAction : BitVec 32 := 8

structure LogicalPtraceEntryResult where
  flags : BitVec 32 := 0
  operationSlot : Nat := kLogicalPtraceDispatchInvalidSlot
  visibleResult : Int := 0
  syscallNumber : Int
  target : LogicalPtraceTargetRequest := { syscallNumber := -1 }

def recordWait (machine : Machine σ) (caller : LogicalTaskKey) (syscallNumber : Int)
    (state : LogicalPtraceOperationState) (visibleResult : Int) :
    Machine σ × Except Nat LogicalPtraceEntryResult :=
  match insertOperation machine.dispatcher caller syscallNumber state visibleResult with
  | (dispatcher, .error error) =>
    if state = .heldWait then
      ({ machine with dispatcher, logical := (endLogicalWait machine.logical caller).1 },
        .error error)
    else ({ machine with dispatcher }, .error error)
  | (dispatcher, .ok slot) =>
    ({ machine with dispatcher }, .ok
      { flags := kLogicalPtraceEntryHandled ||| kLogicalPtraceEntrySuppress |||
          (if state = .heldWait then kLogicalPtraceEntryMayHold else 0)
        operationSlot := slot, visibleResult, syscallNumber })

def selectOrHold (io : DispatchIo σ) (machine : Machine σ) (caller : LogicalTaskKey)
    (syscallNumber : Int) (request : LogicalWaitRequest) :
    Machine σ × Except Nat LogicalPtraceEntryResult :=
  let ended : LogicalPtraceTable := (endLogicalWait machine.logical caller).1
  match selectLogicalWaitEvent machine.logical caller true with
  | .ok found =>
    if OperationsFull machine.dispatcher then
      ({ machine with logical := ended }, .error (errorNumber .enospc))
    else
      match completeSelectedWait io machine caller found with
      | (machine, .error error) => (machine, .error error)
      | (machine, .ok visibleResult) => recordWait machine caller syscallNumber .immediate visibleResult
  | .error .eagain =>
    if OperationsFull machine.dispatcher then
      ({ machine with logical := ended }, .error (errorNumber .enospc))
    else if request.nohang ≠ 0 then
      let output := zeroNoHangWaitId io machine.host request
      recordWait { machine with host := output.1, logical := ended } caller syscallNumber .immediate
        (visible output.2)
    else recordWait machine caller syscallNumber .heldWait 0
  | .error .echild => ({ machine with logical := ended }, .ok { syscallNumber })
  | .error error => ({ machine with logical := ended }, .error (errorNumber error))

def handleWaitEntry (io : DispatchIo σ) (machine : Machine σ) (caller : LogicalTaskKey)
    (syscallNumber : Int) (arguments : Fin 6 → BitVec 64) :
    Machine σ × Except Nat LogicalPtraceEntryResult :=
  match buildWaitRequest machine.logical caller syscallNumber arguments with
  | none => (machine, .ok { syscallNumber })
  | some request =>
    match beginLogicalWait machine.logical request with
    | (logical, .error error) => ({ machine with logical }, .error (errorNumber error))
    | (logical, .ok _) => selectOrHold io { machine with logical } caller syscallNumber request

end Waits

section Calls

def dispatchLogicalPtraceEntry (io : DispatchIo σ) (machine : Machine σ) (caller : LogicalTaskKey)
    (syscallNumber : Int) (arguments : Fin 6 → BitVec 64) (hasOutput : Bool) :
    Machine σ × Except Nat LogicalPtraceEntryResult :=
  if hasOutput = false ∨ ¬IsLogicalPtraceDispatcherInitialized machine.dispatcher ∨
      ¬IsLogicalPtraceTableInitialized machine.logical ∨ ¬TaskKeyValid caller ∨
      findLogicalProcess machine.logical (logicalProcessKeyForTask caller) = none then
    (machine, .error (errorNumber .einval))
  else if findOperation machine.dispatcher caller ≠ none then
    (machine, .error (errorNumber .ebusy))
  else if syscallNumber = nrWait4 ∨ syscallNumber = nrWaitId then
    handleWaitEntry io machine caller syscallNumber arguments
  else if syscallNumber ≠ nrPtrace then (machine, .ok { syscallNumber })
  else
    match handlePtraceEntry io machine caller arguments with
    | (machine, .error error) => (machine, .error error)
    | (machine, .ok outcome) =>
      if outcome.handled = false then (machine, .ok { syscallNumber })
      else
        match insertOperation machine.dispatcher caller syscallNumber .immediate outcome.result with
        | (dispatcher, .error error) => ({ machine with dispatcher }, .error error)
        | (dispatcher, .ok slot) =>
          ({ machine with dispatcher }, .ok
            { flags := kLogicalPtraceEntryHandled ||| kLogicalPtraceEntrySuppress |||
                (if outcome.target.action ≠ .none then kLogicalPtraceEntryTargetAction else 0)
              operationSlot := slot, visibleResult := outcome.result, syscallNumber
              target := outcome.target })

def kLogicalPtraceExitHandled : BitVec 32 := 1
def kLogicalPtraceExitWriteResult : BitVec 32 := 2
def kLogicalPtraceExitHold : BitVec 32 := 4

structure LogicalPtraceExitResult where
  flags : BitVec 32 := 0
  operationSlot : Nat := kLogicalPtraceDispatchInvalidSlot
  visibleResult : Int := 0

/-- What the calls on an initialized dispatcher and table with a valid key refuse. -/
def CallInvalid (machine : Machine σ) (task : LogicalTaskKey) : Prop :=
  ¬IsLogicalPtraceDispatcherInitialized machine.dispatcher ∨
    ¬IsLogicalPtraceTableInitialized machine.logical ∨ ¬TaskKeyValid task

instance (machine : Machine σ) (task : LogicalTaskKey) : Decidable (CallInvalid machine task) :=
  inferInstanceAs (Decidable (_ ∨ _))

def dispatchLogicalPtraceExit (machine : Machine σ) (caller : LogicalTaskKey) (syscallNumber : Int)
    (hasOutput : Bool) : Machine σ × Except Nat LogicalPtraceExitResult :=
  if hasOutput = false ∨ CallInvalid machine caller then (machine, .error (errorNumber .einval))
  else
    match findOperation machine.dispatcher caller with
    | none => (machine, .ok {})
    | some index =>
      let operation := machine.dispatcher.operations index
      if operation.syscallNumber ≠ syscallNumber then (machine, .error (errorNumber .estale))
      else if operation.state = .heldWait then
        (machine, .ok
          { flags := kLogicalPtraceExitHandled ||| kLogicalPtraceExitHold
            operationSlot := operation.slot })
      else
        ({ machine with dispatcher := eraseOperation machine.dispatcher operation.slot }, .ok
          { flags := kLogicalPtraceExitHandled ||| kLogicalPtraceExitWriteResult
            operationSlot := operation.slot, visibleResult := operation.visibleResult })

def publishedStop (stop : LogicalPtraceDispatchStop) : LogicalPtraceDispatchStop :=
  { stop with
    flags := stop.flags &&& ~~~(kLogicalPtraceStopAttachPending |||
      kLogicalPtraceStopInterruptPending ||| kLogicalPtraceStopCurrentValid)
    current := emptyEvent }

def publishLogicalPtraceStop (machine : Machine σ) (tracee : LogicalTaskKey)
    (event : LogicalPtraceEvent) : Machine σ × Except Nat Nat :=
  if CallInvalid machine tracee then (machine, .error (errorNumber .einval))
  else
    match findLogicalPtraceRelation machine.logical tracee with
    | none => (machine, .error (errorNumber .esrch))
    | some slot =>
      let relation := machine.logical.relations slot
      match ensureStopRecord machine.dispatcher relation with
      | none => (machine, .error (errorNumber .eproto))
      | some dispatcher =>
        let stop := dispatcher.stops relation.slot
        if AttachPending stop ∧ event.kind ≠ .attachStop ∧ ¬EventIsExit event then
          ({ machine with dispatcher }, .error (errorNumber .eproto))
        else if CurrentValid stop then ({ machine with dispatcher }, .error (errorNumber .ebusy))
        else if InterruptPending stop ∧ event.kind ≠ .interruptStop ∧ ¬EventIsExit event then
          ({ machine with dispatcher }, .error (errorNumber .eproto))
        else
          match queueLogicalPtraceEvent machine.logical tracee event with
          | (logical, .error error) =>
            ({ machine with dispatcher, logical }, .error (errorNumber error))
          | (logical, .ok sequence) =>
            ({ machine with
                logical
                dispatcher := noteDispatch (modifyStop dispatcher relation.slot publishedStop) },
              .ok sequence)

def finishWait (dispatcher : LogicalPtraceDispatcher) (index : Nat) (visibleResult : Int) :
    LogicalPtraceDispatcher :=
  noteDispatch (modifyOperation dispatcher index fun operation =>
    { operation with visibleResult, state := .heldReady })

def tryWakeLogicalPtraceWait (io : DispatchIo σ) (machine : Machine σ) (waiter : LogicalTaskKey) :
    Machine σ × Except Nat Unit :=
  if CallInvalid machine waiter then (machine, .error (errorNumber .einval))
  else
    match findOperation machine.dispatcher waiter with
    | none => (machine, .error (errorNumber .esrch))
    | some index =>
      if (machine.dispatcher.operations index).state ≠ .heldWait then
        (machine, .error (errorNumber .esrch))
      else
        match selectLogicalWaitEvent machine.logical waiter true with
        | .error .eagain => (machine, .error (errorNumber .eagain))
        | .error .echild =>
          ({ machine with
              logical := (endLogicalWait machine.logical waiter).1
              dispatcher := finishWait machine.dispatcher index (-(errorNumber .echild : Int)) },
            .ok ())
        | .error error => (machine, .error (errorNumber error))
        | .ok found =>
          match completeSelectedWait io machine waiter found with
          | (machine, .error error) => (machine, .error error)
          | (machine, .ok visibleResult) =>
            ({ machine with dispatcher := finishWait machine.dispatcher index visibleResult },
              .ok ())

def cancelLogicalPtraceDispatch (machine : Machine σ) (caller : LogicalTaskKey) :
    Machine σ × Except Nat Unit :=
  if CallInvalid machine caller then (machine, .error (errorNumber .einval))
  else
    match findOperation machine.dispatcher caller with
    | none => (machine, .error (errorNumber .esrch))
    | some index =>
      let operation := machine.dispatcher.operations index
      let erased := eraseOperation machine.dispatcher operation.slot
      if operation.state = .heldWait then
        match endLogicalWait machine.logical caller with
        | (logical, .ok ()) => ({ machine with logical, dispatcher := erased }, .ok ())
        | (logical, .error .esrch) => ({ machine with logical, dispatcher := erased }, .ok ())
        | (logical, .error error) => ({ machine with logical }, .error (errorNumber error))
      else ({ machine with dispatcher := erased }, .ok ())

def renameStop (oldIdentity newIdentity : LogicalTaskKey) (stop : LogicalPtraceDispatchStop) :
    LogicalPtraceDispatchStop :=
  if stop.relationGeneration ≠ 0 ∧ logicalTaskKeysEqual stop.tracee oldIdentity then
    { stop with tracee := newIdentity }
  else stop

def StopNames (dispatcher : LogicalPtraceDispatcher) (task : LogicalTaskKey) (slot : Nat) : Prop :=
  (dispatcher.stops slot).relationGeneration ≠ 0 ∧
    logicalTaskKeysEqual (dispatcher.stops slot).tracee task

instance (dispatcher : LogicalPtraceDispatcher) (task : LogicalTaskKey) (slot : Nat) :
    Decidable (StopNames dispatcher task slot) :=
  inferInstanceAs (Decidable (_ ∧ _))

def renameDispatch (dispatcher : LogicalPtraceDispatcher)
    (oldIdentity newIdentity : LogicalTaskKey) (oldOperation : Option Nat) :
    LogicalPtraceDispatcher :=
  let renamed := oldOperation.elim dispatcher fun index =>
    modifyOperation dispatcher index fun operation => { operation with caller := newIdentity }
  let stops := forSlots (fun slot dispatcher =>
    modifyStop dispatcher slot (renameStop oldIdentity newIdentity))
    kLogicalPtraceDispatchCapacity renamed
  if oldOperation ≠ none ∨
      ∃ slot < kLogicalPtraceDispatchCapacity, StopNames dispatcher oldIdentity slot then
    noteDispatch stops
  else stops

def rekeyLogicalPtraceDispatchTask (machine : Machine σ)
    (oldIdentity newIdentity : LogicalTaskKey) : Machine σ × Except Nat Unit :=
  if CallInvalid machine oldIdentity ∨ ¬TaskKeyValid newIdentity then
    (machine, .error (errorNumber .einval))
  else if logicalTaskKeysEqual oldIdentity newIdentity then (machine, .ok ())
  else if oldIdentity.tgid ≠ newIdentity.tgid ∨
      oldIdentity.processGeneration ≠ newIdentity.processGeneration then
    (machine, .error (errorNumber .exdev))
  else if findLogicalProcess machine.logical (logicalProcessKeyForTask oldIdentity) = none then
    (machine, .error (errorNumber .esrch))
  else
    let oldOperation := findOperation machine.dispatcher oldIdentity
    let newOperation := findOperation machine.dispatcher newIdentity
    if oldOperation ≠ none ∧ newOperation ≠ none ∧ oldOperation ≠ newOperation then
      (machine, .error (errorNumber .eexist))
    else
      let dispatcher := renameDispatch machine.dispatcher oldIdentity newIdentity oldOperation
      match rekeyLogicalPtraceTask machine.logical oldIdentity newIdentity with
      | (logical, .ok ()) => ({ machine with logical, dispatcher }, .ok ())
      | (logical, .error error) =>
        if error = .esrch ∧ (oldOperation ≠ none ∨
            ∃ slot < kLogicalPtraceDispatchCapacity,
              StopNames machine.dispatcher oldIdentity slot) then
          ({ machine with logical, dispatcher }, .ok ())
        else ({ machine with logical }, .error (errorNumber error))

end Calls

section Runs

/-- A call of the dispatcher with its arguments and callbacks.  The dispatcher registers no process:
that is a call of the table. -/
inductive DispatchCall (σ : Type)
  | insertProcess (key : LogicalProcessKey) (parent : Option LogicalProcessKey)
      (processGroup logicalDumpable : Int) (logicalPtracer : LogicalPidIdentity)
  | entry (io : DispatchIo σ) (caller : LogicalTaskKey) (syscallNumber : Int)
      (arguments : Fin 6 → BitVec 64) (hasOutput : Bool)
  | exit (caller : LogicalTaskKey) (syscallNumber : Int) (hasOutput : Bool)
  | publish (tracee : LogicalTaskKey) (event : LogicalPtraceEvent)
  | tryWake (io : DispatchIo σ) (waiter : LogicalTaskKey)
  | cancel (caller : LogicalTaskKey)
  | rekey (oldIdentity newIdentity : LogicalTaskKey)

def DispatchCall.run (machine : Machine σ) : DispatchCall σ → Machine σ
  | .insertProcess key parent processGroup logicalDumpable logicalPtracer =>
    { machine with
      logical := (insertLogicalProcess machine.logical key parent processGroup logicalDumpable
        logicalPtracer).1 }
  | .entry io caller syscallNumber arguments hasOutput =>
    (dispatchLogicalPtraceEntry io machine caller syscallNumber arguments hasOutput).1
  | .exit caller syscallNumber hasOutput =>
    (dispatchLogicalPtraceExit machine caller syscallNumber hasOutput).1
  | .publish tracee event => (publishLogicalPtraceStop machine tracee event).1
  | .tryWake io waiter => (tryWakeLogicalPtraceWait io machine waiter).1
  | .cancel caller => (cancelLogicalPtraceDispatch machine caller).1
  | .rekey oldIdentity newIdentity =>
    (rekeyLogicalPtraceDispatchTask machine oldIdentity newIdentity).1

def runDispatch : Machine σ → List (DispatchCall σ) → Machine σ
  | machine, [] => machine
  | machine, call :: calls => runDispatch (call.run machine) calls

def initMachine (host : σ) : Machine σ :=
  { dispatcher := initLogicalPtraceDispatcher, logical := initLogicalPtraceTable, host }

end Runs

end HookSelf.PtraceDispatch
