import HookSelf.PtraceDispatch.State

namespace HookSelf.PtraceDispatch

open SlotTable LogicalPtrace

variable {σ : Type}

/-- The dispatcher, the logical table and the host that a call changes. -/
structure Machine (σ : Type) where
  dispatcher : LogicalPtraceDispatcher
  logical : LogicalPtraceTable
  host : σ

inductive PtraceRequest
  | traceme | peekText | peekData | peekUser | pokeText | pokeData | pokeUser | cont | kill
  | singleStep | attach | detach | syscall | setOptions | getEventMessage | getSiginfo | setSiginfo
  | getRegset | setRegset | seize | interrupt | listen | getSyscallInfo
  | other (value : Nat)
  deriving DecidableEq

def PtraceRequest.ofNumber : Nat → PtraceRequest
  | 0 => .traceme
  | 1 => .peekText
  | 2 => .peekData
  | 3 => .peekUser
  | 4 => .pokeText
  | 5 => .pokeData
  | 6 => .pokeUser
  | 7 => .cont
  | 8 => .kill
  | 9 => .singleStep
  | 16 => .attach
  | 17 => .detach
  | 24 => .syscall
  | 0x4200 => .setOptions
  | 0x4201 => .getEventMessage
  | 0x4202 => .getSiginfo
  | 0x4203 => .setSiginfo
  | 0x4204 => .getRegset
  | 0x4205 => .setRegset
  | 0x4206 => .seize
  | 0x4207 => .interrupt
  | 0x4208 => .listen
  | 0x420e => .getSyscallInfo
  | value => .other value

inductive LogicalPtraceTargetAction
  | none | interrupt | resumeCont | resumeSyscall | listen | detach | resumeSingleStep
  deriving DecidableEq

def kLogicalPtraceTargetRegistersValid : BitVec 32 := 1
def kLogicalPtraceTargetSyscallNumberValid : BitVec 32 := 2
def kLogicalPtraceTargetSiginfoValid : BitVec 32 := 4

structure LogicalPtraceTargetRequest where
  action : LogicalPtraceTargetAction := .none
  flags : BitVec 32 := 0
  target : LogicalTaskKey := {}
  signalNumber : Int := 0
  syscallNumber : Int := 0
  stopKind : LogicalPtraceEventKind := .other 0
  signalInfo : Siginfo := {}
  registers : Arm64Regs := {}

structure PtraceOutcome where
  handled : Bool := false
  result : Int := 0
  target : LogicalPtraceTargetRequest := {}

def EventFlag (event : LogicalPtraceEvent) (flag : BitVec 32) : Prop := event.flags &&& flag ≠ 0

instance (event : LogicalPtraceEvent) (flag : BitVec 32) : Decidable (EventFlag event flag) :=
  inferInstanceAs (Decidable (_ ≠ _))

def fillTargetFromStop (action : LogicalPtraceTargetAction) (target : LogicalTaskKey)
    (signalNumber : Int) (current : Option LogicalPtraceEvent) : LogicalPtraceTargetRequest :=
  match current with
  | none => { action, target, signalNumber, syscallNumber := -1 }
  | some event =>
    let registersValid := EventFlag event kLogicalPtraceEventFlagRegistersValid
    let numberValid := EventFlag event kLogicalPtraceEventFlagSyscallNumberValid
    let siginfoValid := EventFlag event kLogicalPtraceEventFlagSiginfoValid
    { action, target, signalNumber
      stopKind := event.kind
      flags := (if registersValid then kLogicalPtraceTargetRegistersValid else 0) |||
        (if numberValid then kLogicalPtraceTargetSyscallNumberValid else 0) |||
        (if siginfoValid then kLogicalPtraceTargetSiginfoValid else 0)
      registers := if registersValid then event.guestRegisters else {}
      syscallNumber := if numberValid then event.guestSyscallNumber else -1
      signalInfo := if siginfoValid then event.signalInfo else {} }

def numbered {α : Type} (result : Except Errno α) : Except Nat Unit :=
  match result with
  | .ok _ => .ok ()
  | .error error => .error (errorNumber error)

def visible {α : Type} (result : Except Nat α) : Int :=
  match result with
  | .ok _ => 0
  | .error error => -error

section Stopped

def updateQueuedRegisters (logical : LogicalPtraceTable) (relation : Nat) (registers : Arm64Regs)
    (syscallNumberValid : Bool) (syscallNumber : Int) : LogicalPtraceTable × Except Nat Unit :=
  if (logical.relations relation).eventCount = 0 then (logical, .ok ())
  else
    let outcome := setLogicalPtraceEventRegisters logical (logical.relations relation).tracee
      registers syscallNumberValid syscallNumber
    (outcome.1, numbered outcome.2)

def withSyscallNumber (syscallNumber : Int) (event : LogicalPtraceEvent) : LogicalPtraceEvent :=
  { event with
    guestSyscallNumber := syscallNumber
    flags := event.flags ||| kLogicalPtraceEventFlagSyscallNumberValid }

def updateQueuedSyscallNumber (logical : LogicalPtraceTable) (relation : Nat)
    (syscallNumber : Int) : LogicalPtraceTable × Except Nat Unit :=
  if (logical.relations relation).eventCount = 0 then (logical, .ok ())
  else if (logical.relations relation).state ≠ .stopped ∧
      (logical.relations relation).state ≠ .exitZombie then
    (logical, .error (errorNumber .ebusy))
  else
    (noteMutation (modifyRelation logical relation fun record =>
      replaceHeadEvent record (withSyscallNumber syscallNumber record.headEvent)), .ok ())

def updateQueuedSiginfo (logical : LogicalPtraceTable) (relation : Nat) (signalInfo : Siginfo) :
    LogicalPtraceTable × Except Nat Unit :=
  if (logical.relations relation).eventCount = 0 then (logical, .ok ())
  else
    let outcome := setLogicalPtraceEventSiginfo logical (logical.relations relation).tracee
      signalInfo
    (outcome.1, numbered outcome.2)

def rewriteStop (machine : Machine σ) (stop : Nat)
    (queued : LogicalPtraceTable × Except Nat Unit)
    (f : LogicalPtraceEvent → LogicalPtraceEvent) : Machine σ × Except Nat Unit :=
  match queued with
  | (logical, .error error) => ({ machine with logical }, .error error)
  | (logical, .ok ()) =>
    ({ machine with
        logical
        dispatcher := noteDispatch (modifyStop machine.dispatcher stop fun record =>
          { record with current := f record.current }) }, .ok ())

structure RemoteIovec64 where
  base : Nat
  length : Nat

def readRemoteIovec (io : DispatchIo σ) (host : σ) (caller : LogicalTaskKey) (address : Nat) :
    Reply σ RemoteIovec64 :=
  match readMemory io host caller address 16 with
  | (host, .ok buffer) => (host, .ok ⟨buffer.number 0 8, buffer.number 8 8⟩)
  | (host, .error error) => (host, .error error)

def writeRemoteIovec (io : DispatchIo σ) (host : σ) (caller : LogicalTaskKey) (address : Nat)
    (vector : RemoteIovec64) : Reply σ Unit :=
  writeMemory io host caller address (le 8 vector.base ++ le 8 vector.length)

def ntPrstatus : Nat := 1
def ntArmSystemCall : Nat := 0x404

def handleGetRegset (io : DispatchIo σ) (host : σ) (caller : LogicalTaskKey)
    (noteType vectorAddress : Nat) (current : LogicalPtraceEvent) : Reply σ Unit :=
  match readRemoteIovec io host caller vectorAddress with
  | (host, .error error) => (host, .error error)
  | (host, .ok vector) =>
    let copy (source : List UInt8) : Reply σ Unit :=
      let copied := source.take vector.length
      match writeMemory io host caller vector.base copied with
      | (host, .error error) => (host, .error error)
      | (host, .ok ()) =>
        writeRemoteIovec io host caller vectorAddress { vector with length := copied.length }
    if noteType = ntPrstatus then
      if ¬EventFlag current kLogicalPtraceEventFlagRegistersValid then
        (host, .error (errorNumber .eio))
      else copy (registersBytes current.guestRegisters)
    else if noteType = ntArmSystemCall then
      if ¬EventFlag current kLogicalPtraceEventFlagSyscallNumberValid then
        (host, .error (errorNumber .eio))
      else copy (leInt 4 current.guestSyscallNumber)
    else (host, .error (errorNumber .einval))

def withRegisterWords (registers : Arm64Regs) (event : LogicalPtraceEvent) : LogicalPtraceEvent :=
  { event with
    guestRegisters := registers
    flags := event.flags ||| kLogicalPtraceEventFlagRegistersValid }

def handleSetRegset (io : DispatchIo σ) (machine : Machine σ) (caller : LogicalTaskKey)
    (noteType vectorAddress relation stop : Nat) : Machine σ × Except Nat Unit :=
  match readRemoteIovec io machine.host caller vectorAddress with
  | (host, .error error) => ({ machine with host }, .error error)
  | (host, .ok vector) =>
    let current := (machine.dispatcher.stops stop).current
    if noteType = ntPrstatus then
      if vector.length < registersSize then ({ machine with host }, .error (errorNumber .einval))
      else
        match readMemory io host caller vector.base registersSize with
        | (host, .error error) => ({ machine with host }, .error error)
        | (host, .ok buffer) =>
          rewriteStop { machine with host } stop
            (updateQueuedRegisters machine.logical relation buffer.registers
              (decide (EventFlag current kLogicalPtraceEventFlagSyscallNumberValid))
              current.guestSyscallNumber)
            (withRegisterWords buffer.registers)
    else if noteType = ntArmSystemCall then
      if vector.length < 4 then ({ machine with host }, .error (errorNumber .einval))
      else
        match readMemory io host caller vector.base 4 with
        | (host, .error error) => ({ machine with host }, .error error)
        | (host, .ok buffer) =>
          rewriteStop { machine with host } stop
            (updateQueuedSyscallNumber machine.logical relation buffer.int32)
            (withSyscallNumber buffer.int32)
    else ({ machine with host }, .error (errorNumber .einval))

def UserOffsetInvalid (current : LogicalPtraceEvent) (offset : Nat) : Prop :=
  ¬EventFlag current kLogicalPtraceEventFlagRegistersValid ∨ offset % 8 ≠ 0 ∨
    offset > registersSize - 8

instance (current : LogicalPtraceEvent) (offset : Nat) :
    Decidable (UserOffsetInvalid current offset) :=
  inferInstanceAs (Decidable (_ ∨ _))

def handlePeekUser (io : DispatchIo σ) (host : σ) (caller : LogicalTaskKey)
    (offset outputAddress : Nat) (current : LogicalPtraceEvent) : Reply σ Unit :=
  if UserOffsetInvalid current offset then (host, .error (errorNumber .eio))
  else
    writeMemory io host caller outputAddress
      (le 8 (registerWord current.guestRegisters (offset / 8)).toNat)

def handlePokeUser (machine : Machine σ) (offset : Nat) (value : BitVec 64) (relation stop : Nat) :
    Machine σ × Except Nat Unit :=
  let current := (machine.dispatcher.stops stop).current
  if UserOffsetInvalid current offset then (machine, .error (errorNumber .eio))
  else
    let registers := setRegisterWord current.guestRegisters (offset / 8) (.ofBitVec value)
    rewriteStop machine stop
      (updateQueuedRegisters machine.logical relation registers
        (decide (EventFlag current kLogicalPtraceEventFlagSyscallNumberValid))
        current.guestSyscallNumber)
      fun event => { event with guestRegisters := registers }

def ptraceEventSeccomp : Nat := 7

def auditArchAarch64 : Nat := 0xc00000b7

def syscallInfo (current : LogicalPtraceEvent) : Except Nat (List UInt8) :=
  let registersValid := EventFlag current kLogicalPtraceEventFlagRegistersValid
  let numberValid := EventFlag current kLogicalPtraceEventFlagSyscallNumberValid
  let header (op : Nat) : List UInt8 :=
    le 4 op ++ (if registersValid then
      le 4 auditArchAarch64 ++ le 8 current.guestRegisters.pc.toNat ++
        le 8 current.guestRegisters.sp.toNat
    else le 20 0)
  let call : List UInt8 :=
    leInt 8 current.guestSyscallNumber ++
      (List.range 6).flatMap fun index => le 8 (registerWord current.guestRegisters index).toNat
  if current.kind = .syscallEntry then
    if ¬registersValid ∨ ¬numberValid then .error (errorNumber .eio) else .ok (header 1 ++ call)
  else if current.kind = .syscallExit then
    if ¬registersValid then .error (errorNumber .eio)
    else
      let rval := (registerWord current.guestRegisters 0).toBitVec.toInt
      .ok (header 2 ++ leInt 8 rval ++ le 8 (if rval < 0 ∧ rval ≥ -4095 then 1 else 0))
  else if current.kind = .ptraceEvent ∧ current.ptraceEvent = ptraceEventSeccomp then
    if ¬registersValid ∨ ¬numberValid then .error (errorNumber .eio)
    else .ok (header 3 ++ call ++ le 8 (current.eventMessage % 2 ^ 32))
  else .ok (header 0)

def handleGetSyscallInfo (io : DispatchIo σ) (host : σ) (caller : LogicalTaskKey)
    (outputCapacity outputAddress : Nat) (current : LogicalPtraceEvent) : Reply σ Nat :=
  match syscallInfo current with
  | .error error => (host, .error error)
  | .ok info =>
    match writeMemory io host caller outputAddress (info.take outputCapacity) with
    | (host, .error error) => (host, .error error)
    | (host, .ok ()) => (host, .ok info.length)

def resumeMode : PtraceRequest → LogicalPtraceResumeMode × LogicalPtraceTargetAction
  | .syscall => (.syscall, .resumeSyscall)
  | .singleStep => (.singleStep, .resumeSingleStep)
  | _ => (.cont, .resumeCont)

def resumeTarget (logical : LogicalPtraceTable) (target : LogicalTaskKey) (request : PtraceRequest)
    (signalNumber : Int) (current : LogicalPtraceEvent) :
    LogicalPtraceTable × LogicalPtraceTargetRequest × Except Nat Unit :=
  match request with
  | .detach =>
    let outcome := eraseLogicalPtraceRelation logical target false
    (outcome.1, fillTargetFromStop .detach target signalNumber current, numbered outcome.2)
  | .cont | .syscall | .singleStep | .kill =>
    let outcome := resumeLogicalPtraceRelation logical target (resumeMode request).1
    (outcome.1, fillTargetFromStop (resumeMode request).2 target signalNumber current,
      numbered outcome.2)
  | .listen =>
    let outcome := listenLogicalPtraceRelation logical target
    (outcome.1, fillTargetFromStop .listen target 0 current, numbered outcome.2)
  | _ => (logical, {}, .error (errorNumber .einval))

def consumeDelivered (logical : LogicalPtraceTable) (target : LogicalTaskKey) (relation : Nat)
    (current : LogicalPtraceEvent) : LogicalPtraceTable × Except Nat Unit :=
  let record := logical.relations relation
  if record.eventCount = 0 then (logical, .ok ())
  else if record.eventCount ≠ 1 ∨ record.headEvent.sequence ≠ current.sequence then
    (logical, .error (errorNumber .ebusy))
  else
    let outcome := consumeLogicalPtraceEvent logical target false true
    (outcome.1, numbered outcome.2)

def sigKill : Int := 9

def handleResume (machine : Machine σ) (target : LogicalTaskKey) (request : PtraceRequest)
    (rawSignal : Nat) (relation stop : Nat) :
    Machine σ × LogicalPtraceTargetRequest × Except Nat Unit :=
  let current := (machine.dispatcher.stops stop).current
  let relationSlot := (machine.logical.relations relation).slot
  if request ≠ .kill ∧ (rawSignal : Int) ≥ nsig then (machine, {}, .error (errorNumber .eio))
  else if request = .listen ∧ (rawSignal ≠ 0 ∨
      (machine.logical.relations relation).attachKind ≠ .seize ∨ current.kind ≠ .groupStop) then
    (machine, {}, .error (errorNumber .eio))
  else
    match consumeDelivered machine.logical target relation current with
    | (logical, .error error) => ({ machine with logical }, {}, .error error)
    | (logical, .ok ()) =>
      let signalNumber := if request = .kill then sigKill else rawSignal
      match resumeTarget logical target request signalNumber current with
      | (logical, filled, .error error) => ({ machine with logical }, filled, .error error)
      | (logical, filled, .ok ()) =>
        ({ machine with logical, dispatcher := forgetStop machine.dispatcher relationSlot }, filled,
          .ok ())

/-- `GetDeliveredStop`: the dispatcher with the record of the relation, and its slot if the relation
is stopped at a delivered stop. -/
def getDeliveredStop (dispatcher : LogicalPtraceDispatcher) (relation : LogicalPtraceRelation) :
    LogicalPtraceDispatcher × Option Nat :=
  match ensureStopRecord dispatcher relation with
  | none => (dispatcher, none)
  | some dispatcher =>
    (dispatcher, if CurrentValid (dispatcher.stops relation.slot) ∧ relation.state = .stopped then
      some relation.slot else none)

def answer {α : Type} (machine : Machine σ) (result : Except Nat α) : Machine σ × PtraceOutcome :=
  (machine, { handled := true, result := visible result })

def answerHost {α : Type} (machine : Machine σ) (reply : Reply σ α) : Machine σ × PtraceOutcome :=
  answer { machine with host := reply.1 } reply.2

def setSiginfo (io : DispatchIo σ) (machine : Machine σ) (caller : LogicalTaskKey) (data : Nat)
    (relation stop : Nat) : Machine σ × Except Nat Unit :=
  match readMemory io machine.host caller data 128 with
  | (host, .error error) => ({ machine with host }, .error error)
  | (host, .ok buffer) =>
    rewriteStop { machine with host } stop
      (updateQueuedSiginfo machine.logical relation buffer.siginfo)
      fun event =>
        { event with
          signalInfo := buffer.siginfo
          flags := event.flags ||| kLogicalPtraceEventFlagSiginfoValid }

def peekWord (io : DispatchIo σ) (host : σ) (caller target : LogicalTaskKey) (address data : Nat) :
    Reply σ Unit :=
  match readMemory io host target address 8 with
  | (host, .error error) => (host, .error error)
  | (host, .ok buffer) => writeMemory io host caller data (buffer.take 8)

def stoppedRequest (io : DispatchIo σ) (machine : Machine σ) (caller target : LogicalTaskKey)
    (request : PtraceRequest) (address data : BitVec 64) (relation stop : Nat) :
    Machine σ × PtraceOutcome :=
  let current := (machine.dispatcher.stops stop).current
  match request with
  | .cont | .syscall | .singleStep | .kill | .detach | .listen =>
    let resumed := handleResume machine target request data.toNat relation stop
    (resumed.1, { handled := true, result := visible resumed.2.2, target := resumed.2.1 })
  | .setOptions =>
    let outcome := setLogicalPtraceOptions machine.logical target data
    answer { machine with logical := outcome.1 } (numbered outcome.2)
  | .getEventMessage =>
    if current.kind ≠ .ptraceEvent then
      answer machine (.error (errorNumber .einval) : Except Nat Unit)
    else answerHost machine (writeMemory io machine.host caller data.toNat (le 8 current.eventMessage))
  | .getSiginfo =>
    if ¬EventFlag current kLogicalPtraceEventFlagSiginfoValid then
      answer machine (.error (errorNumber .einval) : Except Nat Unit)
    else
      answerHost machine
        (writeMemory io machine.host caller data.toNat (siginfoBytes current.signalInfo))
  | .setSiginfo =>
    if current.kind ≠ .signalDelivery then
      answer machine (.error (errorNumber .einval) : Except Nat Unit)
    else
      let set := setSiginfo io machine caller data.toNat relation stop
      answer set.1 set.2
  | .getRegset =>
    answerHost machine
      (handleGetRegset io machine.host caller address.toNat data.toNat current)
  | .setRegset =>
    let set := handleSetRegset io machine caller address.toNat data.toNat relation stop
    answer set.1 set.2
  | .peekText | .peekData =>
    answerHost machine (peekWord io machine.host caller target address.toNat data.toNat)
  | .pokeText | .pokeData =>
    answerHost machine (writeMemory io machine.host target address.toNat (le 8 data.toNat))
  | .peekUser =>
    answerHost machine (handlePeekUser io machine.host caller address.toNat data.toNat current)
  | .pokeUser =>
    let poked := handlePokeUser machine address.toNat data relation stop
    answer poked.1 poked.2
  | .getSyscallInfo =>
    match handleGetSyscallInfo io machine.host caller address.toNat data.toNat current with
    | (host, .ok size) => ({ machine with host }, { handled := true, result := size })
    | (host, .error error) => ({ machine with host }, { handled := true, result := -error })
  | _ => answer machine (.error (errorNumber .eio) : Except Nat Unit)

def handleStoppedRequest (io : DispatchIo σ) (machine : Machine σ) (caller target : LogicalTaskKey)
    (request : PtraceRequest) (address data : BitVec 64) (relation : Nat) :
    Machine σ × PtraceOutcome :=
  match getDeliveredStop machine.dispatcher (machine.logical.relations relation) with
  | (dispatcher, none) =>
    answer { machine with dispatcher } (.error (errorNumber .esrch) : Except Nat Unit)
  | (dispatcher, some stop) =>
    stoppedRequest io { machine with dispatcher } caller target request address data relation stop

end Stopped

section Entry

def Unmanaged (error : Nat) : Prop :=
  error = errorNumber .esrch ∨ error = errorNumber .enoent ∨ error = errorNumber .enosys

instance (error : Nat) : Decidable (Unmanaged error) := inferInstanceAs (Decidable (_ ∨ _))

def OperationsFull (dispatcher : LogicalPtraceDispatcher) : Prop :=
  dispatcher.operationCount = kLogicalPtraceDispatchCapacity

instance (dispatcher : LogicalPtraceDispatcher) : Decidable (OperationsFull dispatcher) :=
  inferInstanceAs (Decidable (_ = _))

def handleTraceme (io : DispatchIo σ) (machine : Machine σ) (caller : LogicalTaskKey) :
    Machine σ × Except Nat PtraceOutcome :=
  let fail (host : σ) (error : Nat) : Machine σ × Except Nat PtraceOutcome :=
    ({ machine with host }, .ok { handled := true, result := -error })
  let full (host : σ) : Machine σ × Except Nat PtraceOutcome :=
    ({ machine with host }, .error (errorNumber .enospc))
  match resolveParent io machine.host caller with
  | (host, .error error) =>
    if OperationsFull machine.dispatcher then full host
    else if Unmanaged error then
      let outcome := claimLogicalFakeTraceme machine.logical caller
      ({ machine with host, logical := outcome.1 },
        .ok { handled := true, result := visible (numbered outcome.2) })
    else fail host error
  | (host, .ok parent) =>
    if OperationsFull machine.dispatcher then full host
    else
      match checkAttachPermission io host parent caller .traceme with
      | (host, .error error) => fail host error
      | (host, .ok ()) =>
        let outcome := createLogicalPtraceRelation machine.logical caller parent .traceme .normal 0
        ({ machine with host, logical := outcome.1 },
          .ok { handled := true, result := visible (numbered outcome.2) })

def handleAttach (io : DispatchIo σ) (machine : Machine σ) (caller target : LogicalTaskKey)
    (seize : Bool) (address data : BitVec 64) : Machine σ × Except Nat PtraceOutcome :=
  let kind := if seize then LogicalPtraceAttachKind.seize else .attach
  if seize ∧ address ≠ 0 then
    (machine, .ok { handled := true, result := -(errorNumber .eio : Int) })
  else
    match checkAttachPermission io machine.host caller target kind with
    | (host, .error error) =>
      ({ machine with host }, .ok { handled := true, result := -error })
    | (host, .ok ()) =>
      match createLogicalPtraceRelation machine.logical target caller kind .normal
          (if seize then data else 0) with
      | (logical, .error error) =>
        ({ machine with host, logical }, .ok { handled := true, result := -(errorNumber error : Int) })
      | (logical, .ok _) =>
        match (findLogicalPtraceRelation logical target).bind fun relation =>
            (ensureStopRecord machine.dispatcher (logical.relations relation)).map
              (relation, ·) with
        | none =>
          ({ machine with
              host, logical := (eraseLogicalPtraceRelation logical target true).1 },
            .error (errorNumber .eproto))
        | some (relation, dispatcher) =>
          if seize then
            ({ machine with host, logical, dispatcher }, .ok { handled := true })
          else
            ({ machine with
                host, logical
                dispatcher := noteDispatch (modifyStop dispatcher (logical.relations relation).slot
                  fun stop =>
                    { stop with flags := stop.flags ||| kLogicalPtraceStopAttachPending }) },
              .ok { handled := true, target := fillTargetFromStop .interrupt target 0 none })

def RelationOwnedByCaller (relation : LogicalPtraceRelation) (caller : LogicalTaskKey) : Prop :=
  relation.tracer.tgid = caller.tgid ∧ relation.tracer.processGeneration = caller.processGeneration

instance (relation : LogicalPtraceRelation) (caller : LogicalTaskKey) :
    Decidable (RelationOwnedByCaller relation caller) :=
  inferInstanceAs (Decidable (_ ∧ _))

def handleInterrupt (machine : Machine σ) (target : LogicalTaskKey) (address data : BitVec 64)
    (relation : Nat) : Machine σ × PtraceOutcome :=
  let record := machine.logical.relations relation
  match ensureStopRecord machine.dispatcher record with
  | none => answer machine (.error (errorNumber .eio) : Except Nat Unit)
  | some dispatcher =>
    let stop := dispatcher.stops record.slot
    if address ≠ 0 ∨ data ≠ 0 ∨ record.attachKind ≠ .seize ∨ record.state = .stopped ∨
        record.state = .exitZombie ∨ stop.flags &&& (kLogicalPtraceStopInterruptPending |||
          kLogicalPtraceStopCurrentValid) ≠ 0 then
      answer { machine with dispatcher } (.error (errorNumber .eio) : Except Nat Unit)
    else
      ({ machine with
          dispatcher := noteDispatch (modifyStop dispatcher record.slot fun stop =>
            { stop with flags := stop.flags ||| kLogicalPtraceStopInterruptPending }) },
        { handled := true, target := fillTargetFromStop .interrupt target 0 none })

def int32Max : Nat := 2147483647

def handlePtraceEntry (io : DispatchIo σ) (machine : Machine σ) (caller : LogicalTaskKey)
    (arguments : Fin 6 → BitVec 64) : Machine σ × Except Nat PtraceOutcome :=
  let request := PtraceRequest.ofNumber (arguments 0).toNat
  if request = .traceme then handleTraceme io machine caller
  else if (arguments 1).toNat = 0 ∨ (arguments 1).toNat > int32Max then
    if OperationsFull machine.dispatcher then (machine, .error (errorNumber .enospc))
    else (machine, .ok { handled := true, result := -(errorNumber .esrch : Int) })
  else
    match resolveTask io machine.host caller (arguments 1).toNat with
    | (host, .error error) =>
      if Unmanaged error then ({ machine with host }, .ok {})
      else if OperationsFull machine.dispatcher then
        ({ machine with host }, .error (errorNumber .enospc))
      else ({ machine with host }, .ok { handled := true, result := -error })
    | (host, .ok target) =>
      let machine := { machine with host }
      if OperationsFull machine.dispatcher then (machine, .error (errorNumber .enospc))
      else if request = .attach ∨ request = .seize then
        handleAttach io machine caller target (request = .seize) (arguments 2) (arguments 3)
      else
        match findLogicalPtraceRelation machine.logical target with
        | none => (machine, .ok { handled := true, result := -(errorNumber .esrch : Int) })
        | some relation =>
          if ¬RelationOwnedByCaller (machine.logical.relations relation) caller then
            (machine, .ok { handled := true, result := -(errorNumber .esrch : Int) })
          else if request = .interrupt then
            let outcome := handleInterrupt machine target (arguments 2) (arguments 3) relation
            (outcome.1, .ok outcome.2)
          else
            let outcome := handleStoppedRequest io machine caller target request (arguments 2)
              (arguments 3) relation
            (outcome.1, .ok outcome.2)

end Entry

end HookSelf.PtraceDispatch
