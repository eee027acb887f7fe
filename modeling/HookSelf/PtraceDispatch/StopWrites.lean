import HookSelf.PtraceDispatch.Runs

/-! What the requests that write to a delivered stop change, and what later requests then read. -/

namespace HookSelf.PtraceDispatch

open SlotTable LogicalPtrace

variable {σ : Type} {machine : Machine σ} {logical : LogicalPtraceTable}
  {caller target : LogicalTaskKey} {relation : Nat}

section Values

/-- What a request writes to a stop. -/
inductive StopWrite
  | registers (values : Arm64Regs)
  | syscallNumber (number : Int)
  | siginfo (info : Siginfo)

def StopWrite.apply (event : LogicalPtraceEvent) : StopWrite → LogicalPtraceEvent
  | .registers values => withRegisterWords values event
  | .syscallNumber number => withSyscallNumber number event
  | .siginfo signalInfo =>
    { event with signalInfo, flags := event.flags ||| kLogicalPtraceEventFlagSiginfoValid }

def StopWrite.Shown (event : LogicalPtraceEvent) : StopWrite → Prop
  | .registers values =>
    EventFlag event kLogicalPtraceEventFlagRegistersValid ∧ event.guestRegisters = values
  | .syscallNumber number =>
    EventFlag event kLogicalPtraceEventFlagSyscallNumberValid ∧ event.guestSyscallNumber = number
  | .siginfo info => EventFlag event kLogicalPtraceEventFlagSiginfoValid ∧ event.signalInfo = info

/-- The value that a request writes, as it stands in its arguments or in the tracer's memory. -/
inductive Asked (io : DispatchIo σ) (host : σ) (caller : LogicalTaskKey)
    (current : LogicalPtraceEvent) (address data : BitVec 64) : PtraceRequest → StopWrite → Prop
  | word (hoffset : ¬UserOffsetInvalid current address.toNat) :
    Asked io host caller current address data .pokeUser
      (.registers (setRegisterWord current.guestRegisters (address.toNat / 8) (.ofBitVec data)))
  | registers {read last : σ} {vector : RemoteIovec64} {buffer : Buffer}
      (hnote : address.toNat = ntPrstatus)
      (hvector : readRemoteIovec io host caller data.toNat = (read, .ok vector))
      (hbuffer : readMemory io read caller vector.base registersSize = (last, .ok buffer)) :
    Asked io host caller current address data .setRegset (.registers buffer.registers)
  | number {read last : σ} {vector : RemoteIovec64} {buffer : Buffer}
      (hnote : address.toNat = ntArmSystemCall)
      (hvector : readRemoteIovec io host caller data.toNat = (read, .ok vector))
      (hbuffer : readMemory io read caller vector.base 4 = (last, .ok buffer)) :
    Asked io host caller current address data .setRegset (.syscallNumber buffer.int32)
  | siginfo {last : σ} {buffer : Buffer}
      (hbuffer : readMemory io host caller data.toNat 128 = (last, .ok buffer)) :
    Asked io host caller current address data .setSiginfo (.siginfo buffer.siginfo)

theorem eventFlag_or (event : LogicalPtraceEvent) {flag : BitVec 32} (hflag : flag ≠ 0) :
    EventFlag { event with flags := event.flags ||| flag } flag :=
  Flags.set_and_self hflag

theorem StopWrite.shown_apply (write : StopWrite) (event : LogicalPtraceEvent) :
    write.Shown (write.apply event) := by
  cases write with
  | registers => exact ⟨eventFlag_or _ (by decide), rfl⟩
  | syscallNumber => exact ⟨eventFlag_or _ (by decide), rfl⟩
  | siginfo => exact ⟨eventFlag_or _ (by decide), rfl⟩

end Values

section Errors

variable {α : Type} {io : DispatchIo σ} {host last : σ} {error : Nat}

theorem visible_error_ne_zero (h : error ≠ 0) : visible (.error error : Except Nat Unit) ≠ 0 := by
  rw [visible]
  omega

theorem Reply.of_error {answer : σ × Int × α} (h : Reply.of answer = (last, .error error)) :
    error ≠ 0 := by
  obtain ⟨-, hresult⟩ := Prod.mk.inj h
  split_ifs at hresult with hzero
  exact Except.error.inj hresult ▸ hzero

theorem readMemory_error {address size : Nat}
    (h : readMemory io host caller address size = (last, .error error)) : error ≠ 0 := by
  revert h
  fun_cases readMemory io host caller address size with
  | case1 => exact nofun
  | case2 =>
    rintro ⟨⟩
    decide
  | case3 =>
    rintro ⟨⟩
    decide
  | case4 => exact Reply.of_error

theorem readRemoteIovec_error {address : Nat}
    (h : readRemoteIovec io host caller address = (last, .error error)) : error ≠ 0 := by
  rw [readRemoteIovec] at h
  rcases hread : readMemory io host caller address 16 with ⟨read, failure | buffer⟩
  · rw [hread] at h
    obtain ⟨-, ⟨⟩⟩ := Prod.mk.inj h
    exact readMemory_error hread
  · rw [hread] at h
    cases h

theorem resolveTask_error {tid : Int} (h : resolveTask io host caller tid = (last, .error error)) :
    error ≠ 0 := by
  rw [resolveTask] at h
  split at h
  · obtain ⟨-, ⟨⟩⟩ := Prod.mk.inj h
    decide
  · rename_i callback _
    rcases hreply : Reply.of (callback caller tid host) with ⟨read, failure | key⟩
    · rw [hreply, resolvedKey] at h
      obtain ⟨-, ⟨⟩⟩ := Prod.mk.inj h
      exact Reply.of_error hreply
    · rw [hreply, resolvedKey] at h
      obtain ⟨-, hkey⟩ := Prod.mk.inj h
      split_ifs at hkey
      obtain ⟨⟩ := hkey
      decide

end Errors

section Queue

inductive HeadWritten (logical : LogicalPtraceTable) (relation : Nat)
    (g : LogicalPtraceEvent → LogicalPtraceEvent) : LogicalPtraceTable × Except Nat Unit → Prop
  | failed {error : Nat} (herror : error ≠ 0) :
    HeadWritten logical relation g (logical, .error error)
  | empty (hcount : (logical.relations relation).eventCount = 0) :
    HeadWritten logical relation g (logical, .ok ())
  | written (hcount : (logical.relations relation).eventCount ≠ 0) :
    HeadWritten logical relation g (noteMutation (modifyRelation logical relation fun record =>
      replaceHeadEvent record (g record.headEvent)), .ok ())

theorem findRelation_tracee (h : findLogicalPtraceRelation logical target = some relation) :
    findLogicalPtraceRelation logical (logical.relations relation).tracee = some relation := by
  have hfound := h
  rw [findLogicalPtraceRelation] at hfound
  split_ifs at hfound
  rwa [logicalTaskKeysEqual_iff.mp (firstSlot_some hfound).2.2]

theorem setHeadEvent_headWritten (h : findLogicalPtraceRelation logical target = some relation)
    (hcount : (logical.relations relation).eventCount ≠ 0)
    (g : LogicalPtraceEvent → LogicalPtraceEvent) :
    HeadWritten logical relation g
      ((setHeadEvent logical (logical.relations relation).tracee g).1,
        numbered (setHeadEvent logical (logical.relations relation).tracee g).2) := by
  simp only [setHeadEvent, findRelation_tracee h]
  split_ifs
  · exact .failed (by decide)
  · exact .written hcount
  · exact .failed (by decide)

theorem updateQueuedRegisters_headWritten
    (h : findLogicalPtraceRelation logical target = some relation) (registers : Arm64Regs)
    (valid : Bool) (number : Int) :
    HeadWritten logical relation (withRegisters registers (if valid then some number else none))
      (updateQueuedRegisters logical relation registers valid number) := by
  by_cases hcount : (logical.relations relation).eventCount = 0
  · rw [updateQueuedRegisters, if_pos hcount]
    exact .empty hcount
  · rw [updateQueuedRegisters, if_neg hcount]
    exact setHeadEvent_headWritten h hcount _

theorem updateQueuedSyscallNumber_headWritten (logical : LogicalPtraceTable) (relation : Nat)
    (number : Int) :
    HeadWritten logical relation (withSyscallNumber number)
      (updateQueuedSyscallNumber logical relation number) := by
  rw [updateQueuedSyscallNumber]
  split_ifs with hcount
  · exact .empty hcount
  · exact .failed (by decide)
  · exact .written hcount

theorem updateQueuedSiginfo_headWritten
    (h : findLogicalPtraceRelation logical target = some relation) (info : Siginfo) :
    HeadWritten logical relation ((StopWrite.siginfo info).apply ·)
      (updateQueuedSiginfo logical relation info) := by
  rw [updateQueuedSiginfo]
  split_ifs with hcount
  · exact .empty hcount
  · exact setHeadEvent_headWritten h hcount _

end Queue

section Frame

def Machine.stopOf (machine : Machine σ) (relation : Nat) : LogicalPtraceDispatchStop :=
  machine.dispatcher.stops (machine.logical.relations relation).slot

def DeliveredFirst (machine : Machine σ) (relation : Nat) : Prop :=
  (machine.logical.relations relation).eventCount ≠ 0 →
    (machine.logical.relations relation).headEvent.sequence =
      (machine.stopOf relation).current.sequence

/-- Nothing but the delivered stop of the relation was changed, with its queued copy. -/
structure Machine.Writes (machine after : Machine σ) (relation : Nat) (write : StopWrite) :
    Prop where
  processes : after.logical.processes = machine.logical.processes
  waits : after.logical.waits = machine.logical.waits
  fakeTraceme : after.logical.fakeTraceme = machine.logical.fakeTraceme
  relations : ∀ other, other ≠ relation →
    after.logical.relations other = machine.logical.relations other
  empty : (machine.logical.relations relation).eventCount = 0 →
    after.logical.relations relation = machine.logical.relations relation
  queued : (machine.logical.relations relation).eventCount ≠ 0 → ∃ event,
    after.logical.relations relation =
        replaceHeadEvent (machine.logical.relations relation) event ∧
      (machine.logical.relations relation).headEvent.sequence =
        (machine.stopOf relation).current.sequence ∧
      event.sequence = (machine.stopOf relation).current.sequence ∧ write.Shown event
  stops : after.dispatcher.stops = Function.update machine.dispatcher.stops
    (machine.logical.relations relation).slot { machine.stopOf relation with
      current := write.apply (machine.stopOf relation).current }

theorem Machine.Writes.record {after : Machine σ} {write : StopWrite}
    (h : machine.Writes after relation write) :
    (after.logical.relations relation).slot = (machine.logical.relations relation).slot ∧
      (after.logical.relations relation).generation =
        (machine.logical.relations relation).generation ∧
      (after.logical.relations relation).tracee = (machine.logical.relations relation).tracee ∧
      (after.logical.relations relation).state = (machine.logical.relations relation).state := by
  by_cases hcount : (machine.logical.relations relation).eventCount = 0
  · rw [h.empty hcount]
    exact ⟨rfl, rfl, rfl, rfl⟩
  · obtain ⟨event, hevent, -⟩ := h.queued hcount
    rw [hevent]
    exact ⟨rfl, rfl, rfl, rfl⟩

theorem Machine.Writes.shown {after : Machine σ} {write : StopWrite}
    (h : machine.Writes after relation write) : write.Shown (after.stopOf relation).current := by
  rw [Machine.stopOf, h.record.1, h.stops, Function.update_self]
  exact write.shown_apply _

/-- No stop was changed; a record left by an earlier relation may have been renewed. -/
structure Machine.Spares (machine after : Machine σ) (asked : Nat → Prop) : Prop where
  logical : after.logical = machine.logical
  stops : ∀ slot, after.dispatcher.stops slot = machine.dispatcher.stops slot ∨
    ∃ relation, asked relation ∧ slot = (machine.logical.relations relation).slot ∧
      ((machine.dispatcher.stops slot).relationGeneration ≠
          (machine.logical.relations relation).generation ∨
        (machine.dispatcher.stops slot).tracee ≠ (machine.logical.relations relation).tracee)

/-- The request failed and changed nothing, or it succeeded; then it wrote the value it was asked to
write to the delivered stop, if that is the first one queued. -/
def Machine.Settles (machine after : Machine σ) (result : Int) (relation : Nat)
    (asked : StopWrite → Prop) : Prop :=
  (result ≠ 0 ∧ after.logical = machine.logical ∧ after.dispatcher = machine.dispatcher) ∨
    (result = 0 ∧ (DeliveredFirst machine relation →
      ∃ write, asked write ∧ machine.Writes after relation write))

theorem Machine.Settles.failed {asked : StopWrite → Prop} {error : Nat}
    (h : error ≠ 0) (host : σ) :
    machine.Settles { machine with host } (visible (.error error : Except Nat Unit)) relation
      asked :=
  .inl ⟨visible_error_ne_zero h, rfl, rfl⟩

theorem Machine.Settles.rewritten {asked : StopWrite → Prop} {write : StopWrite} {host : σ}
    {g f : LogicalPtraceEvent → LogicalPtraceEvent}
    {queued : LogicalPtraceTable × Except Nat Unit} (hasked : asked write)
    (hqueued : HeadWritten machine.logical relation g queued)
    (hsequence : ∀ e, (g e).sequence = e.sequence) (hshown : ∀ e, write.Shown (g e))
    (happly : f (machine.stopOf relation).current = write.apply (machine.stopOf relation).current) :
    let written := rewriteStop { machine with host } (machine.logical.relations relation).slot
      queued f
    machine.Settles written.1 (visible written.2) relation asked := by
  have hstops : Function.update machine.dispatcher.stops (machine.logical.relations relation).slot
      { machine.stopOf relation with current := f (machine.stopOf relation).current } =
    Function.update machine.dispatcher.stops (machine.logical.relations relation).slot
      { machine.stopOf relation with
        current := write.apply (machine.stopOf relation).current } := by rw [happly]
  cases hqueued with
  | failed herror => exact .failed herror host
  | empty hcount =>
    refine .inr ⟨rfl, fun _ => ⟨write, hasked, ?_⟩⟩
    exact ⟨rfl, rfl, rfl, fun _ _ => rfl, fun _ => rfl, fun h => absurd hcount h, hstops⟩
  | written hcount =>
    refine .inr ⟨rfl, fun hfirst => ⟨write, hasked, ?_⟩⟩
    exact ⟨rfl, rfl, rfl, fun other hother => Function.update_of_ne hother _ _,
      fun h => absurd h hcount, fun _ => ⟨_, Function.update_self _ _ _, hfirst hcount,
        (hsequence _).trans (hfirst hcount), hshown _⟩, hstops⟩

theorem shown_withRegisters (registers : Arm64Regs) (number : Option Int)
    (event : LogicalPtraceEvent) :
    (StopWrite.registers registers).Shown (withRegisters registers number event) := by
  refine ⟨?_, rfl⟩
  cases number with
  | none =>
    simp only [EventFlag, withRegisters, Option.isSome_none, Bool.false_eq_true, if_false]
    rw [BitVec.and_assoc]
    exact Flags.set_and_self (by decide)
  | some number =>
    simp only [EventFlag, withRegisters, Option.isSome_some, if_true]
    rw [BitVec.or_assoc, BitVec.or_comm kLogicalPtraceEventFlagRegistersValid, ← BitVec.or_assoc]
    exact Flags.set_and_self (by decide)

theorem handleSetRegset_settles
    (hfound : findLogicalPtraceRelation machine.logical target = some relation)
    (io : DispatchIo σ) (caller : LogicalTaskKey) (address data : BitVec 64) :
    let set := handleSetRegset io machine caller address.toNat data.toNat relation
      (machine.logical.relations relation).slot
    machine.Settles set.1 (visible set.2) relation
      (Asked io machine.host caller (machine.stopOf relation).current address data .setRegset) := by
  rw [handleSetRegset]
  rcases hvector : readRemoteIovec io machine.host caller data.toNat with ⟨host, error | vector⟩
  · exact .failed (readRemoteIovec_error hvector) host
  dsimp only
  split_ifs with hregisters hshort hnumber hshort
  · exact .failed (by decide) host
  · rcases hbuffer : readMemory io host caller vector.base registersSize with ⟨last, error | buffer⟩
    · exact .failed (readMemory_error hbuffer) last
    · exact .rewritten (.registers hregisters hvector hbuffer)
        (updateQueuedRegisters_headWritten hfound _ _ _) (fun _ => rfl)
        (shown_withRegisters _ _) rfl
  · exact .failed (by decide) host
  · rcases hbuffer : readMemory io host caller vector.base 4 with ⟨last, error | buffer⟩
    · exact .failed (readMemory_error hbuffer) last
    · exact .rewritten (.number hnumber hvector hbuffer)
        (updateQueuedSyscallNumber_headWritten _ _ _) (fun _ => rfl)
        (StopWrite.syscallNumber buffer.int32).shown_apply rfl
  · exact .failed (by decide) host

theorem setSiginfo_settles
    (hfound : findLogicalPtraceRelation machine.logical target = some relation)
    (io : DispatchIo σ) (caller : LogicalTaskKey) (address data : BitVec 64) :
    let set := setSiginfo io machine caller data.toNat relation
      (machine.logical.relations relation).slot
    machine.Settles set.1 (visible set.2) relation
      (Asked io machine.host caller (machine.stopOf relation).current address data
        .setSiginfo) := by
  rw [setSiginfo]
  rcases hbuffer : readMemory io machine.host caller data.toNat 128 with ⟨host, error | buffer⟩
  · exact .failed (readMemory_error hbuffer) host
  · exact .rewritten (.siginfo hbuffer) (updateQueuedSiginfo_headWritten hfound _)
      (fun _ => rfl) (StopWrite.siginfo buffer.siginfo).shown_apply rfl

theorem withRegisterWords_of_flag {event : LogicalPtraceEvent}
    (h : EventFlag event kLogicalPtraceEventFlagRegistersValid) (registers : Arm64Regs) :
    withRegisterWords registers event = { event with guestRegisters := registers } := by
  have hflags : event.flags ||| kLogicalPtraceEventFlagRegistersValid = event.flags :=
    Flags.or_of_bit (i := 1) h
  rw [withRegisterWords, hflags]

theorem handlePokeUser_settles
    (hfound : findLogicalPtraceRelation machine.logical target = some relation)
    (io : DispatchIo σ) (caller : LogicalTaskKey) (address data : BitVec 64) :
    let poked := handlePokeUser machine address.toNat data relation
      (machine.logical.relations relation).slot
    machine.Settles poked.1 (visible poked.2) relation
      (Asked io machine.host caller (machine.stopOf relation).current address data .pokeUser) := by
  rw [handlePokeUser]
  dsimp only
  split_ifs with hoffset
  · exact .failed (by decide) machine.host
  · rw [UserOffsetInvalid, not_or, not_not] at hoffset
    exact .rewritten (.word (by rw [UserOffsetInvalid, not_or, not_not]; exact hoffset))
      (updateQueuedRegisters_headWritten hfound _ _ _) (fun _ => rfl)
      (shown_withRegisters _ _) (withRegisterWords_of_flag hoffset.1 _).symm

end Frame

section Calls

def PtraceRequest.WritesStop (request : PtraceRequest) : Prop :=
  request = .pokeUser ∨ request = .setSiginfo ∨ request = .setRegset

theorem stoppedRequest_settles {request : PtraceRequest} (hrequest : request.WritesStop)
    (hfound : findLogicalPtraceRelation machine.logical target = some relation)
    (io : DispatchIo σ) (caller : LogicalTaskKey) (address data : BitVec 64) :
    let outcome := stoppedRequest io machine caller target request address data relation
      (machine.logical.relations relation).slot
    outcome.2.handled = true ∧ machine.Settles outcome.1 outcome.2.result relation
      (Asked io machine.host caller (machine.stopOf relation).current address data request) := by
  rcases hrequest with rfl | rfl | rfl
  · exact ⟨rfl, handlePokeUser_settles hfound io caller address data⟩
  · rw [stoppedRequest]
    dsimp only
    split_ifs
    · exact ⟨rfl, .failed (by decide) machine.host⟩
    · exact ⟨rfl, setSiginfo_settles hfound io caller address data⟩
  · exact ⟨rfl, handleSetRegset_settles hfound io caller address data⟩

/-- The tracee is stopped at a stop that a wait has handed out. -/
def Delivered (dispatcher : LogicalPtraceDispatcher) (record : LogicalPtraceRelation) : Prop :=
  record.slot < kLogicalPtraceDispatchCapacity ∧ StopCurrent dispatcher record ∧
    record.state = .stopped

theorem Delivered.getDeliveredStop {dispatcher : LogicalPtraceDispatcher}
    {record : LogicalPtraceRelation} (h : Delivered dispatcher record) :
    getDeliveredStop dispatcher record = (dispatcher, some record.slot) := by
  obtain ⟨hrange, ⟨hgeneration, htracee, hcurrent⟩, hstate⟩ := h
  simp [PtraceDispatch.getDeliveredStop, ensureStopRecord, hrange.not_ge, hgeneration, htracee,
    hcurrent, hstate]

theorem getDeliveredStop_cases (dispatcher : LogicalPtraceDispatcher)
    (record : LogicalPtraceRelation) :
    Delivered dispatcher record ∨
      ∃ after, getDeliveredStop dispatcher record = (after, none) ∧
        ∀ slot, after.stops slot = dispatcher.stops slot ∨ slot = record.slot ∧
          ((dispatcher.stops slot).relationGeneration ≠ record.generation ∨
            (dispatcher.stops slot).tracee ≠ record.tracee) := by
  by_cases hrange : record.slot ≥ kLogicalPtraceDispatchCapacity
  · refine .inr ⟨dispatcher, ?_, fun _ => .inl rfl⟩
    rw [getDeliveredStop, ensureStopRecord, if_pos hrange]
  · rw [getDeliveredStop, ensureStopRecord, if_neg hrange]
    dsimp only
    split_ifs with hother
    · refine .inr ⟨_, Prod.ext rfl (if_neg fun h => ?_), fun slot => ?_⟩
      · simp [CurrentValid, modifyStop, clearStop] at h
      · by_cases hslot : slot = record.slot
        · subst hslot
          exact .inr ⟨rfl, hother.imp_right fun h heq => h (logicalTaskKeysEqual_iff.mpr heq)⟩
        · exact .inl (Function.update_of_ne hslot _ _)
    · push Not at hother
      dsimp only
      split_ifs with hcurrent
      · exact .inl ⟨not_le.mp hrange, ⟨hother.1, hother.2, hcurrent.1⟩, hcurrent.2⟩
      · exact .inr ⟨_, rfl, fun _ => .inl rfl⟩

theorem handleStoppedRequest_settles {request : PtraceRequest} (hrequest : request.WritesStop)
    (hfound : findLogicalPtraceRelation machine.logical target = some relation)
    (io : DispatchIo σ) (caller : LogicalTaskKey) (address data : BitVec 64) :
    let outcome := handleStoppedRequest io machine caller target request address data relation
    outcome.2.handled = true ∧
      ((outcome.2.result ≠ 0 ∧ machine.Spares outcome.1 (· = relation)) ∨
        (outcome.2.result = 0 ∧
          Delivered machine.dispatcher (machine.logical.relations relation) ∧
          (DeliveredFirst machine relation → ∃ write, Asked io machine.host caller
            (machine.stopOf relation).current address data request write ∧
            machine.Writes outcome.1 relation write))) := by
  rw [handleStoppedRequest]
  obtain hstop | ⟨dispatcher, hstop, hstops⟩ := getDeliveredStop_cases machine.dispatcher
    (machine.logical.relations relation)
  · rw [hstop.getDeliveredStop]
    obtain ⟨hhandled, ⟨hresult, hlogical, hdispatcher⟩ | ⟨hresult, hwrites⟩⟩ :=
      stoppedRequest_settles hrequest hfound io caller address data
    · exact ⟨hhandled, .inl ⟨hresult, hlogical, fun slot =>
        .inl (congrFun (congrArg _ hdispatcher) slot)⟩⟩
    · exact ⟨hhandled, .inr ⟨hresult, hstop, hwrites⟩⟩
  · rw [hstop]
    exact ⟨rfl, .inl ⟨visible_error_ne_zero (by decide), rfl, fun slot =>
      (hstops slot).imp_right fun h => ⟨relation, rfl, h⟩⟩⟩

def Resolves (io : DispatchIo σ) (machine : Machine σ) (caller : LogicalTaskKey)
    (arguments : Fin 6 → BitVec 64) (relation : Nat) : Prop :=
  ∃ host target, resolveTask io machine.host caller (arguments 1).toNat = (host, .ok target) ∧
    findLogicalPtraceRelation machine.logical target = some relation

/-- Before the request, if its tracee is at a delivered stop, then the first queued event of the
tracee is that stop. -/
def WriteLawful (io : DispatchIo σ) (machine : Machine σ) (caller : LogicalTaskKey)
    (arguments : Fin 6 → BitVec 64) : Prop :=
  ∀ relation, Resolves io machine caller arguments relation →
    Delivered machine.dispatcher (machine.logical.relations relation) →
    DeliveredFirst machine relation

def Wrote (io : DispatchIo σ) (machine after : Machine σ) (caller : LogicalTaskKey)
    (arguments : Fin 6 → BitVec 64) (relation : Nat) (write : StopWrite) : Prop :=
  ∃ host target,
    resolveTask io machine.host caller (arguments 1).toNat = (host, .ok target) ∧
    findLogicalPtraceRelation machine.logical target = some relation ∧
    Asked io host caller (machine.stopOf relation).current (arguments 2) (arguments 3)
      (.ofNumber (arguments 0).toNat) write ∧
    machine.Writes after relation write

theorem Resolves.unique {io : DispatchIo σ} {arguments : Fin 6 → BitVec 64} {other : Nat}
    (h : Resolves io machine caller arguments relation)
    (hother : Resolves io machine caller arguments other) : other = relation := by
  obtain ⟨host, target, hresolve, hfound⟩ := h
  obtain ⟨host', target', hresolve', hfound'⟩ := hother
  obtain ⟨-, ⟨⟩⟩ := Prod.mk.inj (hresolve.symm.trans hresolve')
  exact Option.some.inj (hfound'.symm.trans hfound)

theorem Machine.Spares.of_eq {after : Machine σ} {asked : Nat → Prop}
    (hlogical : after.logical = machine.logical)
    (hdispatcher : after.dispatcher = machine.dispatcher) : machine.Spares after asked :=
  ⟨hlogical, fun _ => .inl (by rw [hdispatcher])⟩

def PtraceOutcome.Succeeds (outcome : PtraceOutcome) : Prop :=
  outcome.handled = true ∧ outcome.result = 0

/-- The entry fails and changes no stop, or it succeeds on a delivered stop. -/
def EntrySettles (io : DispatchIo σ) (machine : Machine σ) (caller : LogicalTaskKey)
    (arguments : Fin 6 → BitVec 64) (entry : Machine σ × Except Nat PtraceOutcome) : Prop :=
  (machine.Spares entry.1 (Resolves io machine caller arguments) ∧
      ∀ outcome, entry.2 = .ok outcome → ¬outcome.Succeeds) ∨
    (∃ outcome, entry.2 = .ok outcome ∧ outcome.Succeeds) ∧ ∃ relation,
      Resolves io machine caller arguments relation ∧
      Delivered machine.dispatcher (machine.logical.relations relation) ∧
      (DeliveredFirst machine relation →
        ∃ write, Wrote io machine entry.1 caller arguments relation write)

theorem EntrySettles.failed {io : DispatchIo σ} {arguments : Fin 6 → BitVec 64} {error : Nat}
    (h : error ≠ 0) (host : σ) : EntrySettles io machine caller arguments
      ({ machine with host }, .ok { handled := true, result := -error }) := by
  refine .inl ⟨.of_eq rfl rfl, ?_⟩
  rintro outcome ⟨⟩ ⟨-, hresult⟩
  exact absurd hresult (by dsimp only; omega)

theorem EntrySettles.refused {io : DispatchIo σ} {arguments : Fin 6 → BitVec 64} {error : Nat}
    (host : σ) : EntrySettles io machine caller arguments
      ({ machine with host }, .error error) := by
  refine .inl ⟨.of_eq rfl rfl, fun outcome houtcome => ?_⟩
  cases houtcome

theorem handlePtraceEntry_settles (io : DispatchIo σ) (machine : Machine σ)
    (caller : LogicalTaskKey) {arguments : Fin 6 → BitVec 64}
    (hrequest : (PtraceRequest.ofNumber (arguments 0).toNat).WritesStop) :
    EntrySettles io machine caller arguments (handlePtraceEntry io machine caller arguments) := by
  have hother (other : PtraceRequest) (h : ¬other.WritesStop) :
      PtraceRequest.ofNumber (arguments 0).toNat ≠ other := fun heq => h (heq ▸ hrequest)
  have htraceme := hother .traceme (by simp [PtraceRequest.WritesStop])
  have hattach := hother .attach (by simp [PtraceRequest.WritesStop])
  have hseize := hother .seize (by simp [PtraceRequest.WritesStop])
  have hinterrupt := hother .interrupt (by simp [PtraceRequest.WritesStop])
  simp only [handlePtraceEntry, htraceme, hattach, hseize, hinterrupt, or_self, if_false]
  by_cases hpid : (arguments 1).toNat = 0 ∨ (arguments 1).toNat > int32Max
  · rw [if_pos hpid]
    split_ifs
    · exact .refused machine.host
    · exact .failed (by decide) machine.host
  rw [if_neg hpid]
  rcases hresolve : resolveTask io machine.host caller (arguments 1).toNat with
    ⟨host, error | target⟩
  · dsimp only
    split_ifs
    · refine .inl ⟨.of_eq rfl rfl, ?_⟩
      rintro outcome ⟨⟩ ⟨⟨⟩, -⟩
    · exact .refused host
    · exact .failed (resolveTask_error hresolve) host
  dsimp only
  by_cases hfull : OperationsFull machine.dispatcher
  · rw [if_pos hfull]
    exact .refused host
  rw [if_neg hfull]
  rcases hfound : findLogicalPtraceRelation machine.logical target with _ | relation
  · exact .failed (by decide) host
  dsimp only
  by_cases howned : RelationOwnedByCaller (machine.logical.relations relation) caller
  · rw [if_neg (not_not.mpr howned)]
    have hresolves : Resolves io machine caller arguments relation :=
      ⟨host, target, hresolve, hfound⟩
    obtain ⟨hhandled, ⟨hresult, hspared⟩ | ⟨hresult, hdelivered, hwrites⟩⟩ :=
      @handleStoppedRequest_settles σ { machine with host } target relation _ hrequest hfound io
        caller (arguments 2) (arguments 3)
    · refine .inl ⟨⟨hspared.logical, fun slot => (hspared.stops slot).imp_right ?_⟩, ?_⟩
      · rintro ⟨_, rfl, hstale⟩
        exact ⟨_, hresolves, hstale⟩
      · rintro outcome ⟨⟩ ⟨-, hzero⟩
        exact hresult hzero
    · refine .inr ⟨⟨_, rfl, hhandled, hresult⟩, relation, hresolves, hdelivered, fun hfirst => ?_⟩
      obtain ⟨write, hasked, hwrites⟩ := hwrites hfirst
      exact ⟨write, host, target, hresolve, hfound, hasked, { hwrites with }⟩
  · rw [if_pos howned]
    exact .failed (by decide) host

theorem insertOperation_stops (dispatcher : LogicalPtraceDispatcher) (caller : LogicalTaskKey)
    (syscallNumber : Int) (state : LogicalPtraceOperationState) (result : Int) :
    (insertOperation dispatcher caller syscallNumber state result).1.stops = dispatcher.stops := by
  rw [insertOperation]
  split_ifs
  · rfl
  · rfl
  · split <;> rfl

theorem Machine.Spares.of_frame {middle after : Machine σ} {asked : Nat → Prop}
    (h : machine.Spares middle asked) (hlogical : after.logical = middle.logical)
    (hstops : after.dispatcher.stops = middle.dispatcher.stops) : machine.Spares after asked :=
  ⟨hlogical.trans h.logical, by rw [hstops]; exact h.stops⟩

theorem Machine.Writes.of_frame {middle after : Machine σ} {write : StopWrite}
    (h : machine.Writes middle relation write) (hlogical : after.logical = middle.logical)
    (hstops : after.dispatcher.stops = middle.dispatcher.stops) :
    machine.Writes after relation write := by
  constructor <;> first | rw [hlogical] | rw [hstops]
  exacts [h.processes, h.waits, h.fakeTraceme, h.relations, h.empty, h.queued, h.stops]

def LogicalPtraceEntryResult.Succeeds (entry : LogicalPtraceEntryResult) : Prop :=
  entry.flags &&& kLogicalPtraceEntryHandled ≠ 0 ∧ entry.visibleResult = 0

instance (entry : LogicalPtraceEntryResult) : Decidable entry.Succeeds :=
  inferInstanceAs (Decidable (_ ∧ _))

theorem handled_flags (flags : BitVec 32) :
    (kLogicalPtraceEntryHandled ||| kLogicalPtraceEntrySuppress ||| flags) &&&
      kLogicalPtraceEntryHandled ≠ 0 := by
  rw [BitVec.or_assoc, BitVec.or_comm]
  exact Flags.set_and_self (by decide)

/-- The call is refused, or it has the effect of the entry on the table and the stops, and its
answer says whether the entry succeeded. -/
theorem dispatchLogicalPtraceEntry_frame (io : DispatchIo σ) (machine : Machine σ)
    (caller : LogicalTaskKey) (arguments : Fin 6 → BitVec 64) (hasOutput : Bool) :
    let called := dispatchLogicalPtraceEntry io machine caller nrPtrace arguments hasOutput
    let entry := handlePtraceEntry io machine caller arguments
    (called.1 = machine ∧ ∃ error, called.2 = .error error) ∨
      called.1.logical = entry.1.logical ∧ called.1.dispatcher.stops = entry.1.dispatcher.stops ∧
        ((∃ error, called.2 = .error error) ∨ ∃ outcome result, entry.2 = .ok outcome ∧
          called.2 = .ok result ∧ (result.Succeeds ↔ outcome.Succeeds)) := by
  have hwait : ¬(nrPtrace = nrWait4 ∨ nrPtrace = nrWaitId) := by decide
  simp only [dispatchLogicalPtraceEntry, hwait, ne_eq, not_true_eq_false, if_false]
  split_ifs
  · exact .inl ⟨rfl, _, rfl⟩
  rotate_left
  · exact .inl ⟨rfl, _, rfl⟩
  rcases handlePtraceEntry io machine caller arguments with ⟨next, error | outcome⟩
  · exact .inr ⟨rfl, rfl, .inl ⟨_, rfl⟩⟩
  have hstops := insertOperation_stops next.dispatcher caller nrPtrace .immediate outcome.result
  dsimp only
  by_cases hhandled : outcome.handled = false
  · rw [if_pos hhandled]
    refine .inr ⟨rfl, rfl, .inr ⟨outcome, _, rfl, rfl, ?_⟩⟩
    refine iff_of_false (fun h => h.1 BitVec.zero_and) fun h => ?_
    exact absurd (h.1.symm.trans hhandled) (by decide)
  rw [if_neg hhandled]
  revert hstops
  rcases insertOperation next.dispatcher caller nrPtrace .immediate outcome.result with
    ⟨dispatcher, error | slot⟩
  · exact fun hstops => .inr ⟨rfl, hstops, .inl ⟨_, rfl⟩⟩
  · refine fun hstops => .inr ⟨rfl, hstops, .inr ⟨outcome, _, rfl, rfl, ?_⟩⟩
    rw [Bool.not_eq_false] at hhandled
    exact ⟨fun h => ⟨hhandled, h.2⟩, fun h => ⟨handled_flags _, h.2⟩⟩

end Calls

section Reads

def copyRegset (io : DispatchIo σ) (host : σ) (caller : LogicalTaskKey) (vectorAddress : Nat)
    (source : List UInt8) : Reply σ Unit :=
  match readRemoteIovec io host caller vectorAddress with
  | (host, .error error) => (host, .error error)
  | (host, .ok vector) =>
    let copied := source.take vector.length
    match writeMemory io host caller vector.base copied with
    | (host, .error error) => (host, .error error)
    | (host, .ok ()) =>
      writeRemoteIovec io host caller vectorAddress { vector with length := copied.length }

def StopWrite.read (io : DispatchIo σ) (host : σ) (caller : LogicalTaskKey)
    (address data : BitVec 64) : StopWrite → PtraceRequest → Option (Reply σ Unit)
  | .registers values, .getRegset =>
    if address.toNat = ntPrstatus then
      some (copyRegset io host caller data.toNat (registersBytes values)) else none
  | .registers values, .peekUser =>
    if address.toNat % 8 = 0 ∧ address.toNat ≤ registersSize - 8 then
      some (writeMemory io host caller data.toNat
        (le 8 (registerWord values (address.toNat / 8)).toNat)) else none
  | .syscallNumber number, .getRegset =>
    if address.toNat = ntArmSystemCall then
      some (copyRegset io host caller data.toNat (leInt 4 number)) else none
  | .siginfo info, .getSiginfo => some (writeMemory io host caller data.toNat (siginfoBytes info))
  | _, _ => none

/-- Every later request that reads the value, in a stop that still has it, answers the value. -/
def StopWrite.ReadsBack (write : StopWrite) (io : DispatchIo σ) (relation : Nat) : Prop :=
  ∀ (later : Machine σ) (caller target : LogicalTaskKey) (request : PtraceRequest)
    (address data : BitVec 64) (stop : Nat) (reply : Reply σ Unit),
    getDeliveredStop later.dispatcher (later.logical.relations relation) =
      (later.dispatcher, some stop) →
    write.Shown (later.dispatcher.stops stop).current →
    write.read io later.host caller address data request = some reply →
    handleStoppedRequest io later caller target request address data relation =
      answerHost later reply

theorem handleGetRegset_registers {current : LogicalPtraceEvent} {values : Arm64Regs}
    (hshown : (StopWrite.registers values).Shown current) (io : DispatchIo σ) (host : σ)
    (caller : LogicalTaskKey) (vectorAddress : Nat) :
    handleGetRegset io host caller ntPrstatus vectorAddress current =
      copyRegset io host caller vectorAddress (registersBytes values) := by
  obtain ⟨hvalid, rfl⟩ := hshown
  rw [handleGetRegset, copyRegset]
  rcases readRemoteIovec io host caller vectorAddress with ⟨read, error | vector⟩
  · rfl
  · exact (if_pos rfl).trans (if_neg (not_not.mpr hvalid))

theorem handleGetRegset_syscallNumber {current : LogicalPtraceEvent} {number : Int}
    (hshown : (StopWrite.syscallNumber number).Shown current) (io : DispatchIo σ) (host : σ)
    (caller : LogicalTaskKey) (vectorAddress : Nat) :
    handleGetRegset io host caller ntArmSystemCall vectorAddress current =
      copyRegset io host caller vectorAddress (leInt 4 number) := by
  obtain ⟨hvalid, rfl⟩ := hshown
  have hnote : ntArmSystemCall ≠ ntPrstatus := by decide
  rw [handleGetRegset, copyRegset]
  rcases readRemoteIovec io host caller vectorAddress with ⟨read, error | vector⟩
  · rfl
  · exact (if_neg hnote).trans ((if_pos rfl).trans (if_neg (not_not.mpr hvalid)))

theorem StopWrite.readsBack (write : StopWrite) (io : DispatchIo σ) (relation : Nat) :
    write.ReadsBack io relation := by
  intro later caller target request address data stop reply hstop hshown hread
  rw [handleStoppedRequest, hstop]
  revert hread
  fun_cases StopWrite.read io later.host caller address data write request with
  | case1 values haddress =>
    rintro ⟨⟩
    simp only [stoppedRequest, haddress, handleGetRegset_registers hshown]
  | case3 values hoffset =>
    rintro ⟨⟩
    have hvalid : ¬UserOffsetInvalid (later.dispatcher.stops stop).current address.toNat := by
      rw [UserOffsetInvalid, not_or, not_or, not_not, not_not, not_lt]
      exact ⟨hshown.1, hoffset⟩
    simp only [stoppedRequest, handlePeekUser, hvalid, if_false, hshown.2]
  | case5 number haddress =>
    rintro ⟨⟩
    simp only [stoppedRequest, haddress, handleGetRegset_syscallNumber hshown]
  | case7 info =>
    rintro ⟨⟩
    simp only [stoppedRequest, hshown.1, not_true_eq_false, if_false, hshown.2]
  | _ => rintro ⟨⟩

end Reads

section Entry

theorem Machine.Writes.delivered {after : Machine σ} {write : StopWrite}
    (h : machine.Writes after relation write)
    (hdelivered : Delivered machine.dispatcher (machine.logical.relations relation)) :
    Delivered after.dispatcher (after.logical.relations relation) := by
  obtain ⟨hslot, hgeneration, htracee, hstate⟩ := h.record
  rw [Delivered, StopCurrent, hslot, hgeneration, htracee, hstate, h.stops, Function.update_self]
  exact hdelivered

/-- The request wrote to the delivered stop and to nothing else, and later requests in that stop
read the value back. -/
def WritesDelivered (io : DispatchIo σ) (machine after : Machine σ) (caller : LogicalTaskKey)
    (arguments : Fin 6 → BitVec 64) : Prop :=
  ∃ relation write, Wrote io machine after caller arguments relation write ∧
    Delivered after.dispatcher (after.logical.relations relation) ∧
    write.Shown (after.stopOf relation).current ∧ write.ReadsBack io relation

theorem Wrote.writeLawful {io : DispatchIo σ} {after : Machine σ}
    {arguments : Fin 6 → BitVec 64} {write : StopWrite}
    (h : Wrote io machine after caller arguments relation write) :
    WriteLawful io machine caller arguments := by
  obtain ⟨host, target, hresolve, hfound, -, hwrites⟩ := h
  intro other hother _ hcount
  obtain rfl := Resolves.unique ⟨host, target, hresolve, hfound⟩ hother
  obtain ⟨event, -, hsequence, -⟩ := hwrites.queued hcount
  exact hsequence

theorem DispatchInv.writeLawful (h : DispatchInv machine.dispatcher machine.logical)
    (io : DispatchIo σ) (caller : LogicalTaskKey) (arguments : Fin 6 → BitVec 64) :
    WriteLawful io machine caller arguments := by
  rintro relation ⟨host, target, -, hfound⟩ hdelivered hcount
  obtain ⟨hs, hlive, -⟩ := h.table.sound.findRelation_some hfound
  obtain ⟨-, hstop⟩ := h.getDeliveredStop hs hlive.used
  rw [hdelivered.getDeliveredStop] at hstop
  obtain ⟨hslot, hat⟩ := hstop _ rfl
  rw [Machine.stopOf, hslot]
  exact (hat.queue hcount).2

def groupStop : LogicalPtraceEvent :=
  { kind := .groupStop, signalNumber := 19, flags := kLogicalPtraceEventFlagRegistersValid }

def seized : List (DispatchCall Unit) := seizedAndStopped.dropLast

end Entry

end HookSelf.PtraceDispatch
