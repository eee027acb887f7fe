import HookSelf.PtraceDispatch.RequestLaws

/-! The waits keep the invariant, as long as the event that a wait hands out is the only one queued
for its relation. -/

namespace HookSelf.PtraceDispatch

open SlotTable KeyedTable LogicalPtrace Postcondition

variable {σ : Type} {machine : Machine σ} {P : Nat → LogicalProcessRecord}
  {waiting : LogicalTaskKey → Prop} {waiter caller : LogicalTaskKey} {found : LogicalWaitMatch}
  {table : LogicalPtraceTable} {slot : Nat}

/-- The event that the wait of the task would be given now is the only one of its relation. -/
def SelectsOnlyEvent (table : LogicalPtraceTable) (waiter : LogicalTaskKey) : Prop :=
  ∀ found, selectLogicalWaitEvent table waiter true = .ok found →
    (table.relations found.relationSlot).eventCount = 1

instance (table : LogicalPtraceTable) (waiter : LogicalTaskKey) :
    Decidable (SelectsOnlyEvent table waiter) :=
  match h : selectLogicalWaitEvent table waiter true with
  | .ok found =>
    decidable_of_iff ((table.relations found.relationSlot).eventCount = 1)
      ⟨fun hone _ hother => Except.ok.inj (h.symm.trans hother) ▸ hone, fun hall => hall found h⟩
  | .error _ => isTrue fun _ hok => nomatch h.symm.trans hok

/-- A machine in the middle of a wait: the operations hold the waits of the given tasks, which need
not be those registered in the table. -/
structure Machine.Between (P : Nat → LogicalProcessRecord) (waiting : LogicalTaskKey → Prop)
    (machine : Machine σ) : Prop where
  table : LogicalPtrace.Inv machine.logical
  processes : machine.logical.processes = P
  operations : OperationsInv machine.dispatcher P waiting
  stops : StopPart machine.logical.relations machine.dispatcher.stops

theorem Machine.Inv.between (h : machine.Inv P) :
    machine.Between P (Waiting machine.logical.waits) :=
  ⟨h.dispatch.table, h.processes, h.processes ▸ h.dispatch.operations, h.dispatch.stops⟩

theorem Machine.Between.inv (h : machine.Between P waiting)
    (hwaiting : ∀ task, Waiting machine.logical.waits task ↔ waiting task) : machine.Inv P :=
  ⟨⟨h.table, h.processes ▸ h.operations.congr hwaiting, h.stops⟩, h.processes⟩

theorem Machine.Between.withHost (h : machine.Between P waiting) (host : σ) :
    Machine.Between P waiting { machine with host } := { h with }

section Complete

def WaitEnded (before after : Nat → LogicalWaitRecord) (waiter : LogicalTaskKey) : Prop :=
  ∀ task, Waiting after task ↔ Waiting before task ∧ task ≠ waiter

theorem Machine.Between.endWait (h : machine.Between P waiting) (hwaiter : TaskKeyValid waiter) :
    Machine.Between P waiting
        { machine with logical := (endLogicalWait machine.logical waiter).1 } ∧
      WaitEnded machine.logical.waits (endLogicalWait machine.logical waiter).1.waits waiter := by
  obtain ⟨hprocesses, hrelations, hwaits⟩ := endLogicalWait_effect h.table.sound hwaiter
  refine ⟨⟨Inv.tableWrites.endWait h.table waiter, hprocesses.trans h.processes, h.operations, ?_⟩,
    hwaits⟩
  rw [hrelations]
  exact h.stops

theorem waiter_valid {wait : Nat} (h : findLogicalWait table waiter = some wait) :
    TaskKeyValid waiter := by
  rw [findLogicalWait] at h
  split_ifs at h with hargs
  tauto

theorem stopped_of_one {relation : LogicalPtraceRelation} (h : RelationLive slot relation)
    (hone : relation.eventCount = 1) (hexit : ¬EventIsExit relation.headEvent) :
    relation.state = .stopped := by
  have hzombie := mt (exit_iff_of_one h hone).mpr hexit
  have hruns : ¬RelationRuns relation.state := fun hyes => by
    have := h.runs hyes
    omega
  have hvalid := h.state
  cases hstate : relation.state <;> simp_all [RelationRuns, relationStateValid]

theorem select_spec (h : Inv table) (hselect : selectLogicalWaitEvent table waiter true = .ok found) :
    ∃ wait, findLogicalWait table waiter = some wait ∧
      Oldest table (table.waits wait).request found := by
  rcases hwait : findLogicalWait table waiter with _ | wait
  · simp [selectLogicalWaitEvent, h.initialized, hwait] at hselect
  · exact ⟨wait, rfl, (selectLogicalWaitEvent_oldest hwait).1 found hselect⟩

theorem noteDelivered_stops {R : Nat → LogicalPtraceRelation} {v : LogicalPtraceRelation}
    {dispatcher : LogicalPtraceDispatcher} (h : StopPart R dispatcher.stops)
    (hs : slot < kLogicalPtraceRelationCapacity) (hlive : RelationLive slot (R slot))
    (hone : (R slot).eventCount = 1)
    (hv : ¬EventIsExit (R slot).headEvent → v = R slot ∨ v = popRelationEvent (R slot)) :
    StopPart (Function.update R slot v)
      (noteDelivered dispatcher (R slot) (R slot).headEvent).stops := by
  have hcapacity : slot < kLogicalPtraceDispatchCapacity := by
    rwa [kLogicalPtraceDispatchCapacity_eq]
  rw [noteDelivered, hlive.slot_eq]
  split_ifs with hexit
  · rw [forgetStop, if_pos hcapacity]
    exact h.update (.inl rfl)
  · rw [rememberDeliveredStop, if_neg (not_le.mpr hcapacity)]
    refine h.update (.inr ?_)
    have hstate := stopped_of_one hlive hone hexit
    have hevent := hlive.headEvent_valid (by omega)
    rcases hv hexit with rfl | rfl
    · exact ⟨rfl, hlive.used, rfl, rfl, .current rfl hevent hstate fun _ => ⟨hone, rfl⟩⟩
    · exact ⟨rfl, hlive.used, rfl, rfl, .current rfl hevent hstate fun hcount =>
        absurd (by simp [popRelationEvent, decrementCount, hone]) hcount⟩

theorem noteDelivered_operations {dispatcher : LogicalPtraceDispatcher}
    (h : OperationsInv dispatcher P waiting) (relation : LogicalPtraceRelation)
    (event : LogicalPtraceEvent) :
    OperationsInv (noteDelivered dispatcher relation event) P waiting ∧
      (noteDelivered dispatcher relation event).operations = dispatcher.operations := by
  rw [noteDelivered, rememberDeliveredStop, forgetStop]
  split_ifs
  exacts [⟨(h.modifyStop _).noted, rfl⟩, ⟨h, rfl⟩, ⟨h, rfl⟩, ⟨(h.modifyStop _).noted, rfl⟩]

/-- A wait that selected an event always completes: with the event, or with the error of an output
that could not be written.  Either way it is registered no longer. -/
theorem completeSelectedWait_between (h : machine.Between P waiting)
    (hselect : selectLogicalWaitEvent machine.logical waiter true = .ok found)
    (honly : SelectsOnlyEvent machine.logical waiter) (io : DispatchIo σ) :
    ∃ after result, completeSelectedWait io machine waiter found = (after, .ok result) ∧
      after.Between P waiting ∧
      WaitEnded machine.logical.waits after.logical.waits waiter ∧
      after.dispatcher.operations = machine.dispatcher.operations := by
  obtain ⟨wait, hwait, hs, ⟨hused, hawaited, hcount, hkind⟩, hmatch, -⟩ :=
    select_spec h.table hselect
  have hone := honly found hselect
  generalize found.relationSlot = slot at hs hused hawaited hcount hkind hmatch hone
  subst hmatch
  have hlive := h.table.relations.live hs hused
  have hat := relationAt_eq h.table.sound hs hused
  have hcurrent : ¬((machine.logical.relations slot).generation ≠
      (matchAt machine.logical slot).relationGeneration ∨
      (machine.logical.relations slot).eventCount = 0 ∨
      (machine.logical.relations slot).headEvent.sequence ≠
        (matchAt machine.logical slot).eventSequence) := by
    simpa [matchAt] using hcount
  have hslot : (matchAt machine.logical slot).relationSlot = slot := rfl
  simp only [completeSelectedWait, hwait, hslot, hat, if_neg hcurrent]
  rcases writeWaitOutput io machine.host (machine.logical.waits wait).request
    (machine.logical.relations slot).tracee (machine.logical.relations slot).headEvent with
    ⟨host, error | result⟩
  · obtain ⟨hended, hwaits⟩ := (h.withHost host).endWait (waiter_valid hwait)
    exact ⟨_, _, rfl, hended, hwaits, rfl⟩
  · have hhead := hlive.headEvent_valid hcount
    have hcompletes := consumeLogicalWaitEvent_completes h.table.validate.queuesOk hwait
      (matchAt machine.logical slot) hs hlive.generation hhead.1.1
    have hok := (hcompletes.2 ⟨hused, rfl, hcount, rfl, hawaited, hkind⟩).1
    have hinv := Inv.tableWrites.consumeWait h.table waiter (matchAt machine.logical slot) true
    obtain ⟨hprocesses, hwaits, -, v, hrelations, hv⟩ :=
      consumeLogicalWaitEvent_grants h.table.sound _ hok
    rcases hconsumed : consumeLogicalWaitEvent machine.logical waiter
      (matchAt machine.logical slot) true with ⟨logical, error | event⟩ <;>
      rw [hconsumed] at hok hinv hprocesses hwaits hrelations
    · exact nomatch hok
    · obtain rfl : event = (machine.logical.relations slot).headEvent := Except.ok.inj hok
      obtain ⟨hoperations, hsame⟩ := noteDelivered_operations h.operations
        (machine.logical.relations slot) (machine.logical.relations slot).headEvent
      refine ⟨_, _, rfl, ⟨hinv, hprocesses.trans h.processes, hoperations, ?_⟩, hwaits, hsame⟩
      exact hrelations ▸ noteDelivered_stops h.stops hs hlive hone hv

end Complete

section Entry

variable {syscallNumber : Int} {state : LogicalPtraceOperationState}

structure CallerOk (P : Nat → LogicalProcessRecord) (caller : LogicalTaskKey)
    (syscallNumber : Int) : Prop where
  valid : TaskKeyValid caller
  process : HasProcess P caller.processId
  number : syscallNumber ≥ 0

theorem recordWait_inv (h : machine.Between P waiting) (hcaller : CallerOk P caller syscallNumber)
    (hstate : OperationStateValid state) (hnew : ¬waiting caller)
    (hwaits : ∀ task, Waiting machine.logical.waits task ↔
      waiting task ∨ state = .heldWait ∧ task = caller) (visibleResult : Int) :
    (recordWait machine caller syscallNumber state visibleResult).1.Inv P := by
  have hgrants : Grants (insertOperation machine.dispatcher caller syscallNumber state
    visibleResult) _ := h.operations.insert hcaller.valid hcaller.process hcaller.number hstate
  rw [recordWait]
  rcases hinsert : insertOperation machine.dispatcher caller syscallNumber state visibleResult with
    ⟨dispatcher, error | index⟩
  · obtain rfl := insertOperation_error hinsert
    refine .ite (fun hheld => ?_) fun hheld => h.inv fun task => by simp [hwaits, hheld]
    obtain ⟨hended, hwaits'⟩ := h.endWait hcaller.valid
    refine hended.inv fun task => (hwaits' task).trans ?_
    rw [hwaits]
    refine ⟨fun hyes => hyes.1.resolve_right fun heq => hyes.2 heq.2, fun hyes => ⟨.inl hyes, ?_⟩⟩
    rintro rfl
    exact hnew hyes
  · obtain ⟨hstops, hoperations⟩ := hgrants index (by rw [hinsert])
    rw [hinsert] at hstops hoperations
    have hafter : Machine.Between P (fun task => waiting task ∨ state = .heldWait ∧ task = caller)
        { machine with dispatcher } :=
      ⟨h.table, h.processes, hoperations, hstops.symm ▸ h.stops⟩
    exact hafter.inv hwaits

theorem selectOrHold_inv (h : machine.Between P waiting) (hcaller : CallerOk P caller syscallNumber)
    (hnew : ¬waiting caller)
    (hwaits : ∀ task, Waiting machine.logical.waits task ↔ waiting task ∨ task = caller)
    (honly : SelectsOnlyEvent machine.logical caller) (io : DispatchIo σ)
    (request : LogicalWaitRequest) :
    (selectOrHold io machine caller syscallNumber request).1.Inv P := by
  obtain ⟨hended, hendedWaits⟩ := h.endWait hcaller.valid
  have hgone : ∀ {W : Nat → LogicalWaitRecord}, WaitEnded machine.logical.waits W caller →
      ∀ task, Waiting W task ↔ waiting task := fun hended task => by
    refine (hended task).trans ?_
    rw [hwaits]
    refine ⟨fun hyes => hyes.1.resolve_right hyes.2, fun hyes => ⟨.inl hyes, ?_⟩⟩
    rintro rfl
    exact hnew hyes
  have hendedInv := hended.inv (hgone hendedWaits)
  have himmediate : ∀ {W : Nat → LogicalWaitRecord}, WaitEnded machine.logical.waits W caller →
      ∀ task, Waiting W task ↔ waiting task ∨
        LogicalPtraceOperationState.immediate = .heldWait ∧ task = caller := fun hended task => by
    simpa using hgone hended task
  rw [selectOrHold]
  dsimp only
  split
  · next found hselect =>
    refine .ite (fun _ => hendedInv) fun _ => ?_
    obtain ⟨after, result, hdone, hafter, hwaits', -⟩ :=
      completeSelectedWait_between h hselect honly io
    rw [hdone]
    exact recordWait_inv hafter hcaller (.inl rfl) hnew (himmediate hwaits') result
  · refine .ite (fun _ => hendedInv) fun _ => .ite (fun _ => ?_) fun _ => ?_
    · exact recordWait_inv (hended.withHost _) hcaller (.inl rfl) hnew (himmediate hendedWaits) _
    · refine recordWait_inv h hcaller (.inr (.inl rfl)) hnew (fun task => ?_) 0
      simpa using hwaits task
  · exact hendedInv
  · exact hendedInv

theorem eq_ok_of_toOption {ε α : Type} {x : Except ε α} {value : α} (h : x.toOption = some value) :
    x = .ok value := by
  cases x with
  | error => exact nomatch h
  | ok => exact congrArg Except.ok (Option.some.inj h)

theorem buildWaitRequest_waiter {arguments : Fin 6 → BitVec 64} {request : LogicalWaitRequest}
    (h : buildWaitRequest table caller syscallNumber arguments = some request) :
    request.waiter = caller := by
  rw [buildWaitRequest] at h
  split at h
  · exact nomatch h
  · dsimp only at h
    split_ifs at h
    · have hbuilt := eq_ok_of_toOption h
      rw [buildLogicalWait4Request] at hbuilt
      split_ifs at hbuilt <;> cases hbuilt <;> rfl
    · split at h
      · exact nomatch h
      · next type _ =>
        have hbuilt := eq_ok_of_toOption h
        rw [buildLogicalWaitIdRequest] at hbuilt
        cases type <;> dsimp only at hbuilt <;> split_ifs at hbuilt <;> cases hbuilt <;> rfl

/-- The wait that a call of `wait4` or `waitid` registers selects the only event of its relation. -/
def EntrySelectsOnlyEvent (table : LogicalPtraceTable) (caller : LogicalTaskKey)
    (syscallNumber : Int) (arguments : Fin 6 → BitVec 64) : Prop :=
  ∀ request ∈ buildWaitRequest table caller syscallNumber arguments,
    SelectsOnlyEvent (beginLogicalWait table request).1 caller

instance (table : LogicalPtraceTable) (caller : LogicalTaskKey) (syscallNumber : Int)
    (arguments : Fin 6 → BitVec 64) :
    Decidable (EntrySelectsOnlyEvent table caller syscallNumber arguments) :=
  inferInstanceAs (Decidable (∀ request ∈ buildWaitRequest table caller syscallNumber arguments, _))

theorem handleWaitEntry_inv (h : machine.Inv P) (hcaller : CallerOk P caller syscallNumber)
    (hnew : findOperation machine.dispatcher caller = none) {arguments : Fin 6 → BitVec 64}
    (honly : EntrySelectsOnlyEvent machine.logical caller syscallNumber arguments)
    (io : DispatchIo σ) :
    (handleWaitEntry io machine caller syscallNumber arguments).1.Inv P := by
  rw [handleWaitEntry]
  rcases hrequest : buildWaitRequest machine.logical caller syscallNumber arguments with _ | request
  · exact h
  · have hwaiter := buildWaitRequest_waiter hrequest
    have honly := honly request hrequest
    have hkeeps : Keeps machine.logical (beginLogicalWait machine.logical request) :=
      beginLogicalWait_keeps request
    have hgrants := beginLogicalWait_grants h.dispatch.table.sound request
    have hinv := Inv.tableWrites.beginWait h.dispatch.table request
    dsimp only
    rcases hbegin : beginLogicalWait machine.logical request with ⟨logical, error | wait⟩ <;>
      rw [hbegin] at honly hkeeps hgrants hinv
    · obtain rfl := hkeeps error rfl
      exact h
    · obtain ⟨hprocesses, hrelations, hwaits⟩ := hgrants wait rfl
      rw [hwaiter] at hwaits
      have hbetween : Machine.Between P (Waiting machine.logical.waits) { machine with logical } :=
        { h.between with
          table := hinv
          processes := hprocesses.trans h.processes
          stops := hrelations.symm ▸ h.dispatch.stops }
      exact selectOrHold_inv hbetween hcaller (h.dispatch.operations.not_waiting hnew) hwaits honly
        io request

end Entry

section Wake

theorem finishWait_inv {index : Nat} (h : machine.Between P waiting)
    (hs : index < kLogicalPtraceDispatchCapacity)
    (hused : (machine.dispatcher.operations index).Used)
    (hwaits : ∀ task, Waiting machine.logical.waits task ↔
      waiting task ∧ task ≠ (machine.dispatcher.operations index).caller) (visibleResult : Int) :
    Machine.Inv P
      { machine with dispatcher := finishWait machine.dispatcher index visibleResult } := by
  have hfinished : Machine.Between P _
      { machine with dispatcher := finishWait machine.dispatcher index visibleResult } :=
    { h with operations := h.operations.finish hs hused visibleResult }
  exact hfinished.inv hwaits

theorem taskKeyValid_of_call (h : ¬CallInvalid machine caller) : TaskKeyValid caller := by
  rw [CallInvalid] at h
  tauto

theorem tryWakeLogicalPtraceWait_inv (h : machine.Inv P)
    (honly : SelectsOnlyEvent machine.logical waiter) (io : DispatchIo σ) :
    (tryWakeLogicalPtraceWait io machine waiter).1.Inv P := by
  have hbetween := h.between
  rw [tryWakeLogicalPtraceWait]
  refine .ite (fun _ => h) fun hvalid => ?_
  have hwaiter := taskKeyValid_of_call hvalid
  rcases hfound : findOperation machine.dispatcher waiter with _ | index
  · exact h
  · refine .ite (fun _ => h) fun _ => ?_
    obtain ⟨hs, -, hused, hcaller⟩ := h.dispatch.operations.findOperation_some hfound
    split
    · exact h
    · obtain ⟨hended, hwaits⟩ := hbetween.endWait hwaiter
      exact finishWait_inv hended hs hused (hcaller ▸ hwaits) _
    · exact h
    · next found hselect =>
      obtain ⟨after, result, hdone, hafter, hwaits, hsame⟩ :=
        completeSelectedWait_between hbetween hselect honly io
      rw [hdone]
      refine finishWait_inv hafter hs (by rwa [hsame]) ?_ result
      rwa [hsame, hcaller]

end Wake

end HookSelf.PtraceDispatch
