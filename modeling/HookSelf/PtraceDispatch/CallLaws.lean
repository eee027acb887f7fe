import HookSelf.PtraceDispatch.WaitLaws

namespace HookSelf.PtraceDispatch

open SlotTable KeyedTable LogicalPtrace Postcondition

variable {σ : Type} {machine : Machine σ} {P : Nat → LogicalProcessRecord}
  {caller tracee : LogicalTaskKey} {syscallNumber : Int}

theorem Machine.Between.eraseOperation {waiting : LogicalTaskKey → Prop} {index : Nat}
    (h : machine.Between P waiting) (hfound : findOperation machine.dispatcher caller = some index) :
    Machine.Between P (fun task => waiting task ∧ task ≠ caller) { machine with
      dispatcher := PtraceDispatch.eraseOperation machine.dispatcher
        (machine.dispatcher.operations index).slot } := by
  obtain ⟨hs, hlive, hused, hcaller⟩ := h.operations.findOperation_some hfound
  rw [hlive.slot_eq, ← hcaller]
  exact { h with operations := h.operations.erase hs hused }

theorem eraseOperation_inv {index : Nat} (h : machine.Inv P)
    (hfound : findOperation machine.dispatcher caller = some index)
    (hstate : (machine.dispatcher.operations index).state ≠ .heldWait) :
    Machine.Inv P { machine with
      dispatcher := eraseOperation machine.dispatcher (machine.dispatcher.operations index).slot } := by
  refine (h.between.eraseOperation hfound).inv fun task => (and_iff_left_of_imp ?_).symm
  obtain ⟨hs, -, hused, rfl⟩ := h.dispatch.operations.findOperation_some hfound
  rintro hwaiting rfl
  exact hstate ((h.dispatch.operations.waiting_iff hs hused).mp hwaiting)

theorem dispatchLogicalPtraceExit_inv (h : machine.Inv P) (hasOutput : Bool) :
    (dispatchLogicalPtraceExit machine caller syscallNumber hasOutput).1.Inv P := by
  rw [dispatchLogicalPtraceExit]
  refine .ite (fun _ => h) fun _ => ?_
  rcases hfound : findOperation machine.dispatcher caller with _ | index
  · exact h
  · exact .ite (fun _ => h) fun _ => .ite (fun _ => h) fun hstate => eraseOperation_inv h hfound hstate

theorem cancelLogicalPtraceDispatch_inv (h : machine.Inv P) :
    (cancelLogicalPtraceDispatch machine caller).1.Inv P := by
  rw [cancelLogicalPtraceDispatch]
  refine .ite (fun _ => h) fun hvalid => ?_
  rcases hfound : findOperation machine.dispatcher caller with _ | index
  · exact h
  · refine .ite (fun _ => ?_) fun hstate => eraseOperation_inv h hfound hstate
    obtain ⟨hended, hwaits⟩ := (h.between.eraseOperation hfound).endWait
      (taskKeyValid_of_call hvalid)
    have hinv := hended.inv hwaits
    have hkeeps : Keeps machine.logical (endLogicalWait machine.logical caller) :=
      endLogicalWait_keeps caller
    rcases hresult : endLogicalWait machine.logical caller with ⟨logical, error | _⟩ <;>
      rw [hresult] at hkeeps hinv
    · obtain rfl := hkeeps error rfl
      cases error <;> first | exact h | exact hinv
    · exact hinv

theorem StopPhase.published {stop : LogicalPtraceDispatchStop}
    {relation v : LogicalPtraceRelation} (h : StopPhase stop relation) :
    StopPhase (publishedStop stop) v := by
  refine .idle ?_ rfl
  cases h with
  | idle hflags | current hflags | attach hflags | interrupt hflags =>
    simp only [publishedStop, hflags]
    decide

theorem publishLogicalPtraceStop_inv (h : machine.Inv P) (event : LogicalPtraceEvent) :
    (publishLogicalPtraceStop machine tracee event).1.Inv P := by
  rw [publishLogicalPtraceStop]
  refine .ite (fun _ => h) fun _ => ?_
  rcases hslot : findLogicalPtraceRelation machine.logical tracee with _ | slot
  · exact h
  · obtain ⟨hlt, hrelation, -⟩ := h.dispatch.table.sound.findRelation_some hslot
    obtain ⟨ensured, hensure, hinv, hlive⟩ := h.dispatch.ensure hlt hrelation.used
    have hensured : Machine.Inv P { machine with dispatcher := ensured } := ⟨hinv, h.processes⟩
    simp only [hensure, hrelation.slot_eq]
    refine .ite (fun _ => hensured) fun _ => .ite (fun _ => hensured) fun _ =>
      .ite (fun _ => hensured) fun _ => ?_
    have hkeeps : Keeps machine.logical (queueLogicalPtraceEvent machine.logical tracee event) :=
      queueLogicalPtraceEvent_keeps tracee event
    have hgrants : Grants (queueLogicalPtraceEvent machine.logical tracee event) _ :=
      queueLogicalPtraceEvent_grants event
    have htable := Inv.tableWrites.queueEvent h.dispatch.table tracee event
    rcases hresult : queueLogicalPtraceEvent machine.logical tracee event with
      ⟨logical, error | sequence⟩ <;>
      rw [hresult] at hkeeps hgrants htable
    · obtain rfl := hkeeps error rfl
      exact hensured
    · obtain ⟨found, hfound, hwrite⟩ := hgrants sequence rfl
      obtain rfl := Option.some.inj (hslot.symm.trans hfound)
      refine ⟨(hinv.writeBoth htable hwrite (.inr ?_)).noted, hwrite.processes.trans h.processes⟩
      exact { hlive with phase := hlive.phase.published }

theorem insertImmediate_inv (h : machine.Inv P) (hcaller : CallerOk P caller syscallNumber)
    (result : Int) : Machine.Inv P { machine with
      dispatcher :=
        (insertOperation machine.dispatcher caller syscallNumber .immediate result).1 } := by
  have hgrants : Grants (insertOperation machine.dispatcher caller syscallNumber .immediate result)
    _ := h.between.operations.insert hcaller.valid hcaller.process hcaller.number (.inl rfl)
  rcases hinsert : insertOperation machine.dispatcher caller syscallNumber .immediate result with
    ⟨dispatcher, error | slot⟩
  · obtain rfl := insertOperation_error hinsert
    exact h
  · rw [hinsert] at hgrants
    obtain ⟨hstops, hoperations⟩ := hgrants slot rfl
    have hafter : Machine.Between P _ { machine with dispatcher } :=
      { h.between with operations := hoperations, stops := hstops.symm ▸ h.dispatch.stops }
    exact hafter.inv fun task => by simp

theorem dispatchLogicalPtraceEntry_inv (h : machine.Inv P) {arguments : Fin 6 → BitVec 64}
    (honly : syscallNumber = nrWait4 ∨ syscallNumber = nrWaitId →
      EntrySelectsOnlyEvent machine.logical caller syscallNumber arguments)
    (io : DispatchIo σ) (hasOutput : Bool) :
    (dispatchLogicalPtraceEntry io machine caller syscallNumber arguments hasOutput).1.Inv P := by
  rw [dispatchLogicalPtraceEntry]
  refine .ite (fun _ => h) fun hargs => .ite (fun _ => h) fun hnew => ?_
  simp only [not_or, not_not] at hargs hnew
  obtain ⟨-, -, -, hvalid, hprocess⟩ := hargs
  have hprocess : HasProcess P caller.processId := by
    rw [← h.processes]
    exact (hasProcess_of_task h.dispatch.table.initialized hvalid).mp hprocess
  refine .ite (fun hwait => ?_) fun _ => .ite (fun _ => h) fun hptrace => ?_
  · have hnumber : syscallNumber ≥ 0 := by
      rcases hwait with rfl | rfl <;> decide
    exact handleWaitEntry_inv h ⟨hvalid, hprocess, hnumber⟩ hnew (honly hwait) io
  · have hnumber : syscallNumber ≥ 0 := by
      rw [not_not.mp hptrace]
      decide
    have hentered := handlePtraceEntry_inv h io caller arguments
    generalize handlePtraceEntry io machine caller arguments = entry at hentered ⊢
    obtain ⟨entered, error | outcome⟩ := entry
    · exact hentered
    · have hinserted := insertImmediate_inv hentered ⟨hvalid, hprocess, hnumber⟩ outcome.result
      refine .ite (fun _ => hentered) fun _ => ?_
      split
      · next hinsert => rwa [hinsert] at hinserted
      · next hinsert => rwa [hinsert] at hinserted

theorem insertProcess_inv (h : DispatchInv machine.dispatcher machine.logical)
    (key : LogicalProcessKey) (parent : Option LogicalProcessKey) (group dumpable : Int)
    (ptracer : LogicalPidIdentity) :
    DispatchInv machine.dispatcher
      (insertLogicalProcess machine.logical key parent group dumpable ptracer).1 := by
  have htable := h.table.insertProcess key parent group dumpable ptracer
  have hgrants := insertLogicalProcess_grants h.table.sound key parent group dumpable ptracer
  rcases hresult : (insertLogicalProcess machine.logical key parent group dumpable ptracer).2 with
    error | slot
  · rw [insertLogicalProcess_keeps _ _ _ _ _ error hresult]
    exact h
  · obtain ⟨hwaits, hrelations, hprocesses⟩ := hgrants slot hresult
    exact ⟨htable, hwaits.symm ▸ h.operations.mono hprocesses, hrelations.symm ▸ h.stops⟩

end HookSelf.PtraceDispatch
