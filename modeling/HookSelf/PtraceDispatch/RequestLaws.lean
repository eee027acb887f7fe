import HookSelf.PtraceDispatch.StopLaws

namespace HookSelf.PtraceDispatch

open SlotTable KeyedTable LogicalPtrace Postcondition

variable {σ : Type} {dispatcher : LogicalPtraceDispatcher} {logical after : LogicalPtraceTable}
  {machine : Machine σ} {slot : Nat} {target caller : LogicalTaskKey} {v : LogicalPtraceRelation}
  {P : Nat → LogicalProcessRecord}

theorem Machine.Inv.ite {α : Type} {c : Prop} [Decidable c] {x y : Machine σ × α}
    (hx : c → x.1.Inv P) (hy : ¬c → y.1.Inv P) : (if c then x else y).1.Inv P :=
  keeps_ite hx hy

section Resume

theorem exit_iff_of_one {relation : LogicalPtraceRelation} (h : RelationLive slot relation)
    (hone : relation.eventCount = 1) :
    EventIsExit relation.headEvent ↔ relation.state = .exitZombie := by
  have hqueued : relation.queued = [relation.headEvent] := by
    rw [queued_eq_cons h.head (by omega), hone]
    rfl
  rw [← h.exit_iff, hqueued]
  simp [EndsInExit]

theorem consumeDelivered_inv (h : DispatchInv dispatcher logical)
    (hat : AtStop dispatcher logical slot)
    (hslot : findLogicalPtraceRelation logical target = some slot) :
    let consumed := consumeDelivered logical target slot (dispatcher.stops slot).current
    DispatchInv dispatcher consumed.1 ∧ consumed.1.processes = logical.processes ∧
      findLogicalPtraceRelation consumed.1 target = some slot := by
  dsimp only
  rw [consumeDelivered]
  dsimp only
  split_ifs with hzero hother
  · exact ⟨h, rfl, hslot⟩
  · exact ⟨h, rfl, hslot⟩
  · obtain ⟨hlt, hlive, htracee⟩ := h.table.sound.findRelation_some hslot
    rcases hresult : (consumeLogicalPtraceEvent logical target false true).2 with e | event
    · rw [consumeLogicalPtraceEvent_keeps _ _ _ e hresult]
      exact ⟨h, rfl, hslot⟩
    · obtain ⟨found, hfound, hwrite⟩ := consumeLogicalPtraceEvent_grants event hresult
      obtain rfl := Option.some.inj (hslot.symm.trans hfound)
      have hwrite := hwrite fun hexit =>
        nomatch hat.state.symm.trans ((exit_iff_of_one hlive (hat.queue hzero).1).mp hexit)
      have hinv := Inv.tableWrites.consumeEvent h.table target false true
      refine ⟨h.writeRelation hinv hwrite (.inr { hat.stop with
        used := hlive.used
        phase := .current hat.flags hat.event hat.state fun hcount => absurd ?_ hcount }),
        hwrite.processes, ?_⟩
      · rw [popRelationEvent, (hat.queue hzero).1]
        rfl
      · have hself := findRelation_self hinv hlt (by
          rw [hwrite.relations, Function.update_self]; exact hlive.used)
        rw [hwrite.relations, Function.update_self] at hself
        exact (congrArg _ htracee.symm).trans hself

structure WrittenOrKept (logical after : LogicalPtraceTable) (slot : Nat)
    (result : Except Nat Unit) : Prop where
  inv : Inv after
  kept : ∀ e, result = .error e → after = logical
  written : result = .ok () → ∃ v, WritesRelation logical after slot v

theorem writtenOrKept_numbered {α : Type} {outcome : Outcome α}
    (hslot : findLogicalPtraceRelation logical target = some slot) (hinv : Inv outcome.1)
    (hkeeps : Keeps logical outcome)
    (hgrants : Grants outcome fun after _ => ∃ found,
      findLogicalPtraceRelation logical target = some found ∧
        ∃ v, WritesRelation logical after found v) :
    WrittenOrKept logical outcome.1 slot (numbered outcome.2) := by
  obtain ⟨after, e | value⟩ := outcome
  · exact ⟨hinv, fun _ _ => hkeeps e rfl, fun hok => nomatch hok⟩
  · refine ⟨hinv, fun _ herror => (nomatch herror), fun _ => ?_⟩
    obtain ⟨found, hfound, hwrite⟩ := hgrants value rfl
    rwa [Option.some.inj (hslot.symm.trans hfound)]

theorem resumeTarget_writtenOrKept (h : Inv logical)
    (hslot : findLogicalPtraceRelation logical target = some slot) (request : PtraceRequest)
    (signalNumber : Int) (current : LogicalPtraceEvent) :
    let resumed := resumeTarget logical target request signalNumber current
    WrittenOrKept logical resumed.1 slot resumed.2.2 := by
  have hresume : ∀ mode, WrittenOrKept logical (resumeLogicalPtraceRelation logical target mode).1
      slot (numbered (resumeLogicalPtraceRelation logical target mode).2) := fun mode =>
    writtenOrKept_numbered hslot (Inv.tableWrites.resumeRelation h target mode)
      (resumeLogicalPtraceRelation_keeps target mode) (resumeLogicalPtraceRelation_grants mode)
  cases request with
  | detach =>
    refine writtenOrKept_numbered hslot (Inv.tableWrites.eraseRelation h target false)
      (eraseLogicalPtraceRelation_keeps target false) fun value hok => ?_
    obtain ⟨found, hfound, hwrite⟩ := eraseLogicalPtraceRelation_grants h.sound false value hok
    exact ⟨found, hfound, _, hwrite⟩
  | cont | syscall | singleStep | kill => exact hresume _
  | listen =>
    exact writtenOrKept_numbered hslot (Inv.tableWrites.listenRelation h target)
      (listenLogicalPtraceRelation_keeps target) listenLogicalPtraceRelation_grants
  | _ => exact ⟨h, fun _ _ => rfl, fun hok => nomatch hok⟩

theorem handleResume_inv (h : machine.Inv P) (hat : AtStop machine.dispatcher machine.logical slot)
    (hslot : findLogicalPtraceRelation machine.logical target = some slot)
    (request : PtraceRequest) (rawSignal : Nat) :
    (handleResume machine target request rawSignal slot slot).1.Inv P := by
  obtain ⟨hinv, hprocesses, hfound⟩ := consumeDelivered_inv h.dispatch hat hslot
  have hprocesses := hprocesses.trans h.processes
  obtain ⟨hlt, hlive, -⟩ := h.dispatch.table.sound.findRelation_some hslot
  rw [handleResume]
  refine .ite (fun _ => h) fun _ => .ite (fun _ => h) fun _ => ?_
  rcases hconsumed : consumeDelivered machine.logical target slot
    (machine.dispatcher.stops slot).current with ⟨logical', error | _⟩ <;>
    simp only [hconsumed] at hinv hprocesses hfound ⊢
  · exact ⟨hinv, hprocesses⟩
  · have hresumed := resumeTarget_writtenOrKept hinv.table hfound request
      (if request = .kill then sigKill else rawSignal) (machine.dispatcher.stops slot).current
    rcases hresult : resumeTarget logical' target request
      (if request = .kill then sigKill else rawSignal) (machine.dispatcher.stops slot).current with
      ⟨after, filled, error | _⟩ <;>
      simp only [hresult] at hresumed ⊢
    · rw [hresumed.kept _ rfl]
      exact ⟨hinv, hprocesses⟩
    · obtain ⟨v, hwrite⟩ := hresumed.written rfl
      rw [hlive.slot_eq, forgetStop, if_pos (by rwa [kLogicalPtraceDispatchCapacity_eq])]
      exact ⟨(hinv.writeBoth hresumed.inv hwrite (.inl rfl)).noted,
        hwrite.processes.trans hprocesses⟩

end Resume

section Stopped

theorem Machine.Inv.withHost (h : machine.Inv P) (host : σ) :
    Machine.Inv P { machine with host } := ⟨h.dispatch, h.processes⟩

theorem handleSetRegset_inv (h : machine.Inv P)
    (hat : AtStop machine.dispatcher machine.logical slot) (io : DispatchIo σ)
    (caller : LogicalTaskKey) (noteType vectorAddress : Nat) :
    (handleSetRegset io machine caller noteType vectorAddress slot slot).1.Inv P := by
  have htable := h.dispatch.table
  rw [handleSetRegset]
  split
  · exact h.withHost _
  · refine .ite (fun _ => .ite (fun _ => h.withHost _) fun _ => ?_) fun _ =>
      .ite (fun _ => .ite (fun _ => h.withHost _) fun _ => ?_) fun _ => h.withHost _
    · split
      · exact h.withHost _
      · next host buffer _ =>
        exact rewriteStop_inv (h.withHost host) hat
          (updateQueuedRegisters_rewritten htable hat.lt hat.stop.used _ _ _)
          (fun _ he => eventValid_withRegisterWords he buffer.registers) fun _ => rfl
    · split
      · exact h.withHost _
      · next host buffer _ =>
        exact rewriteStop_inv (h.withHost host) hat
          (updateQueuedSyscallNumber_rewritten htable hat.lt hat.stop.used _)
          (fun _ he => eventValid_withSyscallNumber he buffer.int32) fun _ => rfl

theorem handlePokeUser_inv (h : machine.Inv P)
    (hat : AtStop machine.dispatcher machine.logical slot) (offset : Nat) (value : BitVec 64) :
    (handlePokeUser machine offset value slot slot).1.Inv P := by
  rw [handlePokeUser]
  exact .ite (fun _ => h) fun _ => rewriteStop_inv h hat
    (updateQueuedRegisters_rewritten h.dispatch.table hat.lt hat.stop.used _ _ _)
    (fun _ he => he) fun _ => rfl

theorem setSiginfo_inv (h : machine.Inv P)
    (hat : AtStop machine.dispatcher machine.logical slot) (io : DispatchIo σ)
    (caller : LogicalTaskKey) (data : Nat) :
    (setSiginfo io machine caller data slot slot).1.Inv P := by
  rw [setSiginfo]
  split
  · exact h.withHost _
  · next host buffer _ =>
    refine rewriteStop_inv (h.withHost host) hat
      (updateQueuedSiginfo_rewritten h.dispatch.table hat.lt hat.stop.used _) (fun _ he => ?_)
      fun _ => rfl
    exact he.setFlag (by decide) buffer.siginfo

theorem setOptions_inv (h : machine.Inv P)
    (hat : AtStop machine.dispatcher machine.logical slot)
    (hslot : findLogicalPtraceRelation machine.logical target = some slot) (options : BitVec 64) :
    Machine.Inv P
      { machine with logical := (setLogicalPtraceOptions machine.logical target options).1 } := by
  have hinv := Inv.tableWrites.setOptions h.dispatch.table target options
  rcases hresult : (setLogicalPtraceOptions machine.logical target options).2 with e | value
  · rw [setLogicalPtraceOptions_keeps _ _ e hresult]
    exact h
  · obtain ⟨found, hfound, hwrite⟩ := setLogicalPtraceOptions_grants options value hresult
    obtain rfl := Option.some.inj (hslot.symm.trans hfound)
    exact ⟨h.dispatch.writeRelation hinv hwrite
      (.inr (hat.live ⟨Iff.rfl, rfl, rfl, rfl, rfl, rfl⟩ hat.event rfl)),
      hwrite.processes.trans h.processes⟩

theorem stoppedRequest_inv (h : machine.Inv P)
    (hat : AtStop machine.dispatcher machine.logical slot)
    (hslot : findLogicalPtraceRelation machine.logical target = some slot) (io : DispatchIo σ)
    (caller : LogicalTaskKey) (request : PtraceRequest) (address data : BitVec 64) :
    (stoppedRequest io machine caller target request address data slot slot).1.Inv P := by
  cases request with
  | cont | syscall | singleStep | kill | detach | listen => exact handleResume_inv h hat hslot _ _
  | setOptions => exact setOptions_inv h hat hslot data
  | getEventMessage | getSiginfo => exact .ite (fun _ => h) fun _ => h.withHost _
  | setSiginfo => exact .ite (fun _ => h) fun _ => setSiginfo_inv h hat io caller _
  | setRegset => exact handleSetRegset_inv h hat io caller _ _
  | pokeUser => exact handlePokeUser_inv h hat _ data
  | getSyscallInfo =>
    rw [stoppedRequest]
    split <;> exact h.withHost _
  | getRegset | peekText | peekData | pokeText | pokeData | peekUser => exact h.withHost _
  | _ => exact h

theorem handleStoppedRequest_inv (h : machine.Inv P)
    (hslot : findLogicalPtraceRelation machine.logical target = some slot) (io : DispatchIo σ)
    (caller : LogicalTaskKey) (request : PtraceRequest) (address data : BitVec 64) :
    (handleStoppedRequest io machine caller target request address data slot).1.Inv P := by
  obtain ⟨hlt, hlive, -⟩ := h.dispatch.table.sound.findRelation_some hslot
  obtain ⟨hinv, hstop⟩ := h.dispatch.getDeliveredStop hlt hlive.used
  rw [handleStoppedRequest]
  rcases hfound : getDeliveredStop machine.dispatcher (machine.logical.relations slot) with
    ⟨dispatcher, _ | stop⟩ <;>
    rw [hfound] at hinv hstop
  · exact ⟨hinv, h.processes⟩
  · obtain ⟨rfl, hat⟩ := hstop stop rfl
    have hensured : Machine.Inv P { machine with dispatcher } := ⟨hinv, h.processes⟩
    exact stoppedRequest_inv hensured hat hslot io caller request address data

end Stopped

section Entry

variable {stop : LogicalPtraceDispatchStop} {relation : LogicalPtraceRelation}

theorem StopPhase.pendAttach (h : StopPhase stop relation) (hkind : relation.attachKind = .attach)
    (hstate : relation.state = .attachPending) :
    StopPhase { stop with flags := stop.flags ||| kLogicalPtraceStopAttachPending } relation := by
  cases h with
  | idle hflags hnone => exact .attach (by rw [hflags]; rfl) hnone hkind hstate
  | current _ _ hstopped => exact nomatch hstate.symm.trans hstopped
  | attach hflags hnone => exact .attach (by rw [hflags]; rfl) hnone hkind hstate
  | interrupt _ _ hseize => exact nomatch hkind.symm.trans hseize

theorem StopPhase.pendInterrupt (h : StopPhase stop relation) (hkind : relation.attachKind = .seize)
    (hstate : relation.state ≠ .stopped ∧ relation.state ≠ .exitZombie) :
    StopPhase { stop with flags := stop.flags ||| kLogicalPtraceStopInterruptPending } relation := by
  cases h with
  | idle hflags hnone => exact .interrupt (by rw [hflags]; rfl) hnone hkind hstate
  | current _ _ hstopped => exact absurd hstopped hstate.1
  | attach _ _ hattach => exact nomatch hkind.symm.trans hattach
  | interrupt hflags hnone => exact .interrupt (by rw [hflags]; rfl) hnone hkind hstate

theorem createRelation_inv (h : machine.Inv P) (tracee tracer : LogicalTaskKey)
    (attachKind : LogicalPtraceAttachKind) (options : BitVec 64) :
    Machine.Inv P { machine with
      logical := (createLogicalPtraceRelation machine.logical tracee tracer attachKind .normal
        options).1 } := by
  have hinv := Inv.tableWrites.createRelation h.dispatch.table tracee tracer attachKind .normal options
  rcases hresult : (createLogicalPtraceRelation machine.logical tracee tracer attachKind .normal
    options).2 with e | slot
  · rw [createLogicalPtraceRelation_keeps _ _ _ _ _ e hresult]
    exact h
  · obtain ⟨hlt, hunused, v, hwrite, -⟩ :=
      createLogicalPtraceRelation_grants h.dispatch.table.sound attachKind .normal options slot hresult
    exact ⟨h.dispatch.writeRelation hinv hwrite
      (.inl ((h.dispatch.stops slot hlt).of_unused hunused)), hwrite.processes.trans h.processes⟩

theorem claimFake_inv (h : machine.Inv P) (task : LogicalTaskKey) :
    Machine.Inv P
      { machine with logical := (claimLogicalFakeTraceme machine.logical task).1 } := by
  obtain ⟨hprocesses, hwaits, hrelations⟩ := claimLogicalFakeTraceme_records task
  refine ⟨⟨h.dispatch.table.claimFake task, ?_, ?_⟩, hprocesses.trans h.processes⟩
  · rw [hprocesses, hwaits]
    exact h.dispatch.operations
  · rw [hrelations]
    exact h.dispatch.stops

theorem handleTraceme_inv (h : machine.Inv P) (io : DispatchIo σ) (caller : LogicalTaskKey) :
    (handleTraceme io machine caller).1.Inv P := by
  rw [handleTraceme]
  split
  · next host _ _ =>
    refine .ite (fun _ => h.withHost _) fun _ => .ite (fun _ => ?_) fun _ => h.withHost _
    exact (claimFake_inv h caller).withHost host
  · refine .ite (fun _ => h.withHost _) fun _ => ?_
    dsimp only
    split
    · exact h.withHost _
    · exact (createRelation_inv h caller _ .traceme 0).withHost _

theorem handleAttach_inv (h : machine.Inv P) (io : DispatchIo σ) (caller target : LogicalTaskKey)
    (seize : Bool) (address data : BitVec 64) :
    (handleAttach io machine caller target seize address data).1.Inv P := by
  rw [handleAttach]
  refine .ite (fun _ => h) fun _ => ?_
  split
  · exact h.withHost _
  · next host _ =>
    generalize hkind : (if seize then LogicalPtraceAttachKind.seize else .attach) = kind
    generalize hoptions : (if seize then data else 0) = options
    have hcreated := createRelation_inv h target caller kind options
    have hgrants : Grants (createLogicalPtraceRelation machine.logical target caller kind .normal
      options) _ := createLogicalPtraceRelation_grants h.dispatch.table.sound kind .normal options
    rcases hresult : createLogicalPtraceRelation machine.logical target caller kind .normal
      options with ⟨logical, error | created⟩ <;>
      rw [hresult] at hcreated hgrants
    · exact hcreated.withHost _
    · obtain ⟨hlt, -, v, hwrite, hused, -, htracee, hvkind, hvstate⟩ := hgrants created rfl
      have hrecord : logical.relations created = v := by
        rw [hwrite.relations, Function.update_self]
      have htable : Inv logical := hcreated.dispatch.table
      have hrelation := htable.relations.live hlt (by rwa [hrecord])
      have hfound := findRelation_self htable hlt hrelation.used
      obtain ⟨ensured, hensure, hinv, hlive⟩ := hcreated.dispatch.ensure hlt hrelation.used
      rw [hrecord, htracee] at hfound
      simp only [hfound, hensure, Option.bind_some, Option.map_some, hrelation.slot_eq]
      refine .ite (fun _ => ⟨hinv, hcreated.processes⟩) fun hattach => ⟨?_, hcreated.processes⟩
      rw [if_neg hattach] at hkind
      rw [← hkind, ← hrecord] at hvkind hvstate
      refine (hinv.writeStop (.inr ?_)).noted
      exact { hlive with phase := hlive.phase.pendAttach hvkind hvstate }

theorem handleInterrupt_inv (h : machine.Inv P)
    (hslot : findLogicalPtraceRelation machine.logical target = some slot)
    (address data : BitVec 64) :
    (handleInterrupt machine target address data slot).1.Inv P := by
  obtain ⟨hlt, hrelation, -⟩ := h.dispatch.table.sound.findRelation_some hslot
  obtain ⟨ensured, hensure, hinv, hlive⟩ := h.dispatch.ensure hlt hrelation.used
  simp only [handleInterrupt, hensure, hrelation.slot_eq]
  refine .ite (fun _ => ⟨hinv, h.processes⟩) fun hallowed => ⟨?_, h.processes⟩
  simp only [not_or, not_not] at hallowed
  obtain ⟨-, -, hkind, hstopped, hzombie, -⟩ := hallowed
  exact (hinv.writeStop (.inr
    { hlive with phase := hlive.phase.pendInterrupt hkind ⟨hstopped, hzombie⟩ })).noted

/-- Every ptrace request, handled or refused, keeps the invariant. -/
theorem handlePtraceEntry_inv (h : machine.Inv P) (io : DispatchIo σ) (caller : LogicalTaskKey)
    (arguments : Fin 6 → BitVec 64) :
    (handlePtraceEntry io machine caller arguments).1.Inv P := by
  rw [handlePtraceEntry]
  refine .ite (fun _ => handleTraceme_inv h io caller) fun _ =>
    .ite (fun _ => .ite (fun _ => h) fun _ => h) fun _ => ?_
  split
  · exact .ite (fun _ => h.withHost _) fun _ => .ite (fun _ => h.withHost _) fun _ => h.withHost _
  · next host target _ =>
    have h := h.withHost host
    refine .ite (fun _ => h) fun _ => .ite (fun _ => handleAttach_inv h io caller target _ _ _)
      fun _ => ?_
    dsimp only
    split
    · exact h
    · next slot hslot =>
      exact .ite (fun _ => h) fun _ => .ite (fun _ => handleInterrupt_inv h hslot _ _)
        fun _ => handleStoppedRequest_inv h hslot io caller _ _ _

end Entry

end HookSelf.PtraceDispatch
