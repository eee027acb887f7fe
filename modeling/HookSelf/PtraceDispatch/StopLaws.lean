import HookSelf.PtraceDispatch.OperationLaws

/-! The requests that need a delivered stop keep the invariant: they change the relation and the stop
record of one slot together. -/

namespace HookSelf.PtraceDispatch

open SlotTable KeyedTable LogicalPtrace Postcondition

variable {σ : Type} {dispatcher : LogicalPtraceDispatcher} {logical after : LogicalPtraceTable}
  {slot : Nat} {v : LogicalPtraceRelation}
  {f : LogicalPtraceDispatchStop → LogicalPtraceDispatchStop} {P : Nat → LogicalProcessRecord}

/-- The invariant of a machine over the given processes, which only the table's own calls change. -/
structure Machine.Inv (P : Nat → LogicalProcessRecord) (machine : Machine σ) : Prop where
  dispatch : DispatchInv machine.dispatcher machine.logical
  processes : machine.logical.processes = P

section Writes

theorem DispatchInv.noted (h : DispatchInv dispatcher logical) :
    DispatchInv (noteDispatch dispatcher) logical :=
  { h with operations := h.operations.noted }

theorem DispatchInv.writeBoth (h : DispatchInv dispatcher logical) (hafter : Inv after)
    (hwrite : WritesRelation logical after slot v)
    (hstop : StopOk slot (f (dispatcher.stops slot)) v) :
    DispatchInv (modifyStop dispatcher slot f) after where
  table := hafter
  operations := by
    rw [hwrite.processes, hwrite.waits]
    exact h.operations.modifyStop f
  stops := by
    rw [hwrite.relations]
    exact h.stops.update hstop

theorem DispatchInv.writeRelation (h : DispatchInv dispatcher logical) (hafter : Inv after)
    (hwrite : WritesRelation logical after slot v)
    (hstop : StopOk slot (dispatcher.stops slot) v) : DispatchInv dispatcher after where
  table := hafter
  operations := by
    rw [hwrite.processes, hwrite.waits]
    exact h.operations
  stops := by
    rw [hwrite.relations]
    exact h.stops.updateRelation hstop

theorem DispatchInv.writeStop (h : DispatchInv dispatcher logical)
    (hstop : StopOk slot (f (dispatcher.stops slot)) (logical.relations slot)) :
    DispatchInv (modifyStop dispatcher slot f) logical :=
  { h with
    operations := h.operations.modifyStop f
    stops := h.stops.updateStop hstop }

theorem WritesRelation.refl (logical : LogicalPtraceTable) (slot : Nat) :
    WritesRelation logical logical slot (logical.relations slot) :=
  ⟨rfl, rfl, (Function.update_eq_self slot _).symm⟩

end Writes

theorem findRelation_self (h : Inv logical) (hs : slot < kLogicalPtraceRelationCapacity)
    (hused : (logical.relations slot).Used) :
    findLogicalPtraceRelation logical (logical.relations slot).tracee = some slot := by
  rw [h.findRelation_eq]
  exact h.relations.distinct.lookup_eq_some.mpr ⟨hs, hused, rfl⟩

section Ensure

theorem DispatchInv.ensure (h : DispatchInv dispatcher logical)
    (hs : slot < kLogicalPtraceRelationCapacity) (hused : (logical.relations slot).Used) :
    ∃ ensured, ensureStopRecord dispatcher (logical.relations slot) = some ensured ∧
      DispatchInv ensured logical ∧
      StopLive slot (ensured.stops slot) (logical.relations slot) := by
  have hlive := h.table.relations.live hs hused
  have hrange : ¬(logical.relations slot).slot ≥ kLogicalPtraceDispatchCapacity := by
    rw [hlive.slot_eq, kLogicalPtraceDispatchCapacity_eq]
    exact not_le.mpr hs
  simp only [ensureStopRecord, if_neg hrange]
  rw [hlive.slot_eq]
  split_ifs with hother
  · have hnew : StopLive slot
        { clearStop slot with
          relationGeneration := (logical.relations slot).generation
          tracee := (logical.relations slot).tracee } (logical.relations slot) :=
      ⟨rfl, hused, rfl, rfl, .idle rfl rfl⟩
    refine ⟨_, rfl, h.writeStop (.inr hnew), ?_⟩
    simpa [modifyStop] using hnew
  · refine ⟨_, rfl, h, (h.stops slot hs).resolve_left fun hclear => hother (.inl ?_)⟩
    rw [hclear]
    exact hlive.generation.symm

structure AtStop (dispatcher : LogicalPtraceDispatcher) (logical : LogicalPtraceTable)
    (slot : Nat) : Prop where
  lt : slot < kLogicalPtraceRelationCapacity
  stop : StopLive slot (dispatcher.stops slot) (logical.relations slot)
  flags : (dispatcher.stops slot).flags = kLogicalPtraceStopCurrentValid
  event : EventValid (dispatcher.stops slot).current
  state : (logical.relations slot).state = .stopped
  queue : (logical.relations slot).eventCount ≠ 0 → (logical.relations slot).eventCount = 1 ∧
    (logical.relations slot).headEvent.sequence = (dispatcher.stops slot).current.sequence

theorem StopLive.atStop {stop : LogicalPtraceDispatchStop} {relation : LogicalPtraceRelation}
    (h : StopLive slot stop relation) (hcurrent : CurrentValid stop) :
    stop.flags = kLogicalPtraceStopCurrentValid ∧ EventValid stop.current ∧
      relation.state = .stopped ∧ (relation.eventCount ≠ 0 →
        relation.eventCount = 1 ∧ relation.headEvent.sequence = stop.current.sequence) := by
  cases h.phase with
  | idle hflags => exact absurd hcurrent (by simp [CurrentValid, hflags])
  | current hflags hevent hstate hqueue => exact ⟨hflags, hevent, hstate, hqueue⟩
  | attach hflags => exact absurd hcurrent (by rw [CurrentValid, hflags]; decide)
  | interrupt hflags => exact absurd hcurrent (by rw [CurrentValid, hflags]; decide)

theorem DispatchInv.getDeliveredStop (h : DispatchInv dispatcher logical)
    (hs : slot < kLogicalPtraceRelationCapacity) (hused : (logical.relations slot).Used) :
    let found := getDeliveredStop dispatcher (logical.relations slot)
    DispatchInv found.1 logical ∧ ∀ stop ∈ found.2, stop = slot ∧ AtStop found.1 logical slot := by
  obtain ⟨ensured, hensure, hinv, hlive⟩ := h.ensure hs hused
  have hslot := (h.table.relations.live hs hused).slot_eq
  simp only [PtraceDispatch.getDeliveredStop, hensure, hslot]
  refine ⟨hinv, fun stop hstop => ?_⟩
  split_ifs at hstop with hcurrent
  · obtain ⟨hflags, hevent, hstate, hqueue⟩ := hlive.atStop hcurrent.1
    exact ⟨(Option.some.inj hstop).symm, hs, hlive, hflags, hevent, hstate, hqueue⟩
  · exact nomatch hstop

end Ensure

section Rewrite

structure KeepsStop (relation v : LogicalPtraceRelation) : Prop where
  used : v.Used ↔ relation.Used
  generation : v.generation = relation.generation
  tracee : v.tracee = relation.tracee
  state : v.state = relation.state
  count : v.eventCount = relation.eventCount
  sequence : v.headEvent.sequence = relation.headEvent.sequence

theorem KeepsStop.refl (relation : LogicalPtraceRelation) : KeepsStop relation relation :=
  ⟨Iff.rfl, rfl, rfl, rfl, rfl, rfl⟩

theorem keepsStop_replaceHead {relation : LogicalPtraceRelation} {event : LogicalPtraceEvent}
    (hsequence : event.sequence = relation.headEvent.sequence) :
    KeepsStop relation (replaceHeadEvent relation event) := by
  refine ⟨Iff.rfl, rfl, rfl, rfl, rfl, ?_⟩
  simpa [replaceHeadEvent, LogicalPtraceRelation.headEvent] using hsequence

def QueueRewritten (logical after : LogicalPtraceTable) (slot : Nat) : Prop :=
  Inv after ∧ ∃ v, WritesRelation logical after slot v ∧ KeepsStop (logical.relations slot) v

theorem QueueRewritten.refl (h : Inv logical) (slot : Nat) : QueueRewritten logical logical slot :=
  ⟨h, _, .refl logical slot, .refl _⟩

theorem queueRewritten_setHeadEvent (h : Inv logical) (hs : slot < kLogicalPtraceRelationCapacity)
    (hused : (logical.relations slot).Used) {g : LogicalPtraceEvent → LogicalPtraceEvent}
    (hvalid : ∀ e, EventValid e → EventValid (g e)) (hkind : ∀ e, (g e).kind = e.kind)
    (hsequence : ∀ e, (g e).sequence = e.sequence) :
    QueueRewritten logical (setHeadEvent logical (logical.relations slot).tracee g).1 slot := by
  refine ⟨Inv.tableWrites.setHead h _ hvalid hkind, ?_⟩
  rcases hresult : (setHeadEvent logical (logical.relations slot).tracee g).2 with e | value
  · rw [setHeadEvent_keeps _ _ e hresult]
    exact ⟨_, .refl logical slot, .refl _⟩
  · obtain ⟨found, hfound, hwrite⟩ := setHeadEvent_grants g value hresult
    rw [findRelation_self h hs hused] at hfound
    obtain rfl := Option.some.inj hfound
    exact ⟨_, hwrite, keepsStop_replaceHead (hsequence _)⟩

theorem updateQueuedRegisters_rewritten (h : Inv logical)
    (hs : slot < kLogicalPtraceRelationCapacity) (hused : (logical.relations slot).Used)
    (registers : Arm64Regs) (valid : Bool) (number : Int) :
    QueueRewritten logical (updateQueuedRegisters logical slot registers valid number).1 slot := by
  rw [updateQueuedRegisters]
  split_ifs
  · exact .refl h slot
  · exact queueRewritten_setHeadEvent h hs hused (fun _ he => he.withRegisters registers _)
      (fun _ => rfl) fun _ => rfl

theorem updateQueuedSiginfo_rewritten (h : Inv logical)
    (hs : slot < kLogicalPtraceRelationCapacity) (hused : (logical.relations slot).Used)
    (signalInfo : Siginfo) :
    QueueRewritten logical (updateQueuedSiginfo logical slot signalInfo).1 slot := by
  rw [updateQueuedSiginfo]
  split_ifs
  · exact .refl h slot
  · exact queueRewritten_setHeadEvent h hs hused
      (fun _ he => he.setFlag (by decide) signalInfo) (fun _ => rfl) fun _ => rfl

theorem eventValid_withSyscallNumber {event : LogicalPtraceEvent} (h : EventValid event)
    (number : Int) : EventValid (withSyscallNumber number event) := by
  obtain ⟨⟨hsequence, hkind, hflags, hrest⟩, -⟩ := h
  exact ⟨⟨hsequence, hkind, Flags.set_within hflags (by decide), hrest⟩,
    fun hboth => Flags.set_and_self (by decide) hboth.1⟩

theorem eventValid_withRegisterWords {event : LogicalPtraceEvent} (h : EventValid event)
    (registers : Arm64Regs) : EventValid (withRegisterWords registers event) := by
  have hflag : kLogicalPtraceEventFlagRegistersValid &&& ~~~kLogicalPtraceEventFlagMask = 0 := by
    decide
  exact h.setFlag hflag event.signalInfo

theorem updateQueuedSyscallNumber_rewritten (h : Inv logical)
    (hs : slot < kLogicalPtraceRelationCapacity) (hused : (logical.relations slot).Used)
    (number : Int) :
    QueueRewritten logical (updateQueuedSyscallNumber logical slot number).1 slot := by
  rw [updateQueuedSyscallNumber]
  split_ifs with hcount hstate
  · exact .refl h slot
  · exact .refl h slot
  · have hlive := h.relations.live hs hused
    have hhead := hlive.headEvent_valid hcount
    refine ⟨Inv.noted (h.writeRelation hs hused (hlive.replaceHead hcount
      (eventValid_withSyscallNumber hhead number) rfl) rfl rfl
      h.initialized.2.2.2.2.2.2.2.2.2.2.2.1), _, ⟨rfl, rfl, rfl⟩, keepsStop_replaceHead rfl⟩

theorem AtStop.live (hat : AtStop dispatcher logical slot) {current : LogicalPtraceEvent}
    (hkeeps : KeepsStop (logical.relations slot) v) (hevent : EventValid current)
    (hsequence : current.sequence = (dispatcher.stops slot).current.sequence) :
    StopLive slot { dispatcher.stops slot with current } v where
  slot_eq := hat.stop.slot_eq
  used := hkeeps.used.mpr hat.stop.used
  generation := hat.stop.generation.trans hkeeps.generation.symm
  tracee := hat.stop.tracee.trans hkeeps.tracee.symm
  phase := .current hat.flags hevent (hkeeps.state.trans hat.state) fun hcount => by
    rw [hkeeps.count] at hcount ⊢
    rw [hkeeps.sequence]
    exact ⟨(hat.queue hcount).1, (hat.queue hcount).2.trans hsequence.symm⟩

theorem rewriteStop_inv {machine : Machine σ} (h : machine.Inv P)
    (hat : AtStop machine.dispatcher machine.logical slot)
    {queued : LogicalPtraceTable × Except Nat Unit}
    (hqueued : QueueRewritten machine.logical queued.1 slot)
    {g : LogicalPtraceEvent → LogicalPtraceEvent}
    (hvalid : ∀ e, EventValid e → EventValid (g e)) (hsequence : ∀ e, (g e).sequence = e.sequence) :
    (rewriteStop machine slot queued g).1.Inv P := by
  obtain ⟨after, result⟩ := queued
  obtain ⟨hafter, v, hwrite, hkeeps⟩ := hqueued
  cases result with
  | error error =>
    exact ⟨h.dispatch.writeRelation hafter hwrite (.inr (hat.live hkeeps hat.event rfl)),
      hwrite.processes.trans h.processes⟩
  | ok =>
    exact ⟨(h.dispatch.writeBoth hafter hwrite
      (.inr (hat.live hkeeps (hvalid _ hat.event) (hsequence _)))).noted,
      hwrite.processes.trans h.processes⟩

end Rewrite

end HookSelf.PtraceDispatch
