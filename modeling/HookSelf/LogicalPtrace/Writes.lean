import HookSelf.LogicalPtrace.RekeyLaws

/-! The operations on relations, event queues and waits write the table in a few ways only.  What
these writes keep, the operations keep: the invariant, and also what is left of it once a renaming
has closed a cycle of tracers. -/

namespace HookSelf.LogicalPtrace

open SlotTable KeyedTable

structure RelationWrites (Q : LogicalPtraceTable → Prop) : Prop where
  sound {table : LogicalPtraceTable} : Q table → Sound table
  noted {table : LogicalPtraceTable} : Q table → Q (noteMutation table)
  write {table : LogicalPtraceTable} {s : Nat} {v : LogicalPtraceRelation} {nextEvent : Nat} :
    Q table → s < kLogicalPtraceRelationCapacity → (table.relations s).Used → RelationLive s v →
    v.tracee = (table.relations s).tracee → v.tracer = (table.relations s).tracer →
    nextEvent ≠ 0 → Q { modifyRelation table s fun _ => v with nextEventSequence := nextEvent }
  erase {table : LogicalPtraceTable} {s : Nat} :
    Q table → s < kLogicalPtraceRelationCapacity → (table.relations s).Used →
    Q (eraseRelationAt table s)
  add {table : LogicalPtraceTable} {s : Nat} {v : LogicalPtraceRelation} :
    Q table → s < kLogicalPtraceRelationCapacity → (table.relations s).occupied = 0 →
    table.relationCount ≠ kLogicalPtraceRelationCapacity → RelationLive s v →
    findLogicalPtraceRelation table v.tracee = none →
    HasProcess table.processes v.tracee.processId →
    HasProcess table.processes v.tracer.processId →
    ptraceChainContains table v.tracer v.tracee = false → Q (occupyRelation table s v)

structure TableWrites (Q : LogicalPtraceTable → Prop) : Prop extends RelationWrites Q where
  addWait {table : LogicalPtraceTable} {s : Nat} {v : LogicalWaitRecord} :
    Q table → s < kLogicalPtraceWaitCapacity → (table.waits s).occupied = 0 →
    table.waitCount ≠ kLogicalPtraceWaitCapacity → WaitLive s v →
    findLogicalWait table v.waiter = none → HasProcess table.processes v.waiter.processId →
    Q (occupyWait table s v)
  eraseWait {table : LogicalPtraceTable} {s : Nat} :
    Q table → s < kLogicalPtraceWaitCapacity → (table.waits s).Used → Q (eraseWaitAt table s)

section Relations

variable {Q : LogicalPtraceTable → Prop} (hQ : RelationWrites Q) {table : LogicalPtraceTable}
include hQ

theorem RelationWrites.createRelation (h : Q table) (tracee tracer : LogicalTaskKey)
    (attachKind : LogicalPtraceAttachKind) (waitClass : LogicalPtraceWaitClass)
    (options : BitVec 64) :
    Q (createLogicalPtraceRelation table tracee tracer attachKind waitClass options).1 := by
  refine keeps_guard h fun hargs => keeps_guard h fun happart => ?_
  push Not at hargs
  obtain ⟨hinitialized, htracee, htracer, hkind, hclass, hoptions⟩ := hargs
  split
  · rename_i traceeProcess tracerProcess htraceeFound htracerFound
    refine keeps_guard h fun _ => keeps_guard h fun hchain => keeps_guard h fun hnew =>
      keeps_guard h fun hfull => ?_
    rcases hslot : slotFrom kLogicalPtraceRelationCapacity table.relationFreeHint
      fun slot => (table.relations slot).occupied = 0 with _ | slot
    · exact h
    · obtain ⟨hlt, hfree⟩ := slotFrom_some hinitialized.2.2.2.2.2.2.2.1 hslot
      exact hQ.add h hlt hfree hfull
        (.created (allocateSequence_ne_zero _).1 htracee htracer happart hkind hclass hoptions)
        (not_not.mp hnew) ((hasProcess_of_task hinitialized htracee).mp (by simp [htraceeFound]))
        ((hasProcess_of_task hinitialized htracer).mp (by simp [htracerFound])) (by simpa using hchain)
  · exact h

theorem RelationWrites.eraseRelation (h : Q table) (tracee : LogicalTaskKey) (discard : Bool) :
    Q (eraseLogicalPtraceRelation table tracee discard).1 := by
  refine keeps_guard h fun _ => ?_
  rcases hslot : findLogicalPtraceRelation table tracee with _ | slot
  · exact h
  · refine keeps_guard h fun _ => ?_
    obtain ⟨hlt, hlive, -⟩ := (hQ.sound h).findRelation_some hslot
    rw [hlive.slot_eq]
    exact hQ.erase h hlt hlive.used

theorem RelationWrites.modify (h : Q table) {s : Nat} {v : LogicalPtraceRelation}
    (hs : s < kLogicalPtraceRelationCapacity) (hused : (table.relations s).Used)
    (hv : RelationLive s v) (htracee : v.tracee = (table.relations s).tracee)
    (htracer : v.tracer = (table.relations s).tracer) :
    Q (noteMutation (modifyRelation table s fun _ => v)) :=
  hQ.noted (hQ.write h hs hused hv htracee htracer
    (hQ.sound h).initialized.2.2.2.2.2.2.2.2.2.2.2.1)

theorem RelationWrites.setOptions (h : Q table) (tracee : LogicalTaskKey) (options : BitVec 64) :
    Q (setLogicalPtraceOptions table tracee options).1 := by
  refine keeps_guard h fun hargs => ?_
  rcases hslot : findLogicalPtraceRelation table tracee with _ | slot
  · exact h
  · refine keeps_guard h fun _ => ?_
    obtain ⟨hlt, hlive, -⟩ := (hQ.sound h).findRelation_some hslot
    exact hQ.modify h hlt hlive.used (hlive.withOptions (by tauto)) rfl rfl

theorem RelationWrites.resumeRelation (h : Q table) (tracee : LogicalTaskKey)
    (mode : LogicalPtraceResumeMode) : Q (resumeLogicalPtraceRelation table tracee mode).1 := by
  refine keeps_guard h fun _ => ?_
  rcases hslot : findLogicalPtraceRelation table tracee with _ | slot
  · exact h
  · refine keeps_guard h fun _ => keeps_guard h fun hcount => ?_
    obtain ⟨hlt, hlive, -⟩ := (hQ.sound h).findRelation_some hslot
    refine hQ.modify h hlt hlive.used (hlive.running (not_not.mp hcount) ?_ ?_ ?_) rfl rfl
    all_goals cases mode <;> simp [resumedState, relationStateValid, RelationInitialStateValid]

theorem RelationWrites.listenRelation (h : Q table) (tracee : LogicalTaskKey) :
    Q (listenLogicalPtraceRelation table tracee).1 := by
  refine keeps_guard h fun _ => ?_
  rcases hslot : findLogicalPtraceRelation table tracee with _ | slot
  · exact h
  · refine keeps_guard h fun hkind => keeps_guard h fun hstate => ?_
    obtain ⟨hlt, hlive, -⟩ := (hQ.sound h).findRelation_some hslot
    rw [not_or, not_not] at hstate
    refine hQ.modify h hlt hlive.used (hlive.running (not_not.mp hstate.2) rfl ?_ (by simp)) rfl rfl
    simpa [RelationInitialStateValid] using hkind

theorem RelationWrites.queueEvent (h : Q table) (tracee : LogicalTaskKey)
    (event : LogicalPtraceEvent) : Q (queueLogicalPtraceEvent table tracee event).1 := by
  refine keeps_guard h fun hargs => ?_
  rcases hslot : findLogicalPtraceRelation table tracee with _ | slot
  · exact h
  · refine keeps_guard h fun hstate => keeps_guard h fun hcount => ?_
    obtain ⟨hlt, hlive, -⟩ := (hQ.sound h).findRelation_some hslot
    have hsequence := allocateSequence_ne_zero table.nextEventSequence
    have hevent : EventQueueable event := by tauto
    exact hQ.noted (hQ.write h hlt hlive.used
      (hlive.push (hevent.stored hsequence.1) hstate hcount) rfl rfl hsequence.2)

theorem RelationWrites.setHead (h : Q table) (tracee : LogicalTaskKey)
    {f : LogicalPtraceEvent → LogicalPtraceEvent} (hvalid : ∀ e, EventValid e → EventValid (f e))
    (hkind : ∀ e, (f e).kind = e.kind) : Q (setHeadEvent table tracee f).1 := by
  refine keeps_guard h fun _ => ?_
  rcases hslot : findLogicalPtraceRelation table tracee with _ | slot
  · exact h
  · refine keeps_guard h fun hcond => ?_
    rw [not_or] at hcond
    obtain ⟨hlt, hlive, -⟩ := (hQ.sound h).findRelation_some hslot
    exact hQ.modify h hlt hlive.used
      (hlive.replaceHead hcond.1 (hvalid _ (hlive.headEvent_valid hcond.1)) (hkind _)) rfl rfl

theorem RelationWrites.setRegisters (h : Q table) (tracee : LogicalTaskKey) (registers : Arm64Regs)
    (valid : Bool) (number : Int) :
    Q (setLogicalPtraceEventRegisters table tracee registers valid number).1 :=
  hQ.setHead h tracee (fun _ he => he.withRegisters registers _) fun _ => rfl

theorem RelationWrites.setSiginfo (h : Q table) (tracee : LogicalTaskKey) (signalInfo : Siginfo) :
    Q (setLogicalPtraceEventSiginfo table tracee signalInfo).1 :=
  hQ.setHead h tracee (fun _ he => he.setFlag (by decide) signalInfo) fun _ => rfl

theorem RelationWrites.consumeEvent (h : Q table) (tracee : LogicalTaskKey)
    (preserve hasOutput : Bool) :
    Q (consumeLogicalPtraceEvent table tracee preserve hasOutput).1 := by
  refine keeps_guard h fun _ => ?_
  rcases hslot : findLogicalPtraceRelation table tracee with _ | slot
  · exact h
  · obtain ⟨hlt, hlive, -⟩ := (hQ.sound h).findRelation_some hslot
    refine keeps_guard h fun hcount => keeps_ite (fun _ => h) fun _ => keeps_guard h fun hproto =>
      keeps_ite (fun hexit => keeps_ite (fun hne => ?_) fun _ => ?_) fun hexit =>
        hQ.modify h hlt hlive.used (hlive.pop hcount hexit) rfl rfl
    · have hone : (table.relations slot).eventCount = 1 := not_not.mp fun hne => hproto ⟨hexit, hne⟩
      simp [noteMutation, modifyRelation, popRelationEvent, hone, decrementCount] at hne
    · have hself : ((noteMutation (modifyRelation table slot
          popRelationEvent)).relations slot).slot = slot := by
        simpa [noteMutation, modifyRelation, popRelationEvent] using hlive.slot_eq
      dsimp only
      rw [hself, eraseRelationAt_note, eraseRelationAt_modify]
      exact hQ.noted (hQ.erase h hlt hlive.used)

end Relations

section Waits

variable {Q : LogicalPtraceTable → Prop} (hQ : TableWrites Q) {table : LogicalPtraceTable}
include hQ

theorem TableWrites.beginWait (h : Q table) (request : LogicalWaitRequest) :
    Q (beginLogicalWait table request).1 := by
  refine keeps_guard h fun hargs => keeps_guard h fun hprocess => keeps_guard h fun hnew =>
    keeps_guard h fun hfull => ?_
  push Not at hargs
  rcases hslot : slotFrom kLogicalPtraceWaitCapacity table.waitFreeHint
    fun slot => (table.waits slot).occupied = 0 with _ | slot
  · exact h
  · obtain ⟨hlt, hfree⟩ := slotFrom_some hargs.1.2.2.2.2.2.2.2.2.2.1 hslot
    exact hQ.addWait h hlt hfree hfull
      ⟨rfl, rfl, (allocateSequence_ne_zero table.nextWaitGeneration).1, hargs.2⟩ (not_not.mp hnew)
      ((hasProcess_of_task hargs.1 hargs.2.1.1).mp hprocess)

theorem TableWrites.endWait (h : Q table) (waiter : LogicalTaskKey) :
    Q (endLogicalWait table waiter).1 := by
  refine keeps_guard h fun _ => ?_
  rcases hslot : findLogicalWait table waiter with _ | slot
  · exact h
  · obtain ⟨hlt, hused, hself⟩ := (hQ.sound h).findWait_some hslot
    dsimp only
    rw [hself]
    exact hQ.eraseWait h hlt hused

theorem TableWrites.consumeWait (h : Q table) (waiter : LogicalTaskKey) (found : LogicalWaitMatch)
    (hasOutput : Bool) : Q (consumeLogicalWaitEvent table waiter found hasOutput).1 := by
  refine keeps_guard h fun hargs => ?_
  push Not at hargs
  rcases hslot : findLogicalWait table waiter with _ | wait
  · exact h
  · obtain ⟨hwlt, hwused, hwself⟩ := (hQ.sound h).findWait_some hslot
    refine keeps_guard h fun hcurrent => ?_
    rw [not_not] at hcurrent
    obtain ⟨hused, -, hcount, -⟩ := hcurrent
    have hlive := (hQ.sound h).live hargs.2.2.1 hused
    have hrslot : ((modifyRelation table found.relationSlot
        popRelationEvent).relations found.relationSlot).slot = found.relationSlot := by
      simpa [modifyRelation, popRelationEvent] using hlive.slot_eq
    dsimp only
    rw [hwself, hrslot, eraseRelationAt_modify]
    refine keeps_ite (fun _ => hQ.eraseWait h hwlt hwused) fun _ => keeps_ite
      (fun hexit => keeps_guard h fun _ => ?_) fun hexit => ?_
    · exact hQ.eraseWait (hQ.erase h hargs.2.2.1 hused) hwlt hwused
    · exact hQ.eraseWait (hQ.modify h hargs.2.2.1 hused (hlive.pop hcount hexit) rfl rfl) hwlt hwused

end Waits

theorem Inv.tableWrites : TableWrites Inv where
  sound := Inv.sound
  noted := Inv.noted
  write h := h.writeRelation
  erase h := h.eraseRelationSlot
  add h := h.addRelation
  addWait h hlt hfree hfull hv hnew hprocess :=
    h.of_waits (h.sound.addWait hlt hfree hfull hv hnew hprocess) rfl
  eraseWait h hlt hused := h.of_waits (h.sound.eraseWait hlt hused) rfl

end HookSelf.LogicalPtrace
