import HookSelf.LogicalPtrace.Runs
import HookSelf.PtraceDispatch.Calls

namespace HookSelf.PtraceDispatch

open SlotTable LogicalPtrace

variable {σ : Type} {machine : Machine σ} {tracee : LogicalTaskKey} {event : LogicalPtraceEvent}
  {slot : Nat}

def StopCurrent (dispatcher : LogicalPtraceDispatcher) (relation : LogicalPtraceRelation) : Prop :=
  (dispatcher.stops relation.slot).relationGeneration = relation.generation ∧
    logicalTaskKeysEqual (dispatcher.stops relation.slot).tracee relation.tracee ∧
    CurrentValid (dispatcher.stops relation.slot)

theorem ensureStopRecord_currentValid {dispatcher ensured : LogicalPtraceDispatcher}
    {relation : LogicalPtraceRelation} (h : ensureStopRecord dispatcher relation = some ensured) :
    CurrentValid (ensured.stops relation.slot) ↔ StopCurrent dispatcher relation := by
  simp only [ensureStopRecord] at h
  split_ifs at h with hrange hother
  · obtain rfl := Option.some.inj h
    refine iff_of_false ?_ fun hcurrent => ?_
    · simp [CurrentValid, modifyStop, clearStop]
    · rcases hother with hother | hother
      exacts [hother hcurrent.1, hother hcurrent.2.1]
  · obtain rfl := Option.some.inj h
    push Not at hother
    exact ⟨fun hcurrent => ⟨hother.1, hother.2, hcurrent⟩, fun hcurrent => hcurrent.2.2⟩

theorem ensureStopRecord_eq_none {dispatcher : LogicalPtraceDispatcher}
    {relation : LogicalPtraceRelation} :
    ensureStopRecord dispatcher relation = none ↔
      relation.slot ≥ kLogicalPtraceDispatchCapacity := by
  simp only [ensureStopRecord]
  split_ifs <;> simp_all

theorem queueLogicalPtraceEvent_ok {logical : LogicalPtraceTable} (event : LogicalPtraceEvent)
    (hfound : findLogicalPtraceRelation logical tracee = some slot)
    (hlive : (logical.relations slot).state ≠ .exitZombie)
    (hspace : (logical.relations slot).eventCount ≠ kLogicalPtraceEventQueueCapacity) :
    (∃ sequence, (queueLogicalPtraceEvent logical tracee event).2 = .ok sequence) ↔
      EventQueueable event := by
  have hinit : IsLogicalPtraceTableInitialized logical := by
    rw [findLogicalPtraceRelation] at hfound
    split_ifs at hfound with hargs
    tauto
  by_cases hevent : EventQueueable event
  · have hargs : ¬(¬IsLogicalPtraceTableInitialized logical ∨ ¬EventQueueable event) := by
      simp [hinit, hevent]
    simp only [queueLogicalPtraceEvent, if_neg hargs, hfound, if_neg hlive, if_neg hspace]
    exact iff_of_true ⟨_, rfl⟩ hevent
  · have hargs : ¬IsLogicalPtraceTableInitialized logical ∨ ¬EventQueueable event := .inr hevent
    simp only [queueLogicalPtraceEvent, if_pos hargs]
    exact iff_of_false (by simp) hevent

/-- The exit of a tracee whose relation is live and has room in its queue is accepted exactly when
it is well formed and no delivered stop is current. -/
theorem publishLogicalPtraceStop_exit_iff
    (hinit : IsLogicalPtraceDispatcherInitialized machine.dispatcher)
    (hfound : findLogicalPtraceRelation machine.logical tracee = some slot)
    (hlive : (machine.logical.relations slot).state ≠ .exitZombie)
    (hspace : (machine.logical.relations slot).eventCount ≠ kLogicalPtraceEventQueueCapacity)
    (hexit : EventIsExit event) :
    (∃ sequence, (publishLogicalPtraceStop machine tracee event).2 = .ok sequence) ↔
      EventQueueable event ∧
        (machine.logical.relations slot).slot < kLogicalPtraceDispatchCapacity ∧
        ¬StopCurrent machine.dispatcher (machine.logical.relations slot) := by
  have hargs : ¬CallInvalid machine tracee := by
    have htable := hfound
    rw [findLogicalPtraceRelation] at htable
    split_ifs at htable with hinvalid
    simp only [CallInvalid, not_or, not_not] at hinvalid ⊢
    exact ⟨hinit, hinvalid⟩
  simp only [publishLogicalPtraceStop, if_neg hargs, hfound]
  rcases hensure : ensureStopRecord machine.dispatcher (machine.logical.relations slot) with
    _ | ensured
  · have hrange := ensureStopRecord_eq_none.mp hensure
    simp [hrange]
  · have hrange : (machine.logical.relations slot).slot < kLogicalPtraceDispatchCapacity := by
      by_contra hge
      simp [ensureStopRecord_eq_none.mpr (not_lt.mp hge)] at hensure
    simp only [hexit, not_true_eq_false, and_false, if_false, hrange, true_and,
      ← ensureStopRecord_currentValid hensure,
      ← queueLogicalPtraceEvent_ok event hfound hlive hspace]
    split_ifs with hcurrent
    · simp [hcurrent]
    · rcases queueLogicalPtraceEvent machine.logical tracee event with ⟨logical, error | sequence⟩ <;>
        simp [hcurrent]

section Example

def otherOnly : DispatchIo Unit where
  resolveTask := some fun _ _ host => (host, 0, otherTask)
  resolveParent := none
  mayAttach := none
  readMemory := none
  writeMemory := some fun _ _ _ host => (host, 0)
  queryUid := none
  fillRusage := none

def args (values : List (BitVec 64)) (index : Fin 6) : BitVec 64 := values.getD index 0

def seizedAndStopped : List (DispatchCall Unit) :=
  [.insertProcess { tgid := 7, generation := 1 } none 7 1 {},
    .insertProcess { tgid := 8, generation := 1 } none 8 1 {},
    .entry otherOnly (threadOf7 7) nrPtrace (args [0x4206, 8]) true,
    .exit (threadOf7 7) nrPtrace true,
    .publish otherTask { kind := .groupStop, signalNumber := 19 }]

def waitForStop : List (DispatchCall Unit) :=
  [.entry otherOnly (threadOf7 7) nrWait4 (args [0xffffffff, 0, 0x40000000]) true,
    .exit (threadOf7 7) nrWait4 true]

def exitEvent : LogicalPtraceEvent := { kind := .exited }

theorem publish_exit_before_wait :
    let machine := runDispatch (initMachine ()) seizedAndStopped
    (EventQueueable exitEvent ∧
        (machine.logical.relations 0).slot < kLogicalPtraceDispatchCapacity ∧
        ¬StopCurrent machine.dispatcher (machine.logical.relations 0)) ∧
      ∃ sequence, (publishLogicalPtraceStop machine otherTask exitEvent).2 = .ok sequence := by
  intro machine
  have hcondition : EventQueueable exitEvent ∧
      (machine.logical.relations 0).slot < kLogicalPtraceDispatchCapacity ∧
      ¬StopCurrent machine.dispatcher (machine.logical.relations 0) :=
    ⟨by decide +kernel, by decide +kernel, fun hcurrent =>
      absurd hcurrent.2.2 (by decide +kernel)⟩
  have hfound : findLogicalPtraceRelation machine.logical otherTask = some 0 := by decide +kernel
  exact ⟨hcondition, (publishLogicalPtraceStop_exit_iff (by decide +kernel) hfound
    (by decide +kernel) (by decide +kernel) (by decide +kernel)).mpr hcondition⟩

/-- After the stop was delivered the death of the tracee is refused. -/
theorem publish_exit_after_wait_ebusy :
    let machine := runDispatch (initMachine ()) (seizedAndStopped ++ waitForStop)
    findLogicalPtraceRelation machine.logical otherTask = some 0 ∧
      (machine.logical.relations 0).state = .stopped ∧
      (machine.logical.relations 0).eventCount = 0 ∧
      (publishLogicalPtraceStop machine otherTask exitEvent).2 = .error (errorNumber .ebusy) := by
  intro machine
  exact ⟨by decide +kernel, by decide +kernel, by decide +kernel, by decide +kernel⟩

end Example

end HookSelf.PtraceDispatch
