import HookSelf.LogicalPtrace.Delivery
import HookSelf.PtraceDispatch.Invariant

/-! What the operations of the table that the dispatcher calls leave in it when they succeed. -/

namespace HookSelf.PtraceDispatch

open SlotTable KeyedTable LogicalPtrace Postcondition

variable {table after : LogicalPtraceTable} {tracee tracer task waiter : LogicalTaskKey} {slot : Nat}

structure WritesRelation (table after : LogicalPtraceTable) (slot : Nat)
    (v : LogicalPtraceRelation) : Prop where
  processes : after.processes = table.processes
  waits : after.waits = table.waits
  relations : after.relations = Function.update table.relations slot v

theorem insertLogicalProcess_grants (h : Sound table) (key : LogicalProcessKey)
    (parent : Option LogicalProcessKey) (group dumpable : Int) (ptracer : LogicalPidIdentity) :
    Grants (insertLogicalProcess table key parent group dumpable ptracer) fun after _ =>
      after.waits = table.waits ∧ after.relations = table.relations ∧
        ∀ id, HasProcess table.processes id → HasProcess after.processes id := by
  refine .guard fun _ => .guard fun _ => .guard fun _ => .guard fun _ => ?_
  split
  · exact .refused
  · next slot hslot =>
    obtain ⟨hlt, hfree⟩ := slotFrom_some h.initialized.2.2.2.2.2.2.1 hslot
    have hunused : ¬(table.processes slot).Used := not_not.mpr hfree
    exact .done ⟨rfl, rfl, fun id hid => (Holds.occupy_iff hlt hunused).mpr (.inl hid)⟩

section Relations

theorem createLogicalPtraceRelation_grants (h : Sound table) (attachKind : LogicalPtraceAttachKind)
    (waitClass : LogicalPtraceWaitClass) (options : BitVec 64) :
    Grants (createLogicalPtraceRelation table tracee tracer attachKind waitClass options)
      fun after slot => slot < kLogicalPtraceRelationCapacity ∧ ¬(table.relations slot).Used ∧
        ∃ v, WritesRelation table after slot v ∧ v.Used ∧ v.slot = slot ∧ v.tracee = tracee ∧
          v.attachKind = attachKind ∧ v.state = initialState attachKind := by
  refine .guard fun _ => .guard fun _ => ?_
  split
  · refine .guard fun _ => .guard fun _ => .guard fun _ => .guard fun _ => ?_
    split
    · exact .refused
    · next slot hslot =>
      obtain ⟨hlt, hfree⟩ := slotFrom_some h.initialized.2.2.2.2.2.2.2.1 hslot
      exact .done ⟨hlt, not_not.mpr hfree, _, ⟨rfl, rfl, rfl⟩, Nat.one_ne_zero, rfl, rfl, rfl, rfl⟩
  · exact .refused

theorem eraseLogicalPtraceRelation_grants (h : Sound table) (discard : Bool) :
    Grants (eraseLogicalPtraceRelation table tracee discard) fun after _ =>
      ∃ slot, findLogicalPtraceRelation table tracee = some slot ∧
        WritesRelation table after slot (clearRelationRecord slot) := by
  refine .guard fun _ => ?_
  rcases hslot : findLogicalPtraceRelation table tracee with _ | slot
  · exact .refused
  · obtain ⟨-, hlive, -⟩ := h.findRelation_some hslot
    refine .guard fun _ => .done ⟨slot, rfl, ?_⟩
    rw [hlive.slot_eq]
    exact ⟨rfl, rfl, rfl⟩

theorem setLogicalPtraceOptions_grants (options : BitVec 64) :
    Grants (setLogicalPtraceOptions table tracee options) fun after _ =>
      ∃ slot, findLogicalPtraceRelation table tracee = some slot ∧
        WritesRelation table after slot { table.relations slot with options } := by
  refine .guard fun _ => ?_
  rcases findLogicalPtraceRelation table tracee with _ | slot
  · exact .refused
  · exact .guard fun _ => .done ⟨slot, rfl, rfl, rfl, rfl⟩

theorem resumeLogicalPtraceRelation_grants (mode : LogicalPtraceResumeMode) :
    Grants (resumeLogicalPtraceRelation table tracee mode) fun after _ =>
      ∃ slot, findLogicalPtraceRelation table tracee = some slot ∧
        ∃ v, WritesRelation table after slot v := by
  refine .guard fun _ => ?_
  rcases findLogicalPtraceRelation table tracee with _ | slot
  · exact .refused
  · exact .guard fun _ => .guard fun _ => .done ⟨slot, rfl, _, rfl, rfl, rfl⟩

theorem listenLogicalPtraceRelation_grants :
    Grants (listenLogicalPtraceRelation table tracee) fun after _ =>
      ∃ slot, findLogicalPtraceRelation table tracee = some slot ∧
        ∃ v, WritesRelation table after slot v := by
  refine .guard fun _ => ?_
  rcases findLogicalPtraceRelation table tracee with _ | slot
  · exact .refused
  · exact .guard fun _ => .guard fun _ => .done ⟨slot, rfl, _, rfl, rfl, rfl⟩

theorem queueLogicalPtraceEvent_grants (event : LogicalPtraceEvent) :
    Grants (queueLogicalPtraceEvent table tracee event) fun after sequence =>
      ∃ slot, findLogicalPtraceRelation table tracee = some slot ∧
        WritesRelation table after slot
          (pushRelationEvent (table.relations slot) (storedEvent event sequence)) := by
  refine .guard fun _ => ?_
  rcases findLogicalPtraceRelation table tracee with _ | slot
  · exact .refused
  · exact .guard fun _ => .guard fun _ => .done ⟨slot, rfl, rfl, rfl, rfl⟩

theorem setHeadEvent_grants (f : LogicalPtraceEvent → LogicalPtraceEvent) :
    Grants (setHeadEvent table tracee f) fun after _ =>
      ∃ slot, findLogicalPtraceRelation table tracee = some slot ∧
        WritesRelation table after slot
          (replaceHeadEvent (table.relations slot) (f (table.relations slot).headEvent)) := by
  refine .guard fun _ => ?_
  rcases findLogicalPtraceRelation table tracee with _ | slot
  · exact .refused
  · exact .guard fun _ => .done ⟨slot, rfl, rfl, rfl, rfl⟩

theorem consumeLogicalPtraceEvent_grants :
    Grants (consumeLogicalPtraceEvent table tracee false true) fun after _ =>
      ∃ slot, findLogicalPtraceRelation table tracee = some slot ∧
        (¬EventIsExit (table.relations slot).headEvent →
          WritesRelation table after slot (popRelationEvent (table.relations slot))) := by
  refine .guard fun _ => ?_
  rcases findLogicalPtraceRelation table tracee with _ | slot
  · exact .refused
  · refine .guard fun _ => ?_
    dsimp only
    rw [if_neg Bool.false_ne_true]
    exact .guard fun _ => .ite (fun hexit => .guard fun _ => .done ⟨slot, rfl, fun hno =>
      absurd hexit hno⟩) fun _ => .done ⟨slot, rfl, fun _ => ⟨rfl, rfl, rfl⟩⟩

theorem claimLogicalFakeTraceme_records (task : LogicalTaskKey) :
    let after := (claimLogicalFakeTraceme table task).1
    after.processes = table.processes ∧ after.waits = table.waits ∧
      after.relations = table.relations := by
  rw [claimLogicalFakeTraceme]
  split_ifs <;> first | exact ⟨rfl, rfl, rfl⟩ | (split <;> exact ⟨rfl, rfl, rfl⟩)

end Relations

section Waits

theorem beginLogicalWait_grants (h : Sound table) (request : LogicalWaitRequest) :
    Grants (beginLogicalWait table request) fun after _ =>
      after.processes = table.processes ∧ after.relations = table.relations ∧
        ∀ task, Waiting after.waits task ↔ Waiting table.waits task ∨ task = request.waiter := by
  refine .guard fun _ => .guard fun _ => .guard fun _ => .guard fun _ => ?_
  split
  · exact .refused
  · next slot hslot =>
    obtain ⟨hlt, hfree⟩ := slotFrom_some h.initialized.2.2.2.2.2.2.2.2.2.1 hslot
    refine .done ⟨rfl, rfl, fun task => ?_⟩
    have hunused : ¬(table.waits slot).Used := not_not.mpr hfree
    refine (Holds.occupy_iff hlt hunused).trans (or_congr_right ?_)
    exact and_iff_right Nat.one_ne_zero

theorem waiting_eraseWaitAt (h : Sound table) (hwait : findLogicalWait table waiter = some slot) :
    Waiting (eraseWaitAt table slot).waits task ↔ Waiting table.waits task ∧ task ≠ waiter := by
  rw [h.findWait_eq] at hwait
  obtain ⟨hlt, hused, hwaiter⟩ := lookup_spec hwait
  refine (Holds.overwrite_iff h.waits.distinct hlt hused).trans ?_
  rw [hwaiter]
  exact or_iff_left fun hclear => hclear.1 rfl

theorem endLogicalWait_effect (h : Sound table) (hwaiter : TaskKeyValid waiter) :
    let after := (endLogicalWait table waiter).1
    after.processes = table.processes ∧ after.relations = table.relations ∧
      ∀ task, Waiting after.waits task ↔ Waiting table.waits task ∧ task ≠ waiter := by
  have hargs : ¬(¬IsLogicalPtraceTableInitialized table ∨ ¬TaskKeyValid waiter) := by
    simp [h.initialized, hwaiter]
  simp only [endLogicalWait, if_neg hargs]
  rcases hslot : findLogicalWait table waiter with _ | slot
  · refine ⟨rfl, rfl, fun task => (and_iff_left_of_imp ?_).symm⟩
    rintro hwaiting rfl
    exact (waiting_iff_findWait h).mp hwaiting hslot
  · obtain ⟨-, -, hself⟩ := h.findWait_some hslot
    simp only [hself]
    exact ⟨rfl, rfl, fun task => waiting_eraseWaitAt h hslot⟩

/-- A completed wait hands out the head event of its relation and is registered no longer.  The
relation is erased if the event was an exit and was consumed. -/
theorem consumeLogicalWaitEvent_grants (h : Sound table) {found : LogicalWaitMatch} :
    Grants (consumeLogicalWaitEvent table waiter found true) fun after event =>
      after.processes = table.processes ∧
        (∀ task, Waiting after.waits task ↔ Waiting table.waits task ∧ task ≠ waiter) ∧
        event = (table.relations found.relationSlot).headEvent ∧
        ∃ v, after.relations = Function.update table.relations found.relationSlot v ∧
          (¬EventIsExit event → v = table.relations found.relationSlot ∨
            v = popRelationEvent (table.relations found.relationSlot)) := by
  refine .guard fun hargs => ?_
  push Not at hargs
  rcases hwait : findLogicalWait table waiter with _ | wait
  · exact .refused
  · obtain ⟨-, -, hself⟩ := h.findWait_some hwait
    have hgone : ∀ task, Waiting (eraseWaitAt table wait).waits task ↔ _ :=
      fun _ => waiting_eraseWaitAt h hwait
    refine .guard fun hcurrent => .ite (fun _ => .done ?_) fun _ =>
      .ite (fun hexit => .guard fun _ => .done ?_) fun _ => .done ?_ <;>
      rw [hself]
    · exact ⟨rfl, hgone, rfl, _, (Function.update_eq_self _ _).symm, fun _ => .inl rfl⟩
    · have hlive := h.live hargs.2.2.1 (not_not.mp hcurrent).1
      exact ⟨rfl, hgone, rfl, _, relations_erase_pop _ rfl hlive.slot_eq,
        fun hno => absurd hexit hno⟩
    · exact ⟨rfl, hgone, rfl, _, rfl, fun _ => .inr rfl⟩

end Waits

end HookSelf.PtraceDispatch
