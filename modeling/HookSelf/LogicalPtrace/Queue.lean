import HookSelf.LogicalPtrace.Validate

/-! The circular event queue of a relation as the list of its events, oldest first. -/

namespace HookSelf.LogicalPtrace

variable {relation : LogicalPtraceRelation} {event : LogicalPtraceEvent}

def LogicalPtraceRelation.queued (relation : LogicalPtraceRelation) : List LogicalPtraceEvent :=
  (List.range relation.eventCount).map fun index => relation.events (relation.eventSlot index)

@[simp] theorem length_queued : relation.queued.length = relation.eventCount := by
  simp [LogicalPtraceRelation.queued]

theorem queued_eq_nil : relation.queued = [] ↔ relation.eventCount = 0 := by
  simp [LogicalPtraceRelation.queued]

theorem eventSlot_ne {i j : Nat} (hi : i < j) (hj : j < kLogicalPtraceEventQueueCapacity) :
    relation.eventSlot i ≠ relation.eventSlot j := by
  simp only [LogicalPtraceRelation.eventSlot, kLogicalPtraceEventQueueCapacity] at hj ⊢
  omega

theorem eventSlot_zero (hhead : relation.eventHead < kLogicalPtraceEventQueueCapacity) :
    relation.eventSlot 0 = relation.eventHead :=
  Nat.mod_eq_of_lt hhead

theorem queued_eq_cons (hhead : relation.eventHead < kLogicalPtraceEventQueueCapacity)
    (hcount : relation.eventCount ≠ 0) :
    relation.queued = relation.headEvent ::
      (List.range (relation.eventCount - 1)).map fun index =>
        relation.events (relation.eventSlot (index + 1)) := by
  obtain ⟨count, hcount⟩ := Nat.exists_eq_succ_of_ne_zero hcount
  simp [LogicalPtraceRelation.queued, hcount, List.range_succ_eq_map, eventSlot_zero hhead,
    LogicalPtraceRelation.headEvent, Function.comp_def]

theorem queued_push (event : LogicalPtraceEvent)
    (hcount : relation.eventCount < kLogicalPtraceEventQueueCapacity) :
    (pushRelationEvent relation event).queued = relation.queued ++ [event] := by
  have hrest : ∀ index ∈ List.range relation.eventCount,
      Function.update relation.events (relation.eventSlot relation.eventCount) event
        (relation.eventSlot index) = relation.events (relation.eventSlot index) := by
    intro index hindex
    rw [Function.update_of_ne (eventSlot_ne (List.mem_range.mp hindex) hcount)]
  have hslot : ∀ index, (pushRelationEvent relation event).eventSlot index =
      relation.eventSlot index := fun _ => rfl
  simp only [LogicalPtraceRelation.queued, hslot]
  simp only [pushRelationEvent, List.range_succ, List.map_append, List.map_cons, List.map_nil,
    Function.update_self, List.map_congr_left hrest]

theorem queued_pop (hhead : relation.eventHead < kLogicalPtraceEventQueueCapacity)
    (hcount : relation.eventCount ≠ 0)
    (hle : relation.eventCount ≤ kLogicalPtraceEventQueueCapacity) :
    relation.queued = relation.headEvent :: (popRelationEvent relation).queued := by
  rw [queued_eq_cons hhead hcount]
  congr 1
  have hpred : (popRelationEvent relation).eventCount = relation.eventCount - 1 := by
    simp [popRelationEvent, decrementCount, hcount]
  simp only [LogicalPtraceRelation.queued, hpred]
  refine List.map_congr_left fun index hindex => ?_
  rw [List.mem_range] at hindex
  have hslot : (popRelationEvent relation).eventSlot index = relation.eventSlot (index + 1) := by
    have hne : decrementCount relation.eventCount ≠ 0 := by
      rw [decrementCount, if_neg hcount]
      omega
    simp only [LogicalPtraceRelation.eventSlot, popRelationEvent, if_neg hne,
      kLogicalPtraceEventQueueCapacity]
    omega
  rw [hslot]
  have hne : relation.eventSlot (index + 1) ≠ relation.eventHead := by
    rw [← eventSlot_zero hhead]
    exact (eventSlot_ne (Nat.succ_pos index) (by omega)).symm
  simp only [popRelationEvent, Function.update_of_ne hne]

theorem queued_replaceHead (event : LogicalPtraceEvent)
    (hhead : relation.eventHead < kLogicalPtraceEventQueueCapacity)
    (hcount : relation.eventCount ≠ 0)
    (hle : relation.eventCount ≤ kLogicalPtraceEventQueueCapacity) :
    (replaceHeadEvent relation event).queued = event :: (popRelationEvent relation).queued := by
  have hhead' : (replaceHeadEvent relation event).eventHead < kLogicalPtraceEventQueueCapacity :=
    hhead
  have hold := queued_pop hhead hcount hle
  rw [queued_eq_cons hhead hcount, List.cons.injEq] at hold
  rw [queued_eq_cons hhead' hcount, ← hold.2]
  congr 1
  · simp [LogicalPtraceRelation.headEvent, replaceHeadEvent]
  · refine List.map_congr_left fun index hindex => ?_
    have hindex : index < relation.eventCount - 1 := List.mem_range.mp hindex
    have hne : relation.eventSlot (index + 1) ≠ relation.eventHead := by
      rw [← eventSlot_zero hhead]
      exact (eventSlot_ne (Nat.succ_pos index) (by omega)).symm
    exact Function.update_of_ne hne _ _

def ExitLast (events : List LogicalPtraceEvent) : Prop :=
  (∀ event ∈ events, EventValid event) ∧ ∀ event ∈ events.dropLast, ¬EventIsExit event

def EndsInExit (events : List LogicalPtraceEvent) : Prop :=
  ∃ event ∈ events.getLast?, EventIsExit event

theorem ExitLast.snoc {events : List LogicalPtraceEvent} (h : ExitLast events)
    (hend : ¬EndsInExit events) (hevent : EventValid event) : ExitLast (events ++ [event]) := by
  refine ⟨fun e he => ?_, fun e he => ?_⟩
  · rcases List.mem_append.mp he with he | he
    · exact h.1 e he
    · rwa [List.mem_singleton.mp he]
  · rw [List.dropLast_concat] at he
    intro hexit
    rcases List.eq_nil_or_concat' events with rfl | ⟨init, last, rfl⟩
    · exact nomatch he
    · rcases List.mem_append.mp he with he | he
      · exact h.2 e (by simpa using he) hexit
      · refine hend ⟨last, by simp, ?_⟩
        rwa [← List.mem_singleton.mp he]

theorem endsInExit_snoc {events : List LogicalPtraceEvent} :
    EndsInExit (events ++ [event]) ↔ EventIsExit event := by
  simp [EndsInExit]

theorem ExitLast.tail {events : List LogicalPtraceEvent} (h : ExitLast (event :: events)) :
    ExitLast events := by
  refine ⟨fun e he => h.1 e (List.mem_cons_of_mem _ he), fun e he => ?_⟩
  cases events with
  | nil => exact nomatch he
  | cons first rest => exact h.2 e (List.mem_cons_of_mem _ he)

theorem endsInExit_cons {events : List LogicalPtraceEvent} (hne : events ≠ []) :
    EndsInExit (event :: events) ↔ EndsInExit events := by
  cases events with
  | nil => exact absurd rfl hne
  | cons first rest => simp [EndsInExit]

structure QueueOk (relation : LogicalPtraceRelation) : Prop where
  head : relation.eventHead < kLogicalPtraceEventQueueCapacity
  count : relation.eventCount ≤ kLogicalPtraceEventQueueCapacity
  queue : ExitLast relation.queued
  exit_iff : EndsInExit relation.queued ↔ relation.state = .exitZombie

section QueueOk

theorem QueueOk.lt (h : QueueOk relation)
    (hcount : relation.eventCount ≠ kLogicalPtraceEventQueueCapacity) :
    relation.eventCount < kLogicalPtraceEventQueueCapacity :=
  Nat.lt_of_le_of_ne h.count hcount

theorem QueueOk.push (h : QueueOk relation) (hevent : EventValid event)
    (hstate : relation.state ≠ .exitZombie)
    (hcount : relation.eventCount ≠ kLogicalPtraceEventQueueCapacity) :
    QueueOk (pushRelationEvent relation event) where
  head := h.head
  count := h.lt hcount
  queue := by
    rw [queued_push event (h.lt hcount)]
    exact h.queue.snoc (mt h.exit_iff.mp hstate) hevent
  exit_iff := by
    rw [queued_push event (h.lt hcount), endsInExit_snoc]
    simp only [pushRelationEvent]
    split_ifs with hexit <;> simp [hexit]

theorem QueueOk.pop (h : QueueOk relation) (hcount : relation.eventCount ≠ 0)
    (hexit : ¬EventIsExit relation.headEvent) : QueueOk (popRelationEvent relation) := by
  have hqueue := h.queue
  have hiff := h.exit_iff
  rw [queued_pop h.head hcount h.count] at hqueue hiff
  refine ⟨?_, ?_, hqueue.tail, Iff.trans ?_ hiff⟩
  · simp only [popRelationEvent]
    split_ifs
    · simp [kLogicalPtraceEventQueueCapacity]
    · exact Nat.mod_lt _ (by simp [kLogicalPtraceEventQueueCapacity])
  · simp only [popRelationEvent, decrementCount, if_neg hcount]
    exact (Nat.sub_le _ _).trans h.count
  · rcases hrest : (popRelationEvent relation).queued with _ | ⟨first, rest⟩
    · simp [EndsInExit, hexit]
    · exact (endsInExit_cons (List.cons_ne_nil _ _)).symm

theorem QueueOk.replaceHead (h : QueueOk relation) (hcount : relation.eventCount ≠ 0)
    (hevent : EventValid event) (hkind : event.kind = relation.headEvent.kind) :
    QueueOk (replaceHeadEvent relation event) := by
  have hqueue := h.queue
  have hiff := h.exit_iff
  have hexit : EventIsExit event ↔ EventIsExit relation.headEvent := by
    rw [EventIsExit, EventIsExit, hkind]
  rw [queued_pop h.head hcount h.count] at hqueue hiff
  have hnew := queued_replaceHead event h.head hcount h.count
  rcases hrest : (popRelationEvent relation).queued with _ | ⟨first, rest⟩ <;>
    rw [hrest] at hqueue hiff hnew
  · refine ⟨h.head, h.count, ?_, Iff.trans ?_ hiff⟩
    · simpa [hnew, ExitLast] using hevent
    · simpa [hnew, EndsInExit] using hexit
  · refine ⟨h.head, h.count, ?_, Iff.trans ?_ hiff⟩
    · simp only [hnew, ExitLast, List.mem_cons, forall_eq_or_imp, List.dropLast_cons_cons] at hqueue ⊢
      exact ⟨⟨hevent, hqueue.1.2⟩, mt hexit.mp hqueue.2.1, hqueue.2.2⟩
    · rw [hnew, endsInExit_cons (List.cons_ne_nil _ _), endsInExit_cons (List.cons_ne_nil _ _)]

end QueueOk

/-- The loop of the validator accepts the queues in which an exit comes last. -/
theorem scanEvents_iff {index : Nat} {exitSeen : Bool} :
    scanEvents relation index = some exitSeen ↔
      ExitLast ((List.range index).map fun i => relation.events (relation.eventSlot i)) ∧
        (EndsInExit ((List.range index).map fun i => relation.events (relation.eventSlot i)) ↔
          exitSeen = true) := by
  induction index generalizing exitSeen with
  | zero => cases exitSeen <;> simp [scanEvents, ExitLast, EndsInExit]
  | succ index ih =>
    rw [List.range_succ, List.map_append, List.map_singleton, endsInExit_snoc, scanEvents]
    constructor
    · intro h
      rcases hprev : scanEvents relation index with _ | _ | _
      · simp [hprev] at h
      · rw [hprev] at h
        simp only at h
        split_ifs at h with hvalid
        obtain ⟨hlast, hend⟩ := ih.mp hprev
        refine ⟨hlast.snoc (by simpa using hend) hvalid, ?_⟩
        simp only [Option.some.injEq] at h
        rw [← h, decide_eq_true_eq]
      · simp [hprev] at h
    · rintro ⟨hlast, hend⟩
      have hvalid : EventValid (relation.events (relation.eventSlot index)) :=
        hlast.1 _ (by simp)
      have hprev : scanEvents relation index = some false := by
        refine ih.mpr ⟨⟨fun e he => hlast.1 e (List.mem_append_left _ he), fun e he => ?_⟩, ?_⟩
        · exact hlast.2 e (by simpa using List.mem_of_mem_dropLast he)
        · simp only [Bool.false_eq_true, iff_false]
          rintro ⟨e, he, hexit⟩
          exact hlast.2 e (by simpa using List.mem_of_mem_getLast? he) hexit
      simp only [hprev, hvalid, if_true, Option.some.injEq]
      cases exitSeen <;> simpa using hend

end HookSelf.LogicalPtrace
