import HookSelf.Collections.Mailbox
import HookSelf.Collections.Postcondition
import HookSelf.LogicalPtrace.Runs

/-! The event queue of a relation is a mailbox: over any sequence of calls that queue, select,
complete and erase, the events come out once, in order, and an exit comes out last. -/

namespace HookSelf.LogicalPtrace

open SlotTable Mailbox Postcondition

variable {table : LogicalPtraceTable} {tracee waiter : LogicalTaskKey} {event : LogicalPtraceEvent}
  {found : LogicalWaitMatch} {hasOutput : Bool} {slot : Nat}

def TableCall.OnEvents : TableCall → Prop
  | .queueEvent .. | .peekEvent .. | .consumeEvent .. | .beginWait .. | .endWait .. | .selectWait ..
  | .consumeWait .. | .eraseRelation .. => True
  | _ => False

/-- The registered wait of the task leaves the event in the queue. -/
def WaitPreserves (table : LogicalPtraceTable) (waiter : LogicalTaskKey) : Prop :=
  ∃ wait ∈ findLogicalWait table waiter, (table.waits wait).request.nowait ≠ 0

instance (table : LogicalPtraceTable) (waiter : LogicalTaskKey) :
    Decidable (WaitPreserves table waiter) :=
  decidable_of_iff (((findLogicalWait table waiter).any fun wait =>
    decide ((table.waits wait).request.nowait ≠ 0)) = true) (by
      simp [WaitPreserves, Option.any_eq_true])

def onFound {α : Type} (slot : Option Nat) (result : Except Errno α)
    (act : α → Act LogicalPtraceEvent) : Option (Nat × Act LogicalPtraceEvent) :=
  match slot, result with
  | some slot, .ok value => some (slot, act value)
  | _, _ => none

def TableCall.effect (table : LogicalPtraceTable) :
    TableCall → Option (Nat × Act LogicalPtraceEvent)
  | .queueEvent tracee event =>
    onFound (findLogicalPtraceRelation table tracee) (queueLogicalPtraceEvent table tracee event).2
      fun sequence => .put (storedEvent event sequence)
  | .consumeEvent tracee false hasOutput =>
    onFound (findLogicalPtraceRelation table tracee)
      (consumeLogicalPtraceEvent table tracee false hasOutput).2 .take
  | .consumeWait waiter found hasOutput =>
    if WaitPreserves table waiter then none
    else
      onFound (some found.relationSlot) (consumeLogicalWaitEvent table waiter found hasOutput).2
        .take
  | .eraseRelation tracee discard =>
    onFound (findLogicalPtraceRelation table tracee)
      (eraseLogicalPtraceRelation table tracee discard).2 fun _ => .retire
  | _ => none

def TableCall.actAt (table : LogicalPtraceTable) (slot : Nat) (call : TableCall) :
    Act LogicalPtraceEvent :=
  match call.effect table with
  | some (changed, act) => if changed = slot then act else .idle
  | none => .idle

def actsAt (slot : Nat) : LogicalPtraceTable → List TableCall → List (Act LogicalPtraceEvent)
  | _, [] => []
  | table, call :: calls => call.actAt table slot :: actsAt slot (call.run table).1 calls

def storedBy (table : LogicalPtraceTable) (calls : List TableCall) (slot : Nat) :
    List LogicalPtraceEvent :=
  puts (actsAt slot table calls)

def deliveredBy (table : LogicalPtraceTable) (calls : List TableCall) (slot : Nat) :
    List LogicalPtraceEvent :=
  takes (actsAt slot table calls)

def LogicalPtraceRelation.box (relation : LogicalPtraceRelation) :
    Option (List LogicalPtraceEvent) :=
  if relation.Used then some relation.queued else none

theorem box_of_used {relation : LogicalPtraceRelation} (h : relation.Used) :
    relation.box = some relation.queued :=
  if_pos h

theorem box_clear (slot : Nat) : (clearRelationRecord slot).box = none :=
  if_neg (not_used_clearRelation slot)

def QueuesOk (relations : Nat → LogicalPtraceRelation) : Prop :=
  ∀ s < kLogicalPtraceRelationCapacity, (relations s).Used →
    (relations s).slot = s ∧ QueueOk (relations s)

theorem ValidateLogicalPtraceTable.queuesOk (h : ValidateLogicalPtraceTable table) :
    QueuesOk table.relations := by
  intro s hs hused
  obtain ⟨hslot, -, hrecord⟩ := h.2.2.1 s hs
  rw [if_neg hused] at hrecord
  obtain ⟨⟨-, -, -, -, -, -, -, -, -, -, hhead, hcount, -⟩, -, -, hscan, -⟩ := hrecord
  rw [scanEvents_iff, decide_eq_true_eq] at hscan
  exact ⟨hslot, hhead, hcount, hscan.1, hscan.2⟩

/-- What a call does to the queues: nothing, or one step of the mailbox of one relation. -/
inductive Effect (relations : Nat → LogicalPtraceRelation) :
    Option (Nat × Act LogicalPtraceEvent) → (Nat → LogicalPtraceRelation) → Prop
  | quiet : Effect relations none relations
  | one {s : Nat} {act : Act LogicalPtraceEvent} {v : LogicalPtraceRelation}
      (hs : s < kLogicalPtraceRelationCapacity)
      (hstep : Step EventIsExit (relations s).box act v.box)
      (hok : v.Used → v.slot = s ∧ QueueOk v) :
      Effect relations (some (s, act)) (Function.update relations s v)

section Calls

theorem findLogicalPtraceRelation_some (h : findLogicalPtraceRelation table tracee = some slot) :
    slot < kLogicalPtraceRelationCapacity ∧ (table.relations slot).Used := by
  rw [findLogicalPtraceRelation] at h
  split_ifs at h
  exact ⟨(firstSlot_some h).1, (firstSlot_some h).2.1⟩

theorem Effect.push (h : QueuesOk table.relations) (hs : slot < kLogicalPtraceRelationCapacity)
    (hused : (table.relations slot).Used) (hevent : EventValid event)
    (hstate : (table.relations slot).state ≠ .exitZombie)
    (hcount : (table.relations slot).eventCount ≠ kLogicalPtraceEventQueueCapacity) :
    Effect table.relations (some (slot, .put event))
      (Function.update table.relations slot (pushRelationEvent (table.relations slot) event)) := by
  obtain ⟨hslot, hok⟩ := h slot hs hused
  refine .one hs ?_ fun _ => ⟨hslot, hok.push hevent hstate hcount⟩
  have hused' : (pushRelationEvent (table.relations slot) event).Used := hused
  rw [box_of_used hused, box_of_used hused', queued_push event (hok.lt hcount)]
  exact .put

theorem Effect.pop (h : QueuesOk table.relations) (hs : slot < kLogicalPtraceRelationCapacity)
    (hused : (table.relations slot).Used) (hcount : (table.relations slot).eventCount ≠ 0)
    (hone : EventIsExit (table.relations slot).headEvent → (table.relations slot).eventCount = 1) :
    Effect table.relations (some (slot, .take (table.relations slot).headEvent))
      (Function.update table.relations slot
        (if EventIsExit (table.relations slot).headEvent then clearRelationRecord slot
        else popRelationEvent (table.relations slot))) := by
  obtain ⟨hslot, hok⟩ := h slot hs hused
  have hqueued := queued_pop hok.head hcount hok.count
  split_ifs with hexit
  · refine .one hs ?_ fun hclear => absurd hclear (not_used_clearRelation slot)
    have hnil : (popRelationEvent (table.relations slot)).queued = [] := by
      rw [queued_eq_nil]
      simp [popRelationEvent, decrementCount, hone hexit]
    rw [box_of_used hused, box_clear, hqueued, hnil]
    exact .last hexit
  · refine .one hs ?_ fun _ => ⟨hslot, hok.pop hcount hexit⟩
    have hused' : (popRelationEvent (table.relations slot)).Used := hused
    rw [box_of_used hused, box_of_used hused', hqueued]
    exact .take hexit

theorem Effect.erase (hs : slot < kLogicalPtraceRelationCapacity)
    (hused : (table.relations slot).Used) :
    Effect table.relations (some (slot, .retire))
      (Function.update table.relations slot (clearRelationRecord slot)) := by
  refine .one hs ?_ fun hclear => absurd hclear (not_used_clearRelation slot)
  rw [box_of_used hused, box_clear]
  exact .retire

theorem Effect.of_found {α : Type} {outcome : Outcome α} {act : α → Act LogicalPtraceEvent}
    {relation : Option Nat} (hkeeps : Keeps table outcome)
    (hgrants : Grants outcome fun after value => ∃ slot, relation = some slot ∧
      Effect table.relations (some (slot, act value)) after.relations) :
    Effect table.relations (onFound relation outcome.2 act) outcome.1.relations := by
  rcases hresult : outcome.2 with e | value
  · rw [hkeeps e hresult]
    cases relation <;> exact .quiet
  · obtain ⟨slot, hslot, heffect⟩ := hgrants value hresult
    rw [hslot]
    exact heffect

theorem queueLogicalPtraceEvent_effect (h : QueuesOk table.relations) :
    Effect table.relations ((TableCall.queueEvent tracee event).effect table)
      (queueLogicalPtraceEvent table tracee event).1.relations := by
  refine .of_found (queueLogicalPtraceEvent_keeps tracee event) (.guard fun hargs => ?_)
  push Not at hargs
  rcases hslot : findLogicalPtraceRelation table tracee with _ | slot
  · exact .refused
  · obtain ⟨hs, hused⟩ := findLogicalPtraceRelation_some hslot
    refine .guard fun hstate => .guard fun hcount => .done ⟨slot, rfl, ?_⟩
    exact .push h hs hused (hargs.2.stored (allocateSequence_ne_zero _).1) hstate hcount

theorem eraseLogicalPtraceRelation_effect (h : QueuesOk table.relations) {discard : Bool} :
    Effect table.relations ((TableCall.eraseRelation tracee discard).effect table)
      (eraseLogicalPtraceRelation table tracee discard).1.relations := by
  refine .of_found (eraseLogicalPtraceRelation_keeps tracee discard) (.guard fun _ => ?_)
  rcases hslot : findLogicalPtraceRelation table tracee with _ | slot
  · exact .refused
  · obtain ⟨hs, hused⟩ := findLogicalPtraceRelation_some hslot
    refine .guard fun _ => .done ⟨slot, rfl, ?_⟩
    rw [(h slot hs hused).1]
    exact .erase hs hused

theorem relations_erase_pop (after : LogicalPtraceTable)
    (h : after.relations = Function.update table.relations slot
      (popRelationEvent (table.relations slot)))
    (hslot : (table.relations slot).slot = slot) :
    (eraseRelationAt after (after.relations slot).slot).relations =
      Function.update table.relations slot (clearRelationRecord slot) := by
  have hself : (after.relations slot).slot = slot := by
    rw [h, Function.update_self]
    exact hslot
  rw [hself]
  simp [eraseRelationAt, noteMutation, modifyRelation, h]

theorem consumeLogicalPtraceEvent_effect (h : QueuesOk table.relations) {preserve : Bool} :
    Effect table.relations ((TableCall.consumeEvent tracee preserve hasOutput).effect table)
      (consumeLogicalPtraceEvent table tracee preserve hasOutput).1.relations := by
  cases preserve with
  | true =>
    have hsame : (consumeLogicalPtraceEvent table tracee true hasOutput).1 = table := by
      by_cases hargs : hasOutput = false ∨ ¬IsLogicalPtraceTableInitialized table
      · rw [consumeLogicalPtraceEvent, if_pos hargs]
      · rw [consumeLogicalPtraceEvent, if_neg hargs]
        cases findLogicalPtraceRelation table tracee with
        | none => rfl
        | some slot =>
          simp only [if_true]
          split_ifs <;> rfl
    rw [hsame]
    exact .quiet
  | false =>
    refine .of_found (consumeLogicalPtraceEvent_keeps tracee false hasOutput) (.guard fun _ => ?_)
    rcases hslot : findLogicalPtraceRelation table tracee with _ | slot
    · exact .refused
    · obtain ⟨hs, hused⟩ := findLogicalPtraceRelation_some hslot
      refine .guard fun hcount => ?_
      dsimp only
      rw [if_neg Bool.false_ne_true]
      refine .guard fun hproto => ?_
      have heffect := Effect.pop h hs hused hcount fun hexit =>
        not_not.mp fun hne => hproto ⟨hexit, hne⟩
      refine .ite (fun hexit => .guard fun _ => .done ⟨slot, rfl, ?_⟩) fun hexit =>
        .done ⟨slot, rfl, ?_⟩
      · rw [if_pos hexit] at heffect
        rwa [relations_erase_pop _ rfl (h slot hs hused).1]
      · rw [if_neg hexit] at heffect
        exact heffect

theorem consumeLogicalWaitEvent_preserves (hpreserves : WaitPreserves table waiter) :
    (consumeLogicalWaitEvent table waiter found hasOutput).1.relations = table.relations := by
  obtain ⟨wait, hwait, hnowait⟩ := hpreserves
  rw [Option.mem_def] at hwait
  simp only [consumeLogicalWaitEvent, hwait, if_pos hnowait]
  split_ifs <;> rfl

theorem consumeLogicalWaitEvent_effect (h : QueuesOk table.relations) :
    Effect table.relations ((TableCall.consumeWait waiter found hasOutput).effect table)
      (consumeLogicalWaitEvent table waiter found hasOutput).1.relations := by
  rw [TableCall.effect]
  split_ifs with hpreserves
  · rw [consumeLogicalWaitEvent_preserves hpreserves]
    exact .quiet
  · refine .of_found (consumeLogicalWaitEvent_keeps waiter found hasOutput) (.guard fun hargs => ?_)
    push Not at hargs
    rcases hwait : findLogicalWait table waiter with _ | wait
    · exact .refused
    · refine .guard fun hcurrent => .ite (fun hnowait => absurd ⟨wait, hwait, hnowait⟩ hpreserves)
        fun _ => ?_
      obtain ⟨hused, -, hcount, -⟩ := not_not.mp hcurrent
      have hs := hargs.2.2.1
      refine .ite (fun hexit => .guard fun hone => .done ⟨_, rfl, ?_⟩) fun hexit =>
        .done ⟨_, rfl, ?_⟩
      · have heffect := Effect.pop h hs hused hcount fun _ => not_not.mp hone
        rw [if_pos hexit] at heffect
        have hgone := relations_erase_pop (modifyRelation table found.relationSlot popRelationEvent)
          rfl (h _ hs hused).1
        rw [← hgone] at heffect
        exact heffect
      · have heffect := Effect.pop h hs hused hcount fun hyes => absurd hyes hexit
        rw [if_neg hexit] at heffect
        exact heffect

theorem TableCall.effect_spec (h : QueuesOk table.relations) {call : TableCall}
    (hcall : call.OnEvents) :
    Effect table.relations (call.effect table) (call.run table).1.relations := by
  cases call with
  | queueEvent => exact queueLogicalPtraceEvent_effect h
  | consumeEvent => exact consumeLogicalPtraceEvent_effect h
  | consumeWait => exact consumeLogicalWaitEvent_effect h
  | eraseRelation => exact eraseLogicalPtraceRelation_effect h
  | peekEvent => exact .quiet
  | selectWait => exact .quiet
  | beginWait request =>
    have hsame : (beginLogicalWait table request).1.relations = table.relations := by
      rw [beginLogicalWait]
      split_ifs <;> first | rfl | (split <;> rfl)
    exact hsame.symm ▸ .quiet
  | endWait waiter =>
    have hsame : (endLogicalWait table waiter).1.relations = table.relations := by
      rw [endLogicalWait]
      split_ifs <;> first | rfl | (split <;> rfl)
    exact hsame.symm ▸ .quiet
  | _ => exact absurd hcall id

end Calls

section Runs

theorem Effect.queuesOk {relations after : Nat → LogicalPtraceRelation}
    {effect : Option (Nat × Act LogicalPtraceEvent)} (h : QueuesOk relations)
    (heffect : Effect relations effect after) : QueuesOk after := by
  cases heffect with
  | quiet => exact h
  | one _ _ hok =>
    exact forall_update (P := fun s (relation : LogicalPtraceRelation) => relation.Used →
      relation.slot = s ∧ QueueOk relation) h hok

theorem Effect.step {relations after : Nat → LogicalPtraceRelation} {call : TableCall}
    (heffect : Effect relations (call.effect table) after) (slot : Nat) :
    Step EventIsExit (relations slot).box (call.actAt table slot) (after slot).box := by
  rw [TableCall.actAt]
  generalize call.effect table = effect at heffect
  cases heffect with
  | quiet => exact .idle
  | @one s act v hs hstep hok =>
    simp only [Function.update_apply]
    by_cases heq : s = slot
    · subst heq
      simpa using hstep
    · rw [if_neg heq, if_neg fun hslot => heq hslot.symm]
      exact .idle

theorem runCalls_queuesOk {calls : List TableCall} (h : QueuesOk table.relations)
    (hcalls : ∀ call ∈ calls, call.OnEvents) : QueuesOk (runCalls table calls).relations := by
  induction calls generalizing table with
  | nil => exact h
  | cons call calls ih =>
    have heffect := call.effect_spec h (hcalls call List.mem_cons_self)
    exact ih (heffect.queuesOk h) fun c hc => hcalls c (List.mem_cons_of_mem _ hc)

/-- Over a run the queue of a relation goes through the steps of a mailbox. -/
theorem runCalls_steps {calls : List TableCall} (h : QueuesOk table.relations)
    (hcalls : ∀ call ∈ calls, call.OnEvents) (slot : Nat) :
    Steps EventIsExit (table.relations slot).box (actsAt slot table calls)
      ((runCalls table calls).relations slot).box := by
  induction calls generalizing table with
  | nil => exact .nil
  | cons call calls ih =>
    have heffect := call.effect_spec h (hcalls call List.mem_cons_self)
    exact .cons (heffect.step slot)
      (ih (heffect.queuesOk h) fun c hc => hcalls c (List.mem_cons_of_mem _ hc))

end Runs

section Selection

variable {request : LogicalWaitRequest} {k : Nat}

def Ready (table : LogicalPtraceTable) (request : LogicalWaitRequest) (slot : Nat) : Prop :=
  (table.relations slot).Used ∧ RelationAwaited table request (table.relations slot) ∧
    (table.relations slot).eventCount ≠ 0 ∧
    EventMatchesWaitKind request (table.relations slot).headEvent

def matchAt (table : LogicalPtraceTable) (slot : Nat) : LogicalWaitMatch :=
  { relationSlot := slot, relationGeneration := (table.relations slot).generation
    eventSequence := (table.relations slot).headEvent.sequence }

structure Selected (table : LogicalPtraceTable) (request : LogicalWaitRequest) (k : Nat)
    (selection : WaitSelection) : Prop where
  matching : selection.matchingRelation = true ↔ ∃ s < k, (table.relations s).Used ∧
    RelationAwaited table request (table.relations s)
  oldest : ∀ s < k, Ready table request s →
    selection.oldestSequence ≤ (table.relations s).headEvent.sequence
  found : selection.found.relationSlot = kInvalidLogicalPtraceSlot ∧
      selection.oldestSequence = uint64Size - 1 ∨
    ∃ s < k, Ready table request s ∧ selection.found = matchAt table s ∧
      selection.oldestSequence = (table.relations s).headEvent.sequence ∧
      selection.oldestSequence < uint64Size - 1

theorem Selected.init : Selected table request 0 {} where
  matching := by simp
  oldest := fun _ hs => absurd hs (Nat.not_lt_zero _)
  found := .inl ⟨rfl, rfl⟩

theorem Selected.oldest_le {selection : WaitSelection} (h : Selected table request k selection) :
    selection.oldestSequence ≤ uint64Size - 1 := by
  rcases h.found with ⟨-, hmax⟩ | ⟨_, -, -, -, -, hmax⟩
  exacts [hmax.le, hmax.le]

theorem Selected.step {selection : WaitSelection} (h : Selected table request k selection) :
    Selected table request (k + 1) (selectStep table request k selection) := by
  have hfound : ∀ {P : Nat → Prop}, (∃ s < k, P s) → ∃ s < k + 1, P s :=
    fun ⟨s, hs, hp⟩ => ⟨s, Nat.lt_succ_of_lt hs, hp⟩
  by_cases hawaited : (table.relations k).occupied = 0 ∨
      ¬RelationAwaited table request (table.relations k)
  · have hnot : ¬((table.relations k).Used ∧ RelationAwaited table request (table.relations k)) :=
      fun ⟨hused, hyes⟩ => hawaited.elim hused fun hno => hno hyes
    rw [selectStep, if_pos hawaited]
    refine ⟨h.matching.trans ⟨hfound, ?_⟩, fun s hs hready => ?_, h.found.imp_right hfound⟩
    · rintro ⟨s, hs, hyes⟩
      rcases Nat.lt_succ_iff_lt_or_eq.mp hs with hs | rfl
      exacts [⟨s, hs, hyes⟩, absurd hyes hnot]
    · rcases Nat.lt_succ_iff_lt_or_eq.mp hs with hs | rfl
      exacts [h.oldest s hs hready, absurd ⟨hready.1, hready.2.1⟩ hnot]
  · have hhere : (table.relations k).Used ∧ RelationAwaited table request (table.relations k) := by
      push Not at hawaited
      exact hawaited
    have hmatching : True ↔ ∃ s < k + 1, (table.relations s).Used ∧
        RelationAwaited table request (table.relations s) :=
      iff_of_true trivial ⟨k, Nat.lt_succ_self k, hhere⟩
    rw [selectStep, if_neg hawaited]
    split_ifs with hskip
    · refine ⟨by simpa using hmatching, fun s hs hready => ?_, h.found.imp_right hfound⟩
      rcases Nat.lt_succ_iff_lt_or_eq.mp hs with hs | rfl
      · exact h.oldest s hs hready
      · obtain ⟨-, -, hcount, hkind⟩ := hready
        tauto
    · push Not at hskip
      obtain ⟨hcount, hkind, hlt⟩ := hskip
      refine ⟨by simpa using hmatching, fun s hs hready => ?_, .inr ⟨k, Nat.lt_succ_self k,
        ⟨hhere.1, hhere.2, hcount, hkind⟩, rfl, rfl, ?_⟩⟩
      · rcases Nat.lt_succ_iff_lt_or_eq.mp hs with hs | rfl
        · exact hlt.le.trans (h.oldest s hs hready)
        · exact le_rfl
      · exact hlt.trans_le h.oldest_le

theorem selected_loop (table : LogicalPtraceTable) (request : LogicalWaitRequest) (k : Nat) :
    Selected table request k (forSlots (selectStep table request) k {}) :=
  forSlots_induct (Selected table request) .init fun _ _ _ h => h.step

/-- The match names a head event that the request can be given, and none of those is older. -/
def Oldest (table : LogicalPtraceTable) (request : LogicalWaitRequest) (found : LogicalWaitMatch) :
    Prop :=
  found.relationSlot < kLogicalPtraceRelationCapacity ∧ Ready table request found.relationSlot ∧
    found = matchAt table found.relationSlot ∧
    ∀ s < kLogicalPtraceRelationCapacity, Ready table request s →
      found.eventSequence ≤ (table.relations s).headEvent.sequence

/-- What a selection returns for the registered request: the oldest head event that the request can
be given.  The largest 64-bit sequence number is the initial bound of the loop, and an event that
has it is never returned. -/
def SelectsOldest (table : LogicalPtraceTable) (request : LogicalWaitRequest)
    (result : Except Errno LogicalWaitMatch) : Prop :=
  (∀ found, result = .ok found → Oldest table request found) ∧
    ((∃ found, result = .ok found) ↔ ∃ s < kLogicalPtraceRelationCapacity,
      Ready table request s ∧ (table.relations s).headEvent.sequence < uint64Size - 1) ∧
    (result = .error .echild ↔ ¬∃ s < kLogicalPtraceRelationCapacity, (table.relations s).Used ∧
      RelationAwaited table request (table.relations s)) ∧
    ∀ e, result = .error e → e = .echild ∨ e = .eagain

theorem invalidSlot_not_lt : ¬kInvalidLogicalPtraceSlot < kLogicalPtraceRelationCapacity := by
  simp [kInvalidLogicalPtraceSlot, kLogicalPtraceRelationCapacity]

theorem findLogicalWait_some {wait : Nat} (h : findLogicalWait table waiter = some wait) :
    IsLogicalPtraceTableInitialized table := by
  rw [findLogicalWait] at h
  split_ifs at h with hargs
  tauto

theorem selectLogicalWaitEvent_oldest {wait : Nat}
    (hwait : findLogicalWait table waiter = some wait) :
    SelectsOldest table (table.waits wait).request (selectLogicalWaitEvent table waiter true) := by
  have hargs : ¬(true = false ∨ ¬IsLogicalPtraceTableInitialized table) := by
    simp [findLogicalWait_some hwait]
  have hloop := selected_loop table (table.waits wait).request kLogicalPtraceRelationCapacity
  simp only [selectLogicalWaitEvent, if_neg hargs, hwait]
  generalize forSlots (selectStep table (table.waits wait).request)
    kLogicalPtraceRelationCapacity {} = selection at hloop
  rcases hloop.found with ⟨hinvalid, hmax⟩ | ⟨s, hs, hready, hfound, hsequence, hlt⟩
  · have hnone : ¬∃ s < kLogicalPtraceRelationCapacity, Ready table (table.waits wait).request s ∧
        (table.relations s).headEvent.sequence < uint64Size - 1 := by
      rintro ⟨s, hs, hready, hlt⟩
      have hle := hloop.oldest s hs hready
      rw [hmax] at hle
      exact absurd hlt (not_lt.mpr hle)
    rw [if_neg (not_not.mpr hinvalid)]
    split_ifs with hmatching
    · rw [hloop.matching] at hmatching
      exact ⟨by simp, by simpa using hnone, by simpa using hmatching, by simp⟩
    · rw [hloop.matching] at hmatching
      exact ⟨by simp, by simpa using hnone, by simpa using hmatching, by simp⟩
  · have hne : selection.found.relationSlot ≠ kInvalidLogicalPtraceSlot := by
      rw [hfound]
      exact fun heq => invalidSlot_not_lt (heq ▸ hs)
    rw [if_pos hne]
    refine ⟨?_, iff_of_true ⟨_, rfl⟩ ⟨s, hs, hready, hsequence ▸ hlt⟩, ?_, by simp⟩
    · rintro _ ⟨⟩
      rw [hfound]
      exact ⟨hs, hready, rfl, fun s' hs' hready' =>
        hsequence.ge.trans (hloop.oldest s' hs' hready')⟩
    · exact iff_of_false (by simp) (not_not.mpr ⟨s, hs, hready.1, hready.2.1⟩)

end Selection

section Completion

/-- What the completion of a match does: a match that is not current is refused and changes
nothing, a current one hands out the head event, and with `WNOWAIT` leaves it queued. -/
def CompletesCurrent (table : LogicalPtraceTable) (waiter : LogicalTaskKey)
    (request : LogicalWaitRequest) : Prop :=
  ∀ found : LogicalWaitMatch, found.relationSlot < kLogicalPtraceRelationCapacity →
    found.relationGeneration ≠ 0 → found.eventSequence ≠ 0 →
    (¬MatchCurrent table request found →
      consumeLogicalWaitEvent table waiter found true = (table, .error .estale)) ∧
    (MatchCurrent table request found →
      (consumeLogicalWaitEvent table waiter found true).2 =
        .ok (table.relations found.relationSlot).headEvent ∧
      (request.nowait ≠ 0 →
        (consumeLogicalWaitEvent table waiter found true).1.relations = table.relations))

theorem QueueOk.exit_alone {relation : LogicalPtraceRelation} (h : QueueOk relation)
    (hcount : relation.eventCount ≠ 0) (hexit : EventIsExit relation.headEvent) :
    relation.eventCount = 1 := by
  have hlast := h.queue.2
  have hlength : relation.queued.length = relation.eventCount := length_queued
  rw [queued_pop h.head hcount h.count] at hlast hlength
  rcases hrest : (popRelationEvent relation).queued with _ | ⟨first, rest⟩
  · rw [← hlength, hrest]
    rfl
  · rw [hrest, List.dropLast_cons_cons] at hlast
    exact absurd hexit (hlast _ List.mem_cons_self)

theorem consumeLogicalWaitEvent_completes {wait : Nat} (h : QueuesOk table.relations)
    (hwait : findLogicalWait table waiter = some wait) :
    CompletesCurrent table waiter (table.waits wait).request := by
  intro found hslot hgeneration hsequence
  have hargs : ¬(true = false ∨ ¬IsLogicalPtraceTableInitialized table ∨
      found.relationSlot ≥ kLogicalPtraceRelationCapacity ∨ found.relationGeneration = 0 ∨
      found.eventSequence = 0) := by
    simp [findLogicalWait_some hwait, hslot, hgeneration, hsequence]
  refine ⟨fun hstale => ?_, fun hcurrent => ⟨?_, fun hnowait => ?_⟩⟩
  · simp only [consumeLogicalWaitEvent, if_neg hargs, hwait, if_pos hstale]
  · simp only [consumeLogicalWaitEvent, if_neg hargs, hwait, if_neg (not_not.mpr hcurrent)]
    obtain ⟨hused, -, hcount, -⟩ := hcurrent
    split_ifs with hnowait hexit hone
    · rfl
    · exact absurd ((h _ hslot hused).2.exit_alone hcount hexit) hone
    · rfl
    · rfl
  · exact consumeLogicalWaitEvent_preserves ⟨wait, hwait, hnowait⟩

end Completion

/-- Over the calls the events of a relation come out once and in order, none is lost while the
relation is in use, and an exit comes out last and retires the relation. -/
def DeliversInOrder (table : LogicalPtraceTable) (calls : List TableCall) (slot : Nat) : Prop :=
  deliveredBy table calls slot <+:
      (table.relations slot).queued ++ storedBy table calls slot ∧
    (((runCalls table calls).relations slot).Used →
      (table.relations slot).queued ++ storedBy table calls slot =
        deliveredBy table calls slot ++ ((runCalls table calls).relations slot).queued) ∧
    (∀ event ∈ (deliveredBy table calls slot).dropLast, ¬EventIsExit event) ∧
    ((∃ event ∈ deliveredBy table calls slot, EventIsExit event) →
      ¬((runCalls table calls).relations slot).Used)

theorem runCalls_deliversInOrder {calls : List TableCall} (h : QueuesOk table.relations)
    (hcalls : ∀ call ∈ calls, call.OnEvents) (hused : (table.relations slot).Used) :
    DeliversInOrder table calls slot := by
  have hsteps := runCalls_steps h hcalls slot
  rw [box_of_used hused] at hsteps
  refine ⟨hsteps.takes_prefix, fun hafter => ?_, hsteps.final_last.1, fun hexit hafter => ?_⟩
  · rw [box_of_used hafter] at hsteps
    exact hsteps.conserve
  · have hbox := hsteps.final_last.2 hexit
    rw [box_of_used hafter] at hbox
    exact nomatch hbox

/-- Delivery over any sequence of calls on the events, and selection and completion in the table it
leads to. -/
theorem runCalls_delivers {calls : List TableCall} (h : ValidateLogicalPtraceTable table)
    (hcalls : ∀ call ∈ calls, call.OnEvents) :
    (∀ slot < kLogicalPtraceRelationCapacity, (table.relations slot).Used →
        DeliversInOrder table calls slot) ∧
      ∀ waiter wait, findLogicalWait (runCalls table calls) waiter = some wait →
        SelectsOldest (runCalls table calls) ((runCalls table calls).waits wait).request
            (selectLogicalWaitEvent (runCalls table calls) waiter true) ∧
          CompletesCurrent (runCalls table calls) waiter
            ((runCalls table calls).waits wait).request :=
  ⟨fun _ _ hused => runCalls_deliversInOrder h.queuesOk hcalls hused, fun _ _ hwait =>
    ⟨selectLogicalWaitEvent_oldest hwait,
      consumeLogicalWaitEvent_completes (runCalls_queuesOk h.queuesOk hcalls) hwait⟩⟩

section Example

def tracedTable (nextEventSequence : Nat) : LogicalPtraceTable :=
  runCalls { initLogicalPtraceTable with nextEventSequence }
    [insertSole, .insertProcess { tgid := 8, generation := 1 } none 8 1 {},
      .createRelation otherTask (threadOf7 7) .seize .clone 0]

theorem tracedTable_valid {nextEventSequence : Nat} (h : nextEventSequence ≠ 0) :
    ValidateLogicalPtraceTable (tracedTable nextEventSequence) := by
  have hapart : CallsApart { initLogicalPtraceTable with nextEventSequence }
      [insertSole, .insertProcess { tgid := 8, generation := 1 } none 8 1 {},
        .createRelation otherTask (threadOf7 7) .seize .clone 0] :=
    ⟨trivial, trivial, trivial, trivial⟩
  refine (Inv.runCalls ?_ hapart).validate
  obtain ⟨h1, h2, h3, h4, h5, h6, h7, h8, h9, h10, h11, -, h13⟩ := Inv.init.initialized
  exact { Inv.init with initialized := ⟨h1, h2, h3, h4, h5, h6, h7, h8, h9, h10, h11, h, h13⟩ }

def waitFor (options : BitVec 32) : LogicalWaitRequest :=
  { waiter := threadOf7 7, kind := .waitId, selectorKind := .any, options }

def stopThenExit : List TableCall :=
  [.queueEvent otherTask { kind := .signalDelivery, signalNumber := 19 },
    .queueEvent otherTask { kind := .exited }]

theorem runCalls_delivers_stop_then_exit :
    ValidateLogicalPtraceTable (tracedTable 1) ∧ ((tracedTable 1).relations 0).Used ∧
      DeliversInOrder (tracedTable 1) (stopThenExit ++ [.consumeEvent otherTask false true,
        .consumeEvent otherTask false true]) 0 := by
  have hvalid := tracedTable_valid Nat.one_ne_zero
  have hused : ((tracedTable 1).relations 0).Used := by decide +kernel
  refine ⟨hvalid, hused, (runCalls_delivers hvalid ?_).1 0 (by decide +kernel) hused⟩
  simp [stopThenExit, TableCall.OnEvents]

def exitBehindStop : LogicalPtraceTable :=
  runCalls (tracedTable 1) (stopThenExit ++ [.beginWait (waitFor 0x40000004)])

def exitWithLastSequence : LogicalPtraceTable :=
  runCalls (tracedTable (uint64Size - 1))
    [.queueEvent otherTask { kind := .exited }, .beginWait (waitFor 0x40000004)]

/-- A wait for exits does not see an exit that is queued behind a stop, and no wait sees an event
with the largest sequence number. -/
theorem selectLogicalWaitEvent_misses :
    (selectLogicalWaitEvent exitBehindStop (threadOf7 7) true = .error .eagain ∧
      RelationAwaited exitBehindStop (waitFor 0x40000004) (exitBehindStop.relations 0) ∧
      ∃ event ∈ (exitBehindStop.relations 0).queued,
        EventMatchesWaitKind (waitFor 0x40000004) event) ∧
    selectLogicalWaitEvent exitWithLastSequence (threadOf7 7) true = .error .eagain ∧
      Ready exitWithLastSequence (waitFor 0x40000004) 0 := by
  refine ⟨⟨by decide +kernel, by decide +kernel, ?_⟩, by decide +kernel, ?_⟩
  · refine ⟨_, List.mem_map.mpr ⟨1, by decide +kernel, rfl⟩, by decide +kernel⟩
  · exact ⟨by decide +kernel, by decide +kernel, by decide +kernel, by decide +kernel⟩

end Example

end HookSelf.LogicalPtrace
