import HookSelf.LogicalPtrace.ProcessLaws
import HookSelf.Collections.Flags

namespace HookSelf.LogicalPtrace

open SlotTable LinkChain KeyedTable

variable {table : LogicalPtraceTable}

section Part

variable {P : Nat → LogicalProcessRecord} {R R' : Nat → LogicalPtraceRelation} {s : Nat}
  {v : LogicalPtraceRelation}

theorem not_used_clearRelation (s : Nat) : ¬(clearRelationRecord s).Used := fun h => h rfl

theorem RelationPart.insert (h : RelationPart P R) (hs : s < kLogicalPtraceRelationCapacity)
    (hfree : ¬(R s).Used) (hv : RelationLive s v)
    (hnew : lookup kLogicalPtraceRelationCapacity LogicalPtraceRelation.Used
      LogicalPtraceRelation.tracee R v.tracee = none)
    (htracee : HasProcess P v.tracee.processId) (htracer : HasProcess P v.tracer.processId)
    (hpath : ¬OnPath (tracerLink R) v.tracee v.tracer) :
    RelationPart P (Function.update R s v) := by
  have hdistinct := h.distinct.insert (s := s) hnew
  have hself : tracerLink (Function.update R s v) v.tracee = some v.tracer := by
    have hlink : tracerLink (Function.update R s v) (Function.update R s v s).tracee =
        some (Function.update R s v s).tracer :=
      hdistinct.link_eq hs (by rw [Function.update_self]; exact hv.used)
    rwa [Function.update_self] at hlink
  exact
    { ok := forall_update (P := fun s v => v = clearRelationRecord s ∨ RelationLive s v) h.ok
        (.inr hv)
      distinct := hdistinct
      tracee := forall_update (P := fun _ (r : LogicalPtraceRelation) => r.Used →
        HasProcess P r.tracee.processId) h.tracee fun _ => htracee
      tracer := forall_update (P := fun _ (r : LogicalPtraceRelation) => r.Used →
        HasProcess P r.tracer.processId) h.tracer fun _ => htracer
      grounded := fun task => (h.grounded task).relink (h.grounded v.tracer) hpath
        (fun _ hx => link_update_of_ne (fun hused => absurd hused hfree) fun _ => hx.symm) hself }

theorem RelationPart.erase (h : RelationPart P R) (hs : s < kLogicalPtraceRelationCapacity)
    (hused : (R s).Used) : RelationPart P (Function.update R s (clearRelationRecord s)) := by
  have hself : tracerLink (Function.update R s (clearRelationRecord s)) (R s).tracee = none := by
    refine link_eq_none ?_
    rintro ⟨a, ha, hau, heq⟩
    by_cases has : a = s
    · rw [has, Function.update_self] at hau
      exact not_used_clearRelation s hau
    · rw [Function.update_of_ne has] at hau heq
      exact has (h.distinct a ha s hs hau hused heq)
  exact
    { ok := forall_update (P := fun s v => v = clearRelationRecord s ∨ RelationLive s v) h.ok
        (.inl rfl)
      distinct := h.distinct.vacate (not_used_clearRelation s)
      tracee := forall_update (P := fun _ (r : LogicalPtraceRelation) => r.Used →
        HasProcess P r.tracee.processId) h.tracee
        fun hclear => absurd hclear (not_used_clearRelation s)
      tracer := forall_update (P := fun _ (r : LogicalPtraceRelation) => r.Used →
        HasProcess P r.tracer.processId) h.tracer
        fun hclear => absurd hclear (not_used_clearRelation s)
      grounded := fun task => (h.grounded task).cut (fun _ hx => link_update_of_ne
        (fun _ => hx.symm) fun hclear => absurd hclear (not_used_clearRelation s)) hself }

theorem RelationPart.modify (h : RelationPart P R) (hs : s < kLogicalPtraceRelationCapacity)
    (hused : (R s).Used) (hv : RelationLive s v) (htracee : v.tracee = (R s).tracee)
    (htracer : v.tracer = (R s).tracer) : RelationPart P (Function.update R s v) where
  ok := forall_update (P := fun s v => v = clearRelationRecord s ∨ RelationLive s v) h.ok (.inr hv)
  distinct := h.distinct.replace hs hused htracee
  tracee := forall_update (P := fun _ (r : LogicalPtraceRelation) => r.Used →
    HasProcess P r.tracee.processId) h.tracee fun _ => htracee ▸ h.tracee s hs hused
  tracer := forall_update (P := fun _ (r : LogicalPtraceRelation) => r.Used →
    HasProcess P r.tracer.processId) h.tracer fun _ => htracer ▸ h.tracer s hs hused
  grounded task := by
    have hsame : tracerLink (Function.update R s v) = tracerLink R :=
      link_congr (forall_update (P := fun a (r : LogicalPtraceRelation) => (r.Used ↔ (R a).Used) ∧
        r.tracee = (R a).tracee ∧ ((R a).Used → some r.tracer = some (R a).tracer))
        (fun _ _ => ⟨Iff.rfl, rfl, fun _ => rfl⟩)
        ⟨iff_of_true hv.used hused, htracee, fun _ => congrArg some htracer⟩)
    rw [hsame]
    exact h.grounded task

theorem Inv.withRelations (h : Inv table) {count hint nextRelation nextEvent : Nat}
    (hR : RelationPart table.processes R')
    (hcount : tally kLogicalPtraceRelationCapacity R' (·.Used) = count)
    (hle : count ≤ kLogicalPtraceRelationCapacity) (hhint : hint < kLogicalPtraceRelationCapacity)
    (hrelation : nextRelation ≠ 0) (hevent : nextEvent ≠ 0) :
    Inv { table with
      relations := R', relationCount := count, relationFreeHint := hint
      nextRelationGeneration := nextRelation, nextEventSequence := nextEvent } :=
  { h with
    initialized := by
      obtain ⟨h1, h2, h3, _, h5, h6, h7, _, h9, h10, _, _, h13⟩ := h.initialized
      exact ⟨h1, h2, h3, hle, h5, h6, h7, hhint, h9, h10, hrelation, hevent, h13⟩
    relations := hR
    relationCount := hcount }

end Part

theorem Inv.writeRelation (h : Inv table) {s : Nat} {v : LogicalPtraceRelation} {nextEvent : Nat}
    (hs : s < kLogicalPtraceRelationCapacity) (hused : (table.relations s).Used)
    (hv : RelationLive s v) (htracee : v.tracee = (table.relations s).tracee)
    (htracer : v.tracer = (table.relations s).tracer) (hevent : nextEvent ≠ 0) :
    Inv { modifyRelation table s fun _ => v with nextEventSequence := nextEvent } :=
  h.withRelations (h.relations.modify hs hused hv htracee htracer)
    ((tally_update_iff hs (iff_of_true hv.used hused)).trans h.relationCount)
    h.initialized.2.2.2.1 h.initialized.2.2.2.2.2.2.2.1 h.initialized.2.2.2.2.2.2.2.2.2.2.1 hevent

theorem Inv.eraseRelationSlot (h : Inv table) {s : Nat} (hs : s < kLogicalPtraceRelationCapacity)
    (hused : (table.relations s).Used) : Inv (eraseRelationAt table s) := by
  refine Inv.noted (h.withRelations (h.relations.erase hs hused) ?_ ?_ hs
    h.initialized.2.2.2.2.2.2.2.2.2.2.1 h.initialized.2.2.2.2.2.2.2.2.2.2.2.1)
  · rw [decrementCount_tally h.relationCount hs hused, ← h.relationCount]
    exact tally_vacate hs hused (not_used_clearRelation s)
  · rw [decrementCount_tally h.relationCount hs hused]
    exact (Nat.sub_le _ _).trans h.initialized.2.2.2.1

theorem Inv.addRelation (h : Inv table) {s : Nat} {v : LogicalPtraceRelation}
    (hs : s < kLogicalPtraceRelationCapacity) (hfree : (table.relations s).occupied = 0)
    (hfull : table.relationCount ≠ kLogicalPtraceRelationCapacity) (hv : RelationLive s v)
    (hnew : findLogicalPtraceRelation table v.tracee = none)
    (htracee : HasProcess table.processes v.tracee.processId)
    (htracer : HasProcess table.processes v.tracer.processId)
    (hchain : ptraceChainContains table v.tracer v.tracee = false) :
    Inv (occupyRelation table s v) := by
  rw [h.findRelation_eq] at hnew
  rw [ptraceChainContains, h.ptraceChain_eq_walk] at hchain
  have hunused : ¬(table.relations s).Used := not_not.mpr hfree
  refine Inv.noted (h.withRelations (h.relations.insert hs hunused hv hnew htracee htracer
    (walk_sound hchain)) ((tally_occupy hs hunused hv.used).trans
      (congrArg (· + 1) h.relationCount)) ?_ (advanceHint_lt hs)
    (allocateSequence_ne_zero _).2 h.initialized.2.2.2.2.2.2.2.2.2.2.2.1)
  exact Nat.lt_of_le_of_ne h.initialized.2.2.2.1 hfull

theorem Sound.findRelation_some (h : Sound table) {task : LogicalTaskKey} {slot : Nat}
    (hslot : findLogicalPtraceRelation table task = some slot) :
    slot < kLogicalPtraceRelationCapacity ∧ RelationLive slot (table.relations slot) ∧
      (table.relations slot).tracee = task := by
  rw [h.findRelation_eq] at hslot
  obtain ⟨hlt, hused, htracee⟩ := lookup_spec hslot
  exact ⟨hlt, h.live hlt hused, htracee⟩

section Lifecycle

theorem RelationLive.created {s generation : Nat} {tracee tracer : LogicalTaskKey}
    {attachKind : LogicalPtraceAttachKind} {waitClass : LogicalPtraceWaitClass}
    {options : BitVec 64} (hgeneration : generation ≠ 0) (htracee : TaskKeyValid tracee)
    (htracer : TaskKeyValid tracer) (happart : tracee.tgid ≠ tracer.tgid)
    (hkind : AttachKindValid attachKind) (hclass : WaitClassValid waitClass)
    (hoptions : options &&& ~~~kLogicalPtraceKnownOptionMask = 0) :
    RelationLive s
      { occupied := 1, slot := s, tracee, tracer, attachKind, waitClass, options, generation
        state := initialState attachKind } := by
  have hstate : relationStateValid (initialState attachKind) = true ∧
      RelationInitialStateValid { slot := s, attachKind, state := initialState attachKind } ∧
      initialState attachKind ≠ .exitZombie := by
    rcases hkind with rfl | rfl | rfl <;>
      simp [initialState, relationStateValid, RelationInitialStateValid]
  exact
    { slot_eq := rfl
      occupied := rfl
      generation := hgeneration
      tracee := htracee
      tracer := htracer
      apart := happart
      attachKind := hkind
      state := hstate.1
      waitClass := hclass
      initial := hstate.2.1
      options := hoptions
      head := by simp [kLogicalPtraceEventQueueCapacity]
      count := Nat.zero_le _
      reserved := rfl
      runs := fun _ => rfl
      queue := by simp [LogicalPtraceRelation.queued, ExitLast]
      exit_iff := by simp [LogicalPtraceRelation.queued, EndsInExit, hstate.2.2] }

theorem EventQueueable.stored {event : LogicalPtraceEvent} (h : EventQueueable event) {sequence : Nat}
    (hsequence : sequence ≠ 0) : EventValid (storedEvent event sequence) := by
  obtain ⟨-, hkind, hflags, hlow, hhigh, hreserved⟩ := h
  refine ⟨⟨hsequence, hkind, hflags, hlow, hhigh, hreserved⟩, ?_⟩
  rintro ⟨hflag, hnumber⟩
  have hflag : event.flags &&& kLogicalPtraceEventFlagSyscallNumberValid = 0 := hflag
  simp [storedEvent, hflag] at hnumber

theorem Inv.createInheritedRelation (h : Inv table) (parentTracee childTracee : LogicalTaskKey)
    (waitClass : LogicalPtraceWaitClass) (initialStop : LogicalPtraceEvent) :
    Inv (createInheritedLogicalPtraceRelation table parentTracee childTracee waitClass
      initialStop).1 := by
  refine h.guard fun hargs => ?_
  push Not at hargs
  obtain ⟨-, -, hchild, hclass, hevent, hexit, -⟩ := hargs
  rcases hparent : findLogicalPtraceRelation table parentTracee with _ | parentSlot
  · exact h
  · refine h.guard fun _ => h.guard fun happart => h.guard fun hprocess => h.guard fun hchain =>
      h.guard fun hnew => h.guard fun hfull => ?_
    obtain ⟨-, hlive, -⟩ := h.sound.findRelation_some hparent
    rcases hslot : slotFrom kLogicalPtraceRelationCapacity table.relationFreeHint
      fun slot => (table.relations slot).occupied = 0 with _ | slot
    · exact h
    · obtain ⟨hlt, hfree⟩ := slotFrom_some h.initialized.2.2.2.2.2.2.2.1 hslot
      have hsequence := allocateSequence_ne_zero table.nextEventSequence
      have hvalid := hevent.stored hsequence.1
      have hstop : ¬EventIsExit (storedEvent initialStop
          (allocateSequence table.nextEventSequence).1) := hexit
      rw [not_or] at hprocess
      have hcounter : Inv { table with
          nextEventSequence := (allocateSequence table.nextEventSequence).2 } :=
        h.withRelations h.relations h.relationCount h.initialized.2.2.2.1
          h.initialized.2.2.2.2.2.2.2.1 h.initialized.2.2.2.2.2.2.2.2.2.2.1 hsequence.2
      refine hcounter.addRelation hlt hfree hfull ?_ ?_
        ((hasProcess_of_task h.initialized hchild).mp hprocess.1)
        ((hasProcess_of_task h.initialized hlive.tracer).mp hprocess.2) ?_
      · exact
          { slot_eq := rfl
            occupied := rfl
            generation := (allocateSequence_ne_zero _).1
            tracee := hchild
            tracer := hlive.tracer
            apart := happart
            attachKind := hlive.attachKind
            state := rfl
            waitClass := hclass
            initial := by simp [RelationInitialStateValid]
            options := hlive.options
            head := by simp [kLogicalPtraceEventQueueCapacity]
            count := by simp [kLogicalPtraceEventQueueCapacity]
            reserved := rfl
            runs := by simp [RelationRuns]
            queue := by
              simpa [LogicalPtraceRelation.queued, LogicalPtraceRelation.eventSlot, ExitLast]
                using hvalid
            exit_iff := by
              simp only [LogicalPtraceRelation.queued, LogicalPtraceRelation.eventSlot, EndsInExit]
              simpa using hstop }
      · rw [hcounter.findRelation_eq]
        rw [h.findRelation_eq, not_not] at hnew
        exact hnew
      · rw [ptraceChainContains, hcounter.ptraceChain_eq_walk]
        rw [ptraceChainContains, h.ptraceChain_eq_walk] at hchain
        simpa using hchain

theorem RelationLive.withOptions {s : Nat} {relation : LogicalPtraceRelation} {options : BitVec 64}
    (h : RelationLive s relation) (hoptions : options &&& ~~~kLogicalPtraceKnownOptionMask = 0) :
    RelationLive s { relation with options } :=
  { h with options := hoptions, initial := h.initial, queue := h.queue, exit_iff := h.exit_iff }

theorem RelationLive.running {s : Nat} {relation : LogicalPtraceRelation}
    {state : LogicalPtraceRelationState} (h : RelationLive s relation)
    (hcount : relation.eventCount = 0) (hvalid : relationStateValid state = true)
    (hinitial : RelationInitialStateValid { relation with state }) (hstate : state ≠ .exitZombie) :
    RelationLive s { relation with state } := by
  have hnil : ({ relation with state } : LogicalPtraceRelation).queued = [] :=
    queued_eq_nil.mpr hcount
  exact
    { h with
      state := hvalid
      initial := hinitial
      runs := fun _ => hcount
      queue := by simp [hnil, ExitLast]
      exit_iff := by simp [hnil, EndsInExit, hstate] }

end Lifecycle

section Queue

variable {s : Nat} {relation : LogicalPtraceRelation} {event : LogicalPtraceEvent}

theorem RelationLive.queueOk (h : RelationLive s relation) : QueueOk relation :=
  ⟨h.head, h.count, h.queue, h.exit_iff⟩

theorem RelationLive.push (h : RelationLive s relation) (hevent : EventValid event)
    (hstate : relation.state ≠ .exitZombie)
    (hcount : relation.eventCount ≠ kLogicalPtraceEventQueueCapacity) :
    RelationLive s (pushRelationEvent relation event) := by
  obtain ⟨hhead, hcount, hqueue, hiff⟩ := h.queueOk.push hevent hstate hcount
  exact
    { h with
      state := by
        simp only [pushRelationEvent]
        split_ifs <;> rfl
      initial := by
        simp only [pushRelationEvent, RelationInitialStateValid]
        split_ifs <;> simp_all
      head := hhead
      count := hcount
      runs := by
        simp only [pushRelationEvent, RelationRuns]
        split_ifs <;> simp
      queue := hqueue
      exit_iff := hiff }

theorem RelationLive.pop (h : RelationLive s relation) (hcount : relation.eventCount ≠ 0)
    (hexit : ¬EventIsExit relation.headEvent) : RelationLive s (popRelationEvent relation) := by
  obtain ⟨hhead, hle, hqueue, hiff⟩ := h.queueOk.pop hcount hexit
  exact
    { h with
      initial := h.initial
      head := hhead
      count := hle
      runs := fun hruns => absurd (h.runs hruns) hcount
      queue := hqueue
      exit_iff := hiff }

theorem RelationLive.replaceHead (h : RelationLive s relation) (hcount : relation.eventCount ≠ 0)
    (hevent : EventValid event) (hkind : event.kind = relation.headEvent.kind) :
    RelationLive s (replaceHeadEvent relation event) := by
  obtain ⟨hhead, hle, hqueue, hiff⟩ := h.queueOk.replaceHead hcount hevent hkind
  exact { h with initial := h.initial, queue := hqueue, exit_iff := hiff }

theorem RelationLive.headEvent_valid (h : RelationLive s relation) (hcount : relation.eventCount ≠ 0) :
    EventValid relation.headEvent := by
  refine h.queue.1 _ ?_
  rw [queued_eq_cons h.head hcount]
  exact List.mem_cons_self

theorem EventValid.setFlag {flag : BitVec 32} (h : EventValid event)
    (hflag : flag &&& ~~~kLogicalPtraceEventFlagMask = 0) (signalInfo : Siginfo) :
    EventValid { event with signalInfo, flags := event.flags ||| flag } := by
  obtain ⟨⟨hsequence, hkind, hflags, hrest⟩, hnumber⟩ := h
  refine ⟨⟨hsequence, hkind, Flags.set_within hflags hflag, hrest⟩, fun hboth => hnumber ?_⟩
  refine ⟨?_, hboth.2⟩
  have hclear : (event.flags ||| flag) &&& kLogicalPtraceEventFlagSyscallNumberValid = 0 := hboth.1
  ext i hi
  have hbit := congrArg (fun x => x[i]) hclear
  simp only [BitVec.getElem_and, BitVec.getElem_or] at hbit ⊢
  grind

theorem EventValid.withRegisters (h : EventValid event) (registers : Arm64Regs)
    (syscallNumber : Option Int) : EventValid (withRegisters registers syscallNumber event) := by
  obtain ⟨⟨hsequence, hkind, hflags, hrest⟩, -⟩ := h
  have hset : (event.flags ||| kLogicalPtraceEventFlagRegistersValid) &&&
      ~~~kLogicalPtraceEventFlagMask = 0 := Flags.set_within hflags (by decide)
  cases syscallNumber with
  | none => exact ⟨⟨hsequence, hkind, Flags.clear_within hset, hrest⟩, fun hboth => hboth.2 rfl⟩
  | some number =>
    exact ⟨⟨hsequence, hkind, Flags.set_within hset (by decide), hrest⟩,
      fun hboth => Flags.set_and_self (by decide) hboth.1⟩

theorem eraseRelationAt_modify (table : LogicalPtraceTable) (s : Nat)
    (f : LogicalPtraceRelation → LogicalPtraceRelation) :
    eraseRelationAt (modifyRelation table s f) s = eraseRelationAt table s := by
  simp [eraseRelationAt, modifyRelation, noteMutation]

theorem eraseRelationAt_note (table : LogicalPtraceTable) (s : Nat) :
    eraseRelationAt (noteMutation table) s = noteMutation (eraseRelationAt table s) := rfl

end Queue

end HookSelf.LogicalPtrace
