import HookSelf.PtraceDispatch.TableEffects

/-! Recording, finishing, erasing and renaming an operation keeps the invariant of the operations;
each of these says for which tasks a wait is held afterwards. -/

namespace HookSelf.PtraceDispatch

open SlotTable KeyedTable LogicalPtrace Postcondition

variable {dispatcher : LogicalPtraceDispatcher} {P P' : Nat → LogicalProcessRecord}
  {waiting waiting' : LogicalTaskKey → Prop} {s : Nat} {caller : LogicalTaskKey}

theorem OperationsInv.congr (h : OperationsInv dispatcher P waiting)
    (hwaiting : ∀ task, waiting' task ↔ waiting task) : OperationsInv dispatcher P waiting' :=
  { h with held := fun task => (hwaiting task).trans (h.held task) }

theorem OperationsInv.mono (h : OperationsInv dispatcher P waiting)
    (hP : ∀ id, HasProcess P id → HasProcess P' id) : OperationsInv dispatcher P' waiting :=
  { h with process := fun s hs hused => hP _ (h.process s hs hused) }

theorem OperationsInv.noted (h : OperationsInv dispatcher P waiting) :
    OperationsInv (noteDispatch dispatcher) P waiting :=
  { h with }

theorem OperationsInv.modifyStop (h : OperationsInv dispatcher P waiting)
    (f : LogicalPtraceDispatchStop → LogicalPtraceDispatchStop) :
    OperationsInv (modifyStop dispatcher s f) P waiting :=
  { h with }

theorem not_used_clearOperation (s : Nat) : ¬(clearOperation s).Used := fun h => h rfl

theorem OperationsInv.findOperation_some (h : OperationsInv dispatcher P waiting)
    (hfound : findOperation dispatcher caller = some s) :
    s < kLogicalPtraceDispatchCapacity ∧ OperationLive s (dispatcher.operations s) ∧
      (dispatcher.operations s).Used ∧ (dispatcher.operations s).caller = caller := by
  rw [h.findOperation_eq] at hfound
  obtain ⟨hs, hused, hcaller⟩ := lookup_spec hfound
  exact ⟨hs, h.live hs hused, hused, hcaller⟩

theorem OperationsInv.held_overwrite (h : OperationsInv dispatcher P waiting)
    (hs : s < kLogicalPtraceDispatchCapacity) (hused : (dispatcher.operations s).Used)
    {v : LogicalPtraceDispatchOperation} (task : LogicalTaskKey) :
    Held (Function.update dispatcher.operations s v) task ↔
      waiting task ∧ task ≠ (dispatcher.operations s).caller ∨ v.Held ∧ task = v.caller := by
  by_cases hheld : (dispatcher.operations s).state = .heldWait
  · refine (Holds.overwrite_iff (h.distinct.mono fun _ hyes => hyes.1) hs ⟨hused, hheld⟩).trans ?_
    rw [h.held]
    rfl
  · refine (Holds.occupy_iff hs fun hyes => hheld hyes.2).trans (or_congr_left ?_)
    rw [h.held]
    refine (and_iff_left_of_imp ?_).symm
    rintro hyes rfl
    exact hheld ((h.waiting_iff hs hused).mp ((h.held _).mpr hyes))

theorem OperationsInv.insert (h : OperationsInv dispatcher P waiting) {syscallNumber : Int}
    {state : LogicalPtraceOperationState} {result : Int} (hcaller : TaskKeyValid caller)
    (hprocess : HasProcess P caller.processId) (hnumber : syscallNumber ≥ 0)
    (hstate : OperationStateValid state) :
    Grants (insertOperation dispatcher caller syscallNumber state result) fun after _ =>
      after.stops = dispatcher.stops ∧
        OperationsInv after P fun task => waiting task ∨ state = .heldWait ∧ task = caller := by
  refine .guard fun hnew => .guard fun hfull => ?_
  split
  · exact .refused
  · next slot hslot =>
    obtain ⟨hlt, hfree⟩ := slotFrom_some h.initialized.2.2.2.1 hslot
    have hunused : ¬(dispatcher.operations slot).Used := not_not.mpr hfree
    have hsequence := allocateSequence_ne_zero dispatcher.nextOperationGeneration
    rw [not_not, h.findOperation_eq] at hnew
    refine .done ⟨rfl, OperationsInv.noted ?_⟩
    obtain ⟨h1, h2, h3, h4, h5⟩ := h.initialized
    exact
      { toTaskPart := h.put (.inr ⟨rfl, rfl, hsequence.1, hcaller, hnumber, hstate⟩)
          (h.distinct.insert hnew) fun _ => hprocess
        initialized := ⟨h1, h2, Nat.lt_of_le_of_ne h3 hfull, advanceHint_lt hlt, hsequence.2⟩
        held := fun task => by
          refine Iff.trans ?_ (Holds.occupy_iff hlt fun hyes => hunused hyes.1).symm
          rw [h.held]
          exact or_congr_right (and_congr_left' ⟨fun hyes => ⟨Nat.one_ne_zero, hyes⟩, And.right⟩)
        count := by
          refine (tally_occupy hlt hunused ?_).trans (congrArg (· + 1) h.count)
          exact Nat.one_ne_zero }

theorem insertOperation_error {syscallNumber : Int} {state : LogicalPtraceOperationState}
    {result : Int} {after : LogicalPtraceDispatcher} {error : Nat}
    (herror : insertOperation dispatcher caller syscallNumber state result = (after, .error error)) :
    after = dispatcher := by
  rw [insertOperation] at herror
  split_ifs at herror
  · exact (congrArg Prod.fst herror).symm
  · exact (congrArg Prod.fst herror).symm
  · split at herror
    · exact (congrArg Prod.fst herror).symm
    · cases congrArg Prod.snd herror

theorem OperationsInv.erase (h : OperationsInv dispatcher P waiting)
    (hs : s < kLogicalPtraceDispatchCapacity) (hused : (dispatcher.operations s).Used) :
    OperationsInv (eraseOperation dispatcher s) P
      fun task => waiting task ∧ task ≠ (dispatcher.operations s).caller := by
  refine OperationsInv.noted ?_
  obtain ⟨h1, h2, h3, h4, h5⟩ := h.initialized
  exact
    { toTaskPart := h.put (.inl rfl) (h.distinct.vacate (not_used_clearOperation s))
        fun hclear => absurd hclear (not_used_clearOperation s)
      initialized := by
        refine ⟨h1, h2, ?_, hs, h5⟩
        rw [decrementCount_tally h.count hs hused]
        exact (Nat.sub_le _ _).trans h3
      held := fun task => by
        refine Iff.trans ?_ (h.held_overwrite hs hused task).symm
        exact (or_iff_left fun hclear => not_used_clearOperation s hclear.1.1).symm
      count := by
        rw [decrementCount_tally h.count hs hused, ← h.count]
        exact tally_vacate hs hused (not_used_clearOperation s) }

theorem OperationsInv.overwrite (h : OperationsInv dispatcher P waiting)
    (hs : s < kLogicalPtraceDispatchCapacity) (hused : (dispatcher.operations s).Used)
    {v : LogicalPtraceDispatchOperation} (hv : OperationLive s v)
    (hnew : v.caller = (dispatcher.operations s).caller ∨
      findOperation dispatcher v.caller = none)
    (hprocess : v.caller.processId = (dispatcher.operations s).caller.processId) :
    OperationsInv (modifyOperation dispatcher s fun _ => v) P fun task =>
      waiting task ∧ task ≠ (dispatcher.operations s).caller ∨
        v.state = .heldWait ∧ task = v.caller := by
  have hvused : v.Used := by
    rw [LogicalPtraceDispatchOperation.Used, hv.occupied]
    exact Nat.one_ne_zero
  have hdistinct : Distinct kLogicalPtraceDispatchCapacity LogicalPtraceDispatchOperation.Used
      LogicalPtraceDispatchOperation.caller (Function.update dispatcher.operations s v) := by
    rcases hnew with heq | hnone
    · exact h.distinct.replace hs hused heq
    · rw [h.findOperation_eq] at hnone
      exact h.distinct.insert hnone
  exact
    { toTaskPart := h.put (.inr hv) hdistinct fun _ => hprocess ▸ h.process s hs hused
      initialized := h.initialized
      held := fun task => by
        refine Iff.trans ?_ (h.held_overwrite hs hused task).symm
        exact or_congr_right (and_congr_left' ⟨fun hyes => ⟨hvused, hyes⟩, And.right⟩)
      count := (tally_update_iff hs (iff_of_true hvused hused)).trans h.count }

theorem OperationsInv.finish (h : OperationsInv dispatcher P waiting)
    (hs : s < kLogicalPtraceDispatchCapacity) (hused : (dispatcher.operations s).Used)
    (visibleResult : Int) :
    OperationsInv (finishWait dispatcher s visibleResult) P
      fun task => waiting task ∧ task ≠ (dispatcher.operations s).caller := by
  have hlive := h.live hs hused
  have hv : OperationLive s
      { dispatcher.operations s with visibleResult, state := .heldReady } :=
    { hlive with state := .inr (.inr rfl) }
  refine OperationsInv.noted ((h.overwrite hs hused hv (.inl rfl) rfl).congr fun task => ?_)
  simp

end HookSelf.PtraceDispatch
