import HookSelf.PtraceDispatch.Publish
import HookSelf.PtraceDispatch.RekeyLaws

/-! Sequences of dispatcher calls.  A run keeps the dispatcher and the table valid as long as each
wait hands out the only event of its relation and no renaming joins two keys of one tracer chain. -/

namespace HookSelf.PtraceDispatch

open SlotTable LogicalPtrace

variable {σ : Type}

/-- What the validity of a run asks of a call, on the machine it is made on. -/
def DispatchCall.Safe (machine : Machine σ) : DispatchCall σ → Prop
  | .entry _ caller syscallNumber arguments _ =>
    syscallNumber = nrWait4 ∨ syscallNumber = nrWaitId →
      EntrySelectsOnlyEvent machine.logical caller syscallNumber arguments
  | .tryWake _ waiter => SelectsOnlyEvent machine.logical waiter
  | .rekey oldIdentity newIdentity => RekeyApart machine.logical oldIdentity newIdentity
  | _ => True

instance (machine : Machine σ) : (call : DispatchCall σ) → Decidable (call.Safe machine)
  | .entry .. => inferInstanceAs (Decidable (_ → _))
  | .tryWake .. => inferInstanceAs (Decidable (SelectsOnlyEvent _ _))
  | .rekey .. => inferInstanceAs (Decidable (RekeyApart _ _ _))
  | .insertProcess .. | .exit .. | .publish .. | .cancel .. => isTrue trivial

/-- Every call of the run is safe on the machine that the calls before it leave. -/
def DispatchSafe : Machine σ → List (DispatchCall σ) → Prop
  | _, [] => True
  | machine, call :: calls => call.Safe machine ∧ DispatchSafe (call.run machine) calls

instance : (machine : Machine σ) → (calls : List (DispatchCall σ)) →
    Decidable (DispatchSafe machine calls)
  | _, [] => isTrue trivial
  | machine, call :: calls =>
    haveI := instDecidableDispatchSafe (call.run machine) calls
    inferInstanceAs (Decidable (_ ∧ _))

theorem DispatchInv.run {machine : Machine σ}
    (h : DispatchInv machine.dispatcher machine.logical) {call : DispatchCall σ}
    (hsafe : call.Safe machine) :
    DispatchInv (call.run machine).dispatcher (call.run machine).logical := by
  have hmachine : machine.Inv machine.logical.processes := ⟨h, rfl⟩
  cases call with
  | insertProcess => exact insertProcess_inv h _ _ _ _ _
  | entry io _ _ _ hasOutput =>
    exact (dispatchLogicalPtraceEntry_inv hmachine hsafe io hasOutput).dispatch
  | exit _ _ hasOutput => exact (dispatchLogicalPtraceExit_inv hmachine hasOutput).dispatch
  | publish _ event => exact (publishLogicalPtraceStop_inv hmachine event).dispatch
  | tryWake io => exact (tryWakeLogicalPtraceWait_inv hmachine hsafe io).dispatch
  | cancel => exact (cancelLogicalPtraceDispatch_inv hmachine).dispatch
  | rekey => exact (rekeyLogicalPtraceDispatchTask_inv hmachine hsafe).dispatch

theorem DispatchInv.runDispatch {machine : Machine σ}
    (h : DispatchInv machine.dispatcher machine.logical) {calls : List (DispatchCall σ)}
    (hsafe : DispatchSafe machine calls) :
    DispatchInv (runDispatch machine calls).dispatcher (runDispatch machine calls).logical := by
  induction calls generalizing machine with
  | nil => exact h
  | cons call calls ih => exact ih (h.run hsafe.1) hsafe.2

/-- Every safe run from the initial machine, with any arguments and any answers of the callbacks,
ends in a valid dispatcher. -/
theorem runDispatch_valid (host : σ) {calls : List (DispatchCall σ)}
    (hsafe : DispatchSafe (initMachine host) calls) :
    ValidateLogicalPtraceDispatcher (runDispatch (initMachine host) calls).dispatcher
      (runDispatch (initMachine host) calls).logical :=
  (DispatchInv.init.runDispatch hsafe).validate

/-- A stop that is published and waited for. -/
theorem runDispatch_valid_one_stop :
    DispatchSafe (initMachine ()) (seizedAndStopped ++ waitForStop) ∧
      ValidateLogicalPtraceDispatcher
        (runDispatch (initMachine ()) (seizedAndStopped ++ waitForStop)).dispatcher
        (runDispatch (initMachine ()) (seizedAndStopped ++ waitForStop)).logical :=
  have hsafe : DispatchSafe (initMachine ()) (seizedAndStopped ++ waitForStop) := by decide +kernel
  ⟨hsafe, runDispatch_valid () hsafe⟩

/-- A second stop is accepted while the first is queued; the wait then hands out the first and
leaves the second behind a current stop. -/
theorem two_stops_before_wait_invalid :
    let machine := runDispatch (initMachine ()) (seizedAndStopped ++
      [.publish otherTask { kind := .signalDelivery, signalNumber := 19 }] ++ waitForStop)
    ¬ValidateLogicalPtraceDispatcher machine.dispatcher machine.logical := by
  intro machine hvalid
  have hrecord := (hvalid.2.2.2.1 0 (by decide +kernel)).2
  have hgeneration : (machine.dispatcher.stops 0).relationGeneration ≠ 0 := by decide +kernel
  rw [if_neg hgeneration] at hrecord
  obtain ⟨relation, hrelation, hstop⟩ := hrecord
  have hslot : logicalPtraceRelationAt machine.logical 0 = some 0 := by decide +kernel
  obtain rfl : 0 = relation := Option.some.inj (hslot.symm.trans hrelation)
  exact absurd (hstop.2.2.2.1 (by decide +kernel) (by decide +kernel)).2 (by decide +kernel)

section Exits

variable {machine : Machine σ} {task : LogicalTaskKey} {slot : Nat}

theorem DispatchInv.findWait_iff (h : DispatchInv machine.dispatcher machine.logical)
    (hfound : findOperation machine.dispatcher task = some slot) :
    findLogicalWait machine.logical task = none ↔
      (machine.dispatcher.operations slot).state ≠ .heldWait := by
  obtain ⟨hs, -, hused, hcaller⟩ := h.operations.findOperation_some hfound
  rw [← not_iff_not, not_not, ← Ne, ← waiting_iff_findWait h.table.sound, ← hcaller]
  exact h.operations.waiting_iff hs hused

theorem DispatchInv.findOperation_erase (h : DispatchInv machine.dispatcher machine.logical)
    (hfound : findOperation machine.dispatcher task = some slot) :
    findOperation (eraseOperation machine.dispatcher slot) task = none := by
  obtain ⟨hs, -, hused, rfl⟩ := h.operations.findOperation_some hfound
  rw [(h.operations.erase hs hused).findOperation_eq, KeyedTable.lookup_eq_none]
  intro hholds
  rcases (KeyedTable.Holds.overwrite_iff h.operations.distinct hs hused).mp hholds with
    ⟨-, hne⟩ | ⟨hcleared, -⟩
  · exact hne rfl
  · exact not_used_clearOperation slot hcleared

/-- In every safe run, the exit of a call in flight is held exactly as long as the wait of its task
is registered; otherwise the exit returns the result of the call, and nothing of it is left. -/
theorem runDispatch_exit_held_iff (host : σ) {calls : List (DispatchCall σ)}
    (hsafe : DispatchSafe (initMachine host) calls) (task : LogicalTaskKey) (slot : Nat)
    (hfound : findOperation (runDispatch (initMachine host) calls).dispatcher task = some slot) :
    let machine := runDispatch (initMachine host) calls
    let operation := machine.dispatcher.operations slot
    let exit := dispatchLogicalPtraceExit machine task operation.syscallNumber true
    if findLogicalWait machine.logical task = none then
      exit.2 = .ok
        { flags := kLogicalPtraceExitHandled ||| kLogicalPtraceExitWriteResult
          operationSlot := slot, visibleResult := operation.visibleResult } ∧
        findOperation exit.1.dispatcher task = none ∧
        findLogicalWait exit.1.logical task = none
    else exit = (machine, .ok
      { flags := kLogicalPtraceExitHandled ||| kLogicalPtraceExitHold, operationSlot := slot }) := by
  have h := DispatchInv.init.runDispatch hsafe
  generalize runDispatch (initMachine host) calls = machine at *
  obtain ⟨-, hlive, -, hcaller⟩ := h.operations.findOperation_some hfound
  have hvalid : ¬CallInvalid machine task := by
    simp only [CallInvalid, not_or, not_not]
    exact ⟨h.operations.initialized, h.table.sound.initialized, hcaller ▸ hlive.caller⟩
  have hexit : dispatchLogicalPtraceExit machine task
      (machine.dispatcher.operations slot).syscallNumber true =
      if (machine.dispatcher.operations slot).state = .heldWait then (machine, .ok
        { flags := kLogicalPtraceExitHandled ||| kLogicalPtraceExitHold, operationSlot := slot })
      else ({ machine with dispatcher := eraseOperation machine.dispatcher slot }, .ok
        { flags := kLogicalPtraceExitHandled ||| kLogicalPtraceExitWriteResult
          operationSlot := slot
          visibleResult := (machine.dispatcher.operations slot).visibleResult }) := by
    simp [dispatchLogicalPtraceExit, hvalid, hfound, hlive.slot_eq]
  dsimp only
  rw [hexit]
  split_ifs with hnone hheld hheld
  · exact absurd hheld ((h.findWait_iff hfound).mp hnone)
  · exact ⟨rfl, h.findOperation_erase hfound, hnone⟩
  · rfl
  · exact absurd ((h.findWait_iff hfound).mpr hheld) hnone

theorem runDispatch_exit_held_waiting :
    let calls := seizedAndStopped.take 4 ++ waitForStop.take 1
    let machine := runDispatch (initMachine ()) calls
    DispatchSafe (initMachine ()) calls ∧
      findLogicalWait machine.logical (threadOf7 7) ≠ none ∧
      (dispatchLogicalPtraceExit machine (threadOf7 7)
        (machine.dispatcher.operations 0).syscallNumber true).1 = machine := by
  intro calls machine
  have hsafe : DispatchSafe (initMachine ()) calls := by decide +kernel
  have hwait : findLogicalWait machine.logical (threadOf7 7) ≠ none := by decide +kernel
  have hexit := runDispatch_exit_held_iff () hsafe (threadOf7 7) 0 (by decide +kernel)
  refine ⟨hsafe, hwait, ?_⟩
  rw [if_neg hwait] at hexit
  exact congrArg Prod.fst hexit

end Exits

end HookSelf.PtraceDispatch
