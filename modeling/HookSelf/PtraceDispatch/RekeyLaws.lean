import HookSelf.LogicalPtrace.Runs
import HookSelf.PtraceDispatch.CallLaws

/-! The migration of a task key renames it in the operations, the stop records and the table
together. -/

namespace HookSelf.PtraceDispatch

open SlotTable KeyedTable LinkChain LogicalPtrace Postcondition

variable {σ : Type} {machine : Machine σ} {P : Nat → LogicalProcessRecord}
  {old new : LogicalTaskKey} {table : LogicalPtraceTable} {dispatcher : LogicalPtraceDispatcher}
  {waiting : LogicalTaskKey → Prop}

def Renamed (waiting : LogicalTaskKey → Prop) (old new task : LogicalTaskKey) : Prop :=
  waiting task ∧ task ≠ old ∨ waiting old ∧ task = new

theorem renamed_of_not (h : ¬waiting old) (task : LogicalTaskKey) :
    Renamed waiting old new task ↔ waiting task := by
  refine ⟨?_, fun hwaiting => .inl ⟨hwaiting, ?_⟩⟩
  · rintro (hyes | hyes)
    exacts [hyes.1, absurd hyes.1 h]
  · rintro rfl
    exact h hwaiting

section Table

theorem renameTask_records (table : LogicalPtraceTable) (old new : LogicalTaskKey)
    (oldFake oldWait : Option Nat) :
    let after := renameTask table old new oldFake oldWait (findLogicalPtraceRelation table old)
    after.processes = table.processes ∧
      (after.waits = oldWait.elim table.waits fun slot => Function.update table.waits slot
        { table.waits slot with request := { (table.waits slot).request with waiter := new } }) ∧
      ∀ s < kLogicalPtraceRelationCapacity, after.relations s =
        renameTracer old new ((renameTracee table old new).relations s) := by
  simp only [renameTask, forSlots_modifyRelation, noteMutation]
  refine ⟨?_, ?_, fun s hs => ?_⟩
  · cases oldFake <;> cases oldWait <;> cases findLogicalPtraceRelation table old <;> rfl
  · cases oldFake <;> cases oldWait <;> cases findLogicalPtraceRelation table old <;> rfl
  · rw [if_pos hs, renameTracee]
    cases oldFake <;> cases oldWait <;> cases findLogicalPtraceRelation table old <;> rfl

theorem rekeyLogicalPtraceTask_grants (h : Inv table) (hne : old ≠ new) :
    Grants (rekeyLogicalPtraceTask table old new) fun after _ =>
      after.processes = table.processes ∧
        (∀ s < kLogicalPtraceRelationCapacity,
          after.relations s = renamed old new (table.relations s)) ∧
        ∀ task, Waiting after.waits task ↔ Renamed (Waiting table.waits) old new task := by
  refine .guard fun _ => .ite (fun heq => absurd (logicalTaskKeysEqual_iff.mp heq) hne) fun _ =>
    .guard fun _ => .guard fun _ => .guard fun _ => .guard fun _ => .guard fun _ => .guard fun _ =>
    .guard fun _ => .guard fun _ => .done ?_
  obtain ⟨hprocesses, hwaits, hrelations⟩ := renameTask_records table old new
    (findFakeTraceme table old) (findLogicalWait table old)
  refine ⟨hprocesses, fun s hs => (hrelations s hs).trans (h.renameTracer_eq hs), fun task => ?_⟩
  rw [hwaits]
  rcases hwait : findLogicalWait table old with _ | slot
  · exact (renamed_of_not (fun hyes => (waiting_iff_findWait h.sound).mp hyes hwait) task).symm
  · obtain ⟨hlt, hused, -⟩ := h.sound.findWait_some hwait
    have hwaiter : (table.waits slot).waiter = old := by
      rw [h.findWait_eq] at hwait
      exact (lookup_spec hwait).2.2
    refine (Holds.overwrite_iff h.waits.distinct hlt hused).trans ?_
    rw [hwaiter]
    exact or_congr_right (and_congr_left' (iff_of_true hused ⟨slot, hlt, hused, hwaiter⟩))

theorem rekeyLogicalPtraceTask_esrch (hsame : SameProcess old new)
    (hprocess : findLogicalProcess table (logicalProcessKeyForTask old) ≠ none)
    (herror : (rekeyLogicalPtraceTask table old new).2 = .error .esrch) :
    findLogicalWait table old = none ∧ findLogicalPtraceRelation table old = none := by
  have hkey : logicalProcessKeyForTask new = logicalProcessKeyForTask old := by
    simp [logicalProcessKeyForTask, hsame.tgid, hsame.generation]
  simp only [rekeyLogicalPtraceTask, hkey, hprocess, or_self, if_false] at herror
  split_ifs at herror with _ _ _ _ _ _ _ _ hnothing
  all_goals first | exact ⟨hnothing.2.1, hnothing.2.2.1⟩ | cases herror

end Table

section Dispatcher

theorem forSlots_modifyStop (dispatcher : LogicalPtraceDispatcher)
    (f : LogicalPtraceDispatchStop → LogicalPtraceDispatchStop) (n : Nat) :
    forSlots (fun slot dispatcher => modifyStop dispatcher slot f) n dispatcher =
      { dispatcher with stops := fun s => if s < n then f (dispatcher.stops s)
          else dispatcher.stops s } :=
  forSlots_map (·.stops) (fun dispatcher stops => { dispatcher with stops }) (fun _ => rfl)
    (fun _ _ => rfl) (fun _ _ _ => rfl) f n dispatcher

theorem OperationsInv.rename (h : OperationsInv dispatcher P waiting) (hsame : SameProcess old new)
    (hnew : findOperation dispatcher old ≠ none → findOperation dispatcher new = none) :
    OperationsInv ((findOperation dispatcher old).elim dispatcher fun index =>
      modifyOperation dispatcher index fun operation => { operation with caller := new }) P
      (Renamed waiting old new) := by
  rcases hfound : findOperation dispatcher old with _ | index
  · exact h.congr (renamed_of_not (h.not_waiting hfound))
  · obtain ⟨hs, hlive, hused, hcaller⟩ := h.findOperation_some hfound
    have hv : OperationLive index { dispatcher.operations index with caller := new } :=
      { hlive with caller := hsame.valid }
    refine (h.overwrite hs hused hv (.inr (hnew (by simp [hfound])))
      (hsame.processId.trans (by rw [hcaller]))).congr fun task => ?_
    rw [Renamed, hcaller, ← h.waiting_iff hs hused, hcaller]

theorem renameDispatch_stops (oldOperation : Option Nat) {s : Nat}
    (hs : s < kLogicalPtraceRelationCapacity) :
    (renameDispatch dispatcher old new oldOperation).stops s =
      renameStop old new (dispatcher.stops s) := by
  rw [← kLogicalPtraceDispatchCapacity_eq] at hs
  simp only [renameDispatch, forSlots_modifyStop]
  cases oldOperation <;> simp only [noteDispatch] <;> split_ifs <;> exact if_pos hs

theorem renameDispatch_operations (oldOperation : Option Nat)
    (h : OperationsInv (oldOperation.elim dispatcher fun index =>
      modifyOperation dispatcher index fun operation => { operation with caller := new }) P waiting) :
    OperationsInv (renameDispatch dispatcher old new oldOperation) P waiting := by
  simp only [renameDispatch, forSlots_modifyStop]
  split_ifs
  exacts [{ h with }, { h with }]

theorem renameStop_clear (s : Nat) : renameStop old new (clearStop s) = clearStop s :=
  if_neg fun hboth => hboth.1 rfl

theorem renameStop_tracee {stop : LogicalPtraceDispatchStop} (h : stop.relationGeneration ≠ 0) :
    renameStop old new stop = { stop with tracee := rename old new stop.tracee } := by
  rw [renameStop, rename]
  by_cases heq : stop.tracee = old
  · rw [if_pos ⟨h, logicalTaskKeysEqual_iff.mpr heq⟩, if_pos heq]
  · rw [if_neg fun hboth => heq (logicalTaskKeysEqual_iff.mp hboth.2), if_neg heq]

theorem StopOk.rename {s : Nat} {stop : LogicalPtraceDispatchStop} {R : Nat → LogicalPtraceRelation}
    (h : StopOk s stop (R s)) (hrelation : (R s).Used → (R s).generation ≠ 0) :
    StopOk s (renameStop old new stop) (renamed old new (R s)) := by
  rcases h with rfl | hlive
  · exact .inl (renameStop_clear s)
  · have hgeneration : stop.relationGeneration ≠ 0 := hlive.generation ▸ hrelation hlive.used
    rw [renameStop_tracee hgeneration, renamed_of_used hlive.used, hlive.tracee]
    refine .inr ⟨hlive.slot_eq, hlive.used, hlive.generation, rfl, ?_⟩
    cases hlive.phase with
    | idle hflags hnone => exact .idle hflags hnone
    | current hflags hevent hstate hqueue => exact .current hflags hevent hstate hqueue
    | attach hflags hnone hkind hstate => exact .attach hflags hnone hkind hstate
    | interrupt hflags hnone hkind hstate => exact .interrupt hflags hnone hkind hstate

theorem StopOk.rename_of_ne {s : Nat} {stop : LogicalPtraceDispatchStop}
    {relation : LogicalPtraceRelation} (h : StopOk s stop relation)
    (hne : relation.Used → relation.tracee ≠ old) : renameStop old new stop = stop := by
  rcases h with rfl | hlive
  · exact renameStop_clear s
  · refine if_neg fun hboth => hne hlive.used ?_
    rw [← hlive.tracee]
    exact logicalTaskKeysEqual_iff.mp hboth.2

end Dispatcher

/-- The dispatcher renames the task before the table says that it knows nothing of it. -/
theorem renameDispatch_inv_of_absent (h : machine.Inv P) (hsame : SameProcess old new)
    (hnew : findOperation machine.dispatcher old ≠ none → findOperation machine.dispatcher new = none)
    (hwait : findLogicalWait machine.logical old = none)
    (hrelation : findLogicalPtraceRelation machine.logical old = none) :
    Machine.Inv P { machine with
      dispatcher := renameDispatch machine.dispatcher old new
        (findOperation machine.dispatcher old) } := by
  have hnotWaiting : ¬Waiting machine.logical.waits old := fun hyes =>
    (waiting_iff_findWait h.dispatch.table.sound).mp hyes hwait
  rw [h.dispatch.table.findRelation_eq, lookup_eq_none] at hrelation
  refine ⟨⟨h.dispatch.table, ?_, fun s hs => ?_⟩, h.processes⟩
  · exact (renameDispatch_operations _ (h.dispatch.operations.rename hsame hnew)).congr fun task =>
      (renamed_of_not hnotWaiting task).symm
  · have hstop := h.dispatch.stops s hs
    rw [renameDispatch_stops _ hs, hstop.rename_of_ne fun hused heq => hrelation ⟨s, hs, hused, heq⟩]
    exact hstop

theorem renameDispatch_inv (h : machine.Inv P) (hsame : SameProcess old new)
    (hnew : findOperation machine.dispatcher old ≠ none → findOperation machine.dispatcher new = none)
    {logical : LogicalPtraceTable} (htable : Inv logical)
    (hprocesses : logical.processes = machine.logical.processes)
    (hrelations : ∀ s < kLogicalPtraceRelationCapacity,
      logical.relations s = renamed old new (machine.logical.relations s))
    (hwaits : ∀ task, Waiting logical.waits task ↔
      Renamed (Waiting machine.logical.waits) old new task) :
    Machine.Inv P { machine with
      logical
      dispatcher := renameDispatch machine.dispatcher old new
        (findOperation machine.dispatcher old) } := by
  refine ⟨⟨htable, ?_, fun s hs => ?_⟩, hprocesses.trans h.processes⟩
  · rw [hprocesses]
    exact (renameDispatch_operations _ (h.dispatch.operations.rename hsame hnew)).congr hwaits
  · rw [renameDispatch_stops _ hs, hrelations s hs]
    exact (h.dispatch.stops s hs).rename fun hused =>
      (h.dispatch.table.relations.live hs hused).generation

theorem rekeyLogicalPtraceDispatchTask_inv (h : machine.Inv P)
    (hapart : RekeyApart machine.logical old new) :
    (rekeyLogicalPtraceDispatchTask machine old new).1.Inv P := by
  rw [rekeyLogicalPtraceDispatchTask]
  refine .ite (fun _ => h) fun hargs => .ite (fun _ => h) fun hne => .ite (fun _ => h) fun hprocess =>
    .ite (fun _ => h) fun hknown => .ite (fun _ => h) fun hclash => ?_
  rw [logicalTaskKeysEqual_iff] at hne
  rw [not_or, not_not] at hargs
  push Not at hprocess
  have hsame : SameProcess old new := ⟨hargs.2, hprocess.1.symm, hprocess.2.symm⟩
  have hnew : findOperation machine.dispatcher old ≠ none →
      findOperation machine.dispatcher new = none := by
    refine fun hold => not_not.mp fun hyes => hne ?_
    have heq := not_not.mp fun hdiffer => hclash ⟨hold, hyes, hdiffer⟩
    obtain ⟨index, hindex⟩ := Option.ne_none_iff_exists'.mp hold
    obtain ⟨-, -, -, hcaller⟩ := h.dispatch.operations.findOperation_some hindex
    obtain ⟨-, -, -, hcaller'⟩ := h.dispatch.operations.findOperation_some (heq.symm.trans hindex)
    exact hcaller.symm.trans hcaller'
  have htable := h.dispatch.table.rekey old new hapart
  have hkeeps : Keeps machine.logical (rekeyLogicalPtraceTask machine.logical old new) :=
    rekeyLogicalPtraceTask_keeps old new
  have hgrants : Grants (rekeyLogicalPtraceTask machine.logical old new) _ :=
    rekeyLogicalPtraceTask_grants h.dispatch.table hne
  have habsent := rekeyLogicalPtraceTask_esrch hsame hknown
  generalize rekeyLogicalPtraceTask machine.logical old new = outcome at htable hkeeps hgrants habsent ⊢
  obtain ⟨logical, error | _⟩ := outcome
  · obtain rfl := hkeeps error rfl
    refine .ite (fun hesrch => ?_) fun _ => h
    obtain ⟨hwait, hrelation⟩ := habsent (congrArg Except.error hesrch.1)
    exact renameDispatch_inv_of_absent h hsame hnew hwait hrelation
  · obtain ⟨hprocesses, hrelations, hwaits⟩ := hgrants () rfl
    exact renameDispatch_inv h hsame hnew htable hprocesses hrelations hwaits

end HookSelf.PtraceDispatch
