import HookSelf.LogicalPtrace.Calls
import HookSelf.LogicalPtrace.Writes

/-! Sequences of table calls.  A run keeps the table valid as long as no renaming joins two keys
of one tracer chain: the creation of a relation refuses to close a cycle, the renaming does not. -/

namespace HookSelf.LogicalPtrace

def runCalls : LogicalPtraceTable → List TableCall → LogicalPtraceTable
  | table, [] => table
  | table, call :: calls => runCalls (call.run table).1 calls

/-- A renaming is apart when neither key is on the tracer chain of the other. -/
def RekeyApart (table : LogicalPtraceTable) (oldIdentity newIdentity : LogicalTaskKey) : Prop :=
  oldIdentity = newIdentity ∨ ptraceChainContains table oldIdentity newIdentity = false ∧
    ptraceChainContains table newIdentity oldIdentity = false

instance (table : LogicalPtraceTable) (oldIdentity newIdentity : LogicalTaskKey) :
    Decidable (RekeyApart table oldIdentity newIdentity) :=
  inferInstanceAs (Decidable (_ ∨ _))

def TableCall.Apart (table : LogicalPtraceTable) : TableCall → Prop
  | .rekey oldIdentity newIdentity => RekeyApart table oldIdentity newIdentity
  | _ => True

def CallsApart : LogicalPtraceTable → List TableCall → Prop
  | _, [] => True
  | table, call :: calls => call.Apart table ∧ CallsApart (call.run table).1 calls

theorem Inv.run {table : LogicalPtraceTable} (h : Inv table) (call : TableCall)
    (hapart : call.Apart table) : Inv (call.run table).1 := by
  cases call with
  | insertProcess => exact h.insertProcess _ _ _ _ _
  | inheritProcess => exact h.inheritProcess _ _ _
  | eraseProcess => exact h.eraseProcess _
  | setProcessDumpable => exact h.setDumpable _ _
  | setProcessPtracer => exact h.setPtracer _ _
  | setProcessGroup => exact h.setGroup _ _
  | setProcessParent => exact h.setParent _ _
  | claimFakeTraceme => exact h.claimFake _
  | clearFakeTraceme => exact h.clearFake _
  | createRelation => exact Inv.tableWrites.createRelation h _ _ _ _ _
  | createInheritedRelation => exact h.createInheritedRelation _ _ _ _
  | eraseRelation => exact Inv.tableWrites.eraseRelation h _ _
  | setOptions => exact Inv.tableWrites.setOptions h _ _
  | resume => exact Inv.tableWrites.resumeRelation h _ _
  | listen => exact Inv.tableWrites.listenRelation h _
  | queueEvent => exact Inv.tableWrites.queueEvent h _ _
  | peekEvent => exact h
  | setEventRegisters => exact Inv.tableWrites.setRegisters h _ _ _ _
  | setEventSiginfo => exact Inv.tableWrites.setSiginfo h _ _
  | consumeEvent => exact Inv.tableWrites.consumeEvent h _ _ _
  | beginWait => exact Inv.tableWrites.beginWait h _
  | endWait => exact Inv.tableWrites.endWait h _
  | selectWait => exact h
  | consumeWait => exact Inv.tableWrites.consumeWait h _ _ _
  | rekey oldIdentity newIdentity => exact h.rekey oldIdentity newIdentity hapart

theorem Inv.runCalls {table : LogicalPtraceTable} (h : Inv table) {calls : List TableCall}
    (hapart : CallsApart table calls) : Inv (runCalls table calls) := by
  induction calls generalizing table with
  | nil => exact h
  | cons call calls ih => exact ih (h.run call hapart.1) hapart.2

/-- Calls whose renamings are apart lead from the initial table to valid tables only. -/
theorem runCalls_valid {calls : List TableCall} (hapart : CallsApart initLogicalPtraceTable calls) :
    ValidateLogicalPtraceTable (runCalls initLogicalPtraceTable calls) :=
  (Inv.init.runCalls hapart).validate

section Cycle

def threadOf7 (tid : Int) : LogicalTaskKey :=
  { tid := tid, tgid := 7, generation := 1, processGeneration := 1 }

def otherTask : LogicalTaskKey := { tid := 8, tgid := 8, generation := 1, processGeneration := 1 }

def traceBothWays : List TableCall :=
  [insertSole, .insertProcess { tgid := 8, generation := 1 } none 8 1 {},
    .createRelation otherTask (threadOf7 9) .seize .clone 0,
    .createRelation (threadOf7 7) otherTask .seize .clone 0]

theorem runCalls_valid_rekey_apart :
    CallsApart initLogicalPtraceTable
        [insertSole, .claimFakeTraceme (threadOf7 7), .rekey (threadOf7 7) (threadOf7 9)] ∧
      ValidateLogicalPtraceTable (runCalls initLogicalPtraceTable
        [insertSole, .claimFakeTraceme (threadOf7 7), .rekey (threadOf7 7) (threadOf7 9)]) := by
  have hapart : CallsApart initLogicalPtraceTable
      [insertSole, .claimFakeTraceme (threadOf7 7), .rekey (threadOf7 7) (threadOf7 9)] :=
    ⟨trivial, trivial, .inr (by decide +kernel), trivial⟩
  exact ⟨hapart, runCalls_valid hapart⟩

/-- Renaming the traced thread to the tracing one succeeds and closes a cycle of tracers. -/
theorem rekey_closes_tracer_cycle :
    ((TableCall.rekey (threadOf7 7) (threadOf7 9)).run
        (runCalls initLogicalPtraceTable traceBothWays)).2 = .ok () ∧
      ¬ValidateLogicalPtraceTable (runCalls initLogicalPtraceTable
        (traceBothWays ++ [.rekey (threadOf7 7) (threadOf7 9)])) := by
  refine ⟨by decide +kernel, fun hvalid => ?_⟩
  obtain ⟨-, -, hrecord⟩ := hvalid.2.2.1 0 (by decide +kernel)
  rw [if_neg (by decide +kernel)] at hrecord
  exact absurd hrecord.1.2.2.2.2.2.2.2.2.1 (by decide +kernel)

end Cycle

end HookSelf.LogicalPtrace
