import HookSelf.ResidentSession.Start

namespace HookSelf.ResidentSession

open Scripted RawSyscall Config

section Keeping

theorem plainCall_keeps : Keeps plainCall := .call fun _ _ => rfl
theorem observe_keeps : Keeps observe := .call fun _ _ => rfl
theorem monotonicNanoseconds_keeps : Keeps monotonicNanoseconds := .call fun _ _ => rfl
theorem readByte_keeps : Keeps readByte := .call fun _ _ => rfl
theorem fstat_keeps (fd : Int) : Keeps (fstat fd) := .call fun _ _ => rfl
theorem stuck_keeps {α : Type} : Keeps (stuck : Call α) := fun _ _ _ h => nomatch h

theorem looped_keeps {α : Type} {rounds : Nat → Call α} (h : ∀ n, Keeps (rounds n)) :
    Keeps (looped rounds) := fun world => h world.answers.length world

theorem captureRawFdObjectIdentity_keeps (fd : Int) : Keeps (captureRawFdObjectIdentity fd) := by
  refine .ite (fun _ => .pure _) fun _ => .bind (fstat_keeps fd) fun stat => ?_
  cases stat <;> exact .pure _

theorem checkFdObjectIdentity_keeps (fd : Int) (identity : FdObjectIdentity) :
    Keeps (checkFdObjectIdentity fd identity) := by
  refine .ite (fun _ => .pure _) fun _ => .bind (fstat_keeps fd) fun stat => ?_
  cases stat <;> exact .pure _

theorem waitRounds_keeps (deadline : Int) (status : Char) (rounds : Nat) :
    Keeps (waitRounds deadline status rounds) := by
  induction rounds with
  | zero => exact stuck_keeps
  | succ rounds ih =>
    refine .bind monotonicNanoseconds_keeps fun now => ?_
    refine .ite (fun _ => .pure _) fun _ => .ite (fun _ => .pure _) fun _ => ?_
    refine .bind plainCall_keeps fun polled => .ite (fun _ => .pure _) fun _ => ?_
    refine .ite (fun _ => .ite (fun _ => ih) fun _ => .pure _) fun _ => ?_
    refine .bind readByte_keeps fun bytes => .ite (fun _ => .pure _) fun _ => ?_
    exact .ite (fun _ => ih) fun _ => .pure _

theorem waitForStatusByte_keeps (fd : Int) (timeoutMs : Nat) (status : Char) :
    Keeps (waitForStatusByte fd timeoutMs status) := by
  refine .ite (fun _ => .pure _) fun _ => .bind monotonicNanoseconds_keeps fun started => ?_
  exact .ite (fun _ => .pure _) fun _ => looped_keeps (waitRounds_keeps _ _)

theorem killOnce_keeps (send : Bool) : Keeps (killOnce send) :=
  .ite (fun _ => plainCall_keeps) fun _ => .pure _

theorem reapRounds_keeps (tracerPid : Int) (forceKill : Bool) (deadline : Int) (rounds : Nat)
    (killSent : Bool) : Keeps (reapRounds tracerPid forceKill deadline rounds killSent) := by
  induction rounds generalizing killSent with
  | zero => exact stuck_keeps
  | succ rounds ih =>
    refine .bind plainCall_keeps fun waited => .ite (fun _ => .pure _) fun _ => ?_
    refine .ite (fun _ => .ite (fun _ => ih _) fun _ => .pure _) fun _ => ?_
    refine .bind (killOnce_keeps _) fun killed => .ite (fun _ => .pure _) fun _ => ?_
    refine .bind monotonicNanoseconds_keeps fun now => .ite (fun _ => .pure _) fun _ => ?_
    exact .ite (fun _ => .pure _) fun _ => .bind plainCall_keeps fun _ => ih _

theorem reapTracer_keeps (tracerPid : Int) (forceKill : Bool) (timeoutMs : Nat) :
    Keeps (reapTracer tracerPid forceKill timeoutMs) := by
  refine .ite (fun _ => .pure _) fun _ => .bind monotonicNanoseconds_keeps fun started => ?_
  exact .ite (fun _ => .pure _) fun _ => looped_keeps fun rounds => reapRounds_keeps _ _ _ _ _

theorem reapStopped_keeps (childPid : Int) (waitError : Nat) :
    Keeps (reapStopped childPid waitError) :=
  .bind (reapTracer_keeps _ _ _) fun _ =>
    .ite (fun _ => reapTracer_keeps _ _ _) fun _ => .pure _

theorem setNoNewPrivs_keeps (nnpError : Nat) (nnpBefore : Int) :
    Keeps (setNoNewPrivs nnpError nnpBefore) :=
  .ite (fun _ => .bind plainCall_keeps fun _ => .pure _) fun _ => .pure _

theorem installSelectiveSeccompFilter_keeps (filter : Seccomp.SelectiveSeccompFilter) :
    Keeps (installSelectiveSeccompFilter filter) := by
  rw [installSelectiveSeccompFilter]
  split
  · exact .pure _
  · exact .pure _
  · exact .bind plainCall_keeps fun _ => .pure _

theorem runSelectiveInstallerOwner_keeps (plan : Seccomp.SelectiveSeccompPlan) :
    Keeps (runSelectiveInstallerOwner plan) := by
  refine .bind observe_keeps fun view => .bind plainCall_keeps fun tid => ?_
  refine .ite (fun _ => .pure _) fun _ => .bind plainCall_keeps fun nnpBefore => ?_
  refine .bind (setNoNewPrivs_keeps _ _) fun nnpError => ?_
  exact .ite (fun _ => installSelectiveSeccompFilter_keeps _) fun _ => .pure _

theorem awaitReady_keeps (start : Starting) : Keeps (awaitReady start) := by
  refine .bind (waitForStatusByte_keeps _ _ _) fun first => ?_
  cases start.plan with
  | none => exact .pure _
  | some plan =>
    refine .ite (fun _ => .bind (runSelectiveInstallerOwner_keeps plan) fun _ => ?_)
      fun _ => .pure _
    exact .bind (waitForStatusByte_keeps _ _ _) fun _ => .pure _

theorem selectiveCommitVerified_keeps (start : Starting) :
    Keeps (selectiveCommitVerified start) := by
  rw [selectiveCommitVerified]
  cases start.plan with
  | none => exact .pure _
  | some plan => exact .bind observe_keeps fun _ => .pure _

theorem capturePipe_keeps (statusRead statusWrite : Int) :
    Keeps (capturePipe statusRead statusWrite) := by
  refine .bind (captureRawFdObjectIdentity_keeps _) fun read => ?_
  cases read with
  | error code => exact .pure _
  | ok identity =>
    refine .bind (captureRawFdObjectIdentity_keeps _) fun write => ?_
    cases write <;> exact .pure _

end Keeping

section Restoring

variable {world after : World Process Answer} {done : Bool}

def Restore.apply : Restore → Process → Process
  | .close fd _, process =>
    if fd < 0 then process
    else { process with descriptors := process.descriptors.erase fd.toNat }
  | .closeRaw fd, process => { process with descriptors := process.descriptors.erase fd.toNat }
  | .dumpable value, process => { process with dumpable := value }
  | .ptracer, process => { process with ptracer := none }
  | .signalMask mask, process => { process with signalMask := mask }

def applyAll : List Restore → Process → Process
  | [], process => process
  | restore :: restores, process => applyAll restores (restore.apply process)

theorem Restore.apply_unrestored (restore : Restore) (process : Process) :
    (restore.apply process).unrestored = process.unrestored := by
  cases restore with
  | close fd identity =>
    rw [Restore.apply]
    split_ifs <;> rfl
  | _ => rfl

theorem call_ite_eq_some {α : Type} {c : Answer → Prop} [DecidablePred c]
    {failure success : Answer → Process → α} {effect : Answer → Process → Process} {value : α}
    (h : call (fun answer process => if c answer then (failure answer process, process)
      else (success answer process, effect answer process)) world = some (value, after)) :
    ∃ answer, c answer ∧ value = failure answer world.state ∧ after.state = world.state ∨
      ¬c answer ∧ value = success answer world.state ∧ after.state = effect answer world.state := by
  obtain ⟨answer, answers, -, hout⟩ := call_eq_some.mp h
  refine ⟨answer, ?_⟩
  by_cases hc : c answer
  · rw [if_pos hc] at hout
    obtain ⟨rfl, rfl⟩ := Prod.mk.inj hout
    exact .inl ⟨hc, rfl, rfl⟩
  · rw [if_neg hc] at hout
    obtain ⟨rfl, rfl⟩ := Prod.mk.inj hout
    exact .inr ⟨hc, rfl, rfl⟩

theorem close_eq_some {fd : Int} {code : Nat} (h : close fd world = some (code, after)) :
    after.state = if code = 0 then (Restore.closeRaw fd).apply world.state else world.state := by
  obtain ⟨answer, ⟨-, rfl, hstate⟩ | ⟨-, rfl, hstate⟩⟩ := call_ite_eq_some h
  · rw [if_neg answer.errno_ne_zero, hstate]
  · exact hstate

theorem closeOwnedDescriptor_eq_some {fd : Int} {identity : FdObjectIdentity} {code : Nat}
    (h : closeOwnedDescriptor fd identity world = some (code, after)) :
    after.state =
      if code = 0 then (Restore.close fd identity).apply world.state else world.state := by
  rw [closeOwnedDescriptor] at h
  rw [Restore.apply]
  split_ifs at h with hfd
  · obtain ⟨rfl, rfl⟩ := Prod.mk.inj (pure_eq_some.mp h)
    rw [if_pos rfl, if_pos hfd]
  · obtain ⟨identityError, checked, hcheck, hclose⟩ := bind_eq_some.mp h
    have hkept := checkFdObjectIdentity_keeps fd identity _ _ _ hcheck
    rw [if_neg hfd, ← hkept]
    split_ifs at hclose with herror
    · obtain ⟨rfl, rfl⟩ := Prod.mk.inj (pure_eq_some.mp hclose)
      rw [if_neg herror]
    · exact close_eq_some hclose

theorem Restore.perform_eq_some {restore : Restore}
    (h : restore.perform world = some (done, after)) :
    after.state = if done = true then restore.apply world.state else world.state := by
  cases restore with
  | close fd identity =>
    obtain ⟨code, between, hclose, hdone⟩ := bind_eq_some.mp h
    obtain ⟨rfl, rfl⟩ := Prod.mk.inj (pure_eq_some.mp hdone)
    simpa using closeOwnedDescriptor_eq_some hclose
  | closeRaw fd =>
    obtain ⟨code, between, hclose, hdone⟩ := bind_eq_some.mp h
    obtain ⟨rfl, rfl⟩ := Prod.mk.inj (pure_eq_some.mp hdone)
    simpa using close_eq_some hclose
  | dumpable value =>
    rw [Restore.perform, setDumpable] at h
    obtain ⟨answer, ⟨-, rfl, hstate⟩ | ⟨-, rfl, hstate⟩⟩ := call_ite_eq_some h <;> exact hstate
  | ptracer =>
    rw [Restore.perform, setPtracer] at h
    obtain ⟨answer, ⟨-, rfl, hstate⟩ | ⟨-, rfl, hstate⟩⟩ := call_ite_eq_some h <;> exact hstate
  | signalMask mask =>
    obtain ⟨⟨done, previous⟩, between, hmask, hdone⟩ := bind_eq_some.mp h
    obtain ⟨rfl, rfl⟩ := Prod.mk.inj (pure_eq_some.mp hdone)
    obtain ⟨answer, ⟨-, hvalue, hstate⟩ | ⟨-, hvalue, hstate⟩⟩ := call_ite_eq_some hmask <;>
      obtain ⟨rfl, -⟩ := Prod.mk.inj hvalue <;> exact hstate

end Restoring

section Intending

variable {process intended : Process} {restore : Restore} {part : Part}

/-- The process is as intended in the parts that no call failed to put back. -/
structure Agrees (process intended : Process) : Prop where
  dumpable : .dumpable ∉ process.unrestored → process.dumpable = intended.dumpable
  signalMask : .signalMask ∉ process.unrestored → .unblocking ∉ process.unrestored →
    process.signalMask = intended.signalMask
  ptracer : .ptracer ∉ process.unrestored → process.ptracer = intended.ptracer
  descriptors : .descriptors ∉ process.unrestored → process.descriptors = intended.descriptors

theorem Agrees.refl (process : Process) : Agrees process process :=
  ⟨fun _ => rfl, fun _ _ => rfl, fun _ => rfl, fun _ => rfl⟩

/-- Whether `part` may be marked when the restore fails. -/
def Restore.Marks (restore : Restore) (part : Part) : Prop :=
  part = restore.part ∨ part = .unblocking ∧ restore.part = .signalMask

theorem Agrees.apply (h : Agrees process intended) (restore : Restore) :
    Agrees (restore.apply process) (restore.apply intended) := by
  have herase (fd : Nat) : Agrees
      { process with descriptors := process.descriptors.erase fd }
      { intended with descriptors := intended.descriptors.erase fd } :=
    { h with descriptors := fun hnot => congrArg (Finset.erase · fd) (h.descriptors hnot) }
  cases restore with
  | close fd identity =>
    rw [Restore.apply, Restore.apply]
    split_ifs
    · exact h
    · exact herase _
  | closeRaw fd => exact herase _
  | dumpable value => exact { h with dumpable := fun _ => rfl }
  | ptracer => exact { h with ptracer := fun _ => rfl }
  | signalMask mask => exact { h with signalMask := fun _ _ => rfl }

theorem notMem_of_missed {other : Part} (h : other ∉ (process.missed part).unrestored) :
    other ≠ part ∧ other ∉ process.unrestored :=
  not_or.mp fun hor => h (Finset.mem_insert.mpr hor)

theorem Agrees.missed (h : Agrees process intended) (hmarks : restore.Marks part) :
    Agrees (process.missed part) (restore.apply intended) := by
  have hkept : Agrees (process.missed part) intended :=
    ⟨fun hnot => h.dumpable (notMem_of_missed hnot).2,
      fun hnot hnot' => h.signalMask (notMem_of_missed hnot).2 (notMem_of_missed hnot').2,
      fun hnot => h.ptracer (notMem_of_missed hnot).2,
      fun hnot => h.descriptors (notMem_of_missed hnot).2⟩
  have hmarked : part ∈ (process.missed part).unrestored := Finset.mem_insert_self _ _
  cases restore with
  | close fd identity =>
    obtain rfl : part = .descriptors := by simpa [Restore.Marks, Restore.part] using hmarks
    rw [Restore.apply]
    split_ifs
    · exact hkept
    · exact { hkept with descriptors := fun hnot => absurd hmarked hnot }
  | closeRaw fd =>
    obtain rfl : part = .descriptors := by simpa [Restore.Marks, Restore.part] using hmarks
    exact { hkept with descriptors := fun hnot => absurd hmarked hnot }
  | dumpable value =>
    obtain rfl : part = .dumpable := by simpa [Restore.Marks, Restore.part] using hmarks
    exact { hkept with dumpable := fun hnot => absurd hmarked hnot }
  | ptracer =>
    obtain rfl : part = .ptracer := by simpa [Restore.Marks, Restore.part] using hmarks
    exact { hkept with ptracer := fun hnot => absurd hmarked hnot }
  | signalMask mask =>
    refine { hkept with signalMask := fun hnot hnot' => ?_ }
    rcases hmarks with rfl | ⟨rfl, -⟩
    · exact absurd hmarked hnot
    · exact absurd hmarked hnot'

end Intending

section Attempts

variable {world after : World Process Answer} {done : Bool} {restores : List Restore}
  {restore : Restore} {part : Part} {intended : Process} {code : HookselfResult}
  {controller : ResidentSessionController} {started : Started}

theorem attempt_eq_some (h : attempt part restore world = some (done, after))
    (hmarks : restore.Marks part) (hagrees : Agrees world.state intended) :
    Agrees after.state (restore.apply intended) ∧
      world.state.unrestored ⊆ after.state.unrestored ∧
      (done = false → part ∈ after.state.unrestored) := by
  obtain ⟨performed, between, hperform, hrest⟩ := bind_eq_some.mp h
  have hstate := Restore.perform_eq_some hperform
  cases performed with
  | false =>
    obtain ⟨rfl, rfl⟩ := Prod.mk.inj (Option.some.inj hrest)
    rw [if_neg Bool.false_ne_true] at hstate
    dsimp only
    rw [hstate]
    exact ⟨hagrees.missed hmarks, Finset.subset_insert _ _, fun _ => Finset.mem_insert_self _ _⟩
  | true =>
    obtain ⟨rfl, rfl⟩ := Prod.mk.inj (pure_eq_some.mp hrest)
    rw [if_pos rfl] at hstate
    rw [hstate]
    exact ⟨hagrees.apply restore, (Restore.apply_unrestored restore _).ge, nofun⟩

theorem cleanUp_eq_some (h : cleanUp restores world = some ((), after))
    (hagrees : Agrees world.state intended) :
    Agrees after.state (applyAll restores intended) ∧
      world.state.unrestored ⊆ after.state.unrestored := by
  induction restores generalizing world intended with
  | nil =>
    obtain ⟨-, rfl⟩ := Prod.mk.inj (pure_eq_some.mp h)
    exact ⟨hagrees, subset_rfl⟩
  | cons restore restores ih =>
    obtain ⟨_, between, hfirst, hrest⟩ := bind_eq_some.mp h
    obtain ⟨hbetween, hmore, -⟩ := attempt_eq_some hfirst (.inl rfl) hagrees
    obtain ⟨hafter, hrestored⟩ := ih hrest hbetween
    exact ⟨hafter, hmore.trans hrestored⟩

theorem giveUp_eq_some (h : giveUp code controller restores world = some (started, after))
    (hagrees : Agrees world.state intended) :
    started = (code, controller) ∧ Agrees after.state (applyAll restores intended) ∧
      world.state.unrestored ⊆ after.state.unrestored := by
  obtain ⟨_, between, hcleanUp, hrest⟩ := bind_eq_some.mp h
  obtain ⟨rfl, rfl⟩ := Prod.mk.inj (pure_eq_some.mp hrest)
  exact ⟨rfl, cleanUp_eq_some hcleanUp hagrees⟩

end Attempts

end HookSelf.ResidentSession
