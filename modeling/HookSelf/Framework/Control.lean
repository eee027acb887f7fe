import HookSelf.Framework.Calls

namespace HookSelf.Framework

open Config SlotTable

section Control

/-- The fields that coordinate calls; the rules play no part in them. -/
structure Control where
  activeCalls : Nat
  closing : Bool
  deferredDestroy : Bool
  destroyWaiter : Bool
  lifecycleBusy : Bool
  runtimeUsers : Nat
  runtimeGeneration : BitVec 64
  runtime : Option HookselfRuntime

def HookselfFramework.control (framework : HookselfFramework) : Control where
  activeCalls := framework.activeCalls
  closing := framework.closing
  deferredDestroy := framework.deferredDestroy
  destroyWaiter := framework.destroyWaiter
  lifecycleBusy := framework.lifecycleBusy
  runtimeUsers := framework.runtimeUsers
  runtimeGeneration := framework.runtimeGeneration
  runtime := framework.runtime

variable (framework : HookselfFramework)

@[simp] theorem control_allocateHandleLocked :
    (allocateHandleLocked framework).1.control = framework.control := rfl

@[simp] theorem control_allocatePathRuleIdLocked :
    (allocatePathRuleIdLocked framework).1.control = framework.control := rfl

@[simp] theorem control_validateRegistryLocked :
    (validateRegistryLocked framework).1.control = framework.control := rfl

@[simp] theorem control_clearRule (ref : RuleRef) :
    (clearRule framework ref).control = framework.control := by
  cases ref <;> rfl

@[simp] theorem control_writeEnabled (enabled : Bool) (ref : RuleRef) :
    (writeEnabled framework enabled ref).control = framework.control := by
  cases ref <;> rfl

theorem control_putPathRule (rule : HookselfPathRule) (enablePathPolicy : Bool) (slot : Nat)
    (handle : HookselfRuleHandle) (enabled : Bool) :
    (putPathRule rule enablePathPolicy framework slot handle enabled).control =
      framework.control := rfl

theorem control_putSyscallRule (rule : HookselfSyscallRule) (slot : Nat)
    (handle : HookselfRuleHandle) (enabled : Bool) :
    (putSyscallRule rule framework slot handle enabled).control = framework.control := rfl

def AfterLease.keepsBusy : AfterLease → Bool
  | .forward => false
  | _ => true

inductive Entered (control : Control) : Control → Activity → Prop
  | ended : Entered control control .returning
  | forward {runtime : HookselfRuntime} (hruntime : control.runtime = some runtime) :
      Entered control { control with runtimeUsers := control.runtimeUsers + 1 }
        (.leased ⟨runtime, control.runtimeGeneration⟩ .forward)
  | busy {runtime : HookselfRuntime} {after : AfterLease}
      (hruntime : control.runtime = some runtime) (hidle : control.lifecycleBusy = false)
      (hafter : after.keepsBusy) :
      Entered control
        { control with runtimeUsers := control.runtimeUsers + 1, lifecycleBusy := true }
        (.leased ⟨runtime, control.runtimeGeneration⟩ after)
  | detach {runtime : HookselfRuntime} (hruntime : control.runtime = some runtime)
      (hidle : control.lifecycleBusy = false) (hunused : control.runtimeUsers = 0) :
      Entered control
        { control with
          runtime := none
          runtimeGeneration := control.runtimeGeneration + 1
          lifecycleBusy := true } (.detached runtime)
  | build {built : HookselfConfig} (hruntime : control.runtime = none)
      (hidle : control.lifecycleBusy = false) :
      Entered control { control with lifecycleBusy := true }
        (.creating built control.runtimeGeneration)

variable {framework}

theorem registryMutationAllowedLocked_ok {answer : StateAnswer}
    (h : registryMutationAllowedLocked framework answer = .ok) :
    framework.lifecycleBusy = false ∧ framework.runtimeUsers = 0 := by
  by_cases hbusy : framework.lifecycleBusy ∨ framework.runtimeUsers ≠ 0
  · rw [registryMutationAllowedLocked, if_pos hbusy] at h
    exact nomatch h
  · simpa using hbusy

def RuleOutcome.next (outcome : RuleOutcome) : Activity :=
  match outcome.detached with
  | some runtime => .detached runtime
  | none => .returning

theorem refuse_entered {control : Control} {result : HookselfResult}
    (h : framework.control = control) :
    Entered control (refuse framework result).framework.control (refuse framework result).next := by
  rw [← h]
  exact .ended

theorem commit_entered {before : HookselfFramework} {handle : Option HookselfRuleHandle}
    {answer : StateAnswer} (h : framework.control = before.control)
    (hallowed : registryMutationAllowedLocked before answer = .ok) :
    Entered before.control (commit framework handle).framework.control
      (commit framework handle).next := by
  obtain ⟨hidle, hunused⟩ := registryMutationAllowedLocked_ok hallowed
  rw [← h]
  have hidle' : framework.control.lifecycleBusy = false := h ▸ hidle
  have hunused' : framework.control.runtimeUsers = 0 := h ▸ hunused
  cases hruntime : framework.runtime with
  | none =>
    simp only [commit, detachStoppedRuntimeAfterMutationLocked, hruntime, RuleOutcome.next]
    exact .ended
  | some runtime =>
    simp only [commit, detachStoppedRuntimeAfterMutationLocked, hruntime, RuleOutcome.next]
    exact .detach hruntime hidle' hunused'

theorem registerRule_entered {place : Nat → RuleRef} {capacity : Nat}
    {put : HookselfFramework → Nat → HookselfRuleHandle → Bool → HookselfFramework}
    (hput : ∀ framework slot handle enabled,
      (put framework slot handle enabled).control = framework.control)
    (framework : HookselfFramework) (enabled : Bool) (answer : StateAnswer) :
    Entered framework.control
      (registerRule place capacity put framework enabled answer).framework.control
      (registerRule place capacity put framework enabled answer).next := by
  unfold registerRule
  split_ifs with hallowed
  · exact refuse_entered rfl
  · cases firstSlot capacity fun index => ¬Live framework (place index) with
    | none => exact refuse_entered rfl
    | some slot =>
      dsimp only
      split_ifs
      · exact refuse_entered rfl
      · exact refuse_entered (by simp [hput])
      · exact commit_entered (by simp [hput]) (not_not.mp hallowed)

theorem registerPathRuleLocked_entered {before : HookselfFramework}
    (h : framework.control = before.control) (rule : HookselfPathRule)
    (enabled enablePathPolicy : Bool) (answer : StateAnswer) :
    Entered before.control
      (registerPathRuleLocked framework rule enabled enablePathPolicy answer).framework.control
      (registerPathRuleLocked framework rule enabled enablePathPolicy answer).next := by
  rw [← h]
  unfold registerPathRuleLocked
  split_ifs
  · exact refuse_entered rfl
  · exact registerRule_entered (fun _ => control_putPathRule _ rule enablePathPolicy) framework
      enabled answer

theorem registerRedirect_entered (rule : HookselfPathRule) (enabled : Bool)
    (first answer : StateAnswer) :
    Entered framework.control
      (registerRedirect framework rule enabled first answer).framework.control
      (registerRedirect framework rule enabled first answer).next := by
  unfold registerRedirect
  split_ifs
  · exact refuse_entered rfl
  · exact registerPathRuleLocked_entered rfl _ _ _ _
  · dsimp only
    split_ifs
    · exact refuse_entered rfl
    · exact registerPathRuleLocked_entered (by simp) _ _ _ _

theorem unregisterRule_entered (handle : HookselfRuleHandle) (answer : StateAnswer) :
    Entered framework.control (unregisterRule framework handle answer).framework.control
      (unregisterRule framework handle answer).next := by
  unfold unregisterRule
  split_ifs with hallowed
  · exact refuse_entered rfl
  · cases findHandle framework handle with
    | none => exact refuse_entered rfl
    | some ref => exact commit_entered (by simp) (not_not.mp hallowed)

theorem setRuleEnabled_entered (handle : HookselfRuleHandle) (enabled : Bool)
    (answer : StateAnswer) :
    Entered framework.control (setRuleEnabled framework handle enabled answer).framework.control
      (setRuleEnabled framework handle enabled answer).next := by
  unfold setRuleEnabled
  cases findHandle framework handle with
  | none =>
    dsimp only
    split_ifs <;> exact refuse_entered rfl
  | some ref =>
    dsimp only
    split_ifs with _ hallowed
    · exact refuse_entered rfl
    · exact refuse_entered rfl
    · exact commit_entered (by simp) (not_not.mp hallowed)

theorem acquireLocked_eq_some {leased : HookselfFramework} {lease : RuntimeLease}
    (h : acquireLocked framework = some (leased, lease)) :
    framework.runtime = some lease.runtime ∧ lease.generation = framework.runtimeGeneration ∧
      leased = { framework with runtimeUsers := framework.runtimeUsers + 1 } := by
  unfold acquireLocked at h
  split at h
  · exact nomatch h
  · next runtime hruntime =>
    split_ifs at h
    obtain ⟨rfl, rfl⟩ := Prod.mk.inj (Option.some.inj h)
    exact ⟨hruntime, rfl, rfl⟩

theorem forwardLocked_entered : Entered framework.control (forwardLocked framework).1.control
    (forwardLocked framework).2 := by
  unfold forwardLocked
  rcases hlease : acquireLocked framework with _ | ⟨leased, runtime, generation⟩
  · exact .ended
  · obtain ⟨hruntime, rfl, rfl⟩ := acquireLocked_eq_some hlease
    have hcontrol : framework.control.runtime = some runtime := hruntime
    exact .forward hcontrol

theorem leaseBusyLocked_entered (hidle : framework.lifecycleBusy = false) (starting : Bool)
    {after : AfterLease} (hafter : after.keepsBusy) :
    Entered framework.control (leaseBusyLocked framework starting after).1.control
      (leaseBusyLocked framework starting after).2 := by
  unfold leaseBusyLocked
  rcases hlease : acquireLocked framework with _ | ⟨leased, runtime, generation⟩
  · exact .ended
  · obtain ⟨hruntime, rfl, rfl⟩ := acquireLocked_eq_some hlease
    have hcontrol : framework.control.runtime = some runtime := hruntime
    have hfree : framework.control.lifecycleBusy = false := hidle
    exact .busy hcontrol hfree hafter

theorem beginStart_entered :
    Entered framework.control (beginStart framework).1.control (beginStart framework).2 := by
  unfold beginStart
  split_ifs with hbusy
  · exact .ended
  · have hidle : framework.control.lifecycleBusy = false := Bool.eq_false_iff.mpr hbusy
    split
    · exact leaseBusyLocked_entered hidle true rfl
    · next hruntime =>
      have hcontrol : framework.control.runtime = none := hruntime
      exact .build hcontrol hidle

theorem beginPublishVirtualFile_entered (fileId size : Nat) (content : Nat → UInt8) :
    Entered framework.control (beginPublishVirtualFile framework fileId size content).1.control
      (beginPublishVirtualFile framework fileId size content).2 := by
  unfold beginPublishVirtualFile
  split_ifs with hbusy
  · exact .ended
  · split
    · split_ifs
      · exact .ended
      · exact leaseBusyLocked_entered (Bool.eq_false_iff.mpr hbusy) false rfl
    · exact .ended

theorem runOperation_entered (shared : Shared) (answers : Answers) (operation : Operation) :
    Entered shared.framework.control (runOperation shared answers operation).1.framework.control
      (runOperation shared answers operation).2 := by
  cases operation with
  | registerSyscallRule rule enabled =>
    exact registerRule_entered (fun _ => control_putSyscallRule _ rule) shared.framework enabled
      answers.state
  | registerPathRule rule enabled => exact registerPathRuleLocked_entered rfl rule enabled _ _
  | registerRedirect rule enabled => exact registerRedirect_entered rule enabled _ _
  | findRule kind ruleId => exact .ended
  | unregisterRule handle => exact unregisterRule_entered handle _
  | setRuleEnabled handle enabled => exact setRuleEnabled_entered handle enabled _
  | isRuleEnabled handle => exact .ended
  | start => exact beginStart_entered
  | stop =>
    simp only [runOperation, Shared.enter, Shared.withFramework, beginStop]
    split_ifs with hbusy
    exacts [.ended, leaseBusyLocked_entered (Bool.eq_false_iff.mpr hbusy) false rfl]
  | getState => exact forwardLocked_entered
  | getStats => exact forwardLocked_entered
  | readEvents =>
    simp only [runOperation, Shared.enter, Shared.withFramework, runtimeForForwarding]
    split_ifs
    exacts [.ended, forwardLocked_entered]
  | setLogSink =>
    simp only [runOperation, Shared.enter, Shared.withFramework, beginSetLogSink]
    split_ifs with hbusy
    exacts [.ended, leaseBusyLocked_entered (Bool.eq_false_iff.mpr hbusy) false rfl]
  | drainLogs =>
    simp only [runOperation, Shared.enter, Shared.withFramework, runtimeForForwarding]
    split_ifs
    exacts [.ended, forwardLocked_entered]
  | publishVirtualFile fileId size content =>
    exact beginPublishVirtualFile_entered fileId size content
  | refreshVirtualFile fileId =>
    simp only [runOperation, Shared.enter, Shared.withFramework, runtimeForForwarding]
    split_ifs
    exacts [.ended, forwardLocked_entered]

end Control

section Lifetime

/-- What counting calls, leases and destroys depends on. -/
structure Lifetime where
  control : Control
  created : Nat
  destroyed : List Nat
  finalized : Nat

def Shared.lifetime (shared : Shared) : Lifetime where
  control := shared.framework.control
  created := shared.created
  destroyed := shared.destroyed
  finalized := shared.finalized

def Lifetime.withControl (lifetime : Lifetime) (control : Control) : Lifetime :=
  { lifetime with control := control }

def Lifetime.destroy (lifetime : Lifetime) (runtime : Option HookselfRuntime) : Lifetime :=
  { lifetime with destroyed := (runtime.map (·.id)).toList ++ lifetime.destroyed }

def Control.release (control : Control) : Control :=
  { control with runtimeUsers := control.runtimeUsers - 1 }

def Control.idle (control : Control) : Control := { control with lifecycleBusy := false }

/-- The call that returns is the last one, and a destroy was left to it. -/
def Control.LeavesLast (control : Control) : Prop :=
  control.closing ∧ control.activeCalls - 1 = 0 ∧ control.deferredDestroy ∧ ¬control.destroyWaiter

inductive Advances (lifetime : Lifetime) : Activity → Lifetime → Option Activity → Prop
  | enter {operation : Operation} {control : Control} {next : Activity}
      (hentered : Entered lifetime.control control next) :
      Advances lifetime (.begun operation) (lifetime.withControl control) (some next)
  | forwarded {lease : RuntimeLease} :
      Advances lifetime (.leased lease .forward)
        (lifetime.withControl lifetime.control.release) (some .returning)
  | released {lease : RuntimeLease} :
      Advances lifetime (.leased lease .lifecycle)
        (lifetime.withControl lifetime.control.release) (some .finishing)
  | settled {lease : RuntimeLease} {after : AfterLease} (hafter : after.keepsBusy) :
      Advances lifetime (.leased lease after)
        (lifetime.withControl lifetime.control.release.idle) (some .returning)
  | dropped {runtime : HookselfRuntime} :
      Advances lifetime (.detached runtime) (lifetime.destroy (some runtime)) (some .finishing)
  | created {built config : HookselfConfig} {generation : BitVec 64} :
      Advances lifetime (.creating built generation)
        { lifetime with created := lifetime.created + 1 }
        (some (.created ⟨lifetime.created, config⟩ built generation))
  | notCreated {built : HookselfConfig} {generation : BitVec 64} :
      Advances lifetime (.creating built generation) lifetime (some (.failed none))
  | notStarted {runtime : HookselfRuntime} {built : HookselfConfig} {generation : BitVec 64} :
      Advances lifetime (.created runtime built generation) lifetime
        (some (.failed (some runtime)))
  | refused {runtime : HookselfRuntime} {built : HookselfConfig} {generation : BitVec 64} :
      Advances lifetime (.created runtime built generation)
        (lifetime.withControl lifetime.control.idle) (some (.discarding runtime))
  | published {runtime : HookselfRuntime} {built : HookselfConfig} {generation : BitVec 64}
      (hruntime : lifetime.control.runtime = none) :
      Advances lifetime (.created runtime built generation)
        (lifetime.withControl
          { lifetime.control.idle with
            runtime := some runtime
            runtimeGeneration := lifetime.control.runtimeGeneration + 1 }) (some .returning)
  | failed {runtime : Option HookselfRuntime} :
      Advances lifetime (.failed runtime) (lifetime.destroy runtime) (some .finishing)
  | discarded {runtime : HookselfRuntime} :
      Advances lifetime (.discarding runtime) (lifetime.destroy (some runtime)) (some .returning)
  | finished :
      Advances lifetime .finishing
        (lifetime.withControl lifetime.control.idle) (some .returning)
  | last (hlast : lifetime.control.LeavesLast) :
      Advances lifetime .returning
        (lifetime.withControl
          { lifetime.control with
            activeCalls := lifetime.control.activeCalls - 1
            deferredDestroy := false }) (some .finalizing)
  | left (hlast : ¬lifetime.control.LeavesLast) :
      Advances lifetime .returning
        (lifetime.withControl
          { lifetime.control with activeCalls := lifetime.control.activeCalls - 1 }) none
  | waits (hactive : lifetime.control.activeCalls ≠ 0) :
      Advances lifetime .waiting lifetime (some .waiting)
  | wakes (hactive : lifetime.control.activeCalls = 0) :
      Advances lifetime .waiting
        (lifetime.withControl
          { lifetime.control with
            runtime := none
            runtimeGeneration := lifetime.control.runtimeGeneration + 1 })
        (some (.destroying lifetime.control.runtime))
  | destroyed {runtime : Option HookselfRuntime} :
      Advances lifetime (.destroying runtime) (lifetime.destroy runtime) (some .finalizing)
  | finalized :
      Advances lifetime .finalizing
        { lifetime.destroy lifetime.control.runtime with
          control := { lifetime.control with runtime := none }
          finalized := lifetime.finalized + 1 } none

theorem control_releaseLocked (framework : HookselfFramework) :
    (releaseLocked framework).control = framework.control.release := by
  have husers : (releaseLocked framework).runtimeUsers = framework.runtimeUsers - 1 := by
    simp only [releaseLocked]
    split_ifs <;> omega
  simp only [HookselfFramework.control, husers]
  rfl

theorem control_idle (framework : HookselfFramework) :
    ({ framework with lifecycleBusy := false } : HookselfFramework).control =
      framework.control.idle := rfl

theorem control_endPublishVirtualFile (framework : HookselfFramework) (lease : RuntimeLease)
    (index size : Nat) (content : Nat → UInt8) (answers : Answers) :
    (endPublishVirtualFile framework lease index size content answers).control =
      framework.control.release.idle := by
  unfold endPublishVirtualFile
  dsimp only
  rw [control_idle, control_releaseLocked]
  split_ifs <;> rfl

variable (shared : Shared) (answers : Answers)

theorem endLease_advances (lease : RuntimeLease) (after : AfterLease) :
    Advances shared.lifetime (.leased lease after)
      (shared.enter (endLease shared.framework answers lease after)).1.lifetime
      (some (endLease shared.framework answers lease after).2) := by
  simp only [Shared.enter, Shared.lifetime, Shared.withFramework]
  cases after with
  | forward =>
    rw [endLease, control_releaseLocked]
    exact .forwarded
  | lifecycle =>
    rw [endLease, control_releaseLocked]
    exact .released
  | sink =>
    rw [endLease, control_idle, control_releaseLocked]
    exact .settled rfl
  | publish index size content =>
    rw [endLease, control_endPublishVirtualFile]
    exact .settled rfl

theorem publishRuntime_advances (runtime : HookselfRuntime) (built : HookselfConfig)
    (generation : BitVec 64) :
    Advances shared.lifetime (.created runtime built generation)
      (shared.enter (publishRuntime shared.framework runtime built generation)).1.lifetime
      (some (publishRuntime shared.framework runtime built generation).2) := by
  unfold publishRuntime
  split_ifs with hmoved
  · exact .refused
  · have hruntime : shared.lifetime.control.runtime = none := by
      simp only [not_or, Option.not_isSome_iff_eq_none] at hmoved
      exact hmoved.2.1
    exact .published hruntime

theorem endFrameworkCall_advances :
    Advances shared.lifetime .returning
      (shared.withFramework (endFrameworkCall shared.framework).1).lifetime
      (if (endFrameworkCall shared.framework).2 then some .finalizing else none) := by
  have hactive : (if shared.framework.activeCalls ≠ 0 then shared.framework.activeCalls - 1
      else shared.framework.activeCalls) = shared.framework.activeCalls - 1 := by
    split_ifs <;> omega
  simp only [endFrameworkCall, hactive]
  by_cases hlast : shared.framework.closing ∧ shared.framework.activeCalls - 1 = 0 ∧
      shared.framework.deferredDestroy ∧ ¬shared.framework.destroyWaiter
  · have hleaves : shared.lifetime.control.LeavesLast := hlast
    rw [if_pos hlast]
    exact .last hleaves
  · have hleaves : ¬shared.lifetime.control.LeavesLast := hlast
    rw [if_neg hlast]
    exact .left hleaves

theorem runOperation_lifetime (operation : Operation) :
    (runOperation shared answers operation).1.lifetime =
      shared.lifetime.withControl (runOperation shared answers operation).1.framework.control := by
  cases operation <;> rfl

theorem advance_advances (activity : Activity) :
    Advances shared.lifetime activity (advance shared answers activity).1.lifetime
      (advance shared answers activity).2 := by
  cases activity with
  | begun operation =>
    have hentered : Entered shared.lifetime.control _ _ :=
      runOperation_entered shared answers operation
    simp only [advance, Prod.map, id_eq, runOperation_lifetime]
    exact .enter hentered
  | leased lease after => exact endLease_advances shared answers lease after
  | detached runtime => exact .dropped
  | creating built generation =>
    simp only [advance]
    split_ifs
    exacts [.created, .notCreated]
  | created runtime built generation =>
    simp only [advance]
    split_ifs
    exacts [publishRuntime_advances shared runtime built generation, .notStarted]
  | failed runtime => exact .failed
  | discarding runtime => exact .discarded
  | finishing => exact .finished
  | returning => exact endFrameworkCall_advances shared
  | waiting =>
    by_cases hactive : shared.framework.activeCalls = 0
    · have hnone : shared.lifetime.control.activeCalls = 0 := hactive
      rw [advance, if_neg (not_not.mpr hactive)]
      exact .wakes hnone
    · have hsome : shared.lifetime.control.activeCalls ≠ 0 := hactive
      rw [advance, if_pos hactive]
      exact .waits hsome
  | destroying runtime => exact .destroyed
  | finalizing => exact .finalized

end Lifetime

end HookSelf.Framework
