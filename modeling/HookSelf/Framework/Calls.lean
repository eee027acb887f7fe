import HookSelf.Framework.RuleCalls
import HookSelf.Limits

/-! Calls on one framework, interleaved: every critical section is one step of the thread that
runs it. -/

namespace HookSelf.Framework

open Config SlotTable

inductive Operation
  | registerSyscallRule (rule : HookselfSyscallRule) (enabled : Bool)
  | registerPathRule (rule : HookselfPathRule) (enabled : Bool)
  | registerRedirect (rule : HookselfPathRule) (enabled : Bool)
  | findRule (kind : HookselfRuleKind) (ruleId : Nat)
  | unregisterRule (handle : HookselfRuleHandle)
  | setRuleEnabled (handle : HookselfRuleHandle) (enabled : Bool)
  | isRuleEnabled (handle : HookselfRuleHandle)
  | start
  | stop
  | getState
  | getStats
  | readEvents
  | setLogSink
  | drainLogs
  | publishVirtualFile (fileId : Nat) (size : Nat) (content : Nat → UInt8)
  | refreshVirtualFile (fileId : Nat)

/-- The checks on its arguments that a function makes before its call begins. -/
def Operation.accepted : Operation → Bool
  | .findRule _ ruleId => ruleId ≠ 0
  | .unregisterRule handle | .setRuleEnabled handle _ | .isRuleEnabled handle =>
    handle ≠ invalidRuleHandle
  | .publishVirtualFile _ size _ => size ≤ maxVirtualFileSize
  | _ => true

structure RuntimeLease where
  runtime : HookselfRuntime
  generation : BitVec 64

/-- What the holder of a lease does when its runtime call is over. -/
inductive AfterLease
  | forward
  | lifecycle
  | sink
  | publish (index : Nat) (size : Nat) (content : Nat → UInt8)

inductive Activity
  | begun (operation : Operation)
  | leased (lease : RuntimeLease) (after : AfterLease)
  | detached (runtime : HookselfRuntime)
  | creating (built : HookselfConfig) (generation : BitVec 64)
  | created (runtime : HookselfRuntime) (built : HookselfConfig) (generation : BitVec 64)
  | failed (runtime : Option HookselfRuntime)
  | discarding (runtime : HookselfRuntime)
  | finishing
  | returning
  | waiting
  | destroying (runtime : Option HookselfRuntime)
  | finalizing

def Activity.isCall : Activity → Bool
  | .waiting | .destroying _ | .finalizing => false
  | _ => true

structure Frame where
  thread : Nat
  activity : Activity

structure Answers where
  state : StateAnswer
  stateAgain : StateAnswer
  result : HookselfResult
  published : Bool
  memory : Bool

/-- The framework with a record of the run: the runtimes created and destroyed, and how often the
framework was finalized. -/
structure Shared where
  framework : HookselfFramework
  created : Nat
  destroyed : List Nat
  finalized : Nat

structure System where
  shared : Shared
  registered : Bool
  frames : List Frame

def Shared.withFramework (shared : Shared) (framework : HookselfFramework) : Shared :=
  { shared with framework := framework }

def Shared.destroy (shared : Shared) (runtime : Option HookselfRuntime) : Shared :=
  { shared with destroyed := (runtime.map (·.id)).toList ++ shared.destroyed }

section Leases

variable (framework : HookselfFramework)

def acquireLocked : Option (HookselfFramework × RuntimeLease) :=
  match framework.runtime with
  | none => none
  | some runtime =>
    if framework.runtimeUsers = uint32Max then none
    else some ({ framework with runtimeUsers := framework.runtimeUsers + 1 },
      ⟨runtime, framework.runtimeGeneration⟩)

def releaseLocked : HookselfFramework :=
  { framework with
    runtimeUsers := if framework.runtimeUsers ≠ 0 then framework.runtimeUsers - 1
      else framework.runtimeUsers }

def finishLifecycle : HookselfFramework :=
  { framework with runtimeStarting := false, lifecycleBusy := false }

def forwardLocked : HookselfFramework × Activity :=
  match acquireLocked framework with
  | none => (framework, .returning)
  | some (framework, lease) => (framework, .leased lease .forward)

def leaseBusyLocked (starting : Bool) (after : AfterLease) : HookselfFramework × Activity :=
  match acquireLocked framework with
  | none => (framework, .returning)
  | some (framework, lease) =>
    ({ framework with
        lifecycleBusy := true
        runtimeStarting := starting || framework.runtimeStarting }, .leased lease after)

end Leases

section CriticalSections

variable (framework : HookselfFramework)

def runtimeForForwarding : HookselfFramework × Activity :=
  if framework.lifecycleBusy then (framework, .returning) else forwardLocked framework

def beginStart : HookselfFramework × Activity :=
  if framework.lifecycleBusy then (framework, .returning)
  else
    match framework.runtime with
    | some _ => leaseBusyLocked framework true .lifecycle
    | none =>
      let built := buildConfigLocked { framework with lifecycleBusy := true, runtimeStarting := true }
      (built.1, .creating built.2 framework.runtimeGeneration)

def beginStop : HookselfFramework × Activity :=
  if framework.lifecycleBusy then (framework, .returning) else leaseBusyLocked framework false .lifecycle

def beginSetLogSink : HookselfFramework × Activity :=
  if framework.lifecycleBusy then (framework, .returning) else leaseBusyLocked framework false .sink

def vfileDynamicSnapshot : Int := 1

def beginPublishVirtualFile (fileId size : Nat) (content : Nat → UInt8) :
    HookselfFramework × Activity :=
  if framework.lifecycleBusy then (framework, .returning)
  else
    match framework.runtime, firstSlot framework.config.virtualFiles.count fun index =>
        (framework.virtualFiles index).fileId = fileId with
    | some _, some index =>
      if (framework.virtualFiles index).provider ≠ vfileDynamicSnapshot then (framework, .returning)
      else leaseBusyLocked framework false (.publish index size content)
    | _, _ => (framework, .returning)

def endPublishVirtualFile (lease : RuntimeLease) (index size : Nat) (content : Nat → UInt8)
    (answers : Answers) : HookselfFramework :=
  let sameRuntime := framework.runtime.map (·.id) = some lease.runtime.id ∧
    framework.runtimeGeneration = lease.generation
  let framework :=
    if answers.memory ∧ (answers.result = .ok ∨ answers.published) ∧ sameRuntime then
      { framework with
        virtualFiles := Function.update framework.virtualFiles index
          { framework.virtualFiles index with
            initialContent := if size = 0 then none else some content
            initialContentSize := size } }
    else framework
  { releaseLocked framework with lifecycleBusy := false }

def publishRuntime (runtime : HookselfRuntime) (built : HookselfConfig) (generation : BitVec 64) :
    HookselfFramework × Activity :=
  if framework.closing ∨ framework.runtime.isSome ∨ framework.runtimeGeneration ≠ generation then
    (finishLifecycle framework, .discarding runtime)
  else
    ({ finishLifecycle framework with
        runtime := some runtime
        runtimeGeneration := framework.runtimeGeneration + 1
        registryFrozen := built.flags &&& enableSelectiveSeccomp ≠ 0 }, .returning)

/-- The configuration a `HookselfConfig` describes when it is read: its rule and file arrays are
the framework's own. -/
def readBuilt (built : HookselfConfig) : HookselfConfig :=
  { built with
    pathRules := ⟨built.pathRules.count, built.pathRules.pointer.map fun _ => framework.builtPathRules⟩
    syscallRules :=
      ⟨built.syscallRules.count, built.syscallRules.pointer.map fun _ => framework.builtSyscallRules⟩
    virtualFiles :=
      ⟨built.virtualFiles.count, built.virtualFiles.pointer.map fun _ => framework.virtualFiles⟩ }

end CriticalSections

section Steps

def Shared.settle (shared : Shared) (outcome : RuleOutcome) : Shared × Activity :=
  (shared.withFramework outcome.framework,
    match outcome.detached with
    | some runtime => .detached runtime
    | none => .returning)

def Shared.enter (shared : Shared) (entered : HookselfFramework × Activity) : Shared × Activity :=
  (shared.withFramework entered.1, entered.2)

def runOperation (shared : Shared) (answers : Answers) : Operation → Shared × Activity
  | .registerSyscallRule rule enabled =>
    shared.settle (Framework.registerSyscallRule shared.framework rule enabled answers.state)
  | .registerPathRule rule enabled =>
    shared.settle (Framework.registerPathRule shared.framework rule enabled answers.state)
  | .registerRedirect rule enabled =>
    shared.settle (Framework.registerRedirect shared.framework rule enabled answers.state
      answers.stateAgain)
  | .unregisterRule handle =>
    shared.settle (Framework.unregisterRule shared.framework handle answers.state)
  | .setRuleEnabled handle enabled =>
    shared.settle (Framework.setRuleEnabled shared.framework handle enabled answers.state)
  | .findRule _ _ | .isRuleEnabled _ => (shared, .returning)
  | .start => shared.enter (beginStart shared.framework)
  | .stop => shared.enter (beginStop shared.framework)
  | .getState | .getStats => shared.enter (forwardLocked shared.framework)
  | .readEvents | .drainLogs | .refreshVirtualFile _ =>
    shared.enter (runtimeForForwarding shared.framework)
  | .setLogSink => shared.enter (beginSetLogSink shared.framework)
  | .publishVirtualFile fileId size content =>
    shared.enter (beginPublishVirtualFile shared.framework fileId size content)

def endLease (framework : HookselfFramework) (answers : Answers) (lease : RuntimeLease) :
    AfterLease → HookselfFramework × Activity
  | .forward => (releaseLocked framework, .returning)
  | .lifecycle => (releaseLocked framework, .finishing)
  | .sink => ({ releaseLocked framework with lifecycleBusy := false }, .returning)
  | .publish index size content =>
    (endPublishVirtualFile framework lease index size content answers, .returning)

def endFrameworkCall (framework : HookselfFramework) : HookselfFramework × Bool :=
  let framework :=
    { framework with
      activeCalls := if framework.activeCalls ≠ 0 then framework.activeCalls - 1
        else framework.activeCalls }
  if framework.closing ∧ framework.activeCalls = 0 ∧ framework.deferredDestroy ∧
      ¬framework.destroyWaiter then
    ({ framework with deferredDestroy := false }, true)
  else (framework, false)

def finalizeFramework (shared : Shared) : Shared :=
  let shared := { shared.destroy shared.framework.runtime with finalized := shared.finalized + 1 }
  shared.withFramework { shared.framework with runtime := none }

/-- The next step of a frame, and what the frame does after it, if it stays. -/
def advance (shared : Shared) (answers : Answers) : Activity → Shared × Option Activity
  | .begun operation => (runOperation shared answers operation).map id some
  | .leased lease after => (shared.enter (endLease shared.framework answers lease after)).map id some
  | .detached runtime => (shared.destroy (some runtime), some .finishing)
  | .creating built generation =>
    if answers.result = .ok then
      ({ shared with created := shared.created + 1 },
        some (.created ⟨shared.created, readBuilt shared.framework built⟩ built generation))
    else (shared, some (.failed none))
  | .created runtime built generation =>
    if answers.result = .ok then
      (shared.enter (publishRuntime shared.framework runtime built generation)).map id some
    else (shared, some (.failed (some runtime)))
  | .failed runtime => (shared.destroy runtime, some .finishing)
  | .discarding runtime => (shared.destroy (some runtime), some .returning)
  | .finishing => (shared.withFramework (finishLifecycle shared.framework), some .returning)
  | .returning =>
    let ended := endFrameworkCall shared.framework
    (shared.withFramework ended.1, if ended.2 then some .finalizing else none)
  | .waiting =>
    if shared.framework.activeCalls ≠ 0 then (shared, some .waiting)
    else
      (shared.withFramework { shared.framework with
          runtime := none
          runtimeGeneration := shared.framework.runtimeGeneration + 1 },
        some (.destroying shared.framework.runtime))
  | .destroying runtime => (shared.destroy runtime, some .finalizing)
  | .finalizing => (finalizeFramework shared, none)

def splitTop (thread : Nat) : List Frame → Option (List Frame × Activity × List Frame)
  | [] => none
  | frame :: frames =>
    if frame.thread = thread then some ([], frame.activity, frames)
    else (splitTop thread frames).map fun split => (frame :: split.1, split.2)

def threadHasFrameworkCall (thread : Nat) (frames : List Frame) : Prop :=
  ∃ frame ∈ frames, frame.thread = thread ∧ frame.activity.isCall

instance (thread : Nat) (frames : List Frame) : Decidable (threadHasFrameworkCall thread frames) :=
  inferInstanceAs (Decidable (∃ frame ∈ frames, _))

def beginFrameworkCall (system : System) (thread : Nat) (operation : Operation) : System :=
  let framework := system.shared.framework
  let nested := threadHasFrameworkCall thread system.frames
  if ¬operation.accepted then system
  else if ¬system.registered ∧ ¬nested then system
  else if framework.closing ∧ ¬nested then system
  else if framework.activeCalls = uint32Max then system
  else
    { system with
      shared := system.shared.withFramework
        { framework with activeCalls := framework.activeCalls + 1 }
      frames := ⟨thread, .begun operation⟩ :: system.frames }

def hookselfFrameworkDestroy (system : System) (thread : Nat) : System :=
  if ¬system.registered then system
  else
    let framework := { system.shared.framework with closing := true }
    if threadHasFrameworkCall thread system.frames then
      { system with
        shared := system.shared.withFramework { framework with deferredDestroy := true }
        registered := false }
    else
      { shared := system.shared.withFramework { framework with destroyWaiter := true }
        registered := false
        frames := ⟨thread, .waiting⟩ :: system.frames }

inductive Event
  | call (thread : Nat) (operation : Operation)
  | destroy (thread : Nat)
  | advance (thread : Nat) (answers : Answers)

def step (system : System) : Event → System
  | .call thread operation => beginFrameworkCall system thread operation
  | .destroy thread => hookselfFrameworkDestroy system thread
  | .advance thread answers =>
    match splitTop thread system.frames with
    | none => system
    | some (before, activity, after) =>
      let advanced := Framework.advance system.shared answers activity
      { system with
        shared := advanced.1
        frames := before ++ (advanced.2.map (Frame.mk thread)).toList ++ after }

def run (system : System) (events : List Event) : System := events.foldl step system

def initialSystem (framework : HookselfFramework) : System where
  shared :=
    { framework := framework
      created := 0
      destroyed := []
      finalized := 0 }
  registered := true
  frames := []

end Steps

end HookSelf.Framework
