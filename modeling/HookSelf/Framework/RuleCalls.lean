import HookSelf.Framework.Registry

namespace HookSelf.Framework

open Config PathState SlotTable

inductive HookselfState
  | idle
  | configured
  | starting
  | runningFullPtrace
  | installingFilter
  | runningSelective
  | stopping
  | stopped
  | fatal
  deriving DecidableEq

/-- An answer of `hookself_get_state`. -/
abbrev StateAnswer := HookselfResult × HookselfState

def registryMutationAllowedLocked (framework : HookselfFramework) (answer : StateAnswer) :
    HookselfResult :=
  if framework.lifecycleBusy ∨ framework.runtimeUsers ≠ 0 then .busy
  else if framework.closing ∨ framework.registryFrozen then .invalidState
  else
    match framework.runtime with
    | none => .ok
    | some _ =>
      if answer.1 ≠ .ok then answer.1
      else if answer.2 = .stopped ∨ answer.2 = .configured then .ok
      else .invalidState

def detachStoppedRuntimeAfterMutationLocked (framework : HookselfFramework) :
    HookselfFramework × Option HookselfRuntime :=
  match framework.runtime with
  | none => (framework, none)
  | some runtime =>
    ({ framework with
        runtime := none
        runtimeGeneration := framework.runtimeGeneration + 1
        lifecycleBusy := true }, some runtime)

structure RuleOutcome where
  framework : HookselfFramework
  result : HookselfResult
  handle : Option HookselfRuleHandle
  detached : Option HookselfRuntime

def refuse (framework : HookselfFramework) (result : HookselfResult) : RuleOutcome :=
  ⟨framework, result, none, none⟩

def commit (framework : HookselfFramework) (handle : Option HookselfRuleHandle) : RuleOutcome :=
  let detached := detachStoppedRuntimeAfterMutationLocked framework
  ⟨detached.1, .ok, handle, detached.2⟩

section Register

/-- Both registrations: the first free slot and a fresh handle, validated with the rule enabled. -/
def registerRule (place : Nat → RuleRef) (capacity : Nat)
    (put : HookselfFramework → Nat → HookselfRuleHandle → Bool → HookselfFramework)
    (framework : HookselfFramework) (enabled : Bool) (answer : StateAnswer) : RuleOutcome :=
  if registryMutationAllowedLocked framework answer ≠ .ok then
    refuse framework (registryMutationAllowedLocked framework answer)
  else
    match firstSlot capacity fun index => ¬Live framework (place index) with
    | none => refuse framework .capacity
    | some slot =>
      let allocated := allocateHandleLocked framework
      if allocated.2 = invalidRuleHandle then refuse allocated.1 .capacity
      else
        let candidate := validateRegistryLocked (put allocated.1 slot allocated.2 true)
        if candidate.2 ≠ .ok then refuse (clearRule candidate.1 (place slot)) candidate.2
        else commit (put candidate.1 slot allocated.2 enabled) (some allocated.2)

def putPathRule (rule : HookselfPathRule) (enablePathPolicy : Bool) (framework : HookselfFramework)
    (slot : Nat) (handle : HookselfRuleHandle) (enabled : Bool) : HookselfFramework :=
  { framework with
    pathSlots := Function.update framework.pathSlots slot
      ⟨rule, handle, true, enabled, enablePathPolicy⟩ }

def putSyscallRule (rule : HookselfSyscallRule) (framework : HookselfFramework) (slot : Nat)
    (handle : HookselfRuleHandle) (enabled : Bool) : HookselfFramework :=
  { framework with
    syscallSlots := Function.update framework.syscallSlots slot ⟨rule, handle, true, enabled⟩ }

def registerPathRuleLocked (framework : HookselfFramework) (rule : HookselfPathRule)
    (enabled enablePathPolicy : Bool) (answer : StateAnswer) : RuleOutcome :=
  if rule.ruleId = 0 ∨ rule.ruleId ≥ builtinRuleIdMin then refuse framework .invalidArgument
  else registerRule .path maxPathRules (putPathRule rule enablePathPolicy) framework enabled answer

def registerSyscallRule (framework : HookselfFramework) (rule : HookselfSyscallRule)
    (enabled : Bool) (answer : StateAnswer) : RuleOutcome :=
  registerRule .syscall maxSyscallRules (putSyscallRule rule) framework enabled answer

def registerPathRule (framework : HookselfFramework) (rule : HookselfPathRule) (enabled : Bool)
    (answer : StateAnswer) : RuleOutcome :=
  registerPathRuleLocked framework rule enabled (rule.action ≠ pathPass) answer

/-- A redirect without an id is given one first; the runtime is asked for its state twice. -/
def registerRedirect (framework : HookselfFramework) (rule : HookselfPathRule) (enabled : Bool)
    (first answer : StateAnswer) : RuleOutcome :=
  if registryMutationAllowedLocked framework first ≠ .ok then
    refuse framework (registryMutationAllowedLocked framework first)
  else if rule.ruleId ≠ 0 then registerPathRuleLocked framework rule enabled true answer
  else
    let allocated := allocatePathRuleIdLocked framework
    if allocated.2 = 0 then refuse allocated.1 .capacity
    else registerPathRuleLocked allocated.1 { rule with ruleId := allocated.2 } enabled true answer

end Register

section Lookup

def findHandle (framework : HookselfFramework) (handle : HookselfRuleHandle) : Option RuleRef :=
  match firstSlot maxPathRules fun index => Live framework (.path index) ∧
      ruleHandle framework (.path index) = handle with
  | some index => some (.path index)
  | none => (firstSlot maxSyscallRules fun index => Live framework (.syscall index) ∧
      ruleHandle framework (.syscall index) = handle).map .syscall

inductive HookselfRuleKind
  | path
  | syscall
  deriving DecidableEq

end Lookup

section Change

def unregisterRule (framework : HookselfFramework) (handle : HookselfRuleHandle)
    (answer : StateAnswer) : RuleOutcome :=
  if registryMutationAllowedLocked framework answer ≠ .ok then
    refuse framework (registryMutationAllowedLocked framework answer)
  else
    match findHandle framework handle with
    | some ref => commit (clearRule framework ref) none
    | none => refuse framework .invalidArgument

def writeEnabled (framework : HookselfFramework) (enabled : Bool) : RuleRef → HookselfFramework
  | .path index =>
    { framework with
      pathSlots := Function.update framework.pathSlots index
        { framework.pathSlots index with enabled := enabled } }
  | .syscall index =>
    { framework with
      syscallSlots := Function.update framework.syscallSlots index
        { framework.syscallSlots index with enabled := enabled } }

def setRuleEnabled (framework : HookselfFramework) (handle : HookselfRuleHandle) (enabled : Bool)
    (answer : StateAnswer) : RuleOutcome :=
  match findHandle framework handle with
  | some ref =>
    if ruleEnabled framework ref = enabled then refuse framework .ok
    else if registryMutationAllowedLocked framework answer ≠ .ok then
      refuse framework (registryMutationAllowedLocked framework answer)
    else commit (writeEnabled framework enabled ref) none
  | none =>
    if registryMutationAllowedLocked framework answer ≠ .ok then
      refuse framework (registryMutationAllowedLocked framework answer)
    else refuse framework .invalidArgument

end Change

section Create

def emptyVirtualFile : HookselfVirtualFile := ⟨0, 0, 0, 0, 0, 0, none, fun _ => 0⟩

def emptyFramework (config : HookselfConfig) : HookselfFramework where
  activeCalls := 0
  closing := false
  deferredDestroy := false
  destroyWaiter := false
  lifecycleBusy := false
  runtimeStarting := false
  registryFrozen := false
  runtimeUsers := 0
  nextHandle := 1
  nextPathRuleId := 1
  runtimeGeneration := 0
  runtime := none
  config := { config with pathRules := ⟨0, none⟩, syscallRules := ⟨0, none⟩ }
  pathSlots := fun _ => emptyPathSlot
  syscallSlots := fun _ => emptySyscallSlot
  virtualFiles := fun _ => emptyVirtualFile
  builtPathRules := fun _ => emptyPathRule
  builtSyscallRules := fun _ => emptySyscallRule

def elementOf {ρ : Type} (array : ArrayRef ρ) (default : ρ) (index : Nat) : ρ :=
  match array.pointer with
  | none => default
  | some item => item index

def adoptRules (put : Nat → HookselfFramework → Nat → HookselfRuleHandle → Bool → HookselfFramework)
    (count : Nat) (framework : HookselfFramework) : HookselfFramework :=
  forSlots (fun index framework =>
    let allocated := allocateHandleLocked framework
    put index allocated.1 index allocated.2 true) count framework

def copyVirtualFile (source : HookselfVirtualFile) : HookselfVirtualFile :=
  { source with
    initialContent := if source.initialContentSize = 0 then none else source.initialContent }

def createdFramework (config : HookselfConfig) : HookselfFramework :=
  let created := adoptRules (fun index =>
    putPathRule (elementOf config.pathRules emptyPathRule index) false)
    config.pathRules.count (emptyFramework config)
  let created := adoptRules (fun index =>
    putSyscallRule (elementOf config.syscallRules emptySyscallRule index))
    config.syscallRules.count created
  { created with
    virtualFiles := fun index =>
      if index < config.virtualFiles.count then
        copyVirtualFile (elementOf config.virtualFiles emptyVirtualFile index)
      else emptyVirtualFile }

def hookselfFrameworkCreate : Option HookselfConfig → Except HookselfResult HookselfFramework
  | none => .error .invalidArgument
  | some config =>
    if hookselfValidateConfig (some config) ≠ .ok then .error (hookselfValidateConfig (some config))
    else .ok (createdFramework config)

theorem hookselfFrameworkCreate_ok {config : Option HookselfConfig} {framework : HookselfFramework} :
    hookselfFrameworkCreate config = .ok framework ↔ ∃ accepted, config = some accepted ∧
      hookselfValidateConfig (some accepted) = .ok ∧ createdFramework accepted = framework := by
  cases config with
  | none => simp [hookselfFrameworkCreate]
  | some config =>
    rw [hookselfFrameworkCreate]
    split_ifs with hvalid
    · simpa using fun hok => absurd hok hvalid
    · simpa using fun _ => not_not.mp hvalid

end Create

end HookSelf.Framework
