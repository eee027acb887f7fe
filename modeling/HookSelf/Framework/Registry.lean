import HookSelf.RuleBank.Bank

/-! The rule registry of a framework: slots, handles, and the configuration built from them. -/

namespace HookSelf.Framework

open Config SlotTable

abbrev HookselfRuleHandle := BitVec 64

def invalidRuleHandle : HookselfRuleHandle := 0

structure PathRuleSlot where
  rule : HookselfPathRule
  handle : HookselfRuleHandle
  used : Bool
  enabled : Bool
  enablePathPolicy : Bool

structure SyscallRuleSlot where
  rule : HookselfSyscallRule
  handle : HookselfRuleHandle
  used : Bool
  enabled : Bool

/-- A runtime object, identified by its creation, with the configuration it was created from. -/
structure HookselfRuntime where
  id : Nat
  config : HookselfConfig

structure HookselfFramework where
  activeCalls : Nat
  closing : Bool
  deferredDestroy : Bool
  destroyWaiter : Bool
  lifecycleBusy : Bool
  runtimeStarting : Bool
  registryFrozen : Bool
  runtimeUsers : Nat
  nextHandle : HookselfRuleHandle
  nextPathRuleId : BitVec 32
  runtimeGeneration : BitVec 64
  runtime : Option HookselfRuntime
  config : HookselfConfig
  pathSlots : Nat → PathRuleSlot
  syscallSlots : Nat → SyscallRuleSlot
  virtualFiles : Nat → HookselfVirtualFile
  builtPathRules : Nat → HookselfPathRule
  builtSyscallRules : Nat → HookselfSyscallRule

section Empty

def emptyPathRule : HookselfPathRule :=
  ⟨0, 0, 0, 0, 0, 0, 0, fun _ => 0, fun _ => 0⟩

def emptySyscallRule : HookselfSyscallRule :=
  ⟨0, 0, 0, 0, 0, 0, 0, 0, 0, 0, 0, 0⟩

def emptyPathSlot : PathRuleSlot := ⟨emptyPathRule, 0, false, false, false⟩

def emptySyscallSlot : SyscallRuleSlot := ⟨emptySyscallRule, 0, false, false⟩

end Empty

section Handles

variable (framework : HookselfFramework)

def HandleInUseLocked (handle : HookselfRuleHandle) : Prop :=
  (∃ index : Nat, index < maxPathRules ∧
    (framework.pathSlots index).used ∧ (framework.pathSlots index).handle = handle) ∨
  ∃ index : Nat, index < maxSyscallRules ∧
    (framework.syscallSlots index).used ∧ (framework.syscallSlots index).handle = handle

instance (handle : HookselfRuleHandle) : Decidable (HandleInUseLocked framework handle) :=
  inferInstanceAs (Decidable (_ ∨ _))

def nextCandidate (nextHandle : HookselfRuleHandle) : HookselfRuleHandle × HookselfRuleHandle :=
  if nextHandle = invalidRuleHandle then (nextHandle + 1, nextHandle + 2)
  else (nextHandle, nextHandle + 1)

@[irreducible] def allocateHandleFrom : Nat → HookselfRuleHandle → HookselfRuleHandle × HookselfRuleHandle
  | 0, nextHandle => (invalidRuleHandle, nextHandle)
  | attempts + 1, nextHandle =>
    let candidate := nextCandidate nextHandle
    if candidate.1 ≠ invalidRuleHandle ∧ ¬HandleInUseLocked framework candidate.1 then candidate
    else allocateHandleFrom attempts candidate.2

def allocateHandleLocked : HookselfFramework × HookselfRuleHandle :=
  let allocated :=
    allocateHandleFrom framework (maxPathRules + maxSyscallRules + 1) framework.nextHandle
  ({ framework with nextHandle := allocated.2 }, allocated.1)

def PathRuleIdInUseLocked (ruleId : Nat) : Prop :=
  ∃ index : Nat, index < maxPathRules ∧
    (framework.pathSlots index).used ∧ (framework.pathSlots index).rule.ruleId = ruleId

instance (ruleId : Nat) : Decidable (PathRuleIdInUseLocked framework ruleId) :=
  inferInstanceAs (Decidable (∃ index : Nat, index < maxPathRules ∧ _))

@[irreducible] def allocatePathRuleIdFrom : Nat → BitVec 32 → Nat × BitVec 32
  | 0, next => (0, next)
  | attempts + 1, next =>
    let candidate :=
      if next = 0 ∨ next.toNat ≥ builtinRuleIdMin then (1, 2) else (next.toNat, next + 1)
    if ¬PathRuleIdInUseLocked framework candidate.1 then candidate
    else allocatePathRuleIdFrom attempts candidate.2

def allocatePathRuleIdLocked : HookselfFramework × Nat :=
  let allocated := allocatePathRuleIdFrom framework (maxPathRules + 1) framework.nextPathRuleId
  ({ framework with nextPathRuleId := allocated.2 }, allocated.1)

end Handles

section Build

/-- The rule a slot puts into the configuration: a disabled one as a PASS rule. -/
def PathRuleSlot.published (slot : PathRuleSlot) : Option HookselfPathRule :=
  if slot.used then
    some (if slot.enabled then slot.rule else { slot.rule with action := pathPass })
  else none

def SyscallRuleSlot.published (slot : SyscallRuleSlot) : Option HookselfSyscallRule :=
  if slot.used then
    some (if slot.enabled then slot.rule else { slot.rule with action := syscallPass })
  else none

def arrayOf {ρ : Type} (built : (Nat → ρ) × Nat) : ArrayRef ρ :=
  ⟨built.2, if built.2 ≠ 0 then some built.1 else none⟩

def EnablesPathPolicy (framework : HookselfFramework) : Prop :=
  ∃ index : Nat, index < maxPathRules ∧
    (framework.pathSlots index).used ∧ (framework.pathSlots index).enablePathPolicy

instance (framework : HookselfFramework) : Decidable (EnablesPathPolicy framework) :=
  inferInstanceAs (Decidable (∃ index : Nat, index < maxPathRules ∧ _))

def buildConfigLocked (framework : HookselfFramework) : HookselfFramework × HookselfConfig :=
  let pathRules := packSlots (fun index => (framework.pathSlots index).published) maxPathRules
    framework.builtPathRules
  let syscallRules := packSlots (fun index => (framework.syscallSlots index).published)
    maxSyscallRules framework.builtSyscallRules
  ({ framework with builtPathRules := pathRules.1, builtSyscallRules := syscallRules.1 },
    { framework.config with
      pathRules := arrayOf pathRules
      flags :=
        if EnablesPathPolicy framework then framework.config.flags ||| enablePathRedirect
        else framework.config.flags
      syscallRules := arrayOf syscallRules
      virtualFiles := arrayOf (framework.virtualFiles, framework.config.virtualFiles.count) })

def validateRegistryLocked (framework : HookselfFramework) : HookselfFramework × HookselfResult :=
  let built := buildConfigLocked framework
  (built.1, hookselfValidateConfig (some built.2))

end Build

section Rules

inductive RuleRef
  | path (index : Nat)
  | syscall (index : Nat)
  deriving DecidableEq

def Live (framework : HookselfFramework) : RuleRef → Prop
  | .path index => index < maxPathRules ∧ (framework.pathSlots index).used
  | .syscall index => index < maxSyscallRules ∧ (framework.syscallSlots index).used

instance (framework : HookselfFramework) : DecidablePred (Live framework)
  | .path _ => inferInstanceAs (Decidable (_ ∧ _))
  | .syscall _ => inferInstanceAs (Decidable (_ ∧ _))

def ruleEnabled (framework : HookselfFramework) : RuleRef → Bool
  | .path index => (framework.pathSlots index).enabled
  | .syscall index => (framework.syscallSlots index).enabled

def ruleHandle (framework : HookselfFramework) : RuleRef → HookselfRuleHandle
  | .path index => (framework.pathSlots index).handle
  | .syscall index => (framework.syscallSlots index).handle

def clearRule (framework : HookselfFramework) : RuleRef → HookselfFramework
  | .path index =>
    { framework with pathSlots := Function.update framework.pathSlots index emptyPathSlot }
  | .syscall index =>
    { framework with syscallSlots := Function.update framework.syscallSlots index emptySyscallSlot }

end Rules

end HookSelf.Framework
