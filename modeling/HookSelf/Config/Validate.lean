import HookSelf.Config.Types
import HookSelf.PathState.PathLaws

/-! `hookself_validate_config` and what an accepted configuration guarantees. -/

namespace HookSelf.Config

open PathState SlotTable

def boundedString (value : CharPtr) : Option Nat :=
  firstSlot pathCapacity fun i => value i = 0

def canonicalAbsolutePrefix (value : CharPtr) : Bool :=
  match boundedString value with
  | none => false
  | some length =>
    length ≠ 0 ∧ value 0 = slash ∧ (length = 1 ∨
      (value (length - 1) ≠ slash ∧ (tryForSlots (scanSegment value length) length 1).2 = .ok ()))

def checkEach {α : Type} (check : α → HookselfResult) : List α → HookselfResult
  | [] => .ok
  | x :: xs => if check x ≠ .ok then check x else checkEach check xs

def checkPathRule (rule : HookselfPathRule) : HookselfResult :=
  if rule.structSize ≠ sizeofPathRule ∨ rule.ruleId = 0 ∨ rule.ruleId ≥ builtinRuleIdMin ∨
      rule.action < pathPass ∨ rule.action > pathVirtualFile ∨ rule.operationMask = 0 ∨
      rule.operationMask &&& ~~~pathOpAll ≠ 0 ∨
      rule.flags &&& ~~~(pathRuleFollowFinal ||| pathRuleReadOnly ||| pathRuleReverseVisible) ≠ 0 ∨
      ¬canonicalAbsolutePrefix rule.guestPrefix then .invalidArgument
  else if rule.action = pathRedirect ∧ ¬canonicalAbsolutePrefix rule.hostPrefix then
    .invalidArgument
  else if rule.action = pathDeny ∧ (rule.denyErrno ≤ 0 ∨ rule.denyErrno > 4095) then
    .invalidArgument
  else .ok

def UniqueRuleIds {α : Type} (ruleId : α → Nat) (rules : List α) : Prop :=
  rules.Pairwise fun a b => ruleId a ≠ ruleId b

instance {α : Type} (ruleId : α → Nat) (rules : List α) : Decidable (UniqueRuleIds ruleId rules) :=
  inferInstanceAs (Decidable (List.Pairwise _ _))

def validatePathRules (config : HookselfConfig) : HookselfResult :=
  if config.pathRules.count > maxPathRules ∨ config.pathRules.Missing then .capacity
  else if checkEach checkPathRule config.pathRules.items ≠ .ok then
    checkEach checkPathRule config.pathRules.items
  else if UniqueRuleIds (·.ruleId) config.pathRules.items then .ok
  else .invalidArgument

def checkSyscallRule (rule : HookselfSyscallRule) : HookselfResult :=
  if rule.structSize ≠ sizeofSyscallRule ∨ rule.ruleId = 0 ∨ rule.ruleId ≥ builtinRuleIdMin ∨
      rule.syscallNumber < 0 ∨ rule.syscallNumber ≥ syscallLimit ∨ rule.action < syscallPass ∨
      rule.action > syscallReplaceArgument ∨ rule.phaseMask = 0 ∨
      rule.phaseMask &&& ~~~phaseBoth ≠ 0 ∨ rule.argumentIndex ≥ 6 then .invalidArgument
  else if rule.action = syscallDeny ∧ (rule.denyErrno ≤ 0 ∨ rule.denyErrno > 4095) then
    .invalidArgument
  else if rule.action = syscallReplaceNumber ∧
      (rule.replacementSyscallNumber < 0 ∨ rule.replacementSyscallNumber ≥ syscallLimit) then
    .invalidArgument
  else if (rule.action = syscallDeny ∨ rule.action = syscallReplaceNumber ∨
      rule.action = syscallReplaceArgument) ∧ rule.phaseMask &&& phaseEntry = 0 then
    .invalidArgument
  else if rule.action = syscallReplaceResult ∧ rule.phaseMask &&& phaseExit = 0 then
    .invalidArgument
  else .ok

def validateSyscallRules (config : HookselfConfig) : HookselfResult :=
  if config.syscallRules.count > maxSyscallRules ∨ config.syscallRules.Missing then .capacity
  else if checkEach checkSyscallRule config.syscallRules.items ≠ .ok then
    checkEach checkSyscallRule config.syscallRules.items
  else if UniqueRuleIds (·.ruleId) config.syscallRules.items then .ok
  else .invalidArgument

def kVirtualBackingSessionNameCapacity : Nat := 64
def kVirtualBackingFileNameCapacity : Nat := 64

def backingDirFits (directory : CharPtr) : Bool :=
  match boundedString directory with
  | none => false
  | some length =>
    canonicalAbsolutePrefix directory ∧
      length + 1 + (kVirtualBackingSessionNameCapacity - 1) + 1 +
        (kVirtualBackingFileNameCapacity - 1) + 1 ≤ pathCapacity

def guestPathsDiffer (left right : CharPtr) : Bool :=
  match boundedString left, boundedString right with
  | some leftLength, some rightLength =>
    ¬(leftLength = rightLength ∧ ∀ i < leftLength, left i = right i)
  | _, _ => false

def checkVirtualFile (file : HookselfVirtualFile) (later : List HookselfVirtualFile) :
    HookselfResult :=
  if file.structSize ≠ sizeofVirtualFile ∨ file.fileId = 0 ∨ file.provider < vfileStatic ∨
      file.provider > vfileSelinuxContext ∨ ¬canonicalAbsolutePrefix file.guestPath ∨
      file.initialContentSize > maxVirtualFileSize ∨
      (file.initialContentSize ≠ 0 ∧ file.initialContent.isNone) ∨
      file.flags &&& ~~~vfileHideInternalMappings ≠ 0 ∨
      (file.flags ≠ 0 ∧ file.provider ≠ vfileProcMaps) ∨
      file.mode &&& ~~~0o777#32 ≠ 0 ∨ file.mode &&& 0o222#32 ≠ 0 then .invalidArgument
  else if ∃ other ∈ later, ¬guestPathsDiffer file.guestPath other.guestPath then .invalidArgument
  else .ok

def checkVirtualFiles : List HookselfVirtualFile → HookselfResult
  | [] => .ok
  | file :: later =>
    if checkVirtualFile file later ≠ .ok then checkVirtualFile file later
    else checkVirtualFiles later

def validateVirtualFiles (config : HookselfConfig) : HookselfResult :=
  if config.virtualFiles.count > maxVirtualFiles ∨ config.virtualFiles.Missing then .capacity
  else if config.virtualFiles.count ≠ 0 ∧ ¬backingDirFits config.virtualBackingDir then
    .invalidArgument
  else if checkVirtualFiles config.virtualFiles.items ≠ .ok then
    checkVirtualFiles config.virtualFiles.items
  else if UniqueRuleIds (·.fileId) config.virtualFiles.items then .ok
  else .invalidArgument

def validateConfigHeader (config : HookselfConfig) : HookselfResult :=
  if config.structSize ≠ sizeofConfig then .invalidArgument
  else if config.abiVersion ≠ Config.abiVersion then .abiMismatch
  else if config.backend < backendForkRaw ∨ config.backend > backendAppService ∨
      config.failureMode < failureFullPtraceFailOpen ∨ config.failureMode > failureFailClosed ∨
      config.logLevel < logOff ∨ config.logLevel > logTrace ∨
      config.flags &&& ~~~kKnownConfigFlags ≠ 0 ∨ config.eventCapacity = 0 ∨
      config.eventCapacity > maxEventCapacity then .invalidArgument
  else if config.flags &&& enableSelectiveSeccomp ≠ 0 ∧
      (config.failureMode ≠ failureFailClosed ∨ config.flags &&& traceDescendants = 0 ∨
        config.flags &&& observeAll ≠ 0) then .invalidArgument
  else if config.flags &&& enableNestedPtrace ≠ 0 ∧
      (config.failureMode ≠ failureFailClosed ∨ config.flags &&& enablePtraceView = 0 ∨
        config.flags &&& traceDescendants = 0 ∨ config.flags &&& enableSelectiveSeccomp ≠ 0) then
    .invalidArgument
  else if config.virtualFiles.count ≠ 0 ∧ config.flags &&& enableVirtualFiles = 0 then
    .invalidArgument
  else if config.flags &&& (enablePathRedirect ||| enableVirtualFiles ||| enablePtraceView |||
        enableNestedPtrace ||| enableProcVirtualView) ≠ 0 ∧
      config.failureMode ≠ failureFailClosed then .invalidArgument
  else .ok

def hookselfValidateConfig : Option HookselfConfig → HookselfResult
  | none => .invalidArgument
  | some config =>
    if validateConfigHeader config ≠ .ok then validateConfigHeader config
    else if validatePathRules config ≠ .ok then validatePathRules config
    else if validateSyscallRules config ≠ .ok then validateSyscallRules config
    else if config.failureMode ≠ failureFailClosed ∧
        ∃ rule ∈ config.syscallRules.items, rule.action > syscallObserve then .invalidArgument
    else validateVirtualFiles config

def hookselfDefaultConfig : HookselfConfig where
  structSize := sizeofConfig
  abiVersion := Config.abiVersion
  backend := backendForkRaw
  failureMode := failureFullPtraceFailOpen
  logLevel := logInfo
  flags := capturePaths ||| captureArguments ||| captureResults
  eventCapacity := 256
  pathRules := ⟨0, none⟩
  syscallRules := ⟨0, none⟩
  virtualFiles := ⟨0, none⟩
  virtualBackingDir := fun _ => 0

section Laws

variable {config : HookselfConfig}

theorem hookselfDefaultConfig_ok : hookselfValidateConfig (some hookselfDefaultConfig) = .ok := by
  decide +kernel

theorem checkEach_ok {α : Type} {check : α → HookselfResult} {l : List α} :
    checkEach check l = .ok ↔ ∀ x ∈ l, check x = .ok := by
  induction l with
  | nil => simp [checkEach]
  | cons x xs ih =>
    by_cases hx : check x = .ok
    · simp [checkEach, hx, ih]
    · simp [checkEach, hx]

theorem canonicalAbsolutePrefix_iff {value : CharPtr} :
    canonicalAbsolutePrefix value = true ↔ CanonicalPath value := by
  rw [← validateCanonicalPath_ok]
  simp only [canonicalAbsolutePrefix, boundedString, validateCanonicalPath, pathLength]
  rcases firstSlot pathCapacity fun i => value i = 0 with _ | length
  · simp [bind, Except.bind]
  · simp only [bind, Except.bind, decide_eq_true_eq]
    split_ifs with hbad hone
    · simp only [iff_false]
      rintro ⟨hpos, hslash, rfl | ⟨hlast, -⟩⟩
      · simp [hslash] at hbad
      · rcases hbad with h | h | h
        · exact hpos h
        · exact h hslash
        · exact hlast h.2
    · push Not at hbad
      simp [hbad, hone]
    · push Not at hbad
      have hlast : value (length - 1) ≠ slash := hbad.2.2 (by omega)
      simp [hbad.1, hbad.2.1, hone, hlast]

structure Accepted (config : HookselfConfig) : Prop where
  header : validateConfigHeader config = .ok
  pathRules : validatePathRules config = .ok
  syscallRules : validateSyscallRules config = .ok
  observeOnly : config.failureMode ≠ failureFailClosed →
    ∀ rule ∈ config.syscallRules.items, rule.action ≤ syscallObserve
  virtualFiles : validateVirtualFiles config = .ok

theorem hookselfValidateConfig_ok :
    hookselfValidateConfig (some config) = .ok ↔ Accepted config := by
  simp only [hookselfValidateConfig]
  split_ifs with h₁ h₂ h₃ h₄
  · exact ⟨fun h => absurd h h₁, fun h => h.header⟩
  · exact ⟨fun h => absurd h h₂, fun h => h.pathRules⟩
  · exact ⟨fun h => absurd h h₃, fun h => h.syscallRules⟩
  · refine ⟨(nomatch ·), fun h => ?_⟩
    obtain ⟨hmode, rule, hmem, hact⟩ := h₄
    exact absurd (h.observeOnly hmode rule hmem) (by omega)
  · push Not at h₁ h₂ h₃ h₄
    exact ⟨fun h => ⟨h₁, h₂, h₃, h₄, h⟩, fun h => h.virtualFiles⟩

theorem Accepted.pathRule (h : Accepted config) {rule : HookselfPathRule}
    (hrule : rule ∈ config.pathRules.items) : checkPathRule rule = .ok := by
  have hv := h.pathRules
  unfold validatePathRules at hv
  split_ifs at hv with h₁ h₂ h₃
  · exact absurd hv h₂
  · exact checkEach_ok.mp (not_not.mp h₂) rule hrule

theorem Accepted.syscallRule (h : Accepted config) {rule : HookselfSyscallRule}
    (hrule : rule ∈ config.syscallRules.items) : checkSyscallRule rule = .ok := by
  have hv := h.syscallRules
  unfold validateSyscallRules at hv
  split_ifs at hv with h₁ h₂ h₃
  · exact absurd hv h₂
  · exact checkEach_ok.mp (not_not.mp h₂) rule hrule

structure WellShaped (config : HookselfConfig) : Prop where
  pathRules : config.pathRules.count ≤ maxPathRules ∧ ¬config.pathRules.Missing
  syscallRules : config.syscallRules.count ≤ maxSyscallRules ∧ ¬config.syscallRules.Missing
  virtualFiles : config.virtualFiles.count ≤ maxVirtualFiles ∧ ¬config.virtualFiles.Missing

theorem Accepted.wellShaped (h : Accepted config) : WellShaped config := by
  obtain ⟨-, hp, hs, -, hv⟩ := h
  refine ⟨?_, ?_, ?_⟩
  · by_contra hbad
    rw [validatePathRules, if_pos ((not_and_or.mp hbad).imp not_le.mp not_not.mp)] at hp
    exact nomatch hp
  · by_contra hbad
    rw [validateSyscallRules, if_pos ((not_and_or.mp hbad).imp not_le.mp not_not.mp)] at hs
    exact nomatch hs
  · by_contra hbad
    rw [validateVirtualFiles, if_pos ((not_and_or.mp hbad).imp not_le.mp not_not.mp)] at hv
    exact nomatch hv

theorem checkPathRule_guest {rule : HookselfPathRule} (h : checkPathRule rule = .ok) :
    CanonicalPath rule.guestPrefix := by
  unfold checkPathRule at h
  split_ifs at h with h₁
  push Not at h₁
  exact canonicalAbsolutePrefix_iff.mp h₁.2.2.2.2.2.2.2.2

theorem checkPathRule_host {rule : HookselfPathRule} (h : checkPathRule rule = .ok)
    (hact : rule.action = pathRedirect) : CanonicalPath rule.hostPrefix := by
  unfold checkPathRule at h
  split_ifs at h with h₁ h₂
  push Not at h₂
  exact canonicalAbsolutePrefix_iff.mp (h₂ hact)

theorem checkVirtualFiles_guest {files : List HookselfVirtualFile}
    (h : checkVirtualFiles files = .ok) : ∀ file ∈ files, CanonicalPath file.guestPath := by
  induction files with
  | nil => simp
  | cons file later ih =>
    rw [checkVirtualFiles] at h
    split_ifs at h with hfile
    · exact absurd h hfile
    · refine List.forall_mem_cons.mpr ⟨?_, ih h⟩
      have hchecks := not_not.mp hfile
      unfold checkVirtualFile at hchecks
      split_ifs at hchecks with h₁
      push Not at h₁
      exact canonicalAbsolutePrefix_iff.mp h₁.2.2.2.2.1

theorem Accepted.virtualFile (h : Accepted config) {file : HookselfVirtualFile}
    (hfile : file ∈ config.virtualFiles.items) : CanonicalPath file.guestPath := by
  have hv := h.virtualFiles
  unfold validateVirtualFiles at hv
  split_ifs at hv with h₁ h₂ h₃ h₄
  · exact absurd hv h₃
  · exact checkVirtualFiles_guest (not_not.mp h₃) file hfile

theorem checkSyscallRule_number {rule : HookselfSyscallRule} (h : checkSyscallRule rule = .ok) :
    0 ≤ rule.syscallNumber ∧ rule.syscallNumber < syscallLimit := by
  unfold checkSyscallRule at h
  split_ifs at h with h₁
  push Not at h₁
  exact ⟨h₁.2.2.2.1, h₁.2.2.2.2.1⟩

theorem Accepted.structSize (h : Accepted config) : config.structSize = sizeofConfig := by
  by_contra hne
  have hheader := h.header
  rw [validateConfigHeader, if_pos hne] at hheader
  exact nomatch hheader

theorem Accepted.abiVersion (h : Accepted config) : config.abiVersion = Config.abiVersion := by
  by_contra hne
  have hheader := h.header
  rw [validateConfigHeader, if_neg (not_not.mpr h.structSize), if_pos hne] at hheader
  exact nomatch hheader

theorem Accepted.selective (h : Accepted config) (hsel : config.flags &&& enableSelectiveSeccomp ≠ 0) :
    config.failureMode = failureFailClosed ∧ config.flags &&& traceDescendants ≠ 0 ∧
      config.flags &&& observeAll = 0 := by
  have hheader := h.header
  rw [validateConfigHeader, if_neg (not_not.mpr h.structSize),
    if_neg (not_not.mpr h.abiVersion)] at hheader
  split_ifs at hheader with h₁ h₂
  push Not at h₂
  exact h₂ hsel

theorem ArrayRef.length_items_le {α : Type} (array : ArrayRef α) :
    array.items.length ≤ array.count := by
  unfold ArrayRef.items
  cases array.pointer <;> simp

end Laws

end HookSelf.Config
