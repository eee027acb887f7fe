import HookSelf.Collections.SortedSearch
import HookSelf.Config.Validate
import HookSelf.Seccomp.Filter
import HookSelf.Syscalls

/-! The selective seccomp plan: the syscalls a configuration needs traced, as a sorted list and as
the filter compiled from it. -/

namespace HookSelf.Seccomp

open Config SortedSearch Cbpf

section Model

def kSelectiveSeccompPlanSchemaVersion : BitVec 32 := 2
def kSelectiveSeccompUnifiedClassId : BitVec 16 := 0x4853

def kProtectedFdSyscalls : List Int := [Nr.dup3, Nr.fcntl, Nr.ioctl, Nr.close, Nr.closeRange]

def kPathStateSyscalls : List Int :=
  [Nr.dup, Nr.unshare, Nr.clone, Nr.clone3, Nr.execve, Nr.execveat, Nr.mount, Nr.umount2,
    Nr.pivotRoot, Nr.chroot, Nr.openTree, Nr.moveMount, Nr.mountSetattr]

def kPathPolicySyscalls : List Int :=
  [Nr.openat, Nr.openat2, Nr.newfstatat, Nr.statx, Nr.faccessat, Nr.faccessat2, Nr.readlinkat,
    Nr.unlinkat, Nr.mkdirat, Nr.mknodat, Nr.utimensat, Nr.fchmodat, Nr.fchownat, Nr.renameat,
    Nr.renameat2, Nr.linkat, Nr.symlinkat, Nr.chdir, Nr.fchdir, Nr.getcwd, Nr.execve, Nr.execveat]

def kPtraceAndStatusViewSyscalls : List Int :=
  [Nr.ptrace, Nr.prctl, Nr.read, Nr.pread64, Nr.readv]

def kNestedPtraceWaitSyscalls : List Int := [Nr.wait4, Nr.waitid]

def kProcVirtualViewSyscalls : List Int := [Nr.read, Nr.pread64, Nr.readv, Nr.getdents64]

def kVirtualOutputSyscalls : List Int :=
  [Nr.getxattr, Nr.lgetxattr, Nr.fgetxattr, Nr.listxattr, Nr.llistxattr, Nr.flistxattr]

structure SelectiveSeccompPlan where
  schemaVersion : BitVec 32
  classId : BitVec 16
  syscallSetHash : BitVec 64
  rules : List SelectiveSeccompRule
  filter : SelectiveSeccompFilter
  deriving DecidableEq

def HasSelinuxVirtualProvider (config : HookselfConfig) : Prop :=
  ∃ file ∈ config.virtualFiles.items, file.provider = vfileSelinuxContext

instance (config : HookselfConfig) : Decidable (HasSelinuxVirtualProvider config) :=
  inferInstanceAs (Decidable (∃ file ∈ config.virtualFiles.items, _))

section Hash

def kFnv1aOffsetBasis : BitVec 64 := 14695981039346656037
def kFnv1aPrime : BitVec 64 := 1099511628211

def hashByte (value : BitVec 8) (hash : BitVec 64) : BitVec 64 :=
  (hash ^^^ value.setWidth 64) * kFnv1aPrime

def hashUint16 (value : BitVec 16) (hash : BitVec 64) : BitVec 64 :=
  hashByte ((value >>> 8).setWidth 8) (hashByte (value.setWidth 8) hash)

def hashUint32 (value : BitVec 32) (hash : BitVec 64) : BitVec 64 :=
  [0, 8, 16, 24].foldl (fun hash shift => hashByte ((value >>> shift).setWidth 8) hash) hash

def computePlanHash (plan : SelectiveSeccompPlan) : BitVec 64 :=
  let hash := hashUint32 kSelectiveSeccompPlanSchemaVersion kFnv1aOffsetBasis
  let hash := hashUint32 seccompRetKillProcess hash
  let hash := hashUint16 plan.classId hash
  let hash := hashUint16 (BitVec.ofNat 16 plan.rules.length) hash
  plan.rules.foldl (fun hash rule => hashUint32 (BitVec.ofInt 32 rule.syscallNumber) hash) hash

end Hash

def addSortedSyscall (plan : SelectiveSeccompPlan) (syscallNumber : Int) :
    Except Errno SelectiveSeccompPlan :=
  if syscallNumber < 0 ∨ syscallNumber ≥ syscallLimit then .error .einval
  else
    let insertion := insertionPoint (·.syscallNumber) plan.rules syscallNumber
    if plan.rules[insertion]?.any (·.syscallNumber = syscallNumber) then .ok plan
    else if plan.rules.length ≥ kMaxSelectiveSeccompRules then .error .e2big
    else .ok { plan with
      rules := plan.rules.insertIdx insertion ⟨syscallNumber, kSelectiveSeccompUnifiedClassId⟩ }

def addSyscalls (syscalls : List Int) (plan : SelectiveSeccompPlan) :
    Except Errno SelectiveSeccompPlan :=
  syscalls.foldlM addSortedSyscall plan

def addSyscallsIf (enabled : Prop) [Decidable enabled] (syscalls : List Int)
    (plan : SelectiveSeccompPlan) : Except Errno SelectiveSeccompPlan :=
  if enabled then addSyscalls syscalls plan else .ok plan

def validateConfigShape (config : HookselfConfig) : Except Errno Unit :=
  if config.structSize ≠ sizeofConfig then .error .einval
  else if config.abiVersion ≠ Config.abiVersion then .error .eprotonosupport
  else if config.pathRules.count > maxPathRules ∨ config.pathRules.Missing ∨
      config.syscallRules.count > maxSyscallRules ∨ config.syscallRules.Missing ∨
      config.virtualFiles.count > maxVirtualFiles ∨ config.virtualFiles.Missing then .error .einval
  else if config.flags &&& observeAll ≠ 0 then .error .eopnotsupp
  else .ok ()

def buildSelectiveSeccompPlan : Option HookselfConfig → Except Errno SelectiveSeccompPlan
  | none => .error .einval
  | some config => do
    validateConfigShape config
    let candidate : SelectiveSeccompPlan :=
      { schemaVersion := kSelectiveSeccompPlanSchemaVersion
        classId := kSelectiveSeccompUnifiedClassId
        syscallSetHash := 0
        rules := []
        filter := ⟨[], 0, 0, 0⟩ }
    let candidate ← addSyscalls kProtectedFdSyscalls candidate
    let candidate ← addSyscalls kPathStateSyscalls candidate
    let candidate ← addSyscalls (config.syscallRules.items.map (·.syscallNumber)) candidate
    let candidate ← addSyscallsIf (config.flags &&& (enablePathRedirect ||| enableVirtualFiles) ≠ 0)
      kPathPolicySyscalls candidate
    let candidate ← addSyscallsIf (config.flags &&& enableVirtualFiles ≠ 0 ∧
      HasSelinuxVirtualProvider config) kVirtualOutputSyscalls candidate
    let candidate ← addSyscallsIf (config.flags &&& enablePtraceView ≠ 0)
      kPtraceAndStatusViewSyscalls candidate
    let candidate ← addSyscallsIf (config.flags &&& enableNestedPtrace ≠ 0)
      kNestedPtraceWaitSyscalls candidate
    let candidate ← addSyscallsIf (config.flags &&& enableProcVirtualView ≠ 0)
      kProcVirtualViewSyscalls candidate
    let candidate := { candidate with syscallSetHash := computePlanHash candidate }
    let filter ← buildSelectiveSeccompFilter candidate.rules seccompRetKillProcess
    .ok { candidate with filter := filter }

def findSelectiveSeccompClass (plan : Option SelectiveSeccompPlan) (syscallNumber : Int) :
    Option (BitVec 16) :=
  match plan with
  | none => none
  | some plan =>
    if syscallNumber < 0 ∨ plan.schemaVersion ≠ kSelectiveSeccompPlanSchemaVersion ∨
        plan.classId ≠ kSelectiveSeccompUnifiedClassId ∨
        plan.rules.length > kMaxSelectiveSeccompRules then none
    else
      match plan.rules[lowerBound (·.syscallNumber) plan.rules syscallNumber plan.rules.length 0
          plan.rules.length]? with
      | none => none
      | some rule =>
        if rule.syscallNumber ≠ syscallNumber ∨ rule.classId ≠ plan.classId then none
        else some rule.classId

end Model

section Laws

variable {plan : SelectiveSeccompPlan} {numbers : List Int} {n : Int} {bound : Nat}

def InRange (n : Int) : Prop := 0 ≤ n ∧ n < syscallLimit

instance : DecidablePred InRange := fun _ => inferInstanceAs (Decidable (_ ∧ _))

structure Planned (plan : SelectiveSeccompPlan) (numbers : List Int) (bound : Nat) : Prop where
  schemaVersion : plan.schemaVersion = kSelectiveSeccompPlanSchemaVersion
  classId : plan.classId = kSelectiveSeccompUnifiedClassId
  increasing : Increasing (·.syscallNumber) plan.rules
  classes : ∀ rule ∈ plan.rules, rule.classId = kSelectiveSeccompUnifiedClassId
  range : ∀ rule ∈ plan.rules, InRange rule.syscallNumber
  mem : ∀ n, (∃ rule ∈ plan.rules, rule.syscallNumber = n) ↔ n ∈ numbers
  length : plan.rules.length ≤ bound

theorem Planned.addSortedSyscall (h : Planned plan numbers bound) (hn : InRange n)
    (hroom : bound < kMaxSelectiveSeccompRules) :
    ∃ plan', addSortedSyscall plan n = .ok plan' ∧ Planned plan' (numbers ++ [n]) (bound + 1) := by
  have hlimit : ¬(n < 0 ∨ n ≥ syscallLimit) := by
    have := hn.1
    have := hn.2
    omega
  have hlen := h.length
  have hat := h.increasing.exists_at_insertionPoint (k := n)
  rw [Seccomp.addSortedSyscall, if_neg hlimit]
  by_cases hmem : n ∈ numbers
  · obtain ⟨rule, hget, hrule⟩ := hat.mpr ((h.mem n).mpr hmem)
    refine ⟨plan, by simp [hget, hrule], { h with mem := fun m => ?_, length := by omega }⟩
    rw [h.mem, List.mem_append, List.mem_singleton]
    exact ⟨.inl, fun hm => hm.elim id fun heq => heq ▸ hmem⟩
  · have hfresh : ∀ rule ∈ plan.rules, rule.syscallNumber ≠ n :=
      fun rule hrule heq => hmem ((h.mem n).mp ⟨rule, hrule, heq⟩)
    have hnone : ¬plan.rules[insertionPoint (·.syscallNumber) plan.rules n]?.any
        (·.syscallNumber = n) := by
      rw [Option.any_eq_true]
      rintro ⟨rule, hget, hrule⟩
      exact hfresh rule (List.mem_of_getElem? hget) (of_decide_eq_true hrule)
    simp only [if_neg hnone, if_neg (show ¬plan.rules.length ≥ kMaxSelectiveSeccompRules by omega)]
    refine ⟨_, rfl, h.schemaVersion, h.classId, h.increasing.insertIdx hfresh, ?_, ?_, ?_, ?_⟩
    · intro rule hrule
      rcases mem_insertIdx_insertionPoint.mp hrule with rfl | hrule
      · rfl
      · exact h.classes rule hrule
    · intro rule hrule
      rcases mem_insertIdx_insertionPoint.mp hrule with rfl | hrule
      · exact hn
      · exact h.range rule hrule
    · intro m
      rw [List.mem_append, List.mem_singleton, ← h.mem]
      simp only [mem_insertIdx_insertionPoint]
      constructor
      · rintro ⟨rule, rfl | hrule, rfl⟩
        · exact .inr rfl
        · exact .inl ⟨rule, hrule, rfl⟩
      · rintro (⟨rule, hrule, rfl⟩ | rfl)
        · exact ⟨rule, .inr hrule, rfl⟩
        · exact ⟨_, .inl rfl, rfl⟩
    · simp only [length_insertIdx_insertionPoint]
      omega

theorem Planned.addSyscalls (h : Planned plan numbers bound) (syscalls : List Int)
    (hrange : ∀ n ∈ syscalls, InRange n)
    (hroom : bound + syscalls.length ≤ kMaxSelectiveSeccompRules) :
    ∃ plan', addSyscalls syscalls plan = .ok plan' ∧
      Planned plan' (numbers ++ syscalls) (bound + syscalls.length) := by
  induction syscalls generalizing plan numbers bound with
  | nil => exact ⟨plan, rfl, by simpa using h⟩
  | cons n syscalls ih =>
    simp only [List.length_cons] at hroom
    obtain ⟨mid, hmid, hplanned⟩ := h.addSortedSyscall (hrange n List.mem_cons_self) (by omega)
    obtain ⟨plan', hplan', hdone⟩ := ih hplanned (fun m hm => hrange m (.tail n hm)) (by omega)
    refine ⟨plan', ?_, by simpa [Nat.add_assoc, Nat.add_comm 1] using hdone⟩
    rw [Seccomp.addSyscalls, List.foldlM_cons, hmid]
    exact hplan'

theorem Planned.addSyscallsIf (h : Planned plan numbers bound) (enabled : Prop) [Decidable enabled]
    (syscalls : List Int) (hrange : ∀ n ∈ syscalls, InRange n)
    (hroom : bound + syscalls.length ≤ kMaxSelectiveSeccompRules) :
    ∃ plan', addSyscallsIf enabled syscalls plan = .ok plan' ∧
      Planned plan' (numbers ++ if enabled then syscalls else []) (bound + syscalls.length) := by
  rw [Seccomp.addSyscallsIf]
  split_ifs
  · exact h.addSyscalls syscalls hrange hroom
  · have hlen := h.length
    exact ⟨plan, rfl, by simpa using { h with length := by omega }⟩

def requiredSyscalls (config : HookselfConfig) : List Int :=
  kProtectedFdSyscalls ++ kPathStateSyscalls ++ config.syscallRules.items.map (·.syscallNumber) ++
    (if config.flags &&& (enablePathRedirect ||| enableVirtualFiles) ≠ 0 then kPathPolicySyscalls
      else []) ++
    (if config.flags &&& enableVirtualFiles ≠ 0 ∧ HasSelinuxVirtualProvider config then
      kVirtualOutputSyscalls else []) ++
    (if config.flags &&& enablePtraceView ≠ 0 then kPtraceAndStatusViewSyscalls else []) ++
    (if config.flags &&& enableNestedPtrace ≠ 0 then kNestedPtraceWaitSyscalls else []) ++
    (if config.flags &&& enableProcVirtualView ≠ 0 then kProcVirtualViewSyscalls else [])

theorem validateConfigShape_ok {config : HookselfConfig} (h : Accepted config)
    (hobserve : config.flags &&& observeAll = 0) : validateConfigShape config = .ok () := by
  obtain ⟨⟨hp, hp'⟩, ⟨hs, hs'⟩, ⟨hv, hv'⟩⟩ := h.wellShaped
  rw [validateConfigShape, if_neg (not_not.mpr h.structSize), if_neg (not_not.mpr h.abiVersion),
    if_neg, if_neg (not_not.mpr hobserve)]
  rintro (hc | hc | hc | hc | hc | hc)
  · omega
  · exact hp' hc
  · omega
  · exact hs' hc
  · omega
  · exact hv' hc

theorem Planned.filterRules (h : Planned plan numbers bound) : FilterRules plan.rules where
  distinct := h.increasing.imp fun hlt => hlt.ne
  nonneg := fun rule hrule => (h.range rule hrule).1
  lt := fun rule hrule => (h.range rule hrule).2.trans (by decide)

theorem buildSelectiveSeccompPlan_ok {config : HookselfConfig} (h : Accepted config)
    (hobserve : config.flags &&& observeAll = 0) :
    ∃ plan, buildSelectiveSeccompPlan (some config) = .ok plan ∧
      Planned plan (requiredSyscalls config) kMaxSelectiveSeccompRules ∧
      plan.filter = ruleFilter plan.rules seccompRetKillProcess := by
  have hcount : (config.syscallRules.items.map (·.syscallNumber)).length ≤ 128 := by
    rw [List.length_map]
    exact config.syscallRules.length_items_le.trans h.wellShaped.syscallRules.1
  have hrange : ∀ n ∈ config.syscallRules.items.map (·.syscallNumber), InRange n := by
    intro n hn
    obtain ⟨rule, hrule, rfl⟩ := List.mem_map.mp hn
    exact checkSyscallRule_number (h.syscallRule hrule)
  have hroom : 0 + kProtectedFdSyscalls.length + kPathStateSyscalls.length +
      (config.syscallRules.items.map (·.syscallNumber)).length + kPathPolicySyscalls.length +
      kVirtualOutputSyscalls.length + kPtraceAndStatusViewSyscalls.length +
      kNestedPtraceWaitSyscalls.length + kProcVirtualViewSyscalls.length ≤
        kMaxSelectiveSeccompRules := by
    simp only [kProtectedFdSyscalls, kPathStateSyscalls, kPathPolicySyscalls,
      kVirtualOutputSyscalls, kPtraceAndStatusViewSyscalls, kNestedPtraceWaitSyscalls,
      kProcVirtualViewSyscalls, kMaxSelectiveSeccompRules, List.length_cons, List.length_nil]
    omega
  have hempty : Planned ⟨kSelectiveSeccompPlanSchemaVersion, kSelectiveSeccompUnifiedClassId, 0, [],
      ⟨[], 0, 0, 0⟩⟩ [] 0 :=
    ⟨rfl, rfl, .nil, by simp, by simp, by simp, le_rfl⟩
  obtain ⟨p₁, e₁, h₁⟩ := hempty.addSyscalls kProtectedFdSyscalls (by decide) (by omega)
  obtain ⟨p₂, e₂, h₂⟩ := h₁.addSyscalls kPathStateSyscalls (by decide) (by omega)
  obtain ⟨p₃, e₃, h₃⟩ := h₂.addSyscalls _ hrange (by omega)
  obtain ⟨p₄, e₄, h₄⟩ := h₃.addSyscallsIf
    (config.flags &&& (enablePathRedirect ||| enableVirtualFiles) ≠ 0) kPathPolicySyscalls
    (by decide) (by omega)
  obtain ⟨p₅, e₅, h₅⟩ := h₄.addSyscallsIf
    (config.flags &&& enableVirtualFiles ≠ 0 ∧ HasSelinuxVirtualProvider config)
    kVirtualOutputSyscalls (by decide) (by omega)
  obtain ⟨p₆, e₆, h₆⟩ := h₅.addSyscallsIf
    (config.flags &&& enablePtraceView ≠ 0) kPtraceAndStatusViewSyscalls (by decide) (by omega)
  obtain ⟨p₇, e₇, h₇⟩ := h₆.addSyscallsIf
    (config.flags &&& enableNestedPtrace ≠ 0) kNestedPtraceWaitSyscalls (by decide) (by omega)
  obtain ⟨p₈, e₈, h₈⟩ := h₇.addSyscallsIf
    (config.flags &&& enableProcVirtualView ≠ 0) kProcVirtualViewSyscalls (by decide) (by omega)
  have hfilter : buildSelectiveSeccompFilter p₈.rules seccompRetKillProcess = .ok _ :=
    buildSelectiveSeccompFilter_ok h₈.filterRules (h₈.length.trans hroom) (.inl rfl)
  refine ⟨{ p₈ with syscallSetHash := computePlanHash p₈,
                    filter := ruleFilter p₈.rules seccompRetKillProcess }, ?_, ?_, rfl⟩
  · simp only [buildSelectiveSeccompPlan, validateConfigShape_ok h hobserve, bind, Except.bind,
      e₁, e₂, e₃, e₄, e₅, e₆, e₇, e₈, hfilter]
  · exact { h₈ with length := h₈.length.trans hroom }

theorem Planned.findSelectiveSeccompClass_eq (h : Planned plan numbers kMaxSelectiveSeccompRules)
    (n : Int) : findSelectiveSeccompClass (some plan) n =
      if n ∈ numbers then some plan.classId else none := by
  have hat := h.increasing.exists_at_lowerBound (k := n)
  rw [h.mem] at hat
  rw [findSelectiveSeccompClass]
  by_cases hneg : n < 0
  · have hout : n ∉ numbers := by
      intro hn
      obtain ⟨rule, hrule, rfl⟩ := (h.mem n).mpr hn
      exact absurd (h.range rule hrule).1 (not_le.mpr hneg)
    rw [if_pos (.inl hneg), if_neg hout]
  · have hlen := h.length
    rw [if_neg (by simp [hneg, h.schemaVersion, h.classId, hlen])]
    by_cases hn : n ∈ numbers
    · obtain ⟨rule, hget, hrule⟩ := hat.mpr hn
      have hclass := h.classes rule (List.mem_of_getElem? hget)
      simp [hget, hrule, hclass, h.classId, hn]
    · rw [if_neg hn]
      split
      · rfl
      · next rule hget =>
        exact if_pos (.inl fun heq => hn (hat.mp ⟨rule, hget, heq⟩))

theorem Planned.find?_eq (h : Planned plan numbers bound) (nr : BitVec 32) :
    (∃ rule, plan.rules.find? (fun rule => BitVec.ofInt 32 rule.syscallNumber = nr) = some rule ∧
        rule.classId = plan.classId ∧ nr.toInt ∈ numbers) ∨
      (plan.rules.find? (fun rule => BitVec.ofInt 32 rule.syscallNumber = nr) = none ∧
        nr.toInt ∉ numbers) := by
  have hiff : ∀ rule ∈ plan.rules,
      (BitVec.ofInt 32 rule.syscallNumber = nr ↔ rule.syscallNumber = nr.toInt) := by
    intro rule hrule
    refine ⟨?_, fun heq => by rw [heq, BitVec.ofInt_toInt]⟩
    rintro rfl
    have hr := h.filterRules
    have h0 := hr.nonneg rule hrule
    have hlt := hr.lt rule hrule
    rw [BitVec.toInt_ofInt, Int.bmod_eq_of_le (by omega) (by omega)]
  rcases hf : plan.rules.find? (fun rule => BitVec.ofInt 32 rule.syscallNumber = nr) with _ | rule
  · refine .inr ⟨hf, fun hn => ?_⟩
    obtain ⟨rule, hrule, heq⟩ := (h.mem _).mpr hn
    exact List.find?_eq_none.mp hf rule hrule (decide_eq_true ((hiff rule hrule).mpr heq))
  · have hrule := List.mem_of_find?_eq_some hf
    have heq : BitVec.ofInt 32 rule.syscallNumber = nr := by simpa using List.find?_some hf
    exact .inl ⟨rule, hf, (h.classes rule hrule).trans h.classId.symm,
      (h.mem _).mp ⟨rule, hrule, (hiff rule hrule).mp heq⟩⟩

/-- In selective mode the plan is always built; its numbers are strictly increasing, and the
filter kills off AArch64, traces exactly the required syscalls with the plan's class, and lets
every other one proceed. -/
theorem selectivePlan_filters_required {config : HookselfConfig}
    (hok : hookselfValidateConfig (some config) = .ok)
    (hselective : config.flags &&& enableSelectiveSeccomp ≠ 0) :
    ∃ plan, buildSelectiveSeccompPlan (some config) = .ok plan ∧
      plan.rules.Pairwise (fun a b => a.syscallNumber < b.syscallNumber) ∧
      ∀ data : SeccompData,
        (data.arch ≠ auditArchAarch64 →
          run data.load 0 plan.filter.instructions 0 = some seccompRetKillProcess) ∧
        (data.arch = auditArchAarch64 →
          (run data.load 0 plan.filter.instructions 0 =
              some (seccompRetTrace ||| plan.classId.setWidth 32) ↔
            findSelectiveSeccompClass (some plan) data.nr.toInt = some plan.classId) ∧
          (findSelectiveSeccompClass (some plan) data.nr.toInt = some plan.classId ↔
            data.nr.toInt ∈ requiredSyscalls config) ∧
          (data.nr.toInt ∉ requiredSyscalls config →
            findSelectiveSeccompClass (some plan) data.nr.toInt = none ∧
              run data.load 0 plan.filter.instructions 0 = some seccompRetAllow)) := by
  have haccepted := hookselfValidateConfig_ok.mp hok
  obtain ⟨plan, hplan, hplanned, hfilter⟩ :=
    buildSelectiveSeccompPlan_ok haccepted (haccepted.selective hselective).2.2
  refine ⟨plan, hplan, hplanned.increasing, fun data => ?_⟩
  rw [hfilter, ruleFilter_run, hplanned.findSelectiveSeccompClass_eq]
  refine ⟨fun harch => by rw [if_pos harch], fun harch => ?_⟩
  rw [if_neg (not_not.mpr harch)]
  rcases hplanned.find?_eq data.nr with ⟨rule, hfind, hclass, hmem⟩ | ⟨hfind, hmem⟩
  · simp [hfind, hclass, hmem]
  · have hne : seccompRetAllow ≠ seccompRetTrace ||| plan.classId.setWidth 32 := by
      rw [hplanned.classId]
      decide
    simp [hfind, hmem, hne]

def selectiveConfig : HookselfConfig :=
  { hookselfDefaultConfig with
    failureMode := failureFailClosed
    flags := traceDescendants ||| enableSelectiveSeccomp ||| enablePathRedirect |||
      enablePtraceView ||| enableProcVirtualView }

theorem selectiveConfig_filters_required :
    ∃ plan, buildSelectiveSeccompPlan (some selectiveConfig) = .ok plan ∧
      plan.rules.Pairwise (fun a b => a.syscallNumber < b.syscallNumber) ∧
      findSelectiveSeccompClass (some plan) Nr.openat = some plan.classId := by
  have hok : hookselfValidateConfig (some selectiveConfig) = .ok := by decide +kernel
  obtain ⟨plan, hplan, hsorted, hdata⟩ := selectivePlan_filters_required hok (by decide)
  exact ⟨plan, hplan, hsorted,
    (((hdata ⟨56, auditArchAarch64, 0, fun _ => 0⟩).2 rfl).2.1).mpr (by decide)⟩

end Laws

end HookSelf.Seccomp
