import HookSelf.Errno
import HookSelf.RawSyscall
import HookSelf.Seccomp.Cbpf

/-! The selective seccomp filter: its construction, its self-check and what it answers. -/

namespace HookSelf.Seccomp

open Cbpf

section Model

def kMaxSelectiveSeccompRules : Nat := 192
def kSelectiveSeccompBaseInstructionCount : Nat := 5

def seccompRetKillProcess : BitVec 32 := 0x80000000
def seccompRetTrace : BitVec 32 := 0x7ff00000
def seccompRetAllow : BitVec 32 := 0x7fff0000
def seccompRetActionFull : BitVec 32 := 0xffff0000
def auditArchAarch64 : BitVec 32 := 0xc00000b7

structure SelectiveSeccompRule where
  syscallNumber : Int
  classId : BitVec 16
  deriving DecidableEq

structure SelectiveSeccompFilter where
  instructions : List SockFilter
  instructionCount : Nat
  ruleCount : Nat
  archMismatchAction : BitVec 32
  deriving DecidableEq

structure SeccompData where
  nr : BitVec 32
  arch : BitVec 32
  instructionPointer : BitVec 64
  args : Fin 6 → BitVec 64

def offsetofNr : BitVec 32 := 0
def offsetofArch : BitVec 32 := 4

/-- The word at an offset: `nr`, `arch`, then the instruction pointer and the arguments, each as
a low and a high word. -/
def SeccompData.load (data : SeccompData) (offset : BitVec 32) : Option (BitVec 32) :=
  if offset = offsetofNr then some data.nr
  else if offset = offsetofArch then some data.arch
  else if offset = 8 then some (data.instructionPointer.setWidth 32)
  else if offset = 12 then some ((data.instructionPointer >>> 32).setWidth 32)
  else if h : 16 ≤ offset.toNat ∧ offset.toNat < 64 ∧ offset.toNat % 4 = 0 then
    let arg := data.args ⟨(offset.toNat - 16) / 8, by omega⟩
    some (if offset.toNat % 8 = 0 then arg.setWidth 32 else (arg >>> 32).setWidth 32)
  else none

def statement (code : BitVec 16) (value : BitVec 32) : SockFilter := ⟨code, 0, 0, value⟩

def jump (code : BitVec 16) (value : BitVec 32) (jumpTrue jumpFalse : BitVec 8) : SockFilter :=
  ⟨code, jumpTrue, jumpFalse, value⟩

def IsValidArchMismatchAction (action : BitVec 32) : Prop :=
  action = seccompRetKillProcess ∨ action = seccompRetAllow

instance (action : BitVec 32) : Decidable (IsValidArchMismatchAction action) :=
  inferInstanceAs (Decidable (_ ∨ _))

def filterPrefix (archMismatchAction : BitVec 32) : List SockFilter :=
  [statement loadAbsoluteWord offsetofArch,
    jump jumpEqualConstant auditArchAarch64 1 0,
    statement returnConstant archMismatchAction,
    statement loadAbsoluteWord offsetofNr]

def instructionAt (filter : SelectiveSeccompFilter) (index : Nat) : SockFilter :=
  filter.instructions.getD index ⟨0, 0, 0, 0⟩

def validateFilterRule (filter : SelectiveSeccompFilter) (ruleIndex : Nat) : Except Errno Unit :=
  let comparison := instructionAt filter (4 + 2 * ruleIndex)
  let result := instructionAt filter (4 + 2 * ruleIndex + 1)
  if comparison.code ≠ jumpEqualConstant ∨ comparison.jt ≠ 0 ∨ comparison.jf ≠ 1 ∨
      comparison.k.toNat > 2147483647 ∨ result.code ≠ returnConstant ∨ result.jt ≠ 0 ∨
      result.jf ≠ 0 ∨ result.k &&& seccompRetActionFull ≠ seccompRetTrace then .error .einval
  else if ∃ previous < ruleIndex,
      (instructionAt filter (4 + 2 * previous)).k = comparison.k then .error .eexist
  else .ok ()

def validateFilter (filter : SelectiveSeccompFilter) : Except Errno Unit :=
  if filter.ruleCount > kMaxSelectiveSeccompRules ∨
      filter.instructionCount ≠ kSelectiveSeccompBaseInstructionCount + 2 * filter.ruleCount then
    .error .einval
  else if ¬IsValidArchMismatchAction filter.archMismatchAction then .error .einval
  else if ∃ index : Nat, index < 4 ∧ instructionAt filter index ≠
      (filterPrefix filter.archMismatchAction).getD index ⟨0, 0, 0, 0⟩ then .error .einval
  else
    match forM (List.range filter.ruleCount) (validateFilterRule filter) with
    | .error error => .error error
    | .ok () =>
      if instructionAt filter (filter.instructionCount - 1) ≠
          statement returnConstant seccompRetAllow then .error .einval
      else .ok ()

def ruleInstructions (rule : SelectiveSeccompRule) : List SockFilter :=
  [jump jumpEqualConstant (BitVec.ofInt 32 rule.syscallNumber) 0 1,
    statement returnConstant (seccompRetTrace ||| rule.classId.setWidth 32)]

def checkFilterRules : List SelectiveSeccompRule → List SelectiveSeccompRule → Except Errno Unit
  | _, [] => .ok ()
  | earlier, rule :: rest =>
    if rule.syscallNumber < 0 then .error .einval
    else if ∃ previous ∈ earlier, previous.syscallNumber = rule.syscallNumber then .error .eexist
    else checkFilterRules (earlier ++ [rule]) rest

def ruleFilter (rules : List SelectiveSeccompRule) (archMismatchAction : BitVec 32) :
    SelectiveSeccompFilter where
  instructions := filterPrefix archMismatchAction ++
    (rules.flatMap ruleInstructions ++ [statement returnConstant seccompRetAllow])
  instructionCount := kSelectiveSeccompBaseInstructionCount + 2 * rules.length
  ruleCount := rules.length
  archMismatchAction := archMismatchAction

def buildSelectiveSeccompFilter (rules : List SelectiveSeccompRule)
    (archMismatchAction : BitVec 32) : Except Errno SelectiveSeccompFilter :=
  if rules.length > kMaxSelectiveSeccompRules ∨ ¬IsValidArchMismatchAction archMismatchAction then
    .error .einval
  else do
    checkFilterRules [] rules
    let candidate := ruleFilter rules archMismatchAction
    if candidate.instructions.length ≠ candidate.instructionCount then .error .eio
    else do
      validateFilter candidate
      .ok candidate

def seccompFilterFlagTsync : BitVec 32 := 1
def seccompFilterFlagTsyncEsrch : BitVec 32 := 16

/-- With `SECCOMP_FILTER_FLAG_LOG` and `SECCOMP_FILTER_FLAG_SPEC_ALLOW`. -/
def kAllowedInstallFlags : BitVec 32 :=
  seccompFilterFlagTsync ||| 2 ||| 4 ||| seccompFilterFlagTsyncEsrch

/-- The return value, `failed_tid`, and the program the kernel is given if it is called; `answer` is
what the system call returns. -/
def installSelectiveSeccompFilter (filter : Option SelectiveSeccompFilter) (flags : BitVec 32)
    (answer : Int) : Except Errno Unit × Int × Option (List SockFilter) :=
  match filter with
  | none => (.error .einval, 0, none)
  | some filter =>
    if flags &&& ~~~kAllowedInstallFlags ≠ 0 ∨ flags &&& seccompFilterFlagTsyncEsrch ≠ 0 ∧
        flags &&& seccompFilterFlagTsync = 0 then (.error .einval, 0, none)
    else
      match validateFilter filter with
      | .error error => (.error error, 0, none)
      | .ok () =>
        let program := filter.instructions.take filter.instructionCount
        if RawSyscall.rawError answer ≠ 0 then
          (.error (.other (RawSyscall.rawError answer)), 0, some program)
        else if answer = 0 then (.ok (), 0, some program)
        else if flags &&& seccompFilterFlagTsync ≠ 0 ∧ answer > 0 ∧ answer ≤ 2147483647 then
          (.error .ebusy, answer, some program)
        else (.error .eio, 0, some program)

end Model

section Laws

variable {rules earlier : List SelectiveSeccompRule} {rule : SelectiveSeccompRule}
  {action : BitVec 32} {i j : Nat}

/-- The rules a filter can be built from: distinct syscall numbers, none negative. -/
structure FilterRules (rules : List SelectiveSeccompRule) : Prop where
  distinct : rules.Pairwise fun a b => a.syscallNumber ≠ b.syscallNumber
  nonneg : ∀ rule ∈ rules, 0 ≤ rule.syscallNumber
  lt : ∀ rule ∈ rules, rule.syscallNumber < 2 ^ 31

theorem checkFilterRules_ok (h : FilterRules (earlier ++ rules)) :
    checkFilterRules earlier rules = .ok () := by
  induction rules generalizing earlier with
  | nil => rfl
  | cons rule rules ih =>
    have hpos := h.nonneg rule (by simp)
    have hnew : ¬∃ previous ∈ earlier, previous.syscallNumber = rule.syscallNumber := by
      rintro ⟨previous, hmem, heq⟩
      exact (List.pairwise_append.mp h.distinct).2.2 previous hmem rule List.mem_cons_self heq
    rw [checkFilterRules, if_neg (not_lt.mpr hpos), if_neg hnew]
    exact ih (by simpa using h)

theorem ruleInstructions_getElem? (rules : List SelectiveSeccompRule) (tail : List SockFilter)
    (hi : rules[i]? = some rule) :
    (rules.flatMap ruleInstructions ++ tail)[2 * i]? =
        some (jump jumpEqualConstant (BitVec.ofInt 32 rule.syscallNumber) 0 1) ∧
      (rules.flatMap ruleInstructions ++ tail)[2 * i + 1]? =
        some (statement returnConstant (seccompRetTrace ||| rule.classId.setWidth 32)) := by
  induction rules generalizing i with
  | nil => simp at hi
  | cons first rules ih =>
    cases i with
    | zero =>
      obtain rfl : first = rule := by simpa using hi
      exact ⟨rfl, rfl⟩
    | succ i =>
      have hrest := ih (by simpa using hi)
      simpa [List.flatMap_cons, ruleInstructions, Nat.mul_add] using hrest

theorem trace_action (classId : BitVec 16) :
    (seccompRetTrace ||| classId.setWidth 32) &&& seccompRetActionFull = seccompRetTrace := by
  have hlow : ∀ i < 16, seccompRetTrace.getLsbD i = false ∧ seccompRetActionFull.getLsbD i = false := by
    decide
  have hhigh : ∀ i < 32, 16 ≤ i → seccompRetActionFull.getLsbD i = true := by decide
  refine BitVec.eq_of_getLsbD_eq fun i hi => ?_
  rw [BitVec.getLsbD_and, BitVec.getLsbD_or, BitVec.getLsbD_setWidth]
  by_cases h16 : i < 16
  · simp [hlow i h16]
  · simp [hhigh i hi (by omega), BitVec.getLsbD_of_ge classId i (by omega)]

theorem ofInt_toNat {n : Int} (h0 : 0 ≤ n) (h : n < 2 ^ 31) :
    ((BitVec.ofInt 32 n).toNat : Int) = n := by
  rw [BitVec.toNat_ofInt]
  omega

theorem ofInt_inj {n m : Int} (hn0 : 0 ≤ n) (hn : n < 2 ^ 31) (hm0 : 0 ≤ m) (hm : m < 2 ^ 31)
    (h : BitVec.ofInt 32 n = BitVec.ofInt 32 m) : n = m := by
  rw [← ofInt_toNat hn0 hn, ← ofInt_toNat hm0 hm, h]

theorem ruleInstructions_length (rules : List SelectiveSeccompRule) :
    (rules.flatMap ruleInstructions).length = 2 * rules.length := by
  induction rules with
  | nil => rfl
  | cons rule rules ih =>
    rw [List.flatMap_cons, List.length_append, ih]
    simp only [ruleInstructions, List.length_cons, List.length_nil]
    omega

theorem ruleFilter_comparison (hi : rules[i]? = some rule) :
    instructionAt (ruleFilter rules action) (4 + 2 * i) =
      jump jumpEqualConstant (BitVec.ofInt 32 rule.syscallNumber) 0 1 := by
  rw [instructionAt, ruleFilter, List.getD_append_right _ _ _ _ (by simp [filterPrefix]),
    List.getD_eq_getElem?_getD]
  have hlen : 4 + 2 * i - (filterPrefix action).length = 2 * i := by simp [filterPrefix]
  rw [hlen, (ruleInstructions_getElem? rules _ hi).1, Option.getD_some]

theorem ruleFilter_result (hi : rules[i]? = some rule) :
    instructionAt (ruleFilter rules action) (4 + 2 * i + 1) =
      statement returnConstant (seccompRetTrace ||| rule.classId.setWidth 32) := by
  rw [instructionAt, ruleFilter, List.getD_append_right _ _ _ _ (by simp [filterPrefix]; omega),
    List.getD_eq_getElem?_getD]
  have hlen : 4 + 2 * i + 1 - (filterPrefix action).length = 2 * i + 1 := by
    simp [filterPrefix]
    omega
  rw [hlen, (ruleInstructions_getElem? rules _ hi).2, Option.getD_some]

theorem validateFilterRule_ok (h : FilterRules rules) (hi : rules[i]? = some rule) :
    validateFilterRule (ruleFilter rules action) i = .ok () := by
  have hmem := List.mem_of_getElem? hi
  have h0 := h.nonneg rule hmem
  have hlt := h.lt rule hmem
  have hnew : ¬∃ previous < i, (instructionAt (ruleFilter rules action) (4 + 2 * previous)).k =
      BitVec.ofInt 32 rule.syscallNumber := by
    rintro ⟨previous, hprevious, heq⟩
    obtain ⟨hi', rfl⟩ := List.getElem?_eq_some_iff.mp hi
    have hprev := List.getElem?_eq_getElem (show previous < rules.length by omega)
    rw [ruleFilter_comparison hprev] at heq
    have hpm := List.mem_of_getElem? hprev
    exact List.pairwise_iff_getElem.mp h.distinct previous i _ hi' hprevious
      (ofInt_inj (h.nonneg _ hpm) (h.lt _ hpm) h0 hlt heq)
  simp only [validateFilterRule, ruleFilter_comparison hi, ruleFilter_result hi]
  rw [if_neg (by simp [jump, statement, trace_action]; omega)]
  exact if_neg hnew

theorem forM_ok {α ε : Type} {f : α → Except ε Unit} {l : List α} (h : ∀ x ∈ l, f x = .ok ()) :
    forM l f = .ok () := by
  induction l with
  | nil => rfl
  | cons x l ih =>
    rw [List.forM_cons, h x List.mem_cons_self, ih fun y hy => h y (.tail x hy)]
    rfl

theorem ruleFilter_first {index : Nat} (h : index < 4) :
    instructionAt (ruleFilter rules action) index =
      (filterPrefix action).getD index ⟨0, 0, 0, 0⟩ :=
  List.getD_append _ _ _ _ (by simpa [filterPrefix] using h)

theorem ruleFilter_last : instructionAt (ruleFilter rules action) (5 + 2 * rules.length - 1) =
    statement returnConstant seccompRetAllow := by
  have hlength : (filterPrefix action ++ rules.flatMap ruleInstructions).length =
      4 + 2 * rules.length := by
    rw [List.length_append, ruleInstructions_length]
    rfl
  rw [instructionAt, ruleFilter, ← List.append_assoc,
    List.getD_append_right _ _ _ _ (by omega), hlength,
    show 5 + 2 * rules.length - 1 - (4 + 2 * rules.length) = 0 by omega]
  rfl

theorem ruleFilter_length : (ruleFilter rules action).instructions.length =
    (ruleFilter rules action).instructionCount := by
  rw [ruleFilter, List.length_append, List.length_append, ruleInstructions_length]
  simp only [filterPrefix, List.length_cons, List.length_nil, kSelectiveSeccompBaseInstructionCount]
  omega

theorem validateFilter_ok (h : FilterRules rules) (hlen : rules.length ≤ kMaxSelectiveSeccompRules)
    (haction : IsValidArchMismatchAction action) :
    validateFilter (ruleFilter rules action) = .ok () := by
  have hprefix : ¬∃ index : Nat, index < 4 ∧ instructionAt (ruleFilter rules action) index ≠
      (filterPrefix (ruleFilter rules action).archMismatchAction).getD index ⟨0, 0, 0, 0⟩ := by
    rintro ⟨index, hlt, hne⟩
    exact hne (ruleFilter_first hlt)
  have hrules : forM (List.range rules.length) (validateFilterRule (ruleFilter rules action)) =
      .ok () :=
    forM_ok fun i hi =>
      validateFilterRule_ok h (List.getElem?_eq_getElem (List.mem_range.mp hi))
  have haction' : ¬¬IsValidArchMismatchAction (ruleFilter rules action).archMismatchAction :=
    not_not.mpr haction
  rw [validateFilter, if_neg (by simp [ruleFilter, hlen]), if_neg haction', if_neg hprefix]
  simp only [show (ruleFilter rules action).ruleCount = rules.length from rfl, hrules]
  exact if_neg (not_not.mpr ruleFilter_last)

theorem buildSelectiveSeccompFilter_ok (h : FilterRules rules)
    (hlen : rules.length ≤ kMaxSelectiveSeccompRules) (haction : IsValidArchMismatchAction action) :
    buildSelectiveSeccompFilter rules action = .ok (ruleFilter rules action) := by
  rw [buildSelectiveSeccompFilter, if_neg (by simp [hlen, haction]), checkFilterRules_ok (by simpa)]
  change (if (ruleFilter rules action).instructions.length ≠ _ then _ else _) = _
  rw [if_neg (not_not.mpr ruleFilter_length), validateFilter_ok h hlen haction]
  rfl

/-- What the filter answers: the mismatch action off AArch64, and otherwise the trace verdict of
the rule for the syscall number, or leave to proceed. -/
theorem ruleFilter_run (data : SeccompData) (accumulator : BitVec 32) :
    run data.load 0 (ruleFilter rules action).instructions accumulator =
      some (if data.arch ≠ auditArchAarch64 then action
        else match rules.find? fun rule => BitVec.ofInt 32 rule.syscallNumber = data.nr with
          | some rule => seccompRetTrace ||| rule.classId.setWidth 32
          | none => seccompRetAllow) := by
  have hinstr : rules.flatMap ruleInstructions = (rules.map fun rule =>
      (BitVec.ofInt 32 rule.syscallNumber, seccompRetTrace ||| rule.classId.setWidth 32)).flatMap
        matchReturn := by
    rw [List.flatMap_map]
    rfl
  have harch : data.load offsetofArch = some data.arch := by
    simp [SeccompData.load, offsetofArch, offsetofNr]
  have hnr : data.load offsetofNr = some data.nr := by simp [SeccompData.load]
  simp only [ruleFilter, filterPrefix, statement, jump, List.cons_append, List.nil_append]
  rw [run_load harch, run_jump]
  by_cases h : data.arch = auditArchAarch64
  · rw [if_pos h, if_neg (not_not.mpr h)]
    change run data.load 0 _ _ = _
    rw [run_load hnr, hinstr, run_matchReturns, List.find?_map]
    rcases hf : rules.find? fun rule => decide (BitVec.ofInt 32 rule.syscallNumber = data.nr) with
      _ | rule
    · simp only [Function.comp_def, hf, Option.map_none]
      exact run_return
    · simp only [Function.comp_def, hf, Option.map_some]
  · rw [if_neg h, if_pos h]
    exact run_return

end Laws

section Accepted

variable {filter : SelectiveSeccompFilter} {i : Nat}

/-- The rule that two instructions of a valid filter stand for. -/
def decodedRule (filter : SelectiveSeccompFilter) (index : Nat) : SelectiveSeccompRule :=
  ⟨(instructionAt filter (4 + 2 * index)).k.toNat,
    (instructionAt filter (4 + 2 * index + 1)).k.setWidth 16⟩

def decodedRules (filter : SelectiveSeccompFilter) : List SelectiveSeccompRule :=
  (List.range filter.ruleCount).map (decodedRule filter)

theorem trace_class {k : BitVec 32} (h : k &&& seccompRetActionFull = seccompRetTrace) :
    seccompRetTrace ||| (k.setWidth 16).setWidth 32 = k := by
  have hhigh : ∀ i < 32, 16 ≤ i → seccompRetActionFull.getLsbD i = true := by decide
  refine BitVec.eq_of_getLsbD_eq fun i hi => ?_
  rw [← h, BitVec.getLsbD_or, BitVec.getLsbD_and, BitVec.getLsbD_setWidth, BitVec.getLsbD_setWidth]
  by_cases h16 : i < 16
  · simp +contextual [h16, hi]
  · simp [hhigh i hi (by omega), h16]

theorem validateFilterRule_inv (h : validateFilterRule filter i = .ok ()) :
    ruleInstructions (decodedRule filter i) =
        [instructionAt filter (4 + 2 * i), instructionAt filter (4 + 2 * i + 1)] ∧
      (decodedRule filter i).syscallNumber < 2 ^ 31 ∧
      ∀ previous < i,
        (decodedRule filter previous).syscallNumber ≠ (decodedRule filter i).syscallNumber := by
  rw [validateFilterRule] at h
  split_ifs at h with hshape hrepeats
  push Not at hshape hrepeats
  obtain ⟨hcode, hjt, hjf, hrange, hreturn, hjt', hjf', haction⟩ := hshape
  refine ⟨?_, ?_, fun previous hprevious heq => hrepeats previous hprevious ?_⟩
  · rw [ruleInstructions, decodedRule, trace_class haction]
    generalize instructionAt filter (4 + 2 * i) = comparison at *
    generalize instructionAt filter (4 + 2 * i + 1) = result at *
    obtain ⟨code, jt, jf, k⟩ := comparison
    obtain ⟨code', jt', jf', k'⟩ := result
    simp_all [jump, statement]
  · show ((instructionAt filter (4 + 2 * i)).k.toNat : Int) < 2 ^ 31
    omega
  · exact BitVec.eq_of_toNat_eq (Int.ofNat.inj heq)

theorem forM_inv {α ε : Type} {f : α → Except ε Unit} {l : List α} (h : forM l f = .ok ()) :
    ∀ x ∈ l, f x = .ok () := by
  induction l with
  | nil => exact fun _ hx => absurd hx List.not_mem_nil
  | cons x l ih =>
    rw [List.forM_cons] at h
    cases hx : f x with
    | error error => rw [hx] at h; cases h
    | ok =>
      rw [hx] at h
      exact List.forall_mem_cons.mpr ⟨hx, ih h⟩

theorem take_instructions {built : SelectiveSeccompFilter}
    (hcount : filter.instructionCount ≤ filter.instructions.length)
    (hlength : built.instructions.length = filter.instructionCount)
    (h : ∀ index < filter.instructionCount,
      instructionAt filter index = instructionAt built index) :
    filter.instructions.take filter.instructionCount = built.instructions := by
  refine List.ext_getElem (by rw [List.length_take, hlength]; omega) fun index hleft hright => ?_
  have hindex : index < filter.instructionCount := hlength ▸ hright
  have hsame := h index hindex
  rw [instructionAt, instructionAt, List.getD_eq_getElem _ _ (by omega),
    List.getD_eq_getElem _ _ hright] at hsame
  rw [List.getElem_take, hsame]

theorem decodedRules_getElem? (hi : i < filter.ruleCount) :
    (decodedRules filter)[i]? = some (decodedRule filter i) := by
  simp [decodedRules, hi]

theorem instruction_cases {index rules : Nat} (h : index < 5 + 2 * rules) :
    index < 4 ∨ index = 5 + 2 * rules - 1 ∨
      ∃ i < rules, index = 4 + 2 * i ∨ index = 4 + 2 * i + 1 := by
  rcases Nat.lt_or_ge index 4 with hlt | hge
  · exact .inl hlt
  · refine .inr (or_iff_not_imp_left.mpr fun hne => ⟨(index - 4) / 2, ?_, ?_⟩) <;> omega

/-- A valid filter starts with a program that the builder makes. -/
theorem validateFilter_inv (h : validateFilter filter = .ok ()) :
    IsValidArchMismatchAction filter.archMismatchAction ∧
      (decodedRules filter).length ≤ kMaxSelectiveSeccompRules ∧
      FilterRules (decodedRules filter) ∧ filter.instructions.take filter.instructionCount =
        (ruleFilter (decodedRules filter) filter.archMismatchAction).instructions := by
  rw [validateFilter] at h
  split_ifs at h with hcounts haction hbefore hlast
  · split at h <;> cases h
  cases hforM : forM (List.range filter.ruleCount) (validateFilterRule filter) with
  | error error => rw [hforM] at h; cases h
  | ok =>
    push Not at hcounts hbefore hlast
    have hrules := fun i hi => validateFilterRule_inv (forM_inv hforM i (List.mem_range.mpr hi))
    have hlength : (decodedRules filter).length = filter.ruleCount := by simp [decodedRules]
    refine ⟨haction, hlength ▸ hcounts.1, ⟨?_, ?_, ?_⟩, ?_⟩
    · refine List.pairwise_iff_getElem.mpr fun i j hi hj hlt => ?_
      simpa [decodedRules] using (hrules j (by omega)).2.2 i hlt
    · simp [decodedRules, decodedRule]
    · simp only [decodedRules, List.mem_map, List.mem_range]
      rintro rule ⟨i, hi, rfl⟩
      exact (hrules i hi).2.1
    · have hstored : filter.instructionCount ≤ filter.instructions.length := by
        by_contra hshort
        rw [instructionAt, List.getD_eq_default _ _ (by omega)] at hlast
        exact absurd (congrArg SockFilter.code hlast) (by decide)
      refine take_instructions hstored ?_ fun index hindex => ?_
      · rw [ruleFilter_length, ruleFilter, hlength, hcounts.2]
      · rw [hcounts.2, kSelectiveSeccompBaseInstructionCount] at hindex
        have hcases : index < 5 + 2 * filter.ruleCount := by omega
        rcases instruction_cases hcases with hlt | rfl | ⟨i, hi, rfl | rfl⟩
        · rw [hbefore index hlt, ruleFilter_first hlt]
        · rw [← hlength, ruleFilter_last, ← hlast, hcounts.2, hlength]
          rfl
        · rw [ruleFilter_comparison (decodedRules_getElem? hi)]
          exact (List.cons.inj (hrules i hi).1).1.symm
        · rw [ruleFilter_result (decodedRules_getElem? hi)]
          exact (List.cons.inj (List.cons.inj (hrules i hi).1).2).1.symm

theorem installSelectiveSeccompFilter_inv {filter : Option SelectiveSeccompFilter}
    {flags : BitVec 32} {answer : Int} {program : List SockFilter}
    (h : (installSelectiveSeccompFilter filter flags answer).2.2 = some program) :
    ∃ accepted, validateFilter accepted = .ok () ∧
      accepted.instructions.take accepted.instructionCount = program := by
  cases filter with
  | none => cases h
  | some filter =>
    cases hvalid : validateFilter filter with
    | error error =>
      simp only [installSelectiveSeccompFilter, hvalid] at h
      split_ifs at h
    | ok =>
      simp only [installSelectiveSeccompFilter, hvalid] at h
      split_ifs at h <;> exact ⟨filter, hvalid, Option.some.inj h⟩

/-- Whatever filter is asked for, the kernel is given only programs that the builder makes: off
AArch64 they answer with the mismatch action, and otherwise they trace the syscalls of their rules
with the class of the rule and allow every other. -/
theorem installSelectiveSeccompFilter_program (filter : Option SelectiveSeccompFilter)
    (flags : BitVec 32) (answer : Int) (program : List SockFilter)
    (h : (installSelectiveSeccompFilter filter flags answer).2.2 = some program) :
    ∃ rules action, buildSelectiveSeccompFilter rules action = .ok (ruleFilter rules action) ∧
      program = (ruleFilter rules action).instructions ∧
      ∀ (data : SeccompData) (accumulator : BitVec 32), run data.load 0 program accumulator =
        some (if data.arch ≠ auditArchAarch64 then action
          else match rules.find? fun rule => BitVec.ofInt 32 rule.syscallNumber = data.nr with
            | some rule => seccompRetTrace ||| rule.classId.setWidth 32
            | none => seccompRetAllow) := by
  obtain ⟨accepted, hvalid, rfl⟩ := installSelectiveSeccompFilter_inv h
  obtain ⟨haction, hlength, hrules, hprogram⟩ := validateFilter_inv hvalid
  refine ⟨_, _, buildSelectiveSeccompFilter_ok hrules hlength haction, hprogram,
    fun data accumulator => ?_⟩
  rw [hprogram]
  exact ruleFilter_run data accumulator

theorem installSelectiveSeccompFilter_program_openat :
    let filter := ruleFilter [⟨56, 1⟩] seccompRetKillProcess
    (installSelectiveSeccompFilter (some filter) seccompFilterFlagTsync 0).2.2 =
        some filter.instructions ∧
      ∃ rules action, filter.instructions = (ruleFilter rules action).instructions := by
  intro filter
  have hgiven : (installSelectiveSeccompFilter (some filter) seccompFilterFlagTsync 0).2.2 =
      some filter.instructions := by decide +kernel
  obtain ⟨rules, action, -, hprogram, -⟩ :=
    installSelectiveSeccompFilter_program _ _ _ _ hgiven
  exact ⟨hgiven, rules, action, hprogram⟩

end Accepted

end HookSelf.Seccomp
