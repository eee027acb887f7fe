import HookSelf.Collections.SlotTable
import HookSelf.ProcVirtual.Io
import HookSelf.ProcVirtual.Xattr

/-! The entry of a system call in the proc dispatcher, and the table of pending calls. -/

namespace HookSelf.ProcVirtual

open Buffer ProcText SlotTable

section Constants

abbrev taskCapacity : ℕ := 512
abbrev maxIov : ℕ := 1024
abbrev maxProtectedFds : ℕ := 256
abbrev defaultDirentReplays : ℕ := 32
abbrev identityCapacity : ℕ := 512
abbrev invalidRule : ℕ := 2 ^ 32 - 1

abbrev nrGetxattr : ℤ := 8
abbrev nrLgetxattr : ℤ := 9
abbrev nrFgetxattr : ℤ := 10
abbrev nrListxattr : ℤ := 11
abbrev nrLlistxattr : ℤ := 12
abbrev nrFlistxattr : ℤ := 13
abbrev nrGetdents64 : ℤ := 61
abbrev nrRead : ℤ := 63
abbrev nrReadv : ℤ := 65
abbrev nrPread64 : ℤ := 67

abbrev xattrRuleExactPath : BitVec 32 := 1
abbrev xattrRuleFollowOnly : BitVec 32 := 2
abbrev xattrRuleNoFollowOnly : BitVec 32 := 4
abbrev xattrRuleFdOnly : BitVec 32 := 8
abbrev xattrRulePathOnly : BitVec 32 := 16
abbrev xattrRuleEmulate : BitVec 32 := 32

abbrev xattrKnownRuleFlags : BitVec 32 :=
  xattrRuleExactPath ||| xattrRuleFollowOnly ||| xattrRuleNoFollowOnly ||| xattrRuleFdOnly |||
    xattrRulePathOnly ||| xattrRuleEmulate

abbrev pendingActive : BitVec 32 := 1
abbrev pendingProcText : BitVec 32 := 2
abbrev pendingDirents : BitVec 32 := 4
abbrev pendingXattrGet : BitVec 32 := 8
abbrev pendingXattrList : BitVec 32 := 16
abbrev pendingEmulated : BitVec 32 := 32

abbrev entryHandled : BitVec 32 := 1
abbrev entryNeedsExit : BitVec 32 := 2
abbrev entrySuppress : BitVec 32 := 4

end Constants

section Config

structure ProcVirtualXattrRule where
  pathPrefix : List UInt8
  name : List UInt8
  value : List UInt8
  priority : ℤ
  flags : BitVec 32
  deriving DecidableEq, Repr

/-- The two buffers are given with what they hold before the call. -/
structure ProcVirtualDispatchConfig where
  generation : UInt64
  tracerPid : ℤ
  maxIovCount : ℕ
  maxGetdentsReplays : ℕ
  getdentsReplayTimeoutNs : UInt64
  hiddenRanges : List ProcVirtualAddressRange
  reverseRules : List ProcReversePathRule
  protectedFds : List ℤ
  xattrRules : List ProcVirtualXattrRule
  snapshotBuffer : List UInt8
  rewriteBuffer : List UInt8
  deriving DecidableEq, Repr

def ProcVirtualXattrRule.Malformed (rule : ProcVirtualXattrRule) : Prop :=
  rule.flags &&& ~~~xattrKnownRuleFlags ≠ 0 ∨
    (rule.flags &&& xattrRuleFollowOnly ≠ 0 ∧ rule.flags &&& xattrRuleNoFollowOnly ≠ 0) ∨
    (rule.flags &&& xattrRuleFdOnly ≠ 0 ∧ rule.flags &&& xattrRulePathOnly ≠ 0) ∨
    0 ∈ rule.pathPrefix ∨ rule.name.length = 0 ∨ rule.name.length > xattrNameMax ∨ 0 ∈ rule.name

instance : DecidablePred ProcVirtualXattrRule.Malformed :=
  fun _ => inferInstanceAs (Decidable (_ ∨ _))

def validateConfig (config : ProcVirtualDispatchConfig) : Except Errno Unit :=
  if config.protectedFds.length > maxProtectedFds ∨ config.xattrRules.length > 2 ^ 32 - 1 ∨
      config.maxIovCount > maxIov then .error .einval
  else
    match validateRanges config.hiddenRanges with
    | .error error => .error error
    | .ok () => if ∃ rule ∈ config.xattrRules, rule.Malformed then .error .einval else .ok ()

end Config

section Xattr

structure XattrCall where
  list : Bool
  fdForm : Bool
  follows : Bool
  fd : ℤ
  pathArgumentIndex : ℕ
  remotePath : UInt64
  remoteName : UInt64
  remoteOutput : UInt64
  outputCapacity : ℕ
  deriving DecidableEq, Repr

def argumentFd (argument : UInt64) : ℤ := (argument.toBitVec.truncate 32).toInt

def decodeXattrCall (syscallNumber : ℤ) (arguments : Fin 6 → UInt64) : Option XattrCall :=
  if syscallNumber = nrGetxattr ∨ syscallNumber = nrLgetxattr then
    some ⟨false, false, syscallNumber = nrGetxattr, 0, 0, arguments 0, arguments 1, arguments 2,
      (arguments 3).toNat⟩
  else if syscallNumber = nrFgetxattr then
    some ⟨false, true, true, argumentFd (arguments 0), invalidArgument, 0, arguments 1, arguments 2,
      (arguments 3).toNat⟩
  else if syscallNumber = nrListxattr ∨ syscallNumber = nrLlistxattr then
    some ⟨true, false, syscallNumber = nrListxattr, 0, 0, arguments 0, 0, arguments 1,
      (arguments 2).toNat⟩
  else if syscallNumber = nrFlistxattr then
    some ⟨true, true, true, argumentFd (arguments 0), invalidArgument, 0, 0, arguments 1,
      (arguments 2).toNat⟩
  else none

def pathPrefixMatches (path : List UInt8) (rule : ProcVirtualXattrRule) : Bool :=
  if rule.pathPrefix = [] then true
  else if path.take rule.pathPrefix.length ≠ rule.pathPrefix then false
  else if rule.flags &&& xattrRuleExactPath ≠ 0 then rule.pathPrefix.length = path.length
  else rule.pathPrefix = [slash] ∨ rule.pathPrefix.length = path.length ∨
    path[rule.pathPrefix.length]? = some slash

def xattrRuleMatchesCall (rule : ProcVirtualXattrRule) (call : XattrCall) (path : List UInt8) :
    Bool :=
  if rule.flags &&& xattrRuleFdOnly ≠ 0 ∧ ¬call.fdForm then false
  else if rule.flags &&& xattrRulePathOnly ≠ 0 ∧ call.fdForm then false
  else if rule.flags &&& xattrRuleFollowOnly ≠ 0 ∧ ¬call.follows then false
  else if rule.flags &&& xattrRuleNoFollowOnly ≠ 0 ∧ (call.fdForm ∨ call.follows) then false
  else pathPrefixMatches path rule

/-- One rule of the search, with its index: a later rule wins with a higher priority, or with a
longer prefix. -/
def keepXattrRule (call : XattrCall) (path name : List UInt8)
    (selected : Option (ProcVirtualXattrRule × ℕ)) (entry : ProcVirtualXattrRule × ℕ) :
    Option (ProcVirtualXattrRule × ℕ) :=
  if entry.1.name ≠ name ∨ ¬xattrRuleMatchesCall entry.1 call path then selected
  else
    match selected with
    | none => some entry
    | some other =>
      if entry.1.priority > other.1.priority ∨ entry.1.priority = other.1.priority ∧
          entry.1.pathPrefix.length > other.1.pathPrefix.length then some entry
      else selected

def selectXattrGetRule (config : ProcVirtualDispatchConfig) (call : XattrCall)
    (path name : List UInt8) : Option (ProcVirtualXattrRule × ℕ) :=
  config.xattrRules.zipIdx.foldl (keepXattrRule call path name) none

def hasXattrListRule (config : ProcVirtualDispatchConfig) (call : XattrCall) (path : List UInt8) :
    Bool :=
  config.xattrRules.any (xattrRuleMatchesCall · call path)

def emulatesXattrList (config : ProcVirtualDispatchConfig) (call : XattrCall) (path : List UInt8) :
    Bool :=
  config.xattrRules.any fun rule =>
    xattrRuleMatchesCall rule call path && rule.flags &&& xattrRuleEmulate ≠ 0

end Xattr

section Table

def isProcTextNode (node : ProcVirtualNodeKind) : Bool :=
  node = .maps ∨ node = .smaps ∨ node = .smapsRollup ∨ node = .attrCurrent

def isProcDirectoryNode (node : ProcVirtualNodeKind) : Bool :=
  node = .rootDirectory ∨ node = .fdDirectory ∨ node = .fdInfoDirectory ∨ node = .mapFilesDirectory

def isReadSyscall (syscallNumber : ℤ) : Bool :=
  syscallNumber = nrRead ∨ syscallNumber = nrPread64 ∨ syscallNumber = nrReadv

structure ProcVirtualPending where
  flags : BitVec 32
  taskSlot : ℕ
  tgid : ℤ
  tid : ℤ
  taskGeneration : UInt64
  configGeneration : UInt64
  syscallNumber : ℤ
  fd : ℤ
  node : ProcVirtualNodeKind
  replayCount : ℕ
  replayDeadlineNs : UInt64
  arguments : Fin 6 → UInt64
  xattrRuleIndex : ℕ
  pathLength : ℕ
  identityPath : List UInt8
  deriving DecidableEq

def zeroPending : ProcVirtualPending where
  flags := 0
  taskSlot := 0
  tgid := 0
  tid := 0
  taskGeneration := 0
  configGeneration := 0
  syscallNumber := 0
  fd := 0
  node := .none
  replayCount := 0
  replayDeadlineNs := 0
  arguments := fun _ => 0
  xattrRuleIndex := 0
  pathLength := 0
  identityPath := List.replicate identityCapacity 0

abbrev dispatchMagic : ℕ := 0x48535056
abbrev dispatchVersion : ℕ := 1

structure ProcVirtualPendingTable where
  magic : ℕ
  version : ℕ
  activeCount : ℕ
  entries : ℕ → ProcVirtualPending

def initProcVirtualPendingTable : ProcVirtualPendingTable where
  magic := dispatchMagic
  version := dispatchVersion
  activeCount := 0
  entries := fun _ => zeroPending

def IsProcVirtualPendingTableInitialized (table : ProcVirtualPendingTable) : Prop :=
  table.magic = dispatchMagic ∧ table.version = dispatchVersion ∧ table.activeCount ≤ taskCapacity

instance : DecidablePred IsProcVirtualPendingTableInitialized :=
  fun _ => inferInstanceAs (Decidable (_ ∧ _))

def ProcVirtualPending.Active (pending : ProcVirtualPending) : Prop :=
  pending.flags &&& pendingActive ≠ 0

instance : DecidablePred ProcVirtualPending.Active := fun _ => inferInstanceAs (Decidable (_ ≠ _))

def clearPendingUnchecked (table : ProcVirtualPendingTable) (taskSlot : ℕ) :
    ProcVirtualPendingTable :=
  { table with
    activeCount :=
      if (table.entries taskSlot).Active ∧ table.activeCount ≠ 0 then table.activeCount - 1
      else table.activeCount
    entries := Function.update table.entries taskSlot zeroPending }

def clearProcVirtualPending (table : ProcVirtualPendingTable) (taskSlot : ℕ) :
    ProcVirtualPendingTable × Except Errno Unit :=
  if ¬IsProcVirtualPendingTableInitialized table ∨ taskSlot ≥ taskCapacity then
    (table, .error .einval)
  else (clearPendingUnchecked table taskSlot, .ok ())

abbrev pendingOperationFlags : BitVec 32 :=
  pendingProcText ||| pendingDirents ||| pendingXattrGet ||| pendingXattrList

abbrev pendingKnownFlags : BitVec 32 := pendingActive ||| pendingOperationFlags ||| pendingEmulated

def ProcVirtualPending.operation (pending : ProcVirtualPending) : BitVec 32 :=
  pending.flags &&& pendingOperationFlags

def ProcVirtualPending.ValidXattr (pending : ProcVirtualPending) : Prop :=
  match decodeXattrCall pending.syscallNumber pending.arguments with
  | none => False
  | some call =>
    ¬(pending.operation = pendingXattrGet ∧
      (call.list ∨ pending.xattrRuleIndex = invalidRule)) ∧
    ¬(pending.operation = pendingXattrList ∧
      (¬call.list ∨ pending.xattrRuleIndex ≠ invalidRule))

instance (pending : ProcVirtualPending) : Decidable pending.ValidXattr :=
  match h : decodeXattrCall pending.syscallNumber pending.arguments with
  | none => isFalse (by simp [ProcVirtualPending.ValidXattr, h])
  | some call => decidable_of_iff
      (¬(pending.operation = pendingXattrGet ∧
        (call.list ∨ pending.xattrRuleIndex = invalidRule)) ∧
      ¬(pending.operation = pendingXattrList ∧
        (¬call.list ∨ pending.xattrRuleIndex ≠ invalidRule)))
      (by simp [ProcVirtualPending.ValidXattr, h])

def ProcVirtualPending.Valid (slot : ℕ) (pending : ProcVirtualPending) : Prop :=
  pending.taskSlot = slot ∧ 0 < pending.tgid ∧ 0 < pending.tid ∧
    pending.flags &&& ~~~pendingKnownFlags = 0 ∧ pending.operation ≠ 0 ∧
    pending.operation &&& (pending.operation - 1) = 0 ∧ pending.pathLength < identityCapacity ∧
    pending.identityPath[pending.pathLength]? = some 0 ∧
    0 ∉ pending.identityPath.take pending.pathLength ∧
    ¬(pending.flags &&& pendingEmulated ≠ 0 ∧ pending.operation ≠ pendingXattrGet ∧
      pending.operation ≠ pendingXattrList) ∧
    ¬(pending.operation = pendingProcText ∧
      (¬isReadSyscall pending.syscallNumber ∨ ¬isProcTextNode pending.node ∨ pending.fd < 0)) ∧
    ¬(pending.operation = pendingDirents ∧
      (pending.syscallNumber ≠ nrGetdents64 ∨ ¬isProcDirectoryNode pending.node ∨
        pending.fd < 0)) ∧
    (pending.operation = pendingXattrGet ∨ pending.operation = pendingXattrList →
      pending.ValidXattr)

instance (slot : ℕ) (pending : ProcVirtualPending) : Decidable (pending.Valid slot) :=
  inferInstanceAs (Decidable (_ ∧ _))

def ProcVirtualPending.Accepted (slot : ℕ) (pending : ProcVirtualPending) : Prop :=
  if pending.Active then pending.Valid slot else pending = zeroPending

def ValidateProcVirtualPendingTable (table : ProcVirtualPendingTable) : Prop :=
  IsProcVirtualPendingTableInitialized table ∧
    (∀ slot < taskCapacity, (table.entries slot).Accepted slot) ∧
    tally taskCapacity table.entries ProcVirtualPending.Active = table.activeCount

structure PendingPlan where
  flags : BitVec 32
  fd : ℤ
  node : ProcVirtualNodeKind
  path : List UInt8
  xattrRuleIndex : ℕ
  entryFlags : BitVec 32
  deriving DecidableEq, Repr

def installPending (table : ProcVirtualPendingTable) (config : ProcVirtualDispatchConfig)
    (task : ProcVirtualDispatchTask) (syscallNumber : ℤ) (arguments : Fin 6 → UInt64)
    (plan : PendingPlan) : ProcVirtualPendingTable × Except Errno Unit :=
  if plan.path.length ≥ identityCapacity then (table, .error .enametoolong)
  else
    let pending := table.entries task.taskSlot
    let installed : ProcVirtualPending :=
      { pending with
        flags := plan.flags ||| pendingActive
        taskSlot := task.taskSlot
        tgid := task.tgid
        tid := task.tid
        taskGeneration := task.generation
        configGeneration := config.generation
        syscallNumber
        fd := plan.fd
        node := plan.node
        xattrRuleIndex := plan.xattrRuleIndex
        pathLength := plan.path.length
        arguments
        identityPath := write (write pending.identityPath 0 plan.path) plan.path.length [0]
        replayDeadlineNs :=
          if config.getdentsReplayTimeoutNs ≠ 0 then
            if task.monotonicTimeNs.toNat > uintptrMax - config.getdentsReplayTimeoutNs.toNat then
              .ofNat uintptrMax
            else task.monotonicTimeNs + config.getdentsReplayTimeoutNs
          else pending.replayDeadlineNs }
    ({ table with
      activeCount := table.activeCount + 1
      entries := Function.update table.entries task.taskSlot installed }, .ok ())

end Table

section Entry

variable {σ : Type}

structure ProcVirtualEntryResult where
  flags : BitVec 32
  node : ProcVirtualNodeKind
  pendingSlot : ℕ
  deriving DecidableEq, Repr

def orUnhandled (identity : Host σ (Option PendingPlan)) : Host σ (Option PendingPlan) :=
  tryCatch identity fun error => if missingIdentityError error then pure none else throw error

def planNode (io : ProcVirtualIo σ) (task : ProcVirtualDispatchTask) (syscallNumber fd : ℤ)
    (flags : BitVec 32) (isNode : ProcVirtualNodeKind → Bool) : Host σ (Option PendingPlan) :=
  if fd < 0 then pure none
  else orUnhandled do
    let identity ← resolveIdentityPath io task syscallNumber fd invalidArgument 0 identityCapacity
    match parseProcVirtualPath identity task.tgid task.tid with
    | .error _ => pure none
    | .ok parsed =>
      if isNode parsed.kind then
        pure (some ⟨flags, fd, parsed.kind, identity, invalidRule, entryHandled ||| entryNeedsExit⟩)
      else pure none

def emulatedPlan (plan : PendingPlan) (emulate : Bool) : PendingPlan :=
  if emulate then
    { plan with
      flags := plan.flags ||| pendingEmulated
      entryFlags := plan.entryFlags ||| entrySuppress }
  else plan

def planXattr (config : ProcVirtualDispatchConfig) (io : ProcVirtualIo σ)
    (task : ProcVirtualDispatchTask) (syscallNumber : ℤ) (call : XattrCall) :
    Host σ (Option PendingPlan) := do
  let fd := if call.fdForm then call.fd else -1
  let found ← tryCatch
    (some <$> resolveIdentityPath io task syscallNumber fd call.pathArgumentIndex call.remotePath
      identityCapacity)
    fun error => if missingIdentityError error then pure none else throw error
  match found with
  | none => pure none
  | some identity =>
    let plan : PendingPlan := ⟨0, fd, .none, identity, invalidRule, entryHandled ||| entryNeedsExit⟩
    if call.list then
      if hasXattrListRule config call identity then
        pure (some (emulatedPlan { plan with flags := pendingXattrList }
          (emulatesXattrList config call identity)))
      else pure none
    else
      let name ← readRemoteCString io task call.remoteName (xattrNameMax + 1)
      match selectXattrGetRule config call identity name with
      | none => pure none
      | some (rule, index) =>
        pure (some (emulatedPlan { plan with flags := pendingXattrGet, xattrRuleIndex := index }
          (rule.flags &&& xattrRuleEmulate ≠ 0)))

def planEntry (config : ProcVirtualDispatchConfig) (io : ProcVirtualIo σ)
    (task : ProcVirtualDispatchTask) (syscallNumber : ℤ) (arguments : Fin 6 → UInt64) :
    Host σ (Option PendingPlan) :=
  if isReadSyscall syscallNumber then
    if io.snapshot.isNone then pure none
    else planNode io task syscallNumber (argumentFd (arguments 0)) pendingProcText isProcTextNode
  else if syscallNumber = nrGetdents64 then
    planNode io task syscallNumber (argumentFd (arguments 0)) pendingDirents isProcDirectoryNode
  else
    match decodeXattrCall syscallNumber arguments with
    | none => pure none
    | some call =>
      if config.xattrRules.length = 0 then pure none
      else planXattr config io task syscallNumber call

def dispatchProcVirtualEntry (config : ProcVirtualDispatchConfig) (io : ProcVirtualIo σ)
    (table : ProcVirtualPendingTable) (task : ProcVirtualDispatchTask) (syscallNumber : ℤ)
    (arguments : Fin 6 → UInt64) (host : σ) :
    (ProcVirtualPendingTable × Except Errno ProcVirtualEntryResult) × σ :=
  if ¬IsProcVirtualPendingTableInitialized table ∨ task.taskSlot ≥ taskCapacity ∨ task.tgid ≤ 0 ∨
      task.tid ≤ 0 then ((table, .error .einval), host)
  else
    match validateConfig config with
    | .error error => ((table, .error error), host)
    | .ok () =>
      let table := clearPendingUnchecked table task.taskSlot
      match (planEntry config io task syscallNumber arguments).run host with
      | (.error error, host) => ((table, .error error), host)
      | (.ok none, host) => ((table, .ok ⟨0, .none, invalidRule⟩), host)
      | (.ok (some plan), host) =>
        match installPending table config task syscallNumber arguments plan with
        | (table, .error error) => ((table, .error error), host)
        | (table, .ok ()) => ((table, .ok ⟨plan.entryFlags, plan.node, task.taskSlot⟩), host)

end Entry

end HookSelf.ProcVirtual
