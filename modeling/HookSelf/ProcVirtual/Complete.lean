import HookSelf.ProcVirtual.Dirents
import HookSelf.ProcVirtual.Dispatch

namespace HookSelf.ProcVirtual

open LittleEndian ProcText

variable {σ : Type}

section Result

abbrev exitHandled : BitVec 32 := 1
abbrev exitWriteResult : BitVec 32 := 2
abbrev exitResultWritten : BitVec 32 := 4
abbrev exitReplay : BitVec 32 := 8
abbrev exitOutputPatched : BitVec 32 := 16

abbrev int64Max : ℕ := 2 ^ 63 - 1

abbrev enodataNumber : ℤ := 61
abbrev erangeNumber : ℤ := 34
abbrev enotsupNumber : ℤ := 95

structure ProcVirtualExitResult where
  flags : BitVec 32
  node : ProcVirtualNodeKind
  visibleResult : ℤ
  replaySyscallNumber : ℤ
  replayCount : ℕ
  instructionRewindBytes : ℕ
  replayArguments : Fin 6 → UInt64
  bytesRead : ℕ
  bytesWritten : ℕ
  recordsSeen : ℕ
  recordsHidden : ℕ
  mappingsSeen : ℕ
  mappingsHidden : ℕ
  pathsRewritten : ℕ
  xattrNamesSeen : ℕ
  xattrNamesEmitted : ℕ
  deriving DecidableEq

def untouchedResult (flags : BitVec 32) (node : ProcVirtualNodeKind) (kernelResult : ℤ) :
    ProcVirtualExitResult where
  flags
  node
  visibleResult := kernelResult
  replaySyscallNumber := 0
  replayCount := 0
  instructionRewindBytes := 0
  replayArguments := fun _ => 0
  bytesRead := 0
  bytesWritten := 0
  recordsSeen := 0
  recordsHidden := 0
  mappingsSeen := 0
  mappingsHidden := 0
  pathsRewritten := 0
  xattrNamesSeen := 0
  xattrNamesEmitted := 0

def commitVisibleResult (io : ProcVirtualIo σ) (task : ProcVirtualDispatchTask)
    (kernelResult visibleResult : ℤ) (forceWrite : Bool) (result : ProcVirtualExitResult) :
    Host σ ProcVirtualExitResult :=
  let result := { result with visibleResult }
  if ¬forceWrite ∧ visibleResult = kernelResult then pure result
  else
    let result := { result with flags := result.flags ||| exitWriteResult }
    match io.writeSyscallResult with
    | none => pure result
    | some writeSyscallResult => do
      writeSyscallResult task visibleResult
      pure { result with flags := result.flags ||| exitResultWritten }

def ProcVirtualPending.Emulated (pending : ProcVirtualPending) : Prop :=
  pending.flags &&& pendingEmulated ≠ 0

instance : DecidablePred ProcVirtualPending.Emulated :=
  fun _ => inferInstanceAs (Decidable (_ ≠ _))

end Result

section Vectors

def effectiveMaxIov (config : ProcVirtualDispatchConfig) : ℕ :=
  if config.maxIovCount = 0 then maxIov else config.maxIovCount

abbrev iovecSize : ℕ := 16

def readRemoteIovec (io : ProcVirtualIo σ) (task : ProcVirtualDispatchTask)
    (pending : ProcVirtualPending) (index : ℕ) : Host σ (UInt64 × ℕ) :=
  if index > uintptrMax / iovecSize ∨
      (pending.arguments 1).toNat > uintptrMax - index * iovecSize then throw .eoverflow
  else do
    let vector ← readRemote io task (pending.arguments 1 + .ofNat (index * iovecSize)) iovecSize
    pure (.ofNat (number (vector.take 8)), number (vector.drop 8))

def sumVectors (io : ProcVirtualIo σ) (task : ProcVirtualDispatchTask)
    (pending : ProcVirtualPending) : ℕ → ℕ → ℕ → Host σ ℕ
  | 0, _, total => pure total
  | rounds + 1, index, total => do
    let (base, length) ← readRemoteIovec io task pending index
    if length ≠ 0 ∧ (base = 0 ∨ base.toNat > uintptrMax - (length - 1)) then throw .eoverflow
    else
      match addSize total length with
      | none => throw .eoverflow
      | some total => sumVectors io task pending rounds (index + 1) total

def requestedReadSize (config : ProcVirtualDispatchConfig) (io : ProcVirtualIo σ)
    (task : ProcVirtualDispatchTask) (pending : ProcVirtualPending) : Host σ ℕ :=
  if pending.syscallNumber = nrRead ∨ pending.syscallNumber = nrPread64 then
    pure (pending.arguments 2).toNat
  else if pending.syscallNumber ≠ nrReadv then throw .einval
  else if (pending.arguments 2).toNat > effectiveMaxIov config then throw .einval
  else sumVectors io task pending (pending.arguments 2).toNat 0 0

def scatterVectors (io : ProcVirtualIo σ) (task : ProcVirtualDispatchTask)
    (pending : ProcVirtualPending) : ℕ → ℕ → List UInt8 → Host σ Unit
  | 0, _, remaining => if remaining = [] then pure () else throw .eproto
  | rounds + 1, index, remaining =>
    if remaining = [] then pure ()
    else do
      let (base, length) ← readRemoteIovec io task pending index
      writeRemote io task base (remaining.take length)
      scatterVectors io task pending rounds (index + 1) (remaining.drop length)

def scatterReadOutput (config : ProcVirtualDispatchConfig) (io : ProcVirtualIo σ)
    (task : ProcVirtualDispatchTask) (pending : ProcVirtualPending) (input : List UInt8) :
    Host σ Unit :=
  if input.length = 0 then pure ()
  else if pending.syscallNumber = nrRead ∨ pending.syscallNumber = nrPread64 then
    writeRemote io task (pending.arguments 1) input
  else if pending.syscallNumber ≠ nrReadv then throw .einval
  else if (pending.arguments 2).toNat > effectiveMaxIov config then throw .einval
  else scatterVectors io task pending (pending.arguments 2).toNat 0 input

end Vectors

section Text

def requestSnapshot (config : ProcVirtualDispatchConfig) (io : ProcVirtualIo σ)
    (request : ProcVirtualSnapshotRequest) : Host σ (List UInt8 × UInt64) :=
  match io.snapshot with
  | none => throw .enosys
  | some snapshot =>
    if config.snapshotBuffer.length = 0 then throw .enospc
    else do
      let (data, size, logicalOffset) ← snapshot request config.snapshotBuffer.length
      if size ≤ config.snapshotBuffer.length then pure (filled size data, logicalOffset)
      else throw .eoverflow

def rewriteSnapshot (config : ProcVirtualDispatchConfig) (node : ProcVirtualNodeKind)
    (snapshot : List UInt8) : Except Errno (List UInt8 × ProcTextRewriteResult) :=
  let options : ProcTextRewriteOptions := ⟨config.hiddenRanges, config.reverseRules⟩
  let rewritten :
      List UInt8 × ProcTextRewriteResult × Except Errno Unit →
        Except Errno (List UInt8 × ProcTextRewriteResult)
    | (_, _, .error error) => .error error
    | (buffer, rewrite, .ok ()) => .ok (buffer.take rewrite.outputSize, rewrite)
  match node with
  | .maps => rewritten (rewriteProcMaps options snapshot config.rewriteBuffer)
  | .smaps => rewritten (rewriteProcSmaps options snapshot config.rewriteBuffer)
  | .smapsRollup | .attrCurrent =>
    if snapshot.length > config.rewriteBuffer.length then .error .enospc
    else .ok (snapshot, ⟨0, 0, 0, 0⟩)
  | _ => .error .einval

def completeProcText (config : ProcVirtualDispatchConfig) (io : ProcVirtualIo σ)
    (task : ProcVirtualDispatchTask) (pending : ProcVirtualPending) (kernelResult : ℤ)
    (result : ProcVirtualExitResult) : Host σ ProcVirtualExitResult :=
  if kernelResult < 0 ∧ ¬pending.Emulated then pure result
  else do
    let requestedSize ← requestedReadSize config io task pending
    let (snapshot, logicalOffset) ← requestSnapshot config io
      { task
        kind := .procText
        node := pending.node
        syscallNumber := pending.syscallNumber
        fd := pending.fd
        requestedOffset :=
          if pending.syscallNumber = nrPread64 then pending.arguments 3 else .ofNat uintptrMax
        requestedSize
        kernelResult
        identityPath := pending.identityPath.take pending.pathLength }
    if pending.syscallNumber = nrPread64 ∧ logicalOffset ≠ pending.arguments 3 then throw .eproto
    else if config.rewriteBuffer.length = 0 then throw .enospc
    else
      let (text, rewrite) ← MonadExcept.ofExcept (rewriteSnapshot config pending.node snapshot)
      let effectiveOffset := min logicalOffset.toNat text.length
      let visible := (text.drop effectiveOffset).take requestedSize
      if visible.length > int64Max then throw .eoverflow
      else
        scatterReadOutput config io task pending visible
        commitVisibleResult io task kernelResult visible.length pending.Emulated
          { result with
            bytesRead := snapshot.length
            bytesWritten := visible.length
            mappingsSeen := rewrite.mappingsSeen
            mappingsHidden := rewrite.mappingsHidden
            pathsRewritten := rewrite.pathsRewritten
            flags :=
              if visible.length ≠ 0 ∨ visible.length ≠ kernelResult.toNat then
                result.flags ||| exitOutputPatched
              else result.flags }

end Text

section Directories

def effectiveMaxReplays (config : ProcVirtualDispatchConfig) : ℕ :=
  if config.maxGetdentsReplays = 0 then defaultDirentReplays else config.maxGetdentsReplays

def appendUniqueFd (capacity : ℕ) (output : List ℤ) (fd : ℤ) : Except Errno (List ℤ) :=
  if fd ∈ output then .ok output
  else if output.length ≥ capacity then .error .enospc
  else .ok (output ++ [fd])

def snapshotProtectedFds (config : ProcVirtualDispatchConfig) (io : ProcVirtualIo σ)
    (task : ProcVirtualDispatchTask) (capacity : ℕ) : Host σ (List ℤ) := do
  let output ← MonadExcept.ofExcept (config.protectedFds.foldlM (appendUniqueFd capacity) [])
  match io.snapshotProtectedFds with
  | none => pure output
  | some snapshot =>
    let (dynamic, count) ← snapshot task maxProtectedFds
    if count > maxProtectedFds then throw .eoverflow
    else
      MonadExcept.ofExcept
        (((dynamic ++ List.replicate maxProtectedFds 0).take count).foldlM (appendUniqueFd capacity)
          output)

/-- A batch whose records are all hidden is asked for again, with the pending call counting that. -/
def replayDirents (config : ProcVirtualDispatchConfig) (task : ProcVirtualDispatchTask)
    (pending : ProcVirtualPending) (result : ProcVirtualExitResult) :
    Except Errno (ProcVirtualExitResult × ProcVirtualPending) :=
  if pending.replayCount ≥ effectiveMaxReplays config then .error .eloop
  else if pending.replayDeadlineNs ≠ 0 ∧ task.monotonicTimeNs ≠ 0 ∧
      task.monotonicTimeNs > pending.replayDeadlineNs then .error .etimedout
  else
    .ok ({ result with
      flags := result.flags ||| exitReplay
      visibleResult := 0
      replaySyscallNumber := pending.syscallNumber
      replayCount := pending.replayCount + 1
      instructionRewindBytes := 4
      replayArguments := pending.arguments },
      { pending with replayCount := pending.replayCount + 1 })

def finishDirents (config : ProcVirtualDispatchConfig) (io : ProcVirtualIo σ)
    (task : ProcVirtualDispatchTask) (pending : ProcVirtualPending) (kernelResult : ℤ)
    (buffer : List UInt8) (compact : ProcDirentCompactResult) (result : ProcVirtualExitResult) :
    Host σ (ProcVirtualExitResult × ProcVirtualPending) :=
  if compact.allHidden then MonadExcept.ofExcept (replayDirents config task pending result)
  else do
    writeRemote io task (pending.arguments 1) (buffer.take compact.visibleSize)
    let result ← commitVisibleResult io task kernelResult compact.visibleSize false
      { result with
        bytesWritten := compact.visibleSize
        flags :=
          if compact.recordsHidden ≠ 0 then result.flags ||| exitOutputPatched else result.flags }
    pure (result, pending)

def completeDirents (config : ProcVirtualDispatchConfig) (io : ProcVirtualIo σ)
    (task : ProcVirtualDispatchTask) (pending : ProcVirtualPending) (kernelResult : ℤ)
    (result : ProcVirtualExitResult) : Host σ (ProcVirtualExitResult × ProcVirtualPending) :=
  if kernelResult ≤ 0 then pure (result, pending)
  else if kernelResult.toNat > (pending.arguments 2).toNat ∨
      kernelResult.toNat > config.snapshotBuffer.length then throw .eoverflow
  else do
    let batch ← readRemote io task (pending.arguments 1) kernelResult.toNat
    let protectedFds ← snapshotProtectedFds config io task maxProtectedFds
    match compactProcDirents64 batch
      ⟨pending.node, config.tracerPid, protectedFds, config.hiddenRanges⟩ with
    | (_, .error error) => throw error
    | (buffer, .ok compact) =>
      finishDirents config io task pending kernelResult buffer compact
        { result with
          bytesRead := kernelResult.toNat
          recordsSeen := compact.recordsSeen
          recordsHidden := compact.recordsHidden }

end Directories

section Attributes

def completeXattrGet (config : ProcVirtualDispatchConfig) (io : ProcVirtualIo σ)
    (task : ProcVirtualDispatchTask) (pending : ProcVirtualPending) (kernelResult : ℤ)
    (result : ProcVirtualExitResult) : Host σ ProcVirtualExitResult :=
  match config.xattrRules[pending.xattrRuleIndex]? with
  | none => throw .estale
  | some rule =>
    if ¬pending.Emulated ∧ kernelResult < 0 ∧ kernelResult ≠ -enodataNumber ∧
        kernelResult ≠ -erangeNumber ∧ kernelResult ≠ -enotsupNumber then pure result
    else
      match decodeXattrCall pending.syscallNumber pending.arguments with
      | none => throw .eproto
      | some call =>
        if call.list then throw .eproto
        else
          let resultSize := (applyXattrGetOverlay rule.value [] 0).2.1
          let commit := fun visibleResult result =>
            commitVisibleResult io task kernelResult visibleResult pending.Emulated result
          if resultSize > int64Max then throw .eoverflow
          else if call.outputCapacity ≠ 0 ∧ call.outputCapacity < resultSize then
            commit (-erangeNumber) result
          else if call.outputCapacity ≠ 0 ∧ resultSize ≠ 0 then
            if config.rewriteBuffer.length < resultSize then throw .enospc
            else
              match applyXattrGetOverlay rule.value config.rewriteBuffer
                config.rewriteBuffer.length with
              | (_, _, .error error) => throw error
              | (buffer, size, .ok ()) => do
                writeRemote io task call.remoteOutput (buffer.take size)
                commit resultSize
                  { result with bytesWritten := size, flags := result.flags ||| exitOutputPatched }
          else commit resultSize result

def nativeXattrList (config : ProcVirtualDispatchConfig) (io : ProcVirtualIo σ)
    (task : ProcVirtualDispatchTask) (pending : ProcVirtualPending) (call : XattrCall)
    (kernelResult : ℤ) : Host σ (List UInt8) :=
  if pending.Emulated ∨ (call.outputCapacity = 0 ∧ kernelResult.toNat ≠ 0) then do
    let (snapshot, logicalOffset) ← requestSnapshot config io
      { task
        kind := .xattrList
        node := .none
        syscallNumber := pending.syscallNumber
        fd := pending.fd
        requestedOffset := 0
        requestedSize := call.outputCapacity
        kernelResult
        identityPath := pending.identityPath.take pending.pathLength }
    if logicalOffset ≠ 0 then throw .eproto else pure snapshot
  else if call.outputCapacity ≠ 0 then
    if kernelResult.toNat > call.outputCapacity ∨
        kernelResult.toNat > config.snapshotBuffer.length then throw .eoverflow
    else readRemote io task call.remoteOutput kernelResult.toNat
  else pure []

/-- What the loop over the rules carries. From the first rule on, the input is the start of the
output buffer. -/
structure XattrOverlayState where
  input : List UInt8
  output : List UInt8
  transformed : Bool
  overlay : XattrListOverlayResult
  deriving DecidableEq, Repr

def overlayXattrRule (state : XattrOverlayState) (rule : ProcVirtualXattrRule) :
    Except Errno XattrOverlayState :=
  match applyXattrListOverlay state.input rule.name state.output state.output.length
    state.transformed with
  | (_, _, .error error) => .error (if error = .erange then .enospc else error)
  | (output, overlay, .ok ()) => .ok ⟨output.take overlay.outputSize, output, true, overlay⟩

def overlayXattrRules (config : ProcVirtualDispatchConfig) (call : XattrCall) (path : List UInt8)
    (native : List UInt8) : Except Errno XattrOverlayState :=
  (config.xattrRules.filter (xattrRuleMatchesCall · call path)).foldlM overlayXattrRule
    ⟨native, config.rewriteBuffer, false, ⟨0, 0, 0, false⟩⟩

/-- What the tracee gets of the visible list: the size only for a call without a buffer, and an error
for one with a buffer that is too small. -/
def commitXattrList (io : ProcVirtualIo σ) (task : ProcVirtualDispatchTask)
    (pending : ProcVirtualPending) (call : XattrCall) (kernelResult : ℤ) (visible : List UInt8)
    (result : ProcVirtualExitResult) : Host σ ProcVirtualExitResult :=
  let commit := fun visibleResult result =>
    commitVisibleResult io task kernelResult visibleResult pending.Emulated result
  if call.outputCapacity ≠ 0 ∧ call.outputCapacity < visible.length then
    commit (-erangeNumber) result
  else if call.outputCapacity ≠ 0 ∧ visible.length ≠ 0 then do
    writeRemote io task call.remoteOutput visible
    commit visible.length
      { result with bytesWritten := visible.length, flags := result.flags ||| exitOutputPatched }
  else commit visible.length result

def finishXattrList (config : ProcVirtualDispatchConfig) (io : ProcVirtualIo σ)
    (task : ProcVirtualDispatchTask) (pending : ProcVirtualPending) (call : XattrCall)
    (kernelResult : ℤ) (result : ProcVirtualExitResult) (native : List UInt8) :
    Host σ ProcVirtualExitResult :=
  if config.rewriteBuffer.length = 0 then throw .enospc
  else
    match overlayXattrRules config call (pending.identityPath.take pending.pathLength) native with
    | .error error => throw error
    | .ok state =>
      if ¬state.transformed then throw .eproto
      else if state.input.length > int64Max then throw .eoverflow
      else
        commitXattrList io task pending call kernelResult state.input
          { result with
            bytesRead := native.length
            xattrNamesSeen := state.overlay.namesSeen
            xattrNamesEmitted := state.overlay.namesEmitted }

def completeXattrList (config : ProcVirtualDispatchConfig) (io : ProcVirtualIo σ)
    (task : ProcVirtualDispatchTask) (pending : ProcVirtualPending) (kernelResult : ℤ)
    (result : ProcVirtualExitResult) : Host σ ProcVirtualExitResult :=
  if kernelResult < 0 ∧ ¬pending.Emulated then pure result
  else
    match decodeXattrCall pending.syscallNumber pending.arguments with
    | none => throw .eproto
    | some call =>
      if ¬call.list then throw .eproto
      else
        nativeXattrList config io task pending call kernelResult >>=
          finishXattrList config io task pending call kernelResult result

end Attributes

section Exit

def completePending (config : ProcVirtualDispatchConfig) (io : ProcVirtualIo σ)
    (task : ProcVirtualDispatchTask) (pending : ProcVirtualPending) (kernelResult : ℤ)
    (result : ProcVirtualExitResult) : Host σ (ProcVirtualExitResult × ProcVirtualPending) :=
  if pending.flags &&& pendingProcText ≠ 0 then
    (·, pending) <$> completeProcText config io task pending kernelResult result
  else if pending.flags &&& pendingDirents ≠ 0 then
    completeDirents config io task pending kernelResult result
  else if pending.flags &&& pendingXattrGet ≠ 0 then
    (·, pending) <$> completeXattrGet config io task pending kernelResult result
  else if pending.flags &&& pendingXattrList ≠ 0 then
    (·, pending) <$> completeXattrList config io task pending kernelResult result
  else throw .eproto

def settleExit (table : ProcVirtualPendingTable) (taskSlot : ℕ) :
    Except Errno (ProcVirtualExitResult × ProcVirtualPending) × σ →
      (ProcVirtualPendingTable × Except Errno ProcVirtualExitResult) × σ
  | (.error error, host) => ((clearPendingUnchecked table taskSlot, .error error), host)
  | (.ok (result, pending), host) =>
    let table := { table with entries := Function.update table.entries taskSlot pending }
    if result.flags &&& exitReplay = 0 then
      ((clearPendingUnchecked table taskSlot, .ok result), host)
    else ((table, .ok result), host)

def dispatchProcVirtualExit (config : ProcVirtualDispatchConfig) (io : ProcVirtualIo σ)
    (table : ProcVirtualPendingTable) (task : ProcVirtualDispatchTask) (kernelResult : ℤ)
    (host : σ) : (ProcVirtualPendingTable × Except Errno ProcVirtualExitResult) × σ :=
  if ¬IsProcVirtualPendingTableInitialized table ∨ task.taskSlot ≥ taskCapacity ∨ task.tgid ≤ 0 ∨
      task.tid ≤ 0 then ((table, .error .einval), host)
  else
    match validateConfig config with
    | .error error => ((table, .error error), host)
    | .ok () =>
      let pending := table.entries task.taskSlot
      if ¬pending.Active then ((table, .ok (untouchedResult 0 .none kernelResult)), host)
      else if pending.taskSlot ≠ task.taskSlot ∨ pending.tgid ≠ task.tgid ∨
          pending.tid ≠ task.tid ∨ pending.taskGeneration ≠ task.generation ∨
          pending.configGeneration ≠ config.generation then ((table, .error .estale), host)
      else
        settleExit table task.taskSlot ((completePending config io task pending kernelResult
          (untouchedResult exitHandled pending.node kernelResult)).run host)

end Exit

end HookSelf.ProcVirtual
