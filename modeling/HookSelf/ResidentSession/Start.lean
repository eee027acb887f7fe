import HookSelf.Limits
import HookSelf.ResidentSession.Host
import HookSelf.Seccomp.Plan

/-! `StartResidentSession` of `controller.inc`. The pointers are not null; of the shared page only
what is read back is kept. -/

namespace HookSelf.ResidentSession

open Scripted RawSyscall Config Seccomp

structure ResidentSessionController where
  tracerPid : Int
  controlEventFd : Int
  statusReadFd : Int
  originalDumpable : Int
  ptracerConfigured : Bool
  logicalDumpable : Int
  logicalPtracer : Int
  logicalPtracerStartTime : Nat
  ptraceViewEnabled : Bool
  selectiveCommitted : Bool
  selectivePassthrough : Bool
  controlEventIdentity : FdObjectIdentity
  statusReadIdentity : FdObjectIdentity
deriving DecidableEq

/-- Whether `ValidateSharedSession` accepts the mapping, and whether the parts used are there. -/
structure SharedSessionMapping where
  valid : Bool
  control : Bool
  header : Bool

abbrev Started : Type := HookselfResult × ResidentSessionController

def kReapTimeoutMs : Nat := 2000
def kDefaultStopTimeoutMs : Nat := 5000
def kStartTimeoutMs : Nat := 12000
def kStatusReady : Char := 'R'
def kStatusInstallReady : Char := 'I'
def stateRunningSelective : Nat := 5
def kWorldStopped : Nat := 2
def kCommitted : Nat := 6
def int32Max : Int := 2147483647

section Checks

def configurationSupported (config : HookselfConfig) : HookselfResult :=
  if config.backend ≠ backendForkRaw then .notImplemented
  else if config.flags &&& enableNestedPtrace ≠ 0 ∧ (config.flags &&& enablePtraceView = 0 ∨
      config.flags &&& traceDescendants = 0 ∨ config.flags &&& enableSelectiveSeccomp ≠ 0 ∨
      config.failureMode ≠ failureFailClosed) then .invalidArgument
  else if config.flags &&& enableSelectiveSeccomp ≠ 0 ∧ (config.flags &&& observeAll ≠ 0 ∨
      config.flags &&& traceDescendants = 0 ∨ config.failureMode ≠ failureFailClosed) then
    .invalidArgument
  else if config.flags &&& (enablePathRedirect ||| enableVirtualFiles ||| enablePtraceView |||
      enableProcVirtualView) ≠ 0 ∧ config.failureMode ≠ failureFailClosed then .invalidArgument
  else if ∃ rule ∈ config.pathRules.items, rule.action ≠ pathPass ∧ rule.action ≠ pathRedirect ∧
      rule.action ≠ pathDeny then .notImplemented
  else if ∃ rule ∈ config.syscallRules.items, rule.action < syscallPass ∨
      syscallReplaceArgument < rule.action ∨
      syscallObserve < rule.action ∧ config.failureMode ≠ failureFailClosed then .invalidArgument
  else .ok

def planResult : Errno → HookselfResult
  | .e2big => .capacity
  | .eopnotsupp | .enosys => .unsupported
  | .einval | .eprotonosupport => .invalidArgument
  | _ => .internal

def selectiveRequested (config : HookselfConfig) : Prop :=
  config.flags &&& enableSelectiveSeccomp ≠ 0

instance (config : HookselfConfig) : Decidable (selectiveRequested config) :=
  inferInstanceAs (Decidable (_ ≠ _))

def selectivePlan (config : HookselfConfig) : Except HookselfResult (Option SelectiveSeccompPlan) :=
  if selectiveRequested config then
    match buildSelectiveSeccompPlan (some config) with
    | .ok plan => .ok (some plan)
    | .error code => .error (planResult code)
  else .ok none

def setProtectedFdRegistry (mapping : SharedSessionMapping) (fds : List Int) :
    Except HookselfResult (List Int) :=
  if fds.length > kMaxProtectedFds then .error .invalidArgument
  else if mapping.control = false then .error .internal
  else .ok (fds.foldl (fun written fd =>
    if fd < 0 ∨ fd ∈ written then written else written ++ [fd]) [])

def appendProtectedFd (mapping : SharedSessionMapping) (registry : List Int) (fd : Int) :
    Except HookselfResult (List Int) :=
  if fd < 0 then .error .invalidArgument
  else if mapping.control = false ∨ registry.length > kMaxProtectedFds then .error .internal
  else if fd ∈ registry then .ok registry
  else if registry.length = kMaxProtectedFds then .error .capacity
  else .ok (registry ++ [fd])

def registerProtectedFds (mapping : SharedSessionMapping) (protectedFds : List Int)
    (controlFd statusRead : Int) : Except HookselfResult (List Int) := do
  let registry ← setProtectedFdRegistry mapping protectedFds
  let registry ← appendProtectedFd mapping registry controlFd
  appendProtectedFd mapping registry statusRead

end Checks

section Installer

def installSelectiveSeccompFilter (filter : SelectiveSeccompFilter) : Call Nat :=
  match validateFilter filter with
  | .error .eexist => pure eexist
  | .error _ => pure einval
  | .ok () => do
    let (result, _) ← plainCall
    pure (if rawError result ≠ 0 then rawError result
      else if result = 0 then 0
      else if 0 < result ∧ result ≤ int32Max then ebusy else eio)

def setNoNewPrivs (nnpError : Nat) (nnpBefore : Int) : Call Nat :=
  if nnpError = 0 ∧ nnpBefore = 0 then do
    let (result, errno) ← plainCall
    pure (if result ≠ 0 then errno else nnpError)
  else pure nnpError

def runSelectiveInstallerOwner (plan : SelectiveSeccompPlan) : Call Nat := do
  let view ← observe
  let (tid, _) ← plainCall
  if ¬(view.sequence ≠ 0 ∧ rawError tid = 0 ∧ tid = view.installerTid ∧
      view.planHash = plan.syscallSetHash ∧ view.state = kWorldStopped) then pure eproto
  else do
    let (nnpBefore, nnpErrno) ← plainCall
    let nnpError ← setNoNewPrivs (if nnpBefore < 0 then nnpErrno else 0) nnpBefore
    let nnpError := if nnpError = 0 ∧ nnpBefore ≠ 0 ∧ nnpBefore ≠ 1 then eproto else nnpError
    if nnpError = 0 then installSelectiveSeccompFilter plan.filter else pure nnpError

end Installer

structure Channels where
  controlFd : Int
  controlIdentity : FdObjectIdentity
  statusRead : Int
  statusReadIdentity : FdObjectIdentity
  statusWrite : Int
  statusWriteIdentity : FdObjectIdentity

structure Starting where
  config : HookselfConfig
  plan : Option SelectiveSeccompPlan
  controller : ResidentSessionController
  originalDumpable : Int
  channels : Channels

section Stages

def Channels.closeControl (channels : Channels) : Restore :=
  .close channels.controlFd channels.controlIdentity

def Channels.closeRead (channels : Channels) : Restore :=
  .close channels.statusRead channels.statusReadIdentity

def Channels.closeWrite (channels : Channels) : Restore :=
  .close channels.statusWrite channels.statusWriteIdentity

def giveUp (code : HookselfResult) (controller : ResidentSessionController)
    (restores : List Restore) : Call Started := do
  cleanUp restores
  pure (code, controller)

def restoreMask (previousMask : Option (BitVec 64)) : List Restore :=
  previousMask.elim [] fun mask => [.signalMask mask]

def restorePtracer (configured : Bool) : List Restore := if configured then [.ptracer] else []

def awaitReady (start : Starting) : Call (Nat × Char × Nat) := do
  let (waitError, childStatus) ← waitForStatusByte start.channels.statusRead kStartTimeoutMs
    (Char.ofNat 0)
  match start.plan with
  | none => pure (waitError, childStatus, 0)
  | some plan =>
    if waitError = 0 ∧ childStatus = kStatusInstallReady then do
      let installerError ← runSelectiveInstallerOwner plan
      let (waitError, childStatus) ← waitForStatusByte start.channels.statusRead kStartTimeoutMs
        (Char.ofNat 0)
      pure (waitError, childStatus, installerError)
    else pure (waitError, childStatus, 0)

def selectiveCommitVerified (start : Starting) : Call Bool :=
  match start.plan with
  | none => pure true
  | some _ => do
    let view ← observe
    pure (view.ackSequence = view.sequence ∧ view.state = kCommitted ∧ view.policyEnabled = 1 ∧
      view.filterCommitted = 1)

def reapStopped (childPid : Int) (waitError : Nat) : Call Nat := do
  let reapError ← reapTracer childPid (waitError ≠ 0) kReapTimeoutMs
  if reapError = etimedout then reapTracer childPid true kReapTimeoutMs else pure reapError

def unblockSignals (previousMask : Option (BitVec 64)) : Call Bool :=
  previousMask.elim (pure true) fun mask => attempt .unblocking (.signalMask mask)

def startedController (start : Starting) (childPid : Int) (configured : Bool) :
    ResidentSessionController :=
  { tracerPid := childPid
    controlEventFd := start.channels.controlFd
    statusReadFd := start.channels.statusRead
    originalDumpable := start.originalDumpable
    ptracerConfigured := configured
    logicalDumpable := start.originalDumpable
    logicalPtracer := 0
    logicalPtracerStartTime := 0
    ptraceViewEnabled := start.config.flags &&& enablePtraceView ≠ 0
    selectiveCommitted := start.plan.isSome
    selectivePassthrough := false
    controlEventIdentity := start.channels.controlIdentity
    statusReadIdentity := start.channels.statusReadIdentity }

def finishStart (start : Starting) (previousMask : Option (BitVec 64)) (childPid : Int)
    (configured : Bool) : Call Started := do
  let (waitError, childStatus, installerError) ← awaitReady start
  let verified ← selectiveCommitVerified start
  if waitError ≠ 0 ∨ childStatus ≠ kStatusReady ∨ verified = false then do
    let reapError ← reapStopped childPid waitError
    giveUp (if reapError ≠ 0 then .internal else if waitError = etimedout then .busy
        else if installerError = e2big then .capacity else .unsupported) start.controller
      (start.channels.closeRead :: start.channels.closeControl :: restorePtracer configured ++
        restoreMask previousMask ++ [.dumpable start.originalDumpable])
  else do
    let unblocked ← unblockSignals previousMask
    if unblocked = false then do
      let _ ← reapTracer childPid true kReapTimeoutMs
      giveUp .internal start.controller [start.channels.closeRead, start.channels.closeControl,
        .dumpable start.originalDumpable]
    else pure (.ok, startedController start childPid configured)

/-- The child never comes back from `RunTracerChild`. -/
def forkTracer (start : Starting) (previousMask : Option (BitVec 64)) : Call Started := do
  let (cloned, _) ← plainCall
  let childPid := if rawError cloned = 0 then cloned else -1
  if childPid = 0 then stuck
  else do
    let _ ← attempt .descriptors start.channels.closeWrite
    if childPid < 0 then
      giveUp .internal start.controller (start.channels.closeRead :: start.channels.closeControl ::
        restoreMask previousMask ++ [.dumpable start.originalDumpable])
    else do
      let configured ← setPtracer childPid
      let (written, _) ← plainCall
      if written ≠ 8 then do
        let _ ← reapTracer childPid true kReapTimeoutMs
        giveUp .internal start.controller
          (start.channels.closeRead :: start.channels.closeControl :: restorePtracer configured ++
            restoreMask previousMask ++ [.dumpable start.originalDumpable])
      else finishStart start previousMask childPid configured

def Starting.closeAll (start : Starting) : List Restore :=
  [start.channels.closeRead, start.channels.closeWrite, start.channels.closeControl,
    .dumpable start.originalDumpable]

def blockSignals (start : Starting) : Call Started :=
  match start.plan with
  | none => forkTracer start none
  | some _ => do
    let (blocked, previousMask) ← setSignalMask (BitVec.allOnes 64)
    if blocked = false then giveUp .internal start.controller start.closeAll
    else forkTracer start (some previousMask)

def publishStart (mapping : SharedSessionMapping) (protectedFds : List Int) (start : Starting) :
    Call Started :=
  match registerProtectedFds mapping protectedFds start.channels.controlFd
      start.channels.statusRead with
  | .error code => giveUp code start.controller start.closeAll
  | .ok _ => do
    let (tid, _) ← plainCall
    if mapping.control = false ∨ mapping.header = false ∨ rawError tid ≠ 0 ∨ tid ≤ 0 ∨
        int32Max < tid then giveUp .internal start.controller start.closeAll
    else blockSignals start

def capturePipe (statusRead statusWrite : Int) :
    Call (Except Nat (FdObjectIdentity × FdObjectIdentity)) := do
  match ← captureRawFdObjectIdentity statusRead with
  | .error code => pure (.error code)
  | .ok readIdentity =>
    match ← captureRawFdObjectIdentity statusWrite with
    | .error code => pure (.error code)
    | .ok writeIdentity => pure (.ok (readIdentity, writeIdentity))

def openPipe (mapping : SharedSessionMapping) (protectedFds : List Int) (config : HookselfConfig)
    (plan : Option SelectiveSeccompPlan) (controller : ResidentSessionController)
    (originalDumpable controlFd : Int) (controlIdentity : FdObjectIdentity) : Call Started := do
  match ← pipe2 with
  | none =>
    giveUp .internal controller [.close controlFd controlIdentity, .dumpable originalDumpable]
  | some (statusRead, statusWrite) =>
    match ← capturePipe statusRead statusWrite with
    | .error _ =>
      giveUp .internal controller [.closeRaw statusRead, .closeRaw statusWrite,
        .close controlFd controlIdentity, .dumpable originalDumpable]
    | .ok (readIdentity, writeIdentity) =>
      publishStart mapping protectedFds
        ⟨config, plan, controller, originalDumpable,
          ⟨controlFd, controlIdentity, statusRead, readIdentity, statusWrite, writeIdentity⟩⟩

def openControl (mapping : SharedSessionMapping) (protectedFds : List Int) (config : HookselfConfig)
    (plan : Option SelectiveSeccompPlan) (controller : ResidentSessionController)
    (originalDumpable : Int) : Call Started := do
  let controlFd ← eventfd
  if controlFd < 0 then giveUp .internal controller [.dumpable originalDumpable]
  else
    match ← captureRawFdObjectIdentity controlFd with
    | .error _ =>
      giveUp .internal controller [.closeRaw controlFd, .dumpable originalDumpable]
    | .ok controlIdentity =>
      openPipe mapping protectedFds config plan controller originalDumpable controlFd
        controlIdentity

def raiseDumpable (originalDumpable : Int) : Call Bool :=
  if originalDumpable ≠ 1 then setDumpable 1 else pure true

def startTracer (mapping : SharedSessionMapping) (protectedFds : List Int) (config : HookselfConfig)
    (plan : Option SelectiveSeccompPlan) (controller : ResidentSessionController) :
    Call Started := do
  let originalDumpable ← getDumpable
  if originalDumpable < 0 then pure (.internal, controller)
  else if originalDumpable ≠ 0 ∧ originalDumpable ≠ 1 then pure (.unsupported, controller)
  else do
    let raised ← raiseDumpable originalDumpable
    if raised = false then pure (.unsupported, controller)
    else openControl mapping protectedFds config plan controller originalDumpable

end Stages

section Resume

def writeRounds : Nat → Call Int
  | 0 => stuck
  | rounds + 1 => do
    let (written, errno) ← plainCall
    if written < 0 ∧ errno = eintr then writeRounds rounds else pure written

def checkController (controller : ResidentSessionController) : Call Bool := do
  let controlError ← checkFdObjectIdentity controller.controlEventFd controller.controlEventIdentity
  if controlError ≠ 0 then pure false
  else do
    let statusError ← checkFdObjectIdentity controller.statusReadFd controller.statusReadIdentity
    pure (statusError = 0)

/-- A tracer that passes every call through is told to apply the rules again. -/
def resumeSession (config : HookselfConfig) (mapping : SharedSessionMapping)
    (controller : ResidentSessionController) : Call Started :=
  if controller.selectiveCommitted = false ∨ controller.selectivePassthrough = false ∨
      ¬selectiveRequested config ∨ controller.controlEventFd < 0 ∨ controller.statusReadFd < 0 then
    pure (.invalidState, controller)
  else do
    let held ← checkController controller
    if held = false then pure (.invalidState, controller)
    else if mapping.control = false then pure (.internal, controller)
    else do
      let (owner, _) ← plainCall
      if rawError owner ≠ 0 ∨ owner ≤ 0 ∨ int32Max < owner then pure (.internal, controller)
      else do
        let command ← observe
        let written ← looped writeRounds
        if written ≠ 8 then pure (.internal, controller)
        else do
          let (waitError, status) ← waitForStatusByte controller.statusReadFd kDefaultStopTimeoutMs
            (Char.ofNat 0)
          let view ← observe
          if waitError ≠ 0 ∨ status ≠ kStatusReady ∨
              view.tracerAckSequence ≠ command.parentCommandSequence ∨
              view.tracerState ≠ stateRunningSelective ∨ view.policyEnabled = 0 then
            pure (if waitError = etimedout then .busy else .internal, controller)
          else pure (.ok, { controller with selectivePassthrough := false })

end Resume

def startResidentSession (config : HookselfConfig) (mapping : SharedSessionMapping)
    (controller : ResidentSessionController) (protectedFds : List Int) : Call Started :=
  if mapping.valid = false then pure (.invalidArgument, controller)
  else if 0 < controller.tracerPid then resumeSession config mapping controller
  else if configurationSupported config ≠ .ok then pure (configurationSupported config, controller)
  else
    match selectivePlan config with
    | .error code => pure (code, controller)
    | .ok plan => startTracer mapping protectedFds config plan controller

end HookSelf.ResidentSession
