import HookSelf.Collections.Script
import HookSelf.RawSyscall

/-! The process a session is started in, and the system calls made on the way. What the kernel
does at each of them, and what the tracer has written to the shared page by then, is the answer to
the call. -/

namespace HookSelf.ResidentSession

open Scripted RawSyscall

structure FdStat where
  device : BitVec 64
  inode : BitVec 64
  rdev : BitVec 64
  type : BitVec 32
deriving DecidableEq

/-- `FdObjectIdentity` of a descriptor the runtime owns, which is not tracked by fdsan. -/
structure FdObjectIdentity where
  stat : FdStat
  valid : Bool
deriving DecidableEq

/-- What a start that fails has to put back. `unblocking` is the signal mask once the tracer is
ready, before the start is known to fail. -/
inductive Part
  | dumpable
  | signalMask
  | unblocking
  | ptracer
  | descriptors
deriving DecidableEq

/-- What the start changes of the process. `unrestored` has the parts that some call failed to put
back; no code reads it. -/
structure Process where
  dumpable : Int
  signalMask : BitVec 64
  ptracer : Option Int
  descriptors : Finset Nat
  object : Nat → FdStat
  unrestored : Finset Part

structure SharedView where
  parentCommandSequence : Nat
  tracerAckSequence : Nat
  tracerState : Nat
  sequence : Nat
  ackSequence : Nat
  planHash : BitVec 64
  installerTid : Int
  state : Nat
  filterCommitted : Nat
  policyEnabled : Nat

structure Answer where
  result : Int
  errno : Nat
  errno_ne_zero : errno ≠ 0
  first : FdStat
  second : FdStat
  byte : Char
  view : SharedView

abbrev Call (α : Type) : Type := Script Process Answer α

section Calls

def getDumpable : Call Int := call fun answer process =>
  (if answer.result < 0 then -1 else process.dumpable, process)

def setDumpable (value : Int) : Call Bool := call fun answer process =>
  if answer.result ≠ 0 then (false, process) else (true, { process with dumpable := value })

def setPtracer (pid : Int) : Call Bool := call fun answer process =>
  if answer.result ≠ 0 then (false, process)
  else (true, { process with ptracer := if pid = 0 then none else some pid })

def setSignalMask (mask : BitVec 64) : Call (Bool × BitVec 64) := call fun answer process =>
  if answer.result ≠ 0 then ((false, 0), process)
  else ((true, process.signalMask), { process with signalMask := mask })

def lowestFree (descriptors : Finset Nat) : Nat :=
  ((List.range (descriptors.card + 1)).find? (· ∉ descriptors)).getD 0

def Process.opened (process : Process) (stat : FdStat) : Process :=
  { process with
    descriptors := insert (lowestFree process.descriptors) process.descriptors
    object := Function.update process.object (lowestFree process.descriptors) stat }

def eventfd : Call Int := call fun answer process =>
  if answer.result < 0 then (-1, process)
  else (lowestFree process.descriptors, process.opened answer.first)

def pipe2 : Call (Option (Int × Int)) := call fun answer process =>
  if answer.result ≠ 0 then (none, process)
  else
    let reading := process.opened answer.first
    (some (lowestFree process.descriptors, lowestFree reading.descriptors),
      reading.opened answer.second)

def fstat (fd : Int) : Call (Except Nat FdStat) := call fun answer process =>
  (if answer.result ≠ 0 then .error answer.errno else .ok (process.object fd.toNat), process)

def close (fd : Int) : Call Nat := call fun answer process =>
  if answer.result ≠ 0 then (answer.errno, process)
  else (0, { process with descriptors := process.descriptors.erase fd.toNat })

def plainCall : Call (Int × Nat) := call fun answer process =>
  ((answer.result, answer.errno), process)

def readByte : Call (Int × Nat × Char) := call fun answer process =>
  ((answer.result, answer.errno, answer.byte), process)

def observe : Call SharedView := call fun answer process => (answer.view, process)

end Calls

section Identity

def captureRawFdObjectIdentity (fd : Int) : Call (Except Nat FdObjectIdentity) :=
  if fd < 0 then pure (.error einval)
  else do
    match ← fstat fd with
    | .error code => pure (.error code)
    | .ok stat => pure (.ok ⟨stat, true⟩)

def checkFdObjectIdentity (fd : Int) (identity : FdObjectIdentity) : Call Nat :=
  if fd < 0 ∨ identity.valid = false then pure einval
  else do
    match ← fstat fd with
    | .error code => pure (if code = ebadf then estale else code)
    | .ok stat => pure (if identity.stat = stat then 0 else estale)

def closeFdObject (fd : Int) (identity : FdObjectIdentity) : Call Nat := do
  let identityError ← checkFdObjectIdentity fd identity
  if identityError ≠ 0 then pure identityError else close fd

def closeOwnedDescriptor (fd : Int) (identity : FdObjectIdentity) : Call Nat :=
  if fd < 0 then pure 0 else closeFdObject fd identity

end Identity

section Loops

def monotonicNanoseconds : Call Int := call fun answer process =>
  (if answer.result < 0 then 0 else answer.result, process)

/-- A loop that calls at least once in each round: the answers left are rounds enough. -/
def looped {α : Type} (rounds : Nat → Call α) : Call α := fun world =>
  rounds world.answers.length world

def stuck {α : Type} : Call α := fun _ => none

def waitRounds (deadline : Int) (status : Char) : Nat → Call (Nat × Char)
  | 0 => stuck
  | rounds + 1 => do
    let now ← monotonicNanoseconds
    if now ≤ 0 then pure (eio, status)
    else if deadline ≤ now then pure (etimedout, status)
    else do
      let (polled, pollErrno) ← plainCall
      if polled = 0 then pure (etimedout, status)
      else if polled < 0 then
        if pollErrno = eintr then waitRounds deadline status rounds else pure (pollErrno, status)
      else do
        let (bytes, readErrno, byte) ← readByte
        if bytes = 1 then pure (0, byte)
        else if bytes < 0 ∧ (readErrno = eintr ∨ readErrno = eagain) then
          waitRounds deadline status rounds
        else pure (epipe, status)

def waitForStatusByte (fd : Int) (timeoutMs : Nat) (status : Char) : Call (Nat × Char) :=
  if fd < 0 then pure (einval, status)
  else do
    let started ← monotonicNanoseconds
    if started ≤ 0 then pure (eio, status)
    else looped (waitRounds (started + timeoutMs * 1000000) status)

def killOnce (send : Bool) : Call (Int × Nat) := if send then plainCall else pure (0, 0)

def reapRounds (tracerPid : Int) (forceKill : Bool) (deadline : Int) : Nat → Bool → Call Nat
  | 0, _ => stuck
  | rounds + 1, killSent => do
    let (waited, waitErrno) ← plainCall
    if waited = tracerPid then pure 0
    else if waited < 0 then
      if waitErrno = eintr then reapRounds tracerPid forceKill deadline rounds killSent
      else pure (if waitErrno = echild then 0 else waitErrno)
    else do
      let (killed, killErrno) ← killOnce (forceKill && !killSent)
      if killed ≠ 0 ∧ killErrno ≠ esrch then pure killErrno
      else do
        let now ← monotonicNanoseconds
        if now ≤ 0 then pure eio
        else if deadline ≤ now then pure etimedout
        else do
          let _ ← plainCall
          reapRounds tracerPid forceKill deadline rounds (killSent || forceKill)

def reapTracer (tracerPid : Int) (forceKill : Bool) (timeoutMs : Nat) : Call Nat :=
  if tracerPid ≤ 0 then pure 0
  else do
    let started ← monotonicNanoseconds
    if started ≤ 0 then pure eio
    else looped fun rounds =>
      reapRounds tracerPid forceKill (started + timeoutMs * 1000000) rounds false

end Loops

section Restoring

inductive Restore
  | close (fd : Int) (identity : FdObjectIdentity)
  | closeRaw (fd : Int)
  | dumpable (value : Int)
  | ptracer
  | signalMask (mask : BitVec 64)

def Restore.part : Restore → Part
  | .close _ _ | .closeRaw _ => .descriptors
  | .dumpable _ => .dumpable
  | .ptracer => .ptracer
  | .signalMask _ => .signalMask

def Restore.perform : Restore → Call Bool
  | .close fd identity => do
    let code ← closeOwnedDescriptor fd identity
    pure (code = 0)
  | .closeRaw fd => do
    let code ← ResidentSession.close fd
    pure (code = 0)
  | .dumpable value => setDumpable value
  | .ptracer => setPtracer 0
  | .signalMask mask => do
    let (done, _) ← setSignalMask mask
    pure done

def Process.missed (process : Process) (part : Part) : Process :=
  { process with unrestored := insert part process.unrestored }

def attempt (part : Part) (restore : Restore) : Call Bool := do
  let done ← restore.perform
  if done then pure true
  else fun world => some (false, { world with state := world.state.missed part })

def cleanUp : List Restore → Call Unit
  | [] => pure ()
  | restore :: rest => do
    let _ ← attempt restore.part restore
    cleanUp rest

end Restoring

end HookSelf.ResidentSession
