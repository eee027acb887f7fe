import HookSelf.ProcVirtual.Resident

/-! Sequential reads of proc text: descriptors of one table that name open file descriptions, the
kernel that moves their offsets, and the exits of the session with its cursors. -/

namespace HookSelf.ProcVirtual

open ProcText

section Exit

/-- What the callbacks of one exit see: the cursors, the offset that `fdinfo` shows, the bytes that
have been handed to the tracee, and the register of the result. -/
structure ReadHost where
  resident : ProcVirtualResidentState
  position : Option UInt64
  output : List UInt8
  result : ℤ

/-- The files of a session with one table of descriptors. A description has a path, and a path has a
node, the contents of a snapshot and the text that the tracee sees of them. -/
structure Reading where
  config : ProcVirtualDispatchConfig
  ownerSlot : ℕ
  task : ℕ → ProcVirtualDispatchTask
  memory : UInt64 → ℕ → List UInt8
  path : ℕ → List UInt8
  node : List UInt8 → ProcVirtualNodeKind
  contents : List UInt8 → List UInt8
  text : List UInt8 → List UInt8

namespace Reading

variable (reading : Reading)

def snapshotCallback (request : ProcVirtualSnapshotRequest) (outputCapacity : ℕ) :
    Host ReadHost (List UInt8 × ℕ × UInt64) := do
  let contents := reading.contents request.identityPath
  if contents.length > outputCapacity then throw .eoverflow
  else if request.syscallNumber = nrPread64 then
    pure (contents, contents.length, request.requestedOffset)
  else
    let host ← get
    match host.position with
    | none => throw .enoent
    | some rawEnd =>
      let consumed := UInt64.ofNat request.kernelResult.toNat
      let rawStart := if rawEnd ≥ consumed then rawEnd - consumed else 0
      let (resident, logicalOffset) := beginProcVirtualSequentialRead host.resident
        reading.ownerSlot request.fd request.identityPath rawStart rawEnd
      set { host with resident }
      return (contents, contents.length, ← MonadExcept.ofExcept logicalOffset)

def io : ProcVirtualIo ReadHost where
  readRemote := some fun _ _ address size => pure (reading.memory address size)
  writeRemote := some fun _ _ _ bytes =>
    modify fun host => { host with output := host.output ++ bytes }
  resolveIdentity := none
  snapshot := some reading.snapshotCallback
  snapshotProtectedFds := none
  writeSyscallResult := some fun _ result => modify fun host => { host with result }

def completeText (task : ProcVirtualDispatchTask) (pending : ProcVirtualPending)
    (kernelResult : ℤ) : Host ReadHost ProcVirtualExitResult := do
  let result ← completeProcText reading.config reading.io task pending kernelResult
    (untouchedResult exitHandled pending.node kernelResult)
  if pending.syscallNumber = nrPread64 then pure result
  else
    let host ← get
    let (resident, cursorError) := advanceProcVirtualSequentialRead host.resident
      reading.ownerSlot pending.fd (pending.identityPath.take pending.pathLength)
      result.bytesWritten
    set { host with resident }
    match cursorError with
    | .error error => if error = .enoent then pure result else throw error
    | .ok () => pure result

end Reading

end Exit

section System

/-- A read that the kernel has run and whose exit is still to come. -/
structure IssuedRead where
  fd : ℤ
  description : ℕ
  syscallNumber : ℤ
  arguments : Fin 6 → UInt64
  start : ℕ
  kernelResult : ℤ

def IssuedRead.consumed (read : IssuedRead) : ℕ := read.kernelResult.toNat

/-- An open file description: the offset of the kernel, and of the reads that are complete, the
offset after the last one, its descriptor, and the bytes of them all. -/
structure Description where
  offset : ℕ
  settled : ℕ
  lastFd : Option ℤ
  delivered : List UInt8

/-- The descriptors and descriptions, the reads under way by task, for every descriptor and path the
description that was read last and the offset after it, and the error that ended the session. -/
structure ReadState where
  resident : ProcVirtualResidentState
  fds : ℤ → Option ℕ
  descriptions : ℕ → Description
  issued : ℕ → Option IssuedRead
  seen : ℤ → List UInt8 → Option (ℕ × ℕ)
  failed : Option Errno

def initReadState : ReadState where
  resident := initProcVirtualResidentState
  fds := fun _ => none
  descriptions := fun _ => ⟨0, 0, none, []⟩
  issued := fun _ => none
  seen := fun _ _ => none
  failed := none

/-- An `open` and a `dup` both make a descriptor name a description. -/
inductive ReadEvent
  | install (fd : ℤ) (description : ℕ)
  | close (fd : ℤ)
  | issue (task : ℕ) (fd syscallNumber : ℤ) (arguments : Fin 6 → UInt64) (kernelResult : ℤ)
  | finish (task : ℕ)

namespace Reading

variable (reading : Reading)

def pending (read : IssuedRead) : ProcVirtualPending :=
  { zeroPending with
    flags := pendingProcText ||| pendingActive
    syscallNumber := read.syscallNumber
    fd := read.fd
    node := reading.node (reading.path read.description)
    arguments := read.arguments
    pathLength := (reading.path read.description).length
    identityPath := Buffer.write (Buffer.write zeroPending.identityPath 0
      (reading.path read.description)) (reading.path read.description).length [0] }

def issue (state : ReadState) (task : ℕ) (fd syscallNumber : ℤ) (arguments : Fin 6 → UInt64)
    (kernelResult : ℤ) : ReadState :=
  match state.fds fd with
  | none => state
  | some description =>
    let start := (state.descriptions description).offset
    { state with
      descriptions := Function.update state.descriptions description
        { state.descriptions description with offset := start + kernelResult.toNat }
      issued := Function.update state.issued task
        (some ⟨fd, description, syscallNumber, arguments, start, kernelResult⟩) }

def host (state : ReadState) (read : IssuedRead) : ReadHost where
  resident := state.resident
  position := (state.fds read.fd).map fun description =>
    .ofNat (state.descriptions description).offset
  output := []
  result := read.kernelResult

def settle (state : ReadState) (read : IssuedRead) (output : List UInt8) : ReadState :=
  if read.kernelResult < 0 then state
  else
    { state with
      descriptions := Function.update state.descriptions read.description
        { state.descriptions read.description with
          settled := read.start + read.consumed
          lastFd := some read.fd
          delivered := (state.descriptions read.description).delivered ++ output }
      seen := Function.update state.seen read.fd
        (Function.update (state.seen read.fd) (reading.path read.description)
          (some (read.description, read.start + read.consumed))) }

def finish (state : ReadState) (task : ℕ) : ReadState :=
  match state.issued task with
  | none => state
  | some read =>
    let state := { state with issued := Function.update state.issued task none }
    match (reading.completeText (reading.task task) (reading.pending read) read.kernelResult).run
      (host state read) with
    | (.error error, host) =>
      { state with
        resident := host.resident
        failed := some error }
    | (.ok _, host) =>
      reading.settle { state with resident := host.resident } read
        (host.output.take host.result.toNat)

def apply (state : ReadState) : ReadEvent → ReadState
  | .install fd description => { state with fds := Function.update state.fds fd (some description) }
  | .close fd => { state with fds := Function.update state.fds fd none }
  | .issue task fd syscallNumber arguments kernelResult =>
    issue state task fd syscallNumber arguments kernelResult
  | .finish task => reading.finish state task

def Requests (task : ProcVirtualDispatchTask) (read : IssuedRead) (size : ℕ) : Prop :=
  read.syscallNumber = nrRead ∧ size = (read.arguments 2).toNat ∧
      (size = 0 ∨ RemoteFits (read.arguments 1) size) ∨
    read.syscallNumber = nrReadv ∧ ∀ host,
      (requestedReadSize reading.config reading.io task (reading.pending read)).run host =
        (.ok size, host)

/-- What the kernel does: descriptors are not negative, and a read that does not fail returns at most
what is asked for, and something at the start of a file. -/
def Allowed (state : ReadState) : ReadEvent → Prop
  | .install fd _ => 0 ≤ fd
  | .close _ => True
  | .issue task fd syscallNumber arguments kernelResult =>
    0 ≤ fd ∧ ∀ description, state.fds fd = some description → 0 ≤ kernelResult →
      (state.descriptions description).offset + kernelResult.toNat ≤ uintptrMax ∧
      ∃ size, reading.Requests (reading.task task)
          ⟨fd, description, syscallNumber, arguments, (state.descriptions description).offset,
            kernelResult⟩ size ∧
        kernelResult ≤ size ∧
        ((state.descriptions description).offset = 0 → 0 < size → 0 < kernelResult)
  | .finish _ => True

/-- The cursors tell which description a read is of: no other read of the description has come
between, there is a cursor for the descriptor, and the description is new or was last read through a
descriptor that still stands for it, and alone stands where the read starts unless it is the one that
reads. -/
def Followed (state : ReadState) : ReadEvent → Prop
  | .finish task => ∀ read, state.issued task = some read → 0 ≤ read.kernelResult →
    let description := state.descriptions read.description
    let path := reading.path read.description
    state.fds read.fd = some read.description ∧ read.start = description.settled ∧
      description.offset = read.start + read.consumed ∧
      (state.seen read.fd path ≠ none ∨
        ∃ slot < cursorCapacity, (state.resident.cursors slot).occupied = 0) ∧
      (description.lastFd = none ∨ ∃ last, description.lastFd = some last ∧
        (∃ raw, state.seen last path = some (read.description, raw)) ∧
        (last = read.fd ∨ ∀ other ≠ last, ∀ reader,
          state.seen other path ≠ some (reader, read.start)))
  | _ => True

/-- The states of every interleaving that the kernel allows and the cursors can follow. -/
inductive Reaches : ReadState → Prop
  | init : Reaches initReadState
  | step {state} (hstate : Reaches state) (event : ReadEvent)
    (hallowed : reading.Allowed state event) (hfollowed : reading.Followed state event) :
    Reaches (reading.apply state event)

/-- The snapshots fit, and the text is what the rewriting makes of them. -/
structure Valid : Prop where
  path : ∀ description, (reading.path description).length < identityCapacity
  snapshotBuffer : 0 < reading.config.snapshotBuffer.length
  rewriteBuffer : 0 < reading.config.rewriteBuffer.length
  contents : ∀ description, (reading.contents (reading.path description)).length ≤
    reading.config.snapshotBuffer.length
  text : ∀ description, ∃ rewrite,
    rewriteSnapshot reading.config (reading.node (reading.path description))
      (reading.contents (reading.path description)) =
        .ok (reading.text (reading.path description), rewrite)
  length : ∀ description, (reading.text (reading.path description)).length ≤ int64Max

end Reading

end System

end HookSelf.ProcVirtual
