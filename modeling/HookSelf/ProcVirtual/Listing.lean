import HookSelf.Collections.Overwrite
import HookSelf.ProcVirtual.DirentLaws
import HookSelf.ProcVirtual.PendingLaws

/-! A tracee that lists a directory of proc: `getdents64` as the kernel runs it, with the entry and
the exits of the dispatcher around it, until a batch has something to see. -/

namespace HookSelf.ProcVirtual

open Fallible Overwrite ProcText

section Model

structure Tracee where
  memory : BitVec 64 → UInt8
  directory : List (List UInt8)
  result : ℤ

def traceeIo (identity : List UInt8) (protectedFds : List ℤ) : ProcVirtualIo Tracee where
  readRemote := some fun _ _ address size => do
    return bytesAt (← get).memory address.toBitVec size
  writeRemote := some fun _ _ address bytes =>
    modify fun tracee => { tracee with memory := overwrite tracee.memory address.toBitVec bytes }
  resolveIdentity := some fun _ _ => pure (identity ++ [0], identity.length)
  snapshot := none
  snapshotProtectedFds := some fun _ _ => pure (protectedFds, protectedFds.length)
  writeSyscallResult := some fun _ result => modify fun tracee => { tracee with result }

/-- A task that calls `getdents64` again and again with the same arguments. The kernel decides how
many records it returns for a buffer of some size. -/
structure Listing where
  config : ProcVirtualDispatchConfig
  identity : List UInt8
  protectedFds : List ℤ
  task : ProcVirtualDispatchTask
  arguments : Fin 6 → UInt64
  kernel : ℕ → List (List UInt8) → ℕ

namespace Listing

variable (listing : Listing)

def io : ProcVirtualIo Tracee := traceeIo listing.identity listing.protectedFds

def taskAt (time : UInt64) : ProcVirtualDispatchTask :=
  { listing.task with monotonicTimeNs := time }

def address : BitVec 64 := (listing.arguments 1).toBitVec

def size : ℕ := (listing.arguments 2).toNat

def batch (directory : List (List UInt8)) : List (List UInt8) :=
  directory.take (listing.kernel listing.size directory)

def behind (directory : List (List UInt8)) : List (List UInt8) :=
  directory.drop (listing.kernel listing.size directory)

abbrev einvalNumber : ℤ := 22

/-- The system call itself: the end of the directory, a buffer that is too small for the next record,
or a batch. -/
def kernelGetdents (tracee : Tracee) : Tracee :=
  match tracee.directory with
  | [] => { tracee with result := 0 }
  | record :: _ =>
    if listing.size < record.length then { tracee with result := -einvalNumber }
    else
      { memory :=
          overwrite tracee.memory listing.address (listing.batch tracee.directory).flatten
        directory := listing.behind tracee.directory
        result := (listing.batch tracee.directory).flatten.length }

def rounds (times : ℕ → UInt64) : ℕ → ℕ → ProcVirtualPendingTable → Tracee →
    Option (Except Errno Unit × ProcVirtualPendingTable × Tracee)
  | 0, _, _, _ => none
  | fuel + 1, round, table, tracee =>
    let returned := listing.kernelGetdents tracee
    match dispatchProcVirtualExit listing.config listing.io table (listing.taskAt (times round))
      returned.result returned with
    | ((table, .error error), tracee) => some (.error error, table, tracee)
    | ((table, .ok result), tracee) =>
      if result.flags &&& exitReplay ≠ 0 then rounds times fuel (round + 1) table tracee
      else some (.ok (), table, tracee)

/-- What the tracee gets of a call: a result and the bytes in its buffer, or the end of the
session. -/
inductive Outcome
  | returned (result : ℤ) (output : List UInt8)
  | failed (error : Errno)
  deriving DecidableEq, Repr

def call (clock : ℕ → UInt64) (now : ProcVirtualPendingTable × Tracee) :
    Option (Outcome × ProcVirtualPendingTable × Tracee) :=
  match dispatchProcVirtualEntry listing.config listing.io now.1 (listing.taskAt (clock 0))
    nrGetdents64 listing.arguments now.2 with
  | ((table, .error error), tracee) => some (.failed error, table, tracee)
  | ((table, .ok _), tracee) =>
    (listing.rounds (fun round => clock (round + 1)) (tracee.directory.length + 1) 0 table
      tracee).map fun
      | (.error error, table, tracee) => (.failed error, table, tracee)
      | (.ok (), table, tracee) =>
        (.returned tracee.result (bytesAt tracee.memory listing.address tracee.result.toNat), table,
          tracee)

inductive Lists : ProcVirtualPendingTable × Tracee → List (List UInt8) →
    ProcVirtualPendingTable × Tracee → Prop
  | nil (now) : Lists now [] now
  | cons {now next last result output outputs} (clock : ℕ → UInt64)
    (hcall : listing.call clock now = some (.returned result output, next))
    (hrest : Lists next outputs last) : Lists now (output :: outputs) last

/-- The directory is one that the dispatcher filters, and the kernel returns a batch that fits
whenever the next record fits. -/
structure Valid (kind : ProcVirtualNodeKind) : Prop where
  config : validateConfig listing.config = .ok ()
  taskSlot : listing.task.taskSlot < taskCapacity
  tgid : 0 < listing.task.tgid
  tid : 0 < listing.task.tid
  fd : 0 ≤ argumentFd (listing.arguments 0)
  identity : IsIdentity identityCapacity listing.identity
  parsed : ∃ path, parseProcVirtualPath listing.identity listing.task.tgid listing.task.tid =
    .ok path ∧ path.kind = kind
  kind : isProcDirectoryNode kind = true
  protectedFds : listing.protectedFds.length ≤ maxProtectedFds ∧
    ∃ fds, (listing.config.protectedFds.foldlM (appendUniqueFd maxProtectedFds) [] >>=
      listing.protectedFds.foldlM (appendUniqueFd maxProtectedFds)) = .ok fds
  fits : RemoteFits (listing.arguments 1) listing.size
  buffer : listing.size ≤ listing.config.snapshotBuffer.length
  kernel : ∀ record rest, record.length ≤ listing.size →
    0 < listing.kernel listing.size (record :: rest) ∧
      (listing.batch (record :: rest)).flatten.length ≤ listing.size

def options (kind : ProcVirtualNodeKind) : ProcDirentFilterOptions where
  directoryKind := kind
  tracerPid := listing.config.tracerPid
  protectedFds := listing.config.protectedFds ++ listing.protectedFds
  hiddenMapRanges := listing.config.hiddenRanges

def HiddenBatches (kind : ProcVirtualNodeKind) : ℕ → List (List UInt8) → Prop
  | 0, _ => True
  | count + 1, directory => directory ≠ [] ∧
      visibleRecords (listing.options kind) (listing.batch directory) = [] ∧
      HiddenBatches kind count (listing.behind directory)

def deadline (time : UInt64) : UInt64 :=
  if listing.config.getdentsReplayTimeoutNs ≠ 0 then
    if time.toNat > uintptrMax - listing.config.getdentsReplayTimeoutNs.toNat then .ofNat uintptrMax
    else time + listing.config.getdentsReplayTimeoutNs
  else 0

def Late (deadline time : UInt64) : Prop := deadline ≠ 0 ∧ time ≠ 0 ∧ time > deadline

instance (deadline time : UInt64) : Decidable (Late deadline time) :=
  inferInstanceAs (Decidable (_ ∧ _))

end Listing

end Model

end HookSelf.ProcVirtual
