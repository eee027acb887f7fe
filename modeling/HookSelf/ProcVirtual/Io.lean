import HookSelf.Collections.Fallible
import HookSelf.ProcVirtual.Path

/-! The callbacks of the proc dispatcher (`proc_virtual_dispatch.cpp`). The host is an arbitrary
state that a callback may read and change; a negative error of a callback counts as `EPROTO`. -/

namespace HookSelf.ProcVirtual

open ProcText

abbrev Host (σ : Type) : Type → Type := ExceptT Errno (StateM σ)

section Types

structure ProcVirtualDispatchTask where
  taskSlot : ℕ
  tgid : ℤ
  tid : ℤ
  generation : UInt64
  monotonicTimeNs : UInt64
  deriving DecidableEq, Repr

inductive ProcVirtualIdentitySource
  | trackedGuest
  | resolved
  deriving DecidableEq, Repr

abbrev identityFd : BitVec 32 := 1
abbrev identityRemotePath : BitVec 32 := 2

abbrev invalidArgument : ℕ := 2 ^ 32 - 1

structure ProcVirtualIdentityQuery where
  task : ProcVirtualDispatchTask
  source : ProcVirtualIdentitySource
  flags : BitVec 32
  syscallNumber : ℤ
  fd : ℤ
  pathArgumentIndex : ℕ
  remotePath : UInt64
  deriving DecidableEq, Repr

inductive ProcVirtualSnapshotKind
  | procText
  | xattrList
  deriving DecidableEq, Repr

structure ProcVirtualSnapshotRequest where
  task : ProcVirtualDispatchTask
  kind : ProcVirtualSnapshotKind
  node : ProcVirtualNodeKind
  syscallNumber : ℤ
  fd : ℤ
  requestedOffset : UInt64
  requestedSize : ℕ
  kernelResult : ℤ
  identityPath : List UInt8
  deriving DecidableEq, Repr

/-- A callback may be missing. An identity is answered as a buffer and a length, a snapshot also with
a logical offset. -/
structure ProcVirtualIo (σ : Type) where
  readRemote : Option (ℤ → ℤ → UInt64 → ℕ → Host σ (List UInt8))
  writeRemote : Option (ℤ → ℤ → UInt64 → List UInt8 → Host σ Unit)
  resolveIdentity : Option (ProcVirtualIdentityQuery → ℕ → Host σ (List UInt8 × ℕ))
  snapshot : Option (ProcVirtualSnapshotRequest → ℕ → Host σ (List UInt8 × ℕ × UInt64))
  snapshotProtectedFds : Option (ProcVirtualDispatchTask → ℕ → Host σ (List ℤ × ℕ))
  writeSyscallResult : Option (ProcVirtualDispatchTask → ℤ → Host σ Unit)

end Types

section Remote

variable {σ : Type}

def filled (size : ℕ) (data : List UInt8) : List UInt8 := (data ++ List.replicate size 0).take size

def RemoteFits (address : UInt64) (size : ℕ) : Prop :=
  address ≠ 0 ∧ address.toNat + (size - 1) ≤ uintptrMax

instance (address : UInt64) (size : ℕ) : Decidable (RemoteFits address size) :=
  inferInstanceAs (Decidable (_ ∧ _))

theorem RemoteFits.mono {address : UInt64} {size less : ℕ} (h : RemoteFits address size)
    (hle : less ≤ size) : RemoteFits address less :=
  ⟨h.1, by have := h.2; omega⟩

def readRemote (io : ProcVirtualIo σ) (task : ProcVirtualDispatchTask) (address : UInt64)
    (size : ℕ) : Host σ (List UInt8) :=
  if size = 0 then pure []
  else
    match io.readRemote with
    | none => throw .enosys
    | some read =>
      if RemoteFits address size then filled size <$> read task.tgid task.tid address size
      else throw .efault

def writeRemote (io : ProcVirtualIo σ) (task : ProcVirtualDispatchTask) (address : UInt64)
    (input : List UInt8) : Host σ Unit :=
  if input.length = 0 then pure ()
  else
    match io.writeRemote with
    | none => throw .enosys
    | some write =>
      if RemoteFits address input.length then write task.tgid task.tid address input
      else throw .efault

def readCStringFrom (io : ProcVirtualIo σ) (task : ProcVirtualDispatchTask) (address : UInt64)
    (index : ℕ) : ℕ → Host σ (List UInt8)
  | 0 => throw .enametoolong
  | rounds + 1 =>
    if address.toNat + index > uintptrMax then throw .eoverflow
    else do
      let byte ← readRemote io task (address + .ofNat index) 1
      if byte = [0] then pure []
      else return byte ++ (← readCStringFrom io task address (index + 1) rounds)

def readRemoteCString (io : ProcVirtualIo σ) (task : ProcVirtualDispatchTask) (address : UInt64)
    (capacity : ℕ) : Host σ (List UInt8) :=
  if capacity = 0 ∨ address = 0 then throw .einval
  else readCStringFrom io task address 0 capacity

end Remote

section Identity

variable {σ : Type}

def missingIdentityError (error : Errno) : Bool :=
  error = .enoent ∨ error = .enodata ∨ error = .enotsup ∨ error = .ebadf ∨ error = .enotdir

def tryResolvedIdentity (io : ProcVirtualIo σ) (base : ProcVirtualIdentityQuery)
    (source : ProcVirtualIdentitySource) (capacity : ℕ) : Host σ (Option (List UInt8)) :=
  match io.resolveIdentity with
  | none => pure none
  | some resolve =>
    tryCatch (do
      let (output, length) ← resolve { base with source } capacity
      if length ≥ capacity ∨ output[length]? ≠ some 0 ∨ 0 ∈ output.take length then throw .eproto
      else pure (some (output.take length)))
      fun error => if missingIdentityError error then pure none else throw error

def resolveIdentityPath (io : ProcVirtualIo σ) (task : ProcVirtualDispatchTask) (syscallNumber fd : ℤ)
    (pathArgumentIndex : ℕ) (remotePath : UInt64) (capacity : ℕ) : Host σ (List UInt8) := do
  let query : ProcVirtualIdentityQuery :=
    ⟨task, .trackedGuest, if fd ≥ 0 then identityFd else identityRemotePath, syscallNumber, fd,
      pathArgumentIndex, remotePath⟩
  match ← tryResolvedIdentity io query .trackedGuest capacity with
  | some path => pure path
  | none =>
    match ← tryResolvedIdentity io query .resolved capacity with
    | some path => pure path
    | none =>
      if fd ≥ 0 then throw .enoent else readRemoteCString io task remotePath capacity

end Identity

end HookSelf.ProcVirtual
