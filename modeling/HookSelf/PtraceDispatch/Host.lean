import HookSelf.LogicalPtrace.Waits

/-! The callbacks of the dispatcher.  The host is an arbitrary state `σ` that a callback may read and
change, so that a callback may answer two equal calls differently.  An error is a positive number
that a callback may choose, hence a number and not an `Errno`. -/

namespace HookSelf.PtraceDispatch

open LogicalPtrace

variable {σ : Type}

def errorNumber : Errno → Nat
  | .eperm => 1
  | .enoent => 2
  | .esrch => 3
  | .eio => 5
  | .e2big => 7
  | .ebadf => 9
  | .echild => 10
  | .eagain => 11
  | .efault => 14
  | .ebusy => 16
  | .eexist => 17
  | .exdev => 18
  | .enotdir => 20
  | .einval => 22
  | .efbig => 27
  | .enospc => 28
  | .erofs => 30
  | .erange => 34
  | .enametoolong => 36
  | .enosys => 38
  | .eloop => 40
  | .enodata => 61
  | .eproto => 71
  | .eoverflow => 75
  | .eprotonosupport => 93
  | .enotsup => 95
  | .eopnotsupp => 95
  | .etimedout => 110
  | .estale => 116
  | .ecanceled => 125
  | .eownerdead => 130
  | .other number => number

section Bytes

/-- The buffer of an output parameter. -/
abbrev Buffer := Nat → UInt8

def le (size value : Nat) : List UInt8 :=
  (List.range size).map fun index => UInt8.ofNat (value / 256 ^ index)

def leInt (size : Nat) (value : Int) : List UInt8 := le size (value % 256 ^ size).toNat

def Buffer.number (buffer : Buffer) (offset size : Nat) : Nat :=
  (List.range size).foldr (fun index value => (buffer (offset + index)).toNat + 256 * value) 0

def Buffer.word (buffer : Buffer) (offset : Nat) : UInt64 := .ofNat (buffer.number offset 8)

def Buffer.int32 (buffer : Buffer) : Int := (BitVec.ofNat 32 (buffer.number 0 4)).toInt

def Buffer.take (buffer : Buffer) (size : Nat) : List UInt8 := (List.range size).map buffer

def Buffer.siginfo (buffer : Buffer) : Siginfo := { bytes := fun index => buffer index }

def siginfoBytes (info : Siginfo) : List UInt8 := List.ofFn info.bytes

def registerWord (registers : Arm64Regs) (index : Nat) : UInt64 :=
  if h : index < 31 then registers.regs ⟨index, h⟩
  else if index = 31 then registers.sp
  else if index = 32 then registers.pc
  else registers.pstate

def setRegisterWord (registers : Arm64Regs) (index : Nat) (value : UInt64) : Arm64Regs :=
  if h : index < 31 then { registers with regs := Function.update registers.regs ⟨index, h⟩ value }
  else if index = 31 then { registers with sp := value }
  else if index = 32 then { registers with pc := value }
  else { registers with pstate := value }

def registersSize : Nat := 272

def registersBytes (registers : Arm64Regs) : List UInt8 :=
  (List.range 34).flatMap fun index => le 8 (registerWord registers index).toNat

def Buffer.registers (buffer : Buffer) : Arm64Regs :=
  { regs := fun index => buffer.word (8 * index), sp := buffer.word 248, pc := buffer.word 256
    pstate := buffer.word 264 }

end Bytes

/-- `LogicalPtraceDispatchIo`.  A callback that is `none` is a null pointer. -/
structure DispatchIo (σ : Type) where
  resolveTask : Option (LogicalTaskKey → Int → σ → σ × Int × LogicalTaskKey)
  resolveParent : Option (LogicalTaskKey → σ → σ × Int × LogicalTaskKey)
  mayAttach : Option (LogicalTaskKey → LogicalTaskKey → LogicalPtraceAttachKind → σ → σ × Int)
  readMemory : Option (LogicalTaskKey → Nat → Nat → σ → σ × Int × Buffer)
  writeMemory : Option (LogicalTaskKey → Nat → List UInt8 → σ → σ × Int)
  queryUid : Option (LogicalTaskKey → σ → σ × Int × Nat)
  fillRusage : Option (LogicalTaskKey → LogicalPtraceEvent → Nat → σ → σ × Int × Buffer)

def callbackError (error : Int) : Nat :=
  if error ≥ 0 then error.toNat else errorNumber .eproto

/-- What a callback call leaves and its output, or its error. -/
abbrev Reply (σ α : Type) := σ × Except Nat α

def Reply.of {α : Type} (answer : σ × Int × α) : Reply σ α :=
  (answer.1, if callbackError answer.2.1 = 0 then .ok answer.2.2
    else .error (callbackError answer.2.1))

def RangeInvalid (address size : Nat) : Prop := address = 0 ∨ address > uint64Size - 1 - (size - 1)

instance (address size : Nat) : Decidable (RangeInvalid address size) :=
  inferInstanceAs (Decidable (_ ∨ _))

def readMemory (io : DispatchIo σ) (host : σ) (task : LogicalTaskKey) (address size : Nat) :
    Reply σ Buffer :=
  if size = 0 then (host, .ok fun _ => 0)
  else
    match io.readMemory with
    | none => (host, .error (errorNumber .enosys))
    | some callback =>
      if RangeInvalid address size then (host, .error (errorNumber .efault))
      else .of (callback task address size host)

def writeMemory (io : DispatchIo σ) (host : σ) (task : LogicalTaskKey) (address : Nat)
    (input : List UInt8) : Reply σ Unit :=
  if input.length = 0 then (host, .ok ())
  else
    match io.writeMemory with
    | none => (host, .error (errorNumber .enosys))
    | some callback =>
      if RangeInvalid address input.length then (host, .error (errorNumber .efault))
      else
        let answer := callback task address input host
        .of (answer.1, answer.2, ())

def resolvedKey (reply : Reply σ LogicalTaskKey) : Reply σ LogicalTaskKey :=
  match reply with
  | (host, .ok key) => (host, if TaskKeyValid key then .ok key else .error (errorNumber .eproto))
  | (host, .error error) => (host, .error error)

def resolveTask (io : DispatchIo σ) (host : σ) (caller : LogicalTaskKey) (tid : Int) :
    Reply σ LogicalTaskKey :=
  match io.resolveTask with
  | none => (host, .error (errorNumber .enosys))
  | some callback => resolvedKey (.of (callback caller tid host))

def resolveParent (io : DispatchIo σ) (host : σ) (caller : LogicalTaskKey) :
    Reply σ LogicalTaskKey :=
  match io.resolveParent with
  | none => (host, .error (errorNumber .enosys))
  | some callback => resolvedKey (.of (callback caller host))

def checkAttachPermission (io : DispatchIo σ) (host : σ) (caller target : LogicalTaskKey)
    (kind : LogicalPtraceAttachKind) : Reply σ Unit :=
  match io.mayAttach with
  | none => (host, .ok ())
  | some callback =>
    let answer := callback caller target kind host
    .of (answer.1, answer.2, ())

def queryUid (io : DispatchIo σ) (host : σ) (tracee : LogicalTaskKey) : Reply σ Nat :=
  match io.queryUid with
  | none => (host, .ok 0)
  | some callback => .of (callback tracee host)

def rusageSize : Nat := 144

def fillWaitRusage (io : DispatchIo σ) (host : σ) (tracee : LogicalTaskKey)
    (event : LogicalPtraceEvent) : Reply σ Buffer :=
  match io.fillRusage with
  | none => (host, .ok fun _ => 0)
  | some callback => .of (callback tracee event rusageSize host)

end HookSelf.PtraceDispatch
