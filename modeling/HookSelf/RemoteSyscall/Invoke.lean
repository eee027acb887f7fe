import HookSelf.Collections.Script
import HookSelf.RawSyscall

/-! `remote_syscall_arm64.cpp`: a system call run in a stopped tracee by code written at its program
counter. What the kernel does at each `ptrace` and `wait4` is the answer to the call; pointers are
not null. -/

namespace HookSelf.RemoteSyscall

open Scripted RawSyscall

structure Arm64Regs where
  regs : Fin 31 → BitVec 64
  sp : BitVec 64
  pc : BitVec 64
  pstate : BitVec 64
deriving DecidableEq

def sizeofArm64Regs : Nat := 272

abbrev Memory : Type := BitVec 64 → BitVec 8

structure Tracee where
  memory : Memory
  registers : Arm64Regs

/-- What a `ptrace` or `wait4` call returns, the length `PTRACE_GETREGSET` leaves, the status
`wait4` leaves, and the tracee behind a call that lets it run. -/
structure Answer where
  result : Int
  length : Nat
  status : BitVec 32
  tracee : Tracee

abbrev Call (α : Type) : Type := Script Tracee Answer α

def request {α : Type} (failure : α) (effect : Answer → Tracee → α × Tracee) : Call (Nat × α) :=
  call fun answer tracee =>
    if rawError answer.result ≠ 0 then ((rawError answer.result, failure), tracee)
    else ((0, (effect answer tracee).1), (effect answer tracee).2)

def kWordSize : Nat := 8

/-- The bytes of a word in the order of their addresses. -/
abbrev Word : Type := Nat → BitVec 8

def Memory.word (memory : Memory) (address : BitVec 64) : Word := fun index =>
  memory (address + BitVec.ofNat 64 index)

def Memory.setWord (memory : Memory) (address : BitVec 64) (word : Word) : Memory := fun place =>
  if (place - address).toNat < kWordSize then word (place - address).toNat else memory place

def ptracePeekData (tid : Int) (address : BitVec 64) : Call (Nat × Word) :=
  if tid ≤ 0 then pure (einval, fun _ => 0)
  else request (fun _ => 0) fun _ tracee => (tracee.memory.word address, tracee)

def ptracePokeData (address : BitVec 64) (word : Word) : Call (Nat × Unit) :=
  request () fun _ tracee => ((), { tracee with memory := tracee.memory.setWord address word })

def ptraceCont : Call (Nat × Unit) := request () fun answer _ => ((), answer.tracee)

def noRegs : Arm64Regs := ⟨fun _ => 0, 0, 0, 0⟩

def readRegisters (tid : Int) : Call (Nat × Arm64Regs) :=
  if tid ≤ 0 then pure (einval, noRegs)
  else do
    let (error, registers, length) ← request (noRegs, 0) fun answer tracee =>
      ((tracee.registers, answer.length), tracee)
    if error ≠ 0 then pure (error, registers)
    else pure (if length = sizeofArm64Regs then 0 else eio, registers)

def writeRegisters (tid : Int) (registers : Arm64Regs) : Call (Nat × Unit) :=
  if tid ≤ 0 then pure (einval, ())
  else request () fun _ tracee => ((), { tracee with registers })

def aligned (current : BitVec 64) : BitVec 64 := current &&& ~~~(BitVec.ofNat 64 (kWordSize - 1))

def chunk (current : BitVec 64) (left : Nat) : Nat :=
  let offset := (current - aligned current).toNat
  let available := kWordSize - offset
  if available < left then available else left

/-- The bytes from `copied` on. A round copies at least one, so `size` rounds are enough. -/
def readRounds (tid : Int) (address : BitVec 64) (size : Nat) :
    Nat → Nat → List (BitVec 8) → Call (Nat × List (BitVec 8))
  | 0, _, bytes => pure (0, bytes)
  | rounds + 1, copied, bytes =>
    if copied < size then do
      let current := address + BitVec.ofNat 64 copied
      let offset := (current - aligned current).toNat
      let chunk := chunk current (size - copied)
      let (error, word) ← ptracePeekData tid (aligned current)
      if error ≠ 0 then pure (error, bytes)
      else
        readRounds tid address size rounds (copied + chunk)
          (bytes ++ (List.range chunk).map fun index => word (offset + index))
    else pure (0, bytes)

def readTraceeBytes (tid : Int) (address : BitVec 64) (size : Nat) :
    Call (Nat × List (BitVec 8)) :=
  if tid ≤ 0 then pure (einval, []) else readRounds tid address size size 0 []

/-- The word a chunk is written into; nothing of it is kept when the chunk is the whole word. -/
def wordBefore (tid : Int) (current : BitVec 64) (chunk : Nat) : Call (Nat × Word) :=
  if (current - aligned current).toNat ≠ 0 ∨ chunk ≠ kWordSize then
    ptracePeekData tid (aligned current)
  else pure (0, fun _ => 0)

def writeRounds (tid : Int) (address : BitVec 64) (input : List (BitVec 8)) :
    Nat → Nat → Call Nat
  | 0, _ => pure 0
  | rounds + 1, copied =>
    if copied < input.length then do
      let current := address + BitVec.ofNat 64 copied
      let offset := (current - aligned current).toNat
      let chunk := chunk current (input.length - copied)
      let (peekError, word) ← wordBefore tid current chunk
      if peekError ≠ 0 then pure peekError
      else do
        let word := fun index =>
          if offset ≤ index ∧ index < offset + chunk then input.getD (copied + (index - offset)) 0
          else word index
        let (pokeError, _) ← ptracePokeData (aligned current) word
        if pokeError ≠ 0 then pure pokeError
        else writeRounds tid address input rounds (copied + chunk)
    else pure 0

def writeTraceeBytes (tid : Int) (address : BitVec 64) (input : List (BitVec 8)) : Call Nat :=
  if tid ≤ 0 then pure einval else writeRounds tid address input input.length 0

def kSvcZero : BitVec 32 := 0xd4000001#32
def kBrkHookself : BitVec 32 := 0xd4200000#32 ||| (0x4853#32 <<< 5)

def encodeInstruction (instruction : BitVec 32) : List (BitVec 8) :=
  [instruction.setWidth 8, (instruction >>> 8).setWidth 8, (instruction >>> 16).setWidth 8,
    (instruction >>> 24).setWidth 8]

def sigtrap : BitVec 32 := 5#32
def ptraceEventSeccomp : BitVec 32 := 7#32

def wifstopped (status : BitVec 32) : Bool := status &&& 0xff#32 = 0x7f#32
def wstopsig (status : BitVec 32) : BitVec 32 := (status >>> 8) &&& 0xff#32

def waitLoop (tid : Int) (seccompStops : Nat) :
    List Answer → Option ((Nat × Nat) × World Tracee Answer)
  | [] => none
  | answer :: answers =>
    let waitError := rawError answer.result
    let after : World Tracee Answer := ⟨answer.tracee, answers⟩
    if waitError = eintr then waitLoop tid seccompStops answers
    else if waitError ≠ 0 ∨ answer.result ≠ tid then
      some ((if waitError ≠ 0 then waitError else echild, seccompStops), after)
    else if ¬wifstopped answer.status then some ((echild, seccompStops), after)
    else
      let signalNumber := wstopsig answer.status
      let ptraceEvent := answer.status >>> 16
      if signalNumber = sigtrap ∧ ptraceEvent = ptraceEventSeccomp then
        match answers with
        | [] => none
        | resume :: answers =>
          if rawError resume.result ≠ 0 then
            some ((rawError resume.result, seccompStops + 1), ⟨answer.tracee, answers⟩)
          else waitLoop tid (seccompStops + 1) answers
      else
        some ((if signalNumber = sigtrap ∧ ptraceEvent = 0 then 0 else eproto, seccompStops), after)

def waitForInjectedTrap (tid : Int) : Call (Nat × Nat) := fun world =>
  waitLoop tid 0 world.answers

structure RemoteSyscallArm64Result where
  value : BitVec 64
  seccompStops : Nat
deriving DecidableEq

def noResult : RemoteSyscallArm64Result := ⟨0, 0⟩

def injectedRegs (saved : Arm64Regs) (syscallNumber : Int) (arguments : Fin 6 → BitVec 64) :
    Arm64Regs :=
  { saved with
    regs := fun index =>
      if h : index.val < 6 then arguments ⟨index.val, h⟩
      else if index.val = 8 then (BitVec.ofInt 32 syscallNumber).setWidth 64
      else saved.regs index }

def injectedCode : List (BitVec 8) := encodeInstruction kSvcZero ++ encodeInstruction kBrkHookself

def onSuccess {α : Type} (error : Nat) (default : α) (next : Call (Nat × α)) : Call (Nat × α) :=
  if error = 0 then next else pure (error, default)

def runInjected (tid : Int) (saved injected : Arm64Regs) (savedCode : List (BitVec 8)) :
    Call (Nat × RemoteSyscallArm64Result) := do
  let (error, _) ← writeRegisters tid injected
  let (error, _) ← onSuccess error () ptraceCont
  let (error, seccompStops) ← onSuccess error 0 (waitForInjectedTrap tid)
  let (error, completed) ← onSuccess error noRegs (readRegisters tid)
  let value := if error = 0 then completed.regs 0 else 0
  let codeRestoreError ← writeTraceeBytes tid saved.pc savedCode
  let (registerRestoreError, _) ← writeRegisters tid saved
  pure (if codeRestoreError ≠ 0 ∨ registerRestoreError ≠ 0 then eownerdead else error,
    ⟨value, seccompStops⟩)

def injectThen (tid : Int) (saved injected : Arm64Regs) (savedCode : List (BitVec 8)) :
    Call (Nat × RemoteSyscallArm64Result) := do
  let error ← writeTraceeBytes tid saved.pc injectedCode
  if error ≠ 0 then pure (error, noResult) else runInjected tid saved injected savedCode

def invokeStoppedArm64Syscall (tid syscallNumber : Int) (arguments : Fin 6 → BitVec 64) :
    Call (Nat × RemoteSyscallArm64Result) :=
  if tid ≤ 0 ∨ syscallNumber < 0 then pure (einval, noResult)
  else do
    let (error, saved) ← readRegisters tid
    if error ≠ 0 ∨ saved.pc = 0 ∨ saved.pc &&& 3#64 ≠ 0 then
      pure (if error ≠ 0 then error else eproto, noResult)
    else do
      let (error, savedCode) ← readTraceeBytes tid saved.pc 8
      if error ≠ 0 then pure (error, noResult)
      else injectThen tid saved (injectedRegs saved syscallNumber arguments) savedCode

end HookSelf.RemoteSyscall
