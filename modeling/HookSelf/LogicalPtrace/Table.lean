import HookSelf.Collections.SlotTable
import HookSelf.Errno

/-! The logical ptrace table: processes, tracer relations with their event queues, fake `TRACEME`
records and registered waits.  A fixed array is a function of the slot, a 32-bit signed field is an
integer, and the 64-bit counters wrap where the source lets them. -/

namespace HookSelf.LogicalPtrace

open SlotTable

@[irreducible] def kLogicalPtraceProcessCapacity : Nat := 512
@[irreducible] def kLogicalPtraceRelationCapacity : Nat := 512
@[irreducible] def kLogicalPtraceFakeTracemeCapacity : Nat := 512
@[irreducible] def kLogicalPtraceWaitCapacity : Nat := 512

def kLogicalPtraceEventQueueCapacity : Nat := 4
def kInvalidLogicalPtraceSlot : Nat := 4294967295
def kLogicalPtraceMagic : Nat := 0x48534c50
def kLogicalPtraceVersion : Nat := 1

def uint64Size : Nat := 18446744073709551616

def nsig : Int := 65

def kLogicalPtraceKnownOptionMask : BitVec 64 := 0x003000ff

def kLogicalWaitNoHang : BitVec 32 := 0x00000001
def kLogicalWaitStopped : BitVec 32 := 0x00000002
def kLogicalWaitExited : BitVec 32 := 0x00000004
def kLogicalWaitContinued : BitVec 32 := 0x00000008
def kLogicalWaitNowait : BitVec 32 := 0x01000000
def kLogicalWaitNoThread : BitVec 32 := 0x20000000
def kLogicalWaitAll : BitVec 32 := 0x40000000
def kLogicalWaitClone : BitVec 32 := 0x80000000

def kWait4OptionMask : BitVec 32 :=
  kLogicalWaitNoHang ||| kLogicalWaitStopped ||| kLogicalWaitContinued ||| kLogicalWaitNoThread |||
    kLogicalWaitAll ||| kLogicalWaitClone

def kWaitIdOptionMask : BitVec 32 :=
  kLogicalWaitNoHang ||| kLogicalWaitStopped ||| kLogicalWaitExited ||| kLogicalWaitContinued |||
    kLogicalWaitNowait ||| kLogicalWaitNoThread ||| kLogicalWaitAll ||| kLogicalWaitClone

def kLogicalProcessFlagParentKnown : BitVec 32 := 1

def kLogicalPtraceEventFlagSiginfoValid : BitVec 32 := 1
def kLogicalPtraceEventFlagRegistersValid : BitVec 32 := 2
def kLogicalPtraceEventFlagSyscallNumberValid : BitVec 32 := 4

def kLogicalPtraceEventFlagMask : BitVec 32 :=
  kLogicalPtraceEventFlagSiginfoValid ||| kLogicalPtraceEventFlagRegistersValid |||
    kLogicalPtraceEventFlagSyscallNumberValid

structure LogicalProcessKey where
  tgid : Int := 0
  reserved : Nat := 0
  generation : Nat := 0
  deriving DecidableEq

structure LogicalTaskKey where
  tid : Int := 0
  tgid : Int := 0
  generation : Nat := 0
  processGeneration : Nat := 0
  deriving DecidableEq

structure LogicalPidIdentity where
  pid : Int := 0
  reserved : Nat := 0
  startTime : Nat := 0
  deriving DecidableEq

structure LogicalProcessRecord where
  occupied : Nat := 0
  slot : Nat
  key : LogicalProcessKey := {}
  parent : LogicalProcessKey := {}
  processGroup : Int := 0
  logicalDumpable : Int := 0
  logicalPtracer : LogicalPidIdentity := {}
  flags : BitVec 32 := 0
  reserved : Nat := 0

/-! An enumeration field can hold a value that is no enumerator: zeroed memory does. -/

inductive LogicalPtraceAttachKind
  | traceme
  | attach
  | seize
  | other (value : Nat)
  deriving DecidableEq

inductive LogicalPtraceRelationState
  | attachPending
  | seizeRunning
  | stopped
  | runningCont
  | runningSyscall
  | exitZombie
  | runningSingleStep
  | listening
  | other (value : Nat)
  deriving DecidableEq

inductive LogicalPtraceResumeMode
  | cont
  | syscall
  | singleStep
  | other (value : Nat)
  deriving DecidableEq

inductive LogicalPtraceWaitClass
  | normal
  | clone
  | other (value : Nat)
  deriving DecidableEq

inductive LogicalPtraceEventKind
  | attachStop
  | interruptStop
  | signalDelivery
  | groupStop
  | syscallEntry
  | syscallExit
  | ptraceEvent
  | exited
  | signaled
  | continued
  | other (value : Nat)
  deriving DecidableEq

structure Siginfo where
  bytes : Fin 128 → UInt8 := fun _ => 0

structure Arm64Regs where
  regs : Fin 31 → UInt64 := fun _ => 0
  sp : UInt64 := 0
  pc : UInt64 := 0
  pstate : UInt64 := 0

structure LogicalPtraceEvent where
  sequence : Nat := 0
  kind : LogicalPtraceEventKind := .other 0
  flags : BitVec 32 := 0
  waitStatus : Int := 0
  signalNumber : Int := 0
  ptraceEvent : Nat := 0
  guestSyscallNumber : Int := 0
  reserved : Nat := 0
  eventMessage : Nat := 0
  signalInfo : Siginfo := {}
  guestRegisters : Arm64Regs := {}

def emptyEvent : LogicalPtraceEvent := { guestSyscallNumber := -1 }

structure LogicalPtraceRelation where
  occupied : Nat := 0
  slot : Nat
  generation : Nat := 0
  tracee : LogicalTaskKey := {}
  tracer : LogicalTaskKey := {}
  attachKind : LogicalPtraceAttachKind := .other 0
  state : LogicalPtraceRelationState := .other 0
  waitClass : LogicalPtraceWaitClass := .other 0
  eventHead : Nat := 0
  eventCount : Nat := 0
  reserved : Nat := 0
  options : BitVec 64 := 0
  events : Nat → LogicalPtraceEvent := fun _ => emptyEvent

structure LogicalFakeTracemeRecord where
  occupied : Nat := 0
  slot : Nat
  task : LogicalTaskKey := {}

inductive LogicalWaitKind
  | wait4
  | waitId
  | other (value : Nat)
  deriving DecidableEq

inductive LogicalWaitSelectorKind
  | any
  | tid
  | processGroup
  | other (value : Nat)
  deriving DecidableEq

inductive LogicalWaitIdType
  | all
  | pid
  | processGroup
  | pidFd
  | other (value : Nat)
  deriving DecidableEq

structure LogicalWaitRequest where
  waiter : LogicalTaskKey := {}
  kind : LogicalWaitKind := .other 0
  selectorKind : LogicalWaitSelectorKind := .other 0
  selectorId : Int := 0
  options : BitVec 32 := 0
  nohang : Nat := 0
  nowait : Nat := 0
  reserved : Nat := 0
  statusAddress : Nat := 0
  infoAddress : Nat := 0
  rusageAddress : Nat := 0
  token : Nat := 0

structure LogicalWaitRecord where
  occupied : Nat := 0
  slot : Nat
  generation : Nat := 0
  request : LogicalWaitRequest := {}

structure LogicalWaitMatch where
  relationSlot : Nat := 0
  reserved : Nat := 0
  relationGeneration : Nat := 0
  eventSequence : Nat := 0
  deriving DecidableEq

def clearProcessRecord (slot : Nat) : LogicalProcessRecord := { slot }
def clearRelationRecord (slot : Nat) : LogicalPtraceRelation := { slot }
def clearFakeTracemeRecord (slot : Nat) : LogicalFakeTracemeRecord := { slot }
def clearWaitRecord (slot : Nat) : LogicalWaitRecord := { slot }

structure LogicalPtraceTable where
  magic : Nat := kLogicalPtraceMagic
  version : Nat := kLogicalPtraceVersion
  processCount : Nat := 0
  relationCount : Nat := 0
  fakeTracemeCount : Nat := 0
  waitCount : Nat := 0
  processFreeHint : Nat := 0
  relationFreeHint : Nat := 0
  fakeTracemeFreeHint : Nat := 0
  waitFreeHint : Nat := 0
  mutationGeneration : Nat := 0
  nextRelationGeneration : Nat := 1
  nextEventSequence : Nat := 1
  nextWaitGeneration : Nat := 1
  processes : Nat → LogicalProcessRecord := clearProcessRecord
  relations : Nat → LogicalPtraceRelation := clearRelationRecord
  fakeTraceme : Nat → LogicalFakeTracemeRecord := clearFakeTracemeRecord
  waits : Nat → LogicalWaitRecord := clearWaitRecord

def initLogicalPtraceTable : LogicalPtraceTable := {}

/-- What an operation leaves in the table, and its result or error number. -/
abbrev Outcome (α : Type) := LogicalPtraceTable × Except Errno α

def noteMutation (table : LogicalPtraceTable) : LogicalPtraceTable :=
  { table with mutationGeneration := (table.mutationGeneration + 1) % uint64Size }

def modifyProcess (table : LogicalPtraceTable) (slot : Nat)
    (f : LogicalProcessRecord → LogicalProcessRecord) : LogicalPtraceTable :=
  { table with processes := Function.update table.processes slot (f (table.processes slot)) }

def modifyRelation (table : LogicalPtraceTable) (slot : Nat)
    (f : LogicalPtraceRelation → LogicalPtraceRelation) : LogicalPtraceTable :=
  { table with relations := Function.update table.relations slot (f (table.relations slot)) }

def modifyFakeTraceme (table : LogicalPtraceTable) (slot : Nat)
    (f : LogicalFakeTracemeRecord → LogicalFakeTracemeRecord) : LogicalPtraceTable :=
  { table with fakeTraceme := Function.update table.fakeTraceme slot (f (table.fakeTraceme slot)) }

def modifyWait (table : LogicalPtraceTable) (slot : Nat)
    (f : LogicalWaitRecord → LogicalWaitRecord) : LogicalPtraceTable :=
  { table with waits := Function.update table.waits slot (f (table.waits slot)) }

def logicalProcessKeysEqual (first second : LogicalProcessKey) : Prop :=
  first.tgid = second.tgid ∧ first.generation = second.generation

instance (first second : LogicalProcessKey) : Decidable (logicalProcessKeysEqual first second) :=
  inferInstanceAs (Decidable (_ ∧ _))

def logicalTaskKeysEqual (first second : LogicalTaskKey) : Prop :=
  first.tid = second.tid ∧ first.tgid = second.tgid ∧ first.generation = second.generation ∧
    first.processGeneration = second.processGeneration

instance (first second : LogicalTaskKey) : Decidable (logicalTaskKeysEqual first second) :=
  inferInstanceAs (Decidable (_ ∧ _))

theorem logicalTaskKeysEqual_iff {first second : LogicalTaskKey} :
    logicalTaskKeysEqual first second ↔ first = second := by
  cases first
  cases second
  simp [logicalTaskKeysEqual]

def logicalProcessKeyForTask (task : LogicalTaskKey) : LogicalProcessKey :=
  { tgid := task.tgid, reserved := 0, generation := task.processGeneration }

end HookSelf.LogicalPtrace
