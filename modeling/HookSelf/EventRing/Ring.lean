import HookSelf.Config.Types

/-! The event ring in shared memory: header, slots and their layout. -/

namespace HookSelf.EventRing

open Config

def eventPathCapacity : Nat := 512

/-- The members of `HookselfEvent`, an array by its elements. -/
inductive EventField
  | structSize
  | kind
  | sequence
  | monotonicTimeNs
  | tgid
  | tid
  | syscallNumber
  | phase
  | action
  | error
  | result
  | argument (index : Fin 6)
  | ruleId
  | flags
  | path (index : Fin eventPathCapacity)
  | translatedPath (index : Fin eventPathCapacity)
  deriving DecidableEq

/-- An event by its members, each as the bits of a 64-bit word. -/
abbrev HookselfEvent := EventField → BitVec 64

def kEventRingMagic : Nat := 0x48534552
def kEventRingVersion : Nat := 1
def sizeofEventRingHeader : Nat := 64
def sizeofEvent : Nat := 112 + 2 * eventPathCapacity

structure EventRingHeader where
  magic : Nat
  version : Nat
  capacity : Nat
  eventSize : Nat
  writeSequence : BitVec 64
  readSequence : BitVec 64
  droppedEvents : BitVec 64

def eventRingBytes (capacity : Nat) : Nat :=
  if capacity = 0 ∨ capacity > maxEventCapacity then 0
  else sizeofEventRingHeader + capacity * sizeofEvent

def initializeEventRing (memorySize capacity : Nat) : Option EventRingHeader :=
  if eventRingBytes capacity = 0 ∨ memorySize < eventRingBytes capacity then none
  else some {
    magic := kEventRingMagic
    version := kEventRingVersion
    capacity := capacity
    eventSize := sizeofEvent
    writeSequence := 0
    readSequence := 0
    droppedEvents := 0 }

end HookSelf.EventRing
