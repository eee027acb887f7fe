import HookSelf.Collections.ReleaseAcquire
import HookSelf.EventRing.Ring

/-! One producer in `PushEvent` and one consumer in `ReadEvents`, one access to shared memory at a
step. Only the counters of the header change, so that `HeaderValid` keeps its answer. -/

namespace HookSelf.EventRing

open Config ReleaseAcquire

inductive Role
  | producer
  | consumer
  deriving DecidableEq

inductive Counter
  | writeSequence
  | readSequence
  | droppedEvents
  deriving DecidableEq

/-- A member of a slot. -/
abbrev SlotCell := Nat × EventField

abbrev RingMemory := Memory Role Counter SlotCell (BitVec 64)
abbrev RingView := View Role Counter

section Push

def pathOrder : List EventField :=
  (List.finRange eventPathCapacity).flatMap fun index => [.path index, .translatedPath index]

def copyOrder : List EventField :=
  .structSize :: .kind :: .sequence :: .monotonicTimeNs :: .tgid :: .tid :: .syscallNumber ::
    .phase :: .action :: .error :: .result :: ((List.finRange 6).map .argument ++
      .ruleId :: .flags :: pathOrder)

def storedEvent (event : HookselfEvent) (write : BitVec 64) : HookselfEvent
  | .structSize => BitVec.ofNat 64 sizeofEvent
  | .sequence => write + 1
  | field => event field

def slotWrites (event : HookselfEvent) (write : BitVec 64) : List (EventField × BitVec 64) :=
  copyOrder.map (fun field => (field, event field)) ++
    [(.structSize, BitVec.ofNat 64 sizeofEvent), (.sequence, write + 1)]

inductive ProducerState
  | idle
  | loaded (event : HookselfEvent) (write : BitVec 64)
  | full
  | copying (event : HookselfEvent) (write : BitVec 64) (pending : List (EventField × BitVec 64))

end Push

section Read

inductive ConsumerState
  | idle
  | loaded (limit : Nat) (read : BitVec 64)
  | copying (read : BitVec 64) (count : Nat) (events : List HookselfEvent) (event : HookselfEvent)
      (missing : List EventField)

end Read

structure RingState where
  capacity : Nat
  memory : RingMemory
  producerView : RingView
  consumerView : RingView
  producer : ProducerState
  consumer : ConsumerState
  accepted : List HookselfEvent
  rejected : Nat
  received : List HookselfEvent

def RingState.slot (ring : RingState) (sequence : BitVec 64) : Nat := sequence.toNat % ring.capacity

def counterValue (header : EventRingHeader) : Counter → BitVec 64
  | .writeSequence => header.writeSequence
  | .readSequence => header.readSequence
  | .droppedEvents => header.droppedEvents

def initialRing (header : EventRingHeader) : RingState where
  capacity := header.capacity
  memory := {
    history := fun counter => [⟨counterValue header counter, fun _ => 0⟩]
    cells := fun _ => ⟨0, .producer, 0, fun _ => 0⟩
    raced := False }
  producerView := ⟨fun role => if role = .producer then 1 else 0, fun _ => 0⟩
  consumerView := ⟨fun role => if role = .consumer then 1 else 0, fun _ => 0⟩
  producer := .idle
  consumer := .idle
  accepted := []
  rejected := 0
  received := []

inductive Step (ring : RingState) : RingState → Prop
  | pushLoadWrite (event : HookselfEvent) {number : Nat} {write : BitVec 64} {view : RingView}
      (hstate : ring.producer = .idle)
      (hload : loadRelaxed ring.memory ring.producerView .writeSequence number =
        some (write, view)) :
      Step ring { ring with producerView := view, producer := .loaded event write }
  | pushLoadRead {event : HookselfEvent} {write read : BitVec 64} {number : Nat} {view : RingView}
      (hstate : ring.producer = .loaded event write)
      (hload : loadAcquire ring.memory ring.producerView .readSequence number = some (read, view)) :
      Step ring { ring with
        producerView := view
        producer := if (write - read).toNat ≥ ring.capacity then .full
          else .copying event write (slotWrites event write) }
  | pushDrop (hstate : ring.producer = .full) :
      Step ring { ring with
        memory := (fetchRelaxed ring.memory ring.producerView .droppedEvents (· + 1)).1
        producerView := (fetchRelaxed ring.memory ring.producerView .droppedEvents (· + 1)).2
        producer := .idle
        rejected := ring.rejected + 1 }
  | pushWrite {event : HookselfEvent} {write value : BitVec 64} {field : EventField}
      {pending : List (EventField × BitVec 64)}
      (hstate : ring.producer = .copying event write ((field, value) :: pending)) :
      Step ring { ring with
        memory := writeCell .producer ring.memory ring.producerView
          (ring.slot write, field) value
        producer := .copying event write pending }
  | pushStoreWrite {event : HookselfEvent} {write : BitVec 64}
      (hstate : ring.producer = .copying event write []) :
      Step ring { ring with
        memory := (storeRelease .producer ring.memory ring.producerView .writeSequence
          (write + 1)).1
        producerView := (storeRelease .producer ring.memory ring.producerView .writeSequence
          (write + 1)).2
        producer := .idle
        accepted := ring.accepted ++ [storedEvent event write] }
  | readLoadRead {limit number : Nat} {read : BitVec 64} {view : RingView} (hlimit : limit ≠ 0)
      (hstate : ring.consumer = .idle)
      (hload : loadRelaxed ring.memory ring.consumerView .readSequence number = some (read, view)) :
      Step ring { ring with consumerView := view, consumer := .loaded limit read }
  | readLoadWrite {limit number : Nat} {read write : BitVec 64} {view : RingView}
      (hstate : ring.consumer = .loaded limit read)
      (hload : loadAcquire ring.memory ring.consumerView .writeSequence number =
        some (write, view)) :
      Step ring { ring with
        consumerView := view
        consumer := .copying read (min (write - read).toNat limit) [] (fun _ => 0) copyOrder }
  | readSlot {read : BitVec 64} {count : Nat} {events : List HookselfEvent} {event : HookselfEvent}
      {first rest : List EventField} {field : EventField}
      (hstate : ring.consumer = .copying read count events event (first ++ field :: rest))
      (hmore : events.length < count) :
      Step ring { ring with
        memory := (readCell .consumer ring.memory ring.consumerView
          (ring.slot (read + BitVec.ofNat 64 events.length), field)).2
        consumer := .copying read count events
          (Function.update event field (readCell .consumer ring.memory ring.consumerView
            (ring.slot (read + BitVec.ofNat 64 events.length), field)).1)
          (first ++ rest) }
  | readNext {read : BitVec 64} {count : Nat} {events : List HookselfEvent} {event : HookselfEvent}
      (hstate : ring.consumer = .copying read count events event [])
      (hmore : events.length < count) :
      Step ring { ring with
        consumer := .copying read count (events ++ [event]) (fun _ => 0) copyOrder }
  | readStoreRead {read : BitVec 64} {count : Nat} {events : List HookselfEvent}
      {event : HookselfEvent} {missing : List EventField}
      (hstate : ring.consumer = .copying read count events event missing)
      (hdone : events.length = count) :
      Step ring { ring with
        memory := (storeRelease .consumer ring.memory ring.consumerView .readSequence
          (read + BitVec.ofNat 64 count)).1
        consumerView := (storeRelease .consumer ring.memory ring.consumerView .readSequence
          (read + BitVec.ofNat 64 count)).2
        consumer := .idle
        received := ring.received ++ events }

/-- The states any interleaving reaches. -/
inductive Reachable (header : EventRingHeader) : RingState → Prop
  | initial : Reachable header (initialRing header)
  | step {ring ring' : RingState} (reachable : Reachable header ring) (step : Step ring ring') :
      Reachable header ring'

end HookSelf.EventRing
