import HookSelf.EventRing.Machine

/-! What every interleaving keeps. A push is numbered by the events accepted before it, and
`reads number` is how many events the consumer had taken when it stored its `number`-th message. -/

namespace HookSelf.EventRing

open Config ReleaseAcquire

section Writes

def applyWrites (content : HookselfEvent) (writes : List (EventField × BitVec 64)) :
    HookselfEvent :=
  writes.foldl (fun content write => Function.update content write.1 write.2) content

theorem mem_copyOrder (field : EventField) : field ∈ copyOrder := by
  cases field <;> simp [copyOrder, pathOrder]

theorem applyWrites_map (event content : HookselfEvent) (fields : List EventField)
    (field : EventField) :
    applyWrites content (fields.map fun field => (field, event field)) field =
      if field ∈ fields then event field else content field := by
  induction fields generalizing content with
  | nil => rfl
  | cons first fields ih =>
    rw [List.map_cons, applyWrites, List.foldl_cons]
    refine (ih _).trans ?_
    by_cases hfield : field = first
    · subst hfield
      simp
    · simp [hfield]

theorem applyWrites_copy (event content : HookselfEvent) :
    applyWrites content (copyOrder.map fun field => (field, event field)) = event := by
  funext field
  rw [applyWrites_map, if_pos (mem_copyOrder field)]

theorem applyWrites_slotWrites (event content : HookselfEvent) (write : BitVec 64) :
    applyWrites content (slotWrites event write) = storedEvent event write := by
  rw [slotWrites, applyWrites, List.foldl_append]
  change applyWrites (applyWrites content _) _ = _
  rw [applyWrites_copy]
  funext field
  cases field <;> rfl

end Writes

/-- The last store of the consumer that the producer knows of. -/
abbrev RingState.freed (ring : RingState) : Nat := ring.producerView.seen .readSequence

/-- The events the consumer knows of. -/
abbrev RingState.visible (ring : RingState) : Nat := ring.consumerView.seen .writeSequence

/-- The stores of the consumer. -/
abbrev RingState.returned (ring : RingState) : Nat := ring.consumerView.seen .readSequence

structure Counters (ring : RingState) (reads : Nat → Nat) : Prop where
  writeLength : (ring.memory.history .writeSequence).length = ring.accepted.length + 1
  readLength : (ring.memory.history .readSequence).length = ring.returned + 1
  writeMessage : ∀ number message, (ring.memory.history .writeSequence)[number]? = some message →
    message.value = BitVec.ofNat 64 number ∧ message.clock .producer = number ∧
      message.clock .consumer ≤ ring.returned + 1
  readMessage : ∀ number message, (ring.memory.history .readSequence)[number]? = some message →
    message.value = BitVec.ofNat 64 (reads number) ∧ message.clock .consumer = number ∧
      message.clock .producer ≤ ring.accepted.length + 1
  producerSeen : ring.producerView.seen .writeSequence = ring.accepted.length
  producerClock : ring.producerView.clock .producer = ring.accepted.length + 1
  producerKnows : ring.producerView.clock .consumer = ring.freed
  consumerClock : ring.consumerView.clock .consumer = ring.returned + 1
  consumerKnows : ring.consumerView.clock .producer = ring.visible

structure Window (ring : RingState) (reads : Nat → Nat) : Prop where
  start : reads 0 = 0
  mono : ∀ number number', number ≤ number' → number' ≤ ring.returned →
    reads number ≤ reads number'
  freed : ring.freed ≤ ring.returned
  taken : reads ring.returned ≤ ring.visible
  visible : ring.visible ≤ ring.accepted.length
  fits : ring.accepted.length ≤ reads ring.freed + ring.capacity

structure Slots (ring : RingState) (reads : Nat → Nat) : Prop where
  content : ∀ index event, reads ring.freed ≤ index → ring.accepted[index]? = some event → ∀ field,
    (ring.memory.cells (index % ring.capacity, field)).value = event field ∧
      (ring.memory.cells (index % ring.capacity, field)).written = index + 1
  produced : ∀ cell, (ring.memory.cells cell).writer = .producer ∧
    (ring.memory.cells cell).written ≤ ring.accepted.length + 1 ∧
    (ring.memory.cells cell).read .producer = 0
  consumed : ∀ cell number, number ≤ ring.returned →
    number < (ring.memory.cells cell).read .consumer →
    ∃ index, index % ring.capacity = cell.1 ∧ reads number ≤ index ∧ index < ring.visible
  readTime : ∀ cell, (ring.memory.cells cell).read .consumer ≤ ring.returned + 1

def ProducerInv (ring : RingState) (reads : Nat → Nat) : ProducerState → Prop
  | .idle | .full => True
  | .loaded _ write => write = BitVec.ofNat 64 ring.accepted.length
  | .copying event write pending =>
    write = BitVec.ofNat 64 ring.accepted.length ∧
    ring.accepted.length < reads ring.freed + ring.capacity ∧
    applyWrites (fun field =>
      (ring.memory.cells (ring.accepted.length % ring.capacity, field)).value) pending =
        storedEvent event write ∧
    ∀ field, field ∉ pending.map Prod.fst →
      (ring.memory.cells (ring.accepted.length % ring.capacity, field)).written =
        ring.accepted.length + 1

def ConsumerInv (ring : RingState) (reads : Nat → Nat) : ConsumerState → Prop
  | .idle => True
  | .loaded _ read => read = BitVec.ofNat 64 (reads ring.returned)
  | .copying read count events event missing =>
    read = BitVec.ofNat 64 (reads ring.returned) ∧
    reads ring.returned + count ≤ ring.visible ∧
    events.length ≤ count ∧
    ring.received ++ events = ring.accepted.take (reads ring.returned + events.length) ∧
    (events.length < count → ∀ event',
      ring.accepted[reads ring.returned + events.length]? = some event' →
        ∀ field, field ∉ missing → event field = event' field)

structure Inv (ring : RingState) (reads : Nat → Nat) : Prop where
  counters : Counters ring reads
  window : Window ring reads
  slots : Slots ring reads
  producer : ProducerInv ring reads ring.producer
  consumer : ConsumerInv ring reads ring.consumer
  received : ring.received = ring.accepted.take (reads ring.returned)
  dropped : ∃ message, (ring.memory.history .droppedEvents).getLast? = some message ∧
    message.value = BitVec.ofNat 64 ring.rejected
  ordered : ¬ring.memory.raced

/-- A capacity the ring takes, and no slot number that wraps differently from its counter. -/
structure Sized (ring : RingState) : Prop where
  positive : 0 < ring.capacity
  limited : ring.capacity ≤ maxEventCapacity
  unwrapped : ring.accepted.length < 2 ^ 64 ∨ ring.capacity ∣ 2 ^ 64

section Arithmetic

theorem sub_toNat {write read : Nat} (hle : read ≤ write) (hsize : write - read < 2 ^ 64) :
    (BitVec.ofNat 64 write - BitVec.ofNat 64 read).toNat = write - read := by
  rw [BitVec.toNat_sub, BitVec.toNat_ofNat, BitVec.toNat_ofNat]
  omega

theorem Sized.slot {ring : RingState} (h : Sized ring) {index : Nat}
    (hindex : index ≤ ring.accepted.length) :
    ring.slot (BitVec.ofNat 64 index) = index % ring.capacity := by
  rw [RingState.slot, BitVec.toNat_ofNat]
  rcases h.unwrapped with hsmall | hdvd
  · rw [Nat.mod_eq_of_lt (show index < 2 ^ 64 by omega)]
  · exact Nat.mod_mod_of_dvd index hdvd

theorem Sized.capacity_lt {ring : RingState} (h : Sized ring) : ring.capacity < 2 ^ 64 := by
  have hlimit := h.limited
  unfold maxEventCapacity at hlimit
  omega

/-- The slots of a window that is not longer than the ring are distinct. -/
theorem slot_ne {capacity first index other : Nat} (hfirst : first ≤ index) (hlt : index < other)
    (hfits : other < first + capacity) : index % capacity ≠ other % capacity := by
  intro h
  have hdvd : capacity ∣ other - index :=
    (Nat.modEq_iff_dvd' hlt.le).mp h
  have hle := Nat.le_of_dvd (by omega) hdvd
  omega

end Arithmetic

end HookSelf.EventRing
