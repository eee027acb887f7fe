import HookSelf.EventRing.Invariant

namespace HookSelf.EventRing

open Config ReleaseAcquire

variable {ring : RingState} {reads : Nat → Nat}

theorem Inv.loadWrite (h : Inv ring reads) {number : Nat} {write : BitVec 64} {view : RingView}
    (hload : loadRelaxed ring.memory ring.producerView .writeSequence number = some (write, view)) :
    write = BitVec.ofNat 64 ring.accepted.length ∧ view = ring.producerView := by
  obtain ⟨message, hseen, hfound, rfl, rfl⟩ := loadRelaxed_some hload
  obtain ⟨hbound, _⟩ := List.getElem?_eq_some_iff.mp hfound
  have hlength := h.counters.writeLength
  have hown := h.counters.producerSeen
  have hnumber : number = ring.accepted.length := by omega
  obtain ⟨hvalue, _, _⟩ := h.counters.writeMessage number message hfound
  refine ⟨hnumber ▸ hvalue, ?_⟩
  rw [hnumber, ← hown, Function.update_eq_self]

theorem Inv.pushLoadWrite (h : Inv ring reads) (event : HookselfEvent) {number : Nat}
    {write : BitVec 64} {view : RingView}
    (hload : loadRelaxed ring.memory ring.producerView .writeSequence number = some (write, view)) :
    Inv { ring with producerView := view, producer := .loaded event write } reads := by
  obtain ⟨hwrite, rfl⟩ := h.loadWrite hload
  exact { h with
    counters := { h.counters with }
    window := { h.window with }
    slots := { h.slots with }
    producer := hwrite
    consumer := h.consumer }

theorem Inv.loadRead (h : Inv ring reads) {number : Nat} {read : BitVec 64} {view : RingView}
    (hload : loadAcquire ring.memory ring.producerView .readSequence number = some (read, view)) :
    ring.freed ≤ number ∧ number ≤ ring.returned ∧ read = BitVec.ofNat 64 (reads number) ∧
      view.seen = Function.update ring.producerView.seen .readSequence number ∧
      view.clock .producer = ring.accepted.length + 1 ∧ view.clock .consumer = number := by
  obtain ⟨message, hseen, hfound, rfl, rfl⟩ := loadAcquire_some hload
  obtain ⟨hbound, _⟩ := List.getElem?_eq_some_iff.mp hfound
  obtain ⟨hvalue, hconsumer, hproducer⟩ := h.counters.readMessage number message hfound
  have hlength := h.counters.readLength
  refine ⟨hseen, by omega, hvalue, rfl, ?_, ?_⟩
  · show max _ _ = _
    rw [h.counters.producerClock]
    omega
  · show max _ _ = _
    rw [h.counters.producerKnows, hconsumer]
    exact max_eq_right hseen

theorem ProducerInv.afterLoad (hsized : Sized ring) {event : HookselfEvent} {number : Nat}
    (hle : reads number ≤ ring.accepted.length)
    (hfits : ring.accepted.length ≤ reads number + ring.capacity) {write : BitVec 64}
    (hwrite : write = BitVec.ofNat 64 ring.accepted.length) (hfreed : ring.freed = number) :
    ProducerInv ring reads
      (if (write - BitVec.ofNat 64 (reads number)).toNat ≥ ring.capacity then .full
        else .copying event write (slotWrites event write)) := by
  have hcapacity := hsized.capacity_lt
  subst hwrite
  rw [sub_toNat hle (by omega)]
  split_ifs with hfull
  · exact trivial
  · refine ⟨rfl, ?_, applyWrites_slotWrites _ _ _, ?_⟩
    · rw [hfreed]
      omega
    · intro field hfield
      refine absurd ?_ hfield
      rw [slotWrites, List.map_append, List.map_map]
      exact List.mem_append_left _ (List.mem_map.mpr ⟨field, mem_copyOrder field, rfl⟩)

theorem Inv.pushLoadRead (h : Inv ring reads) (hsized : Sized ring) {event : HookselfEvent}
    {write read : BitVec 64} {number : Nat} {view : RingView}
    (hstate : ring.producer = .loaded event write)
    (hload : loadAcquire ring.memory ring.producerView .readSequence number = some (read, view)) :
    Inv { ring with
      producerView := view
      producer := if (write - read).toNat ≥ ring.capacity then .full
        else .copying event write (slotWrites event write) } reads := by
  obtain ⟨hfreed, hreturned, rfl, hseen, hproducer, hconsumer⟩ := h.loadRead hload
  have hnew : view.seen .readSequence = number := by rw [hseen, Function.update_self]
  have hmono := h.window.mono _ _ hfreed hreturned
  have hfits : ring.accepted.length ≤ reads number + ring.capacity := by
    have := h.window.fits
    omega
  have hle : reads number ≤ ring.accepted.length := by
    have := h.window.mono _ _ hreturned le_rfl
    have := h.window.taken
    have := h.window.visible
    omega
  have hwrite := h.producer
  rw [hstate] at hwrite
  exact { h with
    counters := { h.counters with
      producerSeen := by
        rw [← h.counters.producerSeen]
        show view.seen _ = _
        rw [hseen, Function.update_of_ne (by decide)]
      producerClock := hproducer
      producerKnows := hconsumer.trans hnew.symm }
    window := { h.window with
      freed := hnew.trans_le hreturned
      fits := by
        show _ ≤ reads (view.seen .readSequence) + _
        rw [hnew]
        exact hfits }
    slots := { h.slots with
      content := fun index event hindex => by
        refine h.slots.content index event (hmono.trans ?_)
        rwa [show RingState.freed _ = number from hnew] at hindex }
    producer := @ProducerInv.afterLoad { ring with producerView := view } reads
      ⟨hsized.positive, hsized.limited, hsized.unwrapped⟩ event number hle hfits write hwrite hnew
    consumer := h.consumer }

theorem Inv.pushDrop (h : Inv ring reads) :
    Inv { ring with
      memory := (fetchRelaxed ring.memory ring.producerView .droppedEvents (· + 1)).1
      producerView := (fetchRelaxed ring.memory ring.producerView .droppedEvents (· + 1)).2
      producer := .idle
      rejected := ring.rejected + 1 } reads := by
  obtain ⟨message, hlast, hvalue⟩ := h.dropped
  refine { h with
    counters := { h.counters with }
    window := { h.window with }
    slots := { h.slots with }
    producer := trivial
    consumer := h.consumer
    dropped := ⟨⟨message.value + 1, message.clock⟩, ?_, ?_⟩ }
  · simp [fetchRelaxed, hlast]
  · rw [hvalue, BitVec.ofNat_add]
    rfl

/-- The slot that the next event goes to. -/
abbrev RingState.nextSlot (ring : RingState) : Nat := ring.accepted.length % ring.capacity

theorem Slots.write (h : Slots ring reads)
    (hfits : ring.accepted.length < reads ring.freed + ring.capacity)
    (hclock : ring.producerView.clock .producer = ring.accepted.length + 1) (field : EventField)
    (value : BitVec 64) :
    Slots { ring with
      memory := writeCell .producer ring.memory ring.producerView (ring.nextSlot, field) value }
      reads := by
  refine ⟨?_, ?_, ?_, ?_⟩
  · intro index other hindex hfound field'
    obtain ⟨hbound, _⟩ := List.getElem?_eq_some_iff.mp hfound
    have hne := slot_ne hindex hbound hfits
    show _ = _ ∧ _ = _
    rw [writeCell_cells_of_ne fun heq => hne (Prod.mk.inj heq).1]
    exact h.content index other hindex hfound field'
  · intro cell
    obtain ⟨hwriter, hwritten, hread⟩ := h.produced cell
    by_cases hcell : cell = (ring.nextSlot, field)
    · subst hcell
      show _ = _ ∧ _ ≤ _ ∧ _ = _
      rw [writeCell_cells_self]
      exact ⟨rfl, hclock.le, hread⟩
    · show _ = _ ∧ _ ≤ _ ∧ _ = _
      rw [writeCell_cells_of_ne hcell]
      exact ⟨hwriter, hwritten, hread⟩
  · intro cell number hnumber hlt
    refine h.consumed cell number hnumber ?_
    rwa [writeCell_read] at hlt
  · intro cell
    rw [writeCell_read]
    exact h.readTime cell

theorem Inv.write_ordered (h : Inv ring reads)
    (hfits : ring.accepted.length < reads ring.freed + ring.capacity) (field : EventField)
    (value : BitVec 64) :
    ¬(writeCell .producer ring.memory ring.producerView (ring.nextSlot, field) value).raced := by
  obtain ⟨hwriter, hwritten, hread⟩ := h.slots.produced (ring.nextSlot, field)
  rintro (hraced | hlate | ⟨reader, hlate⟩)
  · exact h.ordered hraced
  · rw [hwriter, h.counters.producerClock] at hlate
    omega
  · cases reader with
    | producer =>
      rw [hread] at hlate
      omega
    | consumer =>
      rw [h.counters.producerKnows] at hlate
      obtain ⟨index, hslot, hle, hlt⟩ := h.slots.consumed _ _ h.window.freed hlate
      exact slot_ne hle (hlt.trans_le h.window.visible) hfits hslot

theorem Inv.pushWrite (h : Inv ring reads) (hsized : Sized ring) {event : HookselfEvent}
    {write value : BitVec 64} {field : EventField} {pending : List (EventField × BitVec 64)}
    (hstate : ring.producer = .copying event write ((field, value) :: pending)) :
    Inv { ring with
      memory := writeCell .producer ring.memory ring.producerView (ring.slot write, field) value
      producer := .copying event write pending } reads := by
  obtain ⟨hwrite, hfits, happly, hdone⟩ : ProducerInv ring reads _ := hstate ▸ h.producer
  have hslot : ring.slot write = ring.nextSlot := by
    rw [hwrite]
    exact hsized.slot le_rfl
  rw [hslot]
  have hslots := h.slots.write hfits h.counters.producerClock field value
  refine { h with
    counters := { h.counters with }
    window := { h.window with }
    slots := { hslots with }
    producer := ⟨hwrite, hfits, ?_, ?_⟩
    consumer := h.consumer
    ordered := h.write_ordered hfits field value }
  · rw [← happly, applyWrites, applyWrites, List.foldl_cons]
    congr 1
    funext other
    by_cases hother : other = field
    · rw [hother, Function.update_self, writeCell_cells_self]
    · rw [Function.update_of_ne hother,
        writeCell_cells_of_ne fun heq => hother (Prod.mk.inj heq).2]
  · intro other hother
    by_cases hfield : other = field
    · subst hfield
      show Cell.written _ = _
      rw [writeCell_cells_self]
      exact h.counters.producerClock
    · show Cell.written _ = _
      rw [writeCell_cells_of_ne fun heq => hfield (Prod.mk.inj heq).2]
      exact hdone other (by simp [hfield, hother])

/-- The ring after the store that publishes an event. -/
abbrev RingState.published (ring : RingState) (event : HookselfEvent) (write : BitVec 64) :
    RingState :=
  { ring with
    memory := (storeRelease .producer ring.memory ring.producerView .writeSequence (write + 1)).1
    producerView := (storeRelease .producer ring.memory ring.producerView .writeSequence
      (write + 1)).2
    producer := .idle
    accepted := ring.accepted ++ [storedEvent event write] }

theorem Counters.publish (h : Counters ring reads) (hfreed : ring.freed ≤ ring.returned)
    (event : HookselfEvent) {write : BitVec 64}
    (hwrite : write = BitVec.ofNat 64 ring.accepted.length) :
    Counters (ring.published event write) reads := by
  have hlength : (ring.published event write).accepted.length = ring.accepted.length + 1 :=
    List.length_append
  refine { h with
    writeLength := ?_
    writeMessage := ?_
    readMessage := ?_
    producerSeen := ?_
    producerClock := ?_ }
  · rw [hlength, storeRelease_length, h.writeLength]
  · intro number message hfound
    rcases storeRelease_message .producer hfound with hold | ⟨hnumber, rfl⟩
    · exact h.writeMessage number message hold
    · have hlast : number = ring.accepted.length + 1 := hnumber.trans h.writeLength
      refine ⟨?_, h.producerClock.trans hlast.symm, ?_⟩
      · rw [hlast, hwrite, BitVec.ofNat_add]
        rfl
      · show ring.producerView.clock .consumer ≤ ring.returned + 1
        rw [h.producerKnows]
        omega
  · intro number message hfound
    obtain ⟨hvalue, hconsumer, hproducer⟩ := h.readMessage number message hfound
    exact ⟨hvalue, hconsumer, by omega⟩
  · rw [hlength, storeRelease_seen, h.writeLength]
  · rw [hlength, storeRelease_clock, h.producerClock]

theorem Slots.publish (h : Slots ring reads) {event : HookselfEvent} {write : BitVec 64}
    (hcopied : ProducerInv ring reads (.copying event write [])) :
    Slots (ring.published event write) reads := by
  obtain ⟨_, _, happly, hdone⟩ := hcopied
  refine { h with
    content := ?_
    produced := ?_ }
  · intro index other hindex hfound field
    rw [List.getElem?_append] at hfound
    split_ifs at hfound with hlt
    · exact h.content index other hindex hfound field
    · obtain ⟨hbound, rfl⟩ := List.getElem?_eq_some_iff.mp hfound
      rw [List.length_singleton] at hbound
      obtain rfl : index = ring.accepted.length := by omega
      rw [List.getElem_singleton]
      exact ⟨congrFun happly field, hdone field List.not_mem_nil⟩
  · intro cell
    obtain ⟨hwriter, hwritten, hread⟩ := h.produced cell
    refine ⟨hwriter, hwritten.trans ?_, hread⟩
    show _ ≤ (ring.accepted ++ _).length + 1
    rw [List.length_append]
    omega

theorem ConsumerInv.publish {consumer : ConsumerState} (h : ConsumerInv ring reads consumer)
    (hvisible : ring.visible ≤ ring.accepted.length) (event : HookselfEvent) (write : BitVec 64) :
    ConsumerInv (ring.published event write) reads consumer := by
  cases consumer with
  | idle => exact trivial
  | loaded limit read => exact h
  | copying read count events event' missing =>
    obtain ⟨hread, hcount, hlength, hevents, hevent⟩ := h
    have hbound : reads ring.returned + events.length ≤ ring.accepted.length := by omega
    refine ⟨hread, hcount, hlength, ?_, ?_⟩
    · rw [List.take_append_of_le_length hbound]
      exact hevents
    · intro hmore other hfound
      have hlt : reads ring.returned + events.length < ring.accepted.length := by omega
      refine hevent hmore other ?_
      rwa [List.getElem?_append_left hlt] at hfound

theorem Inv.pushStoreWrite (h : Inv ring reads) {event : HookselfEvent} {write : BitVec 64}
    (hstate : ring.producer = .copying event write []) :
    Inv (ring.published event write) reads := by
  have hcopied : ProducerInv ring reads _ := hstate ▸ h.producer
  have hwrite := hcopied.1
  have hfits := hcopied.2.1
  have hvisible := h.window.visible
  have htaken := h.window.taken
  have hlength : (ring.published event write).accepted.length = ring.accepted.length + 1 :=
    List.length_append
  exact { h with
    counters := h.counters.publish h.window.freed event hwrite
    window := { h.window with
      visible := hvisible.trans (hlength ▸ Nat.le_succ _)
      fits := hlength ▸ hfits }
    slots := h.slots.publish hcopied
    producer := trivial
    consumer := h.consumer.publish hvisible event write
    received := by
      rw [List.take_append_of_le_length (htaken.trans hvisible)]
      exact h.received
    dropped := h.dropped
    ordered := h.ordered }

end HookSelf.EventRing
