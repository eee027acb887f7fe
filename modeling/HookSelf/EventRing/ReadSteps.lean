import HookSelf.EventRing.Invariant

namespace HookSelf.EventRing

open Config ReleaseAcquire

variable {ring : RingState} {reads : Nat → Nat}

theorem Inv.readLoadRead (h : Inv ring reads) (limit : Nat) {number : Nat} {read : BitVec 64}
    {view : RingView}
    (hload : loadRelaxed ring.memory ring.consumerView .readSequence number = some (read, view)) :
    Inv { ring with consumerView := view, consumer := .loaded limit read } reads := by
  obtain ⟨message, hseen, hfound, rfl, rfl⟩ := loadRelaxed_some hload
  obtain ⟨hbound, _⟩ := List.getElem?_eq_some_iff.mp hfound
  have hlength := h.counters.readLength
  obtain rfl : number = ring.returned := by
    have hle : ring.returned ≤ number := hseen
    omega
  obtain ⟨hvalue, _, _⟩ := h.counters.readMessage _ message hfound
  rw [Function.update_eq_self]
  exact { h with
    counters := { h.counters with }
    window := { h.window with }
    slots := { h.slots with }
    producer := h.producer
    consumer := hvalue }

theorem Inv.loadPublished (h : Inv ring reads) {number : Nat} {write : BitVec 64} {view : RingView}
    (hload : loadAcquire ring.memory ring.consumerView .writeSequence number = some (write, view)) :
    ring.visible ≤ number ∧ number ≤ ring.accepted.length ∧ write = BitVec.ofNat 64 number ∧
      view.seen = Function.update ring.consumerView.seen .writeSequence number ∧
      view.clock .consumer = ring.returned + 1 ∧ view.clock .producer = number := by
  obtain ⟨message, hseen, hfound, rfl, rfl⟩ := loadAcquire_some hload
  obtain ⟨hbound, _⟩ := List.getElem?_eq_some_iff.mp hfound
  obtain ⟨hvalue, hproducer, hconsumer⟩ := h.counters.writeMessage number message hfound
  have hlength := h.counters.writeLength
  refine ⟨hseen, by omega, hvalue, rfl, ?_, ?_⟩
  · show max _ _ = _
    rw [h.counters.consumerClock]
    exact max_eq_left hconsumer
  · show max _ _ = _
    rw [h.counters.consumerKnows, hproducer]
    exact max_eq_right hseen

theorem Inv.available (h : Inv ring reads) (hsized : Sized ring) {number : Nat}
    (hvisible : ring.visible ≤ number) (hnumber : number ≤ ring.accepted.length) :
    (BitVec.ofNat 64 number - BitVec.ofNat 64 (reads ring.returned)).toNat =
      number - reads ring.returned := by
  have hfits := h.window.fits
  have hmono := h.window.mono _ _ h.window.freed le_rfl
  have hcapacity := hsized.capacity_lt
  exact sub_toNat (h.window.taken.trans hvisible) (by omega)

theorem Inv.readLoadWrite (h : Inv ring reads) (hsized : Sized ring) {limit number : Nat}
    {read write : BitVec 64} {view : RingView} (hstate : ring.consumer = .loaded limit read)
    (hload : loadAcquire ring.memory ring.consumerView .writeSequence number = some (write, view)) :
    Inv { ring with
      consumerView := view
      consumer := .copying read (min (write - read).toNat limit) [] (fun _ => 0) copyOrder }
      reads := by
  obtain ⟨clock, seen⟩ := view
  obtain ⟨hvisible, hnumber, rfl, rfl, hconsumer, hproducer⟩ := h.loadPublished hload
  obtain rfl : ConsumerInv ring reads _ := hstate ▸ h.consumer
  rw [h.available hsized hvisible hnumber]
  have htaken := h.window.taken.trans hvisible
  refine { h with
    counters := { h.counters with
      consumerClock := hconsumer
      consumerKnows := hproducer }
    window := { h.window with
      taken := htaken
      visible := hnumber }
    slots := { h.slots with
      consumed := ?_ }
    producer := h.producer
    consumer := ⟨rfl, ?_, Nat.zero_le _, ?_, ?_⟩ }
  · intro cell other hother hlt
    obtain ⟨index, hslot, hle, hindex⟩ := h.slots.consumed cell other hother hlt
    exact ⟨index, hslot, hle, hindex.trans_le hvisible⟩
  · show reads ring.returned + _ ≤ number
    omega
  · rw [List.append_nil]
    exact h.received
  · intro _ _ _ field hfield
    exact absurd (mem_copyOrder field) hfield

theorem Inv.readCell_ordered (h : Inv ring reads) {index : Nat} (hle : reads ring.returned ≤ index)
    (hlt : index < ring.visible) (field : EventField) :
    ¬(readCell .consumer ring.memory ring.consumerView (index % ring.capacity, field)).2.raced := by
  have hmono := h.window.mono _ _ h.window.freed le_rfl
  have hfound := List.getElem?_eq_getElem (hlt.trans_le h.window.visible)
  obtain ⟨_, hwritten⟩ := h.slots.content index _ (hmono.trans hle) hfound field
  obtain ⟨hwriter, _, _⟩ := h.slots.produced (index % ring.capacity, field)
  rintro (hraced | hlate)
  · exact h.ordered hraced
  · rw [hwriter, hwritten, h.counters.consumerKnows] at hlate
    omega

theorem Slots.read (h : Slots ring reads)
    (hclock : ring.consumerView.clock .consumer = ring.returned + 1)
    (hmono : ∀ number number', number ≤ number' → number' ≤ ring.returned →
      reads number ≤ reads number') {index : Nat} (hle : reads ring.returned ≤ index)
    (hlt : index < ring.visible) (field : EventField) :
    Slots { ring with
      memory := (readCell .consumer ring.memory ring.consumerView
        (index % ring.capacity, field)).2 } reads := by
  refine ⟨?_, ?_, ?_, ?_⟩
  · intro other event hother hfound field'
    show _ = _ ∧ _ = _
    rw [readCell_content.1, readCell_content.2.2]
    exact h.content other event hother hfound field'
  · intro cell
    obtain ⟨hwriter, hwritten, hread⟩ := h.produced cell
    show _ = _ ∧ _ ≤ _ ∧ _ = _
    rw [readCell_content.2.1, readCell_content.2.2]
    refine ⟨hwriter, hwritten, ?_⟩
    by_cases hcell : cell = (index % ring.capacity, field)
    · subst hcell
      rw [readCell_cells_self]
      exact hread
    · rw [readCell_cells_of_ne hcell]
      exact hread
  · intro cell number hnumber hnew
    by_cases hcell : cell = (index % ring.capacity, field)
    · subst hcell
      exact ⟨index, rfl, (hmono _ _ hnumber le_rfl).trans hle, hlt⟩
    · rw [readCell_cells_of_ne hcell] at hnew
      exact h.consumed cell number hnumber hnew
  · intro cell
    by_cases hcell : cell = (index % ring.capacity, field)
    · subst hcell
      rw [readCell_cells_self]
      exact hclock.le
    · rw [readCell_cells_of_ne hcell]
      exact h.readTime cell

theorem ProducerInv.read {producer : ProducerState} (h : ProducerInv ring reads producer)
    (cell : SlotCell) :
    ProducerInv { ring with
      memory := (readCell .consumer ring.memory ring.consumerView cell).2 } reads producer := by
  cases producer with
  | idle => exact trivial
  | full => exact trivial
  | loaded event write => exact h
  | copying event write pending =>
    obtain ⟨hwrite, hfits, happly, hdone⟩ := h
    refine ⟨hwrite, hfits, ?_, fun field hfield => ?_⟩
    · simp only [readCell_content.1]
      exact happly
    · rw [readCell_content.2.2]
      exact hdone field hfield

theorem Inv.readSlot (h : Inv ring reads) (hsized : Sized ring) {read : BitVec 64} {count : Nat}
    {events : List HookselfEvent} {event : HookselfEvent} {first rest : List EventField}
    {field : EventField}
    (hstate : ring.consumer = .copying read count events event (first ++ field :: rest))
    (hmore : events.length < count) :
    Inv { ring with
      memory := (readCell .consumer ring.memory ring.consumerView
        (ring.slot (read + BitVec.ofNat 64 events.length), field)).2
      consumer := .copying read count events
        (Function.update event field (readCell .consumer ring.memory ring.consumerView
          (ring.slot (read + BitVec.ofNat 64 events.length), field)).1)
        (first ++ rest) } reads := by
  obtain ⟨rfl, hcount, hlength, hevents, hevent⟩ : ConsumerInv ring reads _ := hstate ▸ h.consumer
  have hvisible : reads ring.returned + events.length < ring.visible := by omega
  have haccepted := hvisible.trans_le h.window.visible
  rw [← BitVec.ofNat_add, hsized.slot haccepted.le]
  refine { h with
    counters := { h.counters with }
    window := { h.window with }
    slots := { h.slots.read h.counters.consumerClock h.window.mono (Nat.le_add_right _ _) hvisible
      field with }
    producer := h.producer.read _
    consumer := ⟨rfl, hcount, hlength, hevents, ?_⟩
    ordered := h.readCell_ordered (Nat.le_add_right _ _) hvisible field }
  intro _ event' hfound other hother
  by_cases hfield : other = field
  · subst hfield
    rw [Function.update_self]
    have hmono := h.window.mono _ _ h.window.freed le_rfl
    exact (h.slots.content _ event' (hmono.trans (Nat.le_add_right _ _)) hfound other).1
  · rw [Function.update_of_ne hfield]
    refine hevent hmore event' hfound other ?_
    rw [List.mem_append, List.mem_cons]
    rintro (hmem | heq | hmem)
    · exact hother (List.mem_append_left _ hmem)
    · exact hfield heq
    · exact hother (List.mem_append_right _ hmem)

theorem Inv.readNext (h : Inv ring reads) {read : BitVec 64} {count : Nat}
    {events : List HookselfEvent} {event : HookselfEvent}
    (hstate : ring.consumer = .copying read count events event []) (hmore : events.length < count) :
    Inv { ring with consumer := .copying read count (events ++ [event]) (fun _ => 0) copyOrder }
      reads := by
  obtain ⟨rfl, hcount, hlength, hevents, hevent⟩ : ConsumerInv ring reads _ := hstate ▸ h.consumer
  have hvisible := h.window.visible
  have hfound := List.getElem?_eq_getElem
    (show reads ring.returned + events.length < ring.accepted.length by omega)
  have hfull : event = _ := funext fun field => hevent hmore _ hfound field List.not_mem_nil
  refine { h with
    counters := { h.counters with }
    window := { h.window with }
    slots := { h.slots with }
    producer := h.producer
    consumer := ⟨rfl, hcount, ?_, ?_, ?_⟩ }
  · rw [List.length_append]
    exact hmore
  · rw [List.length_append, List.length_singleton, ← Nat.add_assoc, List.take_add_one,
      ← List.append_assoc, hevents]
    show _ = _ ++ (ring.accepted[reads ring.returned + events.length]?).toList
    rw [hfound, ← hfull]
    rfl
  · intro _ _ _ field hfield
    exact absurd (mem_copyOrder field) hfield

/-- The ring after the store that gives the slots back. -/
abbrev RingState.released (ring : RingState) (read : BitVec 64) (count : Nat)
    (events : List HookselfEvent) : RingState :=
  { ring with
    memory := (storeRelease .consumer ring.memory ring.consumerView .readSequence
      (read + BitVec.ofNat 64 count)).1
    consumerView := (storeRelease .consumer ring.memory ring.consumerView .readSequence
      (read + BitVec.ofNat 64 count)).2
    consumer := .idle
    received := ring.received ++ events }

/-- The stores of the consumer with one more. -/
abbrev RingState.nextReads (ring : RingState) (reads : Nat → Nat) (count : Nat) : Nat → Nat :=
  Function.update reads (ring.returned + 1) (reads ring.returned + count)

theorem nextReads_old {number count : Nat} (h : number ≤ ring.returned) :
    ring.nextReads reads count number = reads number :=
  Function.update_of_ne (by omega) _ _

theorem nextReads_new (ring : RingState) (reads : Nat → Nat) (count : Nat) :
    ring.nextReads reads count (ring.returned + 1) = reads ring.returned + count :=
  Function.update_self _ _ _

theorem Counters.returned_released (h : Counters ring reads) (read : BitVec 64) (count : Nat)
    (events : List HookselfEvent) :
    (ring.released read count events).returned = ring.returned + 1 := by
  rw [RingState.returned, storeRelease_seen, h.readLength]

theorem Counters.release (h : Counters ring reads) (hvisible : ring.visible ≤ ring.accepted.length)
    {read : BitVec 64} (hread : read = BitVec.ofNat 64 (reads ring.returned)) (count : Nat)
    (events : List HookselfEvent) :
    Counters (ring.released read count events) (ring.nextReads reads count) := by
  have hreturned := h.returned_released read count events
  refine { h with
    readLength := ?_
    writeMessage := ?_
    readMessage := ?_
    consumerClock := ?_ }
  · rw [storeRelease_length, hreturned, h.readLength]
  · intro number message hfound
    obtain ⟨hvalue, hproducer, hconsumer⟩ := h.writeMessage number message hfound
    exact ⟨hvalue, hproducer, by omega⟩
  · intro number message hfound
    rcases storeRelease_message .consumer hfound with hold | ⟨hnumber, rfl⟩
    · obtain ⟨hbound, _⟩ := List.getElem?_eq_some_iff.mp hold
      have hlength := h.readLength
      rw [nextReads_old (by omega)]
      exact h.readMessage number message hold
    · have hlast : number = ring.returned + 1 := hnumber.trans h.readLength
      refine ⟨?_, h.consumerClock.trans hlast.symm, ?_⟩
      · rw [hlast, hread, nextReads_new, BitVec.ofNat_add]
      · show ring.consumerView.clock .producer ≤ ring.accepted.length + 1
        rw [h.consumerKnows]
        omega
  · rw [storeRelease_clock, h.consumerClock, hreturned]

theorem Window.release (h : Window ring reads) {read : BitVec 64} {count : Nat}
    {events : List HookselfEvent} (hcount : reads ring.returned + count ≤ ring.visible)
    (hreturned : (ring.released read count events).returned = ring.returned + 1) :
    Window (ring.released read count events) (ring.nextReads reads count) := by
  refine { h with
    start := ?_
    mono := ?_
    freed := ?_
    taken := ?_
    fits := ?_ }
  · rw [nextReads_old (Nat.zero_le _)]
    exact h.start
  · intro number number' hle hbound
    rw [hreturned] at hbound
    rcases Nat.lt_or_ge ring.returned number' with hnew | hold
    · obtain rfl : number' = ring.returned + 1 := by omega
      rw [nextReads_new]
      rcases Nat.lt_or_ge ring.returned number with hlast | hearly
      · obtain rfl : number = ring.returned + 1 := by omega
        rw [nextReads_new]
      · rw [nextReads_old hearly]
        have := h.mono _ _ hearly le_rfl
        omega
    · rw [nextReads_old hold, nextReads_old (hle.trans hold)]
      exact h.mono _ _ hle hold
  · rw [hreturned]
    exact h.freed.trans (Nat.le_succ _)
  · rw [hreturned, nextReads_new]
    exact hcount
  · rw [nextReads_old h.freed]
    exact h.fits

theorem Slots.release (h : Slots ring reads) (hfreed : ring.freed ≤ ring.returned)
    {read : BitVec 64} {count : Nat} {events : List HookselfEvent}
    (hreturned : (ring.released read count events).returned = ring.returned + 1) :
    Slots (ring.released read count events) (ring.nextReads reads count) := by
  refine { h with
    content := ?_
    consumed := ?_
    readTime := ?_ }
  · rw [nextReads_old hfreed]
    exact h.content
  · intro cell number hnumber hlt
    have hold : number ≤ ring.returned := by
      have := h.readTime cell
      have : number < (ring.memory.cells cell).read .consumer := hlt
      omega
    rw [nextReads_old hold]
    exact h.consumed cell number hold hlt
  · intro cell
    rw [hreturned]
    exact (h.readTime cell).trans (Nat.le_succ _)

theorem ProducerInv.release {producer : ProducerState} (h : ProducerInv ring reads producer)
    (hfreed : ring.freed ≤ ring.returned) (read : BitVec 64) (count : Nat)
    (events : List HookselfEvent) :
    ProducerInv (ring.released read count events) (ring.nextReads reads count) producer := by
  cases producer with
  | idle => exact trivial
  | full => exact trivial
  | loaded event write => exact h
  | copying event write pending =>
    obtain ⟨hwrite, hfits, happly, hdone⟩ := h
    refine ⟨hwrite, ?_, happly, hdone⟩
    rw [nextReads_old hfreed]
    exact hfits

theorem Inv.readStoreRead (h : Inv ring reads) {read : BitVec 64} {count : Nat}
    {events : List HookselfEvent} {event : HookselfEvent} {missing : List EventField}
    (hstate : ring.consumer = .copying read count events event missing)
    (hdone : events.length = count) :
    Inv (ring.released read count events) (ring.nextReads reads count) := by
  obtain ⟨hread, hcount, _, hevents, _⟩ : ConsumerInv ring reads _ := hstate ▸ h.consumer
  have hreturned := h.counters.returned_released read count events
  exact {
    counters := h.counters.release h.window.visible hread count events
    window := h.window.release hcount hreturned
    slots := h.slots.release h.window.freed hreturned
    producer := h.producer.release h.window.freed read count events
    consumer := trivial
    received := by
      rw [hreturned, nextReads_new, ← hdone]
      exact hevents
    dropped := h.dropped
    ordered := h.ordered }

end HookSelf.EventRing
