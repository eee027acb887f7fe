import HookSelf.EventRing.PushSteps
import HookSelf.EventRing.ReadSteps

/-! What the consumer receives and what the drop counter says, for every interleaving. -/

namespace HookSelf.EventRing

open Config ReleaseAcquire

theorem Step.sized {ring ring' : RingState} (step : Step ring ring') (h : Sized ring') :
    Sized ring := by
  obtain ⟨hpositive, hlimited, hwrap⟩ := h
  cases step with
  | pushStoreWrite =>
    refine ⟨hpositive, hlimited, hwrap.imp_left fun hlength => ?_⟩
    rw [List.length_append] at hlength
    omega
  | _ => exact ⟨hpositive, hlimited, hwrap⟩

theorem Step.inv {ring ring' : RingState} {reads : Nat → Nat} (step : Step ring ring')
    (hsized : Sized ring) (h : Inv ring reads) : ∃ reads', Inv ring' reads' := by
  cases step with
  | pushLoadWrite event _ hload => exact ⟨reads, h.pushLoadWrite event hload⟩
  | pushLoadRead hstate hload => exact ⟨reads, h.pushLoadRead hsized hstate hload⟩
  | pushDrop => exact ⟨reads, h.pushDrop⟩
  | pushWrite hstate => exact ⟨reads, h.pushWrite hsized hstate⟩
  | pushStoreWrite hstate => exact ⟨reads, h.pushStoreWrite hstate⟩
  | readLoadRead _ _ hload => exact ⟨reads, h.readLoadRead _ hload⟩
  | readLoadWrite hstate hload => exact ⟨reads, h.readLoadWrite hsized hstate hload⟩
  | readSlot hstate hmore => exact ⟨reads, h.readSlot hsized hstate hmore⟩
  | readNext hstate hmore => exact ⟨reads, h.readNext hstate hmore⟩
  | readStoreRead hstate hdone => exact ⟨_, h.readStoreRead hstate hdone⟩

theorem Inv.initial {memorySize capacity : Nat} {header : EventRingHeader}
    (hinit : initializeEventRing memorySize capacity = some header) :
    Inv (initialRing header) fun _ => 0 := by
  unfold initializeEventRing at hinit
  split_ifs at hinit
  obtain rfl := Option.some.inj hinit
  refine {
    counters := {
      writeLength := rfl
      readLength := rfl
      writeMessage := ?_
      readMessage := ?_
      producerSeen := rfl
      producerClock := rfl
      producerKnows := rfl
      consumerClock := rfl
      consumerKnows := rfl }
    window := ⟨rfl, fun _ _ _ _ => le_rfl, le_rfl, le_rfl, le_rfl, Nat.zero_le _⟩
    slots := ⟨nofun, fun _ => ⟨rfl, Nat.zero_le _, rfl⟩, nofun, fun _ => Nat.zero_le _⟩
    producer := trivial
    consumer := trivial
    received := rfl
    dropped := ⟨_, rfl, rfl⟩
    ordered := id }
  · intro number message hfound
    obtain ⟨hbound, rfl⟩ := List.getElem?_eq_some_iff.mp hfound
    obtain rfl : number = 0 := Nat.lt_one_iff.mp hbound
    exact ⟨rfl, rfl, Nat.zero_le _⟩
  · intro number message hfound
    obtain ⟨hbound, rfl⟩ := List.getElem?_eq_some_iff.mp hfound
    obtain rfl : number = 0 := Nat.lt_one_iff.mp hbound
    exact ⟨rfl, rfl, Nat.zero_le _⟩

theorem Reachable.capacity {header : EventRingHeader} {ring : RingState}
    (h : Reachable header ring) : ring.capacity = header.capacity := by
  induction h with
  | initial => rfl
  | step _ step ih => cases step <;> exact ih

theorem Reachable.inv {memorySize capacity : Nat} {header : EventRingHeader}
    (hinit : initializeEventRing memorySize capacity = some header) {ring : RingState}
    (h : Reachable header ring) (hsized : Sized ring) : ∃ reads, Inv ring reads := by
  induction h with
  | initial => exact ⟨_, .initial hinit⟩
  | step _ step ih =>
    have hbefore := step.sized hsized
    obtain ⟨reads, hinv⟩ := ih hbefore
    exact step.inv hbefore hinv

theorem initializeEventRing_capacity {memorySize capacity : Nat} {header : EventRingHeader}
    (hinit : initializeEventRing memorySize capacity = some header) :
    header.capacity = capacity ∧ 0 < capacity ∧ capacity ≤ maxEventCapacity := by
  unfold initializeEventRing at hinit
  split_ifs at hinit with hbad
  obtain rfl := Option.some.inj hinit
  unfold eventRingBytes at hbad
  split_ifs at hbad with hcapacity
  · exact absurd (.inl rfl) hbad
  · exact ⟨rfl, by omega, by omega⟩

theorem Reachable.sized {memorySize capacity : Nat} {header : EventRingHeader}
    (hinit : initializeEventRing memorySize capacity = some header) {ring : RingState}
    (h : Reachable header ring) (hwrap : ring.accepted.length < 2 ^ 64 ∨ capacity ∣ 2 ^ 64) :
    Sized ring := by
  obtain ⟨hcapacity, hpositive, hlimited⟩ := initializeEventRing_capacity hinit
  have hsame := h.capacity.trans hcapacity
  exact ⟨hsame ▸ hpositive, hsame ▸ hlimited, hsame ▸ hwrap⟩

section Read

variable {ring : RingState} {reads : Nat → Nat} {read : BitVec 64} {count : Nat}
  {events : List HookselfEvent} {event : HookselfEvent}

/-- Some run leads on, without a push that ends or a read that returns. -/
structure Leads (ring ring' : RingState) : Prop where
  run : Relation.ReflTransGen Step ring ring'
  accepted : ring'.accepted = ring.accepted
  received : ring'.received = ring.received

theorem Leads.trans {ring' ring'' : RingState} (h : Leads ring ring') (h' : Leads ring' ring'') :
    Leads ring ring'' :=
  ⟨h.run.trans h'.run, h'.accepted.trans h.accepted, h'.received.trans h.received⟩

theorem leads_field {field : EventField} {rest : List EventField}
    (hstate : ring.consumer = .copying read count events event (field :: rest))
    (hmore : events.length < count) :
    ∃ ring' event', Leads ring ring' ∧ ring'.consumer = .copying read count events event' rest :=
  ⟨_, _, ⟨.single (@Step.readSlot ring read count events event [] rest field hstate hmore), rfl,
    rfl⟩, rfl⟩

theorem leads_slot {missing : List EventField}
    (hstate : ring.consumer = .copying read count events event missing)
    (hmore : events.length < count) :
    ∃ ring' event', Leads ring ring' ∧ ring'.consumer = .copying read count events event' [] := by
  induction missing generalizing ring event with
  | nil => exact ⟨ring, event, ⟨.refl, rfl, rfl⟩, hstate⟩
  | cons field rest ih =>
    obtain ⟨ring', event', hfield, hstate'⟩ := leads_field hstate hmore
    obtain ⟨ring'', event'', hrest, hdone⟩ := ih hstate'
    exact ⟨ring'', event'', hfield.trans hrest, hdone⟩

theorem leads_slots {missing : List EventField} {left : Nat}
    (hstate : ring.consumer = .copying read count events event missing)
    (hleft : events.length + left = count) :
    ∃ ring' events' event' missing', Leads ring ring' ∧
      ring'.consumer = .copying read count events' event' missing' ∧ events'.length = count := by
  induction left generalizing ring events event missing with
  | zero => exact ⟨ring, events, event, missing, ⟨.refl, rfl, rfl⟩, hstate, hleft⟩
  | succ left ih =>
    obtain ⟨ring', event', hslot, hstate'⟩ := leads_slot hstate (by omega)
    have hnext : Leads ring' _ := ⟨.single (.readNext hstate' (by omega)), rfl, rfl⟩
    have hlength : (events ++ [event']).length + left = count := by
      rw [List.length_append, List.length_singleton]
      omega
    obtain ⟨ring'', events'', event'', missing'', hrest, hdone⟩ := @ih
      { ring' with consumer := .copying read count (events ++ [event']) (fun _ => 0) copyOrder }
      _ _ _ rfl hlength
    exact ⟨ring'', events'', event'', missing'', (hslot.trans hnext).trans hrest, hdone⟩

theorem Counters.newestWrite (h : Counters ring reads) :
    ∃ message, (ring.memory.history .writeSequence)[ring.accepted.length]? = some message ∧
      message.value = BitVec.ofNat 64 ring.accepted.length := by
  have hfound := List.getElem?_eq_getElem
    (show ring.accepted.length < (ring.memory.history .writeSequence).length by
      rw [h.writeLength]
      exact Nat.lt_succ_self _)
  exact ⟨_, hfound, (h.writeMessage _ _ hfound).1⟩

theorem Counters.newestRead (h : Counters ring reads) :
    ∃ message, (ring.memory.history .readSequence)[ring.returned]? = some message ∧
      message.value = BitVec.ofNat 64 (reads ring.returned) := by
  have hfound := List.getElem?_eq_getElem
    (show ring.returned < (ring.memory.history .readSequence).length by
      rw [h.readLength]
      exact Nat.lt_succ_self _)
  exact ⟨_, hfound, (h.readMessage _ _ hfound).1⟩

theorem Inv.leads_copying (h : Inv ring reads) (hsized : Sized ring) (hidle : ring.consumer = .idle)
    {limit : Nat} (hlimit : limit ≠ 0) :
    ∃ ring' read event, Leads ring ring' ∧ ring'.consumer = .copying read
      (min (ring.accepted.length - reads ring.returned) limit) [] event copyOrder := by
  obtain ⟨readMessage, hread, hreadValue⟩ := h.counters.newestRead
  obtain ⟨writeMessage, hwrite, hwriteValue⟩ := h.counters.newestWrite
  have hfirst := loadRelaxed_of_seen le_rfl hread
  rw [Function.update_eq_self] at hfirst
  have hsecond := loadAcquire_of_seen h.window.visible hwrite
  have hvalue := h.available hsized h.window.visible le_rfl
  rw [← hwriteValue, ← hreadValue] at hvalue
  rw [← hvalue]
  exact ⟨_, _, _, ⟨.tail (.single (.readLoadRead hlimit hidle hfirst)) (.readLoadWrite rfl hsecond),
    rfl, rfl⟩, rfl⟩

theorem Inv.returns (h : Inv ring reads) (hsized : Sized ring) (hidle : ring.consumer = .idle)
    {limit : Nat} (hlimit : limit ≠ 0) :
    ∃ ring', Relation.ReflTransGen Step ring ring' ∧ ring'.consumer = .idle ∧
      ring'.accepted = ring.accepted ∧
      ring'.received.length = min (ring.received.length + limit) ring.accepted.length := by
  obtain ⟨ring', read, event, hloads, hstate⟩ := h.leads_copying hsized hidle hlimit
  obtain ⟨ring'', events, event', missing, hslots, hstate', hcount⟩ :=
    leads_slots hstate (Nat.zero_add _)
  have hleads := hloads.trans hslots
  refine ⟨_, hleads.run.tail (.readStoreRead hstate' hcount), rfl, hleads.accepted, ?_⟩
  rw [List.length_append, hcount, hleads.received, h.received, List.length_take]
  have := h.window.taken
  have := h.window.visible
  omega

/-- The run of one call: it ends as soon as the consumer is idle. -/
abbrev CallRun : RingState → RingState → Prop :=
  Relation.ReflTransGen fun before after => Step before after ∧ before.consumer ≠ .idle

/-- The call that loaded at `ring` goes on, or has returned `count` events. -/
structure InCall (ring : RingState) (count : Nat) (ring' : RingState) : Prop where
  accepted : ring.accepted <+: ring'.accepted
  state : (ring'.received = ring.received ∧ ∃ read events event missing,
      ring'.consumer = .copying read count events event missing) ∨
    (ring'.consumer = .idle ∧ ring'.received.length = ring.received.length + count)

theorem InCall.step {ring' ring'' : RingState} (h : InCall ring count ring')
    (step : Step ring' ring'') (hbusy : ring'.consumer ≠ .idle) : InCall ring count ring'' := by
  obtain ⟨hreceived, read, events, event, missing, hcopying⟩ :=
    h.state.resolve_right fun hidle => hbusy hidle.1
  have hsame : ∀ {read' count' events' event' missing'},
      ring'.consumer = .copying read' count' events' event' missing' → count' = count :=
    fun hstate => (ConsumerState.copying.inj (hstate.symm.trans hcopying)).2.1
  cases step with
  | readLoadRead _ hidle => exact absurd hidle hbusy
  | readLoadWrite hloaded => exact nomatch hloaded.symm.trans hcopying
  | readSlot hstate =>
    obtain rfl := hsame hstate
    exact ⟨h.accepted, .inl ⟨hreceived, _, _, _, _, rfl⟩⟩
  | readNext hstate =>
    obtain rfl := hsame hstate
    exact ⟨h.accepted, .inl ⟨hreceived, _, _, _, _, rfl⟩⟩
  | readStoreRead hstate hdone =>
    refine ⟨h.accepted, .inr ⟨rfl, ?_⟩⟩
    rw [List.length_append, hreceived, hdone, hsame hstate]
  | pushStoreWrite =>
    exact ⟨h.accepted.trans (List.prefix_append ..),
      .inl ⟨hreceived, read, events, event, missing, hcopying⟩⟩
  | _ => exact ⟨h.accepted, .inl ⟨hreceived, read, events, event, missing, hcopying⟩⟩

theorem InCall.run {ring' ring'' : RingState} (h : InCall ring count ring')
    (run : CallRun ring' ring'') : InCall ring count ring'' := by
  induction run with
  | refl => exact h
  | tail _ step ih => exact ih.step step.1 step.2

/-- The second load of a call fixes how many events it returns. -/
theorem Inv.inCall_of_load (h : Inv ring reads) (hsized : Sized ring) {ring' : RingState}
    (step : Step ring ring') {limit : Nat} (hloaded : ring.consumer = .loaded limit read)
    (hload : ring'.consumer ≠ ring.consumer) :
    InCall ring (min ring'.visible (ring.received.length + limit) - ring.received.length) ring' ∧
      ring.received.length ≤ ring'.visible ∧ ring'.visible ≤ ring.accepted.length := by
  cases step with
  | readLoadRead _ hidle => exact nomatch hidle.symm.trans hloaded
  | readLoadWrite hstate hacquire =>
    obtain ⟨hlimit, rfl⟩ := ConsumerState.loaded.inj (hstate.symm.trans hloaded)
    obtain ⟨hvisible, hnumber, rfl, hseen, -, -⟩ := h.loadPublished hacquire
    obtain rfl : ConsumerInv ring reads _ := hloaded ▸ h.consumer
    have htaken := h.window.taken.trans hvisible
    have hlength : ring.received.length = reads ring.returned := by
      rw [h.received, List.length_take, min_eq_left (htaken.trans hnumber)]
    have hcount (number : Nat) : min number (reads ring.returned + limit) - reads ring.returned =
        min (number - reads ring.returned) limit := by
      omega
    simp only [RingState.visible, hseen, Function.update_self, h.available hsized hvisible hnumber,
      hlimit, hlength, hcount]
    exact ⟨⟨List.prefix_refl _, .inl ⟨rfl, _, _, _, _, rfl⟩⟩, htaken, hnumber⟩
  | readSlot hstate => exact nomatch hstate.symm.trans hloaded
  | readNext hstate => exact nomatch hstate.symm.trans hloaded
  | readStoreRead hstate => exact nomatch hstate.symm.trans hloaded
  | _ => exact absurd rfl hload

end Read

theorem Reachable.run {header : EventRingHeader} {ring ring' : RingState}
    (h : Reachable header ring) (run : Relation.ReflTransGen Step ring ring') :
    Reachable header ring' := by
  induction run with
  | refl => exact h
  | tail _ step ih => exact ih.step step

theorem Inv.received_take {ring : RingState} {reads : Nat → Nat} (h : Inv ring reads) :
    ring.received = ring.accepted.take ring.received.length := by
  have htaken := h.window.taken.trans h.window.visible
  rw [h.received, List.length_take, min_eq_left htaken]

/-- What a call returns, from the store of `write_sequence` it has seen at its load. -/
theorem Reachable.returned_of_load {memorySize capacity : Nat} {header : EventRingHeader}
    (hinit : initializeEventRing memorySize capacity = some header) {ring loaded ring' : RingState}
    (hreach : Reachable header ring) (hwrap : ring.accepted.length < 2 ^ 64 ∨ capacity ∣ 2 ^ 64)
    {limit : Nat} {read : BitVec 64} (hconsumer : ring.consumer = .loaded limit read)
    (step : Step ring loaded) (hload : loaded.consumer ≠ ring.consumer) (run : CallRun loaded ring')
    (hidle : ring'.consumer = .idle)
    (hwrap' : ring'.accepted.length < 2 ^ 64 ∨ capacity ∣ 2 ^ 64) :
    ring'.received = ring.accepted.take (min loaded.visible (ring.received.length + limit)) := by
  have hsized := hreach.sized hinit hwrap
  obtain ⟨reads, hinv⟩ := hreach.inv hinit hsized
  obtain ⟨hcall, hold, hvisible⟩ := hinv.inCall_of_load hsized step hconsumer hload
  have hreturned := hcall.run run
  have hreach' : Reachable header ring' := (hreach.step step).run (run.lift id fun _ _ h => h.1)
  obtain ⟨reads', hinv'⟩ := hreach'.inv hinit (hreach'.sized hinit hwrap')
  obtain ⟨more, hmore⟩ := hreturned.accepted
  rcases hreturned.state with ⟨-, _, _, _, _, hcopying⟩ | ⟨-, hlength⟩
  · exact nomatch hidle.symm.trans hcopying
  · have hcount : ring'.received.length = min loaded.visible (ring.received.length + limit) := by
      omega
    rw [hinv'.received_take, hcount, ← hmore, List.take_append_of_le_length (by omega)]

section Push

variable {ring : RingState} {reads : Nat → Nat}

structure Pushing (ring ring' : RingState) : Prop where
  run : Relation.ReflTransGen Step ring ring'
  capacity : ring'.capacity = ring.capacity
  consumerView : ring'.consumerView = ring.consumerView
  consumer : ring'.consumer = ring.consumer
  accepted : ring'.accepted = ring.accepted
  rejected : ring'.rejected = ring.rejected

theorem Inv.pushing_loads (h : Inv ring reads) (hsized : Sized ring) (hidle : ring.producer = .idle)
    (event : HookselfEvent) :
    ∃ ring' write, Pushing ring ring' ∧ ring'.producer =
      if ring.accepted.length - reads ring.returned ≥ ring.capacity then .full
      else .copying event write (slotWrites event write) := by
  obtain ⟨readMessage, hread, hreadValue⟩ := h.counters.newestRead
  obtain ⟨writeMessage, hwrite, hwriteValue⟩ := h.counters.newestWrite
  have hfirst := loadRelaxed_of_seen h.counters.producerSeen.le hwrite
  rw [(h.loadWrite hfirst).2] at hfirst
  have hsecond := loadAcquire_of_seen h.window.freed hread
  have hfree := h.available hsized h.window.visible le_rfl
  rw [← hwriteValue, ← hreadValue] at hfree
  have hloaded := @Step.pushLoadRead { ring with producer := .loaded event writeMessage.value }
    _ _ _ _ _ rfl hsecond
  rw [← hfree]
  exact ⟨_, _, ⟨.tail (.single (.pushLoadWrite event hidle hfirst)) hloaded, rfl, rfl, rfl, rfl,
    rfl⟩,
    rfl⟩

theorem pushing_slot {event : HookselfEvent} {write : BitVec 64}
    {pending : List (EventField × BitVec 64)}
    (hstate : ring.producer = .copying event write pending) :
    ∃ ring', Pushing ring ring' ∧ ring'.producer = .copying event write [] := by
  induction pending generalizing ring with
  | nil => exact ⟨ring, ⟨.refl, rfl, rfl, rfl, rfl, rfl⟩, hstate⟩
  | cons first pending ih =>
    obtain ⟨field, value⟩ := first
    obtain ⟨ring', hrest, hstate'⟩ := @ih { ring with
      memory := writeCell .producer ring.memory ring.producerView (ring.slot write, field) value
      producer := .copying event write pending } rfl
    exact ⟨ring', { hrest with run := .head (.pushWrite hstate) hrest.run }, hstate'⟩

structure Filled (ring : RingState) : Prop where
  idle : ring.producer = .idle
  unread : ring.returned = 0
  full : ring.accepted.length = ring.capacity

theorem Inv.rejects (h : Inv ring reads) (hsized : Sized ring) (hfilled : Filled ring) :
    ∃ ring', Relation.ReflTransGen Step ring ring' ∧ Filled ring' ∧
      ring'.accepted = ring.accepted ∧ ring'.rejected = ring.rejected + 1 := by
  obtain ⟨ring', _, hpushing, hstate⟩ := h.pushing_loads hsized hfilled.idle fun _ => 0
  have hfull : ring.accepted.length - reads ring.returned ≥ ring.capacity := by
    rw [hfilled.unread, h.window.start, hfilled.full]
    exact le_rfl
  rw [if_pos hfull] at hstate
  refine ⟨_, hpushing.run.tail (.pushDrop hstate), ⟨rfl, ?_, ?_⟩, hpushing.accepted,
    congrArg (· + 1) hpushing.rejected⟩
  · rw [← hfilled.unread, RingState.returned, RingState.returned, hpushing.consumerView]
  · rw [hpushing.accepted, hpushing.capacity]
    exact hfilled.full

theorem Reachable.rejects {memorySize capacity : Nat} {header : EventRingHeader}
    (hinit : initializeEventRing memorySize capacity = some header)
    (hreach : Reachable header ring) (hfilled : Filled ring) (count : Nat) :
    ∃ ring', Reachable header ring' ∧ Filled ring' ∧ ring'.accepted = ring.accepted ∧
      ring'.rejected = ring.rejected + count := by
  have hsmall : ring.accepted.length < 2 ^ 64 := by
    obtain ⟨hcapacity, _, hlimited⟩ := initializeEventRing_capacity hinit
    unfold maxEventCapacity at hlimited
    rw [hfilled.full, hreach.capacity, hcapacity]
    omega
  induction count with
  | zero => exact ⟨ring, hreach, hfilled, rfl, rfl⟩
  | succ count ih =>
    obtain ⟨ring', hreach', hfilled', haccepted, hrejected⟩ := ih
    have hsized := hreach'.sized hinit (.inl (haccepted ▸ hsmall))
    obtain ⟨reads, hinv⟩ := hreach'.inv hinit hsized
    obtain ⟨ring'', hrun, hfilled'', haccepted', hrejected'⟩ := hinv.rejects hsized hfilled'
    exact ⟨ring'', hreach'.run hrun, hfilled'', haccepted'.trans haccepted, by omega⟩

theorem exists_pushed (event : HookselfEvent) :
    ∃ header ring, initializeEventRing (eventRingBytes 1) 1 = some header ∧
      Reachable header ring ∧ Filled ring ∧ ring.rejected = 0 ∧ ring.consumer = .idle ∧
      ring.accepted = [storedEvent event 0] := by
  obtain ⟨header, hinit⟩ : ∃ header, initializeEventRing (eventRingBytes 1) 1 = some header :=
    ⟨_, rfl⟩
  have hcapacity : (initialRing header).capacity = 1 := (initializeEventRing_capacity hinit).1
  have hsized := Reachable.initial.sized hinit (.inl (Nat.two_pow_pos 64))
  obtain ⟨ring, write, hloads, hstate⟩ := (Inv.initial hinit).pushing_loads hsized rfl event
  have hfree : ¬(initialRing header).accepted.length - 0 ≥ 1 := Nat.not_succ_le_zero 0
  rw [hcapacity, if_neg hfree] at hstate
  obtain ⟨ring', hslot, hstate'⟩ := pushing_slot hstate
  have hreach := (Reachable.initial.run hloads.run).run hslot.run
  have hempty : ring'.accepted = [] := hslot.accepted.trans hloads.accepted
  obtain ⟨reads, hinv⟩ := hreach.inv hinit
    (hreach.sized hinit (.inl (by rw [hempty]; exact Nat.two_pow_pos 64)))
  have hproducer : ProducerInv ring' reads (.copying event write []) := hstate' ▸ hinv.producer
  have hwrite := hproducer.1
  rw [hempty] at hwrite
  have haccepted : ring'.accepted ++ [storedEvent event write] = [storedEvent event 0] := by
    rw [hempty, hwrite]
    rfl
  refine ⟨header, _, hinit, hreach.step (.pushStoreWrite hstate'), ⟨rfl, ?_, ?_⟩,
    hslot.rejected.trans hloads.rejected, hslot.consumer.trans hloads.consumer, haccepted⟩
  · show ring'.consumerView.seen .readSequence = 0
    rw [hslot.consumerView, hloads.consumerView]
    rfl
  · rw [haccepted, hslot.capacity, hloads.capacity, hcapacity]
    rfl

end Push

section Delivery

/-- No access to a slot races with another. The consumer has received the accepted events in order
up to those it has not asked for. Every call returns, whatever else happens before its end, the next
events up to its limit of those it saw, and a call can always be made and brought to its end. -/
theorem eventRing_delivers {memorySize capacity : Nat} {header : EventRingHeader}
    (hinit : initializeEventRing memorySize capacity = some header) {ring : RingState}
    (hreach : Reachable header ring)
    (hwrap : ring.accepted.length < 2 ^ 64 ∨ capacity ∣ 2 ^ 64) :
    ¬ring.memory.raced ∧
    ring.received = ring.accepted.take ring.received.length ∧
    (∃ message, (ring.memory.history .droppedEvents).getLast? = some message ∧
      message.value = BitVec.ofNat 64 ring.rejected) ∧
    (∀ limit read loaded ring', ring.consumer = .loaded limit read → Step ring loaded →
      loaded.consumer ≠ ring.consumer → CallRun loaded ring' → ring'.consumer = .idle →
      (ring'.accepted.length < 2 ^ 64 ∨ capacity ∣ 2 ^ 64) →
        ring'.received = ring.accepted.take
          (min (loaded.consumerView.seen .writeSequence) (ring.received.length + limit))) ∧
    (ring.consumer = .idle → ∀ limit, limit ≠ 0 →
      ∃ ring', Relation.ReflTransGen Step ring ring' ∧ ring'.consumer = .idle ∧
        ring'.accepted = ring.accepted ∧
        ring'.received = ring.accepted.take (ring.received.length + limit)) := by
  have hsized := hreach.sized hinit hwrap
  obtain ⟨reads, hinv⟩ := hreach.inv hinit hsized
  refine ⟨hinv.ordered, hinv.received_take, hinv.dropped,
    fun limit read loaded ring' hconsumer step hload run hidle hwrap' =>
      hreach.returned_of_load hinit hwrap hconsumer step hload run hidle hwrap',
    fun hidle limit hlimit => ?_⟩
  obtain ⟨ring', hrun, hidle', haccepted, hlength⟩ := hinv.returns hsized hidle hlimit
  have hreach' := hreach.run hrun
  obtain ⟨reads', hinv'⟩ := hreach'.inv hinit (hreach'.sized hinit (by rwa [haccepted]))
  refine ⟨ring', hrun, hidle', haccepted, ?_⟩
  rw [hinv'.received_take, hlength, haccepted, List.take_eq_take_iff]
  omega

/-- A pushed event is read. -/
theorem eventRing_delivers_pushed :
    ∃ header ring ring', initializeEventRing (eventRingBytes 1) 1 = some header ∧
      Reachable header ring ∧ ring.accepted = [storedEvent (fun _ => 7) 0] ∧
      Relation.ReflTransGen Step ring ring' ∧ ring'.received = [storedEvent (fun _ => 7) 0] ∧
      ¬ring'.memory.raced := by
  obtain ⟨header, ring, hinit, hreach, -, -, hidle, haccepted⟩ := exists_pushed fun _ => 7
  have hsmall : ring.accepted.length < 2 ^ 64 := by
    rw [haccepted]
    exact Nat.one_lt_two_pow (by decide)
  obtain ⟨-, -, -, -, hcall⟩ := eventRing_delivers hinit hreach (.inl hsmall)
  obtain ⟨ring', hrun, -, hsame, hreceived⟩ := hcall hidle 1 Nat.one_ne_zero
  refine ⟨header, ring, ring', hinit, hreach, haccepted, hrun, ?_, ?_⟩
  · rw [hreceived, haccepted, List.take_of_length_le]
    exact Nat.le_add_left 1 _
  · exact (eventRing_delivers hinit (hreach.run hrun) (.inl (hsame ▸ hsmall))).1

/-- After `2 ^ 64` rejected pushes the drop counter is back at zero. -/
theorem droppedEvents_wraps :
    ∃ header ring, initializeEventRing (eventRingBytes 1) 1 = some header ∧
      Reachable header ring ∧ ring.accepted.length = 1 ∧ ring.rejected = 2 ^ 64 ∧
      ∃ message, (ring.memory.history .droppedEvents).getLast? = some message ∧
        message.value = 0 := by
  obtain ⟨header, ring, hinit, hreach, hfilled, hnone, -⟩ := exists_pushed fun _ => 0
  obtain ⟨ring', hreach', hfilled', haccepted, hrejected⟩ := hreach.rejects hinit hfilled (2 ^ 64)
  have hlength : ring'.accepted.length = 1 := by
    rw [hfilled'.full, hreach'.capacity, (initializeEventRing_capacity hinit).1]
  obtain ⟨reads, hinv⟩ := hreach'.inv hinit
    (hreach'.sized hinit (.inl (by rw [hlength]; exact Nat.one_lt_two_pow (by decide))))
  obtain ⟨message, hlast, hvalue⟩ := hinv.dropped
  rw [hnone, Nat.zero_add] at hrejected
  refine ⟨header, ring', hinit, hreach', hlength, hrejected, message, hlast, ?_⟩
  rw [hvalue, hrejected]
  rfl

end Delivery

end HookSelf.EventRing
