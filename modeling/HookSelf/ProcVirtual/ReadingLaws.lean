import HookSelf.ProcVirtual.Reading

/-! Sequential reads of proc text that the cursors can follow return the text piece by piece. -/

namespace HookSelf.ProcVirtual

open Fallible ProcText SlotTable

section Positions

variable {state : ProcVirtualResidentState} {ownerSlot slot : ℕ} {fd : ℤ} {path : List UInt8}
  {cursor : ProcVirtualFdCursor}

def positionOf (state : ProcVirtualResidentState) (ownerSlot : ℕ) (fd : ℤ) (path : List UInt8) :
    Option (UInt64 × UInt64) :=
  (findCursor state ownerSlot fd path).map fun slot =>
    ((state.cursors slot).rawPosition, (state.cursors slot).logicalPosition)

theorem ProcVirtualFdCursor.IsOf.inj {other : ℤ} {name : List UInt8}
    (h : cursor.IsOf ownerSlot fd path) (hother : cursor.IsOf ownerSlot other name) :
    other = fd ∧ name = path := by
  obtain ⟨-, -, hfd, hlength, hpath⟩ := h
  obtain ⟨-, -, hotherFd, hotherLength, hotherPath⟩ := hother
  exact ⟨hotherFd.symm.trans hfd, by rw [← hpath, ← hotherPath, ← hlength, ← hotherLength]⟩

theorem CursorsValid.findCursor_eq_some (h : CursorsValid state.cursors) :
    findCursor state ownerSlot fd path = some slot ↔
      slot < cursorCapacity ∧ (state.cursors slot).IsOf ownerSlot fd path := by
  constructor
  · exact firstSlot_some
  · rintro ⟨hslot, hof⟩
    cases hfound : findCursor state ownerSlot fd path with
    | none => exact absurd hof (findCursor_none hfound slot hslot)
    | some found =>
      obtain ⟨hlt, hisOf⟩ := firstSlot_some hfound
      rw [h.unique found hlt slot hslot _ _ _ hisOf hof]

theorem CursorsValid.positionOf_eq_some (h : CursorsValid state.cursors)
    {position : UInt64 × UInt64} :
    positionOf state ownerSlot fd path = some position ↔
      ∃ slot < cursorCapacity, (state.cursors slot).IsOf ownerSlot fd path ∧
        (state.cursors slot).rawPosition = position.1 ∧
        (state.cursors slot).logicalPosition = position.2 := by
  rw [positionOf, Option.map_eq_some_iff]
  constructor
  · rintro ⟨slot, hfound, rfl⟩
    obtain ⟨hslot, hof⟩ := h.findCursor_eq_some.mp hfound
    exact ⟨slot, hslot, hof, rfl, rfl⟩
  · rintro ⟨slot, hslot, hof, hraw, hlogical⟩
    exact ⟨slot, h.findCursor_eq_some.mpr ⟨hslot, hof⟩, Prod.ext hraw hlogical⟩

theorem positionOf_eq_none : positionOf state ownerSlot fd path = none ↔
    findCursor state ownerSlot fd path = none :=
  Option.map_eq_none_iff

theorem findCursor_nextSequence :
    findCursor (nextSequence state) ownerSlot fd path = findCursor state ownerSlot fd path := by
  have hof (slot : ℕ) : ((nextSequence state).cursors slot).IsOf ownerSlot fd path ↔
      (state.cursors slot).IsOf ownerSlot fd path := nextSequence_sameKey.isOf
  simp only [findCursor, hof]

theorem nextSequence_positions (slot : ℕ) :
    ((nextSequence state).cursors slot).rawPosition = (state.cursors slot).rawPosition ∧
      ((nextSequence state).cursors slot).logicalPosition =
        (state.cursors slot).logicalPosition := by
  rcases nextSequence_cursor state slot with heq | ⟨-, heq⟩
  · rw [heq]
    exact ⟨rfl, rfl⟩
  · rw [heq]
    exact ⟨rfl, rfl⟩

theorem positionOf_nextSequence :
    positionOf (nextSequence state) ownerSlot fd path = positionOf state ownerSlot fd path := by
  simp only [positionOf, findCursor_nextSequence, nextSequence_positions]

theorem CursorsValid.positionOf_setCursor (h : CursorsValid state.cursors)
    (hset : CursorsValid (state.setCursor slot cursor).cursors) (hslot : slot < cursorCapacity)
    (hof : cursor.IsOf ownerSlot fd path)
    (hold : ∀ other name, (state.cursors slot).IsOf ownerSlot other name →
      other = fd ∧ name = path) (other : ℤ) (name : List UInt8) :
    positionOf (state.setCursor slot cursor) ownerSlot other name =
      if other = fd ∧ name = path then some (cursor.rawPosition, cursor.logicalPosition)
      else positionOf state ownerSlot other name := by
  split_ifs with hsame
  · obtain ⟨rfl, rfl⟩ := hsame
    refine hset.positionOf_eq_some.mpr ⟨slot, hslot, ?_⟩
    rw [setCursor_self]
    exact ⟨hof, rfl, rfl⟩
  · refine Option.ext fun position => ?_
    rw [hset.positionOf_eq_some, h.positionOf_eq_some]
    refine exists_congr fun place => and_congr_right fun _ => ?_
    by_cases hplace : place = slot
    · subst hplace
      rw [setCursor_self]
      exact iff_of_false (fun hmatch => hsame (hof.inj hmatch.1))
        fun hmatch => hsame (hold _ _ hmatch.1)
    · rw [setCursor_of_ne hplace]

theorem CursorsValid.positionOf_touch (h : CursorsValid state.cursors)
    (hset : CursorsValid (state.setCursor slot cursor).cursors) (hslot : slot < cursorCapacity)
    (hof : (state.cursors slot).IsOf ownerSlot fd path) (hkey : (state.cursors slot).SameKey cursor)
    (other : ℤ) (name : List UInt8) :
    positionOf (state.setCursor slot cursor) ownerSlot other name =
      if other = fd ∧ name = path then some (cursor.rawPosition, cursor.logicalPosition)
      else positionOf state ownerSlot other name :=
  h.positionOf_setCursor hset hslot (hkey.isOf.mpr hof) (fun _ _ hother => hof.inj hother) other name

/-- Where a read of a descriptor goes on: at its own cursor, at another cursor of the file that
stands where the read starts, or there. -/
def Finds (state : ProcVirtualResidentState) (ownerSlot : ℕ) (fd : ℤ) (path : List UInt8)
    (rawStart logical : UInt64) : Prop :=
  positionOf state ownerSlot fd path = some (rawStart, logical) ∨
    (∀ position, positionOf state ownerSlot fd path ≠ some (rawStart, position)) ∧
      ((∃ other ≠ fd, positionOf state ownerSlot other path = some (rawStart, logical)) ∨
        (∀ other ≠ fd, ∀ position,
          positionOf state ownerSlot other path ≠ some (rawStart, position)) ∧
          logical = rawStart)

theorem CursorsValid.shared (h : CursorsValid state.cursors) (rawStart : UInt64) :
    (∃ other ≠ fd, positionOf state ownerSlot other path = some (rawStart,
        ((findSharedDescriptionCursor state ownerSlot fd path rawStart).map fun slot =>
          (state.cursors slot).logicalPosition).getD rawStart)) ∨
      (∀ other ≠ fd, ∀ position,
        positionOf state ownerSlot other path ≠ some (rawStart, position)) ∧
        ((findSharedDescriptionCursor state ownerSlot fd path rawStart).map fun slot =>
          (state.cursors slot).logicalPosition).getD rawStart = rawStart := by
  cases hshared : findSharedDescriptionCursor state ownerSlot fd path rawStart with
  | none =>
    refine .inr ⟨fun other hother position hposition => ?_, rfl⟩
    obtain ⟨slot, hslot, hof, hraw, -⟩ := h.positionOf_eq_some.mp hposition
    refine bestSlot_eq_none.mp hshared slot hslot ⟨hof.1, hof.2.1, ?_, hraw, hof.2.2.2⟩
    rwa [hof.2.2.1]
  | some slot =>
    have hbest := bestSlot_eq_some.mp hshared
    obtain ⟨hoccupied, howner, hfd, hraw, hpath⟩ := hbest.holds
    exact .inl ⟨_, hfd, h.positionOf_eq_some.mpr
      ⟨slot, hbest.lt, ⟨hoccupied, howner, rfl, hpath⟩, hraw, rfl⟩⟩

theorem allocateCursor_free
    (h : ∃ slot < cursorCapacity, (state.cursors slot).occupied = 0) :
    allocateCursor state < cursorCapacity ∧
      (state.cursors (allocateCursor state)).occupied = 0 := by
  cases hfree : firstSlot cursorCapacity fun slot => (state.cursors slot).occupied = 0 with
  | none =>
    obtain ⟨slot, hslot, hzero⟩ := h
    exact absurd hzero (firstSlot_none.mp hfree slot hslot)
  | some free =>
    rw [allocateCursor, hfree, Option.getD_some]
    exact firstSlot_some hfree

theorem beginProcVirtualSequentialRead_spec (h : CursorsValid state.cursors) (hfd : 0 ≤ fd)
    (hpath : path.length < identityCapacity) {rawStart rawEnd : UInt64} (hle : rawStart ≤ rawEnd)
    (hroom : positionOf state ownerSlot fd path ≠ none ∨
      ∃ slot < cursorCapacity, (state.cursors slot).occupied = 0) :
    ∃ next logical, beginProcVirtualSequentialRead state ownerSlot fd path rawStart rawEnd =
        (next, .ok logical) ∧
      Finds state ownerSlot fd path rawStart logical ∧ CursorsValid next.cursors ∧
      ∀ other name, positionOf next ownerSlot other name =
        if other = fd ∧ name = path then some (rawEnd, logical)
        else positionOf state ownerSlot other name := by
  have hcursors := @beginProcVirtualSequentialRead_cursors state ownerSlot fd path h rawStart rawEnd
  have hshared := @CursorsValid.shared _ ownerSlot fd path h.nextSequence rawStart
  simp only [positionOf_nextSequence] at hshared
  have hguard : ¬(fd < 0 ∨ rawStart > rawEnd ∨ path.length ≥ identityCapacity) := by
    rintro (hneg | hgt | hlong)
    · omega
    · exact absurd hle (UInt64.not_le.mpr hgt)
    · omega
  rw [beginProcVirtualSequentialRead, if_neg hguard] at hcursors ⊢
  dsimp only at hcursors ⊢
  cases hfound : findCursor state ownerSlot fd path with
  | none =>
    rw [hfound] at hcursors
    have hnone := positionOf_eq_none.mpr hfound
    obtain ⟨hslot, hfree⟩ := @allocateCursor_free (nextSequence state) (by
      obtain hown | ⟨slot, hslot, hzero⟩ := hroom
      · exact absurd hnone hown
      · exact ⟨slot, hslot, nextSequence_sameKey.1.trans hzero⟩)
    refine ⟨_, _, rfl, .inr ⟨fun position => by simp [hnone], hshared⟩, hcursors, ?_⟩
    intro other name
    rw [h.nextSequence.positionOf_setCursor hcursors hslot
      (initializeCursor_isOf.mpr ⟨rfl, rfl, rfl⟩) fun _ _ hof => absurd hfree hof.1,
      positionOf_nextSequence]
    rfl
  | some slot =>
    rw [hfound] at hcursors
    obtain ⟨hslot, hof⟩ := h.findCursor_eq_some.mp hfound
    have hown : positionOf state ownerSlot fd path = some
        (((nextSequence state).cursors slot).rawPosition,
          ((nextSequence state).cursors slot).logicalPosition) := by
      rw [positionOf, hfound, Option.map_some, (nextSequence_positions slot).1,
        (nextSequence_positions slot).2]
    refine ⟨_, _, rfl, ?_, hcursors, ?_⟩
    · by_cases hraw : ((nextSequence state).cursors slot).rawPosition = rawStart
      · rw [if_neg (not_not.mpr hraw), Finds, hown, hraw]
        exact .inl rfl
      · rw [if_pos hraw]
        exact .inr ⟨fun position => by simp [hown, hraw], hshared⟩
    · intro other name
      rw [h.nextSequence.positionOf_touch hcursors hslot (nextSequence_sameKey.isOf.mpr hof)
        ⟨rfl, rfl, rfl, rfl, rfl⟩, positionOf_nextSequence]

theorem advanceProcVirtualSequentialRead_spec (h : CursorsValid state.cursors) (hfd : 0 ≤ fd)
    (hpath : path.length < identityCapacity) {raw logical : UInt64} {visibleSize : ℕ}
    (hposition : positionOf state ownerSlot fd path = some (raw, logical))
    (hsize : logical.toNat + visibleSize ≤ uintptrMax) :
    ∃ next, advanceProcVirtualSequentialRead state ownerSlot fd path visibleSize =
        (next, .ok ()) ∧ CursorsValid next.cursors ∧
      ∀ other name, positionOf next ownerSlot other name =
        if other = fd ∧ name = path then some (raw, logical + .ofNat visibleSize)
        else positionOf state ownerSlot other name := by
  have hcursors := @advanceProcVirtualSequentialRead_cursors state ownerSlot fd path h visibleSize
  obtain ⟨slot, hfound, hpair⟩ := Option.map_eq_some_iff.mp hposition
  obtain ⟨rfl, rfl⟩ := Prod.mk.inj hpair
  obtain ⟨hslot, hof⟩ := h.findCursor_eq_some.mp hfound
  have hguard : ¬(fd < 0 ∨ path.length ≥ identityCapacity) := by omega
  rw [advanceProcVirtualSequentialRead, if_neg hguard, hfound] at hcursors ⊢
  dsimp only at hcursors ⊢
  rw [if_neg (by omega)] at hcursors ⊢
  refine ⟨_, rfl, hcursors, fun other name => ?_⟩
  have hvalid := h.accepted slot hslot
  rw [if_neg hof.1] at hvalid
  set moved : ProcVirtualFdCursor := { state.cursors slot with
    logicalPosition := (state.cursors slot).logicalPosition + .ofNat visibleSize }
  have hkey : (state.cursors slot).SameKey moved := ⟨rfl, rfl, rfl, rfl, rfl⟩
  have hmoved : CursorsValid (state.setCursor slot moved).cursors :=
    h.touch hslot hkey hof.1 hvalid.2.2.2.2
  have hmovedOf : ((nextSequence (state.setCursor slot moved)).cursors slot).IsOf ownerSlot fd
      path := by
    rw [nextSequence_sameKey.isOf, setCursor_self, hkey.isOf]
    exact hof
  rw [hmoved.nextSequence.positionOf_touch hcursors hslot hmovedOf ⟨rfl, rfl, rfl, rfl, rfl⟩,
    positionOf_nextSequence, h.positionOf_touch hmoved hslot hof hkey]
  dsimp only
  rw [(nextSequence_positions slot).1, (nextSequence_positions slot).2, setCursor_self]
  split_ifs
  · rfl
  · rfl

end Positions

namespace Reading

variable {reading : Reading}

theorem toNat_ofNat_of_le {n : ℕ} (h : n ≤ uintptrMax) : (UInt64.ofNat n).toNat = n :=
  UInt64.toNat_ofNat_of_lt' (Nat.lt_succ_of_le h)

section Vectors

variable {task : ProcVirtualDispatchTask} {pending : ProcVirtualPending}

theorem writeRemote_run {address : UInt64} {bytes : List UInt8}
    (hfits : bytes = [] ∨ RemoteFits address bytes.length) (host : ReadHost) :
    (writeRemote reading.io task address bytes).run host =
      (.ok (), { host with output := host.output ++ bytes }) := by
  rw [writeRemote]
  by_cases hempty : bytes = []
  · subst hempty
    rw [if_pos List.length_nil, List.append_nil]
    rfl
  · rw [if_neg (by simpa using hempty)]
    show (if RemoteFits address bytes.length then _ else _ : Host ReadHost Unit).run host = _
    rw [if_pos (hfits.resolve_left hempty)]
    rfl

theorem readRemoteIovec_run (index : ℕ) :
    (∃ error, ∀ host, (readRemoteIovec reading.io task pending index).run host =
      (.error error, host)) ∨
    ∃ vector, ∀ host, (readRemoteIovec reading.io task pending index).run host =
      (.ok vector, host) := by
  rw [readRemoteIovec]
  split_ifs
  · exact .inl ⟨_, fun _ => rfl⟩
  · rw [readRemote, if_neg (by decide)]
    show (∃ error, ∀ host, ((if RemoteFits _ _ then _ else _ : Host ReadHost _) >>= _).run host =
      (.error error, host)) ∨ ∃ vector, ∀ host,
        ((if RemoteFits _ _ then _ else _ : Host ReadHost _) >>= _).run host = (.ok vector, host)
    split_ifs
    · exact .inr ⟨_, fun _ => rfl⟩
    · exact .inl ⟨_, fun _ => rfl⟩

theorem scatterVectors_run (rounds : ℕ) : ∀ index total size,
    (∀ host, (sumVectors reading.io task pending rounds index total).run host = (.ok size, host)) →
      total ≤ size ∧ ∀ bytes : List UInt8, bytes.length ≤ size - total → ∀ host,
        (scatterVectors reading.io task pending rounds index bytes).run host =
          (.ok (), { host with output := host.output ++ bytes }) := by
  have idle : ReadHost := ⟨initProcVirtualResidentState, none, [], 0⟩
  induction rounds with
  | zero =>
    intro index total size hsum
    obtain rfl : total = size := Except.ok.inj (congrArg Prod.fst (hsum idle))
    refine ⟨le_rfl, fun bytes hbytes host => ?_⟩
    obtain rfl : bytes = [] := List.length_eq_zero_iff.mp (by omega)
    rw [List.append_nil]
    rfl
  | succ rounds ih =>
    intro index total size hsum
    obtain ⟨error, herror⟩ | ⟨⟨base, length⟩, hvector⟩ :=
      @readRemoteIovec_run reading task pending index
    · have hhost := (run_bind_error (herror idle)).symm.trans (hsum idle)
      cases congrArg Prod.fst hhost
    have hrest := fun host => (run_bind_ok (hvector host)).symm.trans (hsum host)
    dsimp only at hrest
    by_cases hbad : length ≠ 0 ∧ (base = 0 ∨ base.toNat > uintptrMax - (length - 1))
    · have hhost := hrest idle
      rw [if_pos hbad] at hhost
      cases congrArg Prod.fst hhost
    by_cases hlarge : total + length > uintptrMax
    · have hhost := hrest idle
      rw [if_neg hbad, addSize, if_pos hlarge] at hhost
      cases congrArg Prod.fst hhost
    simp only [if_neg hbad, addSize, if_neg hlarge] at hrest
    obtain ⟨hle, hscatter⟩ := ih (index + 1) (total + length) size hrest
    refine ⟨by omega, fun bytes hbytes host => ?_⟩
    rw [scatterVectors]
    split_ifs with hempty
    · rw [hempty, List.append_nil]
      rfl
    have hfits : bytes.take length = [] ∨ RemoteFits base (bytes.take length).length := by
      by_cases hzero : length = 0
      · exact .inl (by rw [hzero, List.take_zero])
      · simp only [not_and, not_or, not_lt] at hbad
        obtain ⟨hbase, hlast⟩ := hbad hzero
        have htake := List.length_take_le length bytes
        exact .inr ⟨hbase, by omega⟩
    rw [run_bind_ok (hvector host)]
    dsimp only
    rw [run_bind_ok (writeRemote_run hfits host), hscatter _ (by rw [List.length_drop]; omega)]
    dsimp only
    rw [List.append_assoc, List.take_append_drop]

end Vectors

section Exit

variable {task : ProcVirtualDispatchTask} {read : IssuedRead} {size : ℕ}

theorem Requests.size_run (h : reading.Requests task read size) (host : ReadHost) :
    (requestedReadSize reading.config reading.io task (reading.pending read)).run host =
      (.ok size, host) := by
  rcases h with ⟨hnumber, rfl, -⟩ | ⟨-, hrun⟩
  · rw [requestedReadSize, if_pos (.inl hnumber)]
    rfl
  · exact hrun host

theorem Requests.not_pread (h : reading.Requests task read size) :
    (reading.pending read).syscallNumber ≠ nrPread64 := by
  have hnumber : (reading.pending read).syscallNumber = read.syscallNumber := rfl
  rcases h with ⟨hread, -⟩ | ⟨hreadv, -⟩
  · rw [hnumber, hread]
    decide
  · rw [hnumber, hreadv]
    decide

theorem Requests.scatter_run (h : reading.Requests task read size) {bytes : List UInt8}
    (hle : bytes.length ≤ size) (host : ReadHost) :
    (scatterReadOutput reading.config reading.io task (reading.pending read) bytes).run host =
      (.ok (), { host with output := host.output ++ bytes }) := by
  have hnumber : (reading.pending read).syscallNumber = read.syscallNumber := rfl
  rw [scatterReadOutput]
  split_ifs with hempty hread hreadv hmany
  · rw [List.length_eq_zero_iff.mp hempty, List.append_nil]
    rfl
  · rcases h with ⟨-, rfl, hfits⟩ | ⟨hreadv, -⟩
    · refine writeRemote_run (hfits.imp (fun hzero => ?_) fun hfits => hfits.mono hle) host
      exact List.length_eq_zero_iff.mp (by omega)
    · rw [hnumber, hreadv] at hread
      exact absurd hread (by decide)
  · rcases h with ⟨hread', -⟩ | ⟨hreadv', -⟩
    · exact absurd (.inl (hnumber.trans hread')) hread
    · exact absurd (hnumber.trans hreadv') hreadv
  · have hsize := h.size_run host
    rw [requestedReadSize, if_neg hread, if_neg hreadv, if_pos hmany] at hsize
    cases congrArg Prod.fst hsize
  · have hsize := h.size_run
    simp only [requestedReadSize, if_neg hread, if_neg hreadv, if_neg hmany] at hsize
    exact (scatterVectors_run _ 0 0 size hsize).2 bytes hle host

theorem pending_path : (reading.pending read).identityPath.take (reading.pending read).pathLength =
    reading.path read.description :=
  (write_identityPath zeroPending.identityPath (reading.path read.description)).1

theorem filled_self (data : List UInt8) : filled data.length data = data := by
  rw [filled, List.take_left]

theorem Valid.requestSnapshot_run (h : reading.Valid) {request : ProcVirtualSnapshotRequest}
    {host : ReadHost} {rawEnd logical : UInt64} {next : ProcVirtualResidentState}
    (hpath : request.identityPath = reading.path read.description)
    (hnumber : request.syscallNumber ≠ nrPread64) (hposition : host.position = some rawEnd)
    (hbegin : beginProcVirtualSequentialRead host.resident reading.ownerSlot request.fd
      (reading.path read.description)
      (if rawEnd ≥ .ofNat request.kernelResult.toNat then
        rawEnd - .ofNat request.kernelResult.toNat else 0) rawEnd = (next, .ok logical)) :
    (requestSnapshot reading.config reading.io request).run host =
      (.ok (reading.contents (reading.path read.description), logical),
        { host with resident := next }) := by
  have hcontents := h.contents read.description
  have hsnapshot : (reading.snapshotCallback request reading.config.snapshotBuffer.length).run
      host = (.ok (reading.contents (reading.path read.description),
        (reading.contents (reading.path read.description)).length, logical),
        { host with resident := next }) := by
    rw [snapshotCallback]
    simp only [hpath]
    rw [if_neg (not_lt.mpr hcontents), if_neg hnumber,
      run_bind_ok (show (get : Host ReadHost ReadHost).run host = (.ok host, host) from rfl)]
    simp only [hposition]
    rw [hbegin]
    rfl
  show (if reading.config.snapshotBuffer.length = 0 then _ else _ :
    Host ReadHost (List UInt8 × UInt64)).run host = _
  rw [if_neg h.snapshotBuffer.ne', run_bind_ok hsnapshot]
  dsimp only
  rw [if_pos hcontents, filled_self]
  rfl

theorem commitVisibleResult_run (kernelResult visibleResult : ℤ) (result : ProcVirtualExitResult)
    (host : ReadHost) :
    ∃ committed,
      (commitVisibleResult reading.io task kernelResult visibleResult false result).run host =
        (.ok committed, { host with
          result := if visibleResult = kernelResult then host.result else visibleResult }) ∧
      committed.bytesWritten = result.bytesWritten := by
  rw [commitVisibleResult]
  by_cases hsame : visibleResult = kernelResult
  · rw [if_pos ⟨Bool.false_ne_true, hsame⟩, if_pos hsame]
    exact ⟨_, rfl, rfl⟩
  · rw [if_neg fun h => hsame h.2, if_neg hsame]
    exact ⟨_, rfl, rfl⟩

section Text

variable {host : ReadHost} {rawEnd logical : UInt64} {next last : ProcVirtualResidentState}
  {visible : List UInt8}

theorem Valid.completeProcText_run (h : reading.Valid)
    (hrequests : reading.Requests task read size) (hresult : 0 ≤ read.kernelResult)
    (hvisible : visible =
      ((reading.text (reading.path read.description)).drop logical.toNat).take size)
    (hlogical : logical.toNat ≤ (reading.text (reading.path read.description)).length)
    (hposition : host.position = some rawEnd)
    (hbegin : beginProcVirtualSequentialRead host.resident reading.ownerSlot read.fd
      (reading.path read.description)
      (if rawEnd ≥ .ofNat read.kernelResult.toNat then
        rawEnd - .ofNat read.kernelResult.toNat else 0) rawEnd = (next, .ok logical))
    (result : ProcVirtualExitResult) :
    ∃ committed, (completeProcText reading.config reading.io task (reading.pending read)
        read.kernelResult result).run host =
        (.ok committed,
          { host with
            resident := next
            output := host.output ++ visible
            result := if (visible.length : ℤ) = read.kernelResult then host.result
              else visible.length }) ∧
      committed.bytesWritten = visible.length := by
  obtain ⟨rewrite, hrewrite⟩ := h.text read.description
  have hlength : visible.length ≤ int64Max ∧ visible.length ≤ size := by
    have htext := h.length read.description
    rw [hvisible, List.length_take, List.length_drop]
    omega
  have hnode : (reading.pending read).node = reading.node (reading.path read.description) := rfl
  have hemulated : decide (reading.pending read).Emulated = false :=
    decide_eq_false (by decide : ¬(pendingProcText ||| pendingActive) &&& pendingEmulated ≠ 0)
  rw [completeProcText, if_neg (by omega), run_bind_ok (hrequests.size_run host),
    run_bind_ok (h.requestSnapshot_run pending_path hrequests.not_pread hposition hbegin)]
  dsimp only
  rw [if_neg fun hpread => hrequests.not_pread hpread.1, if_neg h.rewriteBuffer.ne', hnode,
    hrewrite]
  rw [run_bind_ok (show (MonadExcept.ofExcept (.ok (reading.text (reading.path read.description),
    rewrite)) : Host ReadHost _).run _ = (.ok _, _) from rfl)]
  dsimp only
  rw [min_eq_left hlogical, ← hvisible, if_neg (not_lt.mpr hlength.1),
    run_bind_ok (hrequests.scatter_run hlength.2 _), hemulated]
  obtain ⟨committed, hrun, hwritten⟩ := commitVisibleResult_run _ _ _ _
  exact ⟨committed, hrun, hwritten⟩

theorem Valid.completeText_run (h : reading.Valid) (hrequests : reading.Requests task read size)
    (hresult : 0 ≤ read.kernelResult)
    (hvisible : visible =
      ((reading.text (reading.path read.description)).drop logical.toNat).take size)
    (hlogical : logical.toNat ≤ (reading.text (reading.path read.description)).length)
    (hposition : host.position = some rawEnd)
    (hbegin : beginProcVirtualSequentialRead host.resident reading.ownerSlot read.fd
      (reading.path read.description)
      (if rawEnd ≥ .ofNat read.kernelResult.toNat then
        rawEnd - .ofNat read.kernelResult.toNat else 0) rawEnd = (next, .ok logical))
    (hadvance : advanceProcVirtualSequentialRead next reading.ownerSlot read.fd
      (reading.path read.description) visible.length = (last, .ok ())) :
    ∃ result, (reading.completeText task (reading.pending read) read.kernelResult).run host =
      (.ok result,
        { host with
          resident := last
          output := host.output ++ visible
          result := if (visible.length : ℤ) = read.kernelResult then host.result
            else visible.length }) := by
  obtain ⟨committed, hrun, hwritten⟩ := h.completeProcText_run hrequests hresult hvisible hlogical
    hposition hbegin
    (untouchedResult exitHandled (reading.pending read).node read.kernelResult)
  refine ⟨committed, ?_⟩
  rw [completeText, run_bind_ok hrun, if_neg hrequests.not_pread,
    run_bind_ok (show (get : Host ReadHost ReadHost).run _ = (.ok _, _) from rfl), hwritten,
    pending_path]
  dsimp only
  rw [show (reading.pending read).fd = read.fd from rfl, hadvance]
  rfl

end Text

theorem Valid.completeText_failed (h : reading.Valid) (hresult : read.kernelResult < 0)
    (hfd : 0 ≤ read.fd) {host : ReadHost} (hcursors : CursorsValid host.resident.cursors) :
    ∃ result last, (reading.completeText task (reading.pending read) read.kernelResult).run host =
        (.ok result, { host with resident := last }) ∧ CursorsValid last.cursors ∧
      ∀ other name, positionOf last reading.ownerSlot other name =
        positionOf host.resident reading.ownerSlot other name := by
  have hemulated : ¬(reading.pending read).Emulated :=
    (by decide : ¬(pendingProcText ||| pendingActive) &&& pendingEmulated ≠ 0)
  have hrun : (completeProcText reading.config reading.io task (reading.pending read)
      read.kernelResult (untouchedResult exitHandled (reading.pending read).node
        read.kernelResult)).run host =
      (.ok (untouchedResult exitHandled (reading.pending read).node read.kernelResult), host) := by
    rw [completeProcText, if_pos ⟨hresult, hemulated⟩]
    rfl
  rw [completeText, run_bind_ok hrun]
  by_cases hpread : (reading.pending read).syscallNumber = nrPread64
  · rw [if_pos hpread]
    exact ⟨_, host.resident, rfl, hcursors, fun _ _ => rfl⟩
  rw [if_neg hpread,
    run_bind_ok (show (get : Host ReadHost ReadHost).run _ = (.ok _, _) from rfl), pending_path,
    show (reading.pending read).fd = read.fd from rfl]
  dsimp only [untouchedResult]
  cases hposition : positionOf host.resident reading.ownerSlot read.fd
    (reading.path read.description) with
  | none =>
    have hadvance : advanceProcVirtualSequentialRead host.resident reading.ownerSlot read.fd
        (reading.path read.description) 0 = (host.resident, .error .enoent) := by
      have hpath := h.path read.description
      rw [advanceProcVirtualSequentialRead, if_neg (by omega), positionOf_eq_none.mp hposition]
    rw [hadvance]
    exact ⟨_, host.resident, rfl, hcursors, fun _ _ => rfl⟩
  | some position =>
    have hsize : position.2.toNat + 0 ≤ uintptrMax := Nat.le_of_lt_succ position.2.toNat_lt
    obtain ⟨last, hadvance, hlast, hpositions⟩ := advanceProcVirtualSequentialRead_spec hcursors hfd
      (h.path read.description) hposition hsize
    rw [hadvance]
    refine ⟨_, last, rfl, hlast, fun other name => ?_⟩
    rw [hpositions]
    split_ifs with hsame
    · rw [hsame.1, hsame.2, hposition]
      simp
    · rfl

end Exit

section Invariant

variable {state : ReadState} {read : IssuedRead} {task size : ℕ}

/-- The cursors stand where the descriptors were read last, and at the end of what a description has
delivered if it was read there last. -/
structure Inv (reading : Reading) (state : ReadState) : Prop where
  cursors : CursorsValid state.resident.cursors
  unseen : ∀ fd path, state.seen fd path = none →
    positionOf state.resident reading.ownerSlot fd path = none
  seen : ∀ fd path description raw, state.seen fd path = some (description, raw) →
    reading.path description = path ∧ raw ≤ uintptrMax ∧
      ∃ logical ≤ uintptrMax, positionOf state.resident reading.ownerSlot fd path =
          some (.ofNat raw, .ofNat logical) ∧
        (raw = 0 → logical = 0) ∧
        ((state.descriptions description).lastFd = some fd →
          raw = (state.descriptions description).settled ∧
            logical = (state.descriptions description).delivered.length)
  fresh : ∀ description, (state.descriptions description).lastFd = none →
    (state.descriptions description).settled = 0
  start : ∀ description, (state.descriptions description).settled = 0 →
    (state.descriptions description).delivered = []
  delivered : ∀ description, (state.descriptions description).delivered <+:
    reading.text (reading.path description)
  issued : ∀ task read, state.issued task = some read → 0 ≤ read.fd ∧ (0 ≤ read.kernelResult →
    read.start + read.consumed ≤ uintptrMax ∧
      ∃ size, reading.Requests (reading.task task) read size ∧
        (read.start = 0 → 0 < size → 0 < read.kernelResult))
  running : state.failed = none

theorem inv_init : reading.Inv initReadState where
  cursors := residentInvariant_init.cursors
  unseen := by
    intro fd path _
    refine positionOf_eq_none.mpr (firstSlot_none.mpr fun slot _ hof => ?_)
    exact absurd rfl hof.1
  seen := nofun
  fresh := fun _ _ => rfl
  start := fun _ _ => rfl
  delivered := fun _ => List.nil_prefix
  issued := nofun
  running := rfl

theorem Inv.of_position (h : reading.Inv state) {fd : ℤ} {path : List UInt8} {raw : ℕ}
    {logical : UInt64} (hraw : raw ≤ uintptrMax)
    (hposition : positionOf state.resident reading.ownerSlot fd path =
      some (.ofNat raw, logical)) :
    ∃ description, state.seen fd path = some (description, raw) := by
  cases hseen : state.seen fd path with
  | none =>
    rw [h.unseen fd path hseen] at hposition
    cases hposition
  | some entry =>
    obtain ⟨description, raw'⟩ := entry
    obtain ⟨-, hraw', logical', -, hposition', -⟩ := h.seen fd path description raw' hseen
    rw [hposition] at hposition'
    have heq := congrArg UInt64.toNat (Prod.mk.inj (Option.some.inj hposition')).1
    rw [toNat_ofNat_of_le hraw, toNat_ofNat_of_le hraw'] at heq
    exact ⟨description, by rw [heq]⟩

theorem Inv.of_position_zero (h : reading.Inv state) {fd : ℤ} {path : List UInt8}
    {logical : UInt64}
    (hposition : positionOf state.resident reading.ownerSlot fd path = some (.ofNat 0, logical)) :
    logical = .ofNat 0 := by
  obtain ⟨description, hseen⟩ := h.of_position (Nat.zero_le _) hposition
  obtain ⟨-, -, logical', -, hposition', hzero, -⟩ := h.seen fd path description 0 hseen
  rw [hposition, hzero rfl] at hposition'
  exact (Prod.mk.inj (Option.some.inj hposition')).2

theorem Inv.finds (h : reading.Inv state) (hfollowed : reading.Followed state (.finish task))
    (hread : state.issued task = some read) (hresult : 0 ≤ read.kernelResult)
    {logical : UInt64}
    (hfinds : Finds state.resident reading.ownerSlot read.fd (reading.path read.description)
      (.ofNat read.start) logical) :
    logical = .ofNat (state.descriptions read.description).delivered.length := by
  obtain ⟨-, hstart, -, -, hlast⟩ := hfollowed read hread hresult
  have hmax : read.start ≤ uintptrMax := by
    have := ((h.issued task read hread).2 hresult).1
    omega
  rcases hlast with hnone | ⟨last, hlast, ⟨raw, hseen⟩, halone⟩
  · have hzero := h.fresh _ hnone
    rw [h.start _ hzero, List.length_nil]
    rw [hstart, hzero] at hfinds
    rcases hfinds with hown | ⟨-, ⟨other, -, hother⟩ | ⟨-, rfl⟩⟩
    · exact h.of_position_zero hown
    · exact h.of_position_zero hother
    · rfl
  · obtain ⟨-, -, delivered, -, hposition, -, hcurrent⟩ := h.seen last _ _ raw hseen
    obtain ⟨rfl, rfl⟩ := hcurrent hlast
    rw [← hstart] at hposition hseen
    rcases halone with rfl | halone
    · rcases hfinds with hown | ⟨hnot, -⟩
      · rw [hown] at hposition
        exact (Prod.mk.inj (Option.some.inj hposition)).2
      · exact absurd hposition (hnot _)
    · have hsame (other : ℤ) (hother : positionOf state.resident reading.ownerSlot other
          (reading.path read.description) = some (.ofNat read.start, logical)) :
          logical = .ofNat (state.descriptions read.description).delivered.length := by
        obtain ⟨reader, hreader⟩ := h.of_position hmax hother
        obtain rfl : other = last := by
          by_contra hne
          exact halone other hne reader hreader
        rw [hother] at hposition
        exact (Prod.mk.inj (Option.some.inj hposition)).2
      rcases hfinds with hown | ⟨hnot, ⟨other, -, hother⟩ | ⟨hnone, -⟩⟩
      · exact hsame _ hown
      · exact hsame _ hother
      · by_cases hfd : last = read.fd
        · rw [hfd] at hposition
          exact absurd hposition (hnot _)
        · exact absurd hposition (hnone last hfd _)

def visible (reading : Reading) (state : ReadState) (description size : ℕ) : List UInt8 :=
  ((reading.text (reading.path description)).drop
    (state.descriptions description).delivered.length).take size

theorem rawStart_eq {start consumed : ℕ} (h : start + consumed ≤ uintptrMax) :
    (if UInt64.ofNat (start + consumed) ≥ .ofNat consumed then
      UInt64.ofNat (start + consumed) - .ofNat consumed else 0) = .ofNat start := by
  rw [if_pos, UInt64.ofNat_add, UInt64.add_sub_cancel]
  rw [ge_iff_le, UInt64.le_iff_toNat_le, toNat_ofNat_of_le (by omega), toNat_ofNat_of_le h]
  omega

theorem Inv.finish_eq (h : reading.Inv state) (hvalid : reading.Valid)
    (hfollowed : reading.Followed state (.finish task)) (hread : state.issued task = some read)
    (hresult : 0 ≤ read.kernelResult) (hrequests : reading.Requests (reading.task task) read size) :
    ∃ last, reading.finish state task =
        reading.settle
          { state with
            issued := Function.update state.issued task none
            resident := last } read (reading.visible state read.description size) ∧
      CursorsValid last.cursors ∧
      ∀ other name, positionOf last reading.ownerSlot other name =
        if other = read.fd ∧ name = reading.path read.description then
          some (.ofNat (read.start + read.consumed),
            .ofNat ((state.descriptions read.description).delivered.length +
              (reading.visible state read.description size).length))
        else positionOf state.resident reading.ownerSlot other name := by
  obtain ⟨hfd, hstart, hoffset, hroom, -⟩ := hfollowed read hread hresult
  obtain ⟨hpos, hissued⟩ := h.issued task read hread
  obtain ⟨hmax, -⟩ := hissued hresult
  have hle : UInt64.ofNat read.start ≤ .ofNat (read.start + read.consumed) := by
    rw [UInt64.le_iff_toNat_le, toNat_ofNat_of_le (by omega), toNat_ofNat_of_le hmax]
    omega
  obtain ⟨next, logical, hbegin, hfinds, hnext, hpositions⟩ := beginProcVirtualSequentialRead_spec
    h.cursors hpos (hvalid.path read.description) hle (hroom.imp_left fun hseen hnone => by
      obtain ⟨⟨description, raw⟩, hentry⟩ := Option.ne_none_iff_exists'.mp hseen
      obtain ⟨-, -, position, -, hposition, -⟩ := h.seen _ _ _ _ hentry
      rw [hnone] at hposition
      cases hposition)
  obtain rfl := h.finds hfollowed hread hresult hfinds
  have hdelivered := (h.delivered read.description).length_le
  have htext := hvalid.length read.description
  have hint : int64Max + int64Max ≤ uintptrMax := by decide
  have hlength : (reading.visible state read.description size).length +
      (state.descriptions read.description).delivered.length ≤
        (reading.text (reading.path read.description)).length := by
    rw [visible, List.length_take, List.length_drop]
    omega
  have hlogical : (UInt64.ofNat (state.descriptions read.description).delivered.length).toNat =
      (state.descriptions read.description).delivered.length := toNat_ofNat_of_le (by omega)
  obtain ⟨last, hadvance, hlast, hmoved⟩ := advanceProcVirtualSequentialRead_spec hnext hpos
    (hvalid.path read.description) (by rw [hpositions, if_pos ⟨rfl, rfl⟩])
    (show _ + (reading.visible state read.description size).length ≤ _ by omega)
  have hposition : (host { state with issued := Function.update state.issued task none }
      read).position = some (.ofNat (read.start + read.consumed)) := by
    rw [host, hfd, Option.map_some, hoffset]
  obtain ⟨result, hrun⟩ := hvalid.completeText_run hrequests hresult
    (by rw [hlogical]; rfl) (by omega) hposition
    (by rw [IssuedRead.consumed] at hmax; exact (rawStart_eq hmax).symm ▸ hbegin) hadvance
  refine ⟨last, ?_, hlast, fun other name => ?_⟩
  · rw [finish, hread]
    dsimp only
    rw [hrun]
    have hcount : (if ((reading.visible state read.description size).length : ℤ) =
        read.kernelResult then read.kernelResult
        else (reading.visible state read.description size).length) =
        (reading.visible state read.description size).length := by
      split_ifs with hsame
      · exact hsame.symm
      · rfl
    show reading.settle _ read (([] ++ reading.visible state read.description size).take
      (if ((reading.visible state read.description size).length : ℤ) = read.kernelResult then
        read.kernelResult else (reading.visible state read.description size).length).toNat) = _
    rw [hcount, Int.toNat_natCast, List.nil_append, List.take_length]
  · rw [hmoved, hpositions]
    split_ifs
    · rw [UInt64.ofNat_add _ (reading.visible state read.description size).length]
    · rfl

theorem delivered_append_visible (h : reading.Inv state) (description size : ℕ) :
    (state.descriptions description).delivered ++ reading.visible state description size <+:
      reading.text (reading.path description) := by
  obtain ⟨rest, hrest⟩ := h.delivered description
  rw [visible, ← hrest, List.drop_left]
  exact (List.prefix_append_right_inj _).mpr (List.take_prefix _ _)

theorem issued_of_update (other : ℕ) (issued : IssuedRead)
    (hissued : Function.update state.issued task none other = some issued) :
    state.issued other = some issued := by
  by_cases hother : other = task
  · subst hother
    rw [Function.update_self] at hissued
    cases hissued
  · rwa [Function.update_of_ne hother] at hissued

theorem seen_settle {output : List UInt8} (hresult : 0 ≤ read.kernelResult) (fd : ℤ)
    (path : List UInt8) :
    (reading.settle state read output).seen fd path =
      if fd = read.fd ∧ path = reading.path read.description then
        some (read.description, read.start + read.consumed)
      else state.seen fd path := by
  rw [settle, if_neg hresult.not_gt]
  by_cases hfd : fd = read.fd
  · subst hfd
    by_cases hpath : path = reading.path read.description
    · subst hpath
      simp
    · simp [hpath]
  · simp [hfd]

theorem descriptions_settle {output : List UInt8} (hresult : 0 ≤ read.kernelResult)
    (description : ℕ) :
    (reading.settle state read output).descriptions description =
      if description = read.description then
        { state.descriptions read.description with
          settled := read.start + read.consumed
          lastFd := some read.fd
          delivered := (state.descriptions read.description).delivered ++ output }
      else state.descriptions description := by
  rw [settle, if_neg hresult.not_gt]
  exact Function.update_apply ..

theorem Inv.settled (h : reading.Inv state) {last : ProcVirtualResidentState}
    {output : List UInt8} (hresult : 0 ≤ read.kernelResult)
    (hmax : read.start + read.consumed ≤ uintptrMax) (hcursors : CursorsValid last.cursors)
    (hpositions : ∀ other name, positionOf last reading.ownerSlot other name =
      if other = read.fd ∧ name = reading.path read.description then
        some (.ofNat (read.start + read.consumed),
          .ofNat ((state.descriptions read.description).delivered.length + output.length))
      else positionOf state.resident reading.ownerSlot other name)
    (houtput : (state.descriptions read.description).delivered ++ output <+:
      reading.text (reading.path read.description))
    (hlength : ((state.descriptions read.description).delivered ++ output).length ≤ uintptrMax)
    (hempty : read.start + read.consumed = 0 →
      (state.descriptions read.description).delivered ++ output = []) :
    reading.Inv (reading.settle { state with resident := last } read output) := by
  have hresident : (reading.settle { state with resident := last } read output).resident = last := by
    rw [settle, if_neg hresult.not_gt]
  refine ⟨by rwa [hresident], ?_, ?_, ?_, ?_, ?_, ?_, ?_⟩
  · intro fd path hnone
    rw [seen_settle hresult] at hnone
    rw [hresident, hpositions]
    split_ifs at hnone ⊢
    exact h.unseen fd path hnone
  · intro fd path description raw hentry
    rw [seen_settle hresult] at hentry
    rw [hresident, hpositions, descriptions_settle hresult]
    split_ifs at hentry ⊢ with hsame hother hother
    · obtain ⟨rfl, rfl⟩ := Prod.mk.inj (Option.some.inj hentry)
      refine ⟨hsame.2.symm, hmax, _, List.length_append ▸ hlength, rfl, fun hend => ?_, fun _ => ?_⟩
      · rw [← List.length_append, hempty hend, List.length_nil]
      · exact ⟨rfl, List.length_append.symm⟩
    · exact absurd (Prod.mk.inj (Option.some.inj hentry)).1.symm hother
    · obtain ⟨hpath, hraw, logical, hlogical, hposition, hzero, -⟩ :=
        h.seen fd path description raw hentry
      refine ⟨hpath, hraw, logical, hlogical, hposition, hzero, fun hlast => ?_⟩
      exact absurd ⟨(Option.some.inj hlast).symm, hother ▸ hpath.symm⟩ hsame
    · exact h.seen fd path description raw hentry
  · intro description hnone
    rw [descriptions_settle hresult] at hnone ⊢
    split_ifs at hnone ⊢
    exact h.fresh description hnone
  · intro description hend
    rw [descriptions_settle hresult] at hend ⊢
    split_ifs at hend ⊢
    · exact hempty hend
    · exact h.start description hend
  · intro description
    rw [descriptions_settle hresult]
    split_ifs with hother
    · exact hother ▸ houtput
    · exact h.delivered description
  · rw [settle, if_neg hresult.not_gt]
    exact h.issued
  · rw [settle, if_neg hresult.not_gt]
    exact h.running

theorem Inv.cleared (h : reading.Inv state) :
    reading.Inv { state with issued := Function.update state.issued task none } :=
  { h with
    issued := fun other issued hissued =>
      h.issued other issued (issued_of_update other issued hissued) }

theorem Inv.finish_followed (h : reading.Inv state) (hvalid : reading.Valid)
    (hfollowed : reading.Followed state (.finish task)) (hread : state.issued task = some read)
    (hresult : 0 ≤ read.kernelResult) : reading.Inv (reading.finish state task) := by
  obtain ⟨-, hissued⟩ := h.issued task read hread
  obtain ⟨hmax, size, hrequests, hzero⟩ := hissued hresult
  obtain ⟨-, hstart, -⟩ := hfollowed read hread hresult
  obtain ⟨last, hfinish, hcursors, hpositions⟩ := h.finish_eq hvalid hfollowed hread hresult
    hrequests
  have hvisible := delivered_append_visible h read.description size
  rw [hfinish]
  refine (h.cleared).settled hresult hmax hcursors hpositions hvisible ?_ ?_
  · have htext := hvalid.length read.description
    have hint : int64Max ≤ uintptrMax := by decide
    exact (hvisible.length_le.trans htext).trans hint
  · intro hend
    obtain ⟨hstartZero, hconsumed⟩ := Nat.add_eq_zero_iff.mp hend
    have hsize : size = 0 := by
      by_contra hne
      have hpos := hzero hstartZero (Nat.pos_of_ne_zero hne)
      rw [IssuedRead.consumed] at hconsumed
      omega
    rw [visible, hsize, List.take_zero, List.append_nil]
    exact h.start _ (hstart.symm.trans hstartZero)

theorem Inv.finish_failed (h : reading.Inv state) (hvalid : reading.Valid)
    (hread : state.issued task = some read) (hresult : read.kernelResult < 0) :
    reading.Inv (reading.finish state task) := by
  obtain ⟨hfd, -⟩ := h.issued task read hread
  obtain ⟨result, last, hrun, hcursors, hpositions⟩ := @Valid.completeText_failed reading
    (reading.task task) read hvalid hresult hfd
    (host { state with issued := Function.update state.issued task none } read) h.cursors
  have hfinish : reading.finish state task =
      { state with
        issued := Function.update state.issued task none
        resident := last } := by
    rw [finish, hread]
    dsimp only
    rw [hrun]
    exact if_pos hresult
  rw [hfinish]
  refine ⟨hcursors, ?_, ?_, h.fresh, h.start, h.delivered, h.cleared.issued, h.running⟩
  · intro fd path hnone
    exact (hpositions fd path).trans (h.unseen fd path hnone)
  · intro fd path description raw hentry
    obtain ⟨hpath, hraw, logical, hlogical, hposition, hrest⟩ := h.seen fd path description raw hentry
    exact ⟨hpath, hraw, logical, hlogical, (hpositions fd path).trans hposition, hrest⟩

theorem Inv.issue (h : reading.Inv state) {fd syscallNumber kernelResult : ℤ}
    {arguments : Fin 6 → UInt64}
    (hallowed : reading.Allowed state (.issue task fd syscallNumber arguments kernelResult)) :
    reading.Inv (issue state task fd syscallNumber arguments kernelResult) := by
  obtain ⟨hpos, hkernel⟩ := hallowed
  rw [Reading.issue]
  cases hfd : state.fds fd with
  | none => exact h
  | some description =>
    have hmoved (other : ℕ) : ∃ offset, Function.update state.descriptions description
        { state.descriptions description with
          offset := (state.descriptions description).offset + kernelResult.toNat } other =
        { state.descriptions other with offset } := by
      by_cases hother : other = description
      · rw [hother, Function.update_self]
        exact ⟨_, rfl⟩
      · rw [Function.update_of_ne hother]
        exact ⟨_, rfl⟩
    refine ⟨h.cursors, h.unseen, ?_, ?_, ?_, ?_, ?_, h.running⟩
    · intro fd path reader raw hentry
      obtain ⟨offset, hreader⟩ := hmoved reader
      dsimp only
      rw [hreader]
      exact h.seen fd path reader raw hentry
    · intro other
      obtain ⟨offset, hother⟩ := hmoved other
      dsimp only
      rw [hother]
      exact h.fresh other
    · intro other
      obtain ⟨offset, hother⟩ := hmoved other
      dsimp only
      rw [hother]
      exact h.start other
    · intro other
      obtain ⟨offset, hother⟩ := hmoved other
      dsimp only
      rw [hother]
      exact h.delivered other
    · intro other issued hissued
      dsimp only at hissued
      by_cases hother : other = task
      · subst hother
        rw [Function.update_self] at hissued
        obtain rfl := Option.some.inj hissued
        refine ⟨hpos, fun hresult => ?_⟩
        obtain ⟨hmax, size, hrequests, -, hzero⟩ := hkernel description hfd hresult
        exact ⟨hmax, size, hrequests, hzero⟩
      · rw [Function.update_of_ne hother] at hissued
        exact h.issued other issued hissued

/-- Every event that the kernel allows and the cursors can follow keeps the invariant. -/
theorem Inv.apply (h : reading.Inv state) (hvalid : reading.Valid) {event : ReadEvent}
    (hallowed : reading.Allowed state event) (hfollowed : reading.Followed state event) :
    reading.Inv (reading.apply state event) := by
  cases event with
  | install fd description => exact { h with }
  | close fd => exact { h with }
  | issue task fd syscallNumber arguments kernelResult => exact h.issue hallowed
  | finish task =>
    cases hread : state.issued task with
    | none =>
      rw [Reading.apply, finish, hread]
      exact h
    | some read =>
      by_cases hresult : read.kernelResult < 0
      · exact h.finish_failed hvalid hread hresult
      · exact h.finish_followed hvalid hfollowed hread (not_lt.mp hresult)

theorem Reaches.inv (hvalid : reading.Valid) (h : reading.Reaches state) : reading.Inv state := by
  induction h with
  | init => exact inv_init
  | step _ event hallowed hfollowed ih => exact ih.apply hvalid hallowed hfollowed

theorem Inv.finish_end (h : reading.Inv state) (hvalid : reading.Valid)
    (hfollowed : reading.Followed state (.finish task)) (hread : state.issued task = some read)
    (hresult : 0 ≤ read.kernelResult) (hrequests : reading.Requests (reading.task task) read size)
    (hsize : 0 < size)
    (hsame : ((reading.finish state task).descriptions read.description).delivered =
      (state.descriptions read.description).delivered) :
    (state.descriptions read.description).delivered =
      reading.text (reading.path read.description) := by
  obtain ⟨last, hfinish, -⟩ := h.finish_eq hvalid hfollowed hread hresult hrequests
  rw [hfinish, settle, if_neg hresult.not_gt] at hsame
  dsimp only at hsame
  rw [Function.update_self] at hsame
  have hvisible := List.append_right_eq_self.mp hsame
  rw [visible, List.take_eq_nil_iff, List.drop_eq_nil_iff] at hvisible
  exact (h.delivered _).eq_of_length_le (hvisible.resolve_left hsize.ne')

/-- Reads that the cursors can follow deliver the text of every description piece by piece, and all of
it at the end of the file. -/
theorem sequentialReads_deliver (hvalid : reading.Valid) (h : reading.Reaches state) :
    state.failed = none ∧
      (∀ description, (state.descriptions description).delivered <+:
        reading.text (reading.path description)) ∧
      ∀ task read size, state.issued task = some read → 0 ≤ read.kernelResult →
        reading.Requests (reading.task task) read size → 0 < size →
        reading.Followed state (.finish task) →
        ((reading.finish state task).descriptions read.description).delivered =
          (state.descriptions read.description).delivered →
        (state.descriptions read.description).delivered =
          reading.text (reading.path read.description) := by
  have hinv := h.inv hvalid
  exact ⟨hinv.running, hinv.delivered, fun _ _ _ hread hresult hrequests hsize hfollowed hsame =>
    hinv.finish_end hvalid hfollowed hread hresult hrequests hsize hsame⟩

def sampleReading : Reading where
  config :=
    { generation := 1
      tracerPid := 2
      maxIovCount := 0
      maxGetdentsReplays := 0
      getdentsReplayTimeoutNs := 0
      hiddenRanges := []
      reverseRules := []
      protectedFds := []
      xattrRules := []
      snapshotBuffer := List.replicate 16 0
      rewriteBuffer := List.replicate 16 0 }
  ownerSlot := 9
  task := fun slot => ⟨slot, 1, 1, 0, 0⟩
  memory := fun _ size => List.replicate size 0
  path := fun _ => bytes "/proc/self/attr/current"
  node := fun _ => .attrCurrent
  contents := fun _ => [1, 2, 3, 4, 5, 6]
  text := fun _ => [1, 2, 3, 4, 5, 6]

theorem sampleReading_valid : sampleReading.Valid where
  path := fun _ => (by decide +kernel : (bytes "/proc/self/attr/current").length < identityCapacity)
  snapshotBuffer := by decide
  rewriteBuffer := by decide
  contents := fun _ => (by decide : 6 ≤ 16)
  text := fun _ => ⟨⟨0, 0, 0, 0⟩, rfl⟩
  length := fun _ => (by decide : 6 ≤ int64Max)

def sampleRead (fd : ℤ) (size : ℕ) (kernelResult : ℤ) : List ReadEvent :=
  [.issue 0 fd nrRead (fun index => if index = 2 then .ofNat size else 4096) kernelResult,
    .finish 0]

def sampleRun (events : List ReadEvent) : ReadState :=
  events.foldl sampleReading.apply initReadState

theorem sampleReading_allowed {state : ReadState} (fd : ℤ) (description : ℕ)
    (hfd : state.fds fd = some description) (hpos : 0 ≤ fd)
    (hoffset : (state.descriptions description).offset ≤ 6) :
    sampleReading.Allowed state
      (.issue 0 fd nrRead (fun index => if index = 2 then .ofNat 2 else 4096) 2) := by
  refine ⟨hpos, fun other hother _ => ?_⟩
  obtain rfl := Option.some.inj (hfd.symm.trans hother)
  refine ⟨(Nat.add_le_add_right hoffset 2).trans (by decide), 2, ?_, le_rfl, fun _ _ => by decide⟩
  exact .inl ⟨rfl, (by decide : 2 = (UInt64.ofNat 2).toNat), .inr (by decide : RemoteFits 4096 2)⟩

theorem seen_finish_of_ne {fd : ℤ} (hne : ∀ read, state.issued task = some read → fd ≠ read.fd) :
    (reading.finish state task).seen fd = state.seen fd := by
  rw [finish]
  cases hread : state.issued task with
  | none => rfl
  | some read =>
    dsimp only
    split
    · rfl
    · rw [settle]
      split_ifs
      · rfl
      · exact Function.update_of_ne (hne read hread) ..

theorem seen_issue {fd syscallNumber kernelResult : ℤ} {arguments : Fin 6 → UInt64} :
    (issue state task fd syscallNumber arguments kernelResult).seen = state.seen := by
  rw [issue]
  split <;> rfl

/-- A descriptor reads two bytes, and a `dup` of it reads on from there. -/
theorem sequentialReads_deliver_sample :
    ∃ state, sampleReading.Reaches state ∧ state.failed = none ∧
      (state.descriptions 0).delivered = [1, 2, 3, 4] ∧
      (state.descriptions 0).delivered <+: [1, 2, 3, 4, 5, 6] := by
  have hinstalled : sampleReading.Reaches (sampleRun [.install 3 0]) :=
    .step .init (.install 3 0) (by decide : (0 : ℤ) ≤ 3) trivial
  have hissued := Reaches.step hinstalled _
    (sampleReading_allowed 3 0 rfl (by decide) (by decide)) trivial
  have hread := Reaches.step hissued (.finish 0) trivial (by
    intro read hread _
    obtain rfl := Option.some.inj hread
    have hfree : (initProcVirtualResidentState.cursors 0).occupied = 0 := rfl
    exact ⟨rfl, rfl, rfl, .inr ⟨0, by decide, hfree⟩, .inl rfl⟩)
  have hdup := Reaches.step hread (.install 4 0) (by decide : (0 : ℤ) ≤ 4) trivial
  have hagain := Reaches.step hdup _
    (sampleReading_allowed 4 0 rfl (by decide) (by decide +kernel)) trivial
  have hlast := Reaches.step hagain (.finish 0) trivial (by
    intro read hread _
    obtain rfl := Option.some.inj hread
    refine ⟨rfl, by decide +kernel, by decide +kernel, .inr ⟨1, by decide, by decide +kernel⟩,
      .inr ⟨3, by decide +kernel, ⟨2, by decide +kernel⟩, .inr fun other hother reader hseen => ?_⟩⟩
    simp only [apply, seen_issue] at hseen
    rw [seen_finish_of_ne, seen_issue] at hseen
    · cases hseen
    · intro read hread
      obtain rfl := Option.some.inj hread
      exact hother)
  obtain ⟨hrunning, hdelivered, -⟩ := sequentialReads_deliver sampleReading_valid hlast
  exact ⟨_, hlast, hrunning, by decide +kernel, hdelivered 0⟩

/-- At the end of the raw file a `dup` reads on, and then the first descriptor reads the same bytes;
and a `dup` takes the cursor of another description that stands at its raw offset. -/
theorem sequentialReads_repeat :
    ¬((sampleRun ([.install 3 0, .install 4 0] ++ sampleRead 3 2 2 ++ sampleRead 4 2 0 ++
        sampleRead 3 2 0)).descriptions 0).delivered <+:
        sampleReading.text (sampleReading.path 0) ∧
      ¬((sampleRun ([.install 3 0, .install 4 1, .install 5 0] ++ sampleRead 3 3 2 ++
        sampleRead 4 2 2 ++ sampleRead 5 1 1)).descriptions 0).delivered <+:
        sampleReading.text (sampleReading.path 0) := by
  decide +kernel

end Invariant

end Reading

end HookSelf.ProcVirtual
