import HookSelf.Collections.BestSlot
import HookSelf.ProcVirtual.PendingLaws

/-! The resident state of the proc view (`proc_virtual_resident_state.cpp`): the pending calls, and
the cursors of sequential reads. -/

namespace HookSelf.ProcVirtual

open Buffer ProcText SlotTable

section Model

abbrev cursorCapacity : ℕ := 1024
abbrev hiddenRangeCapacity : ℕ := 96
abbrev reverseRuleCapacity : ℕ := 64
abbrev xattrRuleCapacity : ℕ := 4

structure ProcVirtualFdCursor where
  occupied : ℕ
  ownerSlot : ℕ
  fd : ℤ
  pathLength : ℕ
  lastUsedSequence : UInt64
  rawPosition : UInt64
  logicalPosition : UInt64
  identityPath : List UInt8
  deriving DecidableEq, Repr

def zeroCursor : ProcVirtualFdCursor where
  occupied := 0
  ownerSlot := 0
  fd := 0
  pathLength := 0
  lastUsedSequence := 0
  rawPosition := 0
  logicalPosition := 0
  identityPath := List.replicate identityCapacity 0

structure ProcVirtualResidentState where
  pending : ProcVirtualPendingTable
  cursorSequence : UInt64
  hiddenRanges : List ProcVirtualAddressRange
  reverseRuleCount : ℕ
  xattrRuleCount : ℕ
  cursors : ℕ → ProcVirtualFdCursor

def initProcVirtualResidentState : ProcVirtualResidentState where
  pending := initProcVirtualPendingTable
  cursorSequence := 0
  hiddenRanges := []
  reverseRuleCount := 0
  xattrRuleCount := 0
  cursors := fun _ => zeroCursor

def SamePath (cursor : ProcVirtualFdCursor) (path : List UInt8) : Prop :=
  cursor.pathLength = path.length ∧ cursor.identityPath.take path.length = path

instance (cursor : ProcVirtualFdCursor) (path : List UInt8) : Decidable (SamePath cursor path) :=
  inferInstanceAs (Decidable (_ ∧ _))

def ProcVirtualFdCursor.IsOf (cursor : ProcVirtualFdCursor) (ownerSlot : ℕ) (fd : ℤ)
    (path : List UInt8) : Prop :=
  cursor.occupied ≠ 0 ∧ cursor.ownerSlot = ownerSlot ∧ cursor.fd = fd ∧ SamePath cursor path

instance (cursor : ProcVirtualFdCursor) (ownerSlot : ℕ) (fd : ℤ) (path : List UInt8) :
    Decidable (cursor.IsOf ownerSlot fd path) :=
  inferInstanceAs (Decidable (_ ∧ _))

def findCursor (state : ProcVirtualResidentState) (ownerSlot : ℕ) (fd : ℤ) (path : List UInt8) :
    Option ℕ :=
  firstSlot cursorCapacity fun slot => (state.cursors slot).IsOf ownerSlot fd path

def ProcVirtualFdCursor.Shares (cursor : ProcVirtualFdCursor) (ownerSlot : ℕ) (excludedFd : ℤ)
    (path : List UInt8) (rawPosition : UInt64) : Prop :=
  cursor.occupied ≠ 0 ∧ cursor.ownerSlot = ownerSlot ∧ cursor.fd ≠ excludedFd ∧
    cursor.rawPosition = rawPosition ∧ SamePath cursor path

instance (cursor : ProcVirtualFdCursor) (ownerSlot : ℕ) (excludedFd : ℤ) (path : List UInt8)
    (rawPosition : UInt64) : Decidable (cursor.Shares ownerSlot excludedFd path rawPosition) :=
  inferInstanceAs (Decidable (_ ∧ _))

def findSharedDescriptionCursor (state : ProcVirtualResidentState) (ownerSlot : ℕ)
    (excludedFd : ℤ) (path : List UInt8) (rawPosition : UInt64) : Option ℕ :=
  bestSlot cursorCapacity
    (fun slot => (state.cursors slot).Shares ownerSlot excludedFd path rawPosition)
    fun slot => (state.cursors slot).lastUsedSequence.toNat

def allocateCursor (state : ProcVirtualResidentState) : ℕ :=
  (firstSlot cursorCapacity fun slot => (state.cursors slot).occupied = 0).getD
    ((bestSlot cursorCapacity (fun _ => True) fun slot =>
      OrderDual.toDual (state.cursors slot).lastUsedSequence.toNat).getD 0)

def nextSequence (state : ProcVirtualResidentState) : ProcVirtualResidentState :=
  if state.cursorSequence + 1 = 0 then
    { state with
      cursorSequence := 1
      cursors := fun slot =>
        if slot < cursorCapacity ∧ (state.cursors slot).occupied ≠ 0 then
          { state.cursors slot with lastUsedSequence := 1 }
        else state.cursors slot }
  else { state with cursorSequence := state.cursorSequence + 1 }

def initializeCursor (ownerSlot : ℕ) (fd : ℤ) (path : List UInt8) (rawStart rawEnd : UInt64)
    (sequence : UInt64) : ProcVirtualFdCursor where
  occupied := 1
  ownerSlot
  fd
  pathLength := path.length
  lastUsedSequence := sequence
  rawPosition := rawEnd
  logicalPosition := rawStart
  identityPath := write (write zeroCursor.identityPath 0 path) path.length [0]

def ProcVirtualResidentState.setCursor (state : ProcVirtualResidentState) (slot : ℕ)
    (cursor : ProcVirtualFdCursor) : ProcVirtualResidentState :=
  { state with cursors := Function.update state.cursors slot cursor }

def appendProcVirtualHiddenRange (state : ProcVirtualResidentState) (start size : UInt64) :
    ProcVirtualResidentState × Except Errno Unit :=
  if size = 0 ∨ start.toNat > uintptrMax - size.toNat then (state, .error .einval)
  else if ⟨start, size⟩ ∈ state.hiddenRanges then (state, .ok ())
  else if state.hiddenRanges.length ≥ hiddenRangeCapacity then (state, .error .enospc)
  else ({ state with hiddenRanges := state.hiddenRanges ++ [⟨start, size⟩] }, .ok ())

def beginProcVirtualSequentialRead (state : ProcVirtualResidentState) (ownerSlot : ℕ) (fd : ℤ)
    (path : List UInt8) (rawStart rawEnd : UInt64) :
    ProcVirtualResidentState × Except Errno UInt64 :=
  if fd < 0 ∨ rawStart > rawEnd ∨ path.length ≥ identityCapacity then (state, .error .einval)
  else
    let found := findCursor state ownerSlot fd path
    let state := nextSequence state
    let shared := (findSharedDescriptionCursor state ownerSlot fd path rawStart).map fun slot =>
      (state.cursors slot).logicalPosition
    match found with
    | none =>
      let logicalPosition := shared.getD rawStart
      (state.setCursor (allocateCursor state)
        { initializeCursor ownerSlot fd path rawStart rawEnd state.cursorSequence with
          logicalPosition }, .ok logicalPosition)
    | some slot =>
      let cursor := state.cursors slot
      let logicalPosition :=
        if cursor.rawPosition ≠ rawStart then shared.getD rawStart else cursor.logicalPosition
      (state.setCursor slot
        { cursor with
          lastUsedSequence := state.cursorSequence
          rawPosition := rawEnd
          logicalPosition }, .ok logicalPosition)

def advanceProcVirtualSequentialRead (state : ProcVirtualResidentState) (ownerSlot : ℕ) (fd : ℤ)
    (path : List UInt8) (visibleSize : ℕ) : ProcVirtualResidentState × Except Errno Unit :=
  if fd < 0 ∨ path.length ≥ identityCapacity then (state, .error .einval)
  else
    match findCursor state ownerSlot fd path with
    | none => (state, .error .enoent)
    | some slot =>
      if visibleSize > uintptrMax - (state.cursors slot).logicalPosition.toNat then
        (state, .error .eoverflow)
      else
        let logicalPosition := (state.cursors slot).logicalPosition + .ofNat visibleSize
        let state := nextSequence (state.setCursor slot
          { state.cursors slot with logicalPosition })
        (state.setCursor slot
          { state.cursors slot with lastUsedSequence := state.cursorSequence }, .ok ())

def ProcVirtualFdCursor.Valid (cursor : ProcVirtualFdCursor) : Prop :=
  cursor.occupied = 1 ∧ 0 ≤ cursor.fd ∧ cursor.pathLength < identityCapacity ∧
    cursor.identityPath[cursor.pathLength]? = some 0 ∧ cursor.lastUsedSequence ≠ 0

instance (cursor : ProcVirtualFdCursor) : Decidable cursor.Valid :=
  inferInstanceAs (Decidable (_ ∧ _))

def ValidateProcVirtualResidentState (state : ProcVirtualResidentState) : Prop :=
  ValidateProcVirtualPendingTable state.pending ∧
    state.hiddenRanges.length ≤ hiddenRangeCapacity ∧
    state.reverseRuleCount ≤ reverseRuleCapacity ∧ state.xattrRuleCount ≤ xattrRuleCapacity ∧
    ∀ slot < cursorCapacity,
      if (state.cursors slot).occupied = 0 then state.cursors slot = zeroCursor
      else (state.cursors slot).Valid ∧
        ∀ other < cursorCapacity, slot < other →
          ¬(state.cursors other).IsOf (state.cursors slot).ownerSlot (state.cursors slot).fd
            ((state.cursors slot).identityPath.take (state.cursors slot).pathLength)

end Model

section Cursors

variable {state : ProcVirtualResidentState} {cursors : ℕ → ProcVirtualFdCursor}
  {cursor other : ProcVirtualFdCursor} {slot ownerSlot : ℕ} {fd : ℤ} {path : List UInt8}

/-- Every cursor is valid or zero, and no two are of one descriptor and path. -/
structure CursorsValid (cursors : ℕ → ProcVirtualFdCursor) : Prop where
  accepted : ∀ slot < cursorCapacity,
    if (cursors slot).occupied = 0 then cursors slot = zeroCursor else (cursors slot).Valid
  unique : ∀ a < cursorCapacity, ∀ b < cursorCapacity, ∀ ownerSlot fd path,
    (cursors a).IsOf ownerSlot fd path → (cursors b).IsOf ownerSlot fd path → a = b

theorem ProcVirtualFdCursor.Valid.isOf (h : cursor.Valid) : cursor.IsOf cursor.ownerSlot cursor.fd
    (cursor.identityPath.take cursor.pathLength) := by
  obtain ⟨hoccupied, -, -, hnul, -⟩ := h
  have hlt := (List.getElem?_eq_some_iff.mp hnul).1
  have hlength : (cursor.identityPath.take cursor.pathLength).length = cursor.pathLength := by
    rw [List.length_take]
    omega
  exact ⟨by omega, rfl, rfl, hlength.symm, by rw [hlength]⟩

theorem CursorsValid.distinct (h : CursorsValid cursors) (hslot : slot < cursorCapacity) :
    if (cursors slot).occupied = 0 then cursors slot = zeroCursor
    else (cursors slot).Valid ∧
      ∀ other < cursorCapacity, slot < other →
        ¬(cursors other).IsOf (cursors slot).ownerSlot (cursors slot).fd
          ((cursors slot).identityPath.take (cursors slot).pathLength) := by
  have haccepted := h.accepted slot hslot
  split_ifs at haccepted ⊢ with hzero
  · exact haccepted
  · refine ⟨haccepted, fun other hother hlt hof => ?_⟩
    exact hlt.ne (h.unique slot hslot other hother _ _ _ haccepted.isOf hof)

def ProcVirtualFdCursor.SameKey (cursor other : ProcVirtualFdCursor) : Prop :=
  other.occupied = cursor.occupied ∧ other.ownerSlot = cursor.ownerSlot ∧ other.fd = cursor.fd ∧
    other.pathLength = cursor.pathLength ∧ other.identityPath = cursor.identityPath

theorem ProcVirtualFdCursor.SameKey.isOf (h : cursor.SameKey other) :
    other.IsOf ownerSlot fd path ↔ cursor.IsOf ownerSlot fd path := by
  obtain ⟨hoccupied, howner, hfd, hlength, hpath⟩ := h
  simp only [ProcVirtualFdCursor.IsOf, SamePath, hoccupied, howner, hfd, hlength, hpath]

theorem ProcVirtualFdCursor.SameKey.valid (h : cursor.SameKey other) (hvalid : cursor.Valid)
    (hsequence : other.lastUsedSequence ≠ 0) : other.Valid := by
  obtain ⟨hoccupied, howner, hfd, hlength, hpath⟩ := h
  obtain ⟨hone, hpos, hlt, hnul, -⟩ := hvalid
  exact ⟨hoccupied ▸ hone, hfd ▸ hpos, hlength ▸ hlt, by rw [hpath, hlength]; exact hnul, hsequence⟩

theorem CursorsValid.update (h : CursorsValid cursors) (hvalid : cursor.Valid)
    (hunique : ∀ b < cursorCapacity, b ≠ slot → ∀ ownerSlot fd path,
      cursor.IsOf ownerSlot fd path → ¬(cursors b).IsOf ownerSlot fd path) :
    CursorsValid (Function.update cursors slot cursor) where
  accepted := forall_update (P := fun _ cursor =>
    if cursor.occupied = 0 then cursor = zeroCursor else ProcVirtualFdCursor.Valid cursor) h.accepted
    (by rwa [if_neg (by rw [hvalid.1]; decide)])
  unique := by
    intro a ha b hb ownerSlot fd path hofa hofb
    by_cases hasl : a = slot
    · subst hasl
      rw [Function.update_self] at hofa
      by_contra hne
      rw [Function.update_of_ne (Ne.symm hne)] at hofb
      exact hunique b hb (Ne.symm hne) _ _ _ hofa hofb
    · rw [Function.update_of_ne hasl] at hofa
      by_cases hbsl : b = slot
      · subst hbsl
        rw [Function.update_self] at hofb
        exact absurd hofa (hunique a ha hasl _ _ _ hofb)
      · rw [Function.update_of_ne hbsl] at hofb
        exact h.unique a ha b hb _ _ _ hofa hofb

theorem CursorsValid.touch (h : CursorsValid cursors) (hslot : slot < cursorCapacity)
    (hkey : (cursors slot).SameKey cursor) (hoccupied : (cursors slot).occupied ≠ 0)
    (hsequence : cursor.lastUsedSequence ≠ 0) : CursorsValid (Function.update cursors slot cursor) := by
  have hvalid := h.accepted slot hslot
  rw [if_neg hoccupied] at hvalid
  refine h.update (hkey.valid hvalid hsequence) fun b hb hne ownerSlot fd path hof hofb => ?_
  exact hne (h.unique b hb slot hslot _ _ _ hofb (hkey.isOf.mp hof))

@[simp] theorem setCursor_self : (state.setCursor slot cursor).cursors slot = cursor :=
  Function.update_self ..

theorem setCursor_of_ne {place : ℕ} (h : place ≠ slot) :
    (state.setCursor slot cursor).cursors place = state.cursors place :=
  Function.update_of_ne h ..

theorem nextSequence_ne_zero : (nextSequence state).cursorSequence ≠ 0 := by
  rw [nextSequence]
  split_ifs with hwrap
  · exact (by decide : (1 : UInt64) ≠ 0)
  · exact hwrap

/-- When the numbers wrap, the occupied cursors start again at one. -/
theorem nextSequence_cursor (state : ProcVirtualResidentState) (slot : ℕ) :
    (nextSequence state).cursors slot = state.cursors slot ∨
      (state.cursors slot).occupied ≠ 0 ∧ (nextSequence state).cursors slot =
        { state.cursors slot with lastUsedSequence := 1 } := by
  by_cases hwrap : state.cursorSequence + 1 = 0
  · rw [nextSequence, if_pos hwrap]
    dsimp only
    split_ifs with hoccupied
    · exact .inr ⟨hoccupied.2, rfl⟩
    · exact .inl rfl
  · rw [nextSequence, if_neg hwrap]
    exact .inl rfl

theorem nextSequence_sameKey : (state.cursors slot).SameKey ((nextSequence state).cursors slot) := by
  rcases nextSequence_cursor state slot with heq | ⟨-, heq⟩
  · rw [heq]
    exact ⟨rfl, rfl, rfl, rfl, rfl⟩
  · rw [heq]
    exact ⟨rfl, rfl, rfl, rfl, rfl⟩

theorem CursorsValid.nextSequence (h : CursorsValid state.cursors) :
    CursorsValid (nextSequence state).cursors where
  accepted := by
    intro slot hslot
    have haccepted := h.accepted slot hslot
    rcases nextSequence_cursor state slot with heq | ⟨hoccupied, heq⟩
    · rwa [heq]
    · have hkey := @nextSequence_sameKey state slot
      rw [if_neg hoccupied] at haccepted
      rw [if_neg (hkey.1 ▸ hoccupied)]
      exact hkey.valid haccepted (by rw [heq]; exact (by decide : (1 : UInt64) ≠ 0))
  unique := fun a ha b hb _ _ _ hofa hofb =>
    h.unique a ha b hb _ _ _ (nextSequence_sameKey.isOf.mp hofa) (nextSequence_sameKey.isOf.mp hofb)

theorem initializeCursor_isOf {rawStart rawEnd sequence logicalPosition : UInt64} {owner : ℕ}
    {descriptor : ℤ} {name : List UInt8} :
    ({ initializeCursor ownerSlot fd path rawStart rawEnd sequence with logicalPosition } :
      ProcVirtualFdCursor).IsOf owner descriptor name ↔
      owner = ownerSlot ∧ descriptor = fd ∧ name = path := by
  have hwritten := (write_identityPath zeroCursor.identityPath path).1
  constructor
  · rintro ⟨-, rfl, rfl, hlength, htake⟩
    refine ⟨rfl, rfl, ?_⟩
    have hlength : path.length = name.length := hlength
    rw [← htake, ← hlength]
    exact hwritten
  · rintro ⟨rfl, rfl, rfl⟩
    exact ⟨one_ne_zero, rfl, rfl, rfl, hwritten⟩

theorem initializeCursor_valid {rawStart rawEnd sequence logicalPosition : UInt64} (hfd : 0 ≤ fd)
    (hpath : path.length < identityCapacity) (hsequence : sequence ≠ 0) :
    ({ initializeCursor ownerSlot fd path rawStart rawEnd sequence with logicalPosition } :
      ProcVirtualFdCursor).Valid :=
  ⟨rfl, hfd, hpath, (write_identityPath zeroCursor.identityPath path).2, hsequence⟩

end Cursors

section Reads

variable {state : ProcVirtualResidentState} {ownerSlot : ℕ} {fd : ℤ} {path : List UInt8}

theorem findCursor_none (h : findCursor state ownerSlot fd path = none) :
    ∀ slot < cursorCapacity, ¬(state.cursors slot).IsOf ownerSlot fd path :=
  firstSlot_none.mp h

theorem beginProcVirtualSequentialRead_cursors (h : CursorsValid state.cursors)
    (rawStart rawEnd : UInt64) :
    CursorsValid
      (beginProcVirtualSequentialRead state ownerSlot fd path rawStart rawEnd).1.cursors := by
  rw [beginProcVirtualSequentialRead]
  split_ifs with hguard
  · exact h
  simp only [not_or, not_lt, ge_iff_le, not_le] at hguard
  obtain ⟨hfd, -, hpath⟩ := hguard
  dsimp only
  cases hfound : findCursor state ownerSlot fd path with
  | none =>
    dsimp only [ProcVirtualResidentState.setCursor]
    refine h.nextSequence.update (initializeCursor_valid hfd hpath nextSequence_ne_zero)
      fun b hb _ owner descriptor name hof hofb => ?_
    obtain ⟨rfl, rfl, rfl⟩ := initializeCursor_isOf.mp hof
    exact findCursor_none hfound b hb (nextSequence_sameKey.isOf.mp hofb)
  | some slot =>
    obtain ⟨hslot, hof⟩ := firstSlot_some hfound
    exact h.nextSequence.touch hslot ⟨rfl, rfl, rfl, rfl, rfl⟩
      (nextSequence_sameKey.isOf.mpr hof).1 nextSequence_ne_zero

theorem advanceProcVirtualSequentialRead_cursors (h : CursorsValid state.cursors)
    (visibleSize : ℕ) :
    CursorsValid
      (advanceProcVirtualSequentialRead state ownerSlot fd path visibleSize).1.cursors := by
  rw [advanceProcVirtualSequentialRead]
  split_ifs with hguard
  · exact h
  cases hfound : findCursor state ownerSlot fd path with
  | none => exact h
  | some slot =>
    dsimp only
    split_ifs
    · exact h
    obtain ⟨hslot, hof⟩ := firstSlot_some hfound
    have hvalid := h.accepted slot hslot
    rw [if_neg hof.1] at hvalid
    have hmoved : CursorsValid (state.setCursor slot
        { state.cursors slot with
          logicalPosition := (state.cursors slot).logicalPosition + .ofNat visibleSize }).cursors :=
      h.touch hslot ⟨rfl, rfl, rfl, rfl, rfl⟩ hof.1 hvalid.2.2.2.2
    refine hmoved.nextSequence.touch hslot ⟨rfl, rfl, rfl, rfl, rfl⟩ ?_ nextSequence_ne_zero
    rw [nextSequence_sameKey.1, setCursor_self]
    exact hof.1

end Reads

section Runs

variable {σ : Type} {state : ProcVirtualResidentState}

structure ResidentInvariant (state : ProcVirtualResidentState) : Prop where
  pending : ValidateProcVirtualPendingTable state.pending
  hiddenRanges : state.hiddenRanges.length ≤ hiddenRangeCapacity
  reverseRules : state.reverseRuleCount ≤ reverseRuleCapacity
  xattrRules : state.xattrRuleCount ≤ xattrRuleCapacity
  cursors : CursorsValid state.cursors

theorem ResidentInvariant.validate (h : ResidentInvariant state) :
    ValidateProcVirtualResidentState state :=
  ⟨h.pending, h.hiddenRanges, h.reverseRules, h.xattrRules, fun _ hslot => h.cursors.distinct hslot⟩

theorem residentInvariant_init : ResidentInvariant initProcVirtualResidentState where
  pending := initProcVirtualPendingTable_valid
  hiddenRanges := Nat.zero_le _
  reverseRules := Nat.zero_le _
  xattrRules := Nat.zero_le _
  cursors := ⟨fun _ _ => by simp [initProcVirtualResidentState, zeroCursor],
    fun _ _ _ _ _ _ _ hof => absurd rfl hof.1⟩

inductive ResidentOperation (σ : Type)
  | entry (config : ProcVirtualDispatchConfig) (io : ProcVirtualIo σ)
    (task : ProcVirtualDispatchTask) (syscallNumber : ℤ) (arguments : Fin 6 → UInt64)
  | exit (config : ProcVirtualDispatchConfig) (io : ProcVirtualIo σ)
    (task : ProcVirtualDispatchTask) (kernelResult : ℤ)
  | clear (taskSlot : ℕ)
  | beginRead (ownerSlot : ℕ) (fd : ℤ) (path : List UInt8) (rawStart rawEnd : UInt64)
  | advanceRead (ownerSlot : ℕ) (fd : ℤ) (path : List UInt8) (visibleSize : ℕ)
  | appendHiddenRange (start size : UInt64)

def ResidentOperation.apply : ResidentOperation σ → ProcVirtualResidentState × σ →
    ProcVirtualResidentState × σ
  | .entry config io task syscallNumber arguments, (state, host) =>
    let outcome :=
      dispatchProcVirtualEntry config io state.pending task syscallNumber arguments host
    ({ state with pending := outcome.1.1 }, outcome.2)
  | .exit config io task kernelResult, (state, host) =>
    let outcome := dispatchProcVirtualExit config io state.pending task kernelResult host
    ({ state with pending := outcome.1.1 }, outcome.2)
  | .clear taskSlot, (state, host) =>
    ({ state with pending := (clearProcVirtualPending state.pending taskSlot).1 }, host)
  | .beginRead ownerSlot fd path rawStart rawEnd, (state, host) =>
    ((beginProcVirtualSequentialRead state ownerSlot fd path rawStart rawEnd).1, host)
  | .advanceRead ownerSlot fd path visibleSize, (state, host) =>
    ((advanceProcVirtualSequentialRead state ownerSlot fd path visibleSize).1, host)
  | .appendHiddenRange start size, (state, host) =>
    ((appendProcVirtualHiddenRange state start size).1, host)

theorem ResidentInvariant.of_cursors {next : ProcVirtualResidentState} (h : ResidentInvariant state)
    (hpending : next.pending = state.pending) (hranges : next.hiddenRanges = state.hiddenRanges)
    (hreverse : next.reverseRuleCount = state.reverseRuleCount)
    (hxattr : next.xattrRuleCount = state.xattrRuleCount) (hcursors : CursorsValid next.cursors) :
    ResidentInvariant next :=
  ⟨hpending ▸ h.pending, hranges ▸ h.hiddenRanges, hreverse ▸ h.reverseRules,
    hxattr ▸ h.xattrRules, hcursors⟩

def SameButCursors (state next : ProcVirtualResidentState) : Prop :=
  next.pending = state.pending ∧ next.hiddenRanges = state.hiddenRanges ∧
    next.reverseRuleCount = state.reverseRuleCount ∧ next.xattrRuleCount = state.xattrRuleCount

theorem nextSequence_same : SameButCursors state (nextSequence state) := by
  rw [nextSequence]
  split_ifs
  · exact ⟨rfl, rfl, rfl, rfl⟩
  · exact ⟨rfl, rfl, rfl, rfl⟩

theorem beginProcVirtualSequentialRead_same {ownerSlot : ℕ} {fd : ℤ} {path : List UInt8}
    {rawStart rawEnd : UInt64} : SameButCursors state
      (beginProcVirtualSequentialRead state ownerSlot fd path rawStart rawEnd).1 := by
  rw [beginProcVirtualSequentialRead]
  split_ifs
  · exact ⟨rfl, rfl, rfl, rfl⟩
  · dsimp only
    cases findCursor state ownerSlot fd path with
    | none => exact nextSequence_same
    | some slot => exact nextSequence_same

theorem advanceProcVirtualSequentialRead_same {ownerSlot : ℕ} {fd : ℤ} {path : List UInt8}
    {visibleSize : ℕ} : SameButCursors state
      (advanceProcVirtualSequentialRead state ownerSlot fd path visibleSize).1 := by
  rw [advanceProcVirtualSequentialRead]
  split_ifs
  · exact ⟨rfl, rfl, rfl, rfl⟩
  · cases findCursor state ownerSlot fd path with
    | none => exact ⟨rfl, rfl, rfl, rfl⟩
    | some slot =>
      dsimp only
      split_ifs
      · exact ⟨rfl, rfl, rfl, rfl⟩
      · exact @nextSequence_same (state.setCursor slot _)

theorem appendProcVirtualHiddenRange_invariant (h : ResidentInvariant state) (start size : UInt64) :
    ResidentInvariant (appendProcVirtualHiddenRange state start size).1 := by
  rw [appendProcVirtualHiddenRange]
  split_ifs with hrange hknown hfull
  · exact h
  · exact h
  · exact h
  · refine ⟨h.pending, ?_, h.reverseRules, h.xattrRules, h.cursors⟩
    rw [List.length_append]
    exact not_le.mp hfull

theorem ResidentOperation.apply_invariant (operation : ResidentOperation σ)
    {now : ProcVirtualResidentState × σ} (h : ResidentInvariant now.1) :
    ResidentInvariant (operation.apply now).1 := by
  obtain ⟨state, host⟩ := now
  have h : ResidentInvariant state := h
  cases operation with
  | entry config io task syscallNumber arguments =>
    exact ⟨dispatchProcVirtualEntry_valid h.pending syscallNumber arguments host, h.hiddenRanges,
      h.reverseRules, h.xattrRules, h.cursors⟩
  | exit config io task kernelResult =>
    exact ⟨dispatchProcVirtualExit_valid h.pending kernelResult host, h.hiddenRanges,
      h.reverseRules, h.xattrRules, h.cursors⟩
  | clear taskSlot =>
    exact ⟨clearProcVirtualPending_valid h.pending taskSlot, h.hiddenRanges, h.reverseRules,
      h.xattrRules, h.cursors⟩
  | beginRead ownerSlot fd path rawStart rawEnd =>
    obtain ⟨hpending, hranges, hreverse, hxattr⟩ := @beginProcVirtualSequentialRead_same state
      ownerSlot fd path rawStart rawEnd
    exact h.of_cursors hpending hranges hreverse hxattr
      (beginProcVirtualSequentialRead_cursors h.cursors rawStart rawEnd)
  | advanceRead ownerSlot fd path visibleSize =>
    obtain ⟨hpending, hranges, hreverse, hxattr⟩ := @advanceProcVirtualSequentialRead_same state
      ownerSlot fd path visibleSize
    exact h.of_cursors hpending hranges hreverse hxattr
      (advanceProcVirtualSequentialRead_cursors h.cursors visibleSize)
  | appendHiddenRange start size => exact appendProcVirtualHiddenRange_invariant h start size

theorem residentInvariant_run (operations : List (ResidentOperation σ))
    {now : ProcVirtualResidentState × σ} (h : ResidentInvariant now.1) :
    ResidentInvariant (operations.foldl (fun now operation => operation.apply now) now).1 := by
  induction operations generalizing now with
  | nil => exact h
  | cons operation operations ih => exact ih (operation.apply_invariant h)

/-- The pending calls and the resident state are valid after every sequence of operations. -/
theorem residentState_valid (operations : List (ResidentOperation σ)) (host : σ) :
    ValidateProcVirtualPendingTable (operations.foldl (fun now operation => operation.apply now)
        (initProcVirtualResidentState, host)).1.pending ∧
      ValidateProcVirtualResidentState (operations.foldl (fun now operation => operation.apply now)
        (initProcVirtualResidentState, host)).1 := by
  have hrun := @residentInvariant_run σ operations (initProcVirtualResidentState, host)
    residentInvariant_init
  exact ⟨hrun.pending, hrun.validate⟩

end Runs

end HookSelf.ProcVirtual
