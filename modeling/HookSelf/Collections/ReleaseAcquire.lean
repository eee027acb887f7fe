import Mathlib

/-! Shared memory with release and acquire. An atomic location keeps every message stored to it, and
a load may return any of them that is not older than what its thread has seen. Plain cells hold the
last write; vector clocks tell whether two accesses are ordered, and an access that is not ordered
after a conflicting one is a data race. -/

namespace HookSelf.ReleaseAcquire

/-- How far a thread knows the run of each thread. -/
abbrev Clock (τ : Type) := τ → Nat

structure Message (τ ν : Type) where
  value : ν
  clock : Clock τ

/-- A plain cell with the time of its last write and of each thread's last read. -/
structure Cell (τ ν : Type) where
  value : ν
  writer : τ
  written : Nat
  read : Clock τ

structure Memory (τ α ι ν : Type) where
  history : α → List (Message τ ν)
  cells : ι → Cell τ ν
  raced : Prop

structure View (τ α : Type) where
  clock : Clock τ
  seen : α → Nat

section Operations

variable {τ α ι ν : Type} [DecidableEq τ] [DecidableEq α] [DecidableEq ι]

/-- The message with the given number, if the thread may still read it. -/
def readable (memory : Memory τ α ι ν) (view : View τ α) (location : α) (number : Nat) :
    Option (Message τ ν) :=
  if view.seen location ≤ number then (memory.history location)[number]? else none

def loadRelaxed (memory : Memory τ α ι ν) (view : View τ α) (location : α) (number : Nat) :
    Option (ν × View τ α) :=
  (readable memory view location number).map fun message =>
    (message.value, { view with seen := Function.update view.seen location number })

def loadAcquire (memory : Memory τ α ι ν) (view : View τ α) (location : α) (number : Nat) :
    Option (ν × View τ α) :=
  (readable memory view location number).map fun message =>
    (message.value, {
      clock := fun thread => max (view.clock thread) (message.clock thread)
      seen := Function.update view.seen location number })

/-- The new message carries what the thread knows; later accesses of the thread come after it. -/
def storeRelease (thread : τ) (memory : Memory τ α ι ν) (view : View τ α) (location : α)
    (value : ν) : Memory τ α ι ν × View τ α :=
  ({ memory with
      history := Function.update memory.history location
        (memory.history location ++ [⟨value, view.clock⟩]) },
    { clock := Function.update view.clock thread (view.clock thread + 1)
      seen := Function.update view.seen location (memory.history location).length })

/-- A read-modify-write acts on the newest message and passes its clock on. -/
def fetchRelaxed (memory : Memory τ α ι ν) (view : View τ α) (location : α) (change : ν → ν) :
    Memory τ α ι ν × View τ α :=
  ({ memory with
      history := Function.update memory.history location
        (memory.history location ++ (memory.history location).getLast?.toList.map fun newest =>
          ⟨change newest.value, newest.clock⟩) },
    { view with seen := Function.update view.seen location (memory.history location).length })

def readCell (thread : τ) (memory : Memory τ α ι ν) (view : View τ α) (cell : ι) :
    ν × Memory τ α ι ν :=
  let content := memory.cells cell
  (content.value,
    { memory with
      cells := Function.update memory.cells cell
        { content with read := Function.update content.read thread (view.clock thread) }
      raced := memory.raced ∨ view.clock content.writer < content.written })

def writeCell (thread : τ) (memory : Memory τ α ι ν) (view : View τ α) (cell : ι) (value : ν) :
    Memory τ α ι ν :=
  let content := memory.cells cell
  { memory with
    cells := Function.update memory.cells cell
      { content with value := value, writer := thread, written := view.clock thread }
    raced := memory.raced ∨ view.clock content.writer < content.written ∨
      ∃ reader, view.clock reader < content.read reader }

end Operations

section Laws

variable {τ α ι ν : Type} {memory : Memory τ α ι ν} {view view' : View τ α} {location : α}
  {number : Nat} {value : ν}

theorem readable_some {message : Message τ ν}
    (h : readable memory view location number = some message) :
    view.seen location ≤ number ∧ (memory.history location)[number]? = some message := by
  unfold readable at h
  split_ifs at h with hseen
  exact ⟨hseen, h⟩

section Loads

variable [DecidableEq α]

theorem loadRelaxed_some (h : loadRelaxed memory view location number = some (value, view')) :
    ∃ message, view.seen location ≤ number ∧ (memory.history location)[number]? = some message ∧
      value = message.value ∧
      view' = { view with seen := Function.update view.seen location number } := by
  obtain ⟨message, hmessage, hvalue⟩ := Option.map_eq_some_iff.mp h
  obtain ⟨hseen, hfound⟩ := readable_some hmessage
  obtain ⟨rfl, rfl⟩ := Prod.mk.inj hvalue
  exact ⟨message, hseen, hfound, rfl, rfl⟩

theorem loadAcquire_some (h : loadAcquire memory view location number = some (value, view')) :
    ∃ message, view.seen location ≤ number ∧ (memory.history location)[number]? = some message ∧
      value = message.value ∧
      view' = {
        clock := fun thread => max (view.clock thread) (message.clock thread)
        seen := Function.update view.seen location number } := by
  obtain ⟨message, hmessage, hvalue⟩ := Option.map_eq_some_iff.mp h
  obtain ⟨hseen, hfound⟩ := readable_some hmessage
  obtain ⟨rfl, rfl⟩ := Prod.mk.inj hvalue
  exact ⟨message, hseen, hfound, rfl, rfl⟩

theorem loadRelaxed_of_seen {message : Message τ ν} (hseen : view.seen location ≤ number)
    (h : (memory.history location)[number]? = some message) :
    loadRelaxed memory view location number =
      some (message.value, { view with seen := Function.update view.seen location number }) := by
  rw [loadRelaxed, readable, if_pos hseen, h]
  rfl

theorem loadAcquire_of_seen {message : Message τ ν} (hseen : view.seen location ≤ number)
    (h : (memory.history location)[number]? = some message) :
    loadAcquire memory view location number = some (message.value, {
      clock := fun thread => max (view.clock thread) (message.clock thread)
      seen := Function.update view.seen location number }) := by
  rw [loadAcquire, readable, if_pos hseen, h]
  rfl

end Loads

section Stores

variable [DecidableEq τ] [DecidableEq α] {thread : τ}

theorem storeRelease_length :
    ((storeRelease thread memory view location value).1.history location).length =
      (memory.history location).length + 1 := by
  simp [storeRelease]

theorem storeRelease_message (thread : τ) {message : Message τ ν}
    (h : ((storeRelease thread memory view location value).1.history location)[number]? =
      some message) :
    (memory.history location)[number]? = some message ∨
      number = (memory.history location).length ∧ message = ⟨value, view.clock⟩ := by
  simp only [storeRelease, Function.update_self, List.getElem?_append] at h
  split_ifs at h with hlt
  · exact .inl h
  · obtain ⟨hbound, hfound⟩ := List.getElem?_eq_some_iff.mp h
    rw [List.length_singleton] at hbound
    rw [List.getElem_singleton] at hfound
    exact .inr ⟨by omega, hfound.symm⟩

theorem storeRelease_clock : (storeRelease thread memory view location value).2.clock thread =
    view.clock thread + 1 :=
  Function.update_self _ _ _

theorem storeRelease_seen : (storeRelease thread memory view location value).2.seen location =
    (memory.history location).length :=
  Function.update_self _ _ _

end Stores

section Cells

variable [DecidableEq ι] {thread : τ} {cell other : ι}

theorem writeCell_cells_of_ne (h : other ≠ cell) :
    (writeCell thread memory view cell value).cells other = memory.cells other :=
  Function.update_of_ne h _ _

theorem writeCell_cells_self :
    (writeCell thread memory view cell value).cells cell =
      { memory.cells cell with value := value, writer := thread, written := view.clock thread } :=
  Function.update_self _ _ _

theorem writeCell_read : ((writeCell thread memory view cell value).cells other).read =
    (memory.cells other).read := by
  by_cases h : other = cell
  · rw [h, writeCell_cells_self]
  · rw [writeCell_cells_of_ne h]

variable [DecidableEq τ]

theorem readCell_cells_of_ne (h : other ≠ cell) :
    (readCell thread memory view cell).2.cells other = memory.cells other :=
  Function.update_of_ne h _ _

theorem readCell_cells_self :
    (readCell thread memory view cell).2.cells cell =
      { memory.cells cell with
        read := Function.update (memory.cells cell).read thread (view.clock thread) } :=
  Function.update_self _ _ _

theorem readCell_content : ((readCell thread memory view cell).2.cells other).value =
      (memory.cells other).value ∧
    ((readCell thread memory view cell).2.cells other).writer = (memory.cells other).writer ∧
    ((readCell thread memory view cell).2.cells other).written = (memory.cells other).written := by
  by_cases h : other = cell
  · rw [h, readCell_cells_self]
    exact ⟨rfl, rfl, rfl⟩
  · rw [readCell_cells_of_ne h]
    exact ⟨rfl, rfl, rfl⟩

end Cells

end Laws

end HookSelf.ReleaseAcquire
