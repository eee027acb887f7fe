import HookSelf.Collections.KeyedTable
import HookSelf.Collections.Refinement

/-! The table of the traced tasks (`task_table.cpp`). Of a record only the fields are kept that the
table checks or that are not zero when cleared. -/

namespace HookSelf.Tracer

open SlotTable KeyedTable Refinement

section Model

def kTaskTableCapacity : Nat := 512
def kInvalidTaskSlot : Nat := 2 ^ 32 - 1
def kTaskTableMagic : Nat := 0x48535454
def kTaskTableVersion : Nat := 8

inductive TaskLifeState
  | empty | discovered | attaching | stopped | running | execReinit | exiting | dead
  deriving DecidableEq

/-- The enumerators, and any other value of the field. -/
inductive TaskResumeMode
  | unknown | cont | syscall | other (value : Nat)
  deriving DecidableEq

structure ActiveSyscallSnapshot where
  syscallNumber : Int := -1
  userSyscallNumber : Int := -1
  executedSyscallNumber : Int := -1
  scratchSlot : Nat := kInvalidTaskSlot
  nestedPtraceOperationSlot : Nat := 2 ^ 32 - 1
  deriving DecidableEq

structure TaskRecord where
  occupied : Nat := 0
  slot : Nat
  tid : Int := 0
  tgid : Int := 0
  life : TaskLifeState := .empty
  resumeMode : TaskResumeMode := .unknown
  activeSyscall : ActiveSyscallSnapshot := {}
  deriving DecidableEq

def clearRecord (slot : Nat) : TaskRecord := { slot }

structure TaskTable where
  magic : Nat
  version : Nat
  count : Nat
  freeHint : Nat
  mutationGeneration : BitVec 64
  tasks : Nat → TaskRecord

def init : TaskTable := ⟨kTaskTableMagic, kTaskTableVersion, 0, 0, 0, clearRecord⟩

def IsInitialized (table : TaskTable) : Prop :=
  table.magic = kTaskTableMagic ∧ table.version = kTaskTableVersion ∧
    table.count ≤ kTaskTableCapacity ∧ table.freeHint < kTaskTableCapacity

instance (table : TaskTable) : Decidable (IsInitialized table) :=
  inferInstanceAs (Decidable (_ ∧ _))

def TaskRecord.Used (task : TaskRecord) : Prop := task.occupied ≠ 0

instance : DecidablePred TaskRecord.Used := fun _ => inferInstanceAs (Decidable (_ ≠ _))

/-- What `Validate` asks of the record in a slot. -/
def RecordValid (slot : Nat) (task : TaskRecord) : Prop :=
  task.slot = slot ∧ task.occupied ≤ 1 ∧
    if task.occupied = 0 then
      task.tid = 0 ∧ task.tgid = 0 ∧ task.life = .empty ∧ task.resumeMode = .unknown
    else 0 < task.tid ∧ 0 < task.tgid ∧ task.life ≠ .empty ∧
      (task.resumeMode = .unknown ∨ task.resumeMode = .cont ∨ task.resumeMode = .syscall)

instance (slot : Nat) (task : TaskRecord) : Decidable (RecordValid slot task) := by
  unfold RecordValid
  infer_instance

def Validate (table : TaskTable) : Prop :=
  IsInitialized table ∧
    (∀ slot < kTaskTableCapacity, RecordValid slot (table.tasks slot) ∧
      ((table.tasks slot).Used → ∀ other < kTaskTableCapacity, slot < other →
        (table.tasks other).Used → (table.tasks other).tid ≠ (table.tasks slot).tid)) ∧
    tally kTaskTableCapacity table.tasks (·.Used) = table.count

instance (table : TaskTable) : Decidable (Validate table) := by
  unfold Validate
  exact instDecidableAnd

def find (table : TaskTable) (tid : Int) : Option Nat :=
  if ¬IsInitialized table ∨ tid ≤ 0 ∨ table.count = 0 then none
  else firstSlot kTaskTableCapacity fun slot =>
    (table.tasks slot).occupied ≠ 0 ∧ (table.tasks slot).tid = tid

def findSlot (table : TaskTable) (tid : Int) : Nat :=
  match find table tid with
  | none => kInvalidTaskSlot
  | some slot => (table.tasks slot).slot

def at? (table : TaskTable) (slot : Nat) : Option Nat :=
  if ¬IsInitialized table ∨ slot ≥ kTaskTableCapacity ∨ (table.tasks slot).occupied = 0 then none
  else some slot

def discoveredRecord (slot : Nat) (tid tgid : Int) : TaskRecord :=
  { clearRecord slot with occupied := 1, tid, tgid, life := .discovered }

inductive TaskInsertResult
  | inserted | alreadyPresent | invalidArgument | full | identityConflict
  deriving DecidableEq

/-- The result, and the slot of the record that the caller is given. -/
def insert (table : TaskTable) (tid tgid : Int) : (TaskInsertResult × Option Nat) × TaskTable :=
  if ¬IsInitialized table ∨ tid ≤ 0 ∨ tgid ≤ 0 then ((.invalidArgument, none), table)
  else
    match find table tid with
    | some existing =>
      ((if (table.tasks existing).tgid = tgid then .alreadyPresent else .identityConflict,
        some existing), table)
    | none =>
      if table.count ≥ kTaskTableCapacity then ((.full, none), table)
      else
        match slotFrom kTaskTableCapacity table.freeHint
          fun slot => (table.tasks slot).occupied = 0 with
        | none => ((.full, none), table)
        | some slot =>
          ((.inserted, some slot), { table with
            tasks := Function.update table.tasks slot (discoveredRecord slot tid tgid)
            count := table.count + 1
            mutationGeneration := table.mutationGeneration + 1
            freeHint := advanceHint slot kTaskTableCapacity })

def eraseAt (table : TaskTable) (slot : Nat) : Bool × TaskTable :=
  match at? table slot with
  | none => (false, table)
  | some slot =>
    (true, { table with
      tasks := Function.update table.tasks slot (clearRecord slot)
      count := (table.count + (2 ^ 32 - 1)) % 2 ^ 32
      mutationGeneration := table.mutationGeneration + 1
      freeHint := slot })

def erase (table : TaskTable) (tid : Int) : Bool × TaskTable :=
  let slot := findSlot table tid
  if slot ≠ kInvalidTaskSlot then eraseAt table slot else (false, table)

end Model

section Map

/-- Thread groups by thread, and the number of threads. -/
structure TaskMap where
  tgid : Int → Option Int
  size : Nat

def TaskMap.insert (map : TaskMap) (tid tgid : Int) : TaskInsertResult × TaskMap :=
  if tid ≤ 0 ∨ tgid ≤ 0 then (.invalidArgument, map)
  else
    match map.tgid tid with
    | some old => (if old = tgid then .alreadyPresent else .identityConflict, map)
    | none =>
      if map.size = kTaskTableCapacity then (.full, map)
      else (.inserted, ⟨Function.update map.tgid tid (some tgid), map.size + 1⟩)

def TaskMap.erase (map : TaskMap) (tid : Int) : Bool × TaskMap :=
  if map.tgid tid = none then (false, map)
  else (true, ⟨Function.update map.tgid tid none, map.size - 1⟩)

def TaskTable.map (table : TaskTable) : TaskMap where
  tgid := link kTaskTableCapacity TaskRecord.Used TaskRecord.tid (fun task => some task.tgid)
    table.tasks
  size := table.count

inductive TaskCall
  | insert (tid tgid : Int)
  | erase (tid : Int)

def TaskCall.run (table : TaskTable) : TaskCall → (TaskInsertResult ⊕ Bool) × TaskTable
  | .insert tid tgid => (Tracer.insert table tid tgid).map (.inl ·.1) id
  | .erase tid => (Tracer.erase table tid).map .inr id

def TaskCall.runMap (map : TaskMap) : TaskCall → (TaskInsertResult ⊕ Bool) × TaskMap
  | .insert tid tgid => (map.insert tid tgid).map .inl id
  | .erase tid => (map.erase tid).map .inr id

end Map

section Laws

variable {table : TaskTable} {tid tgid : Int} {slot : Nat}

theorem Validate.distinct (h : Validate table) :
    Distinct kTaskTableCapacity TaskRecord.Used TaskRecord.tid table.tasks := by
  intro a ha b hb hua hub heq
  rcases Nat.lt_trichotomy a b with hlt | rfl | hlt
  · exact absurd heq.symm ((h.2.1 a ha).2 hua b hb hlt hub)
  · rfl
  · exact absurd heq ((h.2.1 b hb).2 hub a ha hlt hua)

theorem Validate.of_distinct (hinit : IsInitialized table)
    (hrecords : ∀ slot < kTaskTableCapacity, RecordValid slot (table.tasks slot))
    (hdistinct : Distinct kTaskTableCapacity TaskRecord.Used TaskRecord.tid table.tasks)
    (hcount : tally kTaskTableCapacity table.tasks (·.Used) = table.count) : Validate table := by
  refine ⟨hinit, fun slot hslot => ⟨hrecords slot hslot, ?_⟩, hcount⟩
  intro hused other hother hlt hother_used heq
  have := hdistinct other hother slot hslot hother_used hused heq
  omega

theorem Validate.find_eq (h : Validate table) : find table tid =
    lookup kTaskTableCapacity TaskRecord.Used TaskRecord.tid table.tasks tid := by
  rw [find]
  split_ifs with hguard
  · refine (lookup_eq_none.mpr ?_).symm
    rintro ⟨s, hs, hused, rfl⟩
    have hrecord := (h.2.1 s hs).1.2.2
    rw [if_neg hused] at hrecord
    rcases hguard with hinit | htid | hcount
    · exact hinit h.1
    · exact absurd hrecord.1 (not_lt.mpr htid)
    · have := tally_pos hs hused
      rw [h.2.2] at this
      omega
  · rfl

theorem map_tgid (table : TaskTable) (tid : Int) : table.map.tgid tid =
    (lookup kTaskTableCapacity TaskRecord.Used TaskRecord.tid table.tasks tid).bind
      fun slot => some (table.tasks slot).tgid := by
  simp only [TaskTable.map, link]

theorem not_used_clearRecord (slot : Nat) : ¬(clearRecord slot).Used := fun h => h rfl

theorem recordValid_clearRecord (slot : Nat) : RecordValid slot (clearRecord slot) :=
  ⟨rfl, Nat.zero_le _, rfl, rfl, rfl, rfl⟩

theorem used_discoveredRecord (slot : Nat) (tid tgid : Int) :
    (discoveredRecord slot tid tgid).Used := Nat.one_ne_zero

theorem Validate.occupy (h : Validate table) (hslot : slot < kTaskTableCapacity)
    (hfree : ¬(table.tasks slot).Used) (hcount : table.count < kTaskTableCapacity)
    (htid : 0 < tid) (htgid : 0 < tgid) (hnew : lookup kTaskTableCapacity TaskRecord.Used
      TaskRecord.tid table.tasks (discoveredRecord slot tid tgid).tid = none) :
    Validate { table with
      tasks := Function.update table.tasks slot (discoveredRecord slot tid tgid)
      count := table.count + 1
      mutationGeneration := table.mutationGeneration + 1
      freeHint := advanceHint slot kTaskTableCapacity } := by
  obtain ⟨hmagic, hversion, -, -⟩ := h.1
  refine .of_distinct ⟨hmagic, hversion, hcount, advanceHint_lt hslot⟩ ?_
    (h.distinct.insert hnew) ?_
  · exact forall_update (P := RecordValid) (fun s hs => (h.2.1 s hs).1)
      ⟨rfl, le_rfl, htid, htgid, TaskLifeState.noConfusion, .inl rfl⟩
  · exact (tally_occupy hslot hfree (used_discoveredRecord slot tid tgid)).trans
      (congrArg (· + 1) h.2.2)

theorem Validate.insert_refines (h : Validate table) (tid tgid : Int) :
    Refines Validate TaskTable.map ((insert table tid tgid).map Prod.fst id)
      (table.map.insert tid tgid) := by
  rw [insert, TaskMap.insert, h.find_eq]
  by_cases hargument : tid ≤ 0 ∨ tgid ≤ 0
  · rw [if_pos (.inr hargument), if_pos hargument]
    exact ⟨h, rfl, rfl⟩
  rw [if_neg (not_or.mpr ⟨not_not.mpr h.1, hargument⟩), if_neg hargument, map_tgid]
  rw [not_or, not_le, not_le] at hargument
  rcases hfound : lookup kTaskTableCapacity TaskRecord.Used TaskRecord.tid table.tasks tid
    with _ | existing
  swap
  · exact ⟨h, rfl, rfl⟩
  obtain ⟨-, -, hle, hhint⟩ := h.1
  by_cases hfull : table.count = kTaskTableCapacity
  · simp only [hfull, ge_iff_le, le_refl, if_true, Option.bind_none]
    rw [if_pos (show table.map.size = _ from hfull)]
    exact ⟨h, rfl, rfl⟩
  simp only [if_neg (show ¬table.count ≥ kTaskTableCapacity by omega), Option.bind_none,
    if_neg (show ¬table.map.size = kTaskTableCapacity from hfull)]
  split
  · next hnone =>
    have hall : ∀ s < kTaskTableCapacity, (table.tasks s).Used := by
      intro s hs
      exact slotFrom_none (p := fun s => (table.tasks s).occupied = 0) hhint hnone hs
    exact absurd (h.2.2.symm.trans (tally_of_forall hall)) hfull
  · next slot hslot =>
    obtain ⟨hlt, hfree⟩ := slotFrom_some hhint hslot
    have hunused : ¬(table.tasks slot).Used := not_not.mpr hfree
    refine ⟨h.occupy hlt hunused (Nat.lt_of_le_of_ne hle hfull) hargument.1 hargument.2 hfound, rfl,
      ?_⟩
    simp only [TaskTable.map, Prod.map, id_eq]
    rw [h.distinct.link_occupy (v := discoveredRecord slot tid tgid) hlt hunused hfound
      (used_discoveredRecord slot tid tgid)]
    rfl

theorem Validate.erase_refines (h : Validate table) (tid : Int) :
    Refines Validate TaskTable.map (erase table tid) (table.map.erase tid) := by
  rw [erase, TaskMap.erase, findSlot, h.find_eq, map_tgid]
  rcases hfound : lookup kTaskTableCapacity TaskRecord.Used TaskRecord.tid table.tasks tid
    with _ | slot
  · exact ⟨h, rfl, rfl⟩
  obtain ⟨hlt, hused, rfl⟩ := lookup_spec hfound
  obtain ⟨hmagic, hversion, hle, -⟩ := h.1
  have hvalid := (h.2.1 slot hlt).1
  have hpos := tally_pos hlt hused
  rw [h.2.2] at hpos
  have hcap : kTaskTableCapacity = 512 := rfl
  have hcount : (table.count + (2 ^ 32 - 1)) % 2 ^ 32 = table.count - 1 := by omega
  have hat : ¬(¬IsInitialized table ∨ slot ≥ kTaskTableCapacity ∨
      (table.tasks slot).occupied = 0) :=
    not_or.mpr ⟨not_not.mpr h.1, not_or.mpr ⟨not_le.mpr hlt, hused⟩⟩
  have hne : slot ≠ kInvalidTaskSlot := by
    rw [kInvalidTaskSlot]
    omega
  simp only [hvalid.1, hne, ne_eq, not_false_eq_true, if_true, eraseAt, at?, if_neg hat, hcount,
    Option.bind_some, reduceCtorEq, if_false]
  refine ⟨.of_distinct ⟨hmagic, hversion, (Nat.sub_le ..).trans hle, hlt⟩ ?_
    (h.distinct.vacate (not_used_clearRecord slot)) ?_, rfl, ?_⟩
  · exact forall_update (P := RecordValid) (fun s hs => (h.2.1 s hs).1)
      (recordValid_clearRecord slot)
  · exact (tally_vacate hlt hused (not_used_clearRecord slot)).trans (congrArg (· - 1) h.2.2)
  · simp only [TaskTable.map]
    rw [h.distinct.link_vacate hlt hused (not_used_clearRecord slot)]

theorem validate_init : Validate init := by
  refine .of_distinct ⟨rfl, rfl, Nat.zero_le _, by decide⟩ (fun s _ => recordValid_clearRecord s)
    (fun a _ _ _ hused => absurd hused (not_used_clearRecord a)) ?_
  exact tally_eq_zero.mpr fun s _ => not_used_clearRecord s

theorem map_init : init.map = ⟨fun _ => none, 0⟩ := by
  rw [TaskTable.map, TaskMap.mk.injEq]
  refine ⟨funext fun tid => link_eq_none ?_, rfl⟩
  rintro ⟨s, -, hused, -⟩
  exact not_used_clearRecord s hused

/-- To its callers a valid table is the map from threads to their thread groups: no call loses or
duplicates a task, and a slot is found whenever fewer tasks than the capacity are held. -/
theorem runAll_tasks_refines (table : TaskTable) (hvalid : Validate table)
    (calls : List TaskCall) : Refines Validate TaskTable.map (runAll TaskCall.run calls table)
      (runAll TaskCall.runMap calls table.map) := by
  refine @runAll_refines _ _ _ _ _ _ Validate TaskTable.map (fun _ => True)
    (fun table call h _ => ?_) _ hvalid _ fun _ _ => trivial
  cases call with
  | insert tid tgid => exact (h.insert_refines tid tgid).map Sum.inl
  | erase tid => exact (h.erase_refines tid).map Sum.inr

theorem runAll_tasks_refines_reused :
    (runAll TaskCall.run [.insert 7 7, .insert 8 7, .erase 7, .erase 7, .insert 8 8] init).1 =
      [.inl .inserted, .inl .inserted, .inr true, .inr false, .inl .identityConflict] := by
  rw [(runAll_tasks_refines init validate_init _).answer, map_init]
  decide

end Laws

end HookSelf.Tracer
