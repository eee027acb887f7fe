import HookSelf.ProcVirtual.Dirents

namespace HookSelf.ProcVirtual

open Compaction

variable {options : ProcDirentFilterOptions} {record rest : List UInt8}
  {records : List (List UInt8)} {result : ProcDirentCompactResult}

section Records

def recordName (record : List UInt8) : List UInt8 :=
  (record.drop dirent64NameOffset).takeWhile (· ≠ 0)

/-- A record as the kernel writes it: its own length, aligned, with a name that a NUL ends. -/
structure IsDirent (record : List UInt8) : Prop where
  length_eq : readUint16 (record.drop dirent64RecordLengthOffset) = record.length
  minimum : dirent64MinimumLength ≤ record.length
  maximum : record.length ≤ dirent64MaximumLength
  aligned : record.length % dirent64Alignment = 0
  name_ne_nil : recordName record ≠ []
  name_le : (recordName record).length ≤ dirent64NameMax
  ended : 0 ∈ record.drop dirent64NameOffset

def HidesRecord (options : ProcDirentFilterOptions) (record : List UInt8) : Bool :=
  hideDirent (recordName record) options

def visibleRecords (options : ProcDirentFilterOptions) (records : List (List UInt8)) :
    List (List UInt8) :=
  records.filter (!HidesRecord options ·)

theorem IsDirent.nameOffset_le (h : IsDirent record) : dirent64NameOffset ≤ record.length :=
  (by decide : dirent64NameOffset ≤ dirent64MinimumLength).trans h.minimum

theorem IsDirent.direntName (h : IsDirent record) (rest : List UInt8) :
    direntName record.length (record ++ rest) = some (recordName record) := by
  have hlength : (record.drop dirent64NameOffset).length = record.length - dirent64NameOffset :=
    List.length_drop
  have hbytes : ((record ++ rest).drop dirent64NameOffset).take
      (record.length - dirent64NameOffset) = record.drop dirent64NameOffset := by
    rw [List.drop_append_of_le_length h.nameOffset_le, ← hlength, List.take_left]
  have hshort : (recordName record).length ≠ record.length - dirent64NameOffset := by
    rw [← hlength]
    intro heq
    have hall := (List.takeWhile_prefix (l := record.drop dirent64NameOffset)
      fun byte : UInt8 => decide (byte ≠ 0)).eq_of_length heq
    have hzero := List.mem_takeWhile_imp (hall ▸ h.ended)
    simp at hzero
  rw [ProcVirtual.direntName]
  simp only [hbytes]
  exact if_neg (not_or.mpr ⟨h.name_ne_nil, not_or.mpr ⟨hshort, Nat.not_lt.mpr h.name_le⟩⟩)

theorem IsDirent.readUint16 (h : IsDirent record) (rest : List UInt8) :
    readUint16 ((record ++ rest).drop dirent64RecordLengthOffset) = record.length := by
  have hoffset : dirent64RecordLengthOffset + 2 ≤ record.length :=
    (by decide : dirent64RecordLengthOffset + 2 ≤ dirent64MinimumLength).trans h.minimum
  rw [← h.length_eq, ProcVirtual.readUint16, ProcVirtual.readUint16,
    List.drop_append_of_le_length (by omega), List.take_append_of_le_length]
  rw [List.length_drop]
  omega

theorem nextDirent_record (h : IsDirent record) (rest : List UInt8) :
    ∃ next, nextDirent options result (record ++ rest) =
        .ok (record.length, HidesRecord options record, next) ∧
      next.recordsSeen = result.recordsSeen + 1 ∧
      next.recordsHidden = result.recordsHidden + (HidesRecord options record).toNat := by
  have hmin := h.minimum
  have hlength : ¬(record ++ rest).length < dirent64MinimumLength := by
    rw [List.length_append]
    omega
  have hfields : ¬(record.length < dirent64MinimumLength ∨ record.length > dirent64MaximumLength ∨
      record.length > (record ++ rest).length ∨ record.length % dirent64Alignment ≠ 0) := by
    have hmax := h.maximum
    have haligned := h.aligned
    rw [List.length_append]
    omega
  rw [nextDirent, if_neg hlength]
  simp only [h.readUint16 rest, if_neg hfields, h.direntName rest]
  exact ⟨_, rfl, rfl, rfl⟩

theorem cuts_nextDirent : Cuts (nextDirent options) := by
  intro data rest length dropped data' _ hnext
  rw [nextDirent] at hnext
  have hpos : 0 < dirent64MinimumLength := by decide
  split_ifs at hnext with hshort
  dsimp only at hnext
  split_ifs at hnext with hfields
  split at hnext
  · exact nomatch hnext
  · obtain ⟨rfl, -⟩ := Prod.mk.inj (Except.ok.inj hnext)
    omega

end Records

section Batch

theorem cut_records (hrecords : ∀ record ∈ records, IsDirent record) {rounds : ℕ}
    (hrounds : records.flatten.length ≤ rounds) :
    ∃ last, cut (nextDirent options) rounds result records.flatten =
        .ok (records.map fun record => (record, HidesRecord options record), last) ∧
      last.recordsSeen = result.recordsSeen + records.length ∧
      last.recordsHidden = result.recordsHidden + records.countP (HidesRecord options) := by
  induction records generalizing rounds result with
  | nil =>
    refine ⟨result, ?_, rfl, rfl⟩
    cases rounds with
    | zero => rfl
    | succ rounds => rfl
  | cons record records ih =>
    rw [List.forall_mem_cons] at hrecords
    have hpos : 0 < record.length :=
      (by decide : 0 < dirent64MinimumLength).trans_le hrecords.1.minimum
    rw [List.flatten_cons, List.length_append] at hrounds
    cases rounds with
    | zero => omega
    | succ rounds =>
      obtain ⟨next, hnext, hseen, hhidden⟩ :=
        @nextDirent_record options record result hrecords.1 records.flatten
      obtain ⟨last, hcut, hlastSeen, hlastHidden⟩ := @ih next hrecords.2 rounds (by omega)
      have hne : (record :: records).flatten ≠ [] := by
        rw [List.flatten_cons]
        exact List.append_ne_nil_of_left_ne_nil (List.length_pos_iff.mp hpos) _
      refine ⟨last, ?_, ?_, ?_⟩
      · rw [cut, if_neg hne, List.flatten_cons, hnext]
        dsimp only
        rw [List.drop_left, hcut, List.take_left]
        rfl
      · rw [hlastSeen, hseen, List.length_cons]
        omega
      · rw [hlastHidden, hhidden, List.countP_cons]
        cases HidesRecord options record with
        | false => simp
        | true =>
          simp
          omega

theorem kept_records : kept (records.map fun record => (record, HidesRecord options record)) =
    (visibleRecords options records).flatten := by
  induction records with
  | nil => rfl
  | cons record records ih =>
    cases hhidden : HidesRecord options record with
    | true => simpa [visibleRecords, hhidden] using ih
    | false => simpa [visibleRecords, hhidden] using ih

theorem flatten_eq_nil (hrecords : ∀ record ∈ records, IsDirent record) :
    records.flatten = [] ↔ records = [] := by
  refine ⟨fun h => ?_, fun h => by rw [h]; rfl⟩
  by_contra hne
  obtain ⟨record, hmem⟩ := List.exists_mem_of_ne_nil _ hne
  have hpos := (by decide : 0 < dirent64MinimumLength).trans_le (hrecords record hmem).minimum
  rw [List.flatten_eq_nil_iff.mp h record hmem] at hpos
  exact absurd hpos (by decide)

theorem IsDirent.visibleRecords (hrecords : ∀ record ∈ records, IsDirent record) :
    ∀ record ∈ visibleRecords options records, IsDirent record :=
  fun record hmem => hrecords record (List.mem_of_mem_filter hmem)

theorem compactProcDirents64_records (hoptions : validateDirentOptions options = .ok ())
    (hrecords : ∀ record ∈ records, IsDirent record) (hne : records ≠ []) :
    ∃ tail result, compactProcDirents64 records.flatten options =
        ((visibleRecords options records).flatten ++ tail, .ok result) ∧
      result.visibleSize = (visibleRecords options records).flatten.length ∧
      result.recordsSeen = records.length ∧
      result.recordsHidden = records.countP (HidesRecord options) ∧
      result.allHidden = decide (visibleRecords options records = []) := by
  have hspec := compact_spec (@cuts_nextDirent options) records.flatten.length ⟨0, 0, 0, 0, 0, false⟩
    [] [] records.flatten
  obtain ⟨last, hcut, hseen, hhidden⟩ := @cut_records options records ⟨0, 0, 0, 0, 0, false⟩ hrecords
    _ le_rfl
  rw [hcut] at hspec
  obtain ⟨tail, hcompact, -⟩ := hspec
  rw [kept_records] at hcompact
  simp only [List.nil_append, List.length_nil] at hcompact
  rw [compactProcDirents64, hoptions]
  dsimp only
  rw [hcompact]
  refine ⟨tail, _, rfl, rfl, by simpa using hseen, by simpa using hhidden, ?_⟩
  have hsize : records.flatten.length ≠ 0 := fun h =>
    hne ((flatten_eq_nil hrecords).mp (List.length_eq_zero_iff.mp h))
  have hvisible : (visibleRecords options records).flatten.length = 0 ↔
      visibleRecords options records = [] :=
    List.length_eq_zero_iff.trans (flatten_eq_nil (IsDirent.visibleRecords hrecords))
  show (decide _ && decide _) = _
  rw [decide_eq_true hsize, Bool.true_and]
  exact decide_eq_decide.mpr hvisible

end Batch

end HookSelf.ProcVirtual
