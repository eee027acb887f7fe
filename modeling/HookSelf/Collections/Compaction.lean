import HookSelf.Collections.Buffer

/-! Compacting a buffer of records of varying length in place: a record that stays is moved down
over those that were dropped before it. -/

namespace HookSelf.Compaction

open Buffer

variable {α β ε : Type} {next : α → List β → Except ε (ℕ × Bool × α)}

/-- The loop over the buffer. From what is left, `next` tells the length of the record in front and
whether it is dropped. -/
def compact (next : α → List β → Except ε (ℕ × Bool × α)) :
    ℕ → α → List β → ℕ → ℕ → List β × Except ε (ℕ × α)
  | 0, data, buffer, _, written => (buffer, .ok (written, data))
  | rounds + 1, data, buffer, position, written =>
    if position < buffer.length then
      match next data (buffer.drop position) with
      | .error e => (buffer, .error e)
      | .ok (length, true, data) => compact next rounds data buffer (position + length) written
      | .ok (length, false, data) =>
        compact next rounds data
          (if written ≠ position then move buffer written position length else buffer)
          (position + length) (written + length)
    else (buffer, .ok (written, data))

def cut (next : α → List β → Except ε (ℕ × Bool × α)) :
    ℕ → α → List β → Except ε (List (List β × Bool) × α)
  | 0, data, _ => .ok ([], data)
  | rounds + 1, data, rest =>
    if rest = [] then .ok ([], data)
    else
      match next data rest with
      | .error e => .error e
      | .ok (length, dropped, data) =>
        match cut next rounds data (rest.drop length) with
        | .error e => .error e
        | .ok (pieces, data) => .ok ((rest.take length, dropped) :: pieces, data)

def kept (pieces : List (List β × Bool)) : List β :=
  pieces.flatMap fun piece => if piece.2 then [] else piece.1

@[simp] theorem kept_cons_dropped (record : List β) (pieces : List (List β × Bool)) :
    kept ((record, true) :: pieces) = kept pieces := by
  simp [kept]

@[simp] theorem kept_cons_kept (record : List β) (pieces : List (List β × Bool)) :
    kept ((record, false) :: pieces) = record ++ kept pieces := rfl

def Cuts (next : α → List β → Except ε (ℕ × Bool × α)) : Prop :=
  ∀ data rest length dropped data', rest ≠ [] → next data rest = .ok (length, dropped, data') →
    0 < length ∧ length ≤ rest.length

/-- Moving a record down over a gap leaves a gap of the same length behind it. -/
theorem move_over_gap (done gap : List β) {rest : List β} {length : ℕ} (h : length ≤ rest.length) :
    ∃ gap', gap'.length = gap.length ∧
      (if done.length ≠ (done ++ gap).length then
        move (done ++ gap ++ rest) done.length (done ++ gap).length length
        else done ++ gap ++ rest) = (done ++ rest.take length) ++ gap' ++ rest.drop length := by
  by_cases hgap : gap = []
  · refine ⟨[], by rw [hgap], ?_⟩
    rw [if_neg (by simp [hgap]), hgap]
    simp
  · refine ⟨(gap ++ rest.take length).drop length, by simp; omega, ?_⟩
    have hne : done.length ≠ (done ++ gap).length := by
      have hpos := List.length_pos_iff.mpr hgap
      rw [List.length_append]
      omega
    have hsplit : done ++ gap ++ rest = done ++ (gap ++ rest.take length).take length ++
        ((gap ++ rest.take length).drop length ++ rest.drop length) := by
      rw [List.append_assoc done, List.append_assoc done, ← List.append_assoc (List.take _ _),
        List.take_append_drop]
      simp
    rw [if_pos hne, move, List.drop_left, hsplit, write_append]
    · simp
    · simp only [List.length_take, List.length_append]
      omega

/-- The compacted buffer starts with the records that stay, and is as long as before. -/
theorem compact_spec (hcuts : Cuts next) (rounds : ℕ) (data : α) (done gap rest : List β) :
    match cut next rounds data rest with
    | .error e => (compact next rounds data (done ++ gap ++ rest) (done ++ gap).length
        done.length).2 = .error e
    | .ok (pieces, data') => ∃ tail, compact next rounds data (done ++ gap ++ rest)
        (done ++ gap).length done.length =
          (done ++ kept pieces ++ tail, .ok ((done ++ kept pieces).length, data')) ∧
        (done ++ kept pieces ++ tail).length = (done ++ gap ++ rest).length := by
  induction rounds generalizing data done gap rest with
  | zero => exact ⟨gap ++ rest, by simp [compact, kept], by simp [kept]⟩
  | succ rounds ih =>
    rw [cut, compact]
    by_cases hrest : rest = []
    · subst hrest
      rw [if_pos rfl, if_neg (by simp)]
      exact ⟨gap, by simp [kept]⟩
    have hlt : (done ++ gap).length < (done ++ gap ++ rest).length := by
      have hpos := List.length_pos_iff.mpr hrest
      simp only [List.length_append]
      omega
    rw [if_neg hrest, if_pos hlt, List.drop_left]
    rcases hnext : next data rest with e | ⟨length, dropped, data'⟩
    · rfl
    obtain ⟨-, hle⟩ := hcuts _ _ _ _ _ hrest hnext
    cases dropped with
    | true =>
      have hposition : (done ++ gap).length + length =
          (done ++ (gap ++ rest.take length)).length := by
        simp [hle, Nat.add_assoc]
      have hbuffer : done ++ gap ++ rest =
          done ++ (gap ++ rest.take length) ++ rest.drop length := by
        simp
      have hrun := ih data' done (gap ++ rest.take length) (rest.drop length)
      rw [← hposition, ← hbuffer] at hrun
      dsimp only
      rcases hcut : cut next rounds data' (rest.drop length) with e | ⟨pieces, data''⟩
      · rw [hcut] at hrun
        exact hrun
      · rw [hcut] at hrun
        exact hrun
    | false =>
      obtain ⟨gap', hgap, hmove⟩ := move_over_gap done gap hle
      have hposition : (done ++ gap).length + length =
          (done ++ rest.take length ++ gap').length := by
        simp [hle, hgap]
        omega
      have hwritten : done.length + length = (done ++ rest.take length).length := by simp [hle]
      have hrun := ih data' (done ++ rest.take length) gap' (rest.drop length)
      have htotal : (done ++ rest.take length ++ gap' ++ rest.drop length).length =
          (done ++ gap ++ rest).length := by
        simp only [List.length_append, List.length_take, List.length_drop, hgap]
        omega
      dsimp only
      rw [hmove, hposition, hwritten]
      rcases hcut : cut next rounds data' (rest.drop length) with e | ⟨pieces, data''⟩
      · rw [hcut] at hrun
        exact hrun
      · rw [hcut] at hrun
        obtain ⟨tail, hrun, hlength⟩ := hrun
        refine ⟨tail, ?_, ?_⟩
        · rw [hrun, kept_cons_kept]
          simp only [List.append_assoc]
        · rw [kept_cons_kept, ← List.append_assoc done, hlength, htotal]

end HookSelf.Compaction
