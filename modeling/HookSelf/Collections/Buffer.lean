import Mathlib

/-! A buffer of fixed size, and writing a run of bytes into it. -/

namespace HookSelf.Buffer

variable {β : Type} {buffer bytes : List β} {offset k : ℕ}

def write (buffer : List β) (offset : ℕ) (bytes : List β) : List β :=
  buffer.take offset ++ bytes ++ buffer.drop (offset + bytes.length)

def move (buffer : List β) (target source size : ℕ) : List β :=
  write buffer target ((buffer.drop source).take size)

theorem le_length_write (h : offset ≤ buffer.length) :
    offset + bytes.length ≤ (write buffer offset bytes).length := by
  simp only [write, List.length_append, List.length_take, List.length_drop]
  omega

theorem take_write (h : offset ≤ buffer.length) :
    (write buffer offset bytes).take (offset + bytes.length) = buffer.take offset ++ bytes := by
  rw [write, List.take_left' (by simp [h])]

theorem drop_write (h : offset + bytes.length ≤ k) (hk : offset ≤ buffer.length) :
    (write buffer offset bytes).drop k = buffer.drop k := by
  have hlength : (buffer.take offset ++ bytes).length = offset + bytes.length := by simp [hk]
  obtain ⟨d, rfl⟩ := Nat.exists_eq_add_of_le h
  rw [write, List.drop_append, hlength, List.drop_eq_nil_of_le (by omega), List.nil_append,
    List.drop_drop, Nat.add_sub_cancel_left]

theorem write_append (before : List β) {old after : List β} (h : old.length = bytes.length) :
    write (before ++ old ++ after) before.length bytes = before ++ bytes ++ after := by
  rw [write, List.append_assoc before old after, List.take_left, ← h, ← List.append_assoc,
    ← List.length_append, List.drop_left]

theorem write_write {more : List β} (h : offset ≤ buffer.length) :
    write (write buffer offset bytes) (offset + bytes.length) more =
      write buffer offset (bytes ++ more) := by
  rw [write, take_write h, drop_write (by omega) h, write, List.length_append, Nat.add_assoc,
    List.append_assoc (buffer.take offset)]

theorem take_move_write (before : List β) {old after : List β} (h : bytes.length ≤ old.length) :
    (move (write (before ++ old ++ after) before.length bytes) (before ++ bytes).length
      (before ++ old).length after.length).take (before ++ bytes ++ after).length =
      before ++ bytes ++ after := by
  have hsplit : before ++ old ++ after =
      before ++ old.take bytes.length ++ (old.drop bytes.length ++ after) := by
    rw [List.append_assoc before (old.take _), ← List.append_assoc (old.take _),
      List.take_append_drop, List.append_assoc]
  have hlength : (before ++ bytes ++ old.drop bytes.length).length = (before ++ old).length := by
    simp only [List.length_append, List.length_drop]
    omega
  rw [hsplit, write_append before (by simp [h]), ← List.append_assoc, move, List.drop_left' hlength,
    List.take_length, List.length_append, take_write (by simp), List.append_assoc _ _ after,
    List.take_left]

end HookSelf.Buffer
