import Mathlib

/-! Bytes in a memory whose addresses wrap: reading a run of them, and writing one. -/

namespace HookSelf.Overwrite

variable {w : Nat} {β : Type} {memory : BitVec w → β} {address : BitVec w}

def bytesAt (memory : BitVec w → β) (address : BitVec w) (size : Nat) : List β :=
  (List.range size).map fun index => memory (address + BitVec.ofNat w index)

def overwrite (memory : BitVec w → β) (address : BitVec w) (bytes : List β) : BitVec w → β :=
  fun place => bytes[(place - address).toNat]?.getD (memory place)

@[simp] theorem bytesAt_length (memory : BitVec w → β) (address : BitVec w) (size : Nat) :
    (bytesAt memory address size).length = size := by
  simp [bytesAt]

@[simp] theorem overwrite_nil (memory : BitVec w → β) (address : BitVec w) :
    overwrite memory address [] = memory := by
  funext place
  simp [overwrite]

theorem add_ofNat_add (address : BitVec w) (n m : Nat) :
    address + BitVec.ofNat w (n + m) = address + BitVec.ofNat w n + BitVec.ofNat w m := by
  rw [BitVec.ofNat_add, BitVec.add_assoc]

theorem bytesAt_add (memory : BitVec w → β) (address : BitVec w) (n m : Nat) :
    bytesAt memory address (n + m) =
      bytesAt memory address n ++ bytesAt memory (address + BitVec.ofNat w n) m := by
  simp only [bytesAt, List.range_add, List.map_append, List.map_map]
  congr 2
  funext index
  simp only [Function.comp_apply, add_ofNat_add]

theorem toNat_sub_add (place address : BitVec w) {n : Nat} (hn : n < 2 ^ w) :
    (place - (address + BitVec.ofNat w n)).toNat =
      if n ≤ (place - address).toNat then (place - address).toNat - n
      else 2 ^ w - (n - (place - address).toNat) := by
  rw [← BitVec.sub_sub, BitVec.toNat_sub, BitVec.toNat_ofNat, Nat.mod_eq_of_lt hn]
  have hlt := (place - address).isLt
  split_ifs with hle
  · rw [show 2 ^ w - n + (place - address).toNat = (place - address).toNat - n + 2 ^ w by omega,
      Nat.add_mod_right, Nat.mod_eq_of_lt (by omega)]
  · rw [Nat.mod_eq_of_lt (by omega)]
    omega

theorem overwrite_append (memory : BitVec w → β) (address : BitVec w) {first rest : List β}
    (hfits : first.length + rest.length ≤ 2 ^ w) (hrest : rest ≠ []) :
    overwrite (overwrite memory address first) (address + BitVec.ofNat w first.length) rest =
      overwrite memory address (first ++ rest) := by
  have hpos := List.length_pos_iff.mpr hrest
  funext place
  have hlt := (place - address).isLt
  simp only [overwrite]
  rw [toNat_sub_add place address (by omega), List.getElem?_append]
  split_ifs with hle hin hin
  · omega
  · cases rest[(place - address).toNat - first.length]? with
    | none => rw [List.getElem?_eq_none (by omega)]; rfl
    | some byte => rfl
  · rw [List.getElem?_eq_none (by omega)]
    rfl
  · omega

theorem bytesAt_overwrite (memory : BitVec w → β) (address : BitVec w) {bytes : List β}
    (hfits : bytes.length ≤ 2 ^ w) :
    bytesAt (overwrite memory address bytes) address bytes.length = bytes := by
  refine List.ext_getElem? fun index => ?_
  by_cases hindex : index < bytes.length
  · have hplace : index % 2 ^ w = index := Nat.mod_eq_of_lt (by omega)
    simp [bytesAt, overwrite, hplace, hindex]
  · rw [List.getElem?_eq_none (by rw [bytesAt_length]; omega), List.getElem?_eq_none (by omega)]

theorem bytesAt_overwrite_behind (memory : BitVec w → β) (address : BitVec w) {bytes : List β}
    {size : Nat} (hfits : bytes.length + size ≤ 2 ^ w) :
    bytesAt (overwrite memory address bytes) (address + BitVec.ofNat w bytes.length) size =
      bytesAt memory (address + BitVec.ofNat w bytes.length) size := by
  refine List.map_congr_left fun index hindex => ?_
  have hlt := List.mem_range.mp hindex
  rw [← add_ofNat_add, overwrite, BitVec.add_comm, BitVec.add_sub_cancel, BitVec.toNat_ofNat,
    Nat.mod_eq_of_lt (by omega), List.getElem?_eq_none (by omega)]
  rfl

end HookSelf.Overwrite
