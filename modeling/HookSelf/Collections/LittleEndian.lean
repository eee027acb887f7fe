import Mathlib

namespace HookSelf.LittleEndian

def unsigned (size value : Nat) : List UInt8 :=
  (List.range size).map fun index => UInt8.ofNat (value / 256 ^ index)

def number (bytes : List UInt8) : Nat := bytes.foldr (fun byte value => byte.toNat + 256 * value) 0

def signed (size : Nat) (value : Int) : List UInt8 := unsigned size (value % 256 ^ size).toNat

@[simp] theorem unsigned_length (size value : Nat) : (unsigned size value).length = size := by
  simp [unsigned]

end HookSelf.LittleEndian
