import Mathlib

/-! Limits that several parts of the program share. -/

namespace HookSelf

def uint32Max : ℕ := 4294967295

/-- `UINTPTR_MAX` and `SIZE_MAX`. -/
abbrev uintptrMax : ℕ := 2 ^ 64 - 1

def kMaxProtectedFds : ℕ := 160

end HookSelf
