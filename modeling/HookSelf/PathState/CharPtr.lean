import HookSelf.Collections.SlotTable
import HookSelf.Errno

/-! The byte-level path helpers of the path state: length, validation, prefix matching and
substitution over `char` arrays of fixed capacity. -/

namespace HookSelf.PathState

open SlotTable

/-- A `const char*`: the byte at each offset from the pointer. -/
abbrev CharPtr := Nat → UInt8

@[irreducible] def pathCapacity : Nat := 512

abbrev slash : UInt8 := 47
abbrev dot : UInt8 := 46

def ofBytes (bytes : List UInt8) : CharPtr := fun i => bytes.getD i 0

def rootPath : CharPtr := ofBytes [slash]

def pathLength : Option CharPtr → Except Errno Nat
  | none => .error .einval
  | some path =>
    match firstSlot pathCapacity fun i => path i = 0 with
    | some i => .ok i
    | none => .error .enametoolong

/-- One iteration, at `i = k + 1`, of the segment scan; the state is `segment_start`. -/
def scanSegment (path : CharPtr) (length k segmentStart : Nat) : Nat × Except Errno Unit :=
  let i := k + 1
  if i ≠ length ∧ path i ≠ slash then (segmentStart, .ok ())
  else
    let segmentLength := i - segmentStart
    if segmentLength = 0 ∨ (segmentLength = 1 ∧ path segmentStart = dot) ∨
        (segmentLength = 2 ∧ path segmentStart = dot ∧ path (segmentStart + 1) = dot) then
      (segmentStart, .error .einval)
    else (i + 1, .ok ())

def validateCanonicalPath (path : Option CharPtr) : Except Errno Unit := do
  let length ← pathLength path
  match path with
  | none => .error .einval
  | some path =>
    if length = 0 ∨ path 0 ≠ slash ∨ (length > 1 ∧ path (length - 1) = slash) then .error .einval
    else if length = 1 then .ok ()
    else (tryForSlots (scanSegment path length) length 1).2

end HookSelf.PathState
