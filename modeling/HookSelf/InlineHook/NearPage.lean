import HookSelf.InlineHook.Arm64Encoding

/-! The search for a code page near a patch address (`inline_hook/internal/memory.cpp`). The
mappings are those the maps file lists; what `mmap` answers is a parameter. The search keeps the
calls made so far, and whether an addition or subtraction has wrapped around. -/

namespace HookSelf.InlineHook.NearPage

open Arm64

structure MemoryRegion where
  start : Address
  stop : Address
  deriving DecidableEq, Repr

inductive Call
  | mmap (address : Address) (fixedNoreplace : Bool)
  | munmap (address : Address)
  deriving DecidableEq, Repr

structure Search where
  calls : List Call
  wrapped : Bool
  deriving DecidableEq, Repr

/-- The page that `mmap` answers after some calls, for a hint and with or without
`MAP_FIXED_NOREPLACE`. -/
abbrev Mapper := List Call → Address → Bool → Option Address

def kMinimumUserAddress : Address := 0x10000
def kNearAllocationRange : BitVec 64 := 120 * 1024 * 1024

def add (a b : Address) : StateM Search Address := fun search =>
  (a + b, { search with wrapped := search.wrapped || decide (2 ^ 64 ≤ a.toNat + b.toNat) })

def sub (a b : Address) : StateM Search Address := fun search =>
  (a - b, { search with wrapped := search.wrapped || decide (a < b) })

def alignDown (value alignment : Address) : StateM Search Address := do
  let mask ← sub alignment 1
  return value &&& ~~~mask

def alignUp (value alignment : Address) : StateM Search Address := do
  let mask ← sub alignment 1
  let limit ← sub lastAddress mask
  if value > limit then
    return 0
  else
    let sum ← add value mask
    return sum &&& ~~~mask

section Mapper

variable (mapper : Mapper) (pageSize reference : Address) (range : BitVec 64)

def rawMmap (address : Address) (fixedNoreplace : Bool) : StateM Search (Option Address) :=
  fun search => (mapper search.calls address fixedNoreplace,
    { search with calls := search.calls ++ [.mmap address fixedNoreplace] })

def rawMunmap (address : Address) : StateM Search Unit := fun search =>
  ((), { search with calls := search.calls ++ [.munmap address] })

def distance (address : Address) : StateM Search Address :=
  if address ≥ reference then sub address reference else sub reference address

def acceptPage (address : Address) : StateM Search (Option Address) := do
  let apart ← distance reference address
  let mask ← sub pageSize 1
  if address &&& mask ≠ 0 ∨ apart ≥ range then
    rawMunmap address
    return none
  else
    return some address

def tryMapAt (candidate : Address) : StateM Search (Option Address) := do
  match ← rawMmap mapper candidate true with
  | some address => acceptPage pageSize reference range address
  | none =>
    match ← rawMmap mapper candidate false with
    | some address => acceptPage pageSize reference range address
    | none => return none

def closest (first last : Address) : StateM Search Address :=
  if reference ≥ first ∧ reference ≤ last then alignDown reference pageSize
  else if reference > last then return last
  else return first

def orTryMapAt (mapped : Option Address) (again : Bool) (candidate : Address) :
    StateM Search (Option Address) :=
  match mapped with
  | some address => return some address
  | none => if again then tryMapAt mapper pageSize reference range candidate else return none

def tryCandidates (first last : Address) : StateM Search (Option Address) := do
  let candidate ← closest pageSize reference first last
  let mapped ← tryMapAt mapper pageSize reference range candidate
  let mapped ← orTryMapAt mapper pageSize reference range mapped (candidate ≠ first) first
  orTryMapAt mapper pageSize reference range mapped (candidate ≠ last ∧ first ≠ last) last

def tryMapGap (gapStart gapEnd : Address) : StateM Search (Option Address) := do
  let first ← alignUp gapStart pageSize
  if first = 0 ∨ gapEnd < pageSize then
    return none
  else
    let room ← sub gapEnd pageSize
    if first > room then
      return none
    else
      let last ← alignDown room pageSize
      tryCandidates mapper pageSize reference range first last

def tryNonemptyGap (gapStart gapEnd : Address) : StateM Search (Option Address) :=
  if gapStart < gapEnd then tryMapGap mapper pageSize reference range gapStart gapEnd
  else return none

def searchGaps (lower upper : Address) :
    Address → List MemoryRegion → StateM Search (Option Address)
  | previousEnd, [] => do
    if previousEnd ≤ upper then
      let limit ← add upper pageSize
      tryMapGap mapper pageSize reference range
        (if previousEnd > lower then previousEnd else lower) limit
    else
      return none
  | previousEnd, current :: regions => do
    let limit ← add upper pageSize
    let gapStart := if previousEnd > lower then previousEnd else lower
    let gapEnd := if current.start < limit then current.start else limit
    match ← tryNonemptyGap mapper pageSize reference range gapStart gapEnd with
    | some address => return some address
    | none =>
      let previousEnd := if current.stop > previousEnd then current.stop else previousEnd
      if previousEnd > upper then return none else searchGaps lower upper previousEnd regions

def lowerBound : StateM Search Address := do
  if reference > range then
    let start ← sub reference range
    alignUp start pageSize
  else
    return kMinimumUserAddress

def upperBound : StateM Search Address := do
  let limit ← sub lastAddress range
  let unaligned ←
    if reference > limit then sub lastAddress pageSize
    else do
      let sum ← add reference range
      sub sum pageSize
  alignDown unaligned pageSize

/-- The mappings are `none` when the maps file cannot be opened. -/
def allocateNearCodePage (maps : Option (List MemoryRegion)) :
    StateM Search (Option Address) := do
  if reference < kMinimumUserAddress ∨ range ≤ pageSize then
    return none
  else
    let lower ← lowerBound pageSize reference range
    let upper ← upperBound pageSize reference range
    if lower = 0 ∨ lower > upper then
      return none
    else
      match maps with
      | none => return none
      | some regions =>
        searchGaps mapper pageSize reference range lower upper kMinimumUserAddress regions

end Mapper

end HookSelf.InlineHook.NearPage
