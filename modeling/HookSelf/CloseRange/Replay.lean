import HookSelf.Errno
import HookSelf.Limits

/-! `close_range_replay.cpp`. An array with its count is a list; the pointers are not null. -/

namespace HookSelf.CloseRange

def kCloseRangeReplayUnshare : BitVec 32 := 2
def kCloseRangeReplayCloexec : BitVec 32 := 4
def kCloseRangeReplayKnownFlags : BitVec 32 := kCloseRangeReplayUnshare ||| kCloseRangeReplayCloexec
def kCloseRangeReplayProtectedCapacity : Nat := 256
def kCloseRangeReplayMagic : Nat := 0x48534352
def kCloseRangeReplayVersion : Nat := 2

inductive CloseRangeReplayDisposition
  | passthrough
  | replay
  deriving DecidableEq

structure CloseRangeReplaySegment where
  first : Nat
  last : Nat
  flags : BitVec 32
  sequence : Nat
  deriving DecidableEq

structure CloseRangeReplayCursor where
  magic : Nat
  version : Nat
  active : Nat
  complete : Nat
  originalFirst : Nat
  originalLast : Nat
  originalFlags : BitVec 32
  nextFirst : Nat
  protectedIndex : Nat
  segmentCount : Nat
  unsharePending : Nat
  protectedFds : List Int
  deriving DecidableEq

def FdInRange (fd : Int) (first last : Nat) : Prop := fd ≥ 0 ∧ fd.toNat ≥ first ∧ fd.toNat ≤ last

instance (fd : Int) (first last : Nat) : Decidable (FdInRange fd first last) :=
  inferInstanceAs (Decidable (_ ∧ _))

def insertSortedUnique (fd : Int) : List Int → List Int
  | [] => [fd]
  | current :: rest =>
    if current < fd then current :: insertSortedUnique fd rest
    else if current = fd then current :: rest
    else fd :: current :: rest

def collectProtected (first last : Nat) : List Int → List Int → Option (List Int)
  | [], collected => some collected
  | fd :: rest, collected =>
    if ¬FdInRange fd first last then collectProtected first last rest collected
    else if collected.length = kCloseRangeReplayProtectedCapacity then none
    else collectProtected first last rest (insertSortedUnique fd collected)

def unshareRequested (flags : BitVec 32) : Nat :=
  if flags &&& kCloseRangeReplayUnshare ≠ 0 then 1 else 0

def newCursor (first last : Nat) (flags : BitVec 32) (protectedFds : List Int) :
    CloseRangeReplayCursor where
  magic := kCloseRangeReplayMagic
  version := kCloseRangeReplayVersion
  active := 0
  complete := 0
  originalFirst := first
  originalLast := last
  originalFlags := flags
  nextFirst := first
  protectedIndex := 0
  segmentCount := 0
  unsharePending := unshareRequested flags
  protectedFds := protectedFds

def prepareCloseRangeReplay (first last : Nat) (flags : BitVec 32) (protectedFds : List Int) :
    Except Errno (CloseRangeReplayDisposition × CloseRangeReplayCursor) :=
  if first > last ∨ flags &&& ~~~kCloseRangeReplayKnownFlags ≠ 0 then .error .einval
  else if protectedFds.length > kCloseRangeReplayProtectedCapacity then .error .eoverflow
  else
    match collectProtected first last protectedFds [] with
    | none => .error .eoverflow
    | some collected =>
      let cursor := newCursor first last flags collected
      if collected.length = 0 then
        .ok (.passthrough, { cursor with complete := 1, unsharePending := 0 })
      else .ok (.replay, { cursor with active := 1 })

namespace CloseRangeReplayCursor

def protectedCount (cursor : CloseRangeReplayCursor) : Nat := cursor.protectedFds.length

def protectedFd (cursor : CloseRangeReplayCursor) (index : Nat) : Nat :=
  (cursor.protectedFds.getD index 0).toNat

def HeaderValid (cursor : CloseRangeReplayCursor) : Prop :=
  cursor.magic = kCloseRangeReplayMagic ∧ cursor.version = kCloseRangeReplayVersion ∧
    cursor.active ≤ 1 ∧ cursor.complete ≤ 1 ∧ cursor.unsharePending ≤ 1 ∧
    cursor.protectedCount ≠ 0 ∧ cursor.protectedCount ≤ kCloseRangeReplayProtectedCapacity ∧
    cursor.protectedIndex ≤ cursor.protectedCount ∧
    cursor.segmentCount ≤ cursor.protectedCount + 2 ∧
    cursor.originalFirst ≤ cursor.originalLast ∧
    cursor.originalFlags &&& ~~~kCloseRangeReplayKnownFlags = 0 ∧
    cursor.active + cursor.complete = 1

def FdsValid (cursor : CloseRangeReplayCursor) : Prop :=
  (∀ fd ∈ cursor.protectedFds, FdInRange fd cursor.originalFirst cursor.originalLast) ∧
    cursor.protectedFds.IsChain (· < ·)

def ProgressValid (cursor : CloseRangeReplayCursor) : Prop :=
  cursor.protectedIndex < cursor.protectedCount ∧
    cursor.originalFirst ≤ cursor.nextFirst ∧ cursor.nextFirst ≤ cursor.originalLast ∧
    (∀ fd ∈ cursor.protectedFds.take cursor.protectedIndex, fd.toNat < cursor.nextFirst) ∧
    cursor.nextFirst ≤ cursor.protectedFd cursor.protectedIndex ∧
    if cursor.segmentCount = 0 then
      cursor.protectedIndex = 0 ∧ cursor.nextFirst = cursor.originalFirst ∧
        cursor.unsharePending = unshareRequested cursor.originalFlags
    else if unshareRequested cursor.originalFlags ≠ 0 ∧ cursor.segmentCount = 1 then
      cursor.unsharePending = 0 ∧ cursor.protectedIndex = 0 ∧
        cursor.nextFirst = cursor.originalFirst
    else cursor.unsharePending = 0 ∧
      cursor.protectedFd cursor.protectedIndex = cursor.nextFirst

def Valid (cursor : CloseRangeReplayCursor) : Prop :=
  cursor.HeaderValid ∧ cursor.FdsValid ∧
    if cursor.complete ≠ 0 then
      cursor.active = 0 ∧ cursor.protectedIndex = cursor.protectedCount ∧ cursor.unsharePending = 0
    else cursor.ProgressValid

instance (cursor : CloseRangeReplayCursor) : Decidable cursor.HeaderValid :=
  inferInstanceAs (Decidable (_ ∧ _))

instance (cursor : CloseRangeReplayCursor) : Decidable cursor.FdsValid :=
  inferInstanceAs (Decidable (_ ∧ _))

instance (cursor : CloseRangeReplayCursor) : Decidable cursor.ProgressValid :=
  inferInstanceAs (Decidable (_ ∧ _))

instance (cursor : CloseRangeReplayCursor) : Decidable cursor.Valid :=
  inferInstanceAs (Decidable (_ ∧ _))

def markComplete (cursor : CloseRangeReplayCursor) : CloseRangeReplayCursor :=
  { cursor with
    active := 0
    complete := 1
    nextFirst := 0
    protectedIndex := cursor.protectedCount
    unsharePending := 0 }

end CloseRangeReplayCursor

inductive Found
  | before (first protectedFd index : Nat)
  | tail (first : Nat)
  | finished

def findSegment (last : Nat) : List Int → Nat → Nat → Found
  | [], _, nextFirst => if nextFirst ≤ last then .tail nextFirst else .finished
  | fd :: rest, index, nextFirst =>
    if fd.toNat < nextFirst then findSegment last rest (index + 1) nextFirst
    else if nextFirst < fd.toNat then .before nextFirst fd.toNat index
    else if fd.toNat = uint32Max ∨ fd.toNat = last then .finished
    else findSegment last rest (index + 1) (fd.toNat + 1)

def unshareSegment (cursor : CloseRangeReplayCursor) : CloseRangeReplaySegment where
  first := uint32Max
  last := uint32Max
  flags := (cursor.originalFlags &&& kCloseRangeReplayCloexec) ||| kCloseRangeReplayUnshare
  sequence := cursor.segmentCount + 1

def rangeSegment (cursor : CloseRangeReplayCursor) (first last : Nat) :
    CloseRangeReplaySegment where
  first := first
  last := last
  flags := cursor.originalFlags &&& kCloseRangeReplayCloexec
  sequence := cursor.segmentCount + 1

def nextCloseRangeReplaySegment (cursor : CloseRangeReplayCursor) :
    Except Errno (CloseRangeReplayCursor × Option CloseRangeReplaySegment) :=
  if ¬cursor.Valid then .error .einval
  else if cursor.complete ≠ 0 then .ok (cursor, none)
  else if cursor.unsharePending ≠ 0 then
    .ok ({ cursor with segmentCount := cursor.segmentCount + 1, unsharePending := 0 },
      some (unshareSegment cursor))
  else
    match findSegment cursor.originalLast (cursor.protectedFds.drop cursor.protectedIndex)
        cursor.protectedIndex cursor.nextFirst with
    | .before first protectedFd index =>
      .ok ({ cursor with
          nextFirst := protectedFd
          protectedIndex := index
          segmentCount := cursor.segmentCount + 1 },
        some (rangeSegment cursor first (protectedFd - 1)))
    | .tail first =>
      .ok ({ cursor with
          active := 0
          complete := 1
          nextFirst := first
          protectedIndex := cursor.protectedCount
          segmentCount := cursor.segmentCount + 1 },
        some (rangeSegment cursor first cursor.originalLast))
    | .finished => .ok (cursor.markComplete, none)

end HookSelf.CloseRange
