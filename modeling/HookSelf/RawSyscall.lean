import Mathlib

/-! The error numbers of system calls, and how a raw result carries one. -/

namespace HookSelf.RawSyscall

def eintr : Nat := 4
def eio : Nat := 5
def e2big : Nat := 7
def echild : Nat := 10
def eagain : Nat := 11
def ebusy : Nat := 16
def eexist : Nat := 17
def esrch : Nat := 3
def ebadf : Nat := 9
def einval : Nat := 22
def epipe : Nat := 32
def eproto : Nat := 71
def etimedout : Nat := 110
def estale : Nat := 116
def eownerdead : Nat := 130

def rawError (result : Int) : Nat := if result < 0 ∧ -4095 ≤ result then (-result).toNat else 0

end HookSelf.RawSyscall
