import Mathlib

namespace HookSelf

/-- The error numbers that the modelled code returns or tells apart, and any other one that a callback
may return. -/
inductive Errno
  | enoent
  | esrch
  | ebadf
  | ebusy
  | eexist
  | exdev
  | einval
  | enospc
  | erofs
  | enametoolong
  | eproto
  | eoverflow
  | enotsup
  | estale
  | eperm
  | eloop
  | eagain
  | echild
  | eio
  | eopnotsupp
  | enosys
  | efault
  | e2big
  | eprotonosupport
  | enodata
  | enotdir
  | erange
  | etimedout
  | eownerdead
  | efbig
  | ecanceled
  | other (number : ℕ)
  deriving DecidableEq, Repr

/-- A syscall takes six arguments, which `Fin 6` numbers. -/
instance neZeroSyscallArguments : NeZero 6 := ⟨by decide⟩

end HookSelf
