import Mathlib

namespace HookSelf.ElfHook

abbrev Address := BitVec 64

inductive Result where
  | ok
  | invalidArgument
  | abiMismatch
  | unsupportedArch
  | moduleNotFound
  | moduleAmbiguous
  | malformedElf
  | unsupportedElf
  | symbolNotFound
  | relocationNotFound
  | alreadyInstalled
  | notFound
  | tooManySlots
  | protection
  | conflict
  | busy
  | moduleUnloaded
  | unsupportedSymbol
  | internal
  | recoveryRequired
deriving DecidableEq, Repr

def kMaxSlotsPerHook : Nat := 32

end HookSelf.ElfHook
