import HookSelf.PathState.CharPtr

/-! The public configuration: rules, virtual files and the limits they are checked against. -/

namespace HookSelf.Config

open PathState

inductive HookselfResult
  | ok
  | invalidArgument
  | abiMismatch
  | invalidState
  | busy
  | noMemory
  | unsupported
  | notImplemented
  | capacity
  | internal
  deriving DecidableEq, Repr

def abiVersion : Nat := 6
def maxPathRules : Nat := 64
def maxSyscallRules : Nat := 128
def maxVirtualFiles : Nat := 64
def maxVirtualFileSize : Nat := 1048576
def maxEventCapacity : Nat := 1024
def syscallLimit : Nat := 1024
def builtinRuleIdMin : Nat := 0xffff0000

section Flags

def observeAll : BitVec 32 := 1
def capturePaths : BitVec 32 := 2
def captureArguments : BitVec 32 := 4
def captureResults : BitVec 32 := 8
def traceDescendants : BitVec 32 := 16
def enablePathRedirect : BitVec 32 := 32
def enableVirtualFiles : BitVec 32 := 64
def enablePtraceView : BitVec 32 := 128
def enableSelectiveSeccomp : BitVec 32 := 256
def enableProcVirtualView : BitVec 32 := 512
def enableNestedPtrace : BitVec 32 := 1024

def kKnownConfigFlags : BitVec 32 :=
  observeAll ||| capturePaths ||| captureArguments ||| captureResults ||| traceDescendants |||
    enablePathRedirect ||| enableVirtualFiles ||| enablePtraceView ||| enableSelectiveSeccomp |||
    enableProcVirtualView ||| enableNestedPtrace

def pathOpRead : BitVec 32 := 2
def pathOpAll : BitVec 32 := 0xff

def pathRuleFollowFinal : BitVec 32 := 1
def pathRuleReadOnly : BitVec 32 := 2
def pathRuleReverseVisible : BitVec 32 := 4

def phaseEntry : BitVec 32 := 1
def phaseExit : BitVec 32 := 2
def phaseBoth : BitVec 32 := 3

def vfileHideInternalMappings : BitVec 32 := 1

end Flags

section Codes

/-! Enumerations the interface passes as plain integers and checks by range. -/

def backendForkRaw : Int := 1
def backendAppService : Int := 3
def failureFullPtraceFailOpen : Int := 1
def failureFailClosed : Int := 2
def logOff : Int := 0
def logInfo : Int := 3
def logTrace : Int := 5

def pathPass : Int := 0
def pathRedirect : Int := 1
def pathDeny : Int := 2
def pathVirtualFile : Int := 3

def syscallPass : Int := 0
def syscallObserve : Int := 1
def syscallDeny : Int := 2
def syscallReplaceResult : Int := 3
def syscallReplaceNumber : Int := 4
def syscallReplaceArgument : Int := 5

def vfileStatic : Int := 0
def vfileProcStatus : Int := 2
def vfileProcMaps : Int := 3
def vfileSelinuxContext : Int := 4

end Codes

structure HookselfPathRule where
  structSize : Nat
  ruleId : Nat
  priority : Int
  action : Int
  operationMask : BitVec 32
  flags : BitVec 32
  denyErrno : Int
  guestPrefix : CharPtr
  hostPrefix : CharPtr

structure HookselfSyscallRule where
  structSize : Nat
  ruleId : Nat
  syscallNumber : Int
  action : Int
  phaseMask : BitVec 32
  argumentIndex : Nat
  argumentMatchMask : BitVec 64
  argumentMatchValue : BitVec 64
  replacementValue : BitVec 64
  replacementSyscallNumber : Int
  denyErrno : Int
  flags : BitVec 32
  deriving DecidableEq

structure HookselfVirtualFile where
  structSize : Nat
  fileId : Nat
  provider : Int
  mode : BitVec 32
  flags : BitVec 32
  initialContentSize : Nat
  initialContent : Option (Nat → UInt8)
  guestPath : CharPtr

def sizeofPathRule : Nat := 1056
def sizeofSyscallRule : Nat := 64
def sizeofVirtualFile : Nat := 544
def sizeofConfig : Nat := 616

structure ArrayRef (α : Type) where
  count : Nat
  pointer : Option (Nat → α)

def ArrayRef.items {α : Type} (array : ArrayRef α) : List α :=
  match array.pointer with
  | none => []
  | some item => (List.range array.count).map item

def ArrayRef.Missing {α : Type} (array : ArrayRef α) : Prop :=
  array.count ≠ 0 ∧ array.pointer.isNone

instance {α : Type} (array : ArrayRef α) : Decidable array.Missing :=
  inferInstanceAs (Decidable (_ ∧ _))

structure HookselfConfig where
  structSize : Nat
  abiVersion : Nat
  backend : Int
  failureMode : Int
  logLevel : Int
  flags : BitVec 32
  eventCapacity : Nat
  pathRules : ArrayRef HookselfPathRule
  syscallRules : ArrayRef HookselfSyscallRule
  virtualFiles : ArrayRef HookselfVirtualFile
  virtualBackingDir : CharPtr

end HookSelf.Config
