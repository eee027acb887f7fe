import HookSelf.ProcVirtual.Text

/-! The proc files and directories that have a virtual view (`ParseProcVirtualPath`). -/

namespace HookSelf.ProcVirtual

inductive ProcVirtualNodeKind
  | none
  | rootDirectory
  | status
  | maps
  | smaps
  | smapsRollup
  | attrCurrent
  | fdDirectory
  | fdInfoDirectory
  | mapFilesDirectory
  deriving DecidableEq, Repr

abbrev pathSelfAlias : BitVec 32 := 1
abbrev pathThreadSelfAlias : BitVec 32 := 2
abbrev pathNumericSelector : BitVec 32 := 4
abbrev pathExplicitTask : BitVec 32 := 8

structure ProcVirtualPath where
  kind : ProcVirtualNodeKind
  subjectPid : ℤ
  subjectTid : ℤ
  flags : BitVec 32
  deriving DecidableEq, Repr

abbrev int32Max : ℕ := 2 ^ 31 - 1

def parseDecimalFrom (parsed : ℕ) : List UInt8 → Option ℕ
  | [] => some parsed
  | c :: text =>
    if c < 48 ∨ c > 57 then none
    else
      let digit := c.toNat - 48
      if parsed > (int32Max - digit) / 10 then none
      else parseDecimalFrom (parsed * 10 + digit) text

def parseDecimal (text : List UInt8) (allowZero : Bool) : Option ℕ :=
  if text = [] then none
  else (parseDecimalFrom 0 text).filter fun parsed => parsed ≠ 0 || allowZero

def isPositiveDecimal (text : List UInt8) : Option ℕ := parseDecimal text false

def isNonnegativeDecimal (text : List UInt8) : Option ℕ := parseDecimal text true

def component (path : List UInt8) : Option (List UInt8 × List UInt8) :=
  let name := path.takeWhile (· ≠ slash)
  if name = [] then none else some (name, path.drop name.length)

def bytes (text : String) : List UInt8 := text.toUTF8.data.toList

def fileTail (path : List UInt8) (name : String) : Bool := path = bytes name

def directoryTail (path : List UInt8) (name : String) : Bool :=
  path = bytes name ∨ path = bytes name ++ [slash]

def nodeKind (node : List UInt8) : Option ProcVirtualNodeKind :=
  if fileTail node "status" then some .status
  else if fileTail node "maps" then some .maps
  else if fileTail node "smaps" then some .smaps
  else if fileTail node "smaps_rollup" then some .smapsRollup
  else if fileTail node "attr/current" then some .attrCurrent
  else if directoryTail node "fd" then some .fdDirectory
  else if directoryTail node "fdinfo" then some .fdInfoDirectory
  else if directoryTail node "map_files" then some .mapFilesDirectory
  else none

def parseSelector (selector : List UInt8) (callerTgid callerTid : ℤ) :
    Except Errno ProcVirtualPath :=
  if selector = bytes "self" then
    if callerTgid ≤ 0 then .error .einval else .ok ⟨.none, callerTgid, 0, pathSelfAlias⟩
  else if selector = bytes "thread-self" then
    if callerTgid ≤ 0 ∨ callerTid ≤ 0 then .error .einval
    else .ok ⟨.none, callerTgid, callerTid, pathThreadSelfAlias⟩
  else
    match isPositiveDecimal selector with
    | none => .error .enoent
    | some pid => .ok ⟨.none, pid, 0, pathNumericSelector⟩

def parseTask (subject : ProcVirtualPath) (node : List UInt8) :
    Except Errno (ProcVirtualPath × List UInt8) :=
  match component node with
  | none => .error .enoent
  | some (name, tail) =>
    if name ≠ bytes "task" then .ok (subject, node)
    else if subject.flags &&& pathThreadSelfAlias ≠ 0 then .error .enoent
    else
      match tail with
      | [] => .error .enoent
      | _ :: tidText =>
        match component tidText with
        | none => .error .enoent
        | some (tidName, tidTail) =>
          match isPositiveDecimal tidName, tidTail with
          | some tid, _ :: rest =>
            .ok ({ subject with
              subjectTid := tid
              flags := subject.flags ||| pathExplicitTask }, rest)
          | _, _ => .error .enoent

def parseProcVirtualPath (path : List UInt8) (callerTgid callerTid : ℤ) :
    Except Errno ProcVirtualPath :=
  if path = [] ∨ 0 ∈ path then .error .einval
  else if path = bytes "/proc" ∨ path = bytes "/proc/" then .ok ⟨.rootDirectory, 0, 0, 0⟩
  else if path.take 6 ≠ bytes "/proc/" then .error .enoent
  else
    match component (path.drop 6) with
    | none => .error .enoent
    | some (selector, tail) =>
      match parseSelector selector callerTgid callerTid with
      | .error error => .error error
      | .ok subject =>
        match tail with
        | [] => .error .enoent
        | _ :: node =>
          match parseTask subject node with
          | .error error => .error error
          | .ok (subject, node) =>
            match nodeKind node with
            | none => .error .enoent
            | some kind => .ok { subject with kind }

end HookSelf.ProcVirtual
