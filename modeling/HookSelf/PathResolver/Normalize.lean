import HookSelf.Errno

/-! Lexical normalisation of `path_resolver.inc`. A buffer is the list of the bytes written to it;
the pointers are not null. -/

namespace HookSelf.PathResolver

abbrev slash : UInt8 := 47
abbrev dot : UInt8 := 46

def pathCapacity : Nat := 512

def backUp (output : List UInt8) (floor : Nat) : Nat → Nat
  | 0 => 0
  | written + 1 =>
    if written + 1 > floor ∧ output[written]? ≠ some slash then backUp output floor written
    else written + 1

def popSegment (floor : Nat) (output : List UInt8) : List UInt8 :=
  let written := backUp output floor output.length
  output.take (if written > floor then written - 1 else written)

def pushSegment (capacity : Nat) (output segment : List UInt8) : Except Errno (List UInt8) :=
  let separator := if output.length > 1 then 1 else 0
  if output.length + separator + segment.length + 1 > capacity then .error .enametoolong
  else .ok (output ++ (if separator ≠ 0 then [slash] else []) ++ segment)

def nextSegment (rest : List UInt8) : List UInt8 × List UInt8 :=
  let start := rest.dropWhile (· = slash)
  (start.takeWhile (· ≠ slash), start.dropWhile (· ≠ slash))

def scanSegments (floor capacity : Nat) : Nat → List UInt8 → List UInt8 → Except Errno (List UInt8)
  | 0, _, output => .ok output
  | rounds + 1, rest, output =>
    if rest = [] then .ok output
    else
      let segment := (nextSegment rest).1
      let rest := (nextSegment rest).2
      if segment.length = 0 ∨ segment = [dot] then scanSegments floor capacity rounds rest output
      else if segment = [dot, dot] then
        scanSegments floor capacity rounds rest (popSegment floor output)
      else do
        let output ← pushSegment capacity output segment
        scanSegments floor capacity rounds rest output

def finishPath (floor capacity : Nat) (trailingSlash : Bool) (output : List UInt8) :
    Except Errno (List UInt8) :=
  if trailingSlash ∧ output.length > floor then
    if output.length + 2 > capacity then .error .enametoolong else .ok (output ++ [slash])
  else .ok output

def trailingSlash (path : List UInt8) : Bool := path.length > 1 ∧ path.getLast? = some slash

def normalizeAbsolutePath (input : List UInt8) (capacity : Nat) : Except Errno (List UInt8) :=
  if input.head? ≠ some slash ∨ capacity < 2 then .error .einval
  else do
    let output ← scanSegments 1 capacity input.length (input.drop 1) [slash]
    finishPath 1 capacity (trailingSlash input) output

def stripSlashes (path : List UInt8) : Nat → List UInt8
  | 0 => []
  | length + 1 =>
    if length + 1 > 1 ∧ path[length]? = some slash then stripSlashes path length
    else path.take (length + 1)

def combineRootAndNormalizePath (root path : List UInt8) (capacity : Nat) :
    Except Errno (List UInt8) :=
  if root.head? ≠ some slash ∨ path = [] ∨ capacity < 2 then .error .einval
  else do
    let normalized ← normalizeAbsolutePath root pathCapacity
    let output := stripSlashes normalized normalized.length
    if output.length + 1 > capacity then .error .enametoolong
    else
      let rest := if path.head? = some slash then path.drop 1 else path
      let written ← scanSegments output.length capacity path.length rest output
      finishPath output.length capacity (trailingSlash path) written

def canonicalScan (segment : List UInt8) : List UInt8 → Bool
  | [] => segment ≠ [dot] ∧ segment ≠ [dot, dot]
  | byte :: rest =>
    if byte ≠ slash then canonicalScan (segment ++ [byte]) rest
    else if segment.length = 0 ∨ segment = [dot] ∨ segment = [dot, dot] then false
    else canonicalScan [] rest

def canonicalAbsolutePath (path : List UInt8) : Bool :=
  path.head? = some slash ∧ (path.length = 1 ∨ canonicalScan [] (path.drop 1))

end HookSelf.PathResolver
