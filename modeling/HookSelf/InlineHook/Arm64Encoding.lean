import HookSelf.Collections.BitField

/-! The A64 instruction codec of the inline hook (`arm64_encoding.cpp`). Instruction words and
addresses are bit vectors; a value of type `int64_t` is an integer. -/

namespace HookSelf.InlineHook.Arm64

abbrev Word := BitVec 32
abbrev Address := BitVec 64

/-- `UINTPTR_MAX`. -/
def lastAddress : Address := 0xffffffffffffffff

def kNop : Word := 0xd503201f
def kBti : Word := 0xd503241f
def kBtiC : Word := 0xd503245f
def kBtiJ : Word := 0xd503249f
def kBtiJc : Word := 0xd50324df
def kPaciasp : Word := 0xd503233f
def kPacibsp : Word := 0xd503237f
def kAutiasp : Word := 0xd50323bf
def kAutibsp : Word := 0xd50323ff
def kBrX17 : Word := 0xd61f0220
def kStrX17PreIndexSpMinus16 : Word := 0xf81f0ff1
def kLdrX17PostIndexSpPlus16 : Word := 0xf84107f1

inductive InstructionKind where
  | other
  | b
  | bl
  | bCond
  | compareBranch
  | testBranch
  | adr
  | adrp
  | literalLoad
deriving DecidableEq, Repr

def signExtend (value : BitVec 64) (bits : Nat) : Int :=
  let sign := (1 : BitVec 64) <<< (bits - 1)
  let mask := ((1 : BitVec 64) <<< bits) - 1
  let value := value &&& mask
  if value &&& sign = 0 then value.toInt else -((~~~value &&& mask) + 1).toInt

def int64Max : Nat := 2 ^ 63 - 1

/-- The difference as an `int64_t`, `none` when it does not fit. -/
def signedDifference (target source : Address) : Option Int :=
  if source ≤ target then
    let magnitude := target - source
    if magnitude.toNat > int64Max then none else some magnitude.toInt
  else
    let magnitude := source - target
    let minimumMagnitude := (1 : BitVec 64) <<< 63
    if magnitude > minimumMagnitude then none
    else some (if magnitude = minimumMagnitude then -2 ^ 63 else -magnitude.toInt)

/-- The division and remainder of C truncate toward zero. -/
def encodeSignedImmediate (byteOffset : Int) (bits : Nat) : Option Word :=
  if byteOffset.tmod 4 ≠ 0 then none
  else
    let units := byteOffset.tdiv 4
    let minimum : Int := -2 ^ (bits - 1)
    let maximum : Int := 2 ^ (bits - 1) - 1
    if units < minimum ∨ units > maximum then none
    else some (BitVec.ofInt 32 units &&& (((1 : Word) <<< bits) - 1))

def decodeKind (instruction : Word) : InstructionKind :=
  if instruction &&& 0x7c000000 = 0x14000000 then
    if instruction &&& 0x80000000 ≠ 0 then .bl else .b
  else if instruction &&& 0xff000000 = 0x54000000 then .bCond
  else if instruction &&& 0x7e000000 = 0x34000000 then .compareBranch
  else if instruction &&& 0x7e000000 = 0x36000000 then .testBranch
  else if instruction &&& 0x1f000000 = 0x10000000 then
    if instruction &&& 0x80000000 ≠ 0 then .adrp else .adr
  else if instruction &&& 0x3b000000 = 0x18000000 then .literalLoad
  else .other

def isBti (instruction : Word) : Bool :=
  instruction = kBti || instruction = kBtiC || instruction = kBtiJ || instruction = kBtiJc

def isPacEntry (instruction : Word) : Option Word :=
  if instruction = kPaciasp then some kAutiasp
  else if instruction = kPacibsp then some kAutibsp
  else none

/-- `BLR`, `BLRAAZ`, `BLRABZ`, `BLRAA` and `BLRAB`. -/
def isRegisterBranchWithLink (instruction : Word) : Bool :=
  let registerMasked := instruction &&& 0xfffffc1f
  let authenticatedMasked := instruction &&& 0xfffffc00
  registerMasked = 0xd63f0000 || registerMasked = 0xd63f081f || registerMasked = 0xd63f0c1f ||
    authenticatedMasked = 0xd73f0800 || authenticatedMasked = 0xd73f0c00

def isExceptionGeneration (instruction : Word) : Bool :=
  instruction &&& 0xff000000 = 0xd4000000

def decodePcRelativeTarget (instruction : Word) (pc : Address) : Address :=
  match decodeKind instruction with
  | .b | .bl =>
    let offset := signExtend ((instruction &&& 0x03ffffff).setWidth 64 <<< 2) 28
    pc + BitVec.ofInt 64 offset
  | .bCond | .compareBranch | .literalLoad =>
    let offset := signExtend (((instruction >>> 5) &&& 0x7ffff).setWidth 64 <<< 2) 21
    pc + BitVec.ofInt 64 offset
  | .testBranch =>
    let offset := signExtend (((instruction >>> 5) &&& 0x3fff).setWidth 64 <<< 2) 16
    pc + BitVec.ofInt 64 offset
  | .adr | .adrp =>
    let immediate : BitVec 64 := ((instruction.setWidth 64 >>> 29) &&& (0x3 : BitVec 64)) |||
      (((instruction.setWidth 64 >>> 5) &&& 0x7ffff) <<< 2)
    let offset := signExtend immediate 21
    if decodeKind instruction = .adrp then (pc &&& ~~~0xfff) + BitVec.ofInt 64 (offset * 4096)
    else pc + BitVec.ofInt 64 offset
  | .other => 0

def pcRelativeWord (instruction : Word) (pc target : Address) : Option Word :=
  match decodeKind instruction with
  | .b | .bl => do
    let offset ← signedDifference target pc
    let immediate ← encodeSignedImmediate offset 26
    some ((instruction &&& 0xfc000000) ||| immediate)
  | .bCond | .compareBranch | .literalLoad => do
    let offset ← signedDifference target pc
    let immediate ← encodeSignedImmediate offset 19
    some ((instruction &&& ~~~((0x7ffff : Word) <<< 5)) ||| (immediate <<< 5))
  | .testBranch => do
    let offset ← signedDifference target pc
    let immediate ← encodeSignedImmediate offset 14
    some ((instruction &&& ~~~((0x3fff : Word) <<< 5)) ||| (immediate <<< 5))
  | .adr | .adrp =>
    let difference :=
      if decodeKind instruction = .adrp then
        (signedDifference (target &&& ~~~0xfff) (pc &&& ~~~0xfff)).map (·.tdiv 4096)
      else signedDifference target pc
    difference.bind fun offset =>
      let minimum : Int := -2 ^ 20
      let maximum : Int := 2 ^ 20 - 1
      if offset < minimum ∨ offset > maximum then none
      else
        let value : Word := BitVec.ofInt 32 offset &&& 0x1fffff
        some ((instruction &&& ~~~(((0x3 : Word) <<< 29) ||| ((0x7ffff : Word) <<< 5))) |||
          ((value &&& 0x3) <<< 29) ||| (((value >>> 2) &&& 0x7ffff) <<< 5))
  | .other => none

/-- The result and what the output parameter then holds; `none` is the null pointer. -/
def encodePcRelative (instruction : Word) (pc target : Address) (encoded : Option Word) :
    Bool × Option Word :=
  match encoded with
  | none => (false, none)
  | some old =>
    match pcRelativeWord instruction pc target with
    | none => (false, some old)
    | some word => (true, some word)

def encodeBranch (pc target : Address) (link : Bool) (encoded : Option Word) :
    Bool × Option Word :=
  encodePcRelative (if link then 0x94000000 else 0x14000000) pc target encoded

def encodeLdrLiteralX (reg : Word) (pc literal : Address) (encoded : Option Word) :
    Bool × Option Word :=
  if reg > 31 then (false, encoded)
  else encodePcRelative (0x58000000 ||| reg) pc literal encoded

def literalOpc (instruction : Word) : Word := (instruction >>> 30) &&& 0x3

def literalVector (instruction : Word) : Word := (instruction >>> 26) &&& 0x1

def literalMemoryBase (instruction : Word) : Option Word :=
  if literalVector instruction = 0 then
    if literalOpc instruction = 0 then some 0xb9400000
    else if literalOpc instruction = 1 then some 0xf9400000
    else if literalOpc instruction = 2 then some 0xb9800000
    else some 0xf9800000
  else if literalOpc instruction = 0 then some 0xbd400000
  else if literalOpc instruction = 1 then some 0xfd400000
  else if literalOpc instruction = 2 then some 0x3dc00000
  else none

def encodeLiteralMemoryLoad (original baseReg : Word) : Option Word :=
  if baseReg > 31 ∨ decodeKind original ≠ .literalLoad then none
  else (literalMemoryBase original).map fun base => base ||| (baseReg <<< 5) ||| (original &&& 0x1f)

def invertConditional (instruction : Word) : Word :=
  match decodeKind instruction with
  | .bCond => instruction ^^^ 0x1
  | .compareBranch | .testBranch => instruction ^^^ (1 <<< 24)
  | _ => instruction

end HookSelf.InlineHook.Arm64
