import Mathlib

/-! Classic BPF as the kernel runs it on a packet: one accumulator, forward jumps, and a return. -/

namespace HookSelf.Cbpf

structure SockFilter where
  code : BitVec 16
  jt : BitVec 8
  jf : BitVec 8
  k : BitVec 32
  deriving DecidableEq

/-- `BPF_LD | BPF_W | BPF_ABS`. -/
def loadAbsoluteWord : BitVec 16 := 0x20

/-- `BPF_JMP | BPF_JEQ | BPF_K`. -/
def jumpEqualConstant : BitVec 16 := 0x15

/-- `BPF_RET | BPF_K`. -/
def returnConstant : BitVec 16 := 0x06

/-- The run from a program's tail, `skip` instructions of which a jump passes over. Other
instructions, a load outside the packet and the end of the program are refused. -/
def run (load : BitVec 32 → Option (BitVec 32)) :
    Nat → List SockFilter → BitVec 32 → Option (BitVec 32)
  | _, [], _ => none
  | skip + 1, _ :: rest, accumulator => run load skip rest accumulator
  | 0, instruction :: rest, accumulator =>
    if instruction.code = loadAbsoluteWord then
      match load instruction.k with
      | none => none
      | some word => run load 0 rest word
    else if instruction.code = jumpEqualConstant then
      run load (if accumulator = instruction.k then instruction.jt.toNat else instruction.jf.toNat)
        rest accumulator
    else if instruction.code = returnConstant then some instruction.k
    else none

section Laws

variable {load : BitVec 32 → Option (BitVec 32)} {rest : List SockFilter} {a k word : BitVec 32}

theorem run_load (h : load k = some word) :
    run load 0 (⟨loadAbsoluteWord, 0, 0, k⟩ :: rest) a = run load 0 rest word := by
  simp [run, h]

theorem run_jump (jt jf : BitVec 8) :
    run load 0 (⟨jumpEqualConstant, jt, jf, k⟩ :: rest) a =
      run load (if a = k then jt.toNat else jf.toNat) rest a := by
  simp [run, jumpEqualConstant, loadAbsoluteWord]

theorem run_return : run load 0 (⟨returnConstant, 0, 0, k⟩ :: rest) a = some k := by
  simp [run, jumpEqualConstant, loadAbsoluteWord, returnConstant]

def matchReturn (entry : BitVec 32 × BitVec 32) : List SockFilter :=
  [⟨jumpEqualConstant, 0, 1, entry.1⟩, ⟨returnConstant, 0, 0, entry.2⟩]

theorem run_matchReturns (entries : List (BitVec 32 × BitVec 32)) :
    run load 0 (entries.flatMap matchReturn ++ rest) a =
      match entries.find? fun entry => entry.1 = a with
      | some entry => some entry.2
      | none => run load 0 rest a := by
  induction entries with
  | nil => rfl
  | cons entry entries ih =>
    rw [List.flatMap_cons, List.append_assoc]
    by_cases h : entry.1 = a
    · subst h
      simp only [matchReturn, List.cons_append, List.nil_append, run_jump, if_true,
        List.find?_cons, decide_true]
      exact run_return
    · have h' : ¬a = entry.1 := fun heq => h heq.symm
      simp only [matchReturn, List.cons_append, List.nil_append, run_jump, h', if_false,
        List.find?_cons, h, decide_false]
      exact ih

end Laws

end HookSelf.Cbpf
