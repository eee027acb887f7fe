import Mathlib

/-! The 64-bit FNV-1a hash: what a run of zero bytes does to it. -/

namespace HookSelf.Fnv

def offsetBasis : BitVec 64 := 1469598103934665603
def prime : BitVec 64 := 1099511628211

def step (hash : BitVec 64) (byte : UInt8) : BitVec 64 :=
  (hash ^^^ byte.toBitVec.setWidth 64) * prime

def fnv1a64 (bytes : List UInt8) : BitVec 64 := bytes.foldl step offsetBasis

theorem step_zero (hash : BitVec 64) : step hash 0 = hash * prime := by
  have hzero : (0 : UInt8).toBitVec.setWidth 64 = 0#64 := rfl
  rw [step, hzero, BitVec.xor_zero]

theorem foldl_zeros (hash : BitVec 64) (n : Nat) :
    (List.replicate n 0).foldl step hash = hash * prime ^ n := by
  induction n generalizing hash with
  | zero => simp
  | succ n ih =>
    rw [List.replicate_succ, List.foldl_cons, step_zero, ih, pow_succ]
    ring

def primeInverse : BitVec 64 := 0xce965057aff6957b

theorem prime_mul_inverse : prime * primeInverse = 1 := by decide

theorem mul_prime_pow_eq_zero {hash : BitVec 64} {n : Nat} : hash * prime ^ n = 0 ↔ hash = 0 := by
  refine ⟨fun h => ?_, fun h => by rw [h, zero_mul]⟩
  have hback : hash * prime ^ n * primeInverse ^ n = 0 * primeInverse ^ n := by rw [h]
  rwa [mul_assoc, ← mul_pow, prime_mul_inverse, one_pow, mul_one, zero_mul] at hback

theorem step_eq_zero {hash : BitVec 64} {byte : UInt8} :
    step hash byte = 0 ↔ hash = byte.toBitVec.setWidth 64 := by
  rw [step, ← pow_one prime, mul_prime_pow_eq_zero]
  exact BitVec.xor_eq_zero_iff

end HookSelf.Fnv
