import Mathlib.Algebra.GroupWithZero.Nat
import Mathlib.Data.Nat.Basic

namespace Sponge

/-!
# Unsigned 64-bit differences

Byte counters and indices are natural numbers.  A counter of bytes that passed
through a stream cannot reach `2 ^ 64`, so sums of counters never wrap, but a
difference may be taken the wrong way round.  `sub64` is that difference as the
machine computes it.
-/

/-- `a - b` on `uint64_t` operands: a negative difference wraps around. -/
def sub64 (a b : Nat) : Nat :=
  if b ≤ a then
    a - b
  else
    2 ^ 64 - (b - a) % 2 ^ 64

/-- A difference taken the right way round is exact. -/
theorem sub64_of_le
    {a b : Nat}
    (ordered : b ≤ a) :
    sub64 a b = a - b := by
  simp [sub64, ordered]

/-- A negative difference of machine words wraps around once. -/
theorem sub64_of_lt
    {a b : Nat}
    (reversed : a < b)
    (fits : b < 2 ^ 64) :
    sub64 a b = 2 ^ 64 - (b - a) := by
  have small : (b - a) % 2 ^ 64 = b - a :=
    Nat.mod_eq_of_lt (by omega)
  rw [sub64, if_neg (by omega), small]

/-- The machine difference is zero only between equal operands. -/
theorem sub64_eq_zero_iff
    {a b : Nat} :
    sub64 a b = 0 ↔ a = b := by
  unfold sub64
  have bounded : (b - a) % 2 ^ 64 < 2 ^ 64 :=
    Nat.mod_lt _ (by decide)
  split <;> omega

/-- On machine words the definition is the subtraction of 64-bit vectors. -/
theorem sub64_eq_bitVec
    {a b : Nat}
    (aFits : a < 2 ^ 64)
    (bFits : b < 2 ^ 64) :
    sub64 a b =
      (BitVec.ofNat 64 a - BitVec.ofNat 64 b).toNat := by
  rw [BitVec.toNat_sub, BitVec.toNat_ofNat, BitVec.toNat_ofNat,
    Nat.mod_eq_of_lt aFits, Nat.mod_eq_of_lt bFits]
  by_cases ordered : b ≤ a
  · rw [sub64_of_le ordered]
    omega
  · rw [sub64_of_lt (by omega) bFits]
    omega

end Sponge
