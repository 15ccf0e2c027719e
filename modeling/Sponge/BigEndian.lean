import Mathlib.Algebra.Order.Group.Nat
import Mathlib.Data.List.Basic
import Mathlib.Tactic.Ring

namespace Sponge.BigEndian

/-!
# Numbers as byte strings

A byte string stands for the number it writes in base 256, most significant
byte first.  Encoding and decoding are inverse to each other at every width.
The module is independent of any particular program.
-/

/-- The number a byte string stands for. -/
def value (bytes : List UInt8) : Nat :=
  bytes.foldl (fun total byte => total * 256 + byte.toNat) 0

/-- The last `width` bytes of a number, most significant first. -/
def encode : Nat → Nat → List UInt8
  | 0, _ => []
  | width + 1, number =>
      UInt8.ofNat (number / 256 ^ width) :: encode width number

@[simp] theorem value_nil : value [] = 0 :=
  rfl

@[simp] theorem length_encode
    (width number : Nat) :
    (encode width number).length = width := by
  induction width with
  | zero =>
      rfl
  | succ width inductionHypothesis =>
      rw [encode, List.length_cons, inductionHypothesis]

/-- Folding from a total shifts the total past the bytes. -/
theorem foldl_eq
    (total : Nat)
    (bytes : List UInt8) :
    bytes.foldl (fun total byte => total * 256 + byte.toNat) total =
      total * 256 ^ bytes.length + value bytes := by
  induction bytes generalizing total with
  | nil =>
      simp
  | cons byte rest inductionHypothesis =>
      rw [value, List.foldl_cons, List.foldl_cons,
        inductionHypothesis (total * 256 + byte.toNat),
        inductionHypothesis (0 * 256 + byte.toNat), List.length_cons,
        pow_succ]
      ring

@[simp] theorem value_cons
    (byte : UInt8)
    (rest : List UInt8) :
    value (byte :: rest) =
      byte.toNat * 256 ^ rest.length + value rest := by
  rw [value, List.foldl_cons, foldl_eq, Nat.zero_mul, Nat.zero_add]

theorem value_lt
    (bytes : List UInt8) :
    value bytes < 256 ^ bytes.length := by
  induction bytes with
  | nil =>
      simp
  | cons byte rest inductionHypothesis =>
      have digit : byte.toNat + 1 ≤ 256 := byte.toNat_lt
      rw [value_cons, List.length_cons, pow_succ]
      calc
        byte.toNat * 256 ^ rest.length + value rest
            < byte.toNat * 256 ^ rest.length + 256 ^ rest.length :=
          Nat.add_lt_add_left inductionHypothesis _
        _ = (byte.toNat + 1) * 256 ^ rest.length := by ring
        _ ≤ 256 * 256 ^ rest.length := Nat.mul_le_mul_right _ digit
        _ = 256 ^ rest.length * 256 := Nat.mul_comm _ _

/-- Decoding an encoded number gives its last `width` digits. -/
theorem value_encode
    (width number : Nat) :
    value (encode width number) = number % 256 ^ width := by
  induction width with
  | zero =>
      simp [encode, Nat.mod_one]
  | succ width inductionHypothesis =>
      have digits :
          number % 256 ^ (width + 1) =
            number % 256 ^ width +
              256 ^ width * (number / 256 ^ width % 256) := by
        rw [pow_succ, Nat.mod_mul]
      rw [encode, value_cons, inductionHypothesis, length_encode,
        UInt8.toNat_ofNat', digits, Nat.add_comm, Nat.mul_comm]

theorem value_encode_of_lt
    {width number : Nat}
    (fits : number < 256 ^ width) :
    value (encode width number) = number := by
  rw [value_encode, Nat.mod_eq_of_lt fits]

/-- Higher digits than the width has place for do not matter. -/
theorem encode_add_mul
    (width number high : Nat) :
    encode width (number + high * 256 ^ width) = encode width number := by
  induction width generalizing high with
  | zero =>
      rfl
  | succ width inductionHypothesis =>
      have shifted :
          high * 256 ^ (width + 1) = high * 256 * 256 ^ width := by
        rw [pow_succ]
        ring
      have digit :
          UInt8.ofNat
              ((number + high * 256 * 256 ^ width) / 256 ^ width) =
            UInt8.ofNat (number / 256 ^ width) := by
        apply UInt8.toNat.inj
        rw [UInt8.toNat_ofNat', UInt8.toNat_ofNat',
          Nat.add_mul_div_right _ _ (Nat.pow_pos (by decide)),
          Nat.add_mul_mod_self_right]
      rw [shifted, encode, encode, digit, inductionHypothesis]

/-- Encoding a decoded string gives the string back. -/
theorem encode_value
    (bytes : List UInt8) :
    encode bytes.length (value bytes) = bytes := by
  induction bytes with
  | nil =>
      rfl
  | cons byte rest inductionHypothesis =>
      have first :
          (byte.toNat * 256 ^ rest.length + value rest) /
            256 ^ rest.length = byte.toNat := by
        rw [Nat.mul_comm, Nat.mul_add_div (Nat.pow_pos (by decide)),
          Nat.div_eq_of_lt (value_lt rest), Nat.add_zero]
      rw [value_cons, List.length_cons, encode, first, UInt8.ofNat_toNat,
        Nat.add_comm, encode_add_mul, inductionHypothesis]

end Sponge.BigEndian
