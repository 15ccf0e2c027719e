import Mathlib.Algebra.GroupWithZero.Nat
import Mathlib.Data.Nat.Basic
import Mathlib.Data.UInt

namespace Sponge

/-!
# Wrapping 32-bit sequence numbers

Sequence numbers on the wire are 32-bit values relative to an initial sequence
number.  `wrap` shortens an absolute number and `unwrap` recovers the one
closest to a checkpoint.
-/

/-- A 32-bit integer, expressed relative to an initial sequence number. -/
structure WrappingInt32 where
  rawValue : UInt32
  deriving DecidableEq

namespace WrappingInt32

/-- The point `b` steps past `a`. -/
instance : HAdd WrappingInt32 UInt32 WrappingInt32 where
  hAdd a b := ⟨a.rawValue + b⟩

/-- The point `b` steps before `a`. -/
instance : HSub WrappingInt32 UInt32 WrappingInt32 where
  hSub a b := a + -b

/-- The offset of `a` relative to `b`, as a signed number. -/
instance : HSub WrappingInt32 WrappingInt32 Int32 where
  hSub a b := (a.rawValue - b.rawValue).toInt32

theorem add_rawValue
    (a : WrappingInt32)
    (b : UInt32) :
    (a + b).rawValue = a.rawValue + b :=
  rfl

theorem sub_toUInt32
    (a b : WrappingInt32) :
    (a - b : Int32).toUInt32 = a.rawValue - b.rawValue :=
  rfl

end WrappingInt32

/-- Transform an absolute sequence number into a 32-bit relative one. -/
def wrap
    (n : Nat)
    (isn : WrappingInt32) : WrappingInt32 :=
  let maxNumber := 2 ^ 32
  isn + UInt32.ofNat (n % maxNumber)

/--
Transform a relative sequence number into the absolute number that wraps to it
and lies closest to the checkpoint.
-/
def unwrap
    (n isn : WrappingInt32)
    (checkpoint : Nat) : Nat :=
  let maxNumber := 2 ^ 32
  let times := checkpoint / maxNumber
  let A := (n - isn : Int32).toUInt32.toNat
  let B := checkpoint % maxNumber
  if (A ≤ B ∧ (B ≤ maxNumber / 2 ∨ A ≥ B - maxNumber / 2)) ∨
      (A > B ∧ (B ≥ maxNumber / 2 ∨ A ≤ B + maxNumber / 2)) then
    times * maxNumber + A
  else if A ≤ B then
    ((times + 1) * maxNumber + A) % 2 ^ 64
  else if times < 1 then
    times * maxNumber + A
  else
    (times - 1) * maxNumber + A

/-- Relative to checkpoint zero, `unwrap` is the plain 32-bit offset. -/
theorem unwrap_zero
    (n isn : WrappingInt32) :
    unwrap n isn 0 = (n.rawValue - isn.rawValue).toNat := by
  unfold unwrap
  dsimp only
  rw [WrappingInt32.sub_toUInt32]
  generalize (n.rawValue - isn.rawValue).toNat = offset
  by_cases near : offset ≤ 2 ^ 32 / 2
  · have taken :
        (offset ≤ 0 % 2 ^ 32 ∧
            (0 % 2 ^ 32 ≤ 2 ^ 32 / 2 ∨
              offset ≥ 0 % 2 ^ 32 - 2 ^ 32 / 2)) ∨
          (offset > 0 % 2 ^ 32 ∧
            (0 % 2 ^ 32 ≥ 2 ^ 32 / 2 ∨
              offset ≤ 0 % 2 ^ 32 + 2 ^ 32 / 2)) := by
      omega
    rw [if_pos taken]
    omega
  · -- past half a wrap the lowest block is taken because there is none below
    have skipped :
        ¬ ((offset ≤ 0 % 2 ^ 32 ∧
              (0 % 2 ^ 32 ≤ 2 ^ 32 / 2 ∨
                offset ≥ 0 % 2 ^ 32 - 2 ^ 32 / 2)) ∨
            (offset > 0 % 2 ^ 32 ∧
              (0 % 2 ^ 32 ≥ 2 ^ 32 / 2 ∨
                offset ≤ 0 % 2 ^ 32 + 2 ^ 32 / 2))) := by
      omega
    rw [if_neg skipped, if_neg (by omega), if_pos (by omega)]
    omega

/-- With checkpoint zero no absolute number above `2 ^ 32` is ever recovered. -/
theorem unwrap_zero_lt
    (n isn : WrappingInt32) :
    unwrap n isn 0 < 2 ^ 32 := by
  rw [unwrap_zero]
  exact UInt32.toNat_lt _

/-- With checkpoint zero, `unwrap` inverts `wrap` modulo `2 ^ 32` only. -/
theorem unwrap_zero_wrap
    (n : Nat)
    (isn : WrappingInt32) :
    unwrap (wrap n isn) isn 0 = n % 2 ^ 32 := by
  rw [unwrap_zero, wrap, WrappingInt32.add_rawValue]
  have offset :
      isn.rawValue + UInt32.ofNat (n % 2 ^ 32) - isn.rawValue =
        UInt32.ofNat (n % 2 ^ 32) := by
    rw [UInt32.add_comm, UInt32.add_sub_cancel]
  rw [offset, UInt32.toNat_ofNat']
  omega

/-- Below `2 ^ 32` nothing is lost. -/
theorem unwrap_zero_wrap_of_lt
    {n : Nat}
    (small : n < 2 ^ 32)
    (isn : WrappingInt32) :
    unwrap (wrap n isn) isn 0 = n := by
  rw [unwrap_zero_wrap, Nat.mod_eq_of_lt small]

/-- Every relative number wraps back from its offset. -/
theorem wrap_unwrap_zero
    (n isn : WrappingInt32) :
    wrap (unwrap n isn 0) isn = n := by
  rcases n with ⟨raw⟩
  have offset :
      isn.rawValue + (raw - isn.rawValue) = raw := by
    rw [UInt32.add_comm, UInt32.sub_add_cancel]
  rw [unwrap_zero, wrap, Nat.mod_eq_of_lt (UInt32.toNat_lt _),
    UInt32.ofNat_toNat]
  exact congrArg WrappingInt32.mk offset

/-- The first absolute number wraps to the initial sequence number. -/
theorem wrap_zero
    (isn : WrappingInt32) :
    wrap 0 isn = isn := by
  have identity : isn.rawValue + 0 = isn.rawValue :=
    UInt32.add_zero _
  exact congrArg WrappingInt32.mk identity

/-- Wrapping commutes with advancing by a number of steps. -/
theorem wrap_add
    (n k : Nat)
    (isn : WrappingInt32) :
    wrap (n + k) isn = wrap n isn + UInt32.ofNat k := by
  have sum :
      UInt32.ofNat ((n + k) % 2 ^ 32) =
        UInt32.ofNat (n % 2 ^ 32) + UInt32.ofNat k := by
    apply UInt32.toNat_inj.mp
    simp only [UInt32.toNat_add, UInt32.toNat_ofNat']
    omega
  refine congrArg WrappingInt32.mk ?_
  rw [sum]
  exact (UInt32.add_assoc _ _ _).symm

/-- The pre-images of a relative number are one residue class. -/
theorem wrap_eq_iff
    (n isn : WrappingInt32)
    (y : Nat) :
    wrap y isn = n ↔ y % 2 ^ 32 = unwrap n isn 0 := by
  constructor
  · intro wraps
    rw [← wraps, unwrap_zero_wrap]
  · intro residue
    have reduced : wrap y isn = wrap (y % 2 ^ 32) isn := by
      unfold wrap
      dsimp only
      rw [Nat.mod_mod]
    rw [reduced, residue, wrap_unwrap_zero]

section Nearest

/-- Two absolute numbers, compared by their distance to a checkpoint. -/
def Nearer (checkpoint x y : Nat) : Prop :=
  ((x : Int) - checkpoint).natAbs ≤ ((y : Int) - checkpoint).natAbs

variable {x y checkpoint : Nat}

/-- Half a wrap away at most, a number is the nearest of its residue class. -/
theorem nearer_of_half
    (half : ((x : Int) - checkpoint).natAbs ≤ 2 ^ 31)
    (sameClass : y % 2 ^ 32 = x % 2 ^ 32) :
    Nearer checkpoint x y := by
  unfold Nearer
  by_cases same : y = x
  · rw [same]
  · -- different members of one class are a whole wrap apart
    have apart : 2 ^ 32 ≤ ((y : Int) - x).natAbs := by omega
    omega

/-- In the lowest block there is nothing below the offset itself. -/
theorem nearer_of_lowest
    (above : checkpoint ≤ x)
    (lowest : x < 2 ^ 32)
    (sameClass : y % 2 ^ 32 = x % 2 ^ 32) :
    Nearer checkpoint x y := by
  have least : x ≤ y := by omega
  unfold Nearer
  omega

/-- Less than half a wrap away, it is the only one so near. -/
theorem eq_of_nearer
    (close : ((y : Int) - checkpoint).natAbs < 2 ^ 31)
    (nearer : Nearer checkpoint x y)
    (sameClass : x % 2 ^ 32 = y % 2 ^ 32) :
    x = y := by
  unfold Nearer at nearer
  omega

/-- Where `unwrap` lands: half a wrap away at most, or in the lowest block. -/
theorem unwrap_lands
    (n isn : WrappingInt32)
    (inRange : checkpoint < 2 ^ 64 - 2 ^ 32) :
    unwrap n isn checkpoint < 2 ^ 64 ∧
      unwrap n isn checkpoint % 2 ^ 32 = unwrap n isn 0 ∧
      (((unwrap n isn checkpoint : Int) - checkpoint).natAbs ≤ 2 ^ 31 ∨
        checkpoint ≤ unwrap n isn checkpoint ∧
          unwrap n isn checkpoint < 2 ^ 32) := by
  have small := unwrap_zero_lt n isn
  rw [unwrap_zero] at small ⊢
  unfold unwrap
  dsimp only
  rw [WrappingInt32.sub_toUInt32]
  generalize (n.rawValue - isn.rawValue).toNat = offset at small ⊢
  have position :
      checkpoint = checkpoint / 2 ^ 32 * 2 ^ 32 + checkpoint % 2 ^ 32 :=
    (Nat.div_add_mod' checkpoint (2 ^ 32)).symm
  have within : checkpoint % 2 ^ 32 < 2 ^ 32 :=
    Nat.mod_lt _ (by decide)
  generalize checkpoint / 2 ^ 32 = times at position ⊢
  generalize checkpoint % 2 ^ 32 = rest at position within ⊢
  split
  · refine ⟨?_, ?_, Or.inl ?_⟩ <;> omega
  · split
    · -- the block above, which still fits below `2 ^ 64`
      have fits : (times + 1) * 2 ^ 32 + offset < 2 ^ 64 := by omega
      rw [Nat.mod_eq_of_lt fits]
      refine ⟨fits, ?_, Or.inl ?_⟩ <;> omega
    · split
      · refine ⟨?_, ?_, Or.inr ⟨?_, ?_⟩⟩ <;> omega
      · refine ⟨?_, ?_, Or.inl ?_⟩ <;> omega

end Nearest

/--
`unwrap` returns a pre-image of its argument under `wrap`, no other pre-image is
nearer to the checkpoint, and what is less than half a wrap away from the
checkpoint is recovered exactly.
-/
theorem unwrap_nearest
    (n isn : WrappingInt32)
    (checkpoint : Nat)
    (inRange : checkpoint < 2 ^ 64 - 2 ^ 32) :
    (unwrap n isn checkpoint < 2 ^ 64 ∧
        wrap (unwrap n isn checkpoint) isn = n ∧
        ∀ y : Nat,
          y < 2 ^ 64 →
          wrap y isn = n →
          ((unwrap n isn checkpoint : Int) - checkpoint).natAbs ≤
            ((y : Int) - checkpoint).natAbs) ∧
      ∀ v : Nat,
        v < 2 ^ 64 →
        ((v : Int) - checkpoint).natAbs < 2 ^ 31 →
        unwrap (wrap v isn) isn checkpoint = v := by
  have nearest :
      ∀ n y,
        wrap y isn = n →
        Nearer checkpoint (unwrap n isn checkpoint) y := by
    intro n y wraps
    obtain ⟨_, residue, lands⟩ := unwrap_lands n isn inRange
    have sameClass : y % 2 ^ 32 = unwrap n isn checkpoint % 2 ^ 32 := by
      rw [residue, (wrap_eq_iff n isn y).mp wraps]
    rcases lands with half | ⟨above, lowest⟩
    · exact nearer_of_half half sameClass
    · exact nearer_of_lowest above lowest sameClass
  obtain ⟨bounded, residue, _⟩ := unwrap_lands n isn inRange
  refine ⟨⟨bounded, (wrap_eq_iff n isn _).mpr residue, ?_⟩, ?_⟩
  · intro y _ wraps
    exact nearest n y wraps
  · intro v _ close
    obtain ⟨_, residue, _⟩ := unwrap_lands (wrap v isn) isn inRange
    rw [unwrap_zero_wrap] at residue
    exact eq_of_nearer close (nearest _ v rfl) residue

/-- At exactly half a wrap the recovered number is the one above. -/
theorem unwrap_nearest_half :
    unwrap ⟨2 ^ 31⟩ ⟨0⟩ (3 * 2 ^ 32) = 3 * 2 ^ 32 + 2 ^ 31 ∧
      wrap (unwrap ⟨2 ^ 31⟩ ⟨0⟩ (3 * 2 ^ 32)) ⟨0⟩ = ⟨2 ^ 31⟩ :=
  ⟨by decide,
    (unwrap_nearest ⟨2 ^ 31⟩ ⟨0⟩ (3 * 2 ^ 32) (by decide)).1.2.1⟩

end Sponge
