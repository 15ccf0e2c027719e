import Mathlib.Algebra.GroupWithZero.Nat
import Mathlib.Data.Nat.Basic

namespace Sponge.OnesComplement

/-!
# One's complement sums

Adding words of `digits` different values with end-around carry keeps a total
within one word.  `allOnes` is the largest word; a total and the word it is
folded to agree modulo `allOnes`, and only the total zero is folded to the word
zero.  The module is independent of any particular program.
-/

/-- The word a total is folded to, as a function of the total alone. -/
def normal (allOnes total : Nat) : Nat :=
  if total = 0 then
    0
  else
    (total - 1) % allOnes + 1

/-- One round of folding: the carries are added back to the low word. -/
def carry (allOnes total : Nat) : Nat :=
  total / (allOnes + 1) + total % (allOnes + 1)

variable {allOnes total : Nat}

theorem normal_of_le
    (fits : total ≤ allOnes) :
    normal allOnes total = total := by
  unfold normal
  split
  · omega
  · rw [Nat.mod_eq_of_lt (by omega)]
    omega

theorem normal_le
    (positive : 0 < allOnes) :
    normal allOnes total ≤ allOnes := by
  unfold normal
  have bounded := Nat.mod_lt (total - 1) positive
  split <;> omega

/-- Folding a round does not change the word a total ends in. -/
theorem normal_carry :
    normal allOnes (carry allOnes total) = normal allOnes total := by
  have split :
      (allOnes + 1) * (total / (allOnes + 1)) +
          total % (allOnes + 1) = total :=
    Nat.div_add_mod total (allOnes + 1)
  rw [Nat.add_mul, Nat.one_mul] at split
  unfold normal carry
  generalize total / (allOnes + 1) = high at split ⊢
  generalize total % (allOnes + 1) = low at split ⊢
  by_cases zero : total = 0
  · rw [if_pos zero, if_pos (by omega)]
  · have positive : high + low ≠ 0 := by
      intro vanishes
      have noHigh : high = 0 := by omega
      rw [noHigh, Nat.mul_zero] at split
      omega
    have shifted : total - 1 = high + low - 1 + allOnes * high := by
      omega
    rw [if_neg zero, if_neg positive, shifted,
      Nat.add_mul_mod_self_left]

/-- A total and the complement of its word fold to the word of all ones. -/
theorem normal_add_complement
    (positive : 0 < allOnes) :
    normal allOnes (total + (allOnes - normal allOnes total)) =
      allOnes := by
  have bounded : normal allOnes total ≤ allOnes := normal_le positive
  by_cases zero : total = 0
  · have vanishes : normal allOnes total = 0 := by
      rw [normal, if_pos zero]
    rw [vanishes, zero, Nat.zero_add, Nat.sub_zero,
      normal_of_le (Nat.le_refl allOnes)]
  · have folded :
        normal allOnes total = (total - 1) % allOnes + 1 := by
      rw [normal, if_neg zero]
    have split := Nat.div_add_mod (total - 1) allOnes
    have completed :
        total + (allOnes - normal allOnes total) - 1 =
          allOnes - 1 + allOnes * ((total - 1) / allOnes) := by
      omega
    rw [normal, if_neg (by omega), completed, Nat.add_mul_mod_self_left,
      Nat.mod_eq_of_lt (by omega)]
    omega

/-- The sum of two words, with the carry added back to it. -/
def endAround (allOnes first second : Nat) : Nat :=
  if first + second ≤ allOnes then
    first + second
  else
    first + second - allOnes

/-- Adding a word to a total adds it to the word the total is folded to. -/
theorem normal_add
    {word : Nat}
    (fits : word ≤ allOnes) :
    normal allOnes (total + word) =
      endAround allOnes (normal allOnes total) word := by
  by_cases zero : total = 0
  · have vanishes : normal allOnes total = 0 := by
      rw [normal, if_pos zero]
    rw [vanishes, zero, Nat.zero_add, normal_of_le fits, endAround,
      Nat.zero_add, if_pos fits]
  · have split := Nat.div_add_mod (total - 1) allOnes
    have shifted :
        total + word - 1 =
          (total - 1) % allOnes + word +
            allOnes * ((total - 1) / allOnes) := by
      omega
    rw [normal, if_neg (by omega), shifted, Nat.add_mul_mod_self_left,
      normal, if_neg zero, endAround]
    rcases Nat.eq_zero_or_pos allOnes with degenerate | positive
    · subst degenerate
      rw [Nat.mod_zero, Nat.mod_zero]
      split <;> omega
    · have bounded := Nat.mod_lt (total - 1) positive
      generalize (total - 1) % allOnes = low at bounded ⊢
      split
      · rw [Nat.mod_eq_of_lt (by omega)]
        omega
      · rw [Nat.mod_eq_sub_mod (by omega), Nat.mod_eq_of_lt (by omega)]
        omega

/-- A word that completes a total to all ones, up to the two zeros. -/
theorem complement_of_normal_add
    {word : Nat}
    (fits : word ≤ allOnes)
    (completes : normal allOnes (total + word) = allOnes) :
    word = allOnes - normal allOnes total ∨
      word = allOnes ∧ normal allOnes total = allOnes := by
  rw [normal_add fits, endAround] at completes
  split at completes
  · omega
  · have bounded : normal allOnes total ≤ allOnes ∨ allOnes = 0 := by
      rcases Nat.eq_zero_or_pos allOnes with degenerate | positive
      · exact Or.inr degenerate
      · exact Or.inl (normal_le positive)
    omega

/--
A total that folds to all ones no longer does so once one of its words is
replaced, unless the replacement exchanges the two zeros.
-/
theorem normal_add_ne_of_replaced
    {old new : Nat}
    (oldFits : old ≤ allOnes)
    (newFits : new ≤ allOnes)
    (verifies : normal allOnes (total + old) = allOnes)
    (replaced : new ≠ old)
    (notZeros : ¬ (old = 0 ∧ new = allOnes ∨ old = allOnes ∧ new = 0)) :
    normal allOnes (total + new) ≠ allOnes := by
  intro verifiesToo
  have ofOld := complement_of_normal_add oldFits verifies
  have ofNew := complement_of_normal_add newFits verifiesToo
  omega

/-- Folding at the end gives what carrying after every word gives. -/
theorem normal_sum
    {words : List Nat}
    (fit : ∀ word ∈ words, word ≤ allOnes) :
    normal allOnes (total + words.sum) =
      words.foldl (endAround allOnes) (normal allOnes total) := by
  induction words generalizing total with
  | nil =>
      rfl
  | cons word rest inductionHypothesis =>
      have restFits : ∀ later ∈ rest, later ≤ allOnes :=
        fun later member => fit later (List.mem_cons_of_mem word member)
      rw [List.sum_cons, ← Nat.add_assoc, inductionHypothesis restFits,
        normal_add (fit word List.mem_cons_self), List.foldl_cons]

end Sponge.OnesComplement
