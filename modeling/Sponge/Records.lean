import Mathlib.Data.List.Infix

namespace Sponge.Records

/-!
# Records

A record is a list that grows at its end.  An entry keeps its position in every
later record, and the entries of one kind are told apart by how many of them come
before.  The module is independent of any particular program.
-/

variable {α : Type*} {record : List α} {p : α → Bool} {x y : α}

/-- An entry stays where it is. -/
theorem getElem?_of_grown
    {before after : List α}
    (grown : before <+: after)
    {n : Nat}
    (found : before[n]? = some x) :
    after[n]? = some x := by
  obtain ⟨more, rfl⟩ := grown
  have inside := (List.getElem?_eq_some_iff.mp found).1
  exact (List.getElem?_append_left inside).trans found

/-- An entry was there before, or is the new one. -/
theorem getElem?_concat_cases
    {last : α}
    {n : Nat}
    (found : (record ++ [last])[n]? = some x) :
    record[n]? = some x ∨ n = record.length ∧ x = last := by
  rcases Nat.lt_or_ge n record.length with inside | outside
  · rw [List.getElem?_append_left inside] at found
    exact .inl found
  · rw [List.getElem?_append_right outside] at found
    have first : n - record.length = 0 := by
      have bound := (List.getElem?_eq_some_iff.mp found).1
      rw [List.length_singleton] at bound
      omega
    rw [first] at found
    exact .inr ⟨by omega, (Option.some.inj found).symm⟩

/-- How many entries of one kind come before a position. -/
def rank (p : α → Bool) (record : List α) (k : Nat) : Nat :=
  ((record.take k).filter p).length

end Sponge.Records
