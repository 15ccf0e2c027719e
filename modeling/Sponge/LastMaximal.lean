import Mathlib.Data.List.Basic

namespace Sponge

/-!
# The last of the greatest items

A scan that keeps its best candidate and lets a later one replace it whenever
that is no worse ends with the last of the greatest admitted items.  The module
is independent of any particular program.
-/

variable {α : Type*} {admits : α → Prop} {rank : α → Nat}
variable {items : List α} {best : α}

/-- No admitted item ranks higher, and no later one ranks as high. -/
def LastMaximal
    (admits : α → Prop)
    (rank : α → Nat)
    (items : List α)
    (best : α) : Prop :=
  ∃ before after,
    items = before ++ best :: after ∧
      admits best ∧
      (∀ earlier ∈ before, admits earlier → rank earlier ≤ rank best) ∧
      ∀ later ∈ after, admits later → rank later < rank best

namespace LastMaximal

theorem admitted
    (maximal : LastMaximal admits rank items best) :
    admits best := by
  obtain ⟨_, _, _, isAdmitted, _⟩ := maximal
  exact isAdmitted

theorem mem
    (maximal : LastMaximal admits rank items best) :
    best ∈ items := by
  obtain ⟨_, _, rfl, _⟩ := maximal
  simp

theorem rank_le
    (maximal : LastMaximal admits rank items best)
    {item : α}
    (member : item ∈ items)
    (isAdmitted : admits item) :
    rank item ≤ rank best := by
  obtain ⟨before, after, rfl, _, earlier, later⟩ := maximal
  rcases List.mem_append.mp member with inBefore | inRest
  · exact earlier item inBefore isAdmitted
  · rcases List.mem_cons.mp inRest with rfl | inAfter
    · exact Nat.le_refl _
    · exact Nat.le_of_lt (later item inAfter isAdmitted)

/-- An item that is not admitted, or ranks lower, changes nothing. -/
theorem skip
    (maximal : LastMaximal admits rank items best)
    {item : α}
    (lower : admits item → rank item < rank best) :
    LastMaximal admits rank (items ++ [item]) best := by
  obtain ⟨before, after, rfl, isAdmitted, earlier, later⟩ := maximal
  refine ⟨before, after ++ [item], by simp, isAdmitted, earlier, ?_⟩
  intro other member otherAdmitted
  rcases List.mem_append.mp member with inAfter | isLast
  · exact later other inAfter otherAdmitted
  · rw [List.mem_singleton.mp isLast] at otherAdmitted ⊢
    exact lower otherAdmitted

/-- An admitted item that no earlier one outranks is taken. -/
theorem take
    {item : α}
    (isAdmitted : admits item)
    (highest : ∀ other ∈ items, admits other → rank other ≤ rank item) :
    LastMaximal admits rank (items ++ [item]) item :=
  ⟨items, [], rfl, isAdmitted, highest, by simp⟩

/-- Only what is admitted of the items themselves matters. -/
theorem congr
    {other : α → Prop}
    (maximal : LastMaximal admits rank items best)
    (same : ∀ item ∈ items, (admits item ↔ other item)) :
    LastMaximal other rank items best := by
  obtain ⟨before, after, shape, isAdmitted, earlier, later⟩ := maximal
  have bestMember : best ∈ items := by simp [shape]
  refine ⟨before, after, shape, (same best bestMember).mp isAdmitted,
    fun item member otherAdmitted => earlier item member ?_,
    fun item member otherAdmitted => later item member ?_⟩
  · exact (same item (by simp [shape, member])).mpr otherAdmitted
  · exact (same item (by simp [shape, member])).mpr otherAdmitted

end LastMaximal

end Sponge
