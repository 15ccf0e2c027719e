import Mathlib.Order.Interval.Finset.Nat
import Sponge.StreamReassemblerIntegrity

namespace Sponge.StreamReassembler

/-!
# What a push discards

When the stored bytes exceed the capacity, `push_substring` shortens a single
fragment: the one under the key that its sort puts first.  This module says
which indices that removes, in terms of the state before the push: how many
bytes are too many, which key is examined, and how long the fragment under that
key is once the pushed substring has been merged in.
-/

instance
    (pending : Pending)
    (key : Nat)
    (fragment : Bytes) :
    Decidable (Touches pending key fragment) :=
  inferInstanceAs (Decidable (_ ∧ _))

section Definitions

variable (r : StreamReassembler) (data : Bytes) (index : Nat)

/-- The stored fragments the pushed substring overlaps. -/
def overlapping : List (Sigma fun _ : Nat => Bytes) :=
  r.reassembler.entries.filter fun entry =>
    Touches (r.incoming data index) entry.1 entry.2

/-- The first index of the substring joined with what it overlaps. -/
def mergedStart : Nat :=
  hullStart (r.incoming data index).copyIndex
    (r.overlapping data index)

/-- The index past the end of the substring joined with what it overlaps. -/
def mergedEnd : Nat :=
  hullEnd
    ((r.incoming data index).copyIndex +
      (r.incoming data index).copyData.length)
    (r.overlapping data index)

/-- The bytes by which buffered, stored and pushed bytes exceed the capacity. -/
def excess : Nat :=
  r.output.bufferSize +
      (storedIndices r.reassembler ∪
        Finset.Ico (r.incoming data index).copyIndex
          ((r.incoming data index).copyIndex +
            (r.incoming data index).copyData.length)).card -
    r.capacity

/-- The key whose fragment is shortened when there is an excess. -/
def examinedKey (order : ScanOrder Nat Bytes) : Option Nat :=
  (sortDecreasing (order.keys r.reassembler)).head?

/--
The length of the fragment under a key once the substring is merged in: the
substring may extend it, or swallow it under a smaller key.
-/
def examinedLength (key : Nat) : Nat :=
  let fragment := UnorderedMap.subscript r.reassembler key []
  if r.mergedStart data index = key then
    r.mergedEnd data index - r.mergedStart data index
  else if Touches (r.incoming data index) key fragment then
    0
  else
    fragment.length

end Definitions

section Merging

variable {r : StreamReassembler} {data : Bytes} {index : Nat}
variable {order : ScanOrder Nat Bytes}

theorem mem_overlapping
    {key : Nat}
    {fragment : Bytes} :
    ⟨key, fragment⟩ ∈ r.overlapping data index ↔
      r.reassembler.lookup key = some fragment ∧
        Touches (r.incoming data index) key fragment := by
  simp only [overlapping, List.mem_filter, decide_eq_true_eq,
    ← AList.mem_lookup_iff, Option.mem_def]

/-- A nonempty fragment is absorbed exactly when the substring touches it. -/
theorem Loose.absorbed_iff
    (loose : r.Loose)
    (order : ScanOrder Nat Bytes)
    (nonempty : data ≠ [])
    (fits : index + data.length < 2 ^ 64)
    {key : Nat}
    {fragment : Bytes}
    (found : r.reassembler.lookup key = some fragment)
    (stored : fragment ≠ []) :
    (r.mergedPending order data index).reassembler.lookup key = none ↔
      Touches (r.incoming data index) key fragment := by
  have merged : Merged _ _ (r.mergedPending order data index) :=
    loose.merged nonempty fits
  constructor
  · intro gone
    rcases merged.touched key fragment ⟨found, gone⟩ with
      touches | isEmpty
    · exact touches
    · exact (stored isEmpty).elim
  · intro touches
    cases after :
        (r.mergedPending order data index).reassembler.lookup key with
    | none =>
        rfl
    | some other =>
        have same : other = fragment :=
          Option.some.inj
            ((merged.lookup_of_after key other after).symm.trans found)
        subst other
        obtain ⟨common, held, spans⟩ :=
          touches.common (incoming_fits nonempty fits) stored
        have grown :=
          (merged.holds_iff common).mpr (Or.inl held)
        exact
          (merged.apart key fragment (merged.mem_keys after) after
            common grown spans).elim

/-- A nonempty span held by a pending substring lies inside it. -/
theorem Pending.contains_of_spans
    {pending : Pending}
    {start : Nat}
    {bytes : Bytes}
    (nonempty : bytes ≠ [])
    (held : ∀ query, Spans start bytes query → pending.Holds query) :
    pending.copyIndex ≤ start ∧
      start + bytes.length ≤
        pending.copyIndex + pending.copyData.length := by
  have length := List.length_pos_iff.mpr nonempty
  have first := held start (by
    simp only [Spans]
    omega)
  have last := held (start + bytes.length - 1) (by
    simp only [Spans]
    omega)
  simp only [Pending.Holds, Spans] at first last
  omega

section Range

variable (loose : r.Loose) (order : ScanOrder Nat Bytes)
variable (nonempty : data ≠ []) (fits : index + data.length < 2 ^ 64)

include loose nonempty fits

/-- Every merged index is in the substring or in an overlapped fragment. -/
theorem Loose.mergedPending_origin
    {query : Nat}
    (held : (r.mergedPending order data index).Holds query) :
    (r.incoming data index).Holds query ∨
      ∃ entry ∈ r.overlapping data index,
        Spans entry.1 entry.2 query := by
  have merged : Merged _ _ (r.mergedPending order data index) :=
    loose.merged nonempty fits
  rcases (merged.holds_iff query).mp held with
    before | ⟨key, fragment, absorbed, spans⟩
  · exact Or.inl before
  · rcases merged.touched key fragment absorbed with
      touches | isEmpty
    · exact Or.inr ⟨⟨key, fragment⟩,
        mem_overlapping.mpr ⟨absorbed.1, touches⟩, spans⟩
    · exact (spans.nonempty isEmpty).elim

/-- The substring lies inside the merged one. -/
theorem Loose.incoming_inside :
    (r.mergedPending order data index).copyIndex ≤
        (r.incoming data index).copyIndex ∧
      (r.incoming data index).copyIndex +
          (r.incoming data index).copyData.length ≤
        (r.mergedPending order data index).copyIndex +
          (r.mergedPending order data index).copyData.length := by
  have merged : Merged _ _ (r.mergedPending order data index) :=
    loose.merged nonempty fits
  exact Pending.contains_of_spans (incoming_fits nonempty fits).nonempty
    fun query held => (merged.holds_iff query).mpr (Or.inl held)

/-- Every overlapped fragment lies inside the merged substring. -/
theorem Loose.overlapping_inside
    {entry : Sigma fun _ : Nat => Bytes}
    (member : entry ∈ r.overlapping data index) :
    (r.mergedPending order data index).copyIndex ≤ entry.1 ∧
      entry.1 + entry.2.length ≤
        (r.mergedPending order data index).copyIndex +
          (r.mergedPending order data index).copyData.length := by
  have merged : Merged _ _ (r.mergedPending order data index) :=
    loose.merged nonempty fits
  obtain ⟨key, fragment⟩ := entry
  obtain ⟨found, touches⟩ := mem_overlapping.mp member
  by_cases isEmpty : fragment = []
  · -- an empty fragment touches where the substring itself reaches
    obtain ⟨before, after⟩ := touches
    obtain ⟨low, high⟩ := loose.incoming_inside order nonempty fits
    subst fragment
    simp only [List.length_nil] at after ⊢
    omega
  · have gone :=
      (loose.absorbed_iff order nonempty fits found isEmpty).mpr touches
    exact Pending.contains_of_spans isEmpty fun query spans =>
      (merged.holds_iff query).mpr
        (Or.inr ⟨key, fragment, ⟨found, gone⟩, spans⟩)

/-- The merged substring covers the hull of what it overlapped. -/
theorem Loose.mergedPending_range :
    (r.mergedPending order data index).copyIndex =
        r.mergedStart data index ∧
      (r.mergedPending order data index).copyIndex +
          (r.mergedPending order data index).copyData.length =
        r.mergedEnd data index := by
  have merged : Merged _ _ (r.mergedPending order data index) :=
    loose.merged nonempty fits
  have mergedLength := List.length_pos_iff.mpr merged.fits.nonempty
  obtain ⟨low, high⟩ := loose.incoming_inside order nonempty fits
  have startBound := le_hullStart_iff.mp
    (Nat.le_refl (r.mergedStart data index))
  have endBound := hullEnd_le_iff.mp
    (Nat.le_refl (r.mergedEnd data index))
  have first :
      (r.mergedPending order data index).Holds
        (r.mergedPending order data index).copyIndex := by
    simp only [Pending.Holds, Spans]
    omega
  have last :
      (r.mergedPending order data index).Holds
        ((r.mergedPending order data index).copyIndex +
          (r.mergedPending order data index).copyData.length - 1) := by
    simp only [Pending.Holds, Spans]
    omega
  constructor
  · apply Nat.le_antisymm
    · exact le_hullStart_iff.mpr ⟨low, fun _ member =>
        (loose.overlapping_inside order nonempty fits member).1⟩
    · rcases loose.mergedPending_origin order nonempty fits first with
        held | ⟨entry, member, spans⟩
      · exact Nat.le_trans startBound.1 held.1
      · exact Nat.le_trans (startBound.2 entry member) spans.1
  · apply Nat.le_antisymm
    · rcases loose.mergedPending_origin order nonempty fits last with
        held | ⟨entry, member, spans⟩
      · have bound := endBound.1
        simp only [Pending.Holds, Spans] at held
        omega
      · have bound := endBound.2 entry member
        simp only [Spans] at spans
        omega
    · exact hullEnd_le_iff.mpr ⟨high, fun _ member =>
        (loose.overlapping_inside order nonempty fits member).2⟩

end Range

/-- The stored bytes after the insertion are the distinct indices held. -/
theorem Loose.totalLength_inserted
    (loose : r.Loose)
    (nonempty : data ≠ [])
    (fits : index + data.length < 2 ^ 64) :
    totalLength (r.inserted order data index) =
      (storedIndices r.reassembler ∪
        Finset.Ico (r.incoming data index).copyIndex
          ((r.incoming data index).copyIndex +
            (r.incoming data index).copyData.length)).card := by
  rw [← (loose.inserted_separated nonempty fits).card_storedIndices]
  congr 1
  ext query
  rw [mem_storedIndices, loose.inserted_covers_iff nonempty fits,
    Finset.mem_union, mem_storedIndices, Finset.mem_Ico, or_comm]
  rfl

/-- The fragment found under a scanned key after the insertion. -/
theorem Loose.inserted_length
    (loose : r.Loose)
    (nonempty : data ≠ [])
    (fits : index + data.length < 2 ^ 64)
    {key : Nat}
    (member : key ∈ order.keys r.reassembler) :
    (UnorderedMap.subscript
        (r.inserted order data index) key []).length =
      r.examinedLength data index key := by
  obtain ⟨start, stop⟩ :=
    loose.mergedPending_range order nonempty fits
  obtain ⟨fragment, found⟩ :=
    Option.isSome_iff_exists.mp
      (AList.lookup_isSome.mpr (ScanOrder.mem_keys.mp member))
  unfold examinedLength
  dsimp only
  rw [UnorderedMap.subscript_of_lookup found]
  split
  · rename_i same
    subst same
    have under :
        (r.inserted order data index).lookup
            (r.mergedStart data index) =
          some (r.mergedPending order data index).copyData := by
      rw [← start]
      exact AList.lookup_insert _
    rw [UnorderedMap.subscript_of_lookup under]
    omega
  · rename_i different
    have same :
        (r.inserted order data index).lookup key =
          (r.mergedPending order data index).reassembler.lookup key :=
      AList.lookup_insert_ne (by
        rw [start]
        exact Ne.symm different)
    rw [UnorderedMap.subscript, same]
    cases after :
        (r.mergedPending order data index).reassembler.lookup key with
    | none =>
        by_cases isEmpty : fragment = []
        · subst fragment
          simp
        · rw [if_pos
            ((loose.absorbed_iff order nonempty fits found isEmpty).mp
              after)]
          rfl
    | some other =>
        have merged : Merged _ _ (r.mergedPending order data index) :=
          loose.merged nonempty fits
        have unchanged : other = fragment :=
          Option.some.inj
            ((merged.lookup_of_after key other after).symm.trans found)
        subst other
        by_cases isEmpty : fragment = []
        · subst fragment
          simp
        · rw [if_neg]
          · rfl
          · intro touches
            have gone :=
              (loose.absorbed_iff order nonempty fits
                found isEmpty).mpr touches
            rw [gone] at after
            cases after

/--
Storing keeps the merged fragments when nothing is too much or no key was
stored before, and otherwise shortens the examined fragment by the excess.
-/
theorem Loose.store_cases
    (loose : r.Loose)
    (order : ScanOrder Nat Bytes)
    (nonempty : data ≠ [])
    (fits : index + data.length < 2 ^ 64) :
    ((r.excess data index = 0 ∨ r.examinedKey order = none) ∧
        (r.store order data index).reassembler =
          r.inserted order data index) ∨
      ∃ key,
        r.examinedKey order = some key ∧
          key ∈ order.keys r.reassembler ∧
          (r.store order data index).reassembler =
            shorten (r.inserted order data index) key
              (r.examinedLength data index key -
                r.excess data index) := by
  have total :
      r.excess data index =
        r.output.bufferSize +
            totalLength (r.inserted order data index) -
          r.capacity := by
    rw [excess, loose.totalLength_inserted nonempty fits]
  simp only [store_eq, discardExcess, gt_iff_lt, ← total]
  split
  · cases sorted : sortDecreasing (order.keys r.reassembler) with
    | nil =>
        refine Or.inl ⟨Or.inr ?_, rfl⟩
        rw [examinedKey, sorted]
        rfl
    | cons key rest =>
        have member : key ∈ order.keys r.reassembler := by
          rw [← mem_sortDecreasing, sorted]
          exact List.mem_cons_self
        refine Or.inr ⟨key, ?_, member, ?_⟩
        · rw [examinedKey, sorted]
          rfl
        · dsimp only
          rw [truncateFragment_eq,
            loose.inserted_length nonempty fits member]
  · exact Or.inl ⟨Or.inl (by omega), rfl⟩

end Merging

end Sponge.StreamReassembler
