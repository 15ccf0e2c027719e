import Sponge.Execution
import Sponge.StreamReassemblerAssembly

namespace Sponge

/-!
# Merging a substring into the stored fragments

`mergeSubstrings` is described index by index, and the loop over the stored
keys by what it leaves: a pending substring that grew by exactly the fragments
it overlapped, and the fragments it did not touch.
-/

section Overwrite

theorem overwrite_length
    {buffer str : Bytes}
    {position : Nat}
    (fits : position + str.length ≤ buffer.length) :
    (overwrite buffer position str).length = buffer.length := by
  simp only [overwrite, List.length_append, List.length_take,
    List.length_drop]
  omega

theorem overwrite_getElem?_of_mem
    {buffer str : Bytes}
    {position offset : Nat}
    (fits : position + str.length ≤ buffer.length)
    (after : position ≤ offset)
    (before : offset < position + str.length) :
    (overwrite buffer position str)[offset]? =
      str[offset - position]? := by
  have leading : (buffer.take position).length = position := by
    rw [List.length_take]
    omega
  rw [overwrite, List.append_assoc,
    List.getElem?_append_right (by omega), leading,
    List.getElem?_append_left (by omega)]

theorem overwrite_getElem?_of_notMem
    {buffer str : Bytes}
    {position offset : Nat}
    (fits : position + str.length ≤ buffer.length)
    (outside : offset < position ∨ position + str.length ≤ offset) :
    (overwrite buffer position str)[offset]? = buffer[offset]? := by
  have leading : (buffer.take position).length = position := by
    rw [List.length_take]
    omega
  rcases outside with before | after
  · rw [overwrite, List.append_assoc,
      List.getElem?_append_left (by omega),
      List.getElem?_take_of_lt before]
  · rw [overwrite, List.getElem?_append_right (by
        rw [List.length_append]
        omega),
      List.getElem?_drop, List.length_append, leading]
    congr 1
    omega

end Overwrite

/-- Two substrings whose union is one range of 64-bit indices. -/
structure Mergeable
    (str1 : Bytes)
    (index1 : Nat)
    (str2 : Bytes)
    (index2 : Nat) : Prop where
  firstFits : index1 + str1.length < 2 ^ 64
  secondFits : index2 + str2.length < 2 ^ 64
  firstReaches : index2 ≤ index1 + str1.length
  secondReaches : index1 ≤ index2 + str2.length

namespace Mergeable

variable {str1 str2 : Bytes} {index1 index2 : Nat}

/-- The buffer allocated for the combination has exactly the union's length. -/
theorem combinedLength
    (mergeable : Mergeable str1 index1 str2 index2) :
    sub64
        (max ((index1 + str1.length) % 2 ^ 64)
          ((index2 + str2.length) % 2 ^ 64))
        (min index1 index2) =
      max (index1 + str1.length) (index2 + str2.length) -
        min index1 index2 := by
  rw [Nat.mod_eq_of_lt mergeable.firstFits,
    Nat.mod_eq_of_lt mergeable.secondFits, sub64_of_le (by omega)]

theorem length
    (mergeable : Mergeable str1 index1 str2 index2) :
    (mergeSubstrings str1 index1 str2 index2).length =
      max (index1 + str1.length) (index2 + str2.length) -
        min index1 index2 := by
  simp only [mergeSubstrings, mergeable.combinedLength]
  rw [overwrite_length, overwrite_length, List.length_replicate]
  · rw [List.length_replicate]
    omega
  · rw [overwrite_length, List.length_replicate]
    · omega
    · rw [List.length_replicate]
      omega

/-- The combination spans exactly the indices of its two parts. -/
theorem spans_iff
    (mergeable : Mergeable str1 index1 str2 index2)
    {index : Nat} :
    Spans (min index2 index1)
        (mergeSubstrings str1 index1 str2 index2) index ↔
      Spans index1 str1 index ∨ Spans index2 str2 index := by
  have first := mergeable.firstReaches
  have second := mergeable.secondReaches
  simp only [Spans, mergeable.length]
  omega

/-- Every byte of the combination comes from one of its parts. -/
theorem agrees
    (mergeable : Mergeable str1 index1 str2 index2)
    {sequence : Bytes}
    (firstAgrees : Agrees sequence index1 str1)
    (secondAgrees : Agrees sequence index2 str2) :
    Agrees sequence (min index2 index1)
      (mergeSubstrings str1 index1 str2 index2) := by
  have first := mergeable.firstReaches
  have second := mergeable.secondReaches
  intro offset inside
  rw [mergeable.length] at inside
  simp only [mergeSubstrings, mergeable.combinedLength]
  have innerFits :
      index1 - min index1 index2 + str1.length ≤
        (List.replicate
          (max (index1 + str1.length) (index2 + str2.length) -
            min index1 index2) (0 : UInt8)).length := by
    rw [List.length_replicate]
    omega
  have outerFits :
      index2 - min index1 index2 + str2.length ≤
        (overwrite
          (List.replicate
            (max (index1 + str1.length) (index2 + str2.length) -
              min index1 index2) (0 : UInt8))
          (index1 - min index1 index2) str1).length := by
    rw [overwrite_length innerFits, List.length_replicate]
    omega
  by_cases inSecond :
      index2 ≤ min index1 index2 + offset ∧
        min index1 index2 + offset < index2 + str2.length
  · rw [overwrite_getElem?_of_mem outerFits (by omega) (by omega)]
    have same :=
      secondAgrees (offset - (index2 - min index1 index2)) (by omega)
    rw [← same]
    congr 1
    omega
  · -- outside the second part the union leaves only the first
    rw [overwrite_getElem?_of_notMem outerFits (by omega),
      overwrite_getElem?_of_mem innerFits (by omega) (by omega)]
    have same :=
      firstAgrees (offset - (index1 - min index1 index2)) (by omega)
    rw [← same]
    congr 1
    omega

end Mergeable

namespace StreamReassembler

namespace Pending

/-- The pending substring is nonempty and stays below the last index. -/
structure Fits (pending : Pending) : Prop where
  nonempty : pending.copyData ≠ []
  bound : pending.copyIndex + pending.copyData.length < 2 ^ 64

/-- The indices of the pending substring. -/
def Holds
    (pending : Pending)
    (index : Nat) : Prop :=
  Spans pending.copyIndex pending.copyData index

end Pending

/-- Every stored fragment stays below the last 64-bit index. -/
def AllBounded (map : FragmentMap UInt8) : Prop :=
  ∀ key fragment,
    map.lookup key = some fragment →
    Bounded key fragment

/-- The test of the merge loop, on the ranges it compares. -/
def Touches
    (pending : Pending)
    (key : Nat)
    (fragment : Bytes) : Prop :=
  key < pending.copyIndex + pending.copyData.length ∧
    pending.copyIndex < key + fragment.length

/-- Either the fragment is disjoint and stays, or it is merged and erased. -/
theorem absorb_cases
    {pending : Pending}
    (fits : pending.Fits)
    {key : Nat}
    {fragment : Bytes}
    (found : pending.reassembler.lookup key = some fragment)
    (bounded : Bounded key fragment) :
    (¬ Touches pending key fragment ∧ absorb pending key = pending) ∨
      (Touches pending key fragment ∧
        absorb pending key = {
          copyData :=
            mergeSubstrings pending.copyData pending.copyIndex
              fragment key
          copyIndex := min key pending.copyIndex
          reassembler := pending.reassembler.erase key
        }) := by
  have positive : 0 < pending.copyData.length :=
    List.length_pos_iff.mpr fits.nonempty
  have pendingLast :
      lastIndex pending.copyIndex pending.copyData.length =
        pending.copyIndex + pending.copyData.length - 1 :=
    lastIndex_eq (by omega) fits.bound
  have fragmentLast := lastIndex_eq bounded.1 bounded.2
  have value :
      UnorderedMap.subscript pending.reassembler key [] = fragment :=
    UnorderedMap.subscript_of_lookup found []
  have nonzero := bounded.1
  unfold absorb Touches
  simp only [value, pendingLast, fragmentLast]
  by_cases apart :
      pending.copyIndex + pending.copyData.length - 1 < key ∨
        key + fragment.length - 1 < pending.copyIndex
  · exact Or.inl ⟨by omega, if_pos apart⟩
  · exact Or.inr ⟨by omega, if_neg apart⟩

/-- Touching ranges can be combined. -/
theorem Touches.mergeable
    {pending : Pending}
    {key : Nat}
    {fragment : Bytes}
    (touches : Touches pending key fragment)
    (fits : pending.Fits)
    (bounded : Bounded key fragment) :
    Mergeable pending.copyData pending.copyIndex fragment key :=
  ⟨fits.bound, bounded.2, Nat.le_of_lt touches.1,
    Nat.le_of_lt touches.2⟩

/-- What absorbing one stored fragment does, as ranges and as bytes. -/
structure AbsorbStep
    (pending next : Pending)
    (key : Nat)
    (fragment : Bytes) : Prop where
  fits : next.Fits
  lookup_other :
    ∀ query,
      query ≠ key →
      next.reassembler.lookup query = pending.reassembler.lookup query
  outcome :
    (¬ Touches pending key fragment ∧ next = pending) ∨
      (Touches pending key fragment ∧
        next.reassembler.lookup key = none ∧
        ∀ index,
          next.Holds index ↔
            pending.Holds index ∨ Spans key fragment index)
  agrees :
    ∀ sequence,
      Agrees sequence pending.copyIndex pending.copyData →
      Agrees sequence key fragment →
      Agrees sequence next.copyIndex next.copyData

theorem absorb_step
    {pending : Pending}
    (fits : pending.Fits)
    {key : Nat}
    {fragment : Bytes}
    (found : pending.reassembler.lookup key = some fragment)
    (bounded : Bounded key fragment) :
    AbsorbStep pending (absorb pending key) key fragment := by
  rcases absorb_cases fits found bounded with
    ⟨apart, unchanged⟩ | ⟨touches, merged⟩
  · rw [unchanged]
    exact {
      fits := fits
      lookup_other := fun _ _ => rfl
      outcome := Or.inl ⟨apart, rfl⟩
      agrees := fun _ pendingAgrees _ => pendingAgrees
    }
  · have mergeable := touches.mergeable fits bounded
    have length := mergeable.length
    have positive : 0 < pending.copyData.length :=
      List.length_pos_iff.mpr fits.nonempty
    rw [merged]
    refine {
      fits := ⟨?_, ?_⟩
      lookup_other := ?_
      outcome := Or.inr ⟨touches, ?_, ?_⟩
      agrees := ?_
    }
    · apply List.length_pos_iff.mp
      simp only [length]
      omega
    · have pendingBound := fits.bound
      have fragmentBound := bounded.2
      simp only [length]
      omega
    · intro query different
      exact AList.lookup_erase_ne different
    · exact AList.lookup_erase key _
    · intro index
      exact mergeable.spans_iff
    · intro sequence pendingAgrees fragmentAgrees
      exact mergeable.agrees pendingAgrees fragmentAgrees

/-- The fragment under `key` was merged into the pending substring. -/
def Absorbed
    (before after : Pending)
    (key : Nat)
    (fragment : Bytes) : Prop :=
  before.reassembler.lookup key = some fragment ∧
    after.reassembler.lookup key = none

/-- What the loop over the stored keys leaves of a pending substring. -/
structure Merged
    (keys : List Nat)
    (before after : Pending) : Prop where
  fits : after.Fits
  lookup_of_after :
    ∀ key fragment,
      after.reassembler.lookup key = some fragment →
      before.reassembler.lookup key = some fragment
  lookup_unvisited :
    ∀ key,
      key ∉ keys →
      after.reassembler.lookup key = before.reassembler.lookup key
  holds_iff :
    ∀ index,
      after.Holds index ↔
        before.Holds index ∨
          ∃ key fragment,
            Absorbed before after key fragment ∧
              Spans key fragment index
  touched :
    ∀ key fragment,
      Absorbed before after key fragment →
      Touches before key fragment ∨
        fragment = []
  apart :
    ∀ key fragment,
      key ∈ keys →
      after.reassembler.lookup key = some fragment →
      ∀ index,
        after.Holds index →
        ¬ Spans key fragment index
  agrees :
    ∀ sequence,
      Agrees sequence before.copyIndex before.copyData →
      AllAgree sequence before.reassembler →
      Agrees sequence after.copyIndex after.copyData

theorem Merged.nil
    {pending : Pending}
    (fits : pending.Fits) :
    Merged [] pending pending where
  fits := fits
  lookup_of_after := fun _ _ found => found
  lookup_unvisited := fun _ _ => rfl
  holds_iff := by
    intro index
    constructor
    · exact Or.inl
    · rintro (held | ⟨key, fragment, ⟨found, gone⟩, _⟩)
      · exact held
      · rw [found] at gone
        cases gone
  touched := by
    rintro key fragment ⟨found, gone⟩
    rw [found] at gone
    cases gone
  apart := by
    intro key fragment member
    simp at member
  agrees := fun _ pendingAgrees _ => pendingAgrees

/-- A common index makes a fragment touch the pending substring. -/
theorem touches_of_common
    {pending : Pending}
    {key : Nat}
    {fragment : Bytes}
    {index : Nat}
    (held : pending.Holds index)
    (spans : Spans key fragment index) :
    Touches pending key fragment := by
  have pendingRange := held
  simp only [Pending.Holds, Spans] at pendingRange spans
  constructor <;> omega

/-- A nonempty fragment that touches shares an index. -/
theorem Touches.common
    {pending : Pending}
    {key : Nat}
    {fragment : Bytes}
    (touches : Touches pending key fragment)
    (fits : pending.Fits)
    (nonempty : fragment ≠ []) :
    ∃ index,
      pending.Holds index ∧ Spans key fragment index := by
  have pendingLength := List.length_pos_iff.mpr fits.nonempty
  have fragmentLength := List.length_pos_iff.mpr nonempty
  obtain ⟨first, second⟩ := touches
  refine ⟨max key pending.copyIndex, ?_, ?_⟩
  · simp only [Pending.Holds, Spans]
    omega
  · simp only [Spans]
    omega

namespace AbsorbStep

variable {pending next : Pending} {key : Nat} {fragment : Bytes}

/-- Nothing is added to the map by absorbing. -/
theorem lookup_of_next
    (step : AbsorbStep pending next key fragment)
    {query : Nat}
    {found : Bytes}
    (stored : next.reassembler.lookup query = some found) :
    pending.reassembler.lookup query = some found := by
  by_cases same : query = key
  · subst query
    rcases step.outcome with ⟨_, unchanged⟩ | ⟨_, gone, _⟩
    · rwa [unchanged] at stored
    · rw [gone] at stored
      cases stored
  · rwa [step.lookup_other query same] at stored

end AbsorbStep

section Cons

variable {pending next final : Pending}
variable {key : Nat} {fragment : Bytes} {rest : List Nat}

/-- Away from the key, being absorbed from either state is the same. -/
theorem AbsorbStep.absorbed_elsewhere
    (step : AbsorbStep pending next key fragment)
    {query : Nat}
    (different : query ≠ key)
    (other : Bytes) :
    Absorbed pending final query other ↔
      Absorbed next final query other := by
  simp only [Absorbed, step.lookup_other query different]

/-- An absorbed fragment is the one at the key or absorbed later. -/
theorem AbsorbStep.absorbed_cases
    (step : AbsorbStep pending next key fragment)
    (found : pending.reassembler.lookup key = some fragment)
    {query : Nat}
    {other : Bytes}
    (absorbed : Absorbed pending final query other) :
    (query = key ∧ other = fragment) ∨
      (query ≠ key ∧ Absorbed next final query other) := by
  by_cases same : query = key
  · subst query
    exact Or.inl
      ⟨rfl, Option.some.inj (absorbed.1.symm.trans found)⟩
  · exact Or.inr
      ⟨same, (step.absorbed_elsewhere same other).mp absorbed⟩

variable (found : pending.reassembler.lookup key = some fragment)
variable (step : AbsorbStep pending next key fragment)
variable (merged : Merged rest next final)

include found step merged

/-- The merged indices are those pending and those absorbed. -/
theorem Merged.cons_holds_iff
    (fresh : key ∉ rest)
    (index : Nat) :
    final.Holds index ↔
      pending.Holds index ∨
        ∃ query other,
          Absorbed pending final query other ∧
            Spans query other index := by
  rw [merged.holds_iff index]
  rcases step.outcome with ⟨_, unchanged⟩ | ⟨_, gone, grown⟩
  · rw [unchanged]
  · rw [grown index]
    constructor
    · rintro ((held | spans) | ⟨query, other, absorbed, spans⟩)
      · exact Or.inl held
      · exact Or.inr ⟨key, fragment,
          ⟨found, (merged.lookup_unvisited key fresh).trans gone⟩, spans⟩
      · exact Or.inr ⟨query, other,
          ⟨step.lookup_of_next absorbed.1, absorbed.2⟩, spans⟩
    · rintro (held | ⟨query, other, absorbed, spans⟩)
      · exact Or.inl (Or.inl held)
      · rcases step.absorbed_cases found absorbed with
          ⟨rfl, rfl⟩ | ⟨_, later⟩
        · exact Or.inl (Or.inr spans)
        · exact Or.inr ⟨query, other, later, spans⟩

/-- What is absorbed touches the substring as it was at first. -/
theorem Merged.cons_touched
    (separated : Separated pending.reassembler)
    (query : Nat)
    (other : Bytes)
    (absorbed : Absorbed pending final query other) :
    Touches pending query other ∨ other = [] := by
  rcases step.outcome with ⟨_, unchanged⟩ | ⟨touches, _, grown⟩
  · rw [unchanged] at merged
    exact merged.touched query other absorbed
  · rcases step.absorbed_cases found absorbed with
      ⟨rfl, rfl⟩ | ⟨different, later⟩
    · exact Or.inl touches
    · by_cases isEmpty : other = []
      · exact Or.inr isEmpty
      · have touchesNext :=
          (merged.touched query other later).resolve_right isEmpty
        -- the common index cannot lie in the fragment absorbed first
        obtain ⟨index, held, spans⟩ :=
          touchesNext.common step.fits isEmpty
        rcases (grown index).mp held with before | inFragment
        · exact Or.inl (touches_of_common before spans)
        · exact
            (separated query other key fragment absorbed.1
              found different index spans inFragment).elim

/-- A fragment left at the key shares no index with the result. -/
theorem Merged.cons_apart
    (fresh : key ∉ rest)
    (separated : Separated pending.reassembler)
    {left : Bytes}
    (stored : final.reassembler.lookup key = some left)
    {index : Nat}
    (held : final.Holds index) :
    ¬ Spans key left index := by
  intro spans
  have finalAtKey := merged.lookup_unvisited key fresh
  rw [finalAtKey] at stored
  rcases step.outcome with ⟨untouched, unchanged⟩ | ⟨_, gone, _⟩
  · rw [unchanged] at stored merged
    have sameFragment : left = fragment :=
      Option.some.inj (stored.symm.trans found)
    subst left
    rcases (merged.holds_iff index).mp held with
      before | ⟨query, other, absorbed, otherSpans⟩
    · exact untouched (touches_of_common before spans)
    · have different : query ≠ key := by
        intro same
        subst query
        have survives := absorbed.2
        rw [finalAtKey, unchanged, found] at survives
        cases survives
      exact separated query other key fragment
        absorbed.1 found different index otherSpans spans
  · rw [gone] at stored
    cases stored

/-- Visiting one more key first keeps the description of the merge loop. -/
theorem Merged.cons
    (fresh : key ∉ rest)
    (separated : Separated pending.reassembler) :
    Merged (key :: rest) pending final where
  fits := merged.fits
  lookup_of_after := fun query other stored =>
    step.lookup_of_next (merged.lookup_of_after query other stored)
  lookup_unvisited := by
    intro query unvisited
    rw [List.mem_cons, not_or] at unvisited
    rw [merged.lookup_unvisited query unvisited.2,
      step.lookup_other query unvisited.1]
  holds_iff := merged.cons_holds_iff found step fresh
  touched := merged.cons_touched found step separated
  apart := by
    intro query other member stored index held
    rcases List.mem_cons.mp member with rfl | inRest
    · exact merged.cons_apart found step fresh separated stored held
    · exact merged.apart query other inRest stored index held
  agrees := by
    intro sequence pendingAgrees allAgree
    apply merged.agrees sequence
    · exact step.agrees sequence pendingAgrees
        (allAgree key fragment found)
    · intro query other stored
      exact allAgree query other (step.lookup_of_next stored)

end Cons

/-- The merge loop over all stored keys. -/
theorem absorbAll_merged
    {keys : List Nat}
    {pending : Pending}
    (fits : pending.Fits)
    (bounded : AllBounded pending.reassembler)
    (separated : Separated pending.reassembler)
    (distinct : keys.Nodup)
    (present : ∀ key ∈ keys, key ∈ pending.reassembler) :
    Merged keys pending (keys.foldl absorb pending) := by
  induction keys generalizing pending with
  | nil =>
      exact Merged.nil fits
  | cons key rest inductionHypothesis =>
      rw [List.nodup_cons] at distinct
      have member := present key (by simp)
      obtain ⟨fragment, found⟩ :=
        Option.isSome_iff_exists.mp (AList.lookup_isSome.mpr member)
      have step := absorb_step fits found (bounded key fragment found)
      refine Merged.cons found step ?_ distinct.1 separated
      apply inductionHypothesis step.fits
      · intro query other stored
        exact bounded query other (step.lookup_of_next stored)
      · intro firstKey first secondKey second firstFound secondFound
        exact separated firstKey first secondKey second
          (step.lookup_of_next firstFound)
          (step.lookup_of_next secondFound)
      · exact distinct.2
      · intro later laterMember
        have different : later ≠ key := by
          intro same
          exact distinct.1 (same ▸ laterMember)
        rw [← AList.lookup_isSome,
          step.lookup_other later different, AList.lookup_isSome]
        exact present later (by simp [laterMember])

end StreamReassembler

end Sponge
