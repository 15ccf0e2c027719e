import Mathlib.Data.Finset.Card
import Mathlib.Data.Fintype.EquivFin
import Sponge.UnorderedMap

namespace Sponge

/-!
# Fragments of a sequence

A fragment is a run of elements with the index of its first element.  The
module relates fragments, and maps of fragments, to the sequence they were cut
from and to the indices they cover.  It is generic in the element type.
-/

/-- Runs of elements, keyed by the index of their first element. -/
abbrev FragmentMap (α : Type) :=
  UnorderedMap Nat (List α)

variable {α : Type}

/-- The index lies inside the fragment. -/
def Spans
    (start : Nat)
    (fragment : List α)
    (index : Nat) : Prop :=
  start ≤ index ∧ index < start + fragment.length

instance
    (start : Nat)
    (fragment : List α)
    (index : Nat) :
    Decidable (Spans start fragment index) :=
  inferInstanceAs (Decidable (_ ∧ _))

theorem Spans.nonempty
    {start : Nat}
    {fragment : List α}
    {index : Nat}
    (spans : Spans start fragment index) :
    fragment ≠ [] := by
  intro isEmpty
  simp only [Spans, isEmpty, List.length_nil] at spans
  omega

/-- A longer fragment with the same start spans at least the same indices. -/
theorem Spans.longer
    {start : Nat}
    {fragment other : List α}
    {index : Nat}
    (spans : Spans start fragment index)
    (longer : fragment.length ≤ other.length) :
    Spans start other index :=
  ⟨spans.1, Nat.lt_of_lt_of_le spans.2 (Nat.add_le_add_left longer start)⟩

/-- The fragment holds the elements of the sequence at its indices. -/
def Agrees
    (sequence : List α)
    (start : Nat)
    (fragment : List α) : Prop :=
  ∀ offset,
    offset < fragment.length →
    sequence[start + offset]? = fragment[offset]?

namespace Agrees

variable {sequence : List α} {start : Nat} {fragment : List α}

/-- The empty fragment agrees with everything. -/
theorem nil
    (sequence : List α)
    (start : Nat) :
    Agrees sequence start [] := by
  intro offset inside
  simp at inside

/-- Every index of a fragment lies inside its sequence. -/
theorem index_lt
    (agrees : Agrees sequence start fragment)
    {offset : Nat}
    (inside : offset < fragment.length) :
    start + offset < sequence.length := by
  by_contra outside
  have same := agrees offset inside
  rw [List.getElem?_eq_none (by omega),
    List.getElem?_eq_getElem inside] at same
  cases same

/-- A nonempty fragment ends inside its sequence. -/
theorem end_le
    (agrees : Agrees sequence start fragment)
    (nonempty : fragment ≠ []) :
    start + fragment.length ≤ sequence.length := by
  have positive : 0 < fragment.length :=
    List.length_pos_iff.mpr nonempty
  have last : start + (fragment.length - 1) < sequence.length :=
    agrees.index_lt (by omega)
  omega

/-- An initial part of a fragment agrees. -/
theorem take
    (agrees : Agrees sequence start fragment)
    (count : Nat) :
    Agrees sequence start (fragment.take count) := by
  intro offset inside
  rw [List.length_take] at inside
  rw [List.getElem?_take_of_lt (by omega)]
  exact agrees offset (by omega)

/-- A final part of a fragment agrees at its shifted index. -/
theorem drop
    (agrees : Agrees sequence start fragment)
    (count : Nat) :
    Agrees sequence (start + count) (fragment.drop count) := by
  intro offset inside
  rw [List.length_drop] at inside
  rw [List.getElem?_drop, Nat.add_assoc]
  exact agrees (count + offset) (by omega)

/-- Extending the sequence keeps what was cut from it. -/
theorem extend
    (agrees : Agrees sequence start fragment)
    (later : List α) :
    Agrees (sequence ++ later) start fragment := by
  intro offset inside
  rw [List.getElem?_append_left (agrees.index_lt inside)]
  exact agrees offset inside

/-- A slice of the sequence agrees with it. -/
theorem of_slice
    (sequence : List α)
    (start count : Nat) :
    Agrees sequence start ((sequence.drop start).take count) := by
  intro offset inside
  rw [List.length_take] at inside
  rw [List.getElem?_take_of_lt (by omega), List.getElem?_drop]

/-- An agreeing fragment is the slice it was cut from. -/
theorem eq_slice
    (agrees : Agrees sequence start fragment) :
    fragment = (sequence.drop start).take fragment.length := by
  apply List.ext_getElem?
  intro offset
  by_cases inside : offset < fragment.length
  · rw [List.getElem?_take_of_lt inside, List.getElem?_drop]
    exact (agrees offset inside).symm
  · rw [List.getElem?_eq_none (by omega),
      List.getElem?_take_eq_none (by omega)]

/-- Appending an agreeing fragment to a prefix gives a longer prefix. -/
theorem append_take
    (agrees : Agrees sequence start fragment) :
    sequence.take start ++ fragment =
      sequence.take (start + fragment.length) := by
  rw [List.take_add, ← agrees.eq_slice]

end Agrees

/-- Some stored fragment covers the index. -/
def Covers
    (map : FragmentMap α)
    (index : Nat) : Prop :=
  ∃ start fragment,
    map.lookup start = some fragment ∧
      Spans start fragment index

/--
The stored fragments cover everything from `start` up to `stop`, where a limit
is reached or a gap begins.
-/
structure CoversUpTo
    (map : FragmentMap α)
    (start limit stop : Nat) : Prop where
  starts : start ≤ stop
  within : stop ≤ limit
  covered : ∀ index, start ≤ index → index < stop → Covers map index
  stops : stop = limit ∨ ¬ Covers map stop

theorem CoversUpTo.not_lt
    {map : FragmentMap α}
    {start limit stop other : Nat}
    (first : CoversUpTo map start limit stop)
    (second : CoversUpTo map start limit other) :
    ¬ stop < other := by
  intro before
  have within := second.within
  rcases first.stops with atLimit | gap
  · omega
  · exact gap (second.covered stop first.starts before)

/-- There is only one such place. -/
theorem CoversUpTo.unique
    {map : FragmentMap α}
    {start limit stop other : Nat}
    (first : CoversUpTo map start limit stop)
    (second : CoversUpTo map start limit other) :
    stop = other := by
  have notBefore := first.not_lt second
  have notAfter := second.not_lt first
  omega

/-- Every stored fragment agrees with the sequence. -/
def AllAgree
    (sequence : List α)
    (map : FragmentMap α) : Prop :=
  ∀ start fragment,
    map.lookup start = some fragment →
    Agrees sequence start fragment

namespace AllAgree

variable {sequence : List α} {map : FragmentMap α}

theorem empty
    (sequence : List α) :
    AllAgree sequence (∅ : FragmentMap α) := by
  intro start fragment found
  simp at found

theorem insert
    (all : AllAgree sequence map)
    {start : Nat}
    {fragment : List α}
    (agrees : Agrees sequence start fragment) :
    AllAgree sequence (map.insert start fragment) := by
  intro query other found
  rcases UnorderedMap.lookup_insert_eq_some.mp found with
    ⟨rfl, rfl⟩ | ⟨_, before⟩
  · exact agrees
  · exact all query other before

theorem erase
    (all : AllAgree sequence map)
    (start : Nat) :
    AllAgree sequence (map.erase start) := by
  intro query other found
  exact all query other
    (UnorderedMap.lookup_erase_eq_some.mp found).2

/-- The value a subscript yields agrees, absent keys included. -/
theorem subscript
    (all : AllAgree sequence map)
    (start : Nat) :
    Agrees sequence start (UnorderedMap.subscript map start []) := by
  cases found : map.lookup start with
  | none =>
      rw [UnorderedMap.subscript, found]
      exact Agrees.nil sequence start
  | some fragment =>
      rw [UnorderedMap.subscript_of_lookup found]
      exact all start fragment found

theorem extend
    (all : AllAgree sequence map)
    (later : List α) :
    AllAgree (sequence ++ later) map := by
  intro start fragment found
  exact (all start fragment found).extend later

end AllAgree

/-- No index is stored twice. -/
def Separated (map : FragmentMap α) : Prop :=
  ∀ firstKey first secondKey second,
    map.lookup firstKey = some first →
    map.lookup secondKey = some second →
    firstKey ≠ secondKey →
    ∀ index,
      Spans firstKey first index →
      ¬ Spans secondKey second index

variable {map smaller : FragmentMap α}

/-- Every fragment of the first map is a fragment of the second. -/
def Within (smaller map : FragmentMap α) : Prop :=
  ∀ key fragment,
    smaller.lookup key = some fragment →
    map.lookup key = some fragment

theorem within_erase
    (map : FragmentMap α)
    (key : Nat) :
    Within (map.erase key) map := by
  intro query fragment found
  exact (UnorderedMap.lookup_erase_eq_some.mp found).2

theorem Separated.within
    (separated : Separated map)
    (within : Within smaller map) :
    Separated smaller := by
  intro firstKey first secondKey second firstFound secondFound
  exact separated firstKey first secondKey second
    (within firstKey first firstFound)
    (within secondKey second secondFound)

section Shorten

variable {key count : Nat}

/-- Keep only the first `count` bytes of the fragment under `key`. -/
def shorten
    (map : FragmentMap α)
    (key count : Nat) : FragmentMap α :=
  map.insert key ((UnorderedMap.subscript map key []).take count)

theorem shorten_lookup_self :
    (shorten map key count).lookup key =
      some ((UnorderedMap.subscript map key []).take count) :=
  AList.lookup_insert map

theorem shorten_lookup_of_ne
    {query : Nat}
    (different : query ≠ key) :
    (shorten map key count).lookup query = map.lookup query :=
  AList.lookup_insert_ne different

/-- A fragment of the shortened map begins a fragment of the original. -/
theorem lookup_of_shorten
    {query : Nat}
    {fragment : List α}
    (found : (shorten map key count).lookup query = some fragment)
    (nonempty : fragment ≠ []) :
    ∃ original,
      map.lookup query = some original ∧
        fragment.length ≤ original.length := by
  by_cases same : query = key
  · subst query
    rw [shorten_lookup_self] at found
    have shape := Option.some.inj found
    subst fragment
    cases stored : map.lookup key with
    | none =>
        simp [UnorderedMap.subscript, stored] at nonempty
    | some original =>
        rw [UnorderedMap.subscript_of_lookup stored]
        exact ⟨original, rfl, by
          rw [List.length_take]
          omega⟩
  · rw [shorten_lookup_of_ne same] at found
    exact ⟨fragment, found, Nat.le_refl _⟩

theorem covers_of_shorten
    {index : Nat}
    (covers : Covers (shorten map key count) index) :
    Covers map index := by
  obtain ⟨query, fragment, found, spans⟩ := covers
  obtain ⟨original, stored, longer⟩ :=
    lookup_of_shorten found spans.nonempty
  exact ⟨query, original, stored, spans.longer longer⟩

/-- Only indices past the kept part of the fragment are lost. -/
theorem covers_shorten
    {index : Nat}
    (covers : Covers map index)
    (kept :
      ¬ (key + count ≤ index ∧
        index < key + (UnorderedMap.subscript map key []).length)) :
    Covers (shorten map key count) index := by
  obtain ⟨query, fragment, found, spans⟩ := covers
  by_cases same : query = key
  · subst query
    rw [UnorderedMap.subscript_of_lookup found] at kept
    refine ⟨key, _, shorten_lookup_self, ?_⟩
    rw [UnorderedMap.subscript_of_lookup found]
    simp only [Spans, List.length_take] at spans ⊢
    omega
  · exact ⟨query, fragment,
      (shorten_lookup_of_ne same).trans found, spans⟩

theorem Separated.shorten
    (separated : Separated map) :
    Separated (shorten map key count) := by
  intro firstKey first secondKey second firstFound secondFound
    different index firstSpans secondSpans
  obtain ⟨firstOriginal, firstStored, firstLonger⟩ :=
    lookup_of_shorten firstFound firstSpans.nonempty
  obtain ⟨secondOriginal, secondStored, secondLonger⟩ :=
    lookup_of_shorten secondFound secondSpans.nonempty
  exact separated firstKey firstOriginal secondKey secondOriginal
    firstStored secondStored different index
    (firstSpans.longer firstLonger) (secondSpans.longer secondLonger)

theorem AllAgree.shorten
    {sequence : List α}
    (all : AllAgree sequence map)
    (key count : Nat) :
    AllAgree sequence (shorten map key count) :=
  all.insert ((all.subscript key).take count)

end Shorten

section Indices

/-- The total length of all stored fragments. -/
def totalLength (map : FragmentMap α) : Nat :=
  UnorderedMap.weight (fun _ fragment => fragment.length) map

/-- The indices of one fragment, in order. -/
def fragmentIndices
    (start : Nat)
    (fragment : List α) : List Nat :=
  List.range' start fragment.length

theorem mem_fragmentIndices
    {start : Nat}
    {fragment : List α}
    {index : Nat} :
    index ∈ fragmentIndices start fragment ↔
      Spans start fragment index := by
  simp only [fragmentIndices, List.mem_range'_1, Spans]

/-- The set of indices a map covers. -/
def storedIndices (map : FragmentMap α) : Finset Nat :=
  (map.entries.flatMap fun entry =>
    fragmentIndices entry.1 entry.2).toFinset

theorem mem_storedIndices
    {index : Nat} :
    index ∈ storedIndices map ↔ Covers map index := by
  simp only [storedIndices, List.mem_toFinset, List.mem_flatMap,
    mem_fragmentIndices]
  constructor
  · rintro ⟨⟨start, fragment⟩, member, spans⟩
    exact ⟨start, fragment, AList.mem_lookup_iff.mpr member, spans⟩
  · rintro ⟨start, fragment, found, spans⟩
    exact ⟨⟨start, fragment⟩, AList.mem_lookup_iff.mp found, spans⟩

instance
    (map : FragmentMap α)
    (index : Nat) :
    Decidable (Covers map index) :=
  decidable_of_iff (index ∈ storedIndices map) mem_storedIndices

/-- Disjoint fragments list every covered index once. -/
theorem Separated.nodup_indices
    (separated : Separated map) :
    (map.entries.flatMap fun entry =>
      fragmentIndices entry.1 entry.2).Nodup := by
  rw [List.nodup_flatMap]
  refine ⟨fun entry _ => List.nodup_range', ?_⟩
  have distinct : map.entries.Pairwise fun first second =>
      first.1 ≠ second.1 :=
    List.nodupKeys_iff_pairwise.mp map.nodupKeys
  refine distinct.imp_of_mem ?_
  intro first second firstMember secondMember different index
  simp only [mem_fragmentIndices]
  exact separated first.1 first.2 second.1 second.2
    (AList.mem_lookup_iff.mpr firstMember)
    (AList.mem_lookup_iff.mpr secondMember)
    different index

/-- The total length of disjoint fragments is the number of covered indices. -/
theorem Separated.card_storedIndices
    (separated : Separated map) :
    (storedIndices map).card = totalLength map := by
  rw [storedIndices,
    List.toFinset_card_of_nodup separated.nodup_indices,
    List.length_flatMap]
  simp only [fragmentIndices, List.length_range', totalLength,
    UnorderedMap.weight]

end Indices

/-- Shortening a fragment reduces the total length by what is cut off. -/
theorem totalLength_shorten
    (map : FragmentMap α)
    (key count : Nat) :
    totalLength (shorten map key count) +
        ((UnorderedMap.subscript map key []).length - count) =
      totalLength map := by
  have inserted :
      totalLength (shorten map key count) =
        ((UnorderedMap.subscript map key []).take count).length +
          totalLength (map.erase key) :=
    UnorderedMap.weight_insert map key _
  rw [inserted, List.length_take]
  cases found : map.lookup key with
  | none =>
      have total : totalLength (map.erase key) = totalLength map :=
        UnorderedMap.weight_erase_of_absent found
      simp only [UnorderedMap.subscript, found, Option.getD_none,
        List.length_nil]
      omega
  | some fragment =>
      have total :
          totalLength (map.erase key) + fragment.length =
            totalLength map :=
        UnorderedMap.weight_erase found
      rw [UnorderedMap.subscript_of_lookup found]
      omega

section Missing

/-- The length of the longest initial run of indices in a set. -/
def firstMissing (indices : Finset Nat) : Nat :=
  Nat.find (Infinite.exists_notMem_finset indices)

theorem firstMissing_eq
    {indices : Finset Nat}
    {count : Nat}
    (below : ∀ index, index < count → index ∈ indices)
    (missing : count ∉ indices) :
    firstMissing indices = count :=
  (Nat.find_eq_iff _).mpr
    ⟨missing, fun index before => not_not.mpr (below index before)⟩

end Missing

section Hull

/-- The first index of a range joined with some fragments. -/
def hullStart
    (start : Nat)
    (fragments : List (Sigma fun _ : Nat => List α)) : Nat :=
  (fragments.map Sigma.fst).foldl min start

/-- The index past the end of a range joined with some fragments. -/
def hullEnd
    (stop : Nat)
    (fragments : List (Sigma fun _ : Nat => List α)) : Nat :=
  (fragments.map fun entry => entry.1 + entry.2.length).foldl max stop

theorem le_hullStart_iff
    {start bound : Nat}
    {fragments : List (Sigma fun _ : Nat => List α)} :
    bound ≤ hullStart start fragments ↔
      bound ≤ start ∧ ∀ entry ∈ fragments, bound ≤ entry.1 := by
  induction fragments generalizing start with
  | nil =>
      simp [hullStart]
  | cons entry rest inductionHypothesis =>
      have unfolded :
          hullStart start (entry :: rest) =
            hullStart (min start entry.1) rest :=
        rfl
      rw [unfolded, inductionHypothesis, List.forall_mem_cons,
        Nat.le_min, and_assoc]

theorem hullEnd_le_iff
    {stop bound : Nat}
    {fragments : List (Sigma fun _ : Nat => List α)} :
    hullEnd stop fragments ≤ bound ↔
      stop ≤ bound ∧
        ∀ entry ∈ fragments, entry.1 + entry.2.length ≤ bound := by
  induction fragments generalizing stop with
  | nil =>
      simp [hullEnd]
  | cons entry rest inductionHypothesis =>
      have unfolded :
          hullEnd stop (entry :: rest) =
            hullEnd (max stop (entry.1 + entry.2.length)) rest :=
        rfl
      rw [unfolded, inductionHypothesis, List.forall_mem_cons,
        Nat.max_le, and_assoc]

end Hull

end Sponge
