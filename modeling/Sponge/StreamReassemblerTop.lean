import Sponge.StreamReassemblerLayout

namespace Sponge.StreamReassembler

/-!
# Fragments at the last 64-bit index

An index computed as `0 - 1` is the last one that 64 bits can hold.  A fragment
stored there wraps around as soon as it has a second byte, and every test of the
reassembler that adds its length compares the wrapped sum.  The results below
say what becomes of such a fragment: it meets no other one, is never assembled,
and stays unless the shortening loop happens to examine it.
-/

/-- The last 64-bit index. -/
def topIndex : Nat :=
  2 ^ 64 - 1

/-- The fragment lies at the last index, or ends before it. -/
def Placed
    (key : Nat)
    (fragment : Bytes) : Prop :=
  (key = topIndex ∧ fragment.length < topIndex) ∨
    key + fragment.length < topIndex

section LastIndex

/-- From the last index on, only a single byte ends at it. -/
theorem lastIndex_top_lt
    {length : Nat}
    (small : length < topIndex)
    (notOne : length ≠ 1) :
    lastIndex topIndex length < topIndex := by
  unfold topIndex at *
  by_cases empty : length = 0
  · subst length
    rw [lastIndex_eq (by decide) (by decide)]
    decide
  · have wrapped : (2 ^ 64 - 1 + length) % 2 ^ 64 = length - 1 := by
      omega
    rw [lastIndex, wrapped, sub64_of_le (by omega)]
    omega

theorem lastIndex_top_one :
    lastIndex topIndex 1 = topIndex := by
  decide

/-- Below it nothing wraps. -/
theorem lastIndex_below
    {index length : Nat}
    (positive : 0 < index + length)
    (below : index + length < topIndex) :
    lastIndex index length = index + length - 1 := by
  refine lastIndex_eq positive (Nat.lt_trans below ?_)
  decide

end LastIndex

theorem Placed.key_le
    {key : Nat}
    {fragment : Bytes}
    (placed : Placed key fragment) :
    key ≤ topIndex := by
  rcases placed with ⟨atTop, _⟩ | below
  · exact Nat.le_of_eq atTop
  · omega

theorem Placed.shorter
    {key : Nat}
    {fragment shorter : Bytes}
    (placed : Placed key fragment)
    (short : shorter.length ≤ fragment.length) :
    Placed key shorter := by
  rcases placed with ⟨atTop, small⟩ | below
  · exact Or.inl ⟨atTop, Nat.lt_of_le_of_lt short small⟩
  · exact Or.inr (by omega)

/-- What is found under an allowed key, present or not. -/
theorem placed_subscript
    {map : FragmentMap UInt8}
    {key : Nat}
    (stored :
      ∀ query fragment,
        map.lookup query = some fragment →
        Placed query fragment)
    (bound : key ≤ topIndex) :
    Placed key (UnorderedMap.subscript map key []) := by
  cases found : map.lookup key with
  | some fragment =>
      rw [UnorderedMap.subscript_of_lookup found]
      exact stored key fragment found
  | none =>
      rw [UnorderedMap.subscript, found, Option.getD_none]
      rcases Nat.lt_or_eq_of_le bound with below | atTop
      · exact Or.inr below
      · exact Or.inl ⟨atTop, by decide⟩

section Absorb

/--
The pending substring has bytes, it and all fragments are placed, and no
fragment starts the stream.
-/
structure Pending.Confined (pending : Pending) : Prop where
  nonempty : pending.copyData ≠ []
  placed : Placed pending.copyIndex pending.copyData
  stored :
    ∀ key fragment,
      pending.reassembler.lookup key = some fragment →
      0 < key ∧ Placed key fragment

variable {pending : Pending} {key : Nat}

theorem Pending.Confined.placed_subscript
    (confined : pending.Confined)
    (bound : key ≤ topIndex) :
    Placed key (UnorderedMap.subscript pending.reassembler key []) :=
  StreamReassembler.placed_subscript
    (fun query fragment found =>
      (confined.stored query fragment found).2)
    bound

/-- A substring at the last index passes by every fragment below it. -/
theorem Pending.Confined.absorb_top_below
    (confined : pending.Confined)
    (atTop : pending.copyIndex = topIndex)
    (positive : 0 < key)
    (below : key < topIndex) :
    absorb pending key = pending := by
  have placed := confined.placed_subscript (Nat.le_of_lt below)
  rcases placed with ⟨impossible, _⟩ | inside
  · omega
  · have last :=
      lastIndex_below (Nat.add_pos_left positive _) inside
    unfold absorb
    dsimp only
    rw [if_pos (Or.inr ?_)]
    rw [last, atTop]
    omega

/-- A substring below the last index passes by a fragment at it. -/
theorem Pending.Confined.absorb_below_top
    (confined : pending.Confined)
    (below :
      pending.copyIndex + pending.copyData.length < topIndex)
    (atTop : key = topIndex) :
    absorb pending key = pending := by
  have positive := List.length_pos_iff.mpr confined.nonempty
  have last := lastIndex_below (Nat.add_pos_right _ positive) below
  unfold absorb
  dsimp only
  rw [if_pos (Or.inl ?_)]
  rw [last, atTop]
  omega

/-- Two single bytes at the last index: the stored one stays. -/
theorem mergeSubstrings_top
    (first second : UInt8) :
    mergeSubstrings [first] topIndex [second] topIndex = [second] := by
  simp only [mergeSubstrings, List.length_singleton, Nat.min_self,
    Nat.sub_self]
  rfl

/-- Two substrings at the last index are merged only if both are one byte. -/
theorem Pending.Confined.absorb_top_top
    (confined : pending.Confined)
    (atTop : pending.copyIndex = topIndex) :
    absorb pending topIndex = pending ∨
      ∃ byte,
        pending.copyData.length = 1 ∧
        absorb pending topIndex = {
          copyData := [byte]
          copyIndex := topIndex
          reassembler := pending.reassembler.erase topIndex } := by
  generalize value :
    UnorderedMap.subscript pending.reassembler topIndex [] = fragment
  have fragmentPlaced := confined.placed_subscript (Nat.le_refl topIndex)
  rw [value] at fragmentPlaced
  have fragmentSmall : fragment.length < topIndex := by
    rcases fragmentPlaced with ⟨_, small⟩ | impossible
    · exact small
    · omega
  have dataSmall : pending.copyData.length < topIndex := by
    rcases confined.placed with ⟨_, small⟩ | impossible
    · exact small
    · omega
  unfold absorb
  dsimp only
  rw [value, atTop]
  by_cases fragmentOne : fragment.length = 1
  · by_cases dataOne : pending.copyData.length = 1
    · obtain ⟨first, data⟩ := List.length_eq_one_iff.mp dataOne
      obtain ⟨second, stored⟩ := List.length_eq_one_iff.mp fragmentOne
      refine Or.inr ⟨second, dataOne, ?_⟩
      rw [fragmentOne, dataOne, lastIndex_top_one, if_neg (by omega),
        data, stored, mergeSubstrings_top, Nat.min_self]
    · have apart := lastIndex_top_lt dataSmall dataOne
      exact Or.inl (if_pos (Or.inl apart))
  · have apart := lastIndex_top_lt fragmentSmall fragmentOne
    exact Or.inl (if_pos (Or.inr apart))

/-- Below the last index substrings are merged as ranges. -/
theorem Pending.Confined.absorb_below
    (confined : pending.Confined)
    (below :
      pending.copyIndex + pending.copyData.length < topIndex)
    (positive : 0 < key)
    (keyBelow : key < topIndex) :
    absorb pending key = pending ∨
      ∃ fragment,
        Mergeable pending.copyData pending.copyIndex fragment key ∧
        key + fragment.length < topIndex ∧
        absorb pending key = {
          copyData :=
            mergeSubstrings pending.copyData pending.copyIndex
              fragment key
          copyIndex := min key pending.copyIndex
          reassembler := pending.reassembler.erase key } := by
  generalize value :
    UnorderedMap.subscript pending.reassembler key [] = fragment
  have fragmentPlaced :=
    confined.placed_subscript (Nat.le_of_lt keyBelow)
  rw [value] at fragmentPlaced
  have inside : key + fragment.length < topIndex := by
    rcases fragmentPlaced with ⟨impossible, _⟩ | inside
    · omega
    · exact inside
  have nonempty := List.length_pos_iff.mpr confined.nonempty
  have pendingLast :=
    lastIndex_below (Nat.add_pos_right _ nonempty) below
  have fragmentLast :=
    lastIndex_below (Nat.add_pos_left positive _) inside
  have word : topIndex < 2 ^ 64 := by decide
  by_cases apart :
      lastIndex pending.copyIndex pending.copyData.length < key ∨
        lastIndex key fragment.length < pending.copyIndex
  · left
    unfold absorb
    dsimp only
    rw [value, if_pos apart]
  · refine Or.inr ⟨fragment, ?_, inside, ?_⟩
    · rw [pendingLast, fragmentLast] at apart
      exact ⟨by omega, by omega, by omega, by omega⟩
    · unfold absorb
      dsimp only
      rw [value, if_neg apart]

/-- Absorbing a key keeps everything placed. -/
theorem Pending.Confined.absorb
    (confined : pending.Confined)
    (positive : 0 < key)
    (bound : key ≤ topIndex) :
    (absorb pending key).Confined := by
  have erased :
      ∀ query fragment,
        (pending.reassembler.erase key).lookup query = some fragment →
        0 < query ∧ Placed query fragment := by
    intro query fragment found
    exact confined.stored query fragment
      (UnorderedMap.lookup_erase_eq_some.mp found).2
  rcases confined.placed with ⟨atTop, small⟩ | below
  · rcases Nat.lt_or_eq_of_le bound with keyBelow | keyTop
    · rw [confined.absorb_top_below atTop positive keyBelow]
      exact confined
    · subst keyTop
      rcases confined.absorb_top_top atTop with same | ⟨byte, _, merged⟩
      · rw [same]
        exact confined
      · rw [merged]
        have single : 1 < topIndex := by decide
        exact ⟨List.cons_ne_nil _ _, Or.inl ⟨rfl, single⟩, erased⟩
  · rcases Nat.lt_or_eq_of_le bound with keyBelow | keyTop
    · rcases confined.absorb_below below positive keyBelow with
        same | ⟨fragment, mergeable, inside, merged⟩
      · rw [same]
        exact confined
      · have length := mergeable.length
        have nonempty := List.length_pos_iff.mpr confined.nonempty
        rw [merged]
        refine ⟨?_, Or.inr ?_, erased⟩
        · rw [← List.length_pos_iff, length]
          omega
        · change min key pending.copyIndex + _ < topIndex
          rw [length]
          omega
    · rw [confined.absorb_below_top below keyTop]
      exact confined

theorem Pending.Confined.absorbAll
    (confined : pending.Confined)
    {keys : List Nat}
    (allowed : ∀ key ∈ keys, 0 < key ∧ key ≤ topIndex) :
    (keys.foldl StreamReassembler.absorb pending).Confined := by
  induction keys generalizing pending with
  | nil =>
      exact confined
  | cons key rest inductionHypothesis =>
      obtain ⟨positive, bound⟩ := allowed key List.mem_cons_self
      exact inductionHypothesis (confined.absorb positive bound)
        (fun other member => allowed other (List.mem_cons_of_mem _ member))

/-- The pending substring stays at the last index, with the same length. -/
structure Pending.AtTop
    (map : FragmentMap UInt8)
    (length : Nat)
    (pending : Pending) : Prop where
  index : pending.copyIndex = topIndex
  length_eq : pending.copyData.length = length
  others :
    pending.reassembler = map ∨
      pending.reassembler = map.erase topIndex

theorem Pending.AtTop.absorb
    {map : FragmentMap UInt8}
    {length : Nat}
    (atTop : pending.AtTop map length)
    (confined : pending.Confined)
    (positive : 0 < key)
    (bound : key ≤ topIndex) :
    (absorb pending key).AtTop map length := by
  rcases Nat.lt_or_eq_of_le bound with below | keyTop
  · rw [confined.absorb_top_below atTop.index positive below]
    exact atTop
  · subst keyTop
    rcases confined.absorb_top_top atTop.index with
      same | ⟨byte, one, merged⟩
    · rw [same]
      exact atTop
    · rw [merged]
      refine ⟨rfl, one.symm.trans atTop.length_eq, Or.inr ?_⟩
      rcases atTop.others with whole | erased
      · rw [whole]
      · rw [erased]
        exact UnorderedMap.erase_erase_self map topIndex

theorem Pending.AtTop.absorbAll
    {map : FragmentMap UInt8}
    {length : Nat}
    (atTop : pending.AtTop map length)
    (confined : pending.Confined)
    {keys : List Nat}
    (allowed : ∀ key ∈ keys, 0 < key ∧ key ≤ topIndex) :
    (keys.foldl StreamReassembler.absorb pending).AtTop map length := by
  induction keys generalizing pending with
  | nil =>
      exact atTop
  | cons key rest inductionHypothesis =>
      obtain ⟨positive, bound⟩ := allowed key List.mem_cons_self
      exact inductionHypothesis (atTop.absorb confined positive bound)
        (confined.absorb positive bound)
        (fun other member => allowed other (List.mem_cons_of_mem _ member))

end Absorb

/-- Nothing waits below the next index, and all fragments are placed. -/
structure Confined (r : StreamReassembler) : Prop where
  settled : r.Settled
  below : r.willing < topIndex
  stored :
    ∀ key fragment,
      r.reassembler.lookup key = some fragment →
      Placed key fragment

theorem confined_new
    (capacity : Nat) :
    (new capacity).Confined where
  settled := by
    intro key fragment found
    cases found
  below := by
    change 0 < topIndex
    decide
  stored := by
    intro key fragment found
    cases found

section Push

variable {r : StreamReassembler} {data : Bytes} {index : Nat}

theorem Confined.key_allowed
    (confined : r.Confined)
    (order : ScanOrder Nat Bytes) :
    ∀ key ∈ order.keys r.reassembler, 0 < key ∧ key ≤ topIndex := by
  intro key member
  rw [ScanOrder.mem_keys, ← AList.lookup_isSome,
    Option.isSome_iff_exists] at member
  obtain ⟨fragment, found⟩ := member
  exact ⟨Nat.zero_lt_of_lt (confined.settled key fragment found),
    (confined.stored key fragment found).key_le⟩

/-- At the last index there is nothing to trim. -/
theorem trimAssembled_top
    {willing : Nat}
    (below : willing < topIndex)
    (data : Bytes) :
    trimAssembled willing data topIndex = (data, topIndex) := by
  rw [trimAssembled, if_neg]
  omega

theorem Confined.stored_ahead
    (confined : r.Confined) :
    ∀ key fragment,
      r.reassembler.lookup key = some fragment →
      0 < key ∧ Placed key fragment := by
  intro key fragment found
  exact ⟨Nat.zero_lt_of_lt (confined.settled key fragment found),
    confined.stored key fragment found⟩

/-- What is left of a substring after trimming is placed. -/
theorem Confined.incoming
    (confined : r.Confined)
    (nonempty : data ≠ [])
    (placed : Placed index data) :
    (r.incoming data index).Confined := by
  have word : topIndex < 2 ^ 64 := by decide
  rcases placed with ⟨atTop, small⟩ | below
  · subst atTop
    rw [StreamReassembler.incoming,
      trimAssembled_top confined.below data]
    exact ⟨nonempty, Or.inl ⟨rfl, small⟩, confined.stored_ahead⟩
  · rw [StreamReassembler.incoming]
    rcases trimAssembled_cases r.willing nonempty
        (Nat.lt_trans below word) with
      ⟨starts, reaches, trimmed⟩ | ⟨_, whole⟩
    · rw [trimmed]
      refine ⟨?_, Or.inr ?_, confined.stored_ahead⟩
      · rw [← List.length_pos_iff, List.length_drop]
        omega
      · change r.willing + (data.drop (r.willing - index)).length < _
        rw [List.length_drop]
        omega
    · rw [whole]
      exact ⟨nonempty, Or.inr below, confined.stored_ahead⟩

/-- What the merge loop leaves is placed. -/
theorem Confined.merged
    (confined : r.Confined)
    (nonempty : data ≠ [])
    (placed : Placed index data)
    (order : ScanOrder Nat Bytes) :
    (r.mergedPending order data index).Confined :=
  (confined.incoming nonempty placed).absorbAll
    (confined.key_allowed order)

theorem Confined.inserted
    (confined : r.Confined)
    (nonempty : data ≠ [])
    (placed : Placed index data)
    (order : ScanOrder Nat Bytes) :
    ∀ key fragment,
      (r.inserted order data index).lookup key = some fragment →
      0 < key + fragment.length ∧ Placed key fragment := by
  have merged := confined.merged nonempty placed order
  intro key fragment found
  rcases UnorderedMap.lookup_insert_eq_some.mp found with
    ⟨rfl, rfl⟩ | ⟨_, kept⟩
  · exact ⟨Nat.add_pos_right _ (List.length_pos_iff.mpr merged.nonempty),
      merged.placed⟩
  · obtain ⟨positive, stays⟩ := merged.stored key fragment kept
    exact ⟨Nat.add_pos_left positive _, stays⟩

/-- The fragments that the assembly finds. -/
theorem Confined.store
    (confined : r.Confined)
    (nonempty : data ≠ [])
    (placed : Placed index data)
    (order : ScanOrder Nat Bytes) :
    ∀ key fragment,
      (r.store order data index).reassembler.lookup key =
        some fragment →
      0 < key + fragment.length ∧ Placed key fragment := by
  have inserted := confined.inserted nonempty placed order
  intro key fragment found
  rw [store_eq] at found
  rcases discardExcess_cases r.capacity r.output.bufferSize
      (order.keys r.reassembler) (r.inserted order data index) with
    kept | ⟨examined, member, count, shortened⟩
  · rw [kept] at found
    exact inserted key fragment found
  · rw [shortened] at found
    by_cases same : key = examined
    · subst same
      obtain ⟨positive, bound⟩ := confined.key_allowed order key member
      have whole :=
        placed_subscript
          (fun query other stored => (inserted query other stored).2)
          bound
      rw [shorten_lookup_self, Option.some_inj] at found
      subst found
      exact ⟨Nat.add_pos_left positive _,
        whole.shorter (List.length_take_le' _ _)⟩
    · rw [shorten_lookup_of_ne same] at found
      exact inserted key fragment found

/-- Visiting placed fragments never reaches the last index. -/
theorem visit_below
    {r : StreamReassembler}
    {key : Nat}
    {fragment : Bytes}
    (below : r.willing < topIndex)
    (positive : 0 < key + fragment.length)
    (placed : Placed key fragment) :
    (r.visit ⟨key, fragment⟩).willing < topIndex := by
  have word : topIndex < 2 ^ 64 := by decide
  rcases placed with ⟨atTop, _⟩ | inside
  · have ahead : key > r.willing := by omega
    rw [visit, if_pos ahead]
    exact below
  · rcases visit_cases r ⟨positive, Nat.lt_trans inside word⟩ with
      ⟨_, same⟩ | ⟨_, erased⟩ | ⟨starts, reaches, written⟩
    · rw [same]
      exact below
    · rw [erased]
      exact below
    · have taken :=
        ByteStream.accepted_le_length (fragment.drop (r.willing - key))
          r.output
      rw [List.length_drop] at taken
      rw [written]
      change
        r.willing + r.output.accepted (fragment.drop (r.willing - key)) <
          topIndex
      omega

/--
Assembly keeps fragments placed, stops below the last index and leaves a
fragment there alone.
-/
theorem assemble_confined
    {r : StreamReassembler}
    (below : r.willing < topIndex)
    (stored :
      ∀ key fragment,
        r.reassembler.lookup key = some fragment →
        0 < key + fragment.length ∧ Placed key fragment)
    (order : ScanOrder Nat Bytes) :
    (r.assemble order).Confined ∧
      (r.assemble order).reassembler.lookup topIndex =
        r.reassembler.lookup topIndex := by
  have assembled :=
    assemble_invariant
      (fun next =>
        next.willing < topIndex ∧
          (∀ key fragment,
            next.reassembler.lookup key = some fragment →
            0 < key + fragment.length ∧ Placed key fragment) ∧
          next.reassembler.lookup topIndex =
            r.reassembler.lookup topIndex)
      ?_ order ⟨below, stored, rfl⟩
  · exact ⟨⟨assemble_settled order r, assembled.1,
      fun key fragment found => (assembled.2.1 key fragment found).2⟩,
      assembled.2.2⟩
  · rintro next key fragment ⟨nextBelow, nextStored, atTop⟩ found
    obtain ⟨positive, placed⟩ := nextStored key fragment found
    refine ⟨visit_below nextBelow positive placed, ?_, ?_⟩
    · intro query other stays
      exact nextStored query other (lookup_of_visit next _ stays)
    · by_cases visitsTop : topIndex = key
      · have ahead : key > next.willing := by omega
        rw [visit, if_pos ahead]
        exact atTop
      · rw [visit_lookup next ⟨key, fragment⟩ visitsTop]
        exact atTop

/-- Only the next index and the fragments matter. -/
theorem Confined.congr
    {s : StreamReassembler}
    (confined : r.Confined)
    (willing : s.willing = r.willing)
    (fragments : s.reassembler = r.reassembler) :
    s.Confined := by
  refine ⟨?_, ?_, ?_⟩
  · rw [Settled, willing, fragments]
    exact confined.settled
  · rw [willing]
    exact confined.below
  · rw [fragments]
    exact confined.stored

theorem Confined.recordEnd
    (confined : r.Confined)
    (data : Bytes)
    (index : Nat)
    (eof : Bool) :
    (r.recordEnd data index eof).Confined :=
  confined.congr (recordEnd_willing data index eof r)
    (recordEnd_reassembler data index eof r)

/-- Pushes keep the fragments where they belong. -/
theorem Confined.pushSubstring
    (confined : r.Confined)
    (placed : Placed index data)
    (order : IterationOrder)
    (eof : Bool) :
    (r.pushSubstring order data index eof).Confined := by
  have recorded := confined.recordEnd data index eof
  have concluded :
      ∀ s : StreamReassembler, s.Confined → s.endIfComplete.Confined := by
    intro s held
    exact held.congr s.endIfComplete_willing s.endIfComplete_reassembler
  by_cases nonempty : data = []
  · rw [pushSubstring_of_empty _ _ _ _ nonempty]
    exact concluded _ recorded
  · rw [pushSubstring_of_nonempty _ _ _ _ nonempty]
    have storeBelow :
        ((r.recordEnd data index eof).store order.keyScan data
          index).willing < topIndex :=
      recorded.below
    apply concluded
    exact (assemble_confined storeBelow
      (recorded.store nonempty placed order.keyScan)
      order.assemblyScan).1

end Push

/--
The shortening loop examines a fragment at the last index, and the bytes held
elsewhere fill the capacity.
-/
def DiscardsTop
    (order : ScanOrder Nat Bytes)
    (r : StreamReassembler) : Prop :=
  (sortDecreasing (order.keys r.reassembler)).head? = some topIndex ∧
    r.capacity ≤
      r.output.bufferSize + totalLength (r.reassembler.erase topIndex)

section Top

variable {r : StreamReassembler} {data : Bytes}

/-- A substring at the last index replaces what is stored there. -/
theorem Confined.inserted_top
    (confined : r.Confined)
    (nonempty : data ≠ [])
    (small : data.length < topIndex)
    (order : ScanOrder Nat Bytes) :
    ∃ stored,
      stored.length = data.length ∧
        r.inserted order data topIndex =
          r.reassembler.insert topIndex stored := by
  have incoming :=
    confined.incoming nonempty (Or.inl ⟨rfl, small⟩)
  have arrives :
      (r.incoming data topIndex).AtTop r.reassembler data.length := by
    rw [StreamReassembler.incoming,
      trimAssembled_top confined.below data]
    exact ⟨rfl, rfl, Or.inl rfl⟩
  obtain ⟨index, length, others⟩ :=
    arrives.absorbAll incoming (confined.key_allowed order)
  refine ⟨_, length, ?_⟩
  change
    AList.insert (r.mergedPending order data topIndex).copyIndex _
      (r.mergedPending order data topIndex).reassembler = _
  have sameIndex :
      (r.mergedPending order data topIndex).copyIndex = topIndex :=
    index
  rw [sameIndex]
  rcases others with whole | erased
  · have same :
        (r.mergedPending order data topIndex).reassembler =
          r.reassembler :=
      whole
    rw [same]
    rfl
  · have same :
        (r.mergedPending order data topIndex).reassembler =
          r.reassembler.erase topIndex :=
      erased
    rw [same]
    exact UnorderedMap.insert_erase r.reassembler topIndex _

/-- The fragments that the loop does not examine stay as they are. -/
theorem discardExcess_lookup_of_ne
    {capacity bufferSize query : Nat}
    {keySet : List Nat}
    (map : FragmentMap UInt8)
    (unexamined : (sortDecreasing keySet).head? ≠ some query) :
    (discardExcess capacity bufferSize keySet map).lookup query =
      map.lookup query := by
  unfold discardExcess
  dsimp only
  split
  · cases sorted : sortDecreasing keySet with
    | nil =>
        rfl
    | cons examined rest =>
        have different : query ≠ examined := by
          rintro rfl
          exact unexamined (by rw [sorted, List.head?_cons])
        dsimp only
        rw [truncateFragment_eq]
        exact shorten_lookup_of_ne different
  · rfl

/-- The fragment that the loop examines loses what exceeds the capacity. -/
theorem discardExcess_lookup_of_head
    {capacity bufferSize key : Nat}
    {keySet : List Nat}
    {map : FragmentMap UInt8}
    {fragment : Bytes}
    (examined : (sortDecreasing keySet).head? = some key)
    (found : map.lookup key = some fragment) :
    (discardExcess capacity bufferSize keySet map).lookup key =
      some (fragment.take
        (fragment.length -
          (bufferSize + totalLength map - capacity))) := by
  obtain ⟨rest, sorted⟩ := List.head?_eq_some_iff.mp examined
  unfold discardExcess
  dsimp only
  rw [sorted]
  split
  · dsimp only
    rw [truncateFragment_eq, shorten_lookup_self,
      UnorderedMap.subscript_of_lookup found]
  · rename_i fits
    rw [Nat.sub_eq_zero_of_le (Nat.not_lt.mp fits), Nat.sub_zero,
      List.take_length]
    exact found

/-- What is stored of a substring at the last index. -/
theorem Confined.store_top
    (confined : r.Confined)
    (nonempty : data ≠ [])
    (small : data.length < topIndex)
    (order : ScanOrder Nat Bytes) :
    (∃ kept,
      (r.store order data topIndex).reassembler.lookup topIndex =
          some kept ∧
        (kept = [] ↔ r.DiscardsTop order)) ∧
      (r.DiscardsTop order →
        ∀ query,
          query ≠ topIndex →
          (r.store order data topIndex).reassembler.lookup query =
            r.reassembler.lookup query) := by
  obtain ⟨stored, length, inserted⟩ :=
    confined.inserted_top nonempty small order
  have total :
      totalLength (r.reassembler.insert topIndex stored) =
        data.length + totalLength (r.reassembler.erase topIndex) := by
    rw [← length]
    exact UnorderedMap.weight_insert r.reassembler topIndex stored
  have storedNonempty : stored ≠ [] := by
    rw [← List.length_pos_iff, length]
    exact List.length_pos_iff.mpr nonempty
  have found :
      (r.reassembler.insert topIndex stored).lookup topIndex =
        some stored :=
    AList.lookup_insert r.reassembler
  rw [store_eq, inserted]
  by_cases examinesTop :
      (sortDecreasing (order.keys r.reassembler)).head? = some topIndex
  · refine ⟨⟨_, discardExcess_lookup_of_head examinesTop found, ?_⟩, ?_⟩
    · have positive := List.length_pos_iff.mpr nonempty
      rw [List.take_eq_nil_iff, total, length]
      simp only [storedNonempty, or_false, DiscardsTop, examinesTop,
        true_and]
      omega
    · intro _ query different
      have unexamined :
          (sortDecreasing (order.keys r.reassembler)).head? ≠
            some query := by
        rw [examinesTop]
        exact fun same => different (Option.some.inj same).symm
      exact (discardExcess_lookup_of_ne _ unexamined).trans
        (AList.lookup_insert_ne different)
  · refine ⟨⟨stored,
      (discardExcess_lookup_of_ne _ examinesTop).trans found, ?_⟩, ?_⟩
    · simp only [storedNonempty, DiscardsTop, examinesTop, false_and]
    · intro discards
      exact absurd discards.1 examinesTop

/-- What a push at the last index leaves there and elsewhere. -/
theorem Confined.pushSubstring_top
    (confined : r.Confined)
    (nonempty : data ≠ [])
    (small : data.length < topIndex)
    (order : IterationOrder)
    (eof : Bool) :
    (∃ kept,
      (r.pushSubstring order data topIndex eof).reassembler.lookup
          topIndex = some kept ∧
        (kept = [] ↔ r.DiscardsTop order.keyScan)) ∧
      (r.DiscardsTop order.keyScan →
        ∀ query fragment,
          query ≠ topIndex →
          (r.pushSubstring order data topIndex eof).reassembler.lookup
              query = some fragment →
          r.reassembler.lookup query = some fragment) := by
  have recorded := confined.recordEnd data topIndex eof
  have discards :
      (r.recordEnd data topIndex eof).DiscardsTop order.keyScan ↔
        r.DiscardsTop order.keyScan := by
    rw [recordEnd_shape]
    exact Iff.rfl
  obtain ⟨⟨kept, found, emptied⟩, others⟩ :=
    recorded.store_top nonempty small order.keyScan
  rw [discards] at emptied others
  rw [recordEnd_reassembler] at others
  have storeBelow :
      ((r.recordEnd data topIndex eof).store order.keyScan data
        topIndex).willing < topIndex :=
    recorded.below
  have atTop :=
    (assemble_confined storeBelow
      (recorded.store nonempty (Or.inl ⟨rfl, small⟩) order.keyScan)
      order.assemblyScan).2
  have pushed :
      (r.pushSubstring order data topIndex eof).reassembler =
        (((r.recordEnd data topIndex eof).store order.keyScan data
          topIndex).assemble order.assemblyScan).reassembler := by
    rw [pushSubstring_of_nonempty _ _ _ _ nonempty,
      endIfComplete_reassembler]
  rw [pushed]
  generalize (r.recordEnd data topIndex eof).store order.keyScan data
    topIndex = stored at found others atTop ⊢
  refine ⟨⟨kept, atTop.trans found, emptied⟩, ?_⟩
  intro dropped query fragment different stays
  rw [← others dropped query different]
  exact assemble_invariant
    (fun next =>
      next.reassembler.lookup query = some fragment →
      stored.reassembler.lookup query = some fragment)
    (fun next key other held _ survives =>
      held (lookup_of_visit next ⟨key, other⟩ survives))
    order.assemblyScan id stays

end Top

/-- A push moves the recorded end only by the end it carries. -/
theorem pushSubstring_recordedEnd
    (order : IterationOrder)
    (data : Bytes)
    (index : Nat)
    (eof : Bool)
    (r : StreamReassembler) :
    (r.pushSubstring order data index eof).endFlag =
        (r.recordEnd data index eof).endFlag ∧
      (r.pushSubstring order data index eof).totalWrite =
        (r.recordEnd data index eof).totalWrite := by
  by_cases nonempty : data = []
  · rw [pushSubstring_of_empty _ _ _ _ nonempty, endIfComplete_endFlag,
      endIfComplete_totalWrite]
    exact ⟨rfl, rfl⟩
  · rw [pushSubstring_of_nonempty _ _ _ _ nonempty]
    obtain ⟨_, sameFlag, sameTotal, _⟩ := assemble_frame
      order.assemblyScan
      ((r.recordEnd data index eof).store order.keyScan data index)
    rw [endIfComplete_endFlag, endIfComplete_totalWrite, sameFlag,
      sameTotal, store_eq]
    exact ⟨rfl, rfl⟩

/-- The indices that `unassembled_bytes` counts, each once. -/
def countedIndices (r : StreamReassembler) : List Nat :=
  r.reassembler.entries.flatMap fun item =>
    (List.range item.2.length).map fun index =>
      (index + item.1) % 2 ^ 64

theorem mem_countedIndices
    {r : StreamReassembler}
    {index : Nat} :
    index ∈ r.countedIndices ↔
      ∃ key fragment offset,
        r.reassembler.lookup key = some fragment ∧
          offset < fragment.length ∧
          (offset + key) % 2 ^ 64 = index := by
  simp only [countedIndices, List.mem_flatMap, List.mem_map,
    List.mem_range]
  constructor
  · rintro ⟨⟨key, fragment⟩, member, offset, inside, position⟩
    exact ⟨key, fragment, offset, AList.mem_lookup_iff.mpr member,
      inside, position⟩
  · rintro ⟨key, fragment, offset, found, inside, position⟩
    exact ⟨⟨key, fragment⟩, AList.mem_lookup_iff.mp found, offset,
      inside, position⟩

end Sponge.StreamReassembler
