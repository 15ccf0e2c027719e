import Sponge.StreamReassemblerMerge

namespace Sponge.StreamReassembler

/-!
# The layout of stored fragments

`Layout` collects what holds of a reassembler between calls whatever bytes are
pushed: the counters agree with the output, every stored fragment starts after
the next index to assemble, and no index is stored twice.  Storing and
assembling are treated separately, because in between the fragment just
inserted may reach back to the next index.
-/

/-- The part of the layout that also holds between storing and assembling. -/
structure Loose (r : StreamReassembler) : Prop where
  outputValid : r.output.Valid
  sameCapacity : r.output.mCapacity = r.capacity
  written : r.output.bytesW = r.willing
  counted : r.bytesWrited = r.willing
  bounded : AllBounded r.reassembler
  separated : Separated r.reassembler

/-- The layout between two calls. -/
structure Layout (r : StreamReassembler) : Prop extends Loose r where
  settled : r.Settled

/-- A new reassembler stores nothing. -/
theorem layout_new
    (capacity : Nat) :
    (new capacity).Layout where
  outputValid := ByteStream.valid_new capacity
  sameCapacity := rfl
  written := rfl
  counted := rfl
  bounded := by
    intro key fragment found
    simp [new] at found
  separated := by
    intro firstKey first secondKey second found
    simp [new] at found
  settled := by
    intro key fragment found
    simp [new] at found

section Submap

variable {map smaller : FragmentMap UInt8}

theorem AllBounded.within
    (bounded : AllBounded map)
    (within : Within smaller map) :
    AllBounded smaller := by
  intro key fragment found
  exact bounded key fragment (within key fragment found)

end Submap

section Assembly

/-- Writing a fragment keeps the counters in step. -/
theorem Loose.visit
    {r : StreamReassembler}
    (loose : r.Loose)
    {key : Nat}
    {fragment : Bytes}
    (found : r.reassembler.lookup key = some fragment) :
    (r.visit ⟨key, fragment⟩).Loose := by
  have erasedBounded :=
    loose.bounded.within (within_erase r.reassembler key)
  have erasedSeparated :=
    loose.separated.within (within_erase r.reassembler key)
  rcases visit_cases r (loose.bounded key fragment found) with
    ⟨_, same⟩ | ⟨_, erased⟩ | ⟨_, _, wrote⟩
  · rw [same]
    exact loose
  · rw [erased]
    exact {
      outputValid := loose.outputValid
      sameCapacity := loose.sameCapacity
      written := loose.written
      counted := loose.counted
      bounded := erasedBounded
      separated := erasedSeparated
    }
  · rw [wrote]
    refine {
      outputValid := loose.outputValid.write _
      sameCapacity := ?_
      written := ?_
      counted := ?_
      bounded := erasedBounded
      separated := erasedSeparated
    }
    · simp only [writeFragment, ByteStream.write_mCapacity]
      exact loose.sameCapacity
    · simp only [writeFragment, ByteStream.write_bytesW, loose.written]
    · simp only [writeFragment, loose.counted]

/-- Assembly turns a loose state into one that is laid out. -/
theorem Loose.assemble
    {r : StreamReassembler}
    (loose : r.Loose)
    (order : ScanOrder Nat Bytes) :
    (r.assemble order).Layout where
  toLoose :=
    assemble_invariant Loose
      (fun _ _ _ held found => held.visit found) order loose
  settled := assemble_settled order r

theorem Layout.endIfComplete
    {r : StreamReassembler}
    (layout : r.Layout) :
    r.endIfComplete.Layout := by
  unfold StreamReassembler.endIfComplete
  split
  · exact {
      outputValid := layout.outputValid.endInput
      sameCapacity := layout.sameCapacity
      written := layout.written
      counted := layout.counted
      bounded := layout.bounded
      separated := layout.separated
      settled := layout.settled
    }
  · exact layout

/-- Remembering the end touches the two fields that describe it. -/
theorem recordEnd_shape
    (data : Bytes)
    (index : Nat)
    (eof : Bool)
    (r : StreamReassembler) :
    r.recordEnd data index eof =
      { r with
        endFlag := (r.recordEnd data index eof).endFlag
        totalWrite := (r.recordEnd data index eof).totalWrite } := by
  unfold StreamReassembler.recordEnd
  split <;> rfl

@[simp] theorem recordEnd_willing
    (data : Bytes)
    (index : Nat)
    (eof : Bool)
    (r : StreamReassembler) :
    (r.recordEnd data index eof).willing = r.willing := by
  rw [recordEnd_shape]

@[simp] theorem recordEnd_reassembler
    (data : Bytes)
    (index : Nat)
    (eof : Bool)
    (r : StreamReassembler) :
    (r.recordEnd data index eof).reassembler = r.reassembler := by
  rw [recordEnd_shape]

section End

variable (r : StreamReassembler)

@[simp] theorem endIfComplete_willing :
    r.endIfComplete.willing = r.willing := by
  unfold StreamReassembler.endIfComplete
  split <;> rfl

@[simp] theorem endIfComplete_reassembler :
    r.endIfComplete.reassembler = r.reassembler := by
  unfold StreamReassembler.endIfComplete
  split <;> rfl

@[simp] theorem endIfComplete_endFlag :
    r.endIfComplete.endFlag = r.endFlag := by
  unfold StreamReassembler.endIfComplete
  split <;> rfl

@[simp] theorem endIfComplete_totalWrite :
    r.endIfComplete.totalWrite = r.totalWrite := by
  unfold StreamReassembler.endIfComplete
  split <;> rfl

@[simp] theorem endIfComplete_bufferSize :
    r.endIfComplete.output.bufferSize = r.output.bufferSize := by
  unfold StreamReassembler.endIfComplete
  split <;> rfl

end End

section Stages

variable {data : Bytes} (order : IterationOrder)
variable (index : Nat) (eof : Bool) (r : StreamReassembler)

/-- A push of nothing only looks at the end of the stream. -/
theorem pushSubstring_of_empty
    (isEmpty : data = []) :
    r.pushSubstring order data index eof =
      (r.recordEnd data index eof).endIfComplete :=
  if_pos (List.isEmpty_iff.mpr isEmpty)

/-- A push of bytes stores, assembles and looks at the end. -/
theorem pushSubstring_of_nonempty
    (nonempty : data ≠ []) :
    r.pushSubstring order data index eof =
      (((r.recordEnd data index eof).store order.keyScan data
        index).assemble order.assemblyScan).endIfComplete :=
  if_neg (fun isEmpty => nonempty (List.isEmpty_iff.mp isEmpty))

end Stages

theorem Layout.recordEnd
    {r : StreamReassembler}
    (layout : r.Layout)
    (data : Bytes)
    (index : Nat)
    (eof : Bool) :
    (r.recordEnd data index eof).Layout := by
  unfold StreamReassembler.recordEnd
  split
  · exact {
      outputValid := layout.outputValid
      sameCapacity := layout.sameCapacity
      written := layout.written
      counted := layout.counted
      bounded := layout.bounded
      separated := layout.separated
      settled := layout.settled
    }
  · exact layout

/-- Reading from the output leaves the fragments alone. -/
theorem Layout.readOut
    {r : StreamReassembler}
    (layout : r.Layout)
    (len : Nat) :
    (r.readOut len).2.Layout where
  outputValid := layout.outputValid.read len
  sameCapacity := by
    simp only [StreamReassembler.readOut, ByteStream.read_mCapacity]
    exact layout.sameCapacity
  written := by
    simp only [StreamReassembler.readOut, ByteStream.read_bytesW]
    exact layout.written
  counted := layout.counted
  bounded := layout.bounded
  separated := layout.separated
  settled := layout.settled

end Assembly

section Trim

variable {index : Nat} {data : Bytes}

/-- The bytes of a substring that are kept when it is stored. -/
theorem trimAssembled_cases
    (willing : Nat)
    (nonempty : data ≠ [])
    (fits : index + data.length < 2 ^ 64) :
    (index < willing ∧ willing < index + data.length ∧
        trimAssembled willing data index =
          (data.drop (willing - index), willing)) ∨
      ((willing ≤ index ∨ index + data.length ≤ willing) ∧
        trimAssembled willing data index = (data, index)) := by
  have positive := List.length_pos_iff.mpr nonempty
  have last :
      lastIndex index data.length = index + data.length - 1 :=
    lastIndex_eq (by omega) fits
  unfold trimAssembled
  by_cases crossing :
      index < willing ∧ willing < index + data.length
  · exact Or.inl ⟨crossing.1, crossing.2,
      if_pos ⟨crossing.1, by omega⟩⟩
  · exact Or.inr ⟨by omega, if_neg (by omega)⟩

end Trim

section Shorten

variable {map : FragmentMap UInt8} {key count : Nat}

/-- Both branches of the truncation shorten the examined fragment. -/
theorem truncateFragment_eq
    (map : FragmentMap UInt8)
    (key remainSize : Nat) :
    truncateFragment map key remainSize =
      shorten map key
        ((UnorderedMap.subscript map key []).length - remainSize) := by
  unfold truncateFragment shorten
  dsimp only
  split
  · rename_i short
    rw [Nat.sub_eq_zero_of_le short, List.take_zero,
      UnorderedMap.insert_erase]
  · rfl

theorem AllBounded.shorten
    (bounded : AllBounded map)
    (positive : 0 < key)
    (fits : key < 2 ^ 64) :
    AllBounded (shorten map key count) := by
  intro query fragment found
  by_cases same : query = key
  · subst query
    rw [shorten_lookup_self] at found
    have shape := Option.some.inj found
    subst fragment
    cases stored : map.lookup key with
    | none =>
        simp [UnorderedMap.subscript, stored, Bounded]
        omega
    | some original =>
        have inBound := (bounded key original stored).2
        rw [UnorderedMap.subscript_of_lookup stored]
        simp only [Bounded, List.length_take]
        omega
  · rw [shorten_lookup_of_ne same] at found
    exact bounded query fragment found

end Shorten

section Store

variable (order : ScanOrder Nat Bytes)
variable (r : StreamReassembler) (data : Bytes) (index : Nat)

/-- The trimmed substring before it meets the stored fragments. -/
def incoming : Pending where
  copyData := (trimAssembled r.willing data index).1
  copyIndex := (trimAssembled r.willing data index).2
  reassembler := r.reassembler

/-- The substring after the merge loop. -/
def mergedPending : Pending :=
  (order.keys r.reassembler).foldl absorb (r.incoming data index)

/-- The fragments once the merged substring is inserted. -/
def inserted : FragmentMap UInt8 :=
  (r.mergedPending order data index).reassembler.insert
    (r.mergedPending order data index).copyIndex
    (r.mergedPending order data index).copyData

theorem store_eq :
    r.store order data index =
      { r with
        reassembler :=
          discardExcess r.capacity r.output.bufferSize
            (order.keys r.reassembler) (r.inserted order data index) } :=
  rfl

@[simp] theorem store_capacity :
    (r.store order data index).capacity = r.capacity :=
  rfl

@[simp] theorem store_output :
    (r.store order data index).output = r.output :=
  rfl

@[simp] theorem store_willing :
    (r.store order data index).willing = r.willing :=
  rfl

variable {order r data index}

/-- What is stored of a substring: all of it, or what is not yet assembled. -/
theorem incoming_holds_iff
    (nonempty : data ≠ [])
    (fits : index + data.length < 2 ^ 64)
    {query : Nat} :
    (r.incoming data index).Holds query ↔
      Spans index data query ∧
        (r.willing ≤ query ∨ index + data.length ≤ r.willing) := by
  simp only [Pending.Holds, incoming]
  rcases trimAssembled_cases r.willing nonempty fits with
    ⟨before, after, trimmed⟩ | ⟨whole, trimmed⟩
  · rw [trimmed]
    simp only [Spans, List.length_drop]
    omega
  · rw [trimmed]
    simp only [Spans]
    omega

theorem incoming_fits
    (nonempty : data ≠ [])
    (fits : index + data.length < 2 ^ 64) :
    (r.incoming data index).Fits := by
  have positive := List.length_pos_iff.mpr nonempty
  rcases trimAssembled_cases r.willing nonempty fits with
    ⟨before, after, trimmed⟩ | ⟨_, trimmed⟩
  · constructor
    · apply List.length_pos_iff.mp
      simp only [incoming, trimmed, List.length_drop]
      omega
    · simp only [incoming, trimmed, List.length_drop]
      omega
  · constructor
    · simpa only [incoming, trimmed] using nonempty
    · simpa only [incoming, trimmed] using fits

theorem Loose.merged
    (loose : r.Loose)
    (nonempty : data ≠ [])
    (fits : index + data.length < 2 ^ 64) :
    Merged (order.keys r.reassembler)
      (r.incoming data index) (r.mergedPending order data index) :=
  absorbAll_merged
    (incoming_fits nonempty fits)
    loose.bounded
    loose.separated
    (order.nodup_keys r.reassembler)
    (fun _ member => ScanOrder.mem_keys.mp member)

/-- Everything still in the map was a key of the scan. -/
theorem Merged.mem_keys
    (merged :
      Merged (order.keys r.reassembler)
        (r.incoming data index) (r.mergedPending order data index))
    {key : Nat}
    {fragment : Bytes}
    (found :
      (r.mergedPending order data index).reassembler.lookup key =
        some fragment) :
    key ∈ order.keys r.reassembler := by
  have before : r.reassembler.lookup key = some fragment :=
    merged.lookup_of_after key fragment found
  rw [ScanOrder.mem_keys, ← AList.lookup_isSome, before]
  rfl

/-- Inserting the merged substring overwrites at most an empty fragment. -/
theorem Merged.overwrites_nothing
    (merged :
      Merged (order.keys r.reassembler)
        (r.incoming data index) (r.mergedPending order data index))
    {fragment : Bytes}
    (found :
      (r.mergedPending order data index).reassembler.lookup
          (r.mergedPending order data index).copyIndex =
        some fragment) :
    fragment = [] := by
  by_contra nonempty
  have fragmentLength := List.length_pos_iff.mpr nonempty
  have pendingLength :=
    List.length_pos_iff.mpr merged.fits.nonempty
  apply merged.apart _ fragment (merged.mem_keys found) found
    (r.mergedPending order data index).copyIndex
  · simp only [Pending.Holds, Spans]
    omega
  · simp only [Spans]
    omega

theorem Loose.inserted_separated
    (loose : r.Loose)
    (nonempty : data ≠ [])
    (fits : index + data.length < 2 ^ 64) :
    Separated (r.inserted order data index) := by
  have merged : Merged _ _ (r.mergedPending order data index) :=
    loose.merged nonempty fits
  intro firstKey first secondKey second firstFound secondFound
    different query firstSpans secondSpans
  rcases UnorderedMap.lookup_insert_eq_some.mp firstFound with
    ⟨rfl, rfl⟩ | ⟨firstOld, firstStored⟩
  · rcases UnorderedMap.lookup_insert_eq_some.mp secondFound with
      ⟨rfl, rfl⟩ | ⟨_, secondStored⟩
    · exact different rfl
    · exact merged.apart secondKey second
        (merged.mem_keys secondStored) secondStored
        query firstSpans secondSpans
  · rcases UnorderedMap.lookup_insert_eq_some.mp secondFound with
      ⟨rfl, rfl⟩ | ⟨_, secondStored⟩
    · exact merged.apart firstKey first
        (merged.mem_keys firstStored) firstStored
        query secondSpans firstSpans
    · exact loose.separated firstKey first secondKey second
        (merged.lookup_of_after firstKey first firstStored)
        (merged.lookup_of_after secondKey second secondStored)
        different query firstSpans secondSpans

theorem Loose.inserted_bounded
    (loose : r.Loose)
    (nonempty : data ≠ [])
    (fits : index + data.length < 2 ^ 64) :
    AllBounded (r.inserted order data index) := by
  have merged : Merged _ _ (r.mergedPending order data index) :=
    loose.merged nonempty fits
  intro key fragment found
  rcases UnorderedMap.lookup_insert_eq_some.mp found with
    ⟨rfl, rfl⟩ | ⟨_, stored⟩
  · have positive := List.length_pos_iff.mpr merged.fits.nonempty
    exact ⟨by omega, merged.fits.bound⟩
  · exact loose.bounded key fragment
      (merged.lookup_of_after key fragment stored)

/-- Inserting covers the substring and everything that was covered before. -/
theorem Loose.inserted_covers_iff
    (loose : r.Loose)
    (nonempty : data ≠ [])
    (fits : index + data.length < 2 ^ 64)
    {query : Nat} :
    Covers (r.inserted order data index) query ↔
      (r.incoming data index).Holds query ∨
        Covers r.reassembler query := by
  have merged : Merged _ _ (r.mergedPending order data index) :=
    loose.merged nonempty fits
  have newCovers :
      (r.mergedPending order data index).Holds query →
      Covers (r.inserted order data index) query := by
    intro held
    exact ⟨_, _, AList.lookup_insert _, held⟩
  constructor
  · rintro ⟨key, fragment, found, spans⟩
    rcases UnorderedMap.lookup_insert_eq_some.mp found with
      ⟨rfl, rfl⟩ | ⟨_, stored⟩
    · rcases (merged.holds_iff query).mp spans with
        held | ⟨key, fragment, absorbed, fragmentSpans⟩
      · exact Or.inl held
      · exact Or.inr ⟨key, fragment, absorbed.1, fragmentSpans⟩
    · exact Or.inr ⟨key, fragment,
        merged.lookup_of_after key fragment stored, spans⟩
  · rintro (held | ⟨key, fragment, found, spans⟩)
    · exact newCovers ((merged.holds_iff query).mpr (Or.inl held))
    · cases after :
          (r.mergedPending order data index).reassembler.lookup key with
      | none =>
          exact newCovers
            ((merged.holds_iff query).mpr
              (Or.inr ⟨key, fragment, ⟨found, after⟩, spans⟩))
      | some other =>
          have same : other = fragment :=
            Option.some.inj
              ((merged.lookup_of_after key other after).symm.trans found)
          subst other
          refine ⟨key, fragment, ?_, spans⟩
          apply UnorderedMap.lookup_insert_eq_some.mpr
          refine Or.inr ⟨?_, after⟩
          intro sameKey
          subst key
          have isEmpty := merged.overwrites_nothing after
          simp only [Spans, isEmpty, List.length_nil] at spans
          omega

theorem mem_sortDecreasing
    {key : Nat}
    {keySet : List Nat} :
    key ∈ sortDecreasing keySet ↔ key ∈ keySet :=
  List.mem_insertionSort _

/-- Discarding keeps the fragments or shortens one that was stored before. -/
theorem discardExcess_cases
    (capacity bufferSize : Nat)
    (keySet : List Nat)
    (map : FragmentMap UInt8) :
    discardExcess capacity bufferSize keySet map = map ∨
      ∃ key ∈ keySet, ∃ count,
        discardExcess capacity bufferSize keySet map =
          shorten map key count := by
  unfold discardExcess
  dsimp only
  split
  · split
    · exact Or.inl rfl
    · rename_i key rest sorted
      have member : key ∈ sortDecreasing keySet := by
        rw [sorted]
        simp
      exact Or.inr
        ⟨key, mem_sortDecreasing.mp member, _,
          truncateFragment_eq map key _⟩
  · exact Or.inl rfl

/-- Storing a substring keeps fragments bounded and disjoint. -/
theorem Layout.store
    (layout : r.Layout)
    (nonempty : data ≠ [])
    (fits : index + data.length < 2 ^ 64) :
    (r.store order data index).Loose := by
  have bounded : AllBounded (r.inserted order data index) :=
    layout.inserted_bounded nonempty fits
  have separated : Separated (r.inserted order data index) :=
    layout.inserted_separated nonempty fits
  rw [store_eq]
  have kept :
      AllBounded
          (discardExcess r.capacity r.output.bufferSize
            (order.keys r.reassembler) (r.inserted order data index)) ∧
        Separated
          (discardExcess r.capacity r.output.bufferSize
            (order.keys r.reassembler)
            (r.inserted order data index)) := by
    rcases discardExcess_cases r.capacity r.output.bufferSize
        (order.keys r.reassembler) (r.inserted order data index) with
      same | ⟨key, member, count, shortened⟩
    · rw [same]
      exact ⟨bounded, separated⟩
    · rw [shortened]
      obtain ⟨fragment, found⟩ :=
        Option.isSome_iff_exists.mp
          (AList.lookup_isSome.mpr (ScanOrder.mem_keys.mp member))
      have ahead := layout.settled key fragment found
      have below := (layout.bounded key fragment found).2
      exact ⟨bounded.shorten (by omega) (by omega),
        separated.shorten⟩
  exact {
    outputValid := layout.outputValid
    sameCapacity := layout.sameCapacity
    written := layout.written
    counted := layout.counted
    bounded := kept.1
    separated := kept.2
  }

/-- A push that stays below the last index keeps the layout. -/
theorem Layout.pushSubstring
    (layout : r.Layout)
    (fits : index + data.length < 2 ^ 64)
    (scans : IterationOrder)
    (eof : Bool) :
    (r.pushSubstring scans data index eof).Layout := by
  have recorded := layout.recordEnd data index eof
  by_cases nonempty : data = []
  · rw [pushSubstring_of_empty _ _ _ _ nonempty]
    exact recorded.endIfComplete
  · rw [pushSubstring_of_nonempty _ _ _ _ nonempty]
    exact ((recorded.store nonempty fits).assemble _).endIfComplete

end Store

end Sponge.StreamReassembler
