import Sponge.StreamReassemblerCapacity

namespace Sponge.StreamReassembler

/-!
# The order of arrival

As long as the segments fit the capacity together, no byte is ever dropped: the
reassembler holds exactly the indices that some segment covered.  What can be
observed of it is a function of that set, so neither the order of the segments
nor the order in which the map is scanned makes a difference.
-/

/-- What is pushed, without the iteration order that the push meets. -/
structure Segment where
  data : Bytes
  index : Nat
  eof : Bool := false

/-- Push a segment under some iteration order. -/
def push
    (r : StreamReassembler)
    (arrival : IterationOrder × Segment) : StreamReassembler :=
  r.pushSubstring arrival.1 arrival.2.data arrival.2.index arrival.2.eof

/-- Push segments to a new reassembler, one after the other. -/
def pushAll
    (capacity : Nat)
    (arrivals : List (IterationOrder × Segment)) : StreamReassembler :=
  Execution.run push (new capacity) arrivals

/-- The number of bytes of the segments, repeated ones included. -/
def payloadLength (segments : List Segment) : Nat :=
  (segments.map fun segment => segment.data.length).sum

/-- The indices that the segments cover together. -/
def covered (segments : List Segment) : Finset Nat :=
  (segments.flatMap fun segment =>
    fragmentIndices segment.index segment.data).toFinset

/-- What can be observed of a reassembler whose output was not read. -/
structure Observation where
  bytesWritten : Nat
  contents : Bytes
  unassembledBytes : Nat
  inputEnded : Bool
  deriving DecidableEq

/-- What the methods of a reassembler and of its stream show. -/
def observe (r : StreamReassembler) : Observation where
  bytesWritten := r.output.bytesWritten
  contents := r.output.contents
  unassembledBytes := r.unassembledBytes
  inputEnded := r.output.inputEnded

/--
What the segments of a sequence should amount to: the longest prefix that they
cover, the number of covered indices beyond it, and the end if it was sent.
-/
def expected
    (sequence : Bytes)
    (segments : List Segment) : Observation :=
  let assembled := firstMissing (covered segments)
  { bytesWritten := assembled
    contents := sequence.take assembled
    unassembledBytes :=
      ((covered segments).filter (assembled ≤ ·)).card
    inputEnded :=
      segments.any Segment.eof && decide (assembled = sequence.length) }

section Covered

variable {segments : List Segment}

theorem mem_covered
    {query : Nat} :
    query ∈ covered segments ↔
      ∃ segment ∈ segments, Spans segment.index segment.data query := by
  simp only [covered, List.mem_toFinset, List.mem_flatMap,
    mem_fragmentIndices]

theorem card_covered_le
    (segments : List Segment) :
    (covered segments).card ≤ payloadLength segments := by
  refine Nat.le_trans (List.toFinset_card_le _) ?_
  rw [List.length_flatMap]
  simp only [fragmentIndices, List.length_range', payloadLength,
    Nat.le_refl]

theorem covered_append_singleton
    (segments : List Segment)
    (segment : Segment) :
    covered (segments ++ [segment]) =
      covered segments ∪
        Finset.Ico segment.index
          (segment.index + segment.data.length) := by
  ext query
  simp only [mem_covered, List.mem_append, List.mem_singleton,
    Finset.mem_union, Finset.mem_Ico, or_and_right, exists_or,
    exists_eq_left, Spans]

theorem payloadLength_append
    (first second : List Segment) :
    payloadLength (first ++ second) =
      payloadLength first + payloadLength second := by
  simp only [payloadLength, List.map_append, List.sum_append]

/-- The order of the segments plays no part in what is expected. -/
theorem expected_perm
    (sequence : Bytes)
    {first second : List Segment}
    (perm : first.Perm second) :
    expected sequence first = expected sequence second := by
  have sameIndices : covered first = covered second := by
    ext query
    simp only [mem_covered, perm.mem_iff]
  have sameEnd :
      first.any Segment.eof = second.any Segment.eof :=
    perm.any_eq
  simp only [expected, sameIndices, sameEnd]

end Covered

/--
The reassembler holds exactly the given indices, assembled or not, and has room
for all of them.
-/
structure Holding
    (indices : Finset Nat)
    (r : StreamReassembler) : Prop where
  loose : r.Loose
  unread : r.output.bytesR = 0
  room : indices.card ≤ r.capacity
  ended : r.output.endFlag = true → ∀ query ∈ indices, query < r.willing
  retains_iff : ∀ query, r.Retains query ↔ query ∈ indices

section Stages

variable {indices : Finset Nat} {r : StreamReassembler}
variable {key : Nat} {fragment : Bytes}

/-- A visit takes what it writes from a stored fragment. -/
theorem Loose.retains_of_visit
    (loose : r.Loose)
    (found : r.reassembler.lookup key = some fragment)
    {query : Nat}
    (held : (r.visit ⟨key, fragment⟩).Retains query) :
    r.Retains query := by
  rcases held with assembled | covers
  · rcases visit_cases r (loose.bounded key fragment found) with
      ⟨_, same⟩ | ⟨_, same⟩ | ⟨reached, _, same⟩
    · exact Or.inl (same ▸ assembled)
    · rw [same] at assembled
      exact Or.inl assembled
    · by_cases before : query < r.willing
      · exact Or.inl before
      · refine Or.inr ⟨key, fragment, found, ?_, ?_⟩
        · omega
        · rw [same] at assembled
          have atMost :=
            ByteStream.accepted_le_length
              (fragment.drop (r.willing - key)) r.output
          simp only [writeFragment, List.length_drop] at assembled atMost
          omega
  · exact Or.inr (covers_of_visit covers)

/-- A fragment that is reached lies within the capacity. -/
theorem Holding.reached_fits
    (holding : Holding indices r)
    (found : r.reassembler.lookup key = some fragment)
    (reached : key ≤ r.willing) :
    key + fragment.length ≤ r.capacity := by
  have held : Finset.range (key + fragment.length) ⊆ indices := by
    intro query inside
    rw [← holding.retains_iff]
    by_cases assembled : query < r.willing
    · exact Or.inl assembled
    · exact Or.inr ⟨key, fragment, found, by omega,
        Finset.mem_range.mp inside⟩
  calc
    key + fragment.length = (Finset.range (key + fragment.length)).card :=
      (Finset.card_range _).symm
    _ ≤ indices.card := Finset.card_le_card held
    _ ≤ r.capacity := holding.room

theorem Holding.visit
    (holding : Holding indices r)
    (found : r.reassembler.lookup key = some fragment) :
    Holding indices (r.visit ⟨key, fragment⟩) := by
  obtain ⟨sameCapacity, _, _, sameEnd, _, sameRead⟩ :=
    visit_frame r ⟨key, fragment⟩
  refine {
    loose := holding.loose.visit found
    unread := sameRead.trans holding.unread
    room := sameCapacity ▸ holding.room
    ended := ?_
    retains_iff := ?_
  }
  · intro ended query member
    exact Nat.lt_of_lt_of_le
      (holding.ended (sameEnd ▸ ended) query member)
      (visit_willing_le r ⟨key, fragment⟩)
  · intro query
    constructor
    · intro held
      exact (holding.retains_iff query).mp
        (holding.loose.retains_of_visit found held)
    · intro member
      refine holding.loose.visit_retains found ?_
        (fun ended => holding.ended ended query member)
        ((holding.retains_iff query).mpr member)
      intro reached spans
      rw [holding.unread, Nat.zero_add]
      exact Nat.lt_of_lt_of_le spans.2
        (holding.reached_fits found reached)

/-- Assembling moves what is held, and loses nothing of it. -/
theorem Holding.assemble
    (holding : Holding indices r)
    (order : ScanOrder Nat Bytes) :
    Holding indices (r.assemble order) :=
  assemble_invariant (Holding indices)
    (fun _ _ _ held found => held.visit found) order holding

/-- What is held without being assembled lies beyond the assembled prefix. -/
theorem Holding.storedIndices_eq
    (holding : Holding indices r)
    (settled : r.Settled) :
    storedIndices r.reassembler = indices.filter (r.willing ≤ ·) := by
  ext query
  rw [mem_storedIndices, Finset.mem_filter, ← holding.retains_iff]
  constructor
  · rintro ⟨key, fragment, found, spans⟩
    have beyond := settled key fragment found
    exact ⟨Or.inr ⟨key, fragment, found, spans⟩,
      Nat.le_trans (Nat.le_of_lt beyond) spans.1⟩
  · rintro ⟨held, beyond⟩
    exact held.resolve_left (Nat.not_lt_of_le beyond)

/-- The assembled prefix and the stored indices are all that is held. -/
theorem Holding.card_eq
    (holding : Holding indices r)
    (settled : r.Settled) :
    indices.card = r.willing + (storedIndices r.reassembler).card := by
  have below : indices.filter (¬ r.willing ≤ ·) = Finset.range r.willing := by
    ext query
    rw [Finset.mem_filter, Finset.mem_range, ← holding.retains_iff,
      Nat.not_le]
    exact ⟨fun both => both.2, fun inside => ⟨Or.inl inside, inside⟩⟩
  have split :=
    Finset.card_filter_add_card_filter_not (s := indices) (r.willing ≤ ·)
  rw [below, Finset.card_range, ← holding.storedIndices_eq settled] at split
  omega

/-- Recording the end of the stream moves no byte. -/
theorem Holding.recordEnd
    (holding : Holding indices r)
    (data : Bytes)
    (index : Nat)
    (eof : Bool) :
    Holding indices (r.recordEnd data index eof) := by
  have loose := holding.loose
  rw [recordEnd_shape]
  exact ⟨⟨loose.outputValid, loose.sameCapacity, loose.written,
    loose.counted, loose.bounded, loose.separated⟩, holding.unread,
    holding.room, holding.ended, holding.retains_iff⟩

section Store

variable {data : Bytes} {index : Nat}

/-- With room for a segment nothing is discarded to store it. -/
theorem Holding.store_eq_inserted
    (holding : Holding indices r)
    (settled : r.Settled)
    (nonempty : data ≠ [])
    (fits : index + data.length < 2 ^ 64)
    (room : indices.card + data.length ≤ r.capacity)
    (order : ScanOrder Nat Bytes) :
    r.store order data index =
      { r with reassembler := r.inserted order data index } := by
  have trimmed : (r.incoming data index).copyData.length ≤ data.length := by
    rcases trimAssembled_cases r.willing nonempty fits with
      ⟨_, _, same⟩ | ⟨_, same⟩
    · simp only [incoming, same, List.length_drop]
      omega
    · simp only [incoming, same, Nat.le_refl]
  have total :
      totalLength (r.inserted order data index) ≤
        (storedIndices r.reassembler).card + data.length := by
    rw [holding.loose.totalLength_inserted nonempty fits]
    refine Nat.le_trans (Finset.card_union_le _ _) ?_
    rw [Nat.card_Ico, Nat.add_sub_cancel_left]
    exact Nat.add_le_add_left trimmed _
  have held := holding.card_eq settled
  have accounting := holding.loose.outputValid.accounting
  have written := holding.loose.written
  have unread := holding.unread
  have within :
      ¬ r.output.bufferSize +
          totalLength (r.inserted order data index) > r.capacity := by
    unfold ByteStream.bufferSize
    omega
  rw [store_eq, discardExcess, if_neg within]

theorem Holding.store
    (holding : Holding indices r)
    (layout : r.Layout)
    (nonempty : data ≠ [])
    (fits : index + data.length < 2 ^ 64)
    (room : indices.card + data.length ≤ r.capacity)
    (ended :
      r.output.endFlag = true →
      ∀ query, Spans index data query → query < r.willing)
    (order : ScanOrder Nat Bytes) :
    Holding (indices ∪ Finset.Ico index (index + data.length))
      (r.store order data index) := by
  have inserted :=
    holding.store_eq_inserted layout.settled nonempty fits room order
  refine {
    loose := layout.store nonempty fits
    unread := holding.unread
    room := ?_
    ended := ?_
    retains_iff := ?_
  }
  · refine Nat.le_trans (Finset.card_union_le _ _) ?_
    rw [Nat.card_Ico, Nat.add_sub_cancel_left]
    exact room
  · intro isEnded query member
    rcases Finset.mem_union.mp member with old | new
    · exact holding.ended isEnded query old
    · exact ended isEnded query (Finset.mem_Ico.mp new)
  · intro query
    rw [inserted, Finset.mem_union, Finset.mem_Ico,
      ← holding.retains_iff]
    simp only [Retains,
      holding.loose.inserted_covers_iff nonempty fits,
      incoming_holds_iff nonempty fits]
    constructor
    · rintro (assembled | ⟨spans, _⟩ | covers)
      · exact Or.inl (Or.inl assembled)
      · exact Or.inr spans
      · exact Or.inl (Or.inr covers)
    · rintro ((assembled | covers) | spans)
      · exact Or.inl assembled
      · exact Or.inr (Or.inr covers)
      · by_cases assembled : query < r.willing
        · exact Or.inl assembled
        · exact Or.inr (Or.inl ⟨spans, Or.inl (Nat.le_of_not_lt assembled)⟩)

end Store

end Stages

/-- The state after segments of a sequence that fit the capacity together. -/
structure Assembled
    (sequence : Bytes)
    (capacity : Nat)
    (segments : List Segment)
    (r : StreamReassembler) : Prop where
  sound : Sound sequence [] r
  limit : r.capacity = capacity
  unread : r.output.bytesR = 0
  retains_iff : ∀ query, r.Retains query ↔ query ∈ covered segments
  inside : ∀ query ∈ covered segments, query < sequence.length
  ending : r.endFlag = segments.any Segment.eof

section Runs

variable {sequence : Bytes} {capacity : Nat}
variable {segments : List Segment} {r : StreamReassembler}

theorem assembled_new
    (sequence : Bytes)
    (capacity : Nat) :
    Assembled sequence capacity [] (new capacity) where
  sound := sound_new sequence capacity
  limit := rfl
  unread := rfl
  retains_iff := by
    intro query
    simp [Retains, Covers, new, covered]
  inside := by simp [covered]
  ending := rfl

/-- The sequence is all there once the output has ended. -/
theorem Assembled.holding
    (assembled : Assembled sequence capacity segments r)
    (room : payloadLength segments ≤ capacity) :
    Holding (covered segments) r where
  loose := assembled.sound.layout.toLoose
  unread := assembled.unread
  room := by
    rw [assembled.limit]
    exact Nat.le_trans (card_covered_le segments) room
  ended := by
    intro ended query member
    rw [(assembled.sound.ended_iff.mp ended).2]
    exact assembled.inside query member
  retains_iff := assembled.retains_iff

/-- The last steps of a push, once its end has been recorded. -/
theorem Assembled.push_retains_iff
    (assembled : Assembled sequence capacity segments r)
    (short : sequence.length < 2 ^ 64)
    {segment : Segment}
    (consistent :
      ConsistentPush sequence segment.data segment.index segment.eof)
    (room : payloadLength (segments ++ [segment]) ≤ capacity)
    (order : IterationOrder)
    (query : Nat) :
    (r.push (order, segment)).Retains query ↔
      query ∈ covered (segments ++ [segment]) := by
  rw [payloadLength_append] at room
  have fits : segment.index + segment.data.length < 2 ^ 64 :=
    Nat.lt_of_le_of_lt consistent.inside short
  have held := assembled.holding (by omega)
  have layout :=
    assembled.sound.layout.recordEnd segment.data segment.index segment.eof
  have holding :=
    held.recordEnd segment.data segment.index segment.eof
  have shape :=
    recordEnd_shape segment.data segment.index segment.eof r
  have cover := card_covered_le segments
  by_cases empty : segment.data = []
  · have performed :
        r.push (order, segment) =
          (r.recordEnd segment.data segment.index
            segment.eof).endIfComplete :=
      pushSubstring_of_empty order segment.index segment.eof r empty
    rw [performed, endIfComplete_retains_iff, holding.retains_iff,
      covered_append_singleton]
    simp [empty]
  · have performed :
        r.push (order, segment) =
          (((r.recordEnd segment.data segment.index segment.eof).store
            order.keyScan segment.data segment.index).assemble
              order.assemblyScan).endIfComplete :=
      pushSubstring_of_nonempty order segment.index segment.eof r empty
    have roomHere :
        (covered segments).card + segment.data.length ≤
          (r.recordEnd segment.data segment.index
            segment.eof).capacity := by
      rw [shape]
      simp only [payloadLength, List.map_cons, List.map_nil,
        List.sum_cons, List.sum_nil, assembled.limit] at room cover ⊢
      omega
    have stored :=
      holding.store layout empty fits roomHere
        (by
          rw [shape]
          intro ended position spans
          rw [(assembled.sound.ended_iff.mp ended).2]
          exact Nat.lt_of_lt_of_le spans.2 consistent.inside)
        order.keyScan
    rw [performed, endIfComplete_retains_iff,
      (stored.assemble order.assemblyScan).retains_iff,
      covered_append_singleton]

/-- A segment is added to what was assembled and to nothing else. -/
theorem Assembled.push
    (assembled : Assembled sequence capacity segments r)
    (short : sequence.length < 2 ^ 64)
    {segment : Segment}
    (consistent :
      ConsistentPush sequence segment.data segment.index segment.eof)
    (room : payloadLength (segments ++ [segment]) ≤ capacity)
    (order : IterationOrder) :
    Assembled sequence capacity (segments ++ [segment])
      (r.push (order, segment)) := by
  obtain ⟨sameCapacity, sameRead⟩ :=
    pushSubstring_limits order segment.data segment.index segment.eof r
  refine {
    sound :=
      assembled.sound.pushSubstring
        (Nat.lt_of_le_of_lt consistent.inside short) consistent order
    limit := sameCapacity.trans assembled.limit
    unread := sameRead.trans assembled.unread
    retains_iff := assembled.push_retains_iff short consistent room order
    inside := ?_
    ending := ?_
  }
  · intro query member
    rw [covered_append_singleton, Finset.mem_union, Finset.mem_Ico]
      at member
    rcases member with old | new
    · exact assembled.inside query old
    · exact Nat.lt_of_lt_of_le new.2 consistent.inside
  · rw [StreamReassembler.push, pushSubstring_endFlag, assembled.ending]
    simp

theorem Assembled.run
    (assembled : Assembled sequence capacity segments r)
    (short : sequence.length < 2 ^ 64)
    {arrivals : List (IterationOrder × Segment)}
    (consistent :
      ∀ arrival ∈ arrivals,
        ConsistentPush sequence arrival.2.data arrival.2.index
          arrival.2.eof)
    (room :
      payloadLength (segments ++ arrivals.map Prod.snd) ≤ capacity) :
    Assembled sequence capacity (segments ++ arrivals.map Prod.snd)
      (Execution.run StreamReassembler.push r arrivals) := by
  induction arrivals generalizing segments r with
  | nil =>
      simpa using assembled
  | cons arrival rest inductionHypothesis =>
      rw [List.map_cons, List.append_cons] at room ⊢
      have first :=
        assembled.push short (consistent arrival (by simp))
          (by
            rw [payloadLength_append] at room
            omega)
          arrival.1
      exact inductionHypothesis first
        (fun later member => consistent later (by simp [member])) room

/-- What is observed follows from what is held. -/
theorem Assembled.observe_eq
    (assembled : Assembled sequence capacity segments r)
    (room : payloadLength segments ≤ capacity) :
    observe r = expected sequence segments := by
  have holding := assembled.holding room
  have settled := assembled.sound.layout.settled
  have prefixLength : firstMissing (covered segments) = r.willing := by
    refine firstMissing_eq (fun index before => ?_) ?_
    · exact (assembled.retains_iff index).mp (Or.inl before)
    · rw [← assembled.retains_iff]
      rintro (before | ⟨key, fragment, found, spans⟩)
      · exact Nat.lt_irrefl _ before
      · exact Nat.not_le_of_lt (settled key fragment found) spans.1
  have ended :
      r.output.endFlag =
        (segments.any Segment.eof &&
          decide (r.willing = sequence.length)) := by
    rw [Bool.eq_iff_iff, assembled.sound.ended_iff, assembled.ending,
      Bool.and_eq_true, decide_eq_true_iff]
  simp only [observe, expected, prefixLength, ByteStream.bytesWritten,
    ByteStream.inputEnded, ended, holding.loose.written,
    unassembledBytes_eq holding.loose.bounded,
    holding.storedIndices_eq settled, Observation.mk.injEq, true_and,
    and_true]
  exact assembled.sound.intact.delivered

end Runs

/--
Segments of a sequence that fit the capacity together are reassembled to the
longest prefix that they cover, with everything else they cover in store and the
end of the output as they announce it; any other order of the same segments, and
any other iteration orders, end in the same observable state.
-/
theorem reassembly_order_independent
    (sequence : Bytes)
    (short : sequence.length < 2 ^ 64)
    (capacity : Nat)
    (arrivals : List (IterationOrder × Segment))
    (consistent :
      ∀ arrival ∈ arrivals,
        ConsistentPush sequence arrival.2.data arrival.2.index
          arrival.2.eof)
    (room : payloadLength (arrivals.map Prod.snd) ≤ capacity) :
    observe (pushAll capacity arrivals) =
        expected sequence (arrivals.map Prod.snd) ∧
      ∀ other : List (IterationOrder × Segment),
        (other.map Prod.snd).Perm (arrivals.map Prod.snd) →
        observe (pushAll capacity other) =
          observe (pushAll capacity arrivals) := by
  have reassembled :
      ∀ pushes : List (IterationOrder × Segment),
        (pushes.map Prod.snd).Perm (arrivals.map Prod.snd) →
        observe (pushAll capacity pushes) =
          expected sequence (pushes.map Prod.snd) := by
    intro pushes perm
    have sameLength :
        payloadLength (pushes.map Prod.snd) =
          payloadLength (arrivals.map Prod.snd) :=
      List.Perm.sum_eq
        (perm.map fun segment : Segment => segment.data.length)
    refine ((assembled_new sequence capacity).run short ?_ ?_).observe_eq ?_
    · intro push member
      have arrived : push.2 ∈ arrivals.map Prod.snd :=
        perm.mem_iff.mp (List.mem_map_of_mem member)
      obtain ⟨arrival, isArrival, same⟩ := List.mem_map.mp arrived
      rw [← same]
      exact consistent arrival isArrival
    · rw [List.nil_append, sameLength]
      exact room
    · rw [List.nil_append, sameLength]
      exact room
  refine ⟨reassembled arrivals (List.Perm.refl _), ?_⟩
  intro other perm
  rw [reassembled other perm, reassembled arrivals (List.Perm.refl _),
    expected_perm sequence perm]

/-- Overlapping segments of four bytes; the last of them arrives first. -/
def shuffled : List (IterationOrder × Segment) := [
  (.stored, { data := [99, 100], index := 2, eof := true }),
  (.stored, { data := [97], index := 0 }),
  (.stored, { data := [98, 99], index := 1 })]

/-- The bytes come out in order, and so they do from the opposite order. -/
theorem reassembly_order_independent_shuffled :
    observe (pushAll 5 shuffled) =
        { bytesWritten := 4
          contents := [97, 98, 99, 100]
          unassembledBytes := 0
          inputEnded := true } ∧
      observe (pushAll 5 shuffled.reverse) =
        observe (pushAll 5 shuffled) := by
  refine ⟨by decide +kernel, ?_⟩
  refine (reassembly_order_independent [97, 98, 99, 100] (by decide) 5
    shuffled ?_ (by decide)).2 shuffled.reverse ?_
  · simp only [shuffled, List.forall_mem_cons, List.not_mem_nil,
      false_implies, implies_true, and_true]
    exact ⟨⟨by decide, by decide, by decide⟩,
      ⟨by decide, by decide, by decide⟩, ⟨by decide, by decide, by decide⟩⟩
  · rw [List.map_reverse]
    exact List.reverse_perm _

end Sponge.StreamReassembler
