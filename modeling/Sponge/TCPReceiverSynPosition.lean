import Sponge.StreamReassemblerTop
import Sponge.TCPReceiverCorrectness

namespace Sponge.TCPReceiver

/-!
# A segment in the position of the SYN

The stream index of a payload is its absolute sequence number minus one.  A
segment without SYN that carries the initial sequence number itself has the
absolute number zero, and its index wraps around to the last one of 64 bits.
The receiver hands it on like any other index.
-/

open StreamReassembler (topIndex DiscardsTop)

/-- The stream is recorded to end after `total` bytes. -/
def RecordedEnd
    (receiver : TCPReceiver)
    (total : Nat) : Prop :=
  receiver.reassembler.endFlag = true ∧
    receiver.reassembler.totalWrite = total

/--
The recorded end is one that a FIN of the peer's stream sets: its number lies in
the sequence space, and nothing was assembled beyond it.
-/
def ConsistentEnd
    (receiver : TCPReceiver)
    (total : Nat) : Prop :=
  receiver.RecordedEnd total ∧
    receiver.streamOut.bytesWritten ≤ total ∧
    total + 1 < 2 ^ 32

/-- What should hold of a segment in the position of the SYN. -/
structure KeptOut
    (before after : TCPReceiver)
    (seg : TCPSegment) : Prop where
  neverEnters :
    seg.payload ≠ [] →
    topIndex ∉ after.reassembler.countedIndices
  nothingOutside :
    ∀ index ∈ after.reassembler.countedIndices,
      index ∈ before.reassembler.countedIndices ∨
        (before.streamOut.bytesWritten ≤ index ∧
          index < before.streamOut.bytesRead + before.capacity)
  endKept :
    ∀ total,
      before.ConsistentEnd total →
      after.RecordedEnd total

/-- A payload is a string, and no string is longer than this. -/
def Op.Sized : Op → Prop
  | .segment _ seg => seg.payload.length < 2 ^ 63
  | .read _ => True

section Reached

variable {receiver : TCPReceiver} {seg : TCPSegment}

/-- Every payload of a possible size is placed. -/
theorem placed_payload
    (isn : WrappingInt32)
    (sized : seg.payload.length < 2 ^ 63) :
    StreamReassembler.Placed (strIndex seg.header isn) seg.payload := by
  have offset := unwrap_zero_lt seg.header.seqno isn
  unfold strIndex
  split
  · right
    unfold topIndex
    omega
  · by_cases first : unwrap seg.header.seqno isn 0 = 0
    · left
      rw [first]
      refine ⟨by decide, ?_⟩
      unfold topIndex
      omega
    · right
      rw [sub64_of_le (by omega)]
      unfold topIndex
      omega

theorem confined_segmentReceived
    (confined : receiver.reassembler.Confined)
    (sized : seg.payload.length < 2 ^ 63)
    (order : IterationOrder) :
    (receiver.segmentReceived order seg).reassembler.Confined :=
  receiver.segmentReceived_invariant order seg
    StreamReassembler.Confined
    (fun isn => confined.pushSubstring (placed_payload isn sized) order _)
    confined

theorem confined_after
    (capacity : Nat)
    {calls : List Op}
    (sized : ∀ call ∈ calls, call.Sized) :
    (Session.after capacity calls).receiver.reassembler.Confined := by
  refine Execution.EveryStep.invariant
    (fun session : Session => session.receiver.reassembler.Confined)
    ?_ (StreamReassembler.confined_new capacity)
    (Execution.EveryStep.of_forall_mem sized _)
  intro session call confined callSized
  cases call with
  | segment order seg =>
      exact confined_segmentReceived confined callSized order
  | read len =>
      exact confined.congr rfl rfl

end Reached

section SynPosition

variable {receiver : TCPReceiver} {seg : TCPSegment}

/-- The receiver hands the payload over at the last index. -/
theorem segmentReceived_synPosition
    {isn : WrappingInt32}
    (known : receiver.isn = some isn)
    (noSyn : seg.header.syn = false)
    (atSyn : seg.header.seqno = isn)
    (order : IterationOrder) :
    (receiver.segmentReceived order seg).reassembler =
      receiver.reassembler.pushSubstring order seg.payload topIndex
        seg.header.fin := by
  have recorded : (receiver.recordSyn seg).isn = some isn := by
    rw [recordSyn, noSyn]
    exact known
  have index : strIndex seg.header isn = topIndex := by
    rw [strIndex, noSyn, atSyn, unwrap_zero, UInt32.sub_self]
    rfl
  rw [segmentReceived_of_known recorded order, index]

variable {r : StreamReassembler} {data : Bytes}

/-- Pushing nothing leaves the fragments as they are. -/
theorem countedIndices_pushNothing
    (order : IterationOrder)
    (index : Nat)
    (eof : Bool)
    (r : StreamReassembler) :
    (r.pushSubstring order [] index eof).countedIndices =
      r.countedIndices := by
  have fragments :
      (r.pushSubstring order [] index eof).reassembler =
        r.reassembler := by
    rw [StreamReassembler.pushSubstring_of_empty _ _ _ _ rfl,
      StreamReassembler.endIfComplete_reassembler,
      StreamReassembler.recordEnd_reassembler]
  rw [StreamReassembler.countedIndices, fragments]
  rfl

/-- Unless the shortening loop drops it, the byte is there to stay. -/
theorem mem_countedIndices_top
    (confined : r.Confined)
    (nonempty : data ≠ [])
    (sized : data.length < topIndex)
    (order : IterationOrder)
    (eof : Bool)
    (survives : ¬ r.DiscardsTop order.keyScan) :
    topIndex ∈
      (r.pushSubstring order data topIndex eof).countedIndices := by
  obtain ⟨⟨kept, found, emptied⟩, _⟩ :=
    confined.pushSubstring_top nonempty sized order eof
  have something : kept ≠ [] := fun nothing =>
    survives (emptied.mp nothing)
  exact StreamReassembler.mem_countedIndices.mpr
    ⟨topIndex, kept, 0, found, List.length_pos_iff.mpr something,
      by decide⟩

/-- If it does, nothing is counted that was not counted before. -/
theorem countedIndices_of_discarded
    (confined : r.Confined)
    (nonempty : data ≠ [])
    (sized : data.length < topIndex)
    (order : IterationOrder)
    (eof : Bool)
    (dropped : r.DiscardsTop order.keyScan)
    {index : Nat}
    (counted :
      index ∈
        (r.pushSubstring order data topIndex eof).countedIndices) :
    index ∈ r.countedIndices ∧ index ≠ topIndex := by
  obtain ⟨⟨kept, found, emptied⟩, others⟩ :=
    confined.pushSubstring_top nonempty sized order eof
  obtain ⟨key, fragment, offset, stored, inside, position⟩ :=
    StreamReassembler.mem_countedIndices.mp counted
  have below : key ≠ topIndex := by
    intro atTop
    subst atTop
    rw [found, emptied.mpr dropped] at stored
    cases stored
    cases inside
  have was := others dropped key fragment below stored
  refine ⟨StreamReassembler.mem_countedIndices.mpr
    ⟨key, fragment, offset, was, inside, position⟩, ?_⟩
  rcases confined.stored key fragment was with ⟨atTop, _⟩ | ends
  · exact (below atTop).elim
  · unfold topIndex at *
    omega

/-- What a FIN in this position makes of the recorded end. -/
theorem recordedEnd_pushSubstring_iff
    {total : Nat}
    (sized : data.length < 2 ^ 63)
    (inSpace : total + 1 < 2 ^ 32)
    (order : IterationOrder) :
    ((r.pushSubstring order data topIndex true).endFlag = true ∧
        (r.pushSubstring order data topIndex true).totalWrite = total) ↔
      data.length = total + 1 := by
  obtain ⟨ends, total_eq⟩ :=
    StreamReassembler.pushSubstring_recordedEnd order data topIndex true r
  rw [ends, total_eq, StreamReassembler.recordEnd, if_pos rfl]
  unfold topIndex
  simp only [true_and]
  omega

end SynPosition

/--
A segment without SYN at the initial sequence number is kept out of the receiver
exactly if it has no payload, or its payload is discarded at once because the
shortening loop examines the last index while all of the capacity is taken, and
if its FIN, when an end is recorded, repeats that end.
-/
theorem syn_position_kept_out_iff
    (capacity : Nat)
    (calls : List Op)
    (sized : ∀ call ∈ calls, call.Sized)
    (isn : WrappingInt32)
    (known : (Session.after capacity calls).receiver.isn = some isn)
    (order : IterationOrder)
    (seg : TCPSegment)
    (segSized : seg.payload.length < 2 ^ 63)
    (noSyn : seg.header.syn = false)
    (atSyn : seg.header.seqno = isn) :
    let before := (Session.after capacity calls).receiver
    let after := before.segmentReceived order seg
    KeptOut before after seg ↔
      (seg.payload = [] ∨
          before.reassembler.DiscardsTop order.keyScan) ∧
        (seg.header.fin = true →
          ∀ total,
            before.ConsistentEnd total →
            seg.payload.length = total + 1) := by
  intro before after
  have confined : before.reassembler.Confined :=
    confined_after capacity sized
  have handed :
      after.reassembler =
        before.reassembler.pushSubstring order seg.payload topIndex
          seg.header.fin :=
    segmentReceived_synPosition known noSyn atSyn order
  have small : seg.payload.length < topIndex := by
    unfold topIndex
    omega
  constructor
  · intro keptOut
    refine ⟨?_, ?_⟩
    · by_contra stays
      obtain ⟨nonempty, survives⟩ := not_or.mp stays
      refine keptOut.neverEnters nonempty ?_
      rw [handed]
      exact mem_countedIndices_top confined nonempty small order _ survives
    · intro fin total consistent
      have recorded := keptOut.endKept total consistent
      rw [RecordedEnd, handed, fin] at recorded
      exact (recordedEnd_pushSubstring_iff segSized consistent.2.2
        order).mp recorded
  · rintro ⟨dropped, sameEnd⟩
    refine ⟨?_, ?_, ?_⟩
    · intro nonempty counted
      rw [handed] at counted
      exact (countedIndices_of_discarded confined nonempty small order _
        (dropped.resolve_left nonempty) counted).2 rfl
    · intro index counted
      rw [handed] at counted
      left
      by_cases empty : seg.payload = []
      · rw [empty, countedIndices_pushNothing] at counted
        exact counted
      · exact (countedIndices_of_discarded confined empty small order _
          (dropped.resolve_left empty) counted).1
    · intro total consistent
      rw [RecordedEnd, handed]
      cases fin : seg.header.fin with
      | true =>
          exact (recordedEnd_pushSubstring_iff segSized consistent.2.2
            order).mpr (sameEnd fin total consistent)
      | false =>
          obtain ⟨ends, total_eq⟩ :=
            StreamReassembler.pushSubstring_recordedEnd order seg.payload
              topIndex false before.reassembler
          rw [ends, total_eq]
          exact consistent.1

/-- The peer's SYN. -/
def peerSyn : TCPSegment where
  header := {
    seqno := ⟨100⟩
    syn := true }

/-- A segment without SYN that repeats the number of the SYN. -/
def atPeerSyn
    (payload : Bytes)
    (fin : Bool) : TCPSegment where
  header := {
    seqno := ⟨100⟩
    fin := fin }
  payload := payload

/-- The second and last byte of the peer's stream, with the FIN. -/
def lastByte : TCPSegment where
  header := {
    seqno := ⟨102⟩
    fin := true }
  payload := [98]

theorem syn_position_kept_out_iff_bare :
    let before :=
      (Session.after 4 [.segment .stored peerSyn]).receiver
    KeptOut before
      (before.segmentReceived .stored (atPeerSyn [] true))
      (atPeerSyn [] true) := by
  intro before
  have sized : ∀ call ∈ [Op.segment .stored peerSyn], call.Sized := by
    intro call member
    rw [List.mem_singleton.mp member]
    change 0 < 2 ^ 63
    decide
  refine (syn_position_kept_out_iff 4 _ sized ⟨100⟩ (by decide +kernel)
    .stored (atPeerSyn [] true) (by decide) rfl rfl).mpr
    ⟨Or.inl rfl, ?_⟩
  intro _ total consistent
  have ended := consistent.1.1
  have unended : before.reassembler.endFlag = false := by
    decide +kernel
  rw [unended] at ended
  cases ended

/--
A byte in the position of the SYN is stored and counted for ever, and a FIN
there moves the end that the peer's own FIN has set.
-/
theorem syn_position_enters :
    let synchronized :=
      (Session.after 4 [.segment .stored peerSyn]).receiver
    let stored :=
      synchronized.segmentReceived .stored (atPeerSyn [97] false)
    let ended :=
      (Session.after 4
        [.segment .stored peerSyn, .segment .stored lastByte]).receiver
    let moved := ended.segmentReceived .stored (atPeerSyn [] true)
    stored.reassembler.countedIndices = [2 ^ 64 - 1] ∧
      stored.unassembledBytes = 1 ∧
      ended.ConsistentEnd 2 ∧
      moved.reassembler.totalWrite = 2 ^ 64 - 1 := by
  unfold ConsistentEnd RecordedEnd
  decide +kernel

end Sponge.TCPReceiver
