import Sponge.TCPConnectionOutbound

namespace Sponge

/-!
# The receive window and the window test

The right edge of the window moves only when bytes are read or the stream ends,
whatever arrives.  The test of the connection compares the numbers of a segment
with that window after undoing the wrap relative to zero, and adds the window to
its left end in 64 bits.
-/

/-- The first absolute number past the window. -/
def TCPReceiver.rightEdge (receiver : TCPReceiver) : Nat :=
  receiver.assembled + receiver.windowSize

section RightEdge

open TCPConnection (ReceiverCounted)

namespace TCPReceiver

variable (receiver : TCPReceiver)

/-- A segment of any content leaves the reader where it was. -/
theorem segmentReceived_bytesRead
    (order : IterationOrder)
    (seg : TCPSegment) :
    (receiver.segmentReceived order seg).streamOut.bytesRead =
      receiver.streamOut.bytesRead :=
  receiver.segmentReceived_invariant order seg
    (fun next => next.output.bytesR = receiver.reassembler.output.bytesR)
    (fun _ => (StreamReassembler.pushSubstring_limits order _ _ _ _).2)
    rfl

/-- The receiver's counters agree after every call. -/
theorem Session.counted_after
    (capacity : Nat)
    (calls : List Op) :
    ReceiverCounted (Session.after capacity calls).receiver ∧
      (Session.after capacity calls).receiver.capacity = capacity := by
  refine Execution.run_invariant
    (fun session : Session =>
      ReceiverCounted session.receiver ∧
        session.receiver.capacity = capacity)
    ?_ ⟨⟨StreamReassembler.counted_new capacity, rfl⟩, rfl⟩ calls
  rintro session call ⟨counted, sameCapacity⟩
  cases call with
  | segment order seg =>
      exact ⟨counted.segmentReceived order seg,
        (session.receiver.segmentReceived_capacity order seg).trans
          sameCapacity⟩
  | read len =>
      exact ⟨⟨counted.reassembler.readOut len, counted.capacity⟩,
        sameCapacity⟩

variable {receiver}

/-- What the right edge is made of: the reader's position and the capacity. -/
theorem rightEdge_eq
    (counted : ReceiverCounted receiver) :
    receiver.streamOut.bufferSize ≤ receiver.capacity ∧
      receiver.windowSize =
        receiver.capacity - receiver.streamOut.bufferSize ∧
      receiver.rightEdge =
        receiver.streamOut.bytesRead + receiver.capacity + 1 +
          receiver.streamOut.inputEnded.toNat := by
  have capacity :=
    counted.capacity.trans counted.reassembler.sameCapacity.symm
  have fits :
      receiver.streamOut.bufferSize ≤ receiver.capacity := by
    rw [capacity]
    exact counted.reassembler.outputValid.withinCapacity
  have windowSize :
      receiver.windowSize =
        receiver.capacity - receiver.streamOut.bufferSize :=
    sub64_of_le fits
  have accounting :
      receiver.streamOut.bytesWritten =
        receiver.streamOut.bytesRead + receiver.streamOut.bufferSize :=
    counted.reassembler.outputValid.accounting
  refine ⟨fits, windowSize, ?_⟩
  rw [rightEdge, assembled, windowSize, accounting]
  omega

/-- No call takes back what was assembled, read or ended. -/
theorem Session.step_progress
    {session : Session}
    (counted : ReceiverCounted session.receiver)
    (call : Op) :
    session.receiver.assembled ≤ (session.step call).receiver.assembled ∧
      session.receiver.streamOut.bytesRead ≤
        (session.step call).receiver.streamOut.bytesRead ∧
      (session.receiver.streamOut.inputEnded = true →
        (session.step call).receiver.streamOut.inputEnded = true) := by
  cases call with
  | segment order seg =>
      exact ⟨TCPConnection.receiver_segmentReceived_assembled order seg _,
        (session.receiver.segmentReceived_bytesRead order seg).ge,
        (TCPConnection.receiver_segmentReceived_progress order seg _).2⟩
  | read len =>
      have taken :
          (session.step (.read len)).receiver.streamOut =
            (session.receiver.streamOut.read len).2 :=
        rfl
      have valid : session.receiver.streamOut.Valid :=
        counted.reassembler.outputValid
      have sameEnd := ByteStream.read_endFlag len session.receiver.streamOut
      have sameWritten :=
        ByteStream.read_bytesW len session.receiver.streamOut
      have moreRead := valid.read_bytesR len
      simp only [assembled, taken, ByteStream.bytesWritten,
        ByteStream.bytesRead, ByteStream.inputEnded, sameEnd, sameWritten,
        moreRead]
      exact ⟨Nat.le_refl _, Nat.le_add_right _ _, id⟩

/--
Whatever segments arrive and whenever the output is read, the window is exactly
what the buffered bytes leave of the capacity, and neither end of it ever moves
back.
-/
theorem window_never_shrinks
    (capacity : Nat)
    (calls : List Op)
    (call : Op) :
    let session := Session.after capacity calls
    let receiver := session.receiver
    let next := (session.step call).receiver
    receiver.streamOut.bufferSize ≤ capacity ∧
      receiver.windowSize = capacity - receiver.streamOut.bufferSize ∧
      receiver.ackno = receiver.isn.map (wrap receiver.assembled) ∧
      receiver.assembled + receiver.windowSize =
        receiver.streamOut.bytesRead + capacity + 1 +
          receiver.streamOut.inputEnded.toNat ∧
      receiver.assembled ≤ next.assembled ∧
      receiver.assembled + receiver.windowSize ≤
        next.assembled + next.windowSize := by
  intro session receiver next
  obtain ⟨counted, sameCapacity⟩ := Session.counted_after capacity calls
  obtain ⟨nextCounted, nextCapacity⟩ :=
    Session.counted_after capacity (calls ++ [call])
  rw [Session.after, Execution.run_append, Execution.run_cons,
    Execution.run_nil] at nextCounted nextCapacity
  obtain ⟨fits, windowSize, edge⟩ := rightEdge_eq counted
  obtain ⟨_, _, nextEdge⟩ := rightEdge_eq nextCounted
  obtain ⟨assembledMore, readMore, staysEnded⟩ :=
    Session.step_progress counted call
  rw [sameCapacity] at fits windowSize edge
  rw [nextCapacity] at nextEdge
  refine ⟨fits, windowSize, ?_, edge, assembledMore, ?_⟩
  · cases known : receiver.isn with
    | none => rw [ackno, known, Option.map_none]
    | some isn => rw [TCPConnection.ackno_eq known, Option.map_some]
  · have endedMore :
        receiver.streamOut.inputEnded.toNat ≤
          next.streamOut.inputEnded.toNat :=
      Bool.toNat_le_toNat staysEnded
    calc
      receiver.rightEdge
          = receiver.streamOut.bytesRead + capacity + 1 +
              receiver.streamOut.inputEnded.toNat := edge
      _ ≤ next.streamOut.bytesRead + capacity + 1 +
            next.streamOut.inputEnded.toNat :=
        Nat.add_le_add
          (Nat.add_le_add_right (Nat.add_le_add_right readMore _) _)
          endedMore
      _ = next.rightEdge := nextEdge.symm

end TCPReceiver

end RightEdge

namespace TCPConnection

/-- Where a segment starts, counted from the peer's initial number. -/
def firstNumber
    (isn : WrappingInt32)
    (seg : TCPSegment) : Nat :=
  (seg.header.seqno.rawValue - isn.rawValue).toNat

/-- The segment takes up the number; an empty one stands at its own. -/
def Occupies
    (isn : WrappingInt32)
    (seg : TCPSegment)
    (number : Nat) : Prop :=
  firstNumber isn seg ≤ number ∧
    number < firstNumber isn seg + max seg.lengthInSequenceSpace 1

/-- Some number of the segment lies in the receiver's window. -/
def Overlaps
    (isn : WrappingInt32)
    (seg : TCPSegment)
    (receiver : TCPReceiver) : Prop :=
  ∃ number,
    Occupies isn seg number ∧
      receiver.assembled ≤ number ∧
      number < receiver.assembled + receiver.windowSize

/-- Neither SYN nor RST, and no number past the end of the sequence space. -/
structure Ordinary
    (isn : WrappingInt32)
    (seg : TCPSegment) : Prop where
  noSyn : seg.header.syn = false
  noRst : seg.header.rst = false
  within : firstNumber isn seg + seg.lengthInSequenceSpace ≤ 2 ^ 32

/--
The segment reaches the receiver exactly if it overlaps the window, and a
segment with a number of its own is answered by an acknowledgment of what the
receiver has then.
-/
structure FilteredExactly
    (isn : WrappingInt32)
    (connection : TCPConnection)
    (order : IterationOrder)
    (seg : TCPSegment) : Prop where
  handed :
    connection.checkSegmentInWindow seg = true ↔
      Overlaps isn seg connection.receiver
  inside :
    Overlaps isn seg connection.receiver →
    (connection.segmentReceived seg order).receiver =
      connection.receiver.segmentReceived order seg
  outside :
    ¬ Overlaps isn seg connection.receiver →
    (connection.segmentReceived seg order).receiver =
      connection.receiver
  answered :
    seg.lengthInSequenceSpace ≠ 0 →
    ∃ answer ∈ connection.pushed (.segmentReceived order seg),
      answer.header.ack = true ∧
        (connection.segmentReceived seg order).receiver.ackno =
          some answer.header.ackno

section Filter

variable {isn : WrappingInt32} {seg : TCPSegment}
variable {connection : TCPConnection}

/-- What the test computes once the peer's number is known. -/
theorem checkSegmentInWindow_iff
    (copied : connection.isnReceiver = some isn)
    (known : connection.receiver.isn = some isn)
    (few : connection.receiver.assembled < 2 ^ 32) :
    connection.checkSegmentInWindow seg = true ↔
      connection.receiver.assembled <
          firstNumber isn seg + max seg.lengthInSequenceSpace 1 ∧
        firstNumber isn seg <
          connection.receiver.rightEdge % 2 ^ 64 := by
  have windowStart :
      unwrap (wrap connection.receiver.assembled isn) isn 0 =
        connection.receiver.assembled := by
    rw [unwrap_zero_wrap, Nat.mod_eq_of_lt few]
  simp only [checkSegmentInWindow, copied, ackno_eq known, windowStart,
    TCPReceiver.rightEdge, firstNumber, unwrap_zero]
  generalize (connection.receiver.assembled +
    connection.receiver.windowSize) % 2 ^ 64 = windowEnd
  by_cases empty : seg.lengthInSequenceSpace = 0
  · rw [if_pos empty, empty]
    split_ifs <;> simp <;> omega
  · rw [if_neg empty]
    split_ifs <;> simp <;> omega

/-- Overlap of two intervals, by their ends. -/
theorem overlaps_iff
    {receiver : TCPReceiver}
    (isOpen : 0 < receiver.windowSize) :
    Overlaps isn seg receiver ↔
      receiver.assembled <
          firstNumber isn seg + max seg.lengthInSequenceSpace 1 ∧
        firstNumber isn seg < receiver.rightEdge := by
  rw [TCPReceiver.rightEdge]
  constructor
  · rintro ⟨number, ⟨starts, ends⟩, left, right⟩
    omega
  · rintro ⟨left, right⟩
    refine ⟨max (firstNumber isn seg) receiver.assembled, ⟨?_, ?_⟩, ?_, ?_⟩
    all_goals omega

/-- Without SYN and RST the notes leave the window test as it was. -/
theorem noted_plain
    (noSyn : seg.header.syn = false)
    (noRst : seg.header.rst = false) :
    (connection.noted seg).receiver = connection.receiver ∧
      (connection.noted seg).checkSegmentInWindow seg =
        connection.checkSegmentInWindow seg := by
  constructor
  · rw [noted_receiver_eq, noRst]
    rfl
  · rw [noted_checkSegmentInWindow, recordIsn, noSyn]
    rfl

/-- The receiver a segment without SYN and RST leaves. -/
theorem segmentReceived_receiver
    (noSyn : seg.header.syn = false)
    (noRst : seg.header.rst = false)
    (order : IterationOrder) :
    (connection.segmentReceived seg order).receiver =
      if connection.checkSegmentInWindow seg then
        connection.receiver.segmentReceived order seg
      else
        connection.receiver := by
  obtain ⟨receiver, sameTest⟩ :=
    @noted_plain seg connection noSyn noRst
  rw [(segmentReceived_inbound order seg connection).receiver,
    receivePayload, sameTest]
  split
  · exact congrArg (TCPReceiver.segmentReceived order seg) receiver
  · exact receiver

/-- With the peer's number known, such a segment is acknowledged. -/
theorem pushed_acknowledges
    {ackno : WrappingInt32}
    (occupies : seg.lengthInSequenceSpace ≠ 0)
    (order : IterationOrder)
    (synchronized :
      (connection.segmentReceived seg order).receiver.ackno =
        some ackno) :
    ∃ answer ∈ connection.pushed (.segmentReceived order seg),
      answer.header.ack = true ∧ answer.header.ackno = ackno := by
  obtain ⟨first, others, produced⟩ :=
    List.exists_cons_of_ne_nil
      (produced_ne_nil connection occupies order)
  refine ⟨stamp (connection.segmentReceived seg order).receiver first,
    ?_, ?_⟩
  · rw [pushed_eq, produced]
    exact List.mem_append_left _ (List.mem_map_of_mem List.mem_cons_self)
  · rw [stamp_of_known synchronized]
    exact ⟨rfl, rfl⟩

/-- A right edge of 64 bits makes the test exact. -/
theorem FilteredExactly.of_edge
    (copied : connection.isnReceiver = some isn)
    (known : connection.receiver.isn = some isn)
    (isOpen : 0 < connection.receiver.windowSize)
    (few : connection.receiver.assembled < 2 ^ 32)
    (fits : connection.receiver.rightEdge < 2 ^ 64)
    (ordinary : Ordinary isn seg)
    (order : IterationOrder) :
    FilteredExactly isn connection order seg := by
  have test :
      connection.checkSegmentInWindow seg = true ↔
        Overlaps isn seg connection.receiver := by
    rw [checkSegmentInWindow_iff copied known few, overlaps_iff isOpen,
      Nat.mod_eq_of_lt fits]
  have receiver :=
    @segmentReceived_receiver seg connection ordinary.noSyn
      ordinary.noRst order
  refine ⟨test, ?_, ?_, ?_⟩
  · intro overlaps
    rw [receiver, if_pos (test.mpr overlaps)]
  · intro apart
    rw [receiver, if_neg (fun passes => apart (test.mp passes))]
  · intro occupies
    have stillKnown :
        (connection.segmentReceived seg order).receiver.isn =
          some isn := by
      rw [receiver]
      split
      · rw [TCPReceiver.segmentReceived_isn, ordinary.noSyn]
        exact known
      · exact known
    obtain ⟨answer, placed, acknowledges, ackno⟩ :=
      pushed_acknowledges occupies order (ackno_eq stillKnown)
    refine ⟨answer, placed, acknowledges, ?_⟩
    rw [ackno, ackno_eq stillKnown]

/-- An empty segment with a given number. -/
def probeAt (seqno : WrappingInt32) : TCPSegment where
  header := { seqno := seqno }

/-- The probe at the left end of the window. -/
theorem firstNumber_probeAt
    {receiver : TCPReceiver}
    (few : receiver.assembled < 2 ^ 32) :
    firstNumber isn (probeAt (wrap receiver.assembled isn)) =
      receiver.assembled := by
  have unwrapped := unwrap_zero_wrap receiver.assembled isn
  rw [unwrap_zero, Nat.mod_eq_of_lt few] at unwrapped
  exact unwrapped

/-- If the right edge wraps, the test refuses the left end of the window. -/
theorem edge_of_probe_passes
    (copied : connection.isnReceiver = some isn)
    (known : connection.receiver.isn = some isn)
    (few : connection.receiver.assembled < 2 ^ 32)
    (sizeT : connection.receiver.windowSize < 2 ^ 64)
    (passes :
      connection.checkSegmentInWindow
        (probeAt (wrap connection.receiver.assembled isn)) = true) :
    connection.receiver.rightEdge < 2 ^ 64 := by
  rw [checkSegmentInWindow_iff copied known few, firstNumber_probeAt few]
    at passes
  have inside := passes.2
  rw [TCPReceiver.rightEdge] at inside ⊢
  by_contra wraps
  have wrapped :
      (connection.receiver.assembled +
          connection.receiver.windowSize) % 2 ^ 64 =
        connection.receiver.assembled +
          connection.receiver.windowSize - 2 ^ 64 := by
    rw [Nat.mod_eq_sub_mod (Nat.not_lt.mp wraps)]
    exact Nat.mod_eq_of_lt (by omega)
  omega

end Filter

/-- Every SYN repeats the first: both copies of the peer's number agree. -/
theorem isnReceiver_after
    (cfg : TCPConfig)
    (random : WrappingInt32)
    {calls : List Op}
    (repeated :
      Execution.EveryStep Session.step
        (fun session op => op.RepeatsIsn session.connection)
        (Session.start cfg random) calls) :
    (Session.after cfg random calls).connection.isnReceiver =
      (Session.after cfg random calls).connection.receiver.isn := by
  refine Execution.EveryStep.invariant
    (fun session : Session =>
      session.connection.isnReceiver = session.connection.receiver.isn)
    ?_ rfl repeated
  intro session op agrees repeats
  exact ((isnFixed_perform_iff op agrees).mpr repeats).agrees

/-- The receiver of a connection has the capacity it was configured with. -/
theorem capacity_after
    (cfg : TCPConfig)
    (random : WrappingInt32)
    (calls : List Op) :
    (Session.after cfg random calls).connection.receiver.capacity =
      cfg.recvCapacity := by
  refine Execution.run_invariant
    (fun session : Session =>
      session.connection.receiver.capacity = cfg.recvCapacity)
    ?_ rfl calls
  intro session op capacity
  exact perform_receiver
    (fun receiver => receiver.capacity = cfg.recvCapacity)
    (fun _ held => held)
    (fun _ _ held => held)
    (fun receiver order seg held =>
      (receiver.segmentReceived_capacity order seg).trans held)
    session.connection op capacity

/--
While every SYN repeats the first and the acknowledged position has not left the
sequence space, an open window admits exactly the segments that overlap it, and
answers each of them that takes up numbers, if and only if its right edge is a
64-bit number.
-/
theorem window_filter_exact_iff
    (cfg : TCPConfig)
    (random isn : WrappingInt32)
    (calls : List Op)
    (sizeT : cfg.recvCapacity < 2 ^ 64)
    (repeated :
      Execution.EveryStep Session.step
        (fun session op => op.RepeatsIsn session.connection)
        (Session.start cfg random) calls)
    (synchronized :
      (Session.after cfg random calls).connection.receiver.isn = some isn)
    (isOpen :
      0 < (Session.after cfg random
        calls).connection.receiver.windowSize)
    (few :
      (Session.after cfg random
        calls).connection.receiver.assembled < 2 ^ 32) :
    let before := (Session.after cfg random calls).connection
    (∀ order seg,
        Ordinary isn seg →
        FilteredExactly isn before order seg) ↔
      before.receiver.assembled + before.receiver.windowSize <
        2 ^ 64 := by
  intro before
  have copied : before.isnReceiver = some isn :=
    (isnReceiver_after cfg random repeated).trans synchronized
  constructor
  · intro exact
    -- the probe at the left end of an open window has to pass
    have start := @firstNumber_probeAt isn before.receiver few
    have ordinary :
        Ordinary isn (probeAt (wrap before.receiver.assembled isn)) := by
      refine ⟨rfl, rfl, ?_⟩
      rw [start]
      exact Nat.le_of_lt few
    have overlaps :
        Overlaps isn (probeAt (wrap before.receiver.assembled isn))
          before.receiver := by
      rw [overlaps_iff isOpen, start]
      exact ⟨Nat.lt_succ_self _, Nat.lt_add_of_pos_right isOpen⟩
    have narrow : before.receiver.windowSize < 2 ^ 64 := by
      rw [(TCPReceiver.rightEdge_eq (counted_after cfg random calls)).2.1,
        capacity_after cfg random calls]
      exact Nat.lt_of_le_of_lt (Nat.sub_le _ _) sizeT
    exact edge_of_probe_passes copied synchronized few narrow
      ((exact .stored _ ordinary).handed.mpr overlaps)
  · intro fits order seg ordinary
    exact .of_edge copied synchronized isOpen few fits ordinary order

/-- The first byte after the peer's SYN. -/
def firstByte : TCPSegment where
  header := { seqno := ⟨101⟩ }
  payload := [97]

theorem window_filter_exact_iff_default :
    let before :=
      (Session.after {} ⟨0⟩
        [.segmentReceived .stored (synAt 100)]).connection
    before.receiver.assembled + before.receiver.windowSize < 2 ^ 64 ∧
      FilteredExactly ⟨100⟩ before .stored firstByte := by
  have repeated :
      Execution.EveryStep Session.step
        (fun session op => op.RepeatsIsn session.connection)
        (Session.start {} ⟨0⟩)
        [.segmentReceived .stored (synAt 100)] := by
    refine ⟨?_, trivial⟩
    intro _ isn known
    cases known
  refine ⟨by decide +kernel, ?_⟩
  exact (window_filter_exact_iff {} ⟨0⟩ ⟨100⟩ _ (by decide) repeated
    (by decide +kernel) (by decide +kernel) (by decide +kernel)).mpr
    (by decide +kernel) .stored firstByte ⟨rfl, rfl, by decide⟩

/--
With the largest capacity the right edge wraps to zero: the first byte lies in
the window and is refused.
-/
theorem widest_window_admits_nothing :
    let before :=
      (Session.after { recvCapacity := 2 ^ 64 - 1 } ⟨0⟩
        [.segmentReceived .stored (synAt 100)]).connection
    let after := before.segmentReceived firstByte .stored
    before.receiver.isn = some ⟨100⟩ ∧
      before.receiver.assembled = 1 ∧
      before.receiver.windowSize = 2 ^ 64 - 1 ∧
      Ordinary ⟨100⟩ firstByte ∧
      Overlaps ⟨100⟩ firstByte before.receiver ∧
      before.checkSegmentInWindow firstByte = false ∧
      after.inboundStream.bytesWritten = 0 := by
  refine ⟨by decide +kernel, by decide +kernel, by decide +kernel,
    ⟨rfl, rfl, by decide⟩, ⟨1, ?_⟩, by decide +kernel,
    by decide +kernel⟩
  unfold Occupies
  decide +kernel

end TCPConnection

end Sponge
