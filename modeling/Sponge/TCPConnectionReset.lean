import Sponge.TCPConnectionShutdown
import Sponge.TCPConnectionWindow

namespace Sponge

/-!
# Receiving a reset

The branch that handles a RST sets both error flags and closes, but it does not
return: the segment goes on through the receiver, the acknowledgment and the
reply like any other.  A reset is therefore silent only if each of these later
steps has nothing to do.
-/

namespace StreamReassembler

/-- The output has ended if everything up to the recorded end was written. -/
def Concluded (r : StreamReassembler) : Prop :=
  r.endFlag = true →
  r.bytesWrited = r.totalWrite →
  r.output.endFlag = true

section Concluded

variable {r : StreamReassembler}

theorem concluded_endIfComplete
    (r : StreamReassembler) :
    r.endIfComplete.Concluded := by
  intro ends complete
  unfold endIfComplete at *
  split at complete
  · rename_i isComplete
    rw [if_pos isComplete]
    rfl
  · rename_i incomplete
    rw [if_neg incomplete] at ends
    exact (incomplete ⟨ends, complete⟩).elim

/-- Every push ends with the test, so it leaves nothing to conclude. -/
theorem concluded_pushSubstring
    (order : IterationOrder)
    (data : Bytes)
    (index : Nat)
    (eof : Bool)
    (r : StreamReassembler) :
    (r.pushSubstring order data index eof).Concluded := by
  by_cases nonempty : data = []
  · rw [pushSubstring_of_empty _ _ _ _ nonempty]
    exact concluded_endIfComplete _
  · rw [pushSubstring_of_nonempty _ _ _ _ nonempty]
    exact concluded_endIfComplete _

theorem Concluded.endIfComplete
    (concluded : r.Concluded) :
    r.endIfComplete = r := by
  unfold StreamReassembler.endIfComplete
  split
  · rename_i complete
    have ended := concluded complete.1 complete.2
    have sameOutput : r.output.endInput = r.output := by
      rw [ByteStream.endInput, ← ended]
    rw [sameOutput]
  · rfl

/-- Pushing nothing, without the end, changes nothing. -/
theorem Concluded.pushSubstring_nothing
    (concluded : r.Concluded)
    (order : IterationOrder)
    (index : Nat) :
    r.pushSubstring order [] index false = r :=
  concluded.endIfComplete

/-- A push leaves the error flag of the output alone. -/
theorem pushSubstring_error
    (order : IterationOrder)
    (data : Bytes)
    (index : Nat)
    (eof : Bool)
    (r : StreamReassembler) :
    (r.pushSubstring order data index eof).output.error =
      r.output.error := by
  refine pushSubstring_invariant
    (fun next => next.output.error = r.output.error)
    (fun _ _ _ held => held) (fun _ _ held => held) ?_
    (fun _ held => held) order data index eof rfl
  intro next element held
  rcases visit_output next element with ⟨output, _⟩ | ⟨written, output, _⟩
  · rw [output]
    exact held
  · rw [output, ByteStream.write_error]
    exact held

end Concluded

end StreamReassembler

namespace TCPReceiver

variable {receiver : TCPReceiver} {seg : TCPSegment}

theorem segmentReceived_error
    (order : IterationOrder)
    (seg : TCPSegment)
    (receiver : TCPReceiver) :
    (receiver.segmentReceived order seg).streamOut.error =
      receiver.streamOut.error :=
  receiver.segmentReceived_invariant order seg
    (fun next => next.output.error = receiver.reassembler.output.error)
    (fun _ => StreamReassembler.pushSubstring_error order _ _ _ _)
    rfl

/-- A segment that takes up no numbers changes nothing. -/
theorem segmentReceived_of_empty
    (concluded : receiver.reassembler.Concluded)
    (empty : seg.lengthInSequenceSpace = 0)
    (order : IterationOrder) :
    receiver.segmentReceived order seg = receiver := by
  obtain ⟨noPayload, noSyn, noFin⟩ :=
    TCPSegment.lengthInSequenceSpace_eq_zero.mp empty
  have unrecorded : receiver.recordSyn seg = receiver := by
    rw [recordSyn, noSyn]
    rfl
  rw [segmentReceived, pushArguments, unrecorded, noPayload, noFin]
  split
  · rfl
  · rename_i handed
    split at handed
    · cases handed
    · cases handed
      rw [concluded.pushSubstring_nothing]

end TCPReceiver

namespace TCPSender

theorem buildSegment_error
    (sender : TCPSender) :
    sender.buildSegment.2.stream.error = sender.stream.error := by
  have begun : sender.beginSegment.2.2.stream = sender.stream := by
    unfold beginSegment
    split <;> rfl
  have ended :
      ∀ (segment : TCPSegment) (middle : TCPSender),
        (addFin segment middle).2.stream = middle.stream := by
    intro segment middle
    unfold addFin
    split <;> rfl
  unfold buildSegment
  dsimp only
  rw [ended, ByteStream.read_error, begun]

/-- Filling the window leaves the error flag of the stream alone. -/
theorem fillLoop_error
    (fuel : Nat)
    (sender : TCPSender) :
    (fillLoop fuel sender).stream.error = sender.stream.error := by
  refine fillLoop_invariant
    (fun after => after.stream.error = sender.stream.error) ?_ ?_ fuel rfl
  · intro middle same
    exact (buildSegment_error middle).trans same
  · intro middle segment same _
    exact same

end TCPSender

namespace TCPConnection

section Stages

variable (order : IterationOrder) (seg : TCPSegment)
variable (connection : TCPConnection)

/-- The notes of a reset set the error flag of the outbound stream. -/
theorem noted_sender_stream :
    (connection.noted seg).sender.stream =
      if seg.header.rst then
        connection.sender.stream.setError
      else
        connection.sender.stream := by
  unfold noted passiveClose recordIsn receiveRst
  repeat' split
  all_goals rfl

/-- Up to the reply the outbound stream is the one noted. -/
theorem heard_stream :
    (connection.heard order seg).sender.stream =
      (connection.noted seg).sender.stream := by
  have handed :
      ((connection.noted seg).receivePayload seg order).sender =
        (connection.noted seg).sender := by
    unfold receivePayload
    split <;> rfl
  unfold heard receiveAck
  split
  · rw [(TCPSender.ackReceived_frame _ _ _).stream, handed]
  · rw [handed]

/-- The stream a segment leaves to the sender. -/
theorem segmentReceived_stream :
    (connection.segmentReceived seg order).sender.stream =
      if seg.lengthInSequenceSpace ≠ 0 then
        (connection.heard order seg).sender.fillWindow.stream
      else
        (connection.heard order seg).sender.stream := by
  have kept :
      ∀ middle : TCPConnection,
        (middle.replyKeepAlive seg).sendSegment.sender.stream =
          middle.sender.stream := by
    intro middle
    unfold replyKeepAlive
    repeat' split
    all_goals rfl
  have replied :
      ∀ middle : TCPConnection,
        (middle.reply seg).sender.stream =
          if seg.lengthInSequenceSpace ≠ 0 then
            middle.sender.fillWindow.stream
          else
            middle.sender.stream := by
    intro middle
    unfold reply
    dsimp only
    repeat' split
    all_goals rfl
  exact (kept ((connection.heard order seg).reply seg)).trans
    (replied (connection.heard order seg))

end Stages

/-- Every push was concluded, on whatever call of the connection. -/
theorem concluded_after
    (cfg : TCPConfig)
    (random : WrappingInt32)
    (calls : List Op) :
    (Session.after cfg random
      calls).connection.receiver.reassembler.Concluded := by
  refine Execution.run_invariant
    (fun session : Session =>
      session.connection.receiver.reassembler.Concluded)
    ?_ ?_ calls
  · intro session op concluded
    refine perform_receiver
      (fun receiver => receiver.reassembler.Concluded)
      (fun _ held => held) ?_ ?_ session.connection op concluded
    · intro receiver len held ends complete
      exact (ByteStream.read_endFlag len receiver.reassembler.output).trans
        (held ends complete)
    · intro receiver order seg held
      exact receiver.segmentReceived_invariant order seg
        StreamReassembler.Concluded
        (fun _ => StreamReassembler.concluded_pushSubstring order _ _ _ _)
        held
  · intro ends
    cases ends

/-- The connection is closed and both of its streams are in error. -/
structure Aborted (connection : TCPConnection) : Prop where
  inactive : connection.active = false
  outbound : connection.sender.stream.error = true
  inbound : connection.inboundStream.error = true

/-- Nothing was sent, taken from one stream or delivered to the other. -/
structure Silent (before after : TCPConnection) : Prop where
  unanswered : after.segmentsOut = before.segmentsOut
  nothingTaken :
    after.sender.stream.bytesRead = before.sender.stream.bytesRead
  nothingDelivered :
    after.inboundStream.bytesWritten = before.inboundStream.bytesWritten

section Reset

variable {connection : TCPConnection} {seg : TCPSegment}

/-- A reset always aborts the connection. -/
theorem aborted_of_rst
    (isRst : seg.header.rst = true)
    (order : IterationOrder) :
    Aborted (connection.segmentReceived seg order) := by
  refine ⟨?_, ?_, ?_⟩
  · rw [active, (segmentReceived_frame order seg connection).2.2.2, isRst,
      Bool.or_true]
    rfl
  · have flagged :
        (connection.heard order seg).sender.stream.error = true := by
      rw [heard_stream, noted_sender_stream, isRst]
      rfl
    rw [segmentReceived_stream]
    split
    · exact (TCPSender.fillLoop_error _ _).trans flagged
    · exact flagged
  · have flagged :
        (connection.noted seg).receiver.streamOut.error = true := by
      rw [noted_receiver_eq, isRst]
      rfl
    rw [inboundStream,
      (segmentReceived_inbound order seg connection).receiver,
      receivePayload]
    split
    · exact (TCPReceiver.segmentReceived_error order seg _).trans flagged
    · exact flagged

/-- A segment that takes up no numbers passes the receiver by. -/
theorem receiver_of_empty
    (concluded : connection.receiver.reassembler.Concluded)
    (isRst : seg.header.rst = true)
    (empty : seg.lengthInSequenceSpace = 0)
    (order : IterationOrder) :
    ((connection.noted seg).receivePayload seg order).receiver =
      connection.receiver.setError := by
  have noted :
      (connection.noted seg).receiver = connection.receiver.setError := by
    rw [noted_receiver_eq, isRst]
    rfl
  have stillConcluded :
      connection.receiver.setError.reassembler.Concluded :=
    concluded
  rw [receivePayload]
  split
  · change (connection.noted seg).receiver.segmentReceived order seg = _
    rw [noted, TCPReceiver.segmentReceived_of_empty stillConcluded empty]
  · exact noted

/-- What the sender produces for a reset that takes up no numbers. -/
theorem produced_eq_nil_iff
    (concluded : connection.receiver.reassembler.Concluded)
    (isRst : seg.header.rst = true)
    (empty : seg.lengthInSequenceSpace = 0)
    (order : IterationOrder) :
    connection.produced (.segmentReceived order seg) = [] ↔
      connection.keepsAlive seg = false ∧
        connection.sender.segmentsOut = [] := by
  have receiver :
      (connection.heard order seg).receiver =
        connection.receiver.setError := by
    rw [heard, (sameInbound_receiveAck seg _).receiver]
    exact receiver_of_empty concluded isRst empty order
  have sameTest :
      (connection.heard order seg).keepsAlive seg =
        connection.keepsAlive seg := by
    unfold keepsAlive
    rw [receiver]
    rfl
  have noFill : ¬ (seg.lengthInSequenceSpace ≠ 0) :=
    not_not.mpr empty
  rw [produced, firstSent, if_neg noFill, answers,
    if_neg (fun both => noFill (And.left both)), sameTest]
  cases connection.keepsAlive seg with
  | false => simp
  | true => simp

end Reset

/--
A reset always aborts the connection.  It is silent exactly if it takes up no
sequence number, is not placed where a keep-alive is, and finds nothing left in
the sender's queue.
-/
theorem reset_silent_iff
    (cfg : TCPConfig)
    (random : WrappingInt32)
    (calls : List Op)
    (order : IterationOrder)
    (seg : TCPSegment)
    (isRst : seg.header.rst = true) :
    let before := (Session.after cfg random calls).connection
    let after := before.segmentReceived seg order
    Aborted after ∧
      (Silent before after ↔
        seg.lengthInSequenceSpace = 0 ∧
          before.keepsAlive seg = false ∧
          before.sender.segmentsOut = []) := by
  intro before after
  have concluded := concluded_after cfg random calls
  have queue := segmentReceived_segmentsOut before order seg
  have unanswered_iff :
      after.segmentsOut = before.segmentsOut ↔
        before.produced (.segmentReceived order seg) = [] := by
    rw [queue, List.append_right_eq_self, List.map_eq_nil_iff]
  refine ⟨aborted_of_rst isRst order, ?_⟩
  constructor
  · intro silent
    have unproduced := unanswered_iff.mp silent.unanswered
    have empty : seg.lengthInSequenceSpace = 0 := by
      by_contra occupies
      exact produced_ne_nil before occupies order unproduced
    exact ⟨empty,
      (produced_eq_nil_iff concluded isRst empty order).mp unproduced⟩
  · rintro ⟨empty, nothingLeft⟩
    refine ⟨?_, ?_, ?_⟩
    · exact unanswered_iff.mpr
        ((produced_eq_nil_iff concluded isRst empty order).mpr
          nothingLeft)
    · rw [segmentReceived_stream, if_neg (not_not.mpr empty),
        heard_stream, noted_sender_stream, isRst]
      rfl
    · rw [inboundStream,
        (segmentReceived_inbound order seg before).receiver,
        receiver_of_empty concluded isRst empty order]
      rfl

/-- A reset at a given number, with a payload. -/
def resetAt
    (seqno : UInt32)
    (payload : Bytes) : TCPSegment where
  header := {
    seqno := ⟨seqno⟩
    rst := true }
  payload := payload

/-- A connection whose peer has sent its SYN. -/
def afterSyn : TCPConnection :=
  (Session.after {} ⟨0⟩
    [.segmentReceived .stored (synAt 100)]).connection

theorem reset_silent_iff_empty :
    Aborted (afterSyn.segmentReceived (resetAt 101 []) .stored) ∧
      Silent afterSyn
        (afterSyn.segmentReceived (resetAt 101 []) .stored) := by
  obtain ⟨aborted, silent⟩ :=
    reset_silent_iff {} ⟨0⟩ [.segmentReceived .stored (synAt 100)]
      .stored (resetAt 101 []) rfl
  exact ⟨aborted, silent.mpr (by decide +kernel)⟩

/-- A reset with a byte is answered and its byte is delivered. -/
theorem reset_with_payload_answered :
    let after := afterSyn.segmentReceived (resetAt 101 [97]) .stored
    after.segmentsOut ≠ afterSyn.segmentsOut ∧
      after.segmentsOut.length = afterSyn.segmentsOut.length + 1 ∧
      afterSyn.inboundStream.contents = [] ∧
      after.inboundStream.contents = [97] := by
  decide +kernel

end TCPConnection

end Sponge
