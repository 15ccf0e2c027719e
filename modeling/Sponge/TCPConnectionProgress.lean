import Sponge.StreamReassemblerWindow
import Sponge.TCPConnectionBackoff
import Sponge.TCPConnectionWindow
import Sponge.TCPSenderOutstanding

namespace Sponge

/-!
# Progress of a connection

The results here say what does happen rather than what does not: a sender with
work left sends its first outstanding segment again when its timer expires, a
receiver with an open window takes up the number it waits for, every segment
with a number of its own is acknowledged, and an acknowledgment of new data is
accepted.  `TCPNetworkRecovery` puts the four together.
-/

namespace TCPSender

/-- Everything the application wrote was sent and acknowledged. -/
def Finished (sender : TCPSender) : Prop :=
  sender.retransmissionQueue = [] ∧
    (sender.state = .finSent ∨
      sender.stream.size = 0 ∧ sender.stream.endFlag = false)

/-- A sender with work left has a segment outstanding once it fills its window. -/
theorem fillWindow_outstanding
    {sender : TCPSender}
    {written : Bytes}
    {log : List TCPSegment}
    (tracked : Session.Tracked ⟨sender, written, log⟩)
    (unfinished : ¬ sender.Finished) :
    sender.fillWindow.retransmissionQueue ≠ [] := by
  obtain ⟨sent, fills⟩ := fillWindow_fills tracked.logged.ready
  rw [fills.frame.retransmissionQueue]
  intro nothing
  obtain ⟨emptied, silent⟩ := List.append_eq_nil_iff.mp nothing
  have drained : sender.bytesInFlight = 0 :=
    (tracked.queued.bytesInFlight_eq_zero_iff tracked.logged).mpr emptied
  have hasRoom : sender.room ≠ 0 := by
    rw [room, drained]
    intro full
    exact tracked.windowOpen
      (UInt16.toNat_inj.mp (sub64_eq_zero_iff.mp full))
  have notFin : sender.state ≠ .finSent := fun isFinished =>
    unfinished ⟨emptied, Or.inl isFinished⟩
  subst silent
  generalize sender.fillWindow = filled at fills
  cases fills with
  | full stops =>
      exact stops.elim hasRoom notFin
  | idle _ _ built nothing =>
      obtain ⟨_, _, _, drainedAfter, notAtEnd⟩ :=
        built.nothing_left hasRoom nothing
      have unended : sender.stream.endFlag = false := by
        rw [← built.streamFrame.1]
        simpa [ByteStream.eof, drainedAfter] using notAtEnd
      exact unfinished ⟨emptied, Or.inr ⟨(built.idle nothing).1, unended⟩⟩

/-- The passage of time adds at most one retransmission. -/
theorem tick_consecutiveRetran_le
    (msSinceLastTick : Nat)
    (sender : TCPSender) :
    (sender.tick msSinceLastTick).consecutiveRetran ≤
      sender.consecutiveRetran + 1 := by
  rcases tick_cases msSinceLastTick sender with
    ⟨rto, waited⟩ | ⟨_, fired⟩
  · rw [waited]
    exact Nat.le_succ _
  · rw [fired]
    unfold retransmit
    split
    · exact Nat.le_succ _
    · dsimp only
      split
      · exact Nat.le_succ _
      · unfold countRetransmission
        dsimp only
        repeat' split
        all_goals simp only
        all_goals omega

end TCPSender

namespace TCPEndpoint

open TCPSender

section Sink

variable {source : TCPSender.Session} {sink : TCPEndpoint}
variable {leading trailing : List TCPSegment} {seg : TCPSegment}

/-- Nothing was sent before the segment that starts the sequence space. -/
theorem syn_of_seqLength_eq_zero
    (tracked : source.Tracked)
    (shape : source.log = leading ++ seg.content :: trailing)
    (starts : seqLength leading = 0) :
    seg.header.syn = true := by
  cases leading with
  | nil =>
      exact (tracked.logged.marked.synFirst seg.content trailing shape).1
  | cons first rest =>
      have isSyn := (tracked.logged.marked.synFirst first _ shape).1
      simp [TCPSegment.lengthInSequenceSpace, isSyn] at starts

/-- A logged segment has the number of what was sent before it. -/
theorem seqno_of_logged
    (tracked : source.Tracked)
    (shape : source.log = leading ++ seg.content :: trailing) :
    seg.header.seqno = wrap (seqLength leading) source.sender.isn := by
  have numbered := tracked.logged.numbered
  rw [shape, Numbered.append_iff, Nat.zero_add] at numbered
  exact numbered.2.1

/-- A logged segment ends before the next number to be sent. -/
theorem logged_end_le
    (tracked : source.Tracked)
    (shape : source.log = leading ++ seg.content :: trailing) :
    seqLength leading + seg.lengthInSequenceSpace ≤
      source.sender.nextSeqnoAbsolute := by
  have next := tracked.logged.next
  rw [shape, seqLength_append, seqLength_cons] at next
  have same :
      seg.content.lengthInSequenceSpace = seg.lengthInSequenceSpace :=
    rfl
  omega

/-- A logged segment is part of the numbered stream of sent bytes. -/
theorem consistent_of_logged
    (tracked : source.Tracked)
    (shape : source.log = leading ++ seg.content :: trailing) :
    TCPReceiver.ConsistentSegment source.sender.isn (payloads source.log)
      seg := by
  have carries : Carries source.log seg := by
    right
    rw [shape]
    simp
  exact (carries.consistent tracked).1

/-- The numbers of a logged segment, by the index of its payload. -/
theorem logged_position
    (tracked : source.Tracked)
    (small : source.sender.nextSeqnoAbsolute < 2 ^ 32)
    (shape : source.log = leading ++ seg.content :: trailing)
    (occupies : seg.lengthInSequenceSpace ≠ 0) :
    ∃ index,
      TCPReceiver.strIndex seg.header source.sender.isn = index ∧
        index + 1 ≤ max (seqLength leading) 1 ∧
        seqLength leading + seg.lengthInSequenceSpace =
          index + 1 + seg.payload.length + seg.header.fin.toNat ∧
        StreamReassembler.ConsistentPush (payloads source.log)
          seg.payload index seg.header.fin := by
  have short := tracked.logged.payloads_short small
  have ends := logged_end_le tracked shape
  have seqno := seqno_of_logged tracked shape
  rcases consistent_of_logged tracked shape with
    nothing | ⟨index, numbered, first, push⟩
  · exact (occupies nothing).elim
  · have inside := push.inside
    have strIndex :=
      TCPReceiver.strIndex_of_numbered numbered first (by omega)
    have length :
        seg.lengthInSequenceSpace =
          seg.payload.length + (if seg.header.syn then 1 else 0) +
            seg.header.fin.toNat := by
      unfold TCPSegment.lengthInSequenceSpace
      cases seg.header.fin <;> rfl
    have starts :
        unwrap seg.header.seqno source.sender.isn 0 =
          seqLength leading := by
      rw [seqno, unwrap_zero_wrap_of_lt (by omega)]
    by_cases syn : seg.header.syn = true
    · have atZero := first syn
      rw [numbered, if_pos syn, unwrap_zero_wrap_of_lt (by decide)]
        at starts
      rw [if_pos syn] at length
      exact ⟨index, strIndex, by omega, by omega, push⟩
    · rw [numbered, if_neg syn, unwrap_zero_wrap_of_lt (by omega)]
        at starts
      rw [if_neg syn] at length
      exact ⟨index, strIndex, by omega, by omega, push⟩

/--
A receiver with room takes up the number it waits for, be it the number of a
byte or of the FIN.
-/
theorem Flow.receive_advances
    (flow : Flow source sink)
    (tracked : source.Tracked)
    (small : source.sender.nextSeqnoAbsolute < 2 ^ 32)
    (shape : source.log = leading ++ seg.content :: trailing)
    (known :
      sink.receiver.isn = some source.sender.isn ∨
        seg.header.syn = true)
    (starts : seqLength leading ≤ sink.receiver.assembled)
    (ends :
      sink.receiver.assembled <
        seqLength leading + seg.lengthInSequenceSpace)
    (hasRoom :
      sink.receiver.reassembler.willing <
        sink.receiver.reassembler.output.bytesR +
          sink.receiver.reassembler.capacity)
    (order : IterationOrder) :
    sink.receiver.assembled <
      (sink.receiver.segmentReceived order seg).assembled := by
  obtain ⟨index, strIndex, low, high, push⟩ :=
    logged_position tracked small shape (by omega)
  have consistent := consistent_of_logged tracked shape
  have short := tracked.logged.payloads_short small
  have inside := push.inside
  have received :=
    TCPReceiver.segmentReceived_of_known
      (consistent.recordSyn_isn known) order
  rw [strIndex] at received
  have sound := flow.sound.pushSubstring (by omega) push order
  have endFlag :=
    StreamReassembler.pushSubstring_endFlag order seg.payload index
      seg.header.fin sink.receiver.reassembler
  have more :=
    StreamReassembler.pushSubstring_willing_le order seg.payload index
      seg.header.fin sink.receiver.reassembler
  have atMostFin := seg.header.fin.toNat_le
  rw [high] at ends
  simp only [TCPReceiver.assembled, TCPReceiver.streamOut,
    ByteStream.bytesWritten, ByteStream.inputEnded,
    flow.sound.layout.written] at starts ends ⊢
  rw [received]
  simp only [sound.layout.written]
  -- a stream that has ended leaves no number to wait for
  have unended : sink.receiver.reassembler.output.endFlag = false := by
    by_contra hasEnded
    have ended := Bool.of_not_eq_false hasEnded
    obtain ⟨_, all⟩ := flow.sound.ended_iff.mp ended
    rw [ended, Bool.toNat_true] at ends
    omega
  rw [unended, Bool.toNat_false] at starts ends ⊢
  by_cases covered :
      sink.receiver.reassembler.willing < index + seg.payload.length
  · have advanced :=
      flow.sound.push_advances (by omega) push order hasRoom
        ⟨by omega, covered⟩
    omega
  · -- only the FIN is left, so the whole stream is assembled
    have isFin : seg.header.fin = true := by
      by_contra noFin
      rw [Bool.eq_false_of_not_eq_true noFin, Bool.toNat_false] at ends
      omega
    have atEnd := push.endsAt isFin
    have all := sound.intact.inside
    have ended :
        (sink.receiver.reassembler.pushSubstring order seg.payload index
          seg.header.fin).output.endFlag = true := by
      refine sound.ended_iff.mpr ⟨?_, by omega⟩
      rw [endFlag, isFin, Bool.or_true]
    rw [ended, Bool.toNat_true]
    omega

end Sink

end TCPEndpoint

namespace TCPConnection

open TCPSender

section Receiving

variable {seg : TCPSegment} {connection : TCPConnection}

theorem firstNumber_eq_unwrap
    (isn : WrappingInt32)
    (seg : TCPSegment) :
    firstNumber isn seg = unwrap seg.header.seqno isn 0 := by
  rw [firstNumber, unwrap_zero]

/-- The receiver a segment without RST leaves, SYN or not. -/
theorem segmentReceived_receiver_of_noRst
    (noRst : seg.header.rst = false)
    (order : IterationOrder) :
    (connection.segmentReceived seg order).receiver =
      if (connection.noted seg).checkSegmentInWindow seg then
        connection.receiver.segmentReceived order seg
      else
        connection.receiver := by
  have receiver :
      (connection.noted seg).receiver = connection.receiver := by
    rw [noted_receiver_eq, noRst]
    rfl
  rw [(segmentReceived_inbound order seg connection).receiver,
    receivePayload]
  split
  · exact congrArg (TCPReceiver.segmentReceived order seg) receiver
  · exact receiver

/-- Before the first SYN every segment passes the window test. -/
theorem checkSegmentInWindow_of_unset
    (unset : connection.receiver.isn = none) :
    connection.checkSegmentInWindow seg = true := by
  have noAckno : connection.receiver.ackno = none := by
    rw [TCPReceiver.ackno, unset]
  unfold checkSegmentInWindow
  rw [noAckno]
  cases connection.isnReceiver <;> rfl

variable {source : TCPSender.Session}
variable {written taken : Bytes} {placed log : List TCPSegment}
variable {leading trailing : List TCPSegment}

/--
The first outstanding segment of a source makes its peer assemble more than the
source knows to be acknowledged, whether the peer had that segment or not.
-/
theorem segmentReceived_advances
    (flow :
      TCPEndpoint.Flow source
        (connection.view written taken placed log))
    (tracked : source.Tracked)
    (small : source.sender.nextSeqnoAbsolute < 2 ^ 32)
    (shape : source.log = leading ++ seg.content :: trailing)
    (starts : seqLength leading ≤ source.sender.acked)
    (ends :
      source.sender.acked <
        seqLength leading + seg.lengthInSequenceSpace)
    (noRst : seg.header.rst = false)
    (copied : connection.isnReceiver = connection.receiver.isn)
    (unanswered :
      connection.receiver.isn = none →
      source.sender.acked = 0)
    (counted : ReceiverCounted connection.receiver)
    (isOpen : 0 < connection.receiver.windowSize)
    (fits : connection.receiver.rightEdge < 2 ^ 64)
    (order : IterationOrder) :
    source.sender.acked <
        (connection.segmentReceived seg order).receiver.assembled ∧
      (connection.segmentReceived seg order).receiver.isn =
        some source.sender.isn := by
  have acknowledged :
      source.sender.acked ≤ connection.receiver.assembled :=
    flow.acknowledged
  have seqno := TCPEndpoint.seqno_of_logged tracked shape
  have bounded := TCPEndpoint.logged_end_le tracked shape
  have consistent := TCPEndpoint.consistent_of_logged tracked shape
  have isnAfter :
      connection.receiver.isn = some source.sender.isn ∨
          seg.header.syn = true →
      (connection.receiver.segmentReceived order seg).isn =
        some source.sender.isn := by
    intro known
    rw [TCPReceiver.segmentReceived_of_known
      (consistent.recordSyn_isn known) order]
  rw [segmentReceived_receiver_of_noRst noRst order]
  rcases flow.numbering with unset | known
  · -- the peer is still waiting for the SYN, and this is it
    have nothing := unanswered unset
    have isSyn : seg.header.syn = true :=
      TCPEndpoint.syn_of_seqLength_eq_zero tracked shape (by omega)
    have notedUnset : (connection.noted seg).receiver.isn = none := by
      rw [noted_receiver_eq, noRst]
      exact unset
    rw [if_pos (checkSegmentInWindow_of_unset notedUnset)]
    refine ⟨?_, isnAfter (Or.inr isSyn)⟩
    rw [nothing, TCPReceiver.assembled]
    omega
  · replace known : connection.receiver.isn = some source.sender.isn :=
      known
    by_cases late :
        seqLength leading + seg.lengthInSequenceSpace ≤
          connection.receiver.assembled
    · split
      · refine ⟨?_, isnAfter (Or.inl known)⟩
        have kept :=
          receiver_segmentReceived_assembled order seg
            connection.receiver
        omega
      · exact ⟨by omega, known⟩
    · have notedReceiver :
          (connection.noted seg).receiver = connection.receiver := by
        rw [noted_receiver_eq, noRst]
        rfl
      have notedIsn :
          (connection.noted seg).isnReceiver =
            some source.sender.isn := by
        rw [noted_isnReceiver, copied, known]
        split
        · rename_i syn
          have recorded :=
            consistent.recordSyn_isn (Or.inl known)
          simp only [TCPReceiver.recordSyn, syn, ↓reduceIte] at recorded
          exact recorded
        · rfl
      have few : connection.receiver.assembled < 2 ^ 32 :=
        flow.assembled_lt tracked small
      have passes :
          (connection.noted seg).checkSegmentInWindow seg = true := by
        rw [checkSegmentInWindow_iff notedIsn
            (by rw [notedReceiver]; exact known)
            (by rw [notedReceiver]; exact few),
          notedReceiver, Nat.mod_eq_of_lt fits, firstNumber_eq_unwrap,
          seqno, unwrap_zero_wrap_of_lt (by omega),
          TCPReceiver.rightEdge]
        omega
      rw [if_pos passes]
      refine ⟨Nat.lt_of_le_of_lt acknowledged ?_,
        isnAfter (Or.inl known)⟩
      refine flow.receive_advances tracked small shape (Or.inl known)
        (Nat.le_trans starts acknowledged) (Nat.lt_of_not_le late) ?_
        order
      obtain ⟨_, windowSize, _⟩ :=
        TCPReceiver.rightEdge_eq counted
      have layout := flow.sound.layout
      have accounting := layout.outputValid.accounting
      have written := layout.written
      have capacity := counted.capacity
      rw [windowSize] at isOpen
      simp only [TCPReceiver.streamOut, ByteStream.bufferSize] at isOpen
      simp only [view] at *
      omega

end Receiving

section Resending

variable {connection : TCPConnection}
variable {written taken : Bytes} {placed log : List TCPSegment}

/-- The time plays no part in filling the window. -/
theorem tickFill_sender
    (connection : TCPConnection)
    (msSinceLastTick : Nat) :
    (connection.tickFill msSinceLastTick).sender =
      if connection.sender.stream.bufferEmpty = false ∨
          connection.sender.stream.eof = true then
        { connection.sender.fillWindow with segmentsOut := [] }
      else
        connection.sender := by
  unfold tickFill
  dsimp only
  split <;> rfl

/-- With work left, `tick` has something outstanding after it has filled. -/
theorem tickFill_outstanding
    (tracked :
      TCPSender.Session.Tracked ⟨connection.sender, written, log⟩)
    (unfinished : ¬ connection.sender.Finished)
    (msSinceLastTick : Nat) :
    (connection.tickFill
        msSinceLastTick).sender.retransmissionQueue ≠ [] ∧
      (connection.tickFill msSinceLastTick).sender.timer.running =
        true := by
  rw [tickFill_sender]
  split
  · have outstanding := fillWindow_outstanding tracked unfinished
    exact ⟨outstanding,
      ((fillWindow_timed connection.sender).running
        tracked.queued.running).mpr outstanding⟩
  · rename_i idle
    obtain ⟨emptied, notAtEnd⟩ := not_or.mp idle
    have outstanding : connection.sender.retransmissionQueue ≠ [] := by
      intro nothing
      have drained : connection.sender.stream.size = 0 := by
        simpa [ByteStream.bufferEmpty] using emptied
      refine unfinished ⟨nothing, Or.inr ⟨drained, ?_⟩⟩
      simpa [ByteStream.eof, drained] using notAtEnd
    exact ⟨outstanding, tracked.queued.running.mpr outstanding⟩

/-- Neither the stream nor filling the window touches the acknowledgment. -/
theorem robust_acked
    (acked limit : Nat) :
    Robust fun sender =>
      sender.acked = acked ∧ sender.consecutiveRetran ≤ limit where
  detached := fun _ _ _ held => held
  filled := by
    rintro sender ⟨same, bounded⟩
    obtain ⟨_, _, _, _, _, _, shape⟩ :=
      fillLoop_shape (sender.stream.bufferSize + 3) sender
    rw [fillWindow, shape]
    exact ⟨same, bounded⟩

/-- Time moves no acknowledgment and adds at most one retransmission. -/
theorem tick_counts
    (connection : TCPConnection)
    (msSinceLastTick : Nat) :
    (connection.tick msSinceLastTick).sender.acked =
        connection.sender.acked ∧
      (connection.tick msSinceLastTick).sender.consecutiveRetran ≤
        connection.sender.consecutiveRetran + 1 := by
  obtain ⟨acked, bounded⟩ :=
    (robust_acked connection.sender.acked
      connection.sender.consecutiveRetran).tickFill msSinceLastTick
      ⟨rfl, Nat.le_refl _⟩
  refine (robust_acked connection.sender.acked
    (connection.sender.consecutiveRetran + 1)).tick ?_
  have frame :=
    tick_frame msSinceLastTick
      (connection.tickFill msSinceLastTick).sender
  refine ⟨?_, ?_⟩
  · rw [← acked, TCPSender.acked, TCPSender.acked, frame.ack, frame.isn]
  · refine Nat.le_trans (tick_consecutiveRetran_le _ _) ?_
    omega

/-- While something is outstanding, a patient connection stays active. -/
theorem tick_active
    (accounted : (connection.view written taken placed log).Accounted)
    (active : connection.active = true)
    (patient :
      connection.sender.consecutiveRetran < TCPConfig.maxRetxAttempts)
    {msSinceLastTick : Nat}
    (outstanding :
      (connection.tick msSinceLastTick).sender.retransmissionQueue ≠
        []) :
    (connection.tick msSinceLastTick).active = true := by
  by_contra closed
  have clean : ¬ Op.Aborts connection (.tick msSinceLastTick) := by
    have counts := (tick_counts connection msSinceLastTick).2
    intro exceeded
    have beyond := exceeded_iff.mp exceeded
    omega
  have inactive :
      (connection.perform (.tick msSinceLastTick)).active = false :=
    Bool.eq_false_of_not_eq_true closed
  obtain ⟨_, sameTick, performed, wasOpen, closes⟩ :=
    closes_in_tick active inactive clean
  cases sameTick
  obtain ⟨_, _, _, drained, _⟩ := tickFinish_closes wasOpen closes
  obtain ⟨_, _, reach⟩ :=
    @refines_tickSend .connect msSinceLastTick connection
  obtain ⟨longer, reached⟩ := reach written taken placed log
  have sent :=
    (reached.invariant TCPEndpoint.Accounted
      (fun _ action held _ => held.act action) accounted).tracked
  apply outstanding
  have final :
      (connection.tick msSinceLastTick).sender =
        (connection.tickSend msSinceLastTick).sender := by
    have same := congrArg TCPConnection.sender performed
    rw [tickFinish_sender] at same
    exact same
  rw [final]
  exact (sent.queued.bytesInFlight_eq_zero_iff sent.logged).mp drained

/-- Once its timer expires, a sender with work left resends its first segment. -/
theorem tick_resends
    (tracked :
      TCPSender.Session.Tracked ⟨connection.sender, written, log⟩)
    (unfinished : ¬ connection.sender.Finished) :
    ∃ msSinceLastTick first rest,
      (connection.tick msSinceLastTick).sender.retransmissionQueue =
          first :: rest ∧
        stamp connection.receiver first ∈
          connection.pushed (.tick msSinceLastTick) := by
  -- the timer runs out in the time that is left on it
  let msSinceLastTick := (connection.tickFill 0).sender.timer.rto
  have sameSender :
      (connection.tickFill msSinceLastTick).sender =
        (connection.tickFill 0).sender := by
    rw [tickFill_sender, tickFill_sender]
  obtain ⟨outstanding, running⟩ :=
    tickFill_outstanding tracked unfinished msSinceLastTick
  obtain ⟨first, rest, queue⟩ := List.exists_cons_of_ne_nil outstanding
  have expired :
      (connection.tickFill msSinceLastTick).sender.expires
        msSinceLastTick = true := by
    rw [sameSender] at running ⊢
    rw [TCPSender.expires, RetransmissionTimer.timePassed,
      if_neg (by simp [running]), if_neg (Nat.lt_irrefl _)]
  have fired := (tick_of_expired expired).2.2
  have again : connection.sentAgain msSinceLastTick = [first] := by
    unfold sentAgain
    dsimp only
    rw [fired, retransmit_segmentsOut queue, List.drop_left]
  refine ⟨msSinceLastTick, first, rest, ?_, ?_⟩
  · rw [(tick_sender connection msSinceLastTick).2.1]
    exact (tick_frame msSinceLastTick _).queue.trans queue
  · rw [pushed_eq, perform, tick_stamp]
    refine List.mem_append_left _ (List.mem_map_of_mem ?_)
    rw [produced, again]
    simp

end Resending

section Accepting

variable {seg : TCPSegment} {connection : TCPConnection}

/-- An acknowledgment of new data is taken up and ends the back-off. -/
theorem segmentReceived_accepts
    {number : Nat}
    (hasAck : seg.header.ack = true)
    (numbered :
      seg.header.ackno = wrap number connection.sender.isn)
    (small : number < 2 ^ 32)
    (isNew : connection.sender.acked < number)
    (wasSent : number ≤ connection.sender.nextSeqnoAbsolute)
    (order : IterationOrder) :
    (connection.segmentReceived seg order).sender.acked = number ∧
      (connection.segmentReceived seg order).sender.consecutiveRetran ≤
        0 := by
  refine (robust_acked number 0).segmentReceived ?_
  obtain ⟨stream, handed⟩ := receivePayload_sender order seg connection
  unfold heard receiveAck
  rw [if_pos hasAck]
  dsimp only
  rw [handed]
  have exact :
      unwrap seg.header.ackno connection.sender.isn 0 = number := by
    rw [numbered, unwrap_zero_wrap_of_lt small]
  rcases ackReceived_cases seg.header.ackno seg.header.win
      { connection.sender with stream := stream } with
    ⟨rejected, _⟩ | ⟨_, _, accepted⟩
  · have same :
        TCPSender.acked { connection.sender with stream := stream } =
          connection.sender.acked :=
      rfl
    simp only [exact, same] at rejected
    omega
  · rw [accepted, recordWindow_shape]
    exact ⟨exact, Nat.le_refl 0⟩

/-- A segment of any content adds no retransmission. -/
theorem segmentReceived_consecutiveRetran_le
    (order : IterationOrder) :
    (connection.segmentReceived seg order).sender.consecutiveRetran ≤
      connection.sender.consecutiveRetran := by
  obtain ⟨stream, handed⟩ := receivePayload_sender order seg connection
  have heardCount :
      (connection.heard order seg).sender.consecutiveRetran ≤
        connection.sender.consecutiveRetran := by
    unfold heard receiveAck
    split
    · dsimp only
      rw [handed]
      rcases ackReceived_cases seg.header.ackno seg.header.win
          { connection.sender with stream := stream } with
        ⟨_, rejected⟩ | ⟨_, _, accepted⟩
      · rw [rejected, recordWindow_shape]
      · rw [accepted, recordWindow_shape]
        exact Nat.zero_le _
    · rw [handed]
  exact ((robust_acked _
    connection.sender.consecutiveRetran).segmentReceived
      ⟨rfl, heardCount⟩).2

/-- Reading everything opens the whole window. -/
theorem readInbound_opens
    (counted : ReceiverCounted connection.receiver) :
    (connection.readInbound
        connection.inboundStream.bufferSize).2.receiver.windowSize =
      connection.receiver.capacity := by
  have countedAfter :
      ReceiverCounted
        (connection.readInbound
          connection.inboundStream.bufferSize).2.receiver :=
    ⟨counted.reassembler.readOut _, counted.capacity⟩
  have size :=
    counted.reassembler.outputValid.read_size
      connection.inboundStream.bufferSize
  rw [(TCPReceiver.rightEdge_eq countedAfter).2.1]
  simp only [readInbound, TCPReceiver.readOut, StreamReassembler.readOut,
    TCPReceiver.streamOut, ByteStream.bufferSize, inboundStream] at size ⊢
  rw [size]
  omega

end Accepting

end TCPConnection

end Sponge
