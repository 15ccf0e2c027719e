import Sponge.TCPEndpoint

namespace Sponge

/-!
# One endpoint sending to another

`Flow` ties the sender of one endpoint to the receiver of the other and to the
acknowledgments that travel back.  It survives every action of either side, in
any order, as long as what is received was placed by the other side and the
sender has numbers left.
-/

/-- The absolute number a receiver waits for next. -/
def TCPReceiver.assembled (receiver : TCPReceiver) : Nat :=
  1 + receiver.streamOut.bytesWritten +
    receiver.streamOut.inputEnded.toNat

namespace TCPSender.Session

section Effects

variable {session : Session}

/-- Only an acknowledgment that is taken up moves the recorded one. -/
theorem Tracked.step_acked
    (tracked : session.Tracked)
    (call : Op) :
    (session.step call).sender.acked = session.sender.acked ∨
      ∃ ackno windowSize,
        call = .ackReceived ackno windowSize ∧
          (session.step call).sender.acked =
            unwrap ackno session.sender.isn 0 := by
  cases call with
  | ackReceived ackno windowSize =>
      simp only [Session.step]
      rcases ackReceived_cases ackno windowSize session.sender with
        ⟨_, rejected⟩ | ⟨_, _, accepted⟩
      · left
        rw [rejected, recordWindow_shape]
        rfl
      · right
        refine ⟨ackno, windowSize, rfl, ?_⟩
        rw [accepted, recordWindow_shape]
        rfl
  | fillWindow =>
      obtain ⟨sent, fills⟩ := fillWindow_fills tracked.logged.ready
      exact Or.inl fills.frame.acked
  | tick msSinceLastTick =>
      have frame := tick_frame msSinceLastTick session.sender
      left
      simp only [Session.step, TCPSender.acked, frame.ack, frame.isn]
  | write _ | endInput | setError | sendEmptySegment | takeSegments =>
      exact Or.inl rfl

/-- The log grows by new segments, and by none after the FIN. -/
theorem Tracked.step_log
    (tracked : session.Tracked)
    (call : Op) :
    ∃ sent,
      (session.step call).log = session.log ++ sent ∧
        (session.sender.state = .finSent → sent = []) := by
  by_cases taken : call = .takeSegments
  · subst call
    exact ⟨[], by simp [Session.step], fun _ => rfl⟩
  · obtain ⟨sent, repeated, emits⟩ := tracked.emits call taken
    exact ⟨sent, emits.log, emits.afterFin⟩

theorem Tracked.step_next_le
    (tracked : session.Tracked)
    (call : Op) :
    session.sender.nextSeqnoAbsolute ≤
      (session.step call).sender.nextSeqnoAbsolute := by
  obtain ⟨sent, log, _⟩ := tracked.step_log call
  rw [tracked.logged.next, (tracked.step call).logged.next, log,
    seqLength_append]
  exact Nat.le_add_right _ _

/-- A sender that has sent its FIN has sent it for good. -/
theorem Tracked.step_finSent
    (tracked : session.Tracked)
    (call : Op)
    (finished : session.sender.state = .finSent) :
    (session.step call).sender.state = .finSent := by
  obtain ⟨sent, log, _⟩ := tracked.step_log call
  have fin := tracked.logged.marked.finSent_iff.mp finished
  rw [(tracked.step call).logged.marked.finSent_iff, log,
    List.any_append, fin, Bool.true_or]

end Effects

end TCPSender.Session

namespace TCPEndpoint

open TCPSender

/-- What ties a sender to the endpoint it sends to. -/
structure Flow
    (source : TCPSender.Session)
    (sink : TCPEndpoint) : Prop where
  sound :
    StreamReassembler.Sound (payloads source.log) sink.taken
      sink.receiver.reassembler
  numbering :
    sink.receiver.isn = none ∨
      sink.receiver.isn = some source.sender.isn
  finished :
    sink.receiver.reassembler.endFlag = true →
    source.sender.state = .finSent
  acknowledged : source.sender.acked ≤ sink.receiver.assembled
  replies :
    ∀ seg ∈ sink.placed,
      seg.header.ack = true →
      ∃ number,
        number ≤ sink.receiver.assembled ∧
          seg.header.ackno = wrap number source.sender.isn

section Source

variable {source : TCPSender.Session} {sink : TCPEndpoint}

/-- The sink has assembled bytes the source has sent. -/
theorem Flow.written_le
    (flow : Flow source sink) :
    sink.receiver.streamOut.bytesWritten ≤
      (payloads source.log).length := by
  have written := flow.sound.layout.written
  simp only [TCPReceiver.streamOut, ByteStream.bytesWritten, written]
  exact flow.sound.intact.inside

/-- The sink has seen the end only if the source sent it all. -/
theorem Flow.ended
    (flow : Flow source sink)
    (ended : sink.receiver.streamOut.inputEnded = true) :
    source.sender.state = .finSent ∧
      sink.receiver.streamOut.bytesWritten =
        (payloads source.log).length := by
  obtain ⟨endFlag, all⟩ := flow.sound.ended_iff.mp ended
  refine ⟨flow.finished endFlag, ?_⟩
  have written := flow.sound.layout.written
  simp only [TCPReceiver.streamOut, ByteStream.bytesWritten, written]
  exact all

/-- What was assembled was numbered below the end of the sequence space. -/
theorem Flow.assembled_lt
    (flow : Flow source sink)
    (tracked : source.Tracked)
    (small : source.sender.nextSeqnoAbsolute < 2 ^ 32) :
    sink.receiver.assembled < 2 ^ 32 := by
  have written := flow.written_le
  have short := tracked.logged.payloads_short small
  unfold TCPReceiver.assembled
  cases ended : sink.receiver.streamOut.inputEnded with
  | false =>
      rw [Bool.toNat_false]
      omega
  | true =>
      obtain ⟨finished, _⟩ := flow.ended ended
      have next := tracked.logged.next_of_finSent finished
      have all := tracked.logged.payloads_of_finSent finished
      have total := tracked.logged.total
      rw [ByteStream.bytesWritten, total, ← all] at next
      rw [Bool.toNat_true]
      omega

/-- The sink has a prefix of what was written to the source. -/
theorem Flow.delivered
    (flow : Flow source sink)
    (tracked : source.Tracked) :
    sink.receiver.streamOut.bytesWritten ≤ source.written.length ∧
      sink.taken ++ sink.receiver.streamOut.contents =
        source.written.take sink.receiver.streamOut.bytesWritten := by
  have inside := flow.written_le
  have bytes := tracked.logged.bytes
  have delivered :
      sink.taken ++ sink.receiver.streamOut.contents =
        (payloads source.log).take
          sink.receiver.streamOut.bytesWritten := by
    simp only [TCPReceiver.streamOut, ByteStream.bytesWritten,
      flow.sound.layout.written]
    exact flow.sound.intact.delivered
  constructor
  · rw [← bytes, List.length_append]
    omega
  · rw [delivered, ← bytes, List.take_append_of_le_length inside]

/-- When the sink's stream has ended, it is the whole ended stream. -/
theorem Flow.ended_whole
    (flow : Flow source sink)
    (tracked : source.Tracked)
    (ended : sink.receiver.streamOut.inputEnded = true) :
    source.sender.stream.endFlag = true ∧
      sink.taken ++ sink.receiver.streamOut.contents =
        source.written := by
  obtain ⟨finished, all⟩ := flow.ended ended
  have atEnd := tracked.logged.ended finished
  simp only [ByteStream.eof, Bool.and_eq_true] at atEnd
  refine ⟨atEnd.1, ?_⟩
  rw [(flow.delivered tracked).2, all,
    tracked.logged.payloads_of_finSent finished, List.take_length]

/-- No byte has left the retransmission queue before the sink has it. -/
theorem Flow.retained
    (flow : Flow source sink)
    (tracked : source.Tracked) :
    ∃ count,
      count ≤ sink.receiver.streamOut.bytesWritten ∧
        source.written =
          source.written.take count ++
            (payloads source.sender.retransmissionQueue ++
              source.sender.stream.contents) := by
  obtain ⟨acknowledged, shape, low, _⟩ := tracked.queued.split
  have bytes := tracked.logged.bytes
  rw [shape, payloads_append, List.append_assoc] at bytes
  refine ⟨(payloads acknowledged).length, ?_, ?_⟩
  · cases ended : sink.receiver.streamOut.inputEnded with
    | true =>
        rw [(flow.ended ended).2, shape, payloads_append,
          List.length_append]
        exact Nat.le_add_right _ _
    | false =>
        have covered := flow.acknowledged
        rw [TCPReceiver.assembled, ended, Bool.toNat_false] at covered
        cases acknowledged with
        | nil =>
            exact Nat.zero_le _
        | cons first rest =>
            -- the first segment also takes up the number of the SYN
            have isSyn :=
              (tracked.logged.marked.synFirst first _ shape).1
            have counted := seqLength_eq (first :: rest)
            have synCounted :
                0 < (first :: rest).countP
                  fun segment => segment.header.syn :=
              List.countP_pos_iff.mpr ⟨first, by simp, isSyn⟩
            omega
  · rw [← bytes, List.take_left]

/-- Whatever the source does, the sink has what it has. -/
theorem Flow.sourceStep
    (flow : Flow source sink)
    (tracked : source.Tracked)
    (small : source.sender.nextSeqnoAbsolute < 2 ^ 32)
    (call : TCPSender.Op)
    (heard :
      ∀ ackno windowSize,
        call = .ackReceived ackno windowSize →
        ∃ number,
          number ≤ sink.receiver.assembled ∧
            ackno = wrap number source.sender.isn) :
    Flow (source.step call) sink := by
  have isn := tracked.step_isn call
  obtain ⟨sent, log, afterFin⟩ := tracked.step_log call
  refine {
    sound := ?_
    numbering := by rw [isn]; exact flow.numbering
    finished := fun ended =>
      tracked.step_finSent call (flow.finished ended)
    acknowledged := ?_
    replies := by rw [isn]; exact flow.replies
  }
  · rw [log, payloads_append]
    cases ended : sink.receiver.reassembler.endFlag with
    | false =>
        exact flow.sound.extend ended (payloads sent)
    | true =>
        rw [afterFin (flow.finished ended)]
        simpa [payloads] using flow.sound
  · rcases tracked.step_acked call with
      same | ⟨ackno, windowSize, isAck, moved⟩
    · rw [same]
      exact flow.acknowledged
    · obtain ⟨number, covered, numbered⟩ :=
        heard ackno windowSize isAck
      have exact : unwrap ackno source.sender.isn 0 = number := by
        rw [numbered, unwrap_zero_wrap_of_lt
          (Nat.lt_of_le_of_lt covered (flow.assembled_lt tracked small))]
      rw [moved, exact]
      exact covered

end Source

section Sink

variable {source : TCPSender.Session} {sink : TCPEndpoint}

/-- A sink with the same receiver may place anything it may say. -/
theorem Flow.place
    (flow : Flow source sink)
    {next : TCPEndpoint}
    (receiver : next.receiver = sink.receiver)
    (taken : next.taken = sink.taken)
    (more : List TCPSegment)
    (placed : next.placed = sink.placed ++ more)
    (honest :
      ∀ seg ∈ more,
        seg.header.ack = true →
        ∃ number,
          number ≤ sink.receiver.assembled ∧
            seg.header.ackno = wrap number source.sender.isn) :
    Flow source next where
  sound := by rw [receiver, taken]; exact flow.sound
  numbering := by rw [receiver]; exact flow.numbering
  finished := by rw [receiver]; exact flow.finished
  acknowledged := by rw [receiver]; exact flow.acknowledged
  replies := by
    intro seg member
    rw [placed] at member
    rw [receiver]
    rcases List.mem_append.mp member with before | new
    · exact flow.replies seg before
    · exact honest seg new

/-- A stamped segment acknowledges what was assembled. -/
theorem Flow.stamp_honest
    (flow : Flow source sink)
    {seg : TCPSegment}
    (unstamped : seg.header.ack = false)
    (hasAck :
      (TCPConnection.stamp sink.receiver seg).header.ack = true) :
    (TCPConnection.stamp sink.receiver seg).header.ackno =
      wrap sink.receiver.assembled source.sender.isn := by
  rcases flow.numbering with unknown | known
  · have noAckno : sink.receiver.ackno = none := by
      rw [TCPReceiver.ackno, unknown]
    simp only [TCPConnection.stamp, noAckno, unstamped] at hasAck
    cases hasAck
  · have ackno :=
      TCPReceiver.Synchronized.ackno_eq ⟨known, flow.sound⟩
    simp only [TCPConnection.stamp, ackno, TCPReceiver.assembled]

/-- What a sender pushes is not yet stamped. -/
theorem Accounted.outgoing_unstamped
    {endpoint : TCPEndpoint}
    (accounted : endpoint.Accounted)
    {seg : TCPSegment}
    (member : seg ∈ endpoint.out.sender.segmentsOut) :
    seg.header.ack = false := by
  rcases accounted.outgoing seg member with logged | bare
  · rw [accounted.tracked.logged.plain seg logged]
  · rw [bare]

/-- A receiver that has more of the same stream waits for a later number. -/
theorem assembled_le
    {sequence taken taken' : Bytes}
    {receiver later : TCPReceiver}
    (before : StreamReassembler.Sound sequence taken
      receiver.reassembler)
    (after : StreamReassembler.Sound sequence taken' later.reassembler)
    (more : receiver.reassembler.willing ≤ later.reassembler.willing)
    (endFlag :
      receiver.reassembler.endFlag = true →
      later.reassembler.endFlag = true) :
    receiver.assembled ≤ later.assembled := by
  have inside := after.intact.inside
  simp only [TCPReceiver.assembled, TCPReceiver.streamOut,
    ByteStream.bytesWritten, ByteStream.inputEnded,
    before.layout.written, after.layout.written]
  cases ended : receiver.reassembler.output.endFlag with
  | false =>
      rw [Bool.toNat_false]
      omega
  | true =>
      obtain ⟨flagged, all⟩ := before.ended_iff.mp ended
      have alsoAll : later.reassembler.willing = sequence.length := by
        omega
      rw [after.ended_iff.mpr ⟨endFlag flagged, alsoAll⟩]
      omega

/-- A segment of the source is part of the bytes it has sent. -/
theorem Carries.consistent
    {seg : TCPSegment}
    (carries : Carries source.log seg)
    (tracked : source.Tracked) :
    TCPReceiver.ConsistentSegment source.sender.isn
        (payloads source.log) seg ∧
      (seg.header.fin = true → source.sender.state = .finSent) := by
  rcases carries with nothing | member
  · refine ⟨Or.inl nothing, fun isFin => ?_⟩
    simp [TCPSegment.lengthInSequenceSpace, isFin] at nothing
  · have whole := tracked.logged.consistent member
    refine ⟨whole, fun isFin => ?_⟩
    rw [tracked.logged.marked.finSent_iff, List.any_eq_true]
    exact ⟨seg.content, member, isFin⟩

/-- Part of the stream is taken in. -/
theorem Flow.receiveKnown
    (flow : Flow source sink)
    (tracked : source.Tracked)
    (small : source.sender.nextSeqnoAbsolute < 2 ^ 32)
    {seg : TCPSegment}
    (carries : Carries source.log seg)
    (known :
      sink.receiver.isn = some source.sender.isn ∨
        seg.header.syn = true)
    (order : IterationOrder) :
    Flow source (sink.act (.receive order seg)) := by
  obtain ⟨consistent, fin⟩ := carries.consistent tracked
  have synchronized :
      TCPReceiver.Synchronized source.sender.isn (payloads source.log)
        sink.taken (sink.receiver.segmentReceived order seg) :=
    .segmentReceived flow.sound known
      (tracked.logged.payloads_short small) consistent order
  have pushed :=
    TCPReceiver.segmentReceived_of_known
      (consistent.recordSyn_isn known) order
  have endFlag :
      (sink.receiver.segmentReceived order seg).reassembler.endFlag =
        (sink.receiver.reassembler.endFlag || seg.header.fin) := by
    rw [pushed]
    exact StreamReassembler.pushSubstring_endFlag ..
  have more :
      sink.receiver.assembled ≤
        (sink.receiver.segmentReceived order seg).assembled := by
    refine assembled_le flow.sound synchronized.sound ?_ ?_
    · rw [pushed]
      exact StreamReassembler.pushSubstring_willing_le ..
    · intro ended
      rw [endFlag, ended, Bool.true_or]
  exact {
    sound := synchronized.sound
    numbering := Or.inr synchronized.known
    finished := by
      intro ended
      rw [act, endFlag, Bool.or_eq_true] at ended
      exact ended.elim flow.finished fin
    acknowledged := Nat.le_trans flow.acknowledged more
    replies := by
      intro reply member hasAck
      obtain ⟨number, covered, numbered⟩ :=
        flow.replies reply member hasAck
      exact ⟨number, Nat.le_trans covered more, numbered⟩
  }

/-- A receiver that takes in what the source placed keeps the flow. -/
theorem Flow.receive
    (flow : Flow source sink)
    (tracked : source.Tracked)
    (small : source.sender.nextSeqnoAbsolute < 2 ^ 32)
    {seg : TCPSegment}
    (carries : Carries source.log seg)
    (order : IterationOrder) :
    Flow source (sink.act (.receive order seg)) := by
  by_cases known :
      sink.receiver.isn = some source.sender.isn ∨
        seg.header.syn = true
  · exact flow.receiveKnown tracked small carries known order
  · -- before its first SYN a receiver ignores what it gets
    have unset : sink.receiver.isn = none :=
      flow.numbering.resolve_right fun isKnown => known (Or.inl isKnown)
    have noSyn : seg.header.syn = false := by
      simpa using fun syn => known (Or.inr syn)
    exact flow.place
      (TCPReceiver.segmentReceived_unsynchronized unset noSyn order)
      rfl [] (by simp [act]) (by simp)

/-- The source has sent what the sink is given. -/
def Action.Heard
    (placed : List TCPSegment) :
    Action → Prop
  | .send (.ackReceived ackno _) =>
      ∃ seg ∈ placed,
        seg.header.ack = true ∧ seg.header.ackno = ackno
  | .receive _ seg => seg ∈ placed
  | _ => True

/-- Whatever the sink does, it only has what the source has sent. -/
theorem Flow.sinkAct
    {peer : TCPEndpoint}
    (flow : Flow peer.out sink)
    (accounted : sink.Accounted)
    (peerAccounted : peer.Accounted)
    (small : peer.out.sender.nextSeqnoAbsolute < 2 ^ 32)
    (action : Action)
    (heard : action.Heard peer.placed) :
    Flow peer.out (sink.act action) := by
  cases action with
  | send call =>
      refine flow.place rfl rfl (sink.handedOver call) rfl ?_
      intro seg member hasAck
      cases call with
      | takeSegments =>
          obtain ⟨original, pushed, rfl⟩ := List.mem_map.mp member
          exact ⟨sink.receiver.assembled, Nat.le_refl _,
            flow.stamp_honest (accounted.outgoing_unstamped pushed)
              hasAck⟩
      | _ =>
          simp [handedOver] at member
  | reset =>
      refine flow.place rfl rfl [sink.resetSegment] rfl ?_
      intro seg member hasAck
      rw [List.mem_singleton.mp member] at hasAck
      cases hasAck
  | receive order seg =>
      exact flow.receive peerAccounted.tracked small
        (peerAccounted.carried seg heard) order
  | inboundError =>
      exact {
        sound := flow.sound.setError
        numbering := flow.numbering
        finished := flow.finished
        acknowledged := flow.acknowledged
        replies := flow.replies
      }
  | read len =>
      have same :
          (sink.receiver.readOut len).2.assembled =
            sink.receiver.assembled := by
        simp only [TCPReceiver.assembled, TCPReceiver.readOut,
          TCPReceiver.streamOut, StreamReassembler.readOut,
          ByteStream.bytesWritten, ByteStream.inputEnded,
          ByteStream.read_bytesW, ByteStream.read_endFlag]
      exact {
        sound := flow.sound.readOut len
        numbering := flow.numbering
        finished := flow.finished
        acknowledged := by
          simp only [act, same]
          exact flow.acknowledged
        replies := by
          simp only [act, same]
          exact flow.replies
      }

end Sink

section Joined

/-- Two endpoints that send to each other. -/
structure Joined (first second : TCPEndpoint) : Prop where
  firstAccounted : first.Accounted
  secondAccounted : second.Accounted
  flows :
    first.out.sender.nextSeqnoAbsolute < 2 ^ 32 →
    second.out.sender.nextSeqnoAbsolute < 2 ^ 32 →
    Flow first.out second ∧ Flow second.out first

variable {first second : TCPEndpoint}

theorem Joined.symm
    (joined : Joined first second) :
    Joined second first where
  firstAccounted := joined.secondAccounted
  secondAccounted := joined.firstAccounted
  flows := fun secondSmall firstSmall =>
    (joined.flows firstSmall secondSmall).symm

theorem Accounted.act_next_le
    (accounted : first.Accounted)
    (action : Action) :
    first.out.sender.nextSeqnoAbsolute ≤
      (first.act action).out.sender.nextSeqnoAbsolute := by
  cases action with
  | send call =>
      exact accounted.tracked.step_next_le call
  | reset | receive _ _ | inboundError | read _ =>
      exact Nat.le_refl _

/-- An action on what the other side has placed keeps both flows. -/
theorem Joined.act
    (joined : Joined first second)
    (action : Action)
    (heard : action.Heard second.placed) :
    Joined (first.act action) second where
  firstAccounted := joined.firstAccounted.act action
  secondAccounted := joined.secondAccounted
  flows := by
    intro firstSmall secondSmall
    have wasSmall : first.out.sender.nextSeqnoAbsolute < 2 ^ 32 :=
      Nat.lt_of_le_of_lt (joined.firstAccounted.act_next_le action)
        firstSmall
    obtain ⟨forward, backward⟩ := joined.flows wasSmall secondSmall
    refine ⟨?_, backward.sinkAct joined.firstAccounted
      joined.secondAccounted secondSmall action heard⟩
    cases action with
    | send call =>
        refine forward.sourceStep joined.firstAccounted.tracked wasSmall
          call ?_
        rintro ackno windowSize rfl
        obtain ⟨seg, member, hasAck, rfl⟩ := heard
        exact forward.replies seg member hasAck
    | reset | receive _ _ | inboundError | read _ =>
        exact forward

end Joined

end TCPEndpoint

end Sponge
