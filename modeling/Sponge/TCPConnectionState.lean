import Sponge.TCPConnectionProgress
import Sponge.TCPConnectionReset

namespace Sponge

/-!
# The official state of a connection

The summaries of a connection are computed afresh from its counters, so nothing
in their definition says that they follow the state diagram.  Whatever is called
and whatever arrives, both summaries only move forward, errors are shared by the
two streams, and a connection that is no longer active is CLOSED or RESET.
-/

/-- How far a sender has come; an error ends it from anywhere. -/
def TCPSenderStateSummary.phase : TCPSenderStateSummary → Nat
  | .closed => 0
  | .synSent => 1
  | .synAcked => 2
  | .finSent => 3
  | .finAcked => 4
  | .error => 5

/-- How far a receiver has come. -/
def TCPReceiverStateSummary.phase : TCPReceiverStateSummary → Nat
  | .listen => 0
  | .synRecv => 1
  | .finRecv => 2
  | .error => 3

/-- No part of the second state lies before the first. -/
structure TCPState.Precedes (before after : TCPState) : Prop where
  sender : before.sender.phase ≤ after.sender.phase
  receiver : before.receiver.phase ≤ after.receiver.phase
  active : after.active = true → before.active = true
  linger :
    after.lingerAfterStreamsFinish = true →
    before.lingerAfterStreamsFinish = true

theorem TCPState.Precedes.refl
    (state : TCPState) :
    state.Precedes state :=
  ⟨Nat.le_refl _, Nat.le_refl _, id, id⟩

theorem TCPState.Precedes.trans
    {early middle late : TCPState}
    (first : early.Precedes middle)
    (second : middle.Precedes late) :
    early.Precedes late where
  sender := Nat.le_trans first.sender second.sender
  receiver := Nat.le_trans first.receiver second.receiver
  active := first.active ∘ second.active
  linger := first.linger ∘ second.linger

/-- The summary shows an error exactly if the inbound stream has one. -/
theorem TCPReceiver.stateSummary_error_iff
    {receiver : TCPReceiver} :
    receiver.stateSummary = .error ↔
      receiver.streamOut.error = true := by
  unfold stateSummary
  split
  · rename_i failed
    exact iff_of_true rfl failed
  · rename_i sound
    refine iff_of_false ?_ sound
    repeat' split
    all_goals simp

namespace TCPSender

theorem stateSummary_error_iff
    {sender : TCPSender} :
    sender.stateSummary = .error ↔ sender.stream.error = true := by
  unfold stateSummary
  split
  · rename_i failed
    exact iff_of_true rfl failed
  · rename_i sound
    refine iff_of_false ?_ sound
    repeat' split
    all_goals simp

section Summary

variable {session : Session}

/-- A sender's summary by its position, once the counters are accounted for. -/
theorem Session.Tracked.summary_eq
    (tracked : session.Tracked) :
    session.sender.stateSummary =
      if session.sender.stream.error then
        .error
      else if session.sender.nextSeqnoAbsolute = 0 then
        .closed
      else if session.sender.acked = 0 then
        .synSent
      else if session.sender.state ≠ .finSent then
        .synAcked
      else if session.sender.acked < session.sender.nextSeqnoAbsolute then
        .finSent
      else
        .finAcked := by
  have inFlight := tracked.queued.bytesInFlight_eq
  have bound := tracked.queued.bound
  unfold stateSummary
  split
  · rfl
  · split
    · rfl
    · rename_i used
      have unacked :
          session.sender.nextSeqnoAbsolute =
              session.sender.bytesInFlight ↔
            session.sender.acked = 0 := by
        omega
      simp only [unacked]
      split
      · rfl
      · by_cases finished : session.sender.state = .finSent
        · have atEnd := tracked.logged.ended finished
          have next := tracked.logged.next_of_finSent finished
          have complete :
              ¬ session.sender.nextSeqnoAbsolute <
                session.sender.stream.bytesWritten + 2 := by
            omega
          have waiting :
              session.sender.bytesInFlight ≠ 0 ↔
                session.sender.acked <
                  session.sender.nextSeqnoAbsolute := by
            omega
          rw [if_neg (not_not.mpr atEnd), if_neg complete,
            if_neg (not_not.mpr finished)]
          simp only [waiting]
        · rw [if_pos finished]
          have noFin := mt tracked.logged.marked.finSent_iff.mpr finished
          have next := tracked.logged.next_eq
          have syn :=
            Bool.toNat_le
              (session.log.any fun segment => segment.header.syn)
          have accounting := tracked.logged.valid.accounting
          rw [Bool.eq_false_of_not_eq_true noFin, Bool.toNat_false] at next
          simp only [ByteStream.bytesRead] at next
          split
          · rfl
          · rw [if_pos (by
              simp only [ByteStream.bytesWritten]
              omega)]

/-- A FIN that was acknowledged with everything before it. -/
theorem Session.Tracked.summary_finAcked
    (tracked : session.Tracked)
    (sound : session.sender.stream.error = false)
    (finished : session.sender.state = .finSent)
    (heard :
      session.sender.acked = session.sender.nextSeqnoAbsolute) :
    session.sender.stateSummary = .finAcked := by
  have next := tracked.logged.next_of_finSent finished
  have used : ¬ session.sender.nextSeqnoAbsolute = 0 := by
    omega
  have acked : ¬ session.sender.acked = 0 := by
    omega
  rw [tracked.summary_eq, sound, if_neg Bool.false_ne_true, if_neg used,
    if_neg acked, if_neg (not_not.mpr finished),
    if_neg (Nat.not_lt.mpr heard.ge)]

/-- What is acknowledged stays acknowledged. -/
theorem Session.step_acked_le
    (tracked : session.Tracked)
    (call : Op) :
    session.sender.acked ≤ (session.step call).sender.acked := by
  cases call with
  | ackReceived ackno windowSize =>
      rw [Session.step]
      rcases ackReceived_cases ackno windowSize session.sender with
        ⟨_, rejected⟩ | ⟨isNew, _, accepted⟩
      · rw [rejected, recordWindow_shape]
        exact Nat.le_refl _
      · rw [accepted, recordWindow_shape]
        exact Nat.le_of_lt isNew
  | fillWindow | tick _ | write _ | endInput | setError | sendEmptySegment
  | takeSegments =>
      rcases tracked.step_acked _ with same | ⟨_, _, isAck, _⟩
      · exact Nat.le_of_eq same.symm
      · cases isAck

/-- Nothing is numbered after the FIN. -/
theorem Session.step_next_of_finSent
    (tracked : session.Tracked)
    (call : Op)
    (finished : session.sender.state = .finSent) :
    (session.step call).sender.nextSeqnoAbsolute =
      session.sender.nextSeqnoAbsolute := by
  obtain ⟨sent, log, afterFin⟩ := tracked.step_log call
  rw [(tracked.step call).logged.next, log, afterFin finished,
    List.append_nil, tracked.logged.next]

/-- Nothing on the sender's side clears an error. -/
theorem Session.step_error
    (call : Op)
    (failed : session.sender.stream.error = true) :
    (session.step call).sender.stream.error = true := by
  cases call with
  | fillWindow =>
      exact (fillLoop_error _ session.sender).trans failed
  | tick msSinceLastTick =>
      have frame := tick_frame msSinceLastTick session.sender
      exact (congrArg ByteStream.error frame.stream).trans failed
  | ackReceived ackno windowSize =>
      have frame := ackReceived_frame ackno windowSize session.sender
      exact (congrArg ByteStream.error frame.stream).trans failed
  | write data =>
      exact (ByteStream.write_error data session.sender.stream).trans
        failed
  | setError =>
      rfl
  | endInput | sendEmptySegment | takeSegments =>
      exact failed

end Summary

end TCPSender

theorem TCPReceiver.ackno_eq_none_iff
    {receiver : TCPReceiver} :
    receiver.ackno = none ↔ receiver.isn = none := by
  unfold ackno
  split <;> simp_all

namespace TCPEndpoint

/-- The second endpoint is at least as far as the first. -/
structure Advances (before after : TCPEndpoint) : Prop where
  next :
    before.out.sender.nextSeqnoAbsolute ≤
      after.out.sender.nextSeqnoAbsolute
  acked : before.out.sender.acked ≤ after.out.sender.acked
  finished :
    before.out.sender.state = .finSent →
    after.out.sender.state = .finSent ∧
      after.out.sender.nextSeqnoAbsolute =
        before.out.sender.nextSeqnoAbsolute
  outboundError :
    before.out.sender.stream.error = true →
    after.out.sender.stream.error = true
  known : after.receiver.isn = none → before.receiver.isn = none
  ended :
    before.receiver.streamOut.inputEnded = true →
    after.receiver.streamOut.inputEnded = true
  inboundError :
    before.receiver.streamOut.error = true →
    after.receiver.streamOut.error = true

theorem Advances.refl
    (endpoint : TCPEndpoint) :
    Advances endpoint endpoint :=
  ⟨Nat.le_refl _, Nat.le_refl _, fun finished => ⟨finished, rfl⟩, id, id,
    id, id⟩

theorem Advances.trans
    {first second third : TCPEndpoint}
    (early : Advances first second)
    (late : Advances second third) :
    Advances first third where
  next := Nat.le_trans early.next late.next
  acked := Nat.le_trans early.acked late.acked
  finished := by
    intro finished
    obtain ⟨still, same⟩ := early.finished finished
    obtain ⟨last, unchanged⟩ := late.finished still
    exact ⟨last, unchanged.trans same⟩
  outboundError := late.outboundError ∘ early.outboundError
  known := early.known ∘ late.known
  ended := late.ended ∘ early.ended
  inboundError := late.inboundError ∘ early.inboundError

/-- An action on the receiver alone. -/
theorem Advances.of_receiver
    {before after : TCPEndpoint}
    (out : after.out = before.out)
    (known : after.receiver.isn = none → before.receiver.isn = none)
    (ended :
      before.receiver.streamOut.inputEnded = true →
      after.receiver.streamOut.inputEnded = true)
    (inboundError :
      before.receiver.streamOut.error = true →
      after.receiver.streamOut.error = true) :
    Advances before after where
  next := by rw [out]
  acked := by rw [out]
  finished := by
    rw [out]
    exact fun finished => ⟨finished, rfl⟩
  outboundError := by
    rw [out]
    exact id
  known := known
  ended := ended
  inboundError := inboundError

theorem Accounted.act_advances
    {endpoint : TCPEndpoint}
    (accounted : endpoint.Accounted)
    (action : Action) :
    Advances endpoint (endpoint.act action) := by
  cases action with
  | send call =>
      have tracked := accounted.tracked
      exact {
        next := tracked.step_next_le call
        acked := TCPSender.Session.step_acked_le tracked call
        finished := fun finished =>
          ⟨tracked.step_finSent call finished,
            TCPSender.Session.step_next_of_finSent tracked call finished⟩
        outboundError := TCPSender.Session.step_error call
        known := id
        ended := id
        inboundError := id
      }
  | receive order seg =>
      refine .of_receiver rfl ?_ ?_ ?_
      · intro unset
        change (endpoint.receiver.segmentReceived order seg).isn = none
          at unset
        rw [TCPReceiver.segmentReceived_isn] at unset
        split at unset
        · cases unset
        · exact unset
      · exact (TCPConnection.receiver_segmentReceived_progress order seg
          endpoint.receiver).2
      · intro failed
        exact (TCPReceiver.segmentReceived_error order seg
          endpoint.receiver).trans failed
  | inboundError =>
      exact .of_receiver rfl id id fun _ => rfl
  | read len =>
      refine .of_receiver rfl id ?_ ?_
      · intro ended
        exact (ByteStream.read_endFlag len _).trans ended
      · intro failed
        exact (ByteStream.read_error len _).trans failed
  | reset =>
      exact .of_receiver rfl id id id

section Summaries

variable {before after : TCPEndpoint}

theorem Advances.senderSummary
    (advances : Advances before after)
    (accounted : before.Accounted)
    (accountedAfter : after.Accounted) :
    before.out.sender.stateSummary.phase ≤
      after.out.sender.stateSummary.phase := by
  have next := advances.next
  have acked := advances.acked
  have boundAfter := accountedAfter.tracked.queued.bound
  rw [accounted.tracked.summary_eq, accountedAfter.tracked.summary_eq]
  by_cases failedAfter : after.out.sender.stream.error = true
  · -- an error is the last of all
    rw [if_pos failedAfter]
    repeat' split
    all_goals decide
  · rw [if_neg (mt advances.outboundError failedAfter),
      if_neg failedAfter]
    by_cases unused : before.out.sender.nextSeqnoAbsolute = 0
    · rw [if_pos unused]
      exact Nat.zero_le _
    have usedAfter : ¬ after.out.sender.nextSeqnoAbsolute = 0 := by
      omega
    rw [if_neg unused, if_neg usedAfter]
    by_cases unacked : before.out.sender.acked = 0
    · rw [if_pos unacked]
      repeat' split
      all_goals decide
    have ackedAfter : ¬ after.out.sender.acked = 0 := by
      omega
    rw [if_neg unacked, if_neg ackedAfter]
    by_cases finished : before.out.sender.state = .finSent
    · obtain ⟨still, same⟩ := advances.finished finished
      rw [if_neg (not_not.mpr finished), if_neg (not_not.mpr still), same]
      by_cases waiting :
          before.out.sender.acked < before.out.sender.nextSeqnoAbsolute
      · rw [if_pos waiting]
        split <;> decide
      · have heardAfter :
            ¬ after.out.sender.acked <
              before.out.sender.nextSeqnoAbsolute := by
          omega
        rw [if_neg waiting, if_neg heardAfter]
    · rw [if_pos finished]
      repeat' split
      all_goals decide

theorem Advances.receiverSummary
    (advances : Advances before after) :
    before.receiver.stateSummary.phase ≤
      after.receiver.stateSummary.phase := by
  have known :
      after.receiver.ackno = none → before.receiver.ackno = none := by
    simp only [TCPReceiver.ackno_eq_none_iff]
    exact advances.known
  unfold TCPReceiver.stateSummary
  by_cases failedAfter : after.receiver.streamOut.error = true
  · rw [if_pos failedAfter]
    repeat' split
    all_goals decide
  · rw [if_neg (mt advances.inboundError failedAfter),
      if_neg failedAfter]
    split
    · exact Nat.zero_le _
    · rename_i isKnown
      rw [if_neg (mt known isKnown)]
      split
      · rename_i ended
        rw [if_pos (advances.ended ended)]
      · split <;> decide

end Summaries

end TCPEndpoint

namespace TCPConnection

section Flags

variable {connection : TCPConnection} {op : Op}

/-- Finishing only ever sets the closing flags. -/
theorem tickFinish_flags
    (connection : TCPConnection) :
    (connection.close = true → connection.tickFinish.close = true) ∧
      (connection.tickFinish.lingerAfterStreamsFinish = true →
        connection.lingerAfterStreamsFinish = true) := by
  unfold tickFinish
  dsimp only
  repeat' split
  all_goals simp_all

/-- A connection that has closed stays closed. -/
theorem perform_close
    (closed : connection.close = true) :
    (connection.perform op).close = true := by
  rcases perform_kept connection op with
    kept | ⟨msSinceLastTick, rfl⟩ | ⟨order, seg, rfl⟩
  · rw [kept.close]
    exact closed
  · have sent :=
      (tickSend_frame connection msSinceLastTick).2.2.2.1.trans closed
    refine (tickFinish_flags _).1 ?_
    unfold tickAbort
    split
    · rw [sendRst_of_nil (tickSend_segmentsOut _ connection)]
    · exact sent
  · rw [perform, (segmentReceived_frame order seg connection).2.2.2,
      closed, Bool.true_or]

/-- A connection that gave up lingering does not take it up again. -/
theorem perform_linger
    (lingers : (connection.perform op).lingerAfterStreamsFinish = true) :
    connection.lingerAfterStreamsFinish = true := by
  cases op with
  | connect | write _ | endInputStream | dequeue =>
      rw [(perform_outbound connection ?_ ?_ ?_).linger] at lingers
      · exact lingers
      all_goals simp
  | readInbound len =>
      exact lingers
  | tick msSinceLastTick =>
      have before := (tickFinish_flags _).2 lingers
      rw [← (tickSend_inbound connection msSinceLastTick).linger]
      unfold tickAbort at before
      split at before
      · rw [sendRst_of_nil (tickSend_segmentsOut _ connection)] at before
        exact before
      · exact before
  | segmentReceived order seg =>
      rw [perform, (segmentReceived_inbound order seg connection).linger]
        at lingers
      have passed :
          (connection.noted seg).lingerAfterStreamsFinish = true := by
        unfold receivePayload at lingers
        split at lingers <;> exact lingers
      unfold noted passiveClose recordIsn receiveRst at passed
      repeat' split at passed
      all_goals first | exact passed | cases passed

/-- A call that aborts sets both error flags and closes. -/
theorem Op.Aborts.aborted
    (aborts : op.Aborts connection) :
    Aborted (connection.perform op) := by
  cases op with
  | segmentReceived order seg =>
      exact aborted_of_rst aborts order
  | tick msSinceLastTick =>
      have exceeded :
          (connection.tickSend msSinceLastTick).retransmissionsExceeded =
            true :=
        aborts
      have performed :
          connection.perform (.tick msSinceLastTick) =
            (connection.tickSend msSinceLastTick).sendRst.tickFinish := by
        rw [perform, TCPConnection.tick, tickAbort, if_pos exceeded]
      rw [performed]
      have closes :
          (connection.tickSend msSinceLastTick).sendRst.tickFinish.close =
            true := by
        refine (tickFinish_flags _).1 ?_
        rw [sendRst_of_nil (tickSend_segmentsOut _ connection)]
      refine ⟨?_, ?_, ?_⟩
      · rw [active, closes]
        rfl
      · rw [tickFinish_sender,
          sendRst_of_nil (tickSend_segmentsOut _ connection)]
        rfl
      · rw [inboundStream, tickFinish_receiver,
          sendRst_of_nil (tickSend_segmentsOut _ connection)]
        rfl
  | connect | write _ | endInputStream | readInbound _ | dequeue =>
      exact aborts.elim

/-- The error flags of the two streams are as they were. -/
structure SameErrors (before after : TCPConnection) : Prop where
  outbound : after.sender.stream.error = before.sender.stream.error
  inbound : after.inboundStream.error = before.inboundStream.error

theorem tickSend_sameErrors
    (connection : TCPConnection)
    (msSinceLastTick : Nat) :
    SameErrors connection (connection.tickSend msSinceLastTick) where
  outbound := by
    have filled :
        (connection.tickFill msSinceLastTick).sender.stream.error =
          connection.sender.stream.error := by
      rw [tickFill_sender]
      split
      · exact TCPSender.fillLoop_error _ connection.sender
      · rfl
    have frame :=
      TCPSender.tick_frame msSinceLastTick
        (connection.tickFill msSinceLastTick).sender
    rw [← filled, ← frame.stream]
    unfold tickSend tickRetransmit
    dsimp only
    split <;> rfl
  inbound :=
    congrArg (fun receiver => receiver.streamOut.error)
      (tickSend_inbound connection msSinceLastTick).receiver

/-- Only a call that aborts touches the error flags. -/
theorem perform_sameErrors
    (clean : ¬ op.Aborts connection) :
    SameErrors connection (connection.perform op) := by
  cases op with
  | connect =>
      exact ⟨TCPSender.fillLoop_error _ connection.sender, rfl⟩
  | write data =>
      exact ⟨(TCPSender.fillLoop_error _ _).trans
        (ByteStream.write_error data _), rfl⟩
  | endInputStream =>
      exact ⟨TCPSender.fillLoop_error _ _, rfl⟩
  | readInbound len =>
      exact ⟨rfl, ByteStream.read_error len _⟩
  | tick msSinceLastTick =>
      simp only [Op.Aborts] at clean
      have performed :
          connection.perform (.tick msSinceLastTick) =
            (connection.tickSend msSinceLastTick).tickFinish := by
        rw [perform, tick, tickAbort, if_neg clean]
      have sent := tickSend_sameErrors connection msSinceLastTick
      rw [performed]
      refine ⟨?_, ?_⟩
      · rw [tickFinish_sender]
        exact sent.outbound
      · rw [inboundStream, tickFinish_receiver]
        exact sent.inbound
  | segmentReceived order seg =>
      have noRst : seg.header.rst = false :=
        Bool.eq_false_of_not_eq_true clean
      have heard :
          (connection.heard order seg).sender.stream.error =
            connection.sender.stream.error := by
        rw [heard_stream, noted_sender_stream, noRst]
        rfl
      refine ⟨?_, ?_⟩
      · rw [perform, segmentReceived_stream]
        split
        · exact (TCPSender.fillLoop_error _ _).trans heard
        · exact heard
      · rw [inboundStream, perform,
          segmentReceived_receiver_of_noRst noRst order]
        split
        · exact TCPReceiver.segmentReceived_error order seg _
        · rfl
  | dequeue =>
      exact ⟨rfl, rfl⟩

end Flags

/-- How a connection may have ended, and what its streams share until then. -/
structure Ends (connection : TCPConnection) : Prop where
  sameError :
    connection.sender.stream.error = connection.inboundStream.error
  errorCloses :
    connection.inboundStream.error = true →
    connection.active = false
  heardFirst :
    connection.inboundStream.inputEnded = true →
    connection.receiver.isn ≠ none
  concluded :
    connection.active = false →
    connection.inboundStream.error = true ∨
      connection.inboundStream.inputEnded = true ∧
        connection.sender.state = .finSent ∧
        connection.sender.acked = connection.sender.nextSeqnoAbsolute

namespace Session

section Steps

variable {session : Session} {log : List TCPSegment}

/-- Every call takes the endpoint forward. -/
theorem advances_step
    (accounted : (session.view log).Accounted)
    (op : Op) :
    ∃ longer,
      ((session.step op).view longer).Accounted ∧
        TCPEndpoint.Advances (session.view log)
          ((session.step op).view longer) := by
  obtain ⟨longer, reached⟩ := session.reaches_step op log
  exact ⟨longer, reached.invariant
    (fun endpoint =>
      endpoint.Accounted ∧
        TCPEndpoint.Advances (session.view log) endpoint)
    (fun _ action held _ =>
      ⟨held.1.act action, held.2.trans (held.1.act_advances action)⟩)
    ⟨accounted, .refl _⟩⟩

theorem precedes_step
    (accounted : (session.view log).Accounted)
    (op : Op) :
    session.connection.state.Precedes
      (session.step op).connection.state := by
  obtain ⟨longer, accountedAfter, advances⟩ := advances_step accounted op
  have active :
      (session.step op).connection.active = true →
      session.connection.active = true := by
    intro activeAfter
    by_contra inactive
    have closed : session.connection.close = true := by
      simpa [TCPConnection.active] using inactive
    have closedAfter : (session.step op).connection.close = true :=
      perform_close closed
    rw [TCPConnection.active, closedAfter] at activeAfter
    cases activeAfter
  exact {
    sender := advances.senderSummary accounted accountedAfter
    receiver := advances.receiverSummary
    active := active
    linger := by
      intro lingers
      simp only [state, TCPState.ofParts] at lingers ⊢
      split at lingers
      · rename_i activeAfter
        rw [if_pos (active activeAfter)]
        exact perform_linger lingers
      · cases lingers
  }

/-- A stream only ends after its SYN. -/
theorem heardFirst_step
    (heardFirst :
      session.connection.inboundStream.inputEnded = true →
      session.connection.receiver.isn ≠ none)
    (op : Op) :
    (session.step op).connection.inboundStream.inputEnded = true →
    (session.step op).connection.receiver.isn ≠ none := by
  refine perform_receiver
    (fun receiver =>
      receiver.streamOut.inputEnded = true → receiver.isn ≠ none)
    (fun _ held => held) ?_ ?_ session.connection op heardFirst
  · intro receiver len held ended
    exact held ((ByteStream.read_endFlag len _).symm.trans ended)
  · intro receiver order seg held ended unset
    rw [TCPReceiver.segmentReceived_isn] at unset
    split at unset
    · cases unset
    · rename_i noSyn
      rw [TCPReceiver.segmentReceived_unsynchronized unset
        (Bool.eq_false_of_not_eq_true noSyn) order] at ended
      exact held ended unset

/-- A call that closes a connection cleanly finds both streams finished. -/
theorem concluded_of_closes
    {cfg : TCPConfig}
    (accounted : (session.view log).Accounted)
    (timed : session.Timed cfg)
    {op : Op}
    (wasActive : session.connection.active = true)
    (nowInactive : (session.step op).connection.active = false)
    (clean : ¬ op.Aborts session.connection) :
    let connection := (session.step op).connection
    connection.inboundStream.inputEnded = true ∧
      connection.sender.state = .finSent ∧
      connection.sender.acked = connection.sender.nextSeqnoAbsolute := by
  obtain ⟨⟨atEnd, _⟩, _, acked, _⟩ :=
    closes_cleanly accounted timed wasActive nowInactive clean
  obtain ⟨longer, accountedAfter⟩ := accounted_step op accounted
  have logged := accountedAfter.tracked.logged
  have bound := accountedAfter.tracked.queued.bound
  have next := logged.next_eq
  have accounting := logged.valid.accounting
  have syn := Bool.toNat_le (longer.any fun seg => seg.header.syn)
  have fin := Bool.toNat_le (longer.any fun seg => seg.header.fin)
  simp only [ByteStream.eof, Bool.and_eq_true] at atEnd
  simp only [ByteStream.bytesRead, ByteStream.bytesWritten, view,
    TCPConnection.view] at *
  refine ⟨atEnd.1, ?_, by omega⟩
  refine logged.marked.finSent_iff.mpr ?_
  by_contra noFin
  rw [Bool.eq_false_of_not_eq_true noFin, Bool.toNat_false] at next
  omega

theorem ends_step
    {cfg : TCPConfig}
    (accounted : (session.view log).Accounted)
    (timed : session.Timed cfg)
    (ends : session.connection.Ends)
    (op : Op) :
    (session.step op).connection.Ends := by
  have heardFirst := heardFirst_step ends.heardFirst op
  by_cases aborts : op.Aborts session.connection
  · have aborted := aborts.aborted
    exact {
      sameError := aborted.outbound.trans aborted.inbound.symm
      errorCloses := fun _ => aborted.inactive
      heardFirst := heardFirst
      concluded := fun _ => Or.inl aborted.inbound
    }
  · have same := perform_sameErrors aborts
    obtain ⟨longer, accountedAfter, advances⟩ :=
      advances_step accounted op
    refine ⟨?_, ?_, heardFirst, ?_⟩
    · exact same.outbound.trans (ends.sameError.trans same.inbound.symm)
    · intro failed
      have closed : session.connection.close = true := by
        simpa [TCPConnection.active] using
          ends.errorCloses (same.inbound.symm.trans failed)
      rw [TCPConnection.active, step_connection, perform_close closed]
      rfl
    · intro inactive
      by_cases wasActive : session.connection.active = true
      · exact Or.inr
          (concluded_of_closes accounted timed wasActive inactive aborts)
      · rcases ends.concluded (Bool.eq_false_of_not_eq_true wasActive) with
          failed | ⟨ended, finished, heard⟩
        · exact Or.inl (same.inbound.trans failed)
        · obtain ⟨still, next⟩ := advances.finished finished
          have acked := advances.acked
          have bound := accountedAfter.tracked.queued.bound
          refine Or.inr ⟨advances.ended ended, still, ?_⟩
          simp only [view, TCPConnection.view] at next acked bound
          omega

end Steps

/-- After any calls a session is accounted for and ends as it should. -/
theorem ends_after
    (cfg : TCPConfig)
    (random : WrappingInt32)
    (calls : List Op) :
    (after cfg random calls).connection.Ends := by
  have both :=
    Execution.run_invariant
      (fun session : Session =>
        (∃ log, (session.view log).Accounted) ∧
          session.Timed cfg ∧
          session.connection.Ends)
      (fun session op held => by
        obtain ⟨⟨log, accounted⟩, timed, ends⟩ := held
        exact ⟨accounted_step op accounted, timed.step op,
          ends_step accounted timed ends op⟩)
      ⟨⟨[], accounted_start cfg random⟩,
        timed_after cfg random [],
        { sameError := rfl
          errorCloses := fun failed => nomatch failed
          heardFirst := fun ended => nomatch ended
          concluded := fun inactive => nomatch inactive }⟩
      calls
  exact both.2.2

/-- An error on the inbound stream is the RESET state. -/
theorem state_of_error
    {connection : TCPConnection}
    (ends : connection.Ends)
    (failed : connection.inboundStream.error = true) :
    connection.state = TCPState.ofState .reset := by
  have sender : connection.sender.stateSummary = .error :=
    TCPSender.stateSummary_error_iff.mpr (ends.sameError.trans failed)
  have receiver : connection.receiver.stateSummary = .error :=
    TCPReceiver.stateSummary_error_iff.mpr failed
  rw [state, TCPState.ofParts, sender, receiver,
    ends.errorCloses failed]
  rfl

/-- An inactive connection without an error is in the CLOSED state. -/
theorem state_of_inactive
    {session : Session}
    {log : List TCPSegment}
    (accounted : (session.view log).Accounted)
    (ends : session.connection.Ends)
    (inactive : session.connection.active = false)
    (sound : session.connection.inboundStream.error = false) :
    session.connection.state = TCPState.ofState .closed := by
  obtain ⟨ended, finished, heard⟩ :=
    (ends.concluded inactive).resolve_left (by simp [sound])
  have sender : session.connection.sender.stateSummary = .finAcked :=
    accounted.tracked.summary_finAcked (ends.sameError.trans sound)
      finished heard
  have receiver :
      session.connection.receiver.stateSummary = .finRecv := by
    have sameError :
        session.connection.receiver.streamOut.error = false :=
      sound
    have sameEnd :
        session.connection.receiver.streamOut.inputEnded = true :=
      ended
    rw [TCPReceiver.stateSummary, sameError, if_neg Bool.false_ne_true,
      if_neg (mt TCPReceiver.ackno_eq_none_iff.mp
        (ends.heardFirst ended)), if_pos sameEnd]
  rw [state, TCPState.ofParts, sender, receiver, inactive]
  rfl

/--
Whatever is called and whatever arrives, the state of a connection only moves
forward: its summaries never return to an earlier phase, and a connection that
stopped being active, or gave up lingering, did so for good.
-/
theorem state_moves_forward
    (cfg : TCPConfig)
    (random : WrappingInt32)
    (early late : List Op) :
    (after cfg random early).connection.state.Precedes
      (after cfg random (early ++ late)).connection.state := by
  have both :=
    Execution.run_invariant
      (fun session : Session =>
        (∃ log, (session.view log).Accounted) ∧
          (after cfg random early).connection.state.Precedes
            session.connection.state)
      (fun session op held => by
        obtain ⟨⟨log, accounted⟩, precedes⟩ := held
        exact ⟨accounted_step op accounted,
          precedes.trans (precedes_step accounted op)⟩)
      ⟨accounted_after cfg random early, .refl _⟩
      late
  rw [after, after, Execution.run_append]
  exact both.2

/--
Whatever is called and whatever arrives, a connection has stopped being active
exactly when it is CLOSED, with both streams finished and acknowledged, or
RESET, and an error on one of its streams is an error on both and means RESET.
-/
theorem inactive_iff_closed_or_reset
    (cfg : TCPConfig)
    (random : WrappingInt32)
    (calls : List Op) :
    let connection := (after cfg random calls).connection
    (connection.active = false ↔
        connection.state = TCPState.ofState .closed ∨
          connection.state = TCPState.ofState .reset) ∧
      (connection.state.sender = .error ∨
          connection.state.receiver = .error ↔
        connection.state = TCPState.ofState .reset) := by
  intro connection
  have ends := ends_after cfg random calls
  obtain ⟨log, accounted⟩ := accounted_after cfg random calls
  refine ⟨⟨?_, ?_⟩, ⟨?_, ?_⟩⟩
  · intro inactive
    by_cases failed : connection.inboundStream.error = true
    · exact Or.inr (state_of_error ends failed)
    · exact Or.inl (state_of_inactive accounted ends inactive
        (Bool.eq_false_of_not_eq_true failed))
  · rintro (closed | reset)
    · exact congrArg TCPState.active closed
    · exact congrArg TCPState.active reset
  · intro summary
    refine state_of_error ends ?_
    rcases summary with sender | receiver
    · exact ends.sameError.symm.trans
        (TCPSender.stateSummary_error_iff.mp sender)
    · exact TCPReceiver.stateSummary_error_iff.mp receiver
  · intro reset
    exact Or.inl (congrArg TCPState.sender reset)

end Session

end TCPConnection

end Sponge
