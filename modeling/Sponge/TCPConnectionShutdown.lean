import Sponge.TCPConnectionRun

namespace Sponge.TCPConnection

/-!
# Clean shutdown

A connection that is neither reset nor out of retransmission attempts becomes
inactive only in `tick`.  The code tests that both streams are at their end and
that nothing is in flight; that a FIN was sent and acknowledged follows from the
way `fill_window` stops, because the recorded window is never zero.
-/

section Content

open TCPSender

theorem payloads_content
    (segments : List TCPSegment) :
    payloads (segments.map TCPSegment.content) = payloads segments := by
  simp only [payloads, List.flatMap_map]
  rfl

theorem numbered_content
    {isn : WrappingInt32}
    {start : Nat}
    {segments : List TCPSegment} :
    Numbered isn start (segments.map TCPSegment.content) ↔
      Numbered isn start segments := by
  induction segments generalizing start with
  | nil =>
      rfl
  | cons seg rest inductionHypothesis =>
      exact and_congr Iff.rfl inductionHypothesis

/-- A finished endpoint with nothing left to hand over has placed its stream. -/
theorem sent_everything
    {endpoint : TCPEndpoint}
    (accounted : endpoint.Accounted)
    (handedOver : endpoint.out.sender.segmentsOut = [])
    (finished : endpoint.out.sender.state = .finSent) :
    ∃ sent,
      sent.Sublist endpoint.placed ∧
        Numbered endpoint.out.sender.isn 0 sent ∧
        payloads sent = endpoint.out.written ∧
        ∃ seg ∈ sent, seg.header.fin = true := by
  have logged := accounted.tracked.logged
  have complete := accounted.complete
  rw [handedOver, List.append_nil, List.sublist_map_iff] at complete
  obtain ⟨sent, placed, same⟩ := complete
  refine ⟨sent, placed, ?_, ?_, ?_⟩
  · rw [← numbered_content, ← same]
    exact logged.numbered
  · rw [← payloads_content, ← same]
    exact logged.payloads_of_finSent finished
  · obtain ⟨carrier, member, isFin⟩ := logged.marked.finished finished
    rw [same] at member
    obtain ⟨seg, inSent, rfl⟩ := List.mem_map.mp member
    exact ⟨seg, inSent, isFin⟩

end Content

/-- What no part of a call but the clock and a RST changes. -/
structure Kept (before after : TCPConnection) : Prop where
  cfg : after.cfg = before.cfg
  ticks : after.ticks = before.ticks
  receTick : after.receTick = before.receTick
  close : after.close = before.close

section Frames

theorem Kept.trans
    {before middle after : TCPConnection}
    (first : Kept before middle)
    (second : Kept middle after) :
    Kept before after where
  cfg := second.cfg.trans first.cfg
  ticks := second.ticks.trans first.ticks
  receTick := second.receTick.trans first.receTick
  close := second.close.trans first.close

variable (order : IterationOrder) (seg : TCPSegment)
variable (connection : TCPConnection)

theorem kept_recordIsn :
    Kept connection (connection.recordIsn seg) := by
  unfold recordIsn
  split <;> exact ⟨rfl, rfl, rfl, rfl⟩

theorem kept_passiveClose :
    Kept connection (connection.passiveClose seg) := by
  unfold passiveClose
  split <;> exact ⟨rfl, rfl, rfl, rfl⟩

theorem kept_receivePayload :
    Kept connection (connection.receivePayload seg order) := by
  unfold receivePayload
  split <;> exact ⟨rfl, rfl, rfl, rfl⟩

theorem kept_receiveAck :
    Kept connection (connection.receiveAck seg) := by
  unfold receiveAck
  split <;> exact ⟨rfl, rfl, rfl, rfl⟩

theorem kept_reply :
    Kept connection (connection.reply seg) := by
  unfold reply
  split <;> exact ⟨rfl, rfl, rfl, rfl⟩

theorem kept_replyKeepAlive :
    Kept connection (connection.replyKeepAlive seg) := by
  unfold replyKeepAlive
  split
  · exact ⟨rfl, rfl, rfl, rfl⟩
  · split <;> exact ⟨rfl, rfl, rfl, rfl⟩

theorem kept_sendSegment :
    Kept connection connection.sendSegment :=
  ⟨rfl, rfl, rfl, rfl⟩

theorem kept_withReceiver
    (receiver : TCPReceiver) :
    Kept connection { connection with receiver := receiver } :=
  ⟨rfl, rfl, rfl, rfl⟩

theorem kept_handOver
    (sender : TCPSender) :
    Kept connection { connection with sender := sender }.sendSegment :=
  ⟨rfl, rfl, rfl, rfl⟩

/-- A segment is noted at the current time, and only a RST closes. -/
theorem segmentReceived_frame :
    (connection.segmentReceived seg order).cfg = connection.cfg ∧
      (connection.segmentReceived seg order).ticks = connection.ticks ∧
      (connection.segmentReceived seg order).receTick =
        connection.ticks ∧
      (connection.segmentReceived seg order).close =
        (connection.close || seg.header.rst) := by
  have kept :
      Kept
        ({ connection with receTick := connection.ticks }.receiveRst seg)
        (connection.segmentReceived seg order) :=
    ((((((kept_recordIsn seg _).trans (kept_passiveClose seg _)).trans
      (kept_receivePayload order seg _)).trans
      (kept_receiveAck seg _)).trans
      (kept_reply seg _)).trans
      (kept_replyKeepAlive seg _)).trans (kept_sendSegment _)
  rw [kept.cfg, kept.ticks, kept.receTick, kept.close]
  unfold receiveRst
  split
  · rename_i isRst
    simp [isRst]
  · rename_i noRst
    simp [noRst]

/-- Calls that neither tell the time nor deliver a segment. -/
theorem perform_kept
    (op : Op) :
    Kept connection (connection.perform op) ∨
      (∃ msSinceLastTick, op = .tick msSinceLastTick) ∨
      ∃ order seg, op = .segmentReceived order seg := by
  cases op with
  | tick msSinceLastTick =>
      exact Or.inr (Or.inl ⟨msSinceLastTick, rfl⟩)
  | segmentReceived order seg =>
      exact Or.inr (Or.inr ⟨order, seg, rfl⟩)
  | connect | write _ | endInputStream =>
      exact Or.inl (kept_handOver connection _)
  | readInbound len =>
      exact Or.inl (kept_withReceiver connection _)
  | dequeue =>
      exact Or.inl ⟨rfl, rfl, rfl, rfl⟩

theorem connect_frame :
    Kept connection connection.connect ∧
      connection.connect.lingerAfterStreamsFinish =
        connection.lingerAfterStreamsFinish := by
  unfold connect
  generalize connection.sender.fillWindow = filled
  exact ⟨kept_handOver connection filled, rfl⟩

theorem tickFill_frame
    (msSinceLastTick : Nat) :
    (connection.tickFill msSinceLastTick).cfg = connection.cfg ∧
      (connection.tickFill msSinceLastTick).ticks =
        (connection.ticks + msSinceLastTick) % 2 ^ 64 ∧
      (connection.tickFill msSinceLastTick).receTick =
        connection.receTick ∧
      (connection.tickFill msSinceLastTick).close = connection.close ∧
      (connection.tickFill msSinceLastTick).lingerAfterStreamsFinish =
        connection.lingerAfterStreamsFinish := by
  unfold tickFill
  dsimp only
  split
  · obtain ⟨kept, linger⟩ := connect_frame { connection with
      ticks := (connection.ticks + msSinceLastTick) % 2 ^ 64 }
    exact ⟨kept.cfg, kept.ticks, kept.receTick, kept.close, linger⟩
  · exact ⟨rfl, rfl, rfl, rfl, rfl⟩

theorem tickRetransmit_frame
    (msSinceLastTick : Nat) :
    Kept connection (connection.tickRetransmit msSinceLastTick) ∧
      (connection.tickRetransmit
          msSinceLastTick).lingerAfterStreamsFinish =
        connection.lingerAfterStreamsFinish := by
  unfold tickRetransmit
  dsimp only
  split <;> exact ⟨⟨rfl, rfl, rfl, rfl⟩, rfl⟩

/-- The first part of `tick` advances the clock. -/
theorem tickSend_frame
    (msSinceLastTick : Nat) :
    (connection.tickSend msSinceLastTick).cfg = connection.cfg ∧
      (connection.tickSend msSinceLastTick).ticks =
        (connection.ticks + msSinceLastTick) % 2 ^ 64 ∧
      (connection.tickSend msSinceLastTick).receTick =
        connection.receTick ∧
      (connection.tickSend msSinceLastTick).close = connection.close ∧
      (connection.tickSend msSinceLastTick).lingerAfterStreamsFinish =
        connection.lingerAfterStreamsFinish := by
  obtain ⟨kept, linger⟩ :=
    tickRetransmit_frame (connection.tickFill msSinceLastTick)
      msSinceLastTick
  rw [tickSend, kept.cfg, kept.ticks, kept.receTick, kept.close, linger]
  exact tickFill_frame connection msSinceLastTick

/-- Giving up leaves the clock alone. -/
theorem tickAbort_frame :
    connection.tickAbort.cfg = connection.cfg ∧
      connection.tickAbort.ticks = connection.ticks ∧
      connection.tickAbort.receTick = connection.receTick := by
  unfold tickAbort sendRst
  split
  · dsimp only
    split <;> exact ⟨rfl, rfl, rfl⟩
  · exact ⟨rfl, rfl, rfl⟩

end Frames

/-- The clocks of a connection show the time since the last segment. -/
structure Session.Timed
    (cfg : TCPConfig)
    (session : Session) : Prop where
  sameCfg : session.connection.cfg = cfg
  ticks :
    session.connection.ticks =
      (session.connection.receTick + session.sinceReceived) % 2 ^ 64
  receTick : session.connection.receTick < 2 ^ 64

section Time

variable {cfg : TCPConfig} {session : Session}

theorem Session.Timed.of_kept
    {next : Session}
    (timed : session.Timed cfg)
    (kept : Kept session.connection next.connection)
    (same : next.sinceReceived = session.sinceReceived) :
    next.Timed cfg where
  sameCfg := kept.cfg.trans timed.sameCfg
  ticks := by
    rw [kept.ticks, kept.receTick, same]
    exact timed.ticks
  receTick := by
    rw [kept.receTick]
    exact timed.receTick

theorem Session.Timed.step
    (timed : session.Timed cfg)
    (op : Op) :
    (session.step op).Timed cfg := by
  have sameCfg := timed.sameCfg
  have ticks := timed.ticks
  have receTick := timed.receTick
  cases op with
  | tick msSinceLastTick =>
      obtain ⟨sentCfg, sentTicks, sentReceTick, _⟩ :=
        tickSend_frame session.connection msSinceLastTick
      obtain ⟨abortedCfg, abortedTicks, abortedReceTick⟩ :=
        tickAbort_frame
          (session.connection.tickSend msSinceLastTick)
      constructor
      · simp only [Session.step, perform, tick, tickFinish_cfg,
          abortedCfg, sentCfg, sameCfg]
      · simp only [Session.step, perform, tick, tickFinish_ticks,
          tickFinish_receTick, abortedTicks, abortedReceTick,
          sentTicks, sentReceTick, ticks]
        omega
      · simp only [Session.step, perform, tick, tickFinish_receTick,
          abortedReceTick, sentReceTick]
        exact receTick
  | segmentReceived order seg =>
      obtain ⟨keptCfg, keptTicks, now, _⟩ :=
        segmentReceived_frame order seg session.connection
      have bounded : session.connection.ticks < 2 ^ 64 := by
        rw [ticks]
        exact Nat.mod_lt _ (by decide)
      constructor
      · simp only [Session.step, perform, keptCfg, sameCfg]
      · simp only [Session.step, perform, keptTicks, now, Nat.add_zero]
        exact (Nat.mod_eq_of_lt bounded).symm
      · simp only [Session.step, perform, now]
        exact bounded
  | connect | write _ | endInputStream =>
      exact timed.of_kept (kept_handOver _ _) (by simp only [Session.step])
  | readInbound len =>
      exact timed.of_kept (kept_withReceiver _ _)
        (by simp only [Session.step])
  | dequeue =>
      exact timed.of_kept ⟨rfl, rfl, rfl, rfl⟩
        (by simp only [Session.step])

theorem Session.timed_after
    (cfg : TCPConfig)
    (random : WrappingInt32)
    (calls : List Op) :
    (Session.after cfg random calls).Timed cfg :=
  Execution.run_invariant (Session.Timed cfg)
    (fun _ op timed => timed.step op)
    ⟨rfl, rfl, Nat.two_pow_pos 64⟩ calls

/-- The clocks may wrap, but they never show more time than has passed. -/
theorem Session.Timed.since_le
    (timed : session.Timed cfg) :
    session.connection.timeSinceLastSegmentReceived ≤
      session.sinceReceived := by
  have ticks := timed.ticks
  have receTick := timed.receTick
  have bounded : session.connection.ticks < 2 ^ 64 := by
    rw [ticks]
    exact Nat.mod_lt _ (by decide)
  unfold timeSinceLastSegmentReceived
  by_cases ordered :
      session.connection.receTick ≤ session.connection.ticks
  · rw [sub64_of_le ordered]
    omega
  · rw [sub64_of_lt (by omega) receTick]
    omega

end Time

section Closing

variable {connection : TCPConnection}

/-- The tests a connection passes before it closes. -/
theorem tickFinish_closes
    (wasOpen : connection.close = false)
    (closes : connection.tickFinish.close = true) :
    connection.receiver.unassembledBytes = 0 ∧
      connection.receiver.streamOut.eof = true ∧
      connection.sender.stream.eof = true ∧
      connection.sender.bytesInFlight = 0 ∧
      (connection.lingerAfterStreamsFinish = true →
        10 * connection.cfg.rtTimeout.toNat ≤
          connection.timeSinceLastSegmentReceived) := by
  unfold tickFinish at closes
  split at closes
  · rw [wasOpen] at closes
    cases closes
  · rename_i inbound
    split at closes
    · rw [wasOpen] at closes
      cases closes
    · rename_i outbound
      split at closes
      · rw [wasOpen] at closes
        cases closes
      · rename_i inFlight
        simp only [not_or, not_not, Bool.not_eq_false] at inbound
        refine ⟨inbound.1, inbound.2, by simpa using outbound,
          not_not.mp inFlight, ?_⟩
        intro lingers
        by_contra early
        simp [early, lingers, wasOpen] at closes

/-- Filling the window at the end of the stream leaves it full, or sends a FIN. -/
theorem tickSend_exit
    {written : Bytes}
    {log : List TCPSegment}
    (tracked :
      TCPSender.Session.Tracked ⟨connection.sender, written, log⟩)
    (msSinceLastTick : Nat)
    (atEnd :
      (connection.tickSend msSinceLastTick).sender.stream.eof = true) :
    (connection.tickSend msSinceLastTick).sender.room = 0 ∨
      (connection.tickSend msSinceLastTick).sender.state = .finSent := by
  have retransmits :
      ∀ filled : TCPConnection,
        (filled.tickRetransmit msSinceLastTick).sender.stream =
            filled.sender.stream ∧
          (filled.tickRetransmit msSinceLastTick).sender.state =
            filled.sender.state ∧
          (filled.tickRetransmit msSinceLastTick).sender.room =
            filled.sender.room := by
    intro filled
    have frame := TCPSender.tick_frame msSinceLastTick filled.sender
    have sameRoom :
        (filled.sender.tick msSinceLastTick).room =
          filled.sender.room := by
      simp only [TCPSender.room, TCPSender.bytesInFlight,
        TCPSender.acked, frame.isn, frame.ack, frame.next,
        frame.windowSize]
    unfold tickRetransmit
    dsimp only
    split <;> exact ⟨frame.stream, frame.state, sameRoom⟩
  obtain ⟨stream, state, room⟩ :=
    retransmits (connection.tickFill msSinceLastTick)
  rw [tickSend] at atEnd ⊢
  rw [stream] at atEnd
  rw [state, room]
  unfold tickFill at atEnd ⊢
  dsimp only at atEnd ⊢
  split at atEnd
  · rename_i something
    rw [if_pos something]
    obtain ⟨sent, fills⟩ :=
      TCPSender.fillWindow_fills tracked.logged.ready
    unfold connect sendSegment at *
    dsimp only at *
    generalize connection.sender.fillWindow = filled at fills atEnd ⊢
    rcases fills.exit with full | finished | ⟨_, notAtEnd⟩
    · exact Or.inl full
    · exact Or.inr finished
    · rw [notAtEnd] at atEnd
      cases atEnd
  · rename_i nothing
    exact (nothing (Or.inr atEnd)).elim

/-- Nothing in flight leaves room in the window, so it was a FIN that stopped. -/
theorem finSent_of_exit
    {sender : TCPSender}
    (windowOpen : sender.windowSize ≠ 0)
    (drained : sender.bytesInFlight = 0)
    (exits : sender.room = 0 ∨ sender.state = .finSent) :
    sender.state = .finSent := by
  rcases exits with full | finished
  · have shut : sender.windowSize.toNat = 0 := by
      rw [TCPSender.room, drained] at full
      exact sub64_eq_zero_iff.mp full
    exact (windowOpen (UInt16.toNat_inj.mp shut)).elim
  · exact finished

end Closing

/-- The call processes a RST or exceeds the retransmission limit. -/
def Op.Aborts
    (connection : TCPConnection) :
    Op → Prop
  | .segmentReceived _ seg => seg.header.rst = true
  | .tick msSinceLastTick =>
      (connection.tickSend msSinceLastTick).retransmissionsExceeded =
        true
  | _ => False

/-- An open connection closes in a call that does not abort only in `tick`. -/
theorem closes_in_tick
    {connection : TCPConnection}
    {op : Op}
    (wasActive : connection.active = true)
    (nowInactive : (connection.perform op).active = false)
    (clean : ¬ op.Aborts connection) :
    ∃ msSinceLastTick,
      op = .tick msSinceLastTick ∧
        connection.perform op =
          (connection.tickSend msSinceLastTick).tickFinish ∧
        (connection.tickSend msSinceLastTick).close = false ∧
        (connection.tickSend msSinceLastTick).tickFinish.close =
          true := by
  have wasOpen : connection.close = false := by
    simpa [active] using wasActive
  have closed : (connection.perform op).close = true := by
    simpa [active] using nowInactive
  rcases perform_kept connection op with
    kept | ⟨msSinceLastTick, rfl⟩ | ⟨order, seg, rfl⟩
  · rw [kept.close, wasOpen] at closed
    cases closed
  · have performed :
        connection.perform (.tick msSinceLastTick) =
          (connection.tickSend msSinceLastTick).tickFinish := by
      simp only [Op.Aborts] at clean
      simp only [perform, tick, tickAbort]
      rw [if_neg clean]
    refine ⟨msSinceLastTick, rfl, performed, ?_, performed ▸ closed⟩
    exact (tickSend_frame connection msSinceLastTick).2.2.2.1.trans
      wasOpen
  · have noRst : seg.header.rst = false := by
      simpa [Op.Aborts] using clean
    have stillOpen :=
      (segmentReceived_frame order seg connection).2.2.2
    rw [wasOpen, noRst] at stillOpen
    rw [perform, stillOpen] at closed
    cases closed

/-- What a session has come to when it closes without aborting. -/
theorem Session.closes_cleanly
    {session : Session}
    {log : List TCPSegment}
    {cfg : TCPConfig}
    {op : Op}
    (accounted : (session.view log).Accounted)
    (timed : session.Timed cfg)
    (wasActive : session.connection.active = true)
    (nowInactive : (session.step op).connection.active = false)
    (clean : ¬ op.Aborts session.connection) :
    ((session.step op).connection.inboundStream.eof = true ∧
        (session.step op).connection.unassembledBytes = 0) ∧
      (session.connection.sender.stream.endFlag = true ∧
        ∃ sent,
          sent.Sublist (session.step op).placed ∧
            TCPSender.Numbered
              (session.step op).connection.sender.isn 0 sent ∧
            TCPSender.payloads sent = (session.step op).written ∧
            ∃ seg ∈ sent, seg.header.fin = true) ∧
      (session.step op).connection.sender.acked =
        (session.step op).connection.sender.stream.bytesWritten + 2 ∧
      (session.connection.lingerAfterStreamsFinish = true →
        10 * cfg.rtTimeout.toNat ≤
          (session.step op).sinceReceived) := by
  obtain ⟨msSinceLastTick, rfl, performed, stillOpen, closes⟩ :=
    closes_in_tick wasActive nowInactive clean
  obtain ⟨assembled, inboundEnd, atEnd, drained, waited⟩ :=
    tickFinish_closes stillOpen closes
  have exits :=
    tickSend_exit accounted.tracked msSinceLastTick atEnd
  have nothing :=
    tickSend_segmentsOut msSinceLastTick session.connection
  obtain ⟨sameCfg, _, _, _, sameLinger⟩ :=
    tickSend_frame session.connection msSinceLastTick
  obtain ⟨longer, accountedAfter⟩ :=
    accounted_step (.tick msSinceLastTick) accounted
  have timedAfter := timed.step (.tick msSinceLastTick)
  have unchanged :
      (session.step (.tick msSinceLastTick)
          ).connection.sender.stream.endFlag =
        session.connection.sender.stream.endFlag :=
    step_endFlag accounted (by simp)
  have final :
      (session.step (.tick msSinceLastTick)).connection =
        (session.connection.tickSend msSinceLastTick).tickFinish :=
    (session.step_connection _).trans performed
  generalize session.step (.tick msSinceLastTick) = next at *
  -- the last part of the call only sets flags
  have sender :
      next.connection.sender =
        (session.connection.tickSend msSinceLastTick).sender := by
    rw [final, tickFinish_sender]
  have receiver :
      next.connection.receiver =
        (session.connection.tickSend msSinceLastTick).receiver := by
    rw [final, tickFinish_receiver]
  have time :
      next.connection.timeSinceLastSegmentReceived =
        (session.connection.tickSend
          msSinceLastTick).timeSinceLastSegmentReceived := by
    rw [timeSinceLastSegmentReceived, timeSinceLastSegmentReceived,
      final, tickFinish_ticks, tickFinish_receTick]
  rw [← sender] at atEnd drained exits nothing
  have finished : next.connection.sender.state = .finSent :=
    finSent_of_exit accountedAfter.tracked.windowOpen drained exits
  refine ⟨⟨?_, ?_⟩, ⟨?_, ?_⟩, ?_, ?_⟩
  · rw [inboundStream, receiver]
    exact inboundEnd
  · rw [unassembledBytes, receiver]
    exact assembled
  · simp only [ByteStream.eof, Bool.and_eq_true] at atEnd
    exact unchanged.symm.trans atEnd.1
  · exact sent_everything accountedAfter nothing finished
  · have numbers :
        next.connection.sender.nextSeqnoAbsolute =
          next.connection.sender.stream.bytesWritten + 2 :=
      accountedAfter.tracked.logged.next_of_finSent finished
    exact (sub64_eq_zero_iff.mp drained).symm.trans numbers
  · intro lingers
    have enough := waited (sameLinger.trans lingers)
    rw [sameCfg, timed.sameCfg, ← time] at enough
    exact Nat.le_trans enough timedAfter.since_le

/--
Clean shutdown is never premature.  When a call makes an active connection
inactive without a RST and within the retransmission limit, the inbound stream
has been read to its end, the application has ended the outbound stream, all of
it has been placed in the outbound queue with a FIN, and the FIN has been
acknowledged.  A connection that was lingering has waited long enough.
-/
theorem shutdown_not_premature
    (cfg : TCPConfig)
    (random : WrappingInt32)
    (calls : List Op)
    (op : Op)
    (wasActive :
      (Session.after cfg random calls).connection.active = true)
    (nowInactive :
      ((Session.after cfg random calls).step op).connection.active =
        false)
    (clean :
      ¬ op.Aborts (Session.after cfg random calls).connection) :
    let before := Session.after cfg random calls
    let final := before.step op
    let sender := final.connection.sender
    (final.connection.inboundStream.eof = true ∧
        final.connection.unassembledBytes = 0) ∧
      (.endInputStream ∈ calls ∧
        ∃ sent,
          sent.Sublist final.placed ∧
            TCPSender.Numbered sender.isn 0 sent ∧
            TCPSender.payloads sent = final.written ∧
            ∃ seg ∈ sent, seg.header.fin = true) ∧
      sender.acked = sender.stream.bytesWritten + 2 ∧
      (before.connection.lingerAfterStreamsFinish = true →
        10 * cfg.rtTimeout.toNat ≤ final.sinceReceived) := by
  obtain ⟨log, accounted⟩ := Session.accounted_after cfg random calls
  obtain ⟨inbound, ⟨ended, sent⟩, acknowledged, waited⟩ :=
    Session.closes_cleanly accounted
      (Session.timed_after cfg random calls) wasActive nowInactive clean
  exact ⟨inbound, ⟨Session.ended_by_application ended, sent⟩,
    acknowledged, waited⟩

/-- A peer's SYN, with an acknowledgment of the local SYN. -/
def peerSyn : TCPSegment where
  header := {
    seqno := ⟨100⟩
    ackno := ⟨1⟩
    syn := true
    ack := true
    win := 1000 }

/-- The peer's FIN, with an acknowledgment of two bytes and a FIN. -/
def peerFin : TCPSegment where
  header := {
    seqno := ⟨101⟩
    ackno := ⟨4⟩
    fin := true
    ack := true
    win := 1000 }

/-- An active close: the FIN is sent first, and the connection lingers. -/
def activeClose : List Op := [
  .connect,
  .segmentReceived .stored peerSyn,
  .write [97, 98],
  .endInputStream,
  .segmentReceived .stored peerFin]

theorem shutdown_not_premature_activeClose :
    let before := Session.after {} ⟨0⟩ activeClose
    let final := before.step (.tick 10000)
    before.connection.lingerAfterStreamsFinish = true ∧
      final.connection.active = false ∧
      final.connection.inboundStream.eof = true ∧
      final.connection.sender.acked =
        final.connection.sender.stream.bytesWritten + 2 ∧
      10 * TCPConfig.timeoutDflt.toNat ≤ final.sinceReceived := by
  have wasActive :
      (Session.after {} ⟨0⟩ activeClose).connection.active = true := by
    decide +kernel
  have lingers :
      (Session.after {} ⟨0⟩
        activeClose).connection.lingerAfterStreamsFinish = true := by
    decide +kernel
  have inactive :
      ((Session.after {} ⟨0⟩ activeClose).step
        (.tick 10000)).connection.active = false := by
    decide +kernel
  have withinLimit :
      ((Session.after {} ⟨0⟩ activeClose).connection.tickSend
        10000).retransmissionsExceeded = false := by
    decide +kernel
  have clean :
      ¬ (Op.tick 10000).Aborts
        (Session.after {} ⟨0⟩ activeClose).connection := by
    rw [Op.Aborts, withinLimit]
    exact Bool.false_ne_true
  have closed :=
    shutdown_not_premature {} ⟨0⟩ activeClose (.tick 10000)
      wasActive inactive clean
  dsimp only at closed ⊢
  exact ⟨lingers, inactive, closed.1.1, closed.2.2.1,
    closed.2.2.2 lingers⟩

end Sponge.TCPConnection
