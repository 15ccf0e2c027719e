import Sponge.StreamReassemblerProgress
import Sponge.TCPConnectionRun
import Sponge.TCPEndpointFlow

namespace Sponge.TCPConnection

/-!
# The inbound side of a connection

The peer's initial number is kept twice: by the receiver, behind the window
test, and by the connection, which sets its copy from every SYN before that
test.  So the copy is only as good as what arrives: the results below say for
which segments it is the peer's number.
-/

section Frames

variable (order : IterationOrder) (seg : TCPSegment)
variable (connection : TCPConnection)

/-- The notes taken of a segment before it reaches the receiver. -/
def noted : TCPConnection :=
  (({ connection with receTick := connection.ticks }.receiveRst seg
    ).recordIsn seg).passiveClose seg

/-- What only the notes and the receiver of a segment touch. -/
structure SameInbound (before after : TCPConnection) : Prop where
  receiver : after.receiver = before.receiver
  isnReceiver : after.isnReceiver = before.isnReceiver
  linger :
    after.lingerAfterStreamsFinish = before.lingerAfterStreamsFinish

theorem SameInbound.trans
    {before middle after : TCPConnection}
    (first : SameInbound before middle)
    (second : SameInbound middle after) :
    SameInbound before after where
  receiver := second.receiver.trans first.receiver
  isnReceiver := second.isnReceiver.trans first.isnReceiver
  linger := second.linger.trans first.linger

theorem sameInbound_withSender
    (sender : TCPSender) :
    SameInbound connection { connection with sender := sender } :=
  ⟨rfl, rfl, rfl⟩

theorem sameInbound_sendSegment :
    SameInbound connection connection.sendSegment :=
  ⟨rfl, rfl, rfl⟩

/-- A new sender, of whatever state, and its segments on the wire. -/
theorem sameInbound_sent
    (sender : TCPSender) :
    SameInbound connection
      { connection with sender := sender }.sendSegment :=
  (sameInbound_withSender connection sender).trans (sameInbound_sendSegment _)

theorem sameInbound_receiveAck :
    SameInbound connection (connection.receiveAck seg) := by
  unfold receiveAck
  split
  · exact sameInbound_withSender connection _
  · exact ⟨rfl, rfl, rfl⟩

theorem sameInbound_reply :
    SameInbound connection (connection.reply seg) := by
  unfold reply
  split
  · exact sameInbound_withSender connection _
  · exact ⟨rfl, rfl, rfl⟩

theorem sameInbound_replyKeepAlive :
    SameInbound connection (connection.replyKeepAlive seg) := by
  unfold replyKeepAlive
  split
  · exact ⟨rfl, rfl, rfl⟩
  · split
    · exact sameInbound_withSender connection _
    · exact ⟨rfl, rfl, rfl⟩

/-- The sender's part of a call leaves the inbound side alone. -/
theorem segmentReceived_inbound :
    SameInbound ((connection.noted seg).receivePayload seg order)
      (connection.segmentReceived seg order) :=
  (((sameInbound_receiveAck seg _).trans (sameInbound_reply seg _)).trans
    (sameInbound_replyKeepAlive seg _)).trans (sameInbound_sendSegment _)

theorem tickSend_inbound
    (msSinceLastTick : Nat) :
    SameInbound connection (connection.tickSend msSinceLastTick) := by
  have fills :
      SameInbound connection (connection.tickFill msSinceLastTick) := by
    unfold tickFill
    dsimp only
    split
    · unfold connect
      generalize TCPSender.fillWindow _ = filled
      exact ⟨rfl, rfl, rfl⟩
    · exact ⟨rfl, rfl, rfl⟩
  refine fills.trans ?_
  unfold tickSend tickRetransmit
  dsimp only
  split
  · exact (sameInbound_withSender _ _).trans (sameInbound_sendSegment _)
  · exact sameInbound_withSender _ _

theorem tickAbort_inbound :
    (connection.tickAbort.receiver = connection.receiver ∨
        connection.tickAbort.receiver = connection.receiver.setError) ∧
      connection.tickAbort.isnReceiver = connection.isnReceiver := by
  unfold tickAbort sendRst
  split
  · dsimp only
    split
    · exact ⟨Or.inl rfl, rfl⟩
    · exact ⟨Or.inr rfl, rfl⟩
  · exact ⟨Or.inl rfl, rfl⟩

/-- The passage of time at most sets the error flag of the inbound stream. -/
theorem tick_inbound
    (msSinceLastTick : Nat) :
    ((connection.tick msSinceLastTick).receiver =
          connection.receiver ∨
        (connection.tick msSinceLastTick).receiver =
          connection.receiver.setError) ∧
      (connection.tick msSinceLastTick).isnReceiver =
        connection.isnReceiver := by
  have sent := tickSend_inbound connection msSinceLastTick
  obtain ⟨receiver, isnReceiver⟩ :=
    tickAbort_inbound (connection.tickSend msSinceLastTick)
  rw [sent.receiver] at receiver
  rw [sent.isnReceiver] at isnReceiver
  unfold tick
  rw [tickFinish_receiver, tickFinish_shape]
  exact ⟨receiver, isnReceiver⟩

/-- Noting a segment changes at most the stream of the sender. -/
theorem receivePayload_sender :
    ∃ stream,
      ((connection.noted seg).receivePayload seg order).sender =
        { connection.sender with stream := stream } := by
  have handed :
      ((connection.noted seg).receivePayload seg order).sender =
        (connection.noted seg).sender := by
    unfold receivePayload
    split <;> rfl
  rw [handed]
  unfold noted passiveClose recordIsn receiveRst
  repeat' split
  all_goals exact ⟨_, rfl⟩

theorem noted_receiver_eq :
    (connection.noted seg).receiver =
      if seg.header.rst then
        connection.receiver.setError
      else
        connection.receiver := by
  unfold noted passiveClose recordIsn receiveRst
  repeat' split
  all_goals rfl

theorem noted_receiver :
    (connection.noted seg).receiver = connection.receiver ∨
      (connection.noted seg).receiver = connection.receiver.setError := by
  rw [noted_receiver_eq]
  split
  · exact Or.inr rfl
  · exact Or.inl rfl

theorem noted_isnReceiver :
    (connection.noted seg).isnReceiver =
      if seg.header.syn then
        some seg.header.seqno
      else
        connection.isnReceiver := by
  unfold noted passiveClose recordIsn receiveRst
  repeat' split
  all_goals rfl

/-- Of the notes only the peer's number matters to the window test. -/
theorem noted_checkSegmentInWindow :
    (connection.noted seg).checkSegmentInWindow seg =
      (connection.recordIsn seg).checkSegmentInWindow seg := by
  unfold noted passiveClose recordIsn receiveRst
  repeat' split
  all_goals rfl

end Frames

section Receiver

variable (order : IterationOrder) (seg : TCPSegment)
variable (receiver : TCPReceiver)

/-- A segment of any content takes back neither bytes nor the end. -/
theorem receiver_segmentReceived_progress :
    receiver.streamOut.bytesWritten ≤
        (receiver.segmentReceived order seg).streamOut.bytesWritten ∧
      (receiver.streamOut.inputEnded = true →
        (receiver.segmentReceived order seg).streamOut.inputEnded =
          true) :=
  receiver.segmentReceived_invariant order seg
    (fun next =>
      receiver.reassembler.output.bytesW ≤ next.output.bytesW ∧
        (receiver.reassembler.output.endFlag = true →
          next.output.endFlag = true))
    (fun _ =>
      StreamReassembler.pushSubstring_progress order _ _ _
        receiver.reassembler)
    ⟨Nat.le_refl _, id⟩

/-- A segment of any content leaves assembled what was assembled. -/
theorem receiver_segmentReceived_assembled :
    receiver.assembled ≤
      (receiver.segmentReceived order seg).assembled := by
  obtain ⟨written, ended⟩ :=
    receiver_segmentReceived_progress order seg receiver
  unfold TCPReceiver.assembled
  cases wasEnded : receiver.streamOut.inputEnded with
  | false =>
      rw [Bool.toNat_false]
      omega
  | true =>
      rw [ended wasEnded]
      omega

/-- The calls on the outbound side leave the inbound side alone. -/
theorem perform_outbound
    (connection : TCPConnection)
    {op : Op}
    (read : ∀ len, op ≠ .readInbound len)
    (ticked : ∀ msSinceLastTick, op ≠ .tick msSinceLastTick)
    (received : ∀ order seg, op ≠ .segmentReceived order seg) :
    SameInbound connection (connection.perform op) := by
  cases op with
  | connect | write _ | endInputStream =>
      exact sameInbound_sent connection _
  | dequeue =>
      exact ⟨rfl, rfl, rfl⟩
  | readInbound len =>
      exact (read len rfl).elim
  | tick msSinceLastTick =>
      exact (ticked msSinceLastTick rfl).elim
  | segmentReceived order seg =>
      exact (received order seg rfl).elim

/--
What survives an error, a read and the segment of a call survives the call on
the connection.
-/
theorem perform_receiver_of_received
    (holds : TCPReceiver → Prop)
    (failed : ∀ receiver, holds receiver → holds receiver.setError)
    (read :
      ∀ receiver len,
        holds receiver →
        holds (receiver.readOut len).2)
    (connection : TCPConnection)
    (op : Op)
    (received :
      ∀ receiver order seg,
        op = .segmentReceived order seg →
        holds receiver →
        holds (receiver.segmentReceived order seg))
    (initially : holds connection.receiver) :
    holds (connection.perform op).receiver := by
  cases op with
  | connect | write _ | endInputStream | dequeue =>
      rw [(perform_outbound connection ?_ ?_ ?_).receiver]
      · exact initially
      all_goals simp
  | readInbound len =>
      exact read connection.receiver len initially
  | tick msSinceLastTick =>
      rcases (tick_inbound connection msSinceLastTick).1 with
        same | aborted
      · rw [perform, same]
        exact initially
      · rw [perform, aborted]
        exact failed connection.receiver initially
  | segmentReceived order seg =>
      rw [perform, (segmentReceived_inbound order seg connection).receiver]
      have noted : holds (connection.noted seg).receiver := by
        rcases noted_receiver seg connection with same | reset
        · rw [same]
          exact initially
        · rw [reset]
          exact failed connection.receiver initially
      unfold receivePayload
      split
      · exact received _ order seg rfl noted
      · exact noted

/-- Likewise for what survives a segment of any content. -/
theorem perform_receiver
    (holds : TCPReceiver → Prop)
    (failed : ∀ receiver, holds receiver → holds receiver.setError)
    (read :
      ∀ receiver len,
        holds receiver →
        holds (receiver.readOut len).2)
    (received :
      ∀ receiver order seg,
        holds receiver →
        holds (receiver.segmentReceived order seg))
    (connection : TCPConnection)
    (op : Op)
    (initially : holds connection.receiver) :
    holds (connection.perform op).receiver :=
  perform_receiver_of_received holds failed read connection op
    (fun receiver order seg _ => received receiver order seg) initially

end Receiver

/-- The peer's number and the acknowledged position across one call. -/
structure IsnFixed (before after : TCPConnection) : Prop where
  kept :
    ∀ isn,
      before.receiver.isn = some isn →
      after.receiver.isn = some isn
  agrees : after.isnReceiver = after.receiver.isn
  advances :
    ∀ isn,
      before.receiver.isn = some isn →
      before.receiver.ackno =
          some (wrap before.receiver.assembled isn) ∧
        after.receiver.ackno =
          some (wrap after.receiver.assembled isn) ∧
        before.receiver.assembled ≤ after.receiver.assembled

/-- A SYN that arrives once the peer's number is known repeats it. -/
def Op.RepeatsIsn
    (connection : TCPConnection) :
    Op → Prop
  | .segmentReceived _ seg =>
      seg.header.syn = true →
      ∀ isn,
        connection.receiver.isn = some isn →
        seg.header.seqno = isn
  | _ => True

section PeerIsn

variable {connection after : TCPConnection}

theorem ackno_eq
    {receiver : TCPReceiver}
    {isn : WrappingInt32}
    (known : receiver.isn = some isn) :
    receiver.ackno = some (wrap receiver.assembled isn) := by
  simp only [TCPReceiver.ackno, known, TCPReceiver.assembled,
    Nat.add_comm 1]

/-- A call is only judged by the number it leaves and the position. -/
theorem IsnFixed.of_kept
    (kept :
      ∀ isn,
        connection.receiver.isn = some isn →
        after.receiver.isn = some isn)
    (agrees : after.isnReceiver = after.receiver.isn)
    (assembled :
      connection.receiver.assembled ≤ after.receiver.assembled) :
    IsnFixed connection after where
  kept := kept
  agrees := agrees
  advances := fun isn known =>
    ⟨ackno_eq known, ackno_eq (kept isn known), assembled⟩

theorem noted_isn
    (seg : TCPSegment)
    (connection : TCPConnection) :
    (connection.noted seg).receiver.isn = connection.receiver.isn ∧
      (connection.noted seg).receiver.assembled =
        connection.receiver.assembled := by
  rcases noted_receiver seg connection with same | failed
  · rw [same]
    exact ⟨rfl, rfl⟩
  · rw [failed]
    exact ⟨rfl, rfl⟩

/-- What a segment does to the receiver's number and position. -/
theorem receivePayload_isn
    (order : IterationOrder)
    (seg : TCPSegment)
    (connection : TCPConnection) :
    (((connection.noted seg).receivePayload seg order).receiver.isn =
          connection.receiver.isn ∨
        ((connection.noted seg).receivePayload seg order).receiver.isn =
          if seg.header.syn then
            some seg.header.seqno
          else
            connection.receiver.isn) ∧
      (connection.receiver.isn = none →
        ((connection.noted seg).receivePayload seg order).receiver.isn =
          if seg.header.syn then
            some seg.header.seqno
          else
            none) ∧
      connection.receiver.assembled ≤
        ((connection.noted seg).receivePayload seg
          order).receiver.assembled := by
  obtain ⟨isn, assembled⟩ := noted_isn seg connection
  unfold receivePayload
  split
  · dsimp only
    rw [TCPReceiver.segmentReceived_isn, isn]
    refine ⟨Or.inr rfl, ?_, ?_⟩
    · intro unknown
      rw [unknown]
    · rw [← assembled]
      exact receiver_segmentReceived_assembled order seg _
  · rename_i outside
    refine ⟨Or.inl isn, ?_, assembled.ge⟩
    -- without a number every segment passes the test
    intro unknown
    refine (outside ?_).elim
    have noAckno : (connection.noted seg).receiver.ackno = none := by
      rw [TCPReceiver.ackno, isn, unknown]
    rw [checkSegmentInWindow, noAckno]
    split
    · rename_i found
      cases found
    · rfl

/-- A segment keeps the peer's number fixed exactly if a SYN repeats it. -/
theorem isnFixed_segmentReceived_iff
    (order : IterationOrder)
    (seg : TCPSegment)
    (agrees : connection.isnReceiver = connection.receiver.isn) :
    IsnFixed connection (connection.segmentReceived seg order) ↔
      Op.RepeatsIsn connection (.segmentReceived order seg) := by
  have inbound := segmentReceived_inbound order seg connection
  obtain ⟨isn, first, assembled⟩ :=
    receivePayload_isn order seg connection
  have copy :
      ((connection.noted seg).receivePayload seg order).isnReceiver =
        if seg.header.syn then
          some seg.header.seqno
        else
          connection.isnReceiver := by
    rw [← noted_isnReceiver seg connection]
    unfold receivePayload
    split <;> rfl
  rw [← inbound.isnReceiver] at copy
  rw [← inbound.receiver] at isn first assembled
  generalize connection.segmentReceived seg order = final at *
  simp only [Op.RepeatsIsn]
  by_cases syn : seg.header.syn = true
  · simp only [syn, ↓reduceIte] at isn first copy
    cases known : connection.receiver.isn with
    | none =>
        simp only [reduceCtorEq, false_implies, implies_true, iff_true]
        refine .of_kept ?_ ?_ assembled
        · intro isn impossible
          rw [known] at impossible
          cases impossible
        · rw [copy, first known]
    | some isnOfPeer =>
        rw [known] at isn
        simp only [Option.some.injEq, forall_eq']
        constructor
        · intro fixed _
          have agreed := fixed.agrees
          rw [copy, fixed.kept isnOfPeer known] at agreed
          exact Option.some.inj agreed
        · intro repeating
          have repeats := repeating syn
          have unchanged : final.receiver.isn = some isnOfPeer := by
            rcases isn with same | replaced
            · exact same
            · rw [replaced, repeats]
          refine .of_kept ?_ ?_ assembled
          · intro isn found
            rw [known] at found
            rw [unchanged, found]
          · rw [copy, unchanged, repeats]
  · simp only [syn, Bool.false_eq_true, ↓reduceIte, or_self]
      at isn first copy
    simp only [syn, Bool.false_eq_true, false_implies, iff_true]
    refine .of_kept ?_ ?_ assembled
    · intro isnOfPeer known
      rw [isn, known]
    · rw [copy, isn, agrees]

/-- Other calls keep the peer's number and the acknowledged position. -/
theorem isnFixed_perform
    {op : Op}
    (agrees : connection.isnReceiver = connection.receiver.isn)
    (other : ∀ order seg, op ≠ .segmentReceived order seg) :
    IsnFixed connection (connection.perform op) := by
  have same :
      (connection.perform op).isnReceiver = connection.isnReceiver ∧
        (connection.perform op).receiver.isn =
          connection.receiver.isn ∧
        (connection.perform op).receiver.assembled =
          connection.receiver.assembled := by
    cases op with
    | connect | write _ | endInputStream | dequeue =>
        rw [(perform_outbound connection ?_ ?_ ?_).isnReceiver,
          (perform_outbound connection ?_ ?_ ?_).receiver]
        · exact ⟨rfl, rfl, rfl⟩
        all_goals simp
    | readInbound len =>
        refine ⟨rfl, rfl, ?_⟩
        simp [perform, readInbound, TCPReceiver.readOut,
          StreamReassembler.readOut, TCPReceiver.assembled,
          TCPReceiver.streamOut, ByteStream.bytesWritten,
          ByteStream.inputEnded]
    | tick msSinceLastTick =>
        obtain ⟨receiver, isnReceiver⟩ :=
          tick_inbound connection msSinceLastTick
        refine ⟨isnReceiver, ?_⟩
        rcases receiver with unchanged | aborted
        · rw [perform, unchanged]
          exact ⟨rfl, rfl⟩
        · rw [perform, aborted]
          exact ⟨rfl, rfl⟩
    | segmentReceived order seg =>
        exact (other order seg rfl).elim
  obtain ⟨isnReceiver, isn, assembled⟩ := same
  refine .of_kept ?_ ?_ assembled.ge
  · intro isnOfPeer known
    rw [isn, known]
  · rw [isnReceiver, isn, agrees]

theorem isnFixed_perform_iff
    (op : Op)
    (agrees : connection.isnReceiver = connection.receiver.isn) :
    IsnFixed connection (connection.perform op) ↔
      op.RepeatsIsn connection := by
  cases op with
  | segmentReceived order seg =>
      exact isnFixed_segmentReceived_iff order seg agrees
  | connect | write _ | endInputStream | readInbound _ | tick _ | dequeue =>
      exact iff_of_true
        (isnFixed_perform agrees (by intro order seg; simp)) trivial

end PeerIsn

/--
A run keeps the peer's number fixed, with both copies of it equal and the
acknowledged position never moving back, exactly when every SYN that arrives
after the first carries the number of the first.
-/
theorem peer_isn_fixed_iff
    (cfg : TCPConfig)
    (random : WrappingInt32)
    (calls : List Op) :
    Execution.EveryStep Session.step
        (fun session op =>
          IsnFixed session.connection (session.step op).connection)
        (Session.start cfg random) calls ↔
      Execution.EveryStep Session.step
        (fun session op => op.RepeatsIsn session.connection)
        (Session.start cfg random) calls := by
  refine Execution.EveryStep.congr_of_invariant
    (fun session : Session =>
      session.connection.isnReceiver = session.connection.receiver.isn)
    ?_ ?_ rfl calls
  · intro session op _ fixed
    exact fixed.agrees
  · intro session op agrees
    exact isnFixed_perform_iff op agrees

/-- A SYN with a given number. -/
def synAt (seqno : UInt32) : TCPSegment where
  header := { seqno := ⟨seqno⟩, syn := true }

/-- A new connection that has received two SYNs. -/
def afterTwoSyns (second : UInt32) : TCPConnection :=
  (Session.after {} ⟨0⟩ [
    .segmentReceived .stored (synAt 100),
    .segmentReceived .stored (synAt second)]).connection

/--
A second SYN outside the window moves the copy of the connection only; one at
the acknowledged position replaces the receiver's number as well.
-/
theorem second_syn_moves_isn :
    (afterTwoSyns 200).receiver.isn = some ⟨100⟩ ∧
      (afterTwoSyns 200).isnReceiver = some ⟨200⟩ ∧
      (afterTwoSyns 101).receiver.isn = some ⟨101⟩ := by
  decide +kernel

section Counters

/-- The receiver's counters agree with its stream, whatever arrived. -/
structure ReceiverCounted (receiver : TCPReceiver) : Prop where
  reassembler : receiver.reassembler.Counted
  capacity : receiver.capacity = receiver.reassembler.capacity

variable {receiver : TCPReceiver}

theorem ReceiverCounted.setError
    (counted : ReceiverCounted receiver) :
    ReceiverCounted receiver.setError where
  reassembler := {
    outputValid := counted.reassembler.outputValid.setError
    sameCapacity := counted.reassembler.sameCapacity
    willing := counted.reassembler.willing
    counted := counted.reassembler.counted }
  capacity := counted.capacity

theorem ReceiverCounted.segmentReceived
    (counted : ReceiverCounted receiver)
    (order : IterationOrder)
    (seg : TCPSegment) :
    ReceiverCounted (receiver.segmentReceived order seg) := by
  obtain ⟨pushed, sameCapacity⟩ :=
    receiver.segmentReceived_invariant order seg
      (fun next =>
        next.Counted ∧ next.capacity = receiver.reassembler.capacity)
      (fun _ =>
        ⟨counted.reassembler.pushSubstring order _ _ _,
          (StreamReassembler.pushSubstring_limits order _ _ _ _).1⟩)
      ⟨counted.reassembler, rfl⟩
  refine ⟨pushed, ?_⟩
  rw [receiver.segmentReceived_capacity, sameCapacity]
  exact counted.capacity

theorem counted_after
    (cfg : TCPConfig)
    (random : WrappingInt32)
    (calls : List Op) :
    ReceiverCounted
      (Session.after cfg random calls).connection.receiver := by
  refine Execution.run_invariant
    (fun session : Session =>
      ReceiverCounted session.connection.receiver)
    ?_ ⟨StreamReassembler.counted_new cfg.recvCapacity, rfl⟩ calls
  intro session op counted
  exact perform_receiver ReceiverCounted
    (fun _ held => held.setError)
    (fun _ len held => ⟨held.reassembler.readOut len, held.capacity⟩)
    (fun _ order seg held => held.segmentReceived order seg)
    session.connection op counted

end Counters

end Sponge.TCPConnection
