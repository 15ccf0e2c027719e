import Sponge.TCPConnectionTimer

namespace Sponge

/-!
# What a call places in the outbound queue

A call of the connection makes the sender produce segments and then moves them
to the outbound queue, stamped with the acknowledgment and the window of the
receiver.  The window is a `size_t` that is cut to the 16 bits of the header.
-/

namespace TCPSender

/-- The segment that `send_empty_segment` pushes. -/
def emptySegment (sender : TCPSender) : TCPSegment where
  header := { seqno := sender.nextSeqno }

end TCPSender

namespace TCPConnection

section Stages

variable (order : IterationOrder) (seg : TCPSegment)
variable (connection : TCPConnection)

/-- The connection once the receiver and the acknowledgment are dealt with. -/
def heard : TCPConnection :=
  ((connection.noted seg).receivePayload seg order).receiveAck seg

/-- Is the segment a keep-alive to be answered? -/
def keepsAlive : Bool :=
  match connection.receiver.ackno with
  | none => false
  | some ackno =>
      decide
        (seg.lengthInSequenceSpace = 0 ∧
          seg.header.seqno = ackno - (1 : UInt32))

/-- The empty segments that answer a segment. -/
def answers : List TCPSegment :=
  (if seg.lengthInSequenceSpace ≠ 0 ∧
      connection.sender.fillWindow.segmentsOut = [] then
    [connection.sender.fillWindow.emptySegment]
  else
    []) ++
    (if connection.keepsAlive seg then
      [(connection.reply seg).sender.emptySegment]
    else
      [])

/--
The segments that wait in the sender's queue and those that a call makes the
sender push behind them, in the order of the pushes.
-/
def produced : Op → List TCPSegment
  | .readInbound _ | .dequeue => []
  | .segmentReceived order seg =>
      connection.sender.segmentsOut ++
        connection.firstSent (.segmentReceived order seg) ++
        (connection.heard order seg).answers seg
  | .tick msSinceLastTick =>
      connection.sender.segmentsOut ++
        connection.firstSent (.tick msSinceLastTick) ++
        connection.sentAgain msSinceLastTick
  | op => connection.sender.segmentsOut ++ connection.firstSent op

/-- The reset of a call that gives up. -/
def resets : Op → List TCPSegment
  | .tick msSinceLastTick =>
      let sent := connection.tickSend msSinceLastTick
      if sent.retransmissionsExceeded then
        [{ header := { seqno := sent.sender.nextSeqno, rst := true } }]
      else
        []
  | _ => []

theorem fillWindow_segmentsOut
    (sender : TCPSender) :
    sender.fillWindow.segmentsOut =
      sender.segmentsOut ++ sender.filling :=
  (TCPSender.fillWindow_timed sender).segmentsOut

theorem receivePayload_outbound :
    ((connection.noted seg).receivePayload seg order).segmentsOut =
      connection.segmentsOut := by
  unfold receivePayload noted passiveClose recordIsn receiveRst
  repeat' split
  all_goals rfl

/-- Until the reply nothing is pushed and nothing is moved. -/
theorem heard_segmentsOut :
    (connection.heard order seg).sender.segmentsOut =
        connection.sender.segmentsOut ∧
      (connection.heard order seg).segmentsOut =
        connection.segmentsOut := by
  obtain ⟨stream, handed⟩ := receivePayload_sender order seg connection
  have outbound := receivePayload_outbound order seg connection
  unfold heard receiveAck
  split
  · refine ⟨?_, outbound⟩
    rw [(TCPSender.ackReceived_frame _ _ _).segmentsOut, handed]
  · exact ⟨by rw [handed], outbound⟩

/-- What the reply pushes, before it is moved. -/
theorem reply_segmentsOut :
    ((connection.reply seg).replyKeepAlive seg).sender.segmentsOut =
      connection.sender.segmentsOut ++
        (if seg.lengthInSequenceSpace ≠ 0 then
          connection.sender.filling
        else
          []) ++
        connection.answers seg := by
  have replied :
      (connection.reply seg).sender.segmentsOut =
        connection.sender.segmentsOut ++
          (if seg.lengthInSequenceSpace ≠ 0 then
            connection.sender.filling
          else
            []) ++
          (if seg.lengthInSequenceSpace ≠ 0 ∧
              connection.sender.fillWindow.segmentsOut = [] then
            [connection.sender.fillWindow.emptySegment]
          else
            []) := by
    have pushed := fillWindow_segmentsOut connection.sender
    unfold reply
    by_cases occupies : seg.lengthInSequenceSpace ≠ 0
    · by_cases nothing : connection.sender.fillWindow.segmentsOut = []
      · simp only [if_pos occupies, if_pos nothing,
          if_pos (And.intro occupies nothing), ← pushed]
        rfl
      · simp only [if_pos occupies, if_neg nothing,
          if_neg (fun both => nothing (And.right both)), ← pushed,
          List.append_nil]
    · simp only [if_neg occupies,
        if_neg (fun both => occupies (And.left both)), List.append_nil]
  have sameReceiver :
      (connection.reply seg).receiver = connection.receiver :=
    (sameInbound_reply seg connection).receiver
  unfold replyKeepAlive answers keepsAlive
  rw [sameReceiver]
  cases connection.receiver.ackno with
  | none =>
      simpa using replied
  | some ackno =>
      by_cases keepAlive :
          seg.lengthInSequenceSpace = 0 ∧
            seg.header.seqno = ackno - (1 : UInt32)
      · simp only [if_pos keepAlive, decide_eq_true keepAlive, ↓reduceIte]
        rw [TCPSender.sendEmptySegment, replied, List.append_assoc]
        rfl
      · simp only [if_neg keepAlive, decide_eq_false keepAlive,
          Bool.false_eq_true, ↓reduceIte, List.append_nil]
        exact replied

/-- Whatever takes up sequence numbers makes the sender produce a segment. -/
theorem produced_ne_nil
    {seg : TCPSegment}
    (occupies : seg.lengthInSequenceSpace ≠ 0)
    (order : IterationOrder) :
    connection.produced (.segmentReceived order seg) ≠ [] := by
  intro nothing
  obtain ⟨sent, unanswered⟩ := List.append_eq_nil_iff.mp nothing
  have unfilled :
      (connection.heard order seg).sender.fillWindow.segmentsOut = [] := by
    rw [fillWindow_segmentsOut,
      (heard_segmentsOut order seg connection).1]
    rw [firstSent, if_pos occupies] at sent
    exact sent
  rw [answers, if_pos ⟨occupies, unfilled⟩] at unanswered
  cases unanswered

end Stages

section Pushed

variable (connection : TCPConnection)

/-- Moving stamps the whole queue of the sender, in its order. -/
theorem sendSegment_pushed
    {before middle : TCPConnection}
    (sameQueue : middle.segmentsOut = before.segmentsOut) :
    middle.sendSegment.segmentsOut.drop before.segmentsOut.length =
      middle.sender.segmentsOut.map (stamp middle.receiver) := by
  simp only [sendSegment, sameQueue, List.drop_left]

/-- The same for a call that only gives the connection a new sender. -/
theorem sent_pushed
    {op : Op}
    {sender : TCPSender}
    (performs :
      connection.perform op =
        { connection with sender := sender }.sendSegment) :
    (connection.perform op).segmentsOut.drop
        connection.segmentsOut.length =
      sender.segmentsOut.map
        (stamp (connection.perform op).receiver) := by
  rw [performs]
  exact sendSegment_pushed rfl

theorem tick_sentAgain
    (msSinceLastTick : Nat) :
    ((connection.tickFill msSinceLastTick).sender.tick
        msSinceLastTick).segmentsOut =
      (connection.tickFill msSinceLastTick).sender.segmentsOut ++
        connection.sentAgain msSinceLastTick := by
  unfold sentAgain
  dsimp only
  generalize (connection.tickFill msSinceLastTick).sender = sender
  rcases (TCPSender.tick_frame msSinceLastTick sender).segmentsOut with
    same | ⟨segment, _, again⟩
  · rw [same, List.drop_length, List.append_nil]
  · rw [again, List.drop_left]

/-- Filling in `tick` moves what it pushes or leaves everything waiting. -/
theorem tickFill_outbound
    (msSinceLastTick : Nat) :
    let filled := connection.tickFill msSinceLastTick
    filled.segmentsOut ++
        filled.sender.segmentsOut.map (stamp connection.receiver) =
      connection.segmentsOut ++
        (connection.sender.segmentsOut ++
          connection.firstSent (.tick msSinceLastTick)).map
            (stamp connection.receiver) := by
  intro filled
  have pushed := fillWindow_segmentsOut connection.sender
  by_cases fills :
      connection.sender.stream.bufferEmpty = false ∨
        connection.sender.stream.eof = true
  · have moved :
        filled =
          { connection with
            ticks := (connection.ticks + msSinceLastTick) % 2 ^ 64
            sender := connection.sender.fillWindow }.sendSegment :=
      if_pos fills
    rw [moved, firstSent, if_pos fills, ← pushed]
    simp only [sendSegment, List.map_nil, List.append_nil]
  · have waiting :
        filled =
          { connection with
            ticks := (connection.ticks + msSinceLastTick) % 2 ^ 64 } :=
      if_neg fills
    rw [waiting, firstSent, if_neg fills, List.append_nil]

theorem tickSend_outbound
    (msSinceLastTick : Nat) :
    (connection.tickSend msSinceLastTick).segmentsOut =
      connection.segmentsOut ++
        (connection.produced (.tick msSinceLastTick)).map
          (stamp connection.receiver) := by
  have filledReceiver :
      (connection.tickFill msSinceLastTick).receiver =
        connection.receiver := by
    unfold tickFill
    dsimp only
    split <;> rfl
  have again := tick_sentAgain connection msSinceLastTick
  have filled := tickFill_outbound connection msSinceLastTick
  have moved :
      (connection.tickSend msSinceLastTick).segmentsOut =
        (connection.tickFill msSinceLastTick).segmentsOut ++
          ((connection.tickFill msSinceLastTick).sender.tick
            msSinceLastTick).segmentsOut.map
              (stamp connection.receiver) := by
    unfold tickSend tickRetransmit
    dsimp only
    split
    · rw [← filledReceiver]
      rfl
    · rename_i nothing
      rw [not_not.mp nothing, List.map_nil, List.append_nil]
  rw [moved, again, List.map_append, ← List.append_assoc, filled,
    List.append_assoc, ← List.map_append]
  rfl

/-- Neither giving up nor closing changes what is stamped on a segment. -/
theorem tick_stamp
    (msSinceLastTick : Nat) :
    stamp (connection.tick msSinceLastTick).receiver =
      stamp connection.receiver := by
  rcases (tick_inbound connection msSinceLastTick).1 with
    same | aborted
  · rw [same]
  · rw [aborted]
    rfl

/-- What a segment makes the sender produce is appended to the queue. -/
theorem segmentReceived_segmentsOut
    (order : IterationOrder)
    (seg : TCPSegment) :
    (connection.segmentReceived seg order).segmentsOut =
      connection.segmentsOut ++
        (connection.produced (.segmentReceived order seg)).map
          (stamp (connection.segmentReceived seg order).receiver) := by
  obtain ⟨waiting, unmoved⟩ := heard_segmentsOut order seg connection
  have moved :
      (((connection.heard order seg).reply seg).replyKeepAlive
          seg).segmentsOut =
        connection.segmentsOut := by
    rw [← unmoved]
    unfold replyKeepAlive reply
    repeat' split
    all_goals rfl
  have queue := reply_segmentsOut seg (connection.heard order seg)
  rw [waiting] at queue
  change
    (((connection.heard order seg).reply seg).replyKeepAlive
        seg).segmentsOut ++
      (((connection.heard order seg).reply seg).replyKeepAlive
        seg).sender.segmentsOut.map _ = _
  rw [moved, queue]
  rfl

/--
A call places in the outbound queue what the sender produced, in that order and
stamped with the receiver as the call leaves it, and a reset if it gives up.
-/
theorem pushed_eq
    (op : Op) :
    connection.pushed op =
      (connection.produced op).map
          (stamp (connection.perform op).receiver) ++
        connection.resets op := by
  cases op with
  | connect =>
      refine Eq.trans ?_ (List.append_nil _).symm
      have sent := @sent_pushed connection .connect _ rfl
      rw [fillWindow_segmentsOut] at sent
      exact sent
  | write data =>
      refine Eq.trans ?_ (List.append_nil _).symm
      have sent := @sent_pushed connection (.write data) _ rfl
      rw [fillWindow_segmentsOut] at sent
      exact sent
  | endInputStream =>
      refine Eq.trans ?_ (List.append_nil _).symm
      have sent := @sent_pushed connection .endInputStream _ rfl
      rw [fillWindow_segmentsOut] at sent
      exact sent
  | readInbound len =>
      exact List.drop_length
  | dequeue =>
      refine List.drop_eq_nil_of_le ?_
      simp [perform]
  | segmentReceived order seg =>
      refine Eq.trans ?_ (List.append_nil _).symm
      have sent := segmentReceived_segmentsOut connection order seg
      unfold pushed
      dsimp only
      rw [perform, sent, List.drop_left]
  | tick msSinceLastTick =>
      have sent := tickSend_outbound connection msSinceLastTick
      unfold pushed
      dsimp only
      rw [sent, List.drop_left, perform, tick_stamp, resets]
      congr 1
      split
      · rw [sendRst_of_nil (tickSend_segmentsOut msSinceLastTick _)]
      · rfl

end Pushed

section Plain

variable {connection : TCPConnection}
variable {written taken : Bytes} {placed log : List TCPSegment}

/-- No segment in the queue of an accounted sender is a reset. -/
theorem outgoing_plain
    (accounted : (connection.view written taken placed log).Accounted) :
    ∀ seg ∈ connection.sender.segmentsOut, seg.header.rst = false := by
  intro seg member
  rcases accounted.outgoing seg member with logged | bare
  · rw [accounted.tracked.logged.plain seg logged]
  · rw [bare]

/-- The same at every stage of a call. -/
theorem Refines.outgoing_plain
    {op : Op}
    {after : TCPConnection}
    (refines : Refines op connection after)
    (accounted : (connection.view written taken placed log).Accounted) :
    ∀ seg ∈ after.sender.segmentsOut, seg.header.rst = false := by
  obtain ⟨_, _, reach⟩ := refines
  obtain ⟨_, reached⟩ := reach written taken placed log
  exact TCPConnection.outgoing_plain
    (reached.invariant TCPEndpoint.Accounted
      (fun _ action held _ => held.act action) accounted)

/-- Filling the window produces no reset. -/
theorem fillWindow_plain
    (accounted : (connection.view written taken placed log).Accounted) :
    ∀ seg ∈ connection.sender.segmentsOut ++ connection.sender.filling,
      seg.header.rst = false := by
  rw [← fillWindow_segmentsOut]
  exact (@refines_fillWindow .connect connection).outgoing_plain accounted

/-- Whatever the call, the sender produces no reset. -/
theorem produced_plain
    (accounted : (connection.view written taken placed log).Accounted)
    (op : Op) :
    ∀ seg ∈ connection.produced op, seg.header.rst = false := by
  cases op with
  | readInbound _ | dequeue =>
      simp [produced]
  | connect =>
      exact fillWindow_plain accounted
  | write data =>
      exact @fillWindow_plain
        { connection with
          sender := { connection.sender with
            stream := (connection.sender.stream.write data).2 } }
        _ _ _ _ (accounted.act (.send (.write data)))
  | endInputStream =>
      exact @fillWindow_plain
        { connection with
          sender := { connection.sender with
            stream := connection.sender.stream.endInput } }
        _ _ _ _ (accounted.act (.send .endInput))
  | segmentReceived order seg =>
      have answered :=
        (((((refines_noted seg connection).trans
          (refines_receivePayload order seg _)).trans
          (refines_receiveAck order seg _)).trans
          (refines_reply seg _)).trans
          (refines_replyKeepAlive seg _)).outgoing_plain accounted
      have pushed :
          (((connection.heard order seg).reply seg).replyKeepAlive
              seg).sender.segmentsOut =
            connection.produced (.segmentReceived order seg) := by
        rw [reply_segmentsOut, (heard_segmentsOut order seg connection).1]
        rfl
      rw [← pushed]
      exact answered
  | tick msSinceLastTick =>
      have ticked :
          Refines (.tick msSinceLastTick) connection
            { connection.tickFill msSinceLastTick with
              sender :=
                (connection.tickFill msSinceLastTick).sender.tick
                  msSinceLastTick } :=
        (refines_tickFill msSinceLastTick connection).trans
          (.send (.tick msSinceLastTick) trivial (by simp)
            fun _ _ => ⟨_, rfl⟩)
      intro seg member
      rcases List.mem_append.mp member with first | again
      · refine fillWindow_plain accounted seg ?_
        rcases List.mem_append.mp first with waiting | filled
        · exact List.mem_append_left _ waiting
        · refine List.mem_append_right _ ?_
          rw [firstSent] at filled
          split at filled
          · exact filled
          · cases filled
      · exact ticked.outgoing_plain accounted seg
          (List.mem_of_mem_drop again)

@[simp] theorem stamp_rst
    (receiver : TCPReceiver)
    (seg : TCPSegment) :
    (stamp receiver seg).header.rst = seg.header.rst := by
  unfold stamp
  split <;> rfl

/-- A call places a reset exactly when it is a `tick` that gives up. -/
theorem pushed_reset_iff
    (accounted : (connection.view written taken placed log).Accounted)
    (op : Op) :
    (∃ seg ∈ connection.pushed op, seg.header.rst = true) ↔
      ∃ msSinceLastTick,
        op = .tick msSinceLastTick ∧
          (connection.tickSend
            msSinceLastTick).retransmissionsExceeded = true := by
  rw [pushed_eq]
  constructor
  · rintro ⟨seg, member, isReset⟩
    rcases List.mem_append.mp member with moved | reset
    · obtain ⟨original, wasProduced, rfl⟩ := List.mem_map.mp moved
      rw [stamp_rst, produced_plain accounted op original wasProduced]
        at isReset
      cases isReset
    · cases op with
      | tick msSinceLastTick =>
          refine ⟨msSinceLastTick, rfl, ?_⟩
          by_contra goesOn
          rw [resets, if_neg goesOn] at reset
          cases reset
      | connect | write _ | endInputStream | readInbound _
      | segmentReceived _ _ | dequeue => cases reset
  · rintro ⟨msSinceLastTick, rfl, exceeded⟩
    rw [resets, if_pos exceeded]
    exact ⟨_, List.mem_append_right _ (List.mem_singleton_self _), rfl⟩

end Plain

/-- The stamp of a receiver that knows its peer's number. -/
theorem stamp_of_known
    {receiver : TCPReceiver}
    {ackno : WrappingInt32}
    (known : receiver.ackno = some ackno)
    (seg : TCPSegment) :
    stamp receiver seg =
      { seg with
        header := { seg.header with
          ack := true
          ackno := ackno
          win := UInt16.ofNat receiver.windowSize } } := by
  rw [stamp, known]

/-- When cutting a window to 16 bits gives what it should. -/
theorem narrowed_eq_min_iff
    (windowSize : Nat) :
    (UInt16.ofNat windowSize).toNat = min windowSize 65535 ↔
      windowSize ≤ 65535 ∨ windowSize % 65536 = 65535 := by
  rw [UInt16.toNat_ofNat']
  omega

/--
Once the peer's SYN was received, everything a call moves to the outbound queue,
resets apart, is what the sender produced and in that order; it carries the
receiver's acknowledgment, and it advertises the window or the largest value of
the field exactly when the window fits the field or ends in sixteen ones.
-/
theorem advertised_window_exact_iff
    (cfg : TCPConfig)
    (random : WrappingInt32)
    (calls : List Op)
    (op : Op)
    (ackno : WrappingInt32)
    (synchronized :
      ((Session.after cfg random calls).connection.perform
        op).receiver.ackno = some ackno) :
    let before := (Session.after cfg random calls).connection
    let after := before.perform op
    (∃ resets,
      before.pushed op =
          (before.produced op).map (stamp after.receiver) ++ resets ∧
        ∀ seg ∈ resets, seg.header.rst = true) ∧
      ∀ seg ∈ before.pushed op,
        seg.header.rst = false →
        seg.header.ack = true ∧
          seg.header.ackno = ackno ∧
          (seg.header.win.toNat = min after.receiver.windowSize 65535 ↔
            after.receiver.windowSize ≤ 65535 ∨
              after.receiver.windowSize % 65536 = 65535) := by
  intro before after
  have pushed := pushed_eq before op
  have reset : ∀ seg ∈ before.resets op, seg.header.rst = true := by
    intro seg member
    cases op with
    | tick msSinceLastTick =>
        rw [resets] at member
        split at member
        · rw [List.mem_singleton.mp member]
        · cases member
    | connect | write _ | endInputStream | readInbound _
    | segmentReceived _ _ | dequeue => cases member
  refine ⟨⟨_, pushed, reset⟩, ?_⟩
  intro seg member notReset
  rw [pushed] at member
  rcases List.mem_append.mp member with moved | isReset
  · obtain ⟨original, _, stamped⟩ := List.mem_map.mp moved
    rw [stamp_of_known synchronized] at stamped
    subst stamped
    exact ⟨rfl, rfl, narrowed_eq_min_iff after.receiver.windowSize⟩
  · rw [reset seg isReset] at notReset
    cases notReset

/-- A receiver of the default capacity advertises it in its first answer. -/
theorem advertised_window_exact_iff_default :
    let before := (Session.after {} ⟨0⟩ []).connection
    let answer := before.pushed (.segmentReceived .stored (synAt 100))
    answer.length = 1 ∧
      ∀ seg ∈ answer,
        seg.header.rst = false →
        seg.header.ackno = ⟨101⟩ := by
  refine ⟨by decide, ?_⟩
  intro seg member notReset
  exact ((advertised_window_exact_iff {} ⟨0⟩ []
    (.segmentReceived .stored (synAt 100)) ⟨101⟩
    (by decide)).2 seg member notReset).2.1

/-- A window of 65536 bytes is advertised as no window at all. -/
theorem wide_window_advertised_as_zero :
    let before :=
      (Session.after { recvCapacity := 65536 } ⟨0⟩ []).connection
    let op : Op := .segmentReceived .stored (synAt 100)
    (before.perform op).receiver.windowSize = 65536 ∧
      (before.pushed op).map (fun seg => seg.header.win) = [0] := by
  decide

end TCPConnection

end Sponge
