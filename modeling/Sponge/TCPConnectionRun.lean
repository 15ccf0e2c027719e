import Sponge.TCPEndpoint

namespace Sponge.TCPConnection

/-!
# Runs of a connection

A session keeps, next to a connection, the bytes its application wrote and
read, every segment placed in the outbound queue, and the time since the last
segment arrived.  Each call is shown to be a sequence of endpoint actions.
-/

/-- One call on a connection, by its application, its owner or the network. -/
inductive Op where
  | connect
  | write (data : Bytes)
  | endInputStream
  | readInbound (len : Nat)
  | tick (msSinceLastTick : Nat)
  | segmentReceived
      (order : IterationOrder)
      (seg : TCPSegment)
  | dequeue

/-- Perform one call. -/
def perform
    (connection : TCPConnection) :
    Op → TCPConnection
  | .connect => connection.connect
  | .write data => (connection.write data).2
  | .endInputStream => connection.endInputStream
  | .readInbound len => (connection.readInbound len).2
  | .tick msSinceLastTick => connection.tick msSinceLastTick
  | .segmentReceived order seg => connection.segmentReceived seg order
  | .dequeue =>
      { connection with segmentsOut := connection.segmentsOut.tail }

/-- The bytes of a write that were accepted. -/
def accepted
    (connection : TCPConnection) :
    Op → Bytes
  | .write data => data.take (connection.write data).1
  | _ => []

/-- The bytes a read returns. -/
def returned
    (connection : TCPConnection) :
    Op → Bytes
  | .readInbound len => (connection.readInbound len).1
  | _ => []

/--
The segments a call places in the outbound queue.  A call of `tick` that gives
up clears the queue after its first part has added to it.
-/
def pushed
    (connection : TCPConnection) :
    Op → List TCPSegment
  | .tick msSinceLastTick =>
      let sent := connection.tickSend msSinceLastTick
      sent.segmentsOut.drop connection.segmentsOut.length ++
        (if sent.retransmissionsExceeded then
          sent.sendRst.segmentsOut
        else
          [])
  | op =>
      (connection.perform op).segmentsOut.drop
        connection.segmentsOut.length

/-- A connection and what passed through it. -/
structure Session where
  connection : TCPConnection
  written : Bytes := []
  taken : Bytes := []
  placed : List TCPSegment := []
  sinceReceived : Nat := 0

namespace Session

/-- A session on a new connection. -/
def start
    (cfg : TCPConfig)
    (random : WrappingInt32) : Session where
  connection := TCPConnection.new cfg random

/-- Perform one call. -/
def step
    (session : Session)
    (op : Op) : Session where
  connection := session.connection.perform op
  written := session.written ++ session.connection.accepted op
  taken := session.taken ++ session.connection.returned op
  placed := session.placed ++ session.connection.pushed op
  sinceReceived :=
    match op with
    | .tick msSinceLastTick =>
        session.sinceReceived + msSinceLastTick
    | .segmentReceived _ _ => 0
    | _ => session.sinceReceived

@[simp] theorem step_connection
    (session : Session)
    (op : Op) :
    (session.step op).connection = session.connection.perform op :=
  rfl

/-- The state after a list of calls on a new connection. -/
def after
    (cfg : TCPConfig)
    (random : WrappingInt32)
    (calls : List Op) : Session :=
  Execution.run step (start cfg random) calls

end Session

/-- The endpoint actions a call may lead to. -/
def Op.Causes
    (op : Op) :
    TCPEndpoint.Action → Prop
  | .send .endInput => op = .endInputStream
  | .send (.ackReceived ackno _) =>
      ∃ order seg,
        op = .segmentReceived order seg ∧
          seg.header.ack = true ∧
          seg.header.ackno = ackno
  | .receive order seg => op = .segmentReceived order seg
  | _ => True

/-- The endpoint a connection amounts to. -/
def view
    (connection : TCPConnection)
    (written taken : Bytes)
    (placed log : List TCPSegment) : TCPEndpoint where
  out := {
    sender := connection.sender
    written := written
    log := log }
  receiver := connection.receiver
  taken := taken
  placed := placed

/-- The second connection is reached by actions that place segments. -/
def Refines
    (op : Op)
    (before after : TCPConnection) : Prop :=
  ∃ placed,
    after.segmentsOut = before.segmentsOut ++ placed ∧
      ∀ written taken earlier log,
        ∃ longer,
          Execution.Reaches TCPEndpoint.act op.Causes
            (before.view written taken earlier log)
            (after.view written taken (earlier ++ placed) longer)

section Stages

variable {op : Op} {before middle after : TCPConnection}

theorem Refines.trans
    (first : Refines op before middle)
    (second : Refines op middle after) :
    Refines op before after := by
  obtain ⟨early, earlyShape, earlyReach⟩ := first
  obtain ⟨late, lateShape, lateReach⟩ := second
  refine ⟨early ++ late, ?_, ?_⟩
  · rw [lateShape, earlyShape, List.append_assoc]
  · intro written taken earlier log
    obtain ⟨longer, reached⟩ := earlyReach written taken earlier log
    obtain ⟨longest, finished⟩ :=
      lateReach written taken (earlier ++ early) longer
    rw [List.append_assoc] at finished
    exact ⟨longest, reached.trans finished⟩

/-- Flags, clocks and the window test's number are not in the view. -/
theorem Refines.of_same
    (sender : after.sender = before.sender)
    (receiver : after.receiver = before.receiver)
    (segmentsOut : after.segmentsOut = before.segmentsOut) :
    Refines op before after := by
  refine ⟨[], by simp [segmentsOut], ?_⟩
  intro written taken earlier log
  refine ⟨log, ?_⟩
  have same :
      after.view written taken (earlier ++ []) log =
        before.view written taken earlier log := by
    simp only [view, sender, receiver, List.append_nil]
  exact same ▸ .refl _

theorem Refines.refl
    (connection : TCPConnection) :
    Refines op connection connection :=
  .of_same rfl rfl rfl

/-- A call on the sender that takes nothing from its queue. -/
theorem Refines.send
    (call : TCPSender.Op)
    (caused : op.Causes (.send call))
    (kept : call ≠ .takeSegments)
    {next : TCPSender}
    (performs :
      ∀ written log,
        ∃ longer,
          TCPSender.Session.step ⟨before.sender, written, log⟩ call =
            ⟨next, written, longer⟩) :
    Refines op before { before with sender := next } := by
  refine ⟨[], by simp, ?_⟩
  intro written taken earlier log
  obtain ⟨longer, performed⟩ := performs written log
  have nothing :
      (before.view written taken earlier log).handedOver call = [] := by
    cases call <;> first | rfl | exact (kept rfl).elim
  have reached :
      (before.view written taken earlier log).act (.send call) =
        view { before with sender := next } written taken
          (earlier ++ []) longer := by
    rw [TCPEndpoint.act, nothing]
    simp only [view, performed]
  exact ⟨longer, reached ▸ .single _ caused⟩

/-- An action on the receiver alone. -/
theorem Refines.receive
    (action : TCPEndpoint.Action)
    (caused : op.Causes action)
    {next : TCPReceiver}
    (performs :
      ∀ endpoint : TCPEndpoint,
        endpoint.receiver = before.receiver →
        endpoint.act action = { endpoint with receiver := next }) :
    Refines op before { before with receiver := next } := by
  refine ⟨[], by simp, ?_⟩
  intro written taken earlier log
  have reached :
      (before.view written taken earlier log).act action =
        view { before with receiver := next } written taken
          (earlier ++ []) log := by
    rw [performs _ rfl, List.append_nil]
    rfl
  exact ⟨log, reached ▸ .single _ caused⟩

theorem refines_sendSegment
    (connection : TCPConnection) :
    Refines op connection connection.sendSegment :=
  ⟨_, rfl, fun _ _ _ log =>
    ⟨log, Execution.Reaches.single
      (TCPEndpoint.Action.send .takeSegments) trivial⟩⟩

theorem refines_fillWindow
    (connection : TCPConnection) :
    Refines op connection
      { connection with sender := connection.sender.fillWindow } :=
  .send .fillWindow trivial (by simp)
    (fun _ _ => ⟨_, rfl⟩)

theorem refines_sendEmptySegment
    (connection : TCPConnection) :
    Refines op connection
      { connection with
        sender := connection.sender.sendEmptySegment } :=
  .send .sendEmptySegment trivial (by simp)
    (fun _ _ => ⟨_, rfl⟩)

theorem refines_connect
    (connection : TCPConnection) :
    Refines op connection connection.connect :=
  (refines_fillWindow connection).trans (refines_sendSegment _)

section Received

variable (order : IterationOrder) (seg : TCPSegment)

theorem refines_receiveRst
    (connection : TCPConnection) :
    Refines op connection (connection.receiveRst seg) := by
  unfold receiveRst
  split
  · have inbound :
        Refines op connection
          { connection with receiver := connection.receiver.setError } :=
      .receive .inboundError trivial fun endpoint same => by
        rw [← same]
        rfl
    have outbound :
        Refines op
          { connection with receiver := connection.receiver.setError }
          { connection with
            receiver := connection.receiver.setError
            sender := connection.sender.setError } :=
      .send .setError trivial (by simp) fun _ _ => ⟨_, rfl⟩
    exact (inbound.trans outbound).trans (.of_same rfl rfl rfl)
  · exact .refl connection

/-- The notes taken of a segment are not in the view, errors apart. -/
theorem refines_noted
    (connection : TCPConnection) :
    Refines op connection
      (({ connection with receTick := connection.ticks }.receiveRst seg
        ).recordIsn seg |>.passiveClose seg) := by
  have arrived :
      Refines op connection
        { connection with receTick := connection.ticks } :=
    .of_same rfl rfl rfl
  have recorded :
      ∀ middle : TCPConnection,
        Refines op middle (middle.recordIsn seg) := by
    intro middle
    unfold recordIsn
    split
    · exact .of_same rfl rfl rfl
    · exact .refl middle
  have closing :
      ∀ middle : TCPConnection,
        Refines op middle (middle.passiveClose seg) := by
    intro middle
    unfold passiveClose
    split
    · exact .of_same rfl rfl rfl
    · exact .refl middle
  exact ((arrived.trans (refines_receiveRst seg _)).trans
    (recorded _)).trans (closing _)

theorem refines_receivePayload
    (connection : TCPConnection) :
    Refines (.segmentReceived order seg) connection
      (connection.receivePayload seg order) := by
  unfold receivePayload
  split
  · exact .receive (.receive order seg) rfl fun endpoint same => by
      rw [← same]
      rfl
  · exact .refl connection

theorem refines_receiveAck
    (connection : TCPConnection) :
    Refines (.segmentReceived order seg) connection
      (connection.receiveAck seg) := by
  unfold receiveAck
  split
  · rename_i hasAck
    exact .send (.ackReceived seg.header.ackno seg.header.win)
      ⟨order, seg, rfl, hasAck, rfl⟩ (by simp) fun _ _ => ⟨_, rfl⟩
  · exact .refl connection

theorem refines_reply
    (connection : TCPConnection) :
    Refines op connection (connection.reply seg) := by
  unfold reply
  split
  · have filled :
        Refines op connection
          { connection with sender := connection.sender.fillWindow } :=
      refines_fillWindow connection
    dsimp only
    split
    · refine filled.trans ?_
      exact refines_sendEmptySegment
        { connection with sender := connection.sender.fillWindow }
    · exact filled
  · exact .refl connection

theorem refines_replyKeepAlive
    (connection : TCPConnection) :
    Refines op connection (connection.replyKeepAlive seg) := by
  unfold replyKeepAlive
  split
  · exact .refl connection
  · split
    · exact refines_sendEmptySegment connection
    · exact .refl connection

theorem refines_segmentReceived
    (connection : TCPConnection) :
    Refines (.segmentReceived order seg) connection
      (connection.segmentReceived seg order) :=
  ((((refines_noted seg connection).trans
    (refines_receivePayload order seg _)).trans
    (refines_receiveAck order seg _)).trans
    (refines_reply seg _)).trans
    (refines_replyKeepAlive seg _) |>.trans (refines_sendSegment _)

end Received

section Ticking

variable (msSinceLastTick : Nat)

theorem refines_tickFill
    (connection : TCPConnection) :
    Refines op connection (connection.tickFill msSinceLastTick) := by
  have timed :
      Refines op connection
        { connection with
          ticks := (connection.ticks + msSinceLastTick) % 2 ^ 64 } :=
    .of_same rfl rfl rfl
  unfold tickFill
  dsimp only
  split
  · exact timed.trans (refines_connect _)
  · exact timed

theorem refines_tickRetransmit
    (connection : TCPConnection) :
    Refines op connection
      (connection.tickRetransmit msSinceLastTick) := by
  have ticked :
      Refines op connection
        { connection with
          sender := connection.sender.tick msSinceLastTick } :=
    .send (.tick msSinceLastTick) trivial (by simp)
      fun _ _ => ⟨_, rfl⟩
  unfold tickRetransmit
  dsimp only
  split
  · exact ticked.trans (refines_sendSegment _)
  · exact ticked

theorem refines_tickSend
    (connection : TCPConnection) :
    Refines op connection (connection.tickSend msSinceLastTick) :=
  (refines_tickFill msSinceLastTick connection).trans
    (refines_tickRetransmit msSinceLastTick _)

/-- The first part of `tick` leaves nothing in the sender's queue. -/
theorem tickSend_segmentsOut
    (connection : TCPConnection) :
    (connection.tickSend msSinceLastTick).sender.segmentsOut = [] := by
  unfold tickSend tickRetransmit
  dsimp only
  split
  · rfl
  · rename_i nothing
    exact not_not.mp nothing

/-- Closing changes two flags at most. -/
theorem tickFinish_shape
    (connection : TCPConnection) :
    connection.tickFinish =
      { connection with
        lingerAfterStreamsFinish :=
          connection.tickFinish.lingerAfterStreamsFinish
        close := connection.tickFinish.close } := by
  unfold tickFinish
  dsimp only
  repeat' split
  all_goals rfl

section Finish

variable (connection : TCPConnection)

@[simp] theorem tickFinish_cfg :
    connection.tickFinish.cfg = connection.cfg := by
  rw [tickFinish_shape]

@[simp] theorem tickFinish_sender :
    connection.tickFinish.sender = connection.sender := by
  rw [tickFinish_shape]

@[simp] theorem tickFinish_receiver :
    connection.tickFinish.receiver = connection.receiver := by
  rw [tickFinish_shape]

@[simp] theorem tickFinish_ticks :
    connection.tickFinish.ticks = connection.ticks := by
  rw [tickFinish_shape]

@[simp] theorem tickFinish_receTick :
    connection.tickFinish.receTick = connection.receTick := by
  rw [tickFinish_shape]

end Finish

/-- Giving up with an empty sender's queue. -/
theorem sendRst_of_nil
    {connection : TCPConnection}
    (nothing : connection.sender.segmentsOut = []) :
    connection.sendRst =
      { connection with
        sender := connection.sender.sendEmptySegment.setError
        receiver := connection.receiver.setError
        segmentsOut := [{
          header := {
            seqno := connection.sender.nextSeqno
            rst := true } }]
        close := true } := by
  simp only [sendRst, TCPSender.sendEmptySegment, nothing,
    List.nil_append]

/-- The actions of a connection that gives up. -/
theorem reaches_sendRst
    {connection : TCPConnection}
    (nothing : connection.sender.segmentsOut = [])
    (written taken : Bytes)
    (earlier log : List TCPSegment) :
    Execution.Reaches TCPEndpoint.act op.Causes
      (connection.view written taken earlier log)
      (connection.sendRst.view written taken
        (earlier ++ connection.sendRst.segmentsOut) log) := by
  rw [sendRst_of_nil nothing]
  refine ⟨[.reset, .send .sendEmptySegment, .send .setError,
    .inboundError], ?_, ?_⟩
  · simp [Op.Causes]
  · simp only [Execution.run_cons, Execution.run_nil, TCPEndpoint.act,
      TCPEndpoint.handedOver, List.append_nil]
    rfl

end Ticking

end Stages

namespace Session

/-- The endpoint a session amounts to, given the log of its sender. -/
def view
    (session : Session)
    (log : List TCPSegment) : TCPEndpoint :=
  session.connection.view session.written session.taken session.placed
    log

/-- A call refined by actions that change neither what was written nor read. -/
theorem reaches_of_refines
    (session : Session)
    {op : Op}
    (refines : Refines op session.connection
      (session.connection.perform op))
    (accepted : session.connection.accepted op = [])
    (returned : session.connection.returned op = [])
    (pushed :
      session.connection.pushed op =
        (session.connection.perform op).segmentsOut.drop
          session.connection.segmentsOut.length)
    (log : List TCPSegment) :
    ∃ longer,
      Execution.Reaches TCPEndpoint.act op.Causes
        (session.view log) ((session.step op).view longer) := by
  obtain ⟨placed, shape, reach⟩ := refines
  obtain ⟨longer, reached⟩ :=
    reach session.written session.taken session.placed log
  refine ⟨longer, ?_⟩
  have placedHere : session.connection.pushed op = placed := by
    rw [pushed, shape, List.drop_left]
  simpa only [view, step, accepted, returned, placedHere,
    List.append_nil] using reached

theorem reaches_write
    (session : Session)
    (data : Bytes)
    (log : List TCPSegment) :
    ∃ longer,
      Execution.Reaches TCPEndpoint.act (Op.write data).Causes
        (session.view log)
        ((session.step (.write data)).view longer) := by
  have later :
      Refines (.write data)
        { session.connection with
          sender := { session.connection.sender with
            stream :=
              (session.connection.sender.stream.write data).2 } }
        (session.connection.write data).2 :=
    refines_connect _
  obtain ⟨placed, shape, reach⟩ := later
  obtain ⟨longer, reached⟩ :=
    reach (session.written ++ session.connection.accepted (.write data))
      session.taken session.placed log
  have wrote :
      (session.view log).act (.send (.write data)) =
        TCPConnection.view
          { session.connection with
            sender := { session.connection.sender with
              stream :=
                (session.connection.sender.stream.write data).2 } }
          (session.written ++ session.connection.accepted (.write data))
          session.taken session.placed log := by
    simp only [TCPEndpoint.act, TCPEndpoint.handedOver, List.append_nil]
    rfl
  have first :
      Execution.Reaches TCPEndpoint.act (Op.write data).Causes
        (session.view log)
        ((session.view log).act (.send (.write data))) :=
    .single _ trivial
  have placedHere :
      session.connection.pushed (.write data) = placed := by
    simp only [pushed, perform, shape, List.drop_left]
  refine ⟨longer, first.trans ?_⟩
  rw [wrote]
  simpa only [view, step, perform, placedHere, returned,
    List.append_nil] using reached

theorem reaches_readInbound
    (session : Session)
    (len : Nat)
    (log : List TCPSegment) :
    Execution.Reaches TCPEndpoint.act (Op.readInbound len).Causes
      (session.view log)
      ((session.step (.readInbound len)).view log) := by
  have same :
      (session.step (.readInbound len)).view log =
        (session.view log).act (.read len) := by
    simp only [view, step, accepted, pushed, perform, readInbound,
      List.drop_length, List.append_nil]
    rfl
  rw [same]
  exact .single _ trivial

theorem reaches_tick
    (session : Session)
    (msSinceLastTick : Nat)
    (log : List TCPSegment) :
    ∃ longer,
      Execution.Reaches TCPEndpoint.act
        (Op.tick msSinceLastTick).Causes
        (session.view log)
        ((session.step (.tick msSinceLastTick)).view longer) := by
  have sending :
      Refines (.tick msSinceLastTick) session.connection
        (session.connection.tickSend msSinceLastTick) :=
    refines_tickSend msSinceLastTick session.connection
  obtain ⟨placed, shape, reach⟩ := sending
  obtain ⟨longer, reached⟩ :=
    reach session.written session.taken session.placed log
  have nothing :=
    tickSend_segmentsOut msSinceLastTick session.connection
  have placedHere :
      (session.connection.tickSend msSinceLastTick).segmentsOut.drop
          session.connection.segmentsOut.length = placed := by
    rw [shape, List.drop_left]
  refine ⟨longer, reached.trans ?_⟩
  simp only [view, TCPConnection.view, step, accepted, returned, pushed,
    perform, tick, tickFinish_sender, tickFinish_receiver, placedHere,
    List.append_nil]
  unfold tickAbort
  split
  · rw [← List.append_assoc]
    exact reaches_sendRst nothing _ _ _ _
  · rw [List.append_nil]
    exact .refl _

/-- Every call is a sequence of endpoint actions. -/
theorem reaches_step
    (session : Session)
    (op : Op)
    (log : List TCPSegment) :
    ∃ longer,
      Execution.Reaches TCPEndpoint.act op.Causes
        (session.view log) ((session.step op).view longer) := by
  cases op with
  | connect =>
      have filled :
          Refines .connect session.connection
            (session.connection.perform .connect) :=
        refines_connect session.connection
      exact session.reaches_of_refines filled rfl rfl rfl log
  | write data =>
      exact session.reaches_write data log
  | endInputStream =>
      have ended :
          Refines .endInputStream session.connection
            { session.connection with
              sender := { session.connection.sender with
                stream :=
                  session.connection.sender.stream.endInput } } :=
        .send .endInput rfl (by simp) fun _ _ => ⟨_, rfl⟩
      have filled :
          Refines .endInputStream session.connection
            session.connection.endInputStream :=
        ended.trans (refines_connect _)
      exact session.reaches_of_refines filled rfl rfl rfl log
  | readInbound len =>
      exact ⟨log, session.reaches_readInbound len log⟩
  | tick msSinceLastTick =>
      exact session.reaches_tick msSinceLastTick log
  | segmentReceived order seg =>
      have received :
          Refines (.segmentReceived order seg) session.connection
            (session.connection.perform (.segmentReceived order seg)) :=
        refines_segmentReceived order seg session.connection
      exact session.reaches_of_refines received rfl rfl rfl log
  | dequeue =>
      refine ⟨log, ?_⟩
      have same : (session.step .dequeue).view log = session.view log := by
        have nothing : session.connection.pushed .dequeue = [] := by
          simp [pushed, perform]
        simp only [view, TCPConnection.view, step, perform, nothing,
          accepted, returned, List.append_nil]
      rw [same]
      exact .refl _

theorem accounted_step
    {session : Session}
    {log : List TCPSegment}
    (op : Op)
    (accounted : (session.view log).Accounted) :
    ∃ longer, ((session.step op).view longer).Accounted := by
  obtain ⟨longer, reached⟩ := session.reaches_step op log
  exact ⟨longer, reached.invariant TCPEndpoint.Accounted
    (fun _ action held _ => held.act action) accounted⟩

theorem accounted_start
    (cfg : TCPConfig)
    (random : WrappingInt32) :
    ((start cfg random).view []).Accounted where
  tracked :=
    TCPSender.Session.tracked_start cfg.sendCapacity cfg.rtTimeout
      (cfg.fixedIsn.getD random)
  outgoing := by
    simp [view, TCPConnection.view, start, TCPConnection.new,
      TCPSender.new]
  complete := List.nil_sublist _
  carried := by simp [view, TCPConnection.view, start]

/-- After any calls a session amounts to an accounted endpoint. -/
theorem accounted_after
    (cfg : TCPConfig)
    (random : WrappingInt32)
    (calls : List Op) :
    ∃ log, ((after cfg random calls).view log).Accounted :=
  Execution.run_invariant
    (fun session : Session => ∃ log, (session.view log).Accounted)
    (fun _ op held => held.elim fun _ accounted =>
      accounted_step op accounted)
    ⟨[], accounted_start cfg random⟩ calls

/-- A call other than `end_input_stream` does not end the stream. -/
theorem step_endFlag
    {session : Session}
    {log : List TCPSegment}
    (accounted : (session.view log).Accounted)
    {op : Op}
    (notEnding : op ≠ .endInputStream) :
    (session.step op).connection.sender.stream.endFlag =
      session.connection.sender.stream.endFlag := by
  obtain ⟨longer, reached⟩ := session.reaches_step op log
  have both :=
    reached.invariant
      (fun endpoint =>
        endpoint.Accounted ∧
          endpoint.out.sender.stream.endFlag =
            session.connection.sender.stream.endFlag)
      (fun endpoint action held caused =>
        ⟨held.1.act action, (held.1.act_endFlag (by
          rintro rfl
          exact notEnding caused)).trans held.2⟩)
      ⟨accounted, rfl⟩
  exact both.2

/-- The outbound stream has only ended if the application ended it. -/
theorem ended_by_application
    {cfg : TCPConfig}
    {random : WrappingInt32}
    {calls : List Op}
    (ended :
      (after cfg random calls).connection.sender.stream.endFlag =
        true) :
    .endInputStream ∈ calls := by
  by_contra absent
  have otherCalls : ∀ op ∈ calls, op ≠ Op.endInputStream :=
    fun op member isEnd => absent (isEnd ▸ member)
  have untouched :
      (∃ log, ((after cfg random calls).view log).Accounted) ∧
        (after cfg random calls).connection.sender.stream.endFlag =
          false := by
    refine Execution.EveryStep.invariant
      (fun session : Session =>
        (∃ log, (session.view log).Accounted) ∧
          session.connection.sender.stream.endFlag = false)
      ?_ ⟨⟨[], accounted_start cfg random⟩, rfl⟩
      (Execution.EveryStep.of_forall_mem otherCalls _)
    rintro session op ⟨⟨log, accounted⟩, unended⟩ notEnding
    exact ⟨accounted_step op accounted,
      (step_endFlag accounted notEnding).trans unended⟩
  rw [untouched.2] at ended
  cases ended

end Session

end Sponge.TCPConnection
