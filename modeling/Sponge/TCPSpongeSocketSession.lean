import Sponge.FdAdapterTransport
import Sponge.TCPConnectionOutbound
import Sponge.TCPConnectionReset
import Sponge.TCPSpongeSocket

namespace Sponge

/-!
# A socket is a session of its connection

Whatever a socket does, its connection sees a sequence of calls.  What the owner
wrote is what these calls wrote, what the owner was given is what they read, and
every packet that was sent carries a segment they placed.  So the results about
sessions are results about sockets.
-/

/-! ## The segments of a connection -/

theorem TCPSegment.Bare.sendable
    {seg : TCPSegment}
    (bare : seg.Bare) :
    seg.Sendable := by
  rw [bare]
  exact ⟨rfl, Nat.zero_le _⟩

theorem TCPSender.Logged.sendable
    {written : Bytes}
    {log : List TCPSegment}
    {sender : TCPSender}
    (logged : Logged written log sender)
    {seg : TCPSegment}
    (member : seg ∈ log) :
    seg.Sendable :=
  ⟨congrArg TCPHeader.doff (logged.plain seg member),
    logged.short seg member⟩

theorem TCPSegment.Sendable.stamp
    {seg : TCPSegment}
    (sendable : seg.Sendable)
    (receiver : TCPReceiver) :
    (TCPConnection.stamp receiver seg).Sendable := by
  unfold TCPConnection.stamp
  split
  · exact sendable
  · exact ⟨sendable.doff, sendable.short⟩

/-- Whatever an endpoint places can be sent. -/
theorem TCPEndpoint.Accounted.act_sendable
    {endpoint : TCPEndpoint}
    (accounted : endpoint.Accounted)
    (sendable : ∀ seg ∈ endpoint.placed, seg.Sendable)
    (action : Action) :
    ∀ seg ∈ (endpoint.act action).placed, seg.Sendable := by
  intro seg member
  cases action with
  | send call =>
      rcases List.mem_append.mp member with earlier | handed
      · exact sendable seg earlier
      · cases call with
        | takeSegments =>
            obtain ⟨original, pushed, rfl⟩ := List.mem_map.mp handed
            rcases accounted.outgoing original pushed with logged | bare
            · exact (accounted.tracked.logged.sendable logged).stamp _
            · exact bare.sendable.stamp _
        | _ =>
            cases handed
  | reset =>
      rcases List.mem_append.mp member with earlier | last
      · exact sendable seg earlier
      · rw [List.mem_singleton.mp last]
        exact ⟨rfl, Nat.zero_le _⟩
  | receive _ _ | inboundError | read _ =>
      exact sendable seg member

/-- The ports and the checksum make no difference to a connection. -/
theorem TCPSegment.Repeats.segmentReceived
    {seg original : TCPSegment}
    (repeats : seg.Repeats original)
    (order : IterationOrder)
    (connection : TCPConnection) :
    connection.segmentReceived seg order =
      connection.segmentReceived original order := by
  obtain ⟨sport, dport, cksum, rfl⟩ := repeats
  have inWindow (connection : TCPConnection) :
      connection.checkSegmentInWindow
          { original with
            header := { original.header with sport, dport, cksum } } =
        connection.checkSegmentInWindow original :=
    rfl
  have received (receiver : TCPReceiver) :
      receiver.segmentReceived order
          { original with
            header := { original.header with sport, dport, cksum } } =
        receiver.segmentReceived order original :=
    rfl
  have sameLength :
      TCPSegment.lengthInSequenceSpace
          { original with
            header := { original.header with sport, dport, cksum } } =
        original.lengthInSequenceSpace :=
    rfl
  simp only [TCPConnection.segmentReceived, TCPConnection.receiveRst,
    TCPConnection.recordIsn, TCPConnection.passiveClose,
    TCPConnection.receivePayload, TCPConnection.receiveAck,
    TCPConnection.reply, TCPConnection.replyKeepAlive, inWindow,
    received, sameLength]

namespace TCPConnection

theorem subset_of_extends
    {old new more : List TCPSegment}
    (shape : new = old ++ more) :
    new ⊆ old ++ new.drop old.length := by
  rw [shape, List.drop_left]
  exact List.Subset.refl _

/-- A call leaves only what was queued before or was placed by it. -/
theorem perform_queue
    (connection : TCPConnection)
    (op : Op) :
    (connection.perform op).segmentsOut ⊆
      connection.segmentsOut ++ connection.pushed op := by
  cases op with
  | connect | write _ | endInputStream =>
      exact subset_of_extends rfl
  | readInbound len =>
      exact List.subset_append_left _ _
  | segmentReceived order seg =>
      exact subset_of_extends
        (segmentReceived_segmentsOut connection order seg)
  | dequeue =>
      exact fun seg member =>
        List.mem_append_left _ (List.mem_of_mem_tail member)
  | tick msSinceLastTick =>
      have sent :=
        subset_of_extends (tickSend_outbound connection msSinceLastTick)
      intro seg member
      have finished :
          (connection.perform (.tick msSinceLastTick)).segmentsOut =
            (connection.tickSend
              msSinceLastTick).tickAbort.segmentsOut := by
        simp only [perform, tick, tickFinish]
        repeat' split
        all_goals rfl
      rw [finished, tickAbort] at member
      simp only [pushed]
      split at member
      · rename_i exceeded
        rw [if_pos exceeded]
        exact List.mem_append_right _ (List.mem_append_right _ member)
      · rename_i trying
        rw [if_neg trying, List.append_nil]
        exact sent member

/-- An inbound stream that is finished or has failed. -/
structure InboundDone (receiver : TCPReceiver) : Prop where
  counted : ReceiverCounted receiver
  isOver :
    receiver.streamOut.eof = true ∨ receiver.streamOut.error = true

/-- It stays so, whatever call follows. -/
theorem InboundDone.perform
    {connection : TCPConnection}
    (done : InboundDone connection.receiver)
    (op : Op) :
    InboundDone (connection.perform op).receiver := by
  refine perform_receiver InboundDone ?_ ?_ ?_ connection op done
  · intro receiver held
    exact ⟨held.counted.setError, .inr rfl⟩
  · intro receiver len held
    refine ⟨⟨held.counted.reassembler.readOut len,
      held.counted.capacity⟩, held.isOver.imp ?_ ?_⟩
    · intro atEnd
      have valid := held.counted.reassembler.outputValid
      simp only [ByteStream.eof, Bool.and_eq_true, beq_iff_eq] at atEnd ⊢
      have drained : receiver.streamOut.size = 0 := atEnd.2
      refine ⟨(ByteStream.read_endFlag len _).trans atEnd.1, ?_⟩
      refine (valid.read_size len).trans ?_
      change receiver.streamOut.size - _ = 0
      omega
    · intro failed
      exact (ByteStream.read_error len _).trans failed
  · intro receiver order seg held
    refine ⟨held.counted.segmentReceived order seg, held.isOver.imp ?_ ?_⟩
    · intro atEnd
      have ended : receiver.reassembler.output.endFlag = true :=
        (Bool.and_eq_true_iff.mp atEnd).1
      have same :
          (receiver.segmentReceived order seg).streamOut =
            receiver.streamOut :=
        receiver.segmentReceived_invariant order seg
          (fun next => next.output = receiver.reassembler.output)
          (fun _ =>
            StreamReassembler.pushSubstring_of_ended ended order _ _ _)
          rfl
      rw [same]
      exact atEnd
    · intro failed
      rw [TCPReceiver.segmentReceived_error]
      exact failed

namespace Session

/-- What all sessions on a new connection have in common. -/
structure Sound (session : Session) : Prop where
  accounted : ∃ log, (session.view log).Accounted
  counted : ReceiverCounted session.connection.receiver
  sendable : ∀ seg ∈ session.placed, seg.Sendable
  queued : session.connection.segmentsOut ⊆ session.placed

theorem sound_start
    (cfg : TCPConfig)
    (random : WrappingInt32) :
    (start cfg random).Sound where
  accounted := ⟨[], accounted_start cfg random⟩
  counted := counted_after cfg random []
  sendable := by
    intro seg member
    cases member
  queued := List.Subset.refl []

theorem Sound.step
    {session : Session}
    (sound : session.Sound)
    (op : Op) :
    (session.step op).Sound := by
  obtain ⟨log, accounted⟩ := sound.accounted
  obtain ⟨longer, reached⟩ := session.reaches_step op log
  obtain ⟨kept, sendable⟩ :=
    reached.invariant
      (fun endpoint =>
        endpoint.Accounted ∧ ∀ seg ∈ endpoint.placed, seg.Sendable)
      (fun _ action held _ =>
        ⟨held.1.act action, held.1.act_sendable held.2 action⟩)
      ⟨accounted, sound.sendable⟩
  refine ⟨⟨longer, kept⟩, ?_, sendable, ?_⟩
  · exact perform_receiver ReceiverCounted
      (fun _ held => held.setError)
      (fun _ len held => ⟨held.reassembler.readOut len, held.capacity⟩)
      (fun _ order seg held => held.segmentReceived order seg)
      session.connection op sound.counted
  · intro seg member
    rcases List.mem_append.mp
        (perform_queue session.connection op member) with
      queued | placed
    · exact List.mem_append_left _ (sound.queued queued)
    · exact List.mem_append_right _ placed

theorem Sound.endInputStream_endFlag
    {session : Session}
    (sound : session.Sound) :
    session.connection.endInputStream.sender.stream.endFlag = true := by
  obtain ⟨log, accounted⟩ := sound.accounted
  have tracked := accounted.tracked.step .endInput
  obtain ⟨sent, fills⟩ :=
    TCPSender.fillWindow_fills tracked.logged.ready
  exact fills.frame.endFlag

end Session

/-- What fits in an open outbound stream is written whole. -/
theorem write_whole
    {connection : TCPConnection}
    {data : Bytes}
    (isOpen : connection.sender.stream.endFlag = false)
    (fits : data.length ≤ connection.remainingOutboundCapacity) :
    (connection.write data).1 = data.length := by
  change (connection.sender.stream.write data).1 = _
  rw [ByteStream.write_fst, ByteStream.accepted, isOpen]
  exact Nat.min_eq_right fits

/-- Popping what is there is reading it. -/
theorem readInbound_of_le
    {connection : TCPConnection}
    {len : Nat}
    (valid : connection.inboundStream.Valid)
    (enough : len ≤ connection.inboundStream.bufferSize) :
    ∃ popped,
      connection.inboundStream.popOutput len = .ok () popped ∧
        connection.readInbound len =
          (connection.inboundStream.peekOutput len,
            connection.setInbound popped) := by
  obtain ⟨buffers, popped, _⟩ := valid.popOutput_ok enough
  refine ⟨_, popped, ?_⟩
  have reads :
      connection.inboundStream.read len =
        (connection.inboundStream.peekOutput len,
          finalState (connection.inboundStream.popOutput len)) := by
    rw [ByteStream.read]
    split
    · rw [show connection.inboundStream.bufferSize = len by omega]
    · rfl
  rw [popped] at reads
  change (let result := connection.inboundStream.read len
    (result.1, connection.setInbound result.2)) = _
  rw [reads]
  rfl

/-- Only certain segments are received. -/
def Op.Hears (heard : TCPSegment → Prop) : Op → Prop
  | .segmentReceived _ seg => heard seg
  | _ => True

end TCPConnection

namespace TCPSpongeSocket

open TCPConnection (Op Session InboundDone)

variable {Adapter Packet : Type}

/--
A rule that does something when it is cancelled is only called while the
outbound stream is open.
-/
def Ready
    (rule : Rule Adapter Packet)
    (socket : TCPSpongeSocket Adapter) : Prop :=
  rule.cancel = id ∨ socket.outboundShutdown = false

theorem isOpen_of_ready
    {socket : TCPSpongeSocket Adapter}
    (ready : Ready (outboundRule : Rule Adapter Packet) socket) :
    socket.outboundShutdown = false := by
  rcases ready with idle | isOpen
  · have same := congrFun idle { socket with outboundShutdown := false }
    cases congrArg TCPSpongeSocket.outboundShutdown same
  · exact isOpen

theorem undisturbed_of_idle
    (earlier : Rule Adapter Packet)
    {later : Rule Adapter Packet}
    (idle : later.cancel = id) :
    EventLoop.Rule.Undisturbed Ready earlier later where
  cancelLater := by
    intro socket ready
    rw [idle]
    exact ready
  cancelEarlier _ _ := .inl idle
  callEarlier _ _ _ := .inl idle

variable [FdAdapter Adapter Packet]

theorem receiveSegment_outboundShutdown
    (kernel : Kernel Packet)
    (socket : TCPSpongeSocket Adapter) :
    (finalState (socket.receiveSegment kernel)).outboundShutdown =
      socket.outboundShutdown := by
  unfold receiveSegment
  split <;> rfl

/-- Rule 1 does not shut down the stream that rule 2 reads. -/
theorem undisturbed_rules :
    (rules : List (Rule Adapter Packet)).Pairwise
      (EventLoop.Rule.Undisturbed Ready) := by
  have outbound :
      EventLoop.Rule.Undisturbed Ready
        (receiveRule : Rule Adapter Packet) outboundRule :=
    ⟨fun _ _ => .inl rfl, fun _ ready => ready,
      fun kernel socket ready => .inr
        ((receiveSegment_outboundShutdown kernel socket).trans
          (isOpen_of_ready ready))⟩
  simp only [rules, List.pairwise_cons, List.mem_cons,
    List.not_mem_nil, or_false, forall_eq_or_imp, forall_eq,
    List.Pairwise.nil, and_true, false_imp_iff, implies_true]
  exact ⟨⟨outbound, undisturbed_of_idle _ rfl, undisturbed_of_idle _ rfl⟩,
    ⟨undisturbed_of_idle _ rfl, undisturbed_of_idle _ rfl⟩,
    undisturbed_of_idle _ rfl⟩

variable [Transport Adapter]

/-- The socket is where its session says. -/
structure Follows
    (session : Session)
    (socket : TCPSpongeSocket Adapter) : Prop where
  sound : session.Sound
  connection : socket.tcp = session.connection
  written : socket.threadData.received.flatten = session.written
  taken : socket.threadData.sent.flatten = session.taken
  carried : Transport.Holds session.placed socket.datagramAdapter
  outbound :
    socket.outboundShutdown =
      session.connection.sender.stream.endFlag
  inbound :
    socket.inboundShutdown = true →
    InboundDone session.connection.receiver

/--
Only certain segments can be read from the packet the kernel hands over, and it
hands over no more bytes than it was asked for.
-/
structure Kernel.Faithful
    (Adapter : Type)
    {Packet : Type}
    [FdAdapter Adapter Packet]
    (heard : TCPSegment → Prop)
    (kernel : Kernel Packet) : Prop where
  conveyed :
    ∀ packet,
      kernel.receive = .ok packet →
      ∀ transmitted (adapter : Adapter) seg,
        returned (FdAdapter.read (.ok packet) transmitted adapter) =
          some (some seg) →
        ∃ original, heard original ∧ seg.Repeats original
  bounded :
    ∀ size bytes,
      kernel.read size = .ok bytes →
      bytes.length ≤ size

/-- The socket follows what calls that hear such segments lead to. -/
def Tracks
    (heard : TCPSegment → Prop)
    (initial : Session)
    (socket : TCPSpongeSocket Adapter) : Prop :=
  ∃ session,
    Execution.Reaches Session.step (Op.Hears heard) initial session ∧
      Follows session socket

section Callbacks

variable {heard : TCPSegment → Prop} {session initial : Session}
variable {socket next : TCPSpongeSocket Adapter}
variable {kernel : Kernel Packet}

/-- The socket after one call on its connection. -/
theorem Follows.step
    (follows : Follows session socket)
    {op : Op}
    (connection : next.tcp = session.connection.perform op)
    (written :
      next.threadData.received.flatten =
        socket.threadData.received.flatten ++
          session.connection.accepted op)
    (taken :
      next.threadData.sent.flatten =
        socket.threadData.sent.flatten ++ session.connection.returned op)
    (carried :
      Transport.Holds (session.step op).placed next.datagramAdapter)
    (outbound :
      next.outboundShutdown = socket.outboundShutdown ∧
          op ≠ .endInputStream ∨
        next.outboundShutdown = true ∧ op = .endInputStream)
    (inbound :
      next.inboundShutdown = true →
      socket.inboundShutdown = true ∨
        InboundDone (session.connection.perform op).receiver) :
    Follows (session.step op) next where
  sound := follows.sound.step op
  connection := connection
  written := by rw [written, follows.written]; rfl
  taken := by rw [taken, follows.taken]; rfl
  carried := carried
  outbound := by
    rcases outbound with ⟨same, other⟩ | ⟨ended, rfl⟩
    · obtain ⟨log, accounted⟩ := follows.sound.accounted
      rw [Session.step_endFlag accounted other, same]
      exact follows.outbound
    · exact ended.trans follows.sound.endInputStream_endFlag.symm
  inbound := by
    intro isShut
    rcases inbound isShut with earlier | done
    · exact (follows.inbound earlier).perform op
    · exact done

/-- Segments placed by a call do not undo what an adapter holds. -/
theorem holds_step
    {adapter : Adapter}
    (holds : Transport.Holds session.placed adapter)
    (op : Op) :
    Transport.Holds (session.step op).placed adapter :=
  Transport.mono holds (List.subset_append_left _ _)

theorem Tracks.step
    (tracks : Tracks heard initial socket)
    (op : Op)
    (hears : op.Hears heard)
    (follows :
      ∀ session,
        Follows session socket →
        Follows (session.step op) next) :
    Tracks heard initial next := by
  obtain ⟨session, reached, followed⟩ := tracks
  exact ⟨session.step op, reached.trans (.single op hears),
    follows session followed⟩

/-- A call that neither the owner nor the socket takes part in. -/
theorem Follows.quietly
    (follows : Follows session socket)
    {op : Op}
    {tcp : TCPConnection}
    {datagramAdapter : Adapter}
    (connection : tcp = session.connection.perform op)
    (accepted : session.connection.accepted op = [])
    (returned : session.connection.returned op = [])
    (carried : Transport.Holds session.placed datagramAdapter)
    (other : op ≠ .endInputStream) :
    Follows (session.step op) { socket with tcp, datagramAdapter } := by
  refine follows.step connection ?_ ?_ (holds_step carried op)
    (.inl ⟨rfl, other⟩) .inl
  · rw [accepted, List.append_nil]
  · rw [returned, List.append_nil]

/-- Nothing but the adapter changed. -/
theorem Follows.adapted
    (follows : Follows session socket)
    {datagramAdapter : Adapter}
    (carried : Transport.Holds session.placed datagramAdapter) :
    Follows session { socket with datagramAdapter } :=
  { follows with carried }

theorem Tracks.receiveSegment
    (tracks : Tracks heard initial socket)
    (faithful : kernel.Faithful Adapter heard) :
    Tracks heard initial
      (finalState (socket.receiveSegment kernel)) := by
  obtain ⟨session, reached, follows⟩ := tracks
  have carried :=
    Transport.read follows.carried kernel.receive kernel.transmit
  simp only [TCPSpongeSocket.receiveSegment]
  cases reading :
      FdAdapter.read kernel.receive kernel.transmit
        socket.datagramAdapter with
  | error thrown datagramAdapter =>
      rw [reading] at carried
      exact ⟨session, reached, follows.adapted carried⟩
  | ok result datagramAdapter =>
      rw [reading] at carried
      cases result with
      | none =>
          exact ⟨session, reached, follows.adapted carried⟩
      | some seg =>
          have conveyed :
              ∃ original, heard original ∧ seg.Repeats original := by
            cases received : kernel.receive with
            | error thrown =>
                rw [received, Transport.refused] at reading
                cases reading
            | ok packet =>
                rw [received] at reading
                exact faithful.conveyed packet received kernel.transmit
                  socket.datagramAdapter seg
                  (congrArg Sponge.returned reading)
          obtain ⟨original, isHeard, repeats⟩ := conveyed
          refine ⟨session.step (.segmentReceived kernel.order original),
            reached.trans (.single _ isHeard),
            follows.quietly ?_ rfl rfl carried nofun⟩
          rw [repeats.segmentReceived, follows.connection]
          rfl

theorem Tracks.shutdownOutbound
    (tracks : Tracks heard initial socket) :
    Tracks heard initial socket.shutdownOutbound := by
  refine tracks.step .endInputStream trivial ?_
  intro session follows
  have connection :
      socket.tcp.endInputStream =
        session.connection.perform .endInputStream := by
    rw [follows.connection]
    rfl
  exact follows.step connection (List.append_nil _).symm
    (List.append_nil _).symm (holds_step follows.carried _)
    (.inr ⟨rfl, rfl⟩) .inl

theorem Tracks.readOutbound
    (tracks : Tracks heard initial socket)
    (faithful : kernel.Faithful Adapter heard)
    (isOpen : socket.outboundShutdown = false) :
    Tracks heard initial (finalState (socket.readOutbound kernel)) := by
  simp only [TCPSpongeSocket.readOutbound]
  cases answer :
      kernel.read
        (min FileDescriptor.bufferSize
          socket.tcp.remainingOutboundCapacity) with
  | error thrown =>
      exact tracks
  | ok data =>
      have fits := faithful.bounded _ _ answer
      obtain ⟨threadData, reads, received, sent, _⟩ :=
        socket.threadData.read_of_le fits
      have notEnded : socket.tcp.sender.stream.endFlag = false := by
        obtain ⟨session, _, follows⟩ := tracks
        rw [follows.connection, ← follows.outbound]
        exact isOpen
      have whole :=
        TCPConnection.write_whole notEnded
          (Nat.le_trans fits (Nat.min_le_right _ _))
      have wrote :
          Tracks heard initial
            { socket with
              threadData
              tcp := (socket.tcp.write data).2 } := by
        refine tracks.step (.write data) trivial ?_
        intro session follows
        refine follows.step ?_ ?_ ?_ (holds_step follows.carried _)
          (.inl ⟨rfl, nofun⟩) .inl
        · rw [follows.connection]
          rfl
        · have accepted :
              session.connection.accepted (.write data) = data := by
            rw [TCPConnection.accepted, ← follows.connection, whole,
              List.take_length]
          rw [accepted, received]
          simp
        · rw [sent]
          exact (List.append_nil _).symm
      rw [reads]
      dsimp only
      rw [if_neg (not_not.mpr whole)]
      split
      · exact wrote.shutdownOutbound
      · exact wrote

/-- The owner's stream is shut down when there is nothing left to read. -/
theorem Tracks.shutdownInbound
    (tracks : Tracks heard initial socket)
    (isOver :
      (socket.tcp.inboundStream.eof || socket.tcp.inboundStream.error) =
        true)
    {threadData : FileDescriptor Bytes}
    (received : threadData.received = socket.threadData.received)
    (sent : threadData.sent = socket.threadData.sent) :
    Tracks heard initial
      { socket with
        threadData
        inboundShutdown := true } := by
  obtain ⟨session, reached, follows⟩ := tracks
  refine ⟨session, reached, { follows with
    written := received ▸ follows.written
    taken := sent ▸ follows.taken
    inbound := fun _ => ?_ }⟩
  rw [follows.connection] at isOver
  exact ⟨follows.sound.counted, Bool.or_eq_true_iff.mp isOver⟩

theorem Tracks.writeInbound
    (tracks : Tracks heard initial socket)
    (kernel : Kernel Packet) :
    Tracks heard initial (finalState (socket.writeInbound kernel)) := by
  have counted :
      TCPConnection.ReceiverCounted socket.tcp.receiver := by
    obtain ⟨session, _, follows⟩ := tracks
    rw [follows.connection]
    exact follows.sound.counted
  have valid : socket.tcp.inboundStream.Valid :=
    counted.reassembler.outputValid
  simp only [TCPSpongeSocket.writeInbound]
  generalize size :
    min 65536 socket.tcp.inboundStream.bufferSize = amountToWrite
  generalize buffered :
    socket.tcp.inboundStream.peekOutput amountToWrite = buffer
  rcases socket.threadData.write_once (.ofString buffer)
      (kernel.write buffer.length) with
    ⟨thrown, threw⟩ | ⟨count, _, enough, wrote⟩
  · rw [threw]
    exact tracks
  · rw [BufferViewList.size_eq_length, BufferViewList.content_ofString]
      at enough
    rw [BufferViewList.content_ofString] at wrote
    have short : count ≤ amountToWrite := by
      rw [← buffered] at enough
      exact Nat.le_trans enough (List.length_take_le _ _)
    obtain ⟨popped, pops, reads⟩ :=
      TCPConnection.readInbound_of_le valid
        (show count ≤ socket.tcp.inboundStream.bufferSize by omega)
    have chunk :
        buffer.take count =
          socket.tcp.inboundStream.peekOutput count := by
      rw [← buffered, ByteStream.peekOutput, List.take_take,
        Nat.min_eq_left short]
      rfl
    have read :
        Tracks heard initial
          { socket with
            threadData := socket.threadData.took (buffer.take count)
            tcp := socket.tcp.setInbound popped } := by
      refine tracks.step (.readInbound count) trivial ?_
      intro session follows
      rw [follows.connection] at reads
      refine follows.step ?_ (List.append_nil _).symm ?_
        (holds_step follows.carried _) (.inl ⟨rfl, by simp⟩) .inl
      · rw [TCPConnection.perform, reads, follows.connection]
      · rw [TCPConnection.returned, reads, ← follows.connection, ← chunk]
        simp [FileDescriptor.took]
    rw [wrote]
    dsimp only
    rw [pops]
    dsimp only
    split
    · rename_i isOver
      cases kernel.shutdown with
      | error thrown =>
          exact read
      | ok _ =>
          exact read.shutdownInbound isOver rfl rfl
    · exact read

/-- Writing a segment to the adapter and popping it. -/
theorem Follows.sent
    (follows : Follows session socket)
    {seg : TCPSegment}
    {rest : List TCPSegment}
    (queue : socket.tcp.segmentsOut = seg :: rest)
    (transmit : Nat → SystemCall Unit) :
    let adapter :=
      finalState (FdAdapter.write seg transmit socket.datagramAdapter)
    Follows session { socket with datagramAdapter := adapter } ∧
      Follows (session.step .dequeue)
        { socket with
          datagramAdapter := adapter
          tcp := { socket.tcp with segmentsOut := rest } } := by
  intro adapter
  have member : seg ∈ session.placed := by
    refine follows.sound.queued ?_
    rw [← follows.connection, queue]
    exact .head _
  have carried : Transport.Holds session.placed adapter :=
    Transport.write follows.carried member
      (follows.sound.sendable seg member) transmit
  refine ⟨follows.adapted carried,
    follows.quietly ?_ rfl rfl carried nofun⟩
  rw [TCPConnection.perform, ← follows.connection, queue]
  rfl

theorem Tracks.sendSegments
    (tracks : Tracks heard initial socket)
    (kernel : Kernel Packet) :
    Tracks heard initial (finalState (socket.sendSegments kernel)) := by
  rw [TCPSpongeSocket.sendSegments, finalState_ofPart]
  generalize queue : socket.tcp.segmentsOut = segs
  -- by induction on what is left in the queue
  induction segs generalizing socket with
  | nil =>
      simp only [writeLoop, finalState]
      rw [← queue]
      exact tracks
  | cons seg rest inductionHypothesis =>
      have popped :=
        tracks.step .dequeue trivial fun _ follows =>
          (follows.sent queue kernel.transmit).2
      simp only [writeLoop]
      cases writing :
          FdAdapter.write seg kernel.transmit socket.datagramAdapter with
      | error thrown adapter =>
          obtain ⟨session, reached, follows⟩ := tracks
          have failed := (follows.sent queue kernel.transmit).1
          rw [writing] at failed
          simp only [finalState] at failed ⊢
          rw [← queue]
          exact ⟨session, reached, failed⟩
      | ok _ adapter =>
          rw [writing] at popped
          exact inductionHypothesis popped rfl

theorem Tracks.tick
    (tracks : Tracks heard initial socket)
    (elapsed : Nat)
    (transmit : Nat → SystemCall Unit) :
    Tracks heard initial
      { socket with
        tcp := socket.tcp.tick elapsed
        datagramAdapter :=
          finalState
            (FdAdapter.tick elapsed transmit socket.datagramAdapter) } := by
  refine tracks.step (.tick elapsed) trivial ?_
  intro session follows
  refine follows.quietly ?_ rfl rfl
    (Transport.tick follows.carried elapsed transmit) nofun
  rw [follows.connection]
  rfl

end Callbacks

/-! ## Turns -/

section Turns

variable {heard : TCPSegment → Prop} {initial : Session}

theorem keeps_tracks
    {rule : Rule Adapter Packet}
    (member : rule ∈ rules) :
    rule.Keeps (Tracks heard initial) Ready
      (Kernel.Faithful Adapter heard) := by
  simp only [rules, List.mem_cons, List.not_mem_nil, or_false] at member
  rcases member with rfl | rfl | rfl | rfl
  · exact ⟨fun _ _ _ => .inl rfl, fun _ tracks => tracks,
      fun _ _ tracks _ faithful => tracks.receiveSegment faithful⟩
  · refine ⟨fun socket _ interested => .inr ?_,
      fun _ tracks => tracks.shutdownOutbound,
      fun _ _ tracks ready faithful =>
        tracks.readOutbound faithful (isOpen_of_ready ready)⟩
    simp only [outboundRule, Bool.and_eq_true, Bool.not_eq_true']
      at interested
    exact interested.1.2
  · exact ⟨fun _ _ _ => .inl rfl, fun _ tracks => tracks,
      fun kernel _ tracks _ _ => tracks.writeInbound kernel⟩
  · exact ⟨fun _ _ _ => .inl rfl, fun _ tracks => tracks,
      fun kernel _ tracks _ _ => tracks.sendSegments kernel⟩

variable {thread : Thread Adapter} {turn : Turn Packet}

/-- A thread with some of the rules whose socket follows its session. -/
structure Thread.Tracks
    (heard : TCPSegment → Prop)
    (initial : Session)
    (thread : Thread Adapter) : Prop where
  fewer : thread.rules.Sublist TCPSpongeSocket.rules
  socket : TCPSpongeSocket.Tracks heard initial thread.socket

theorem Thread.Tracks.tcpLoopTurn
    (tracks : thread.Tracks heard initial)
    (faithful :
      turn.poll.Reports fun entry =>
        entry.2.Faithful Adapter heard) :
    (finalState (thread.tcpLoopTurn turn)).Tracks heard initial := by
  have fewer :=
    (EventLoop.waitNextEvent_sublist turn.poll thread.rules
      thread.socket).trans tracks.fewer
  have socket :=
    EventLoop.waitNextEvent_keeps faithful
      (fun rule member => keeps_tracks (tracks.fewer.subset member))
      (undisturbed_rules.sublist tracks.fewer) tracks.socket
  simp only [Thread.tcpLoopTurn]
  cases waiting :
      EventLoop.waitNextEvent turn.poll thread.rules thread.socket with
  | error thrown next =>
      rw [waiting] at fewer socket
      exact ⟨fewer, socket⟩
  | ok ret next =>
      rw [waiting] at fewer socket
      dsimp only
      split
      · exact ⟨fewer, socket⟩
      split
      · have ticked := socket.tick turn.elapsed turn.transmit
        simp only [finalState] at ticked
        cases ticking :
            FdAdapter.tick turn.elapsed turn.transmit
              next.2.datagramAdapter with
        | error thrown adapter =>
            rw [ticking] at ticked
            exact ⟨fewer, ticked⟩
        | ok _ adapter =>
            rw [ticking] at ticked
            exact ⟨fewer, ticked⟩
      · exact ⟨fewer, socket⟩

theorem Thread.Tracks.step
    (tracks : thread.Tracks heard initial)
    (faithful :
      turn.poll.Reports fun entry =>
        entry.2.Faithful Adapter heard) :
    (thread.step turn).Tracks heard initial := by
  have left :
      ∀ {thread : Thread Adapter},
        thread.Tracks heard initial →
        (thread.loopLeft turn).Tracks heard initial := by
    intro thread tracks
    refine ⟨?_, ?_⟩
    · rw [Thread.loopLeft_rules]
      exact tracks.fewer
    · rw [Thread.loopLeft_socket]
      exact tracks.socket
  have turned := tracks.tcpLoopTurn faithful
  unfold Thread.step
  split
  · cases looping : thread.tcpLoopTurn turn with
    | error thrown next =>
        rw [looping] at turned
        exact ⟨turned.fewer, turned.socket⟩
    | ok goesOn next =>
        rw [looping] at turned
        cases goesOn with
        | true => exact turned
        | false => exact left turned
  · exact left tracks

end Turns

end TCPSpongeSocket

end Sponge
