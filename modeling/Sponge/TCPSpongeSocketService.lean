import Sponge.FdAdapterService
import Sponge.TCPSpongeSocketNetwork

namespace Sponge.TCPSpongeSocket

/-!
# A socket while the kernel cooperates

Nothing that arrives from the network makes a socket throw: no callback does, no
write is accepted in part, and the event loop never finds a rule that is called
again and again without doing anything.
-/

open TCPConnection (Op Session)

variable {Adapter Packet : Type} [FdAdapter Adapter Packet]

/-- Whatever packet arrives, the kernel does what it is asked to do. -/
structure Kernel.Cooperates
    (Adapter : Type)
    {Packet : Type}
    [FdAdapter Adapter Packet]
    (kernel : Kernel Packet) : Prop where
  receives :
    ∃ packet,
      kernel.receive = .ok packet ∧
        (FdAdapter.content Adapter packet).length ≤ largestPacket
  reads :
    ∀ size,
      ∃ bytes, kernel.read size = .ok bytes ∧ bytes.length ≤ size
  writes :
    ∀ size,
      ∃ count,
        kernel.write size = .ok count ∧
          count ≤ size ∧
          (count = 0 → size = 0)
  shuts : kernel.shutdown = .ok ()
  transmits : ∀ sent, kernel.transmit sent = .ok ()

/-- Any segment at all may be heard. -/
abbrev anything : TCPSegment → Prop := fun _ => True

theorem Kernel.Cooperates.faithful
    {kernel : Kernel Packet}
    (cooperates : kernel.Cooperates Adapter) :
    kernel.Faithful Adapter anything where
  conveyed _ _ _ _ seg _ := ⟨seg, trivial, _, _, _, rfl⟩
  bounded := by
    intro size bytes read
    obtain ⟨some, same, short⟩ := cooperates.reads size
    rw [read] at same
    cases same
    exact short

/-- What a callback does to the descriptors that it does not read. -/
structure Unread (before after : TCPSpongeSocket Adapter) : Prop where
  adapter :
    (FdAdapter.fd before.datagramAdapter).Unread
      (FdAdapter.fd after.datagramAdapter).toFDWrapper
  closed : after.threadData.closed = before.threadData.closed

/-- A service is noticed, also when the count overflows. -/
theorem counted_ne (count : UInt32) : count + 1 ≠ count := by
  simp

section Callbacks

variable [Transport Adapter]
variable {heard : TCPSegment → Prop} {initial : Session}
variable {socket : TCPSpongeSocket Adapter} {kernel : Kernel Packet}

theorem Tracks.receiveSegment_returns
    [Prompt Adapter]
    (tracks : Tracks heard initial socket)
    (cooperates : kernel.Cooperates Adapter) :
    let outcome := socket.receiveSegment kernel
    let next := finalState outcome
    returned outcome = some () ∧
      next.threadData = socket.threadData ∧
      ∃ packet,
        kernel.receive = .ok packet ∧
          (FdAdapter.fd socket.datagramAdapter).ReadOnce
            (FdAdapter.content Adapter packet)
            (FdAdapter.fd next.datagramAdapter).toFDWrapper := by
  obtain ⟨session, _, follows⟩ := tracks
  obtain ⟨packet, received, fits⟩ := cooperates.receives
  obtain ⟨⟨seg, returns⟩, once⟩ :=
    Prompt.read follows.carried fits cooperates.transmits
  simp only [TCPSpongeSocket.receiveSegment, received]
  rw [eq_ok_of_returned returns]
  cases seg with
  | none => exact ⟨rfl, rfl, packet, rfl, once⟩
  | some seg => exact ⟨rfl, rfl, packet, rfl, once⟩

theorem Tracks.readOutbound_returns
    (tracks : Tracks heard initial socket)
    (cooperates : kernel.Cooperates Adapter)
    (isOpen : socket.outboundShutdown = false) :
    let outcome := socket.readOutbound kernel
    let next := finalState outcome
    returned outcome = some () ∧
      socket.Unread next ∧
      next.threadData.readCount = socket.threadData.readCount + 1 := by
  obtain ⟨session, _, follows⟩ := tracks
  obtain ⟨data, answer, fits⟩ :=
    cooperates.reads
      (min FileDescriptor.bufferSize
        socket.tcp.remainingOutboundCapacity)
  obtain ⟨threadData, reads, _, _, closed, counted, _⟩ :=
    socket.threadData.read_of_le fits
  have notEnded : socket.tcp.sender.stream.endFlag = false := by
    rw [follows.connection, ← follows.outbound]
    exact isOpen
  have whole :=
    TCPConnection.write_whole notEnded
      (Nat.le_trans fits (Nat.min_le_right _ _))
  simp only [TCPSpongeSocket.readOutbound, answer, reads]
  rw [if_neg (not_not.mpr whole)]
  split
  · exact ⟨rfl, ⟨.refl _, closed⟩, counted⟩
  · exact ⟨rfl, ⟨.refl _, closed⟩, counted⟩

theorem Tracks.writeInbound_returns
    (tracks : Tracks heard initial socket)
    (cooperates : kernel.Cooperates Adapter) :
    let outcome := socket.writeInbound kernel
    let next := finalState outcome
    returned outcome = some () ∧
      socket.Unread next ∧
      next.threadData.writeCount ≠ socket.threadData.writeCount := by
  obtain ⟨session, _, follows⟩ := tracks
  have valid : socket.tcp.inboundStream.Valid := by
    rw [follows.connection]
    exact follows.sound.counted.reassembler.outputValid
  simp only [TCPSpongeSocket.writeInbound]
  generalize size :
    min 65536 socket.tcp.inboundStream.bufferSize = amountToWrite
  generalize buffered :
    socket.tcp.inboundStream.peekOutput amountToWrite = buffer
  obtain ⟨count, answer, enough, positive⟩ :=
    cooperates.writes buffer.length
  have length : (BufferViewList.ofString buffer).size = buffer.length := by
    rw [BufferViewList.size_eq_length, BufferViewList.content_ofString]
  have short : buffer.length ≤ amountToWrite := by
    rw [← buffered]
    exact List.length_take_le _ _
  obtain ⟨popped, pops, _⟩ :=
    TCPConnection.readInbound_of_le valid
      (show count ≤ socket.tcp.inboundStream.bufferSize by omega)
  rw [answer,
    FileDescriptor.write_accepted (length ▸ enough) (length ▸ positive)]
  dsimp only
  rw [pops, cooperates.shuts]
  have twice (count : UInt32) : count + 1 + 1 ≠ count := by
    rw [add_assoc]
    simp
  dsimp only
  split
  · exact ⟨rfl, ⟨.refl _, rfl⟩, twice _⟩
  · exact ⟨rfl, ⟨.refl _, rfl⟩, counted_ne _⟩

theorem Tracks.sendSegments_returns
    [Prompt Adapter]
    (tracks : Tracks heard initial socket)
    (cooperates : kernel.Cooperates Adapter) :
    returned (socket.sendSegments kernel) = some () ∧
      socket.Unread (finalState (socket.sendSegments kernel)) ∧
      (finalState (socket.sendSegments kernel)).tcp.segmentsOut = [] := by
  rw [TCPSpongeSocket.sendSegments, returned_ofPart, finalState_ofPart]
  generalize queue : socket.tcp.segmentsOut = segs
  -- by induction on what is left in the queue
  induction segs generalizing socket with
  | nil =>
      exact ⟨rfl, ⟨.refl _, rfl⟩, rfl⟩
  | cons seg rest inductionHypothesis =>
      have popped :=
        tracks.step .dequeue trivial fun _ follows =>
          (follows.sent queue kernel.transmit).2
      obtain ⟨session, _, follows⟩ := tracks
      have member : seg ∈ session.placed := by
        refine follows.sound.queued ?_
        rw [← follows.connection, queue]
        exact .head _
      obtain ⟨returns, unread⟩ :=
        Prompt.write follows.carried (follows.sound.sendable seg member)
          cooperates.transmits
      obtain ⟨allReturn, later, emptied⟩ := inductionHypothesis popped rfl
      simp only [writeLoop]
      rw [eq_ok_of_returned returns]
      exact ⟨allReturn, ⟨unread.trans later.adapter, later.closed⟩,
        emptied⟩

end Callbacks

/-! ## Turns -/

/-- A turn in which every system call does what it is asked to do. -/
structure Turn.Healthy
    (Adapter : Type)
    {Packet : Type}
    [FdAdapter Adapter Packet]
    (turn : Turn Packet) : Prop where
  reported :
    turn.poll.Reports fun entry =>
      entry.1.Faultless ∧ entry.2.Cooperates Adapter
  transmits : ∀ sent, turn.transmit sent = .ok ()
  shuts : turn.shutdown = .ok ()

section Turns

variable [Transport Adapter] [Prompt Adapter]
variable {initial : Session} {thread : Thread Adapter}
variable {turn : Turn Packet}

theorem attentive_rules
    {rule : Rule Adapter Packet}
    (member : rule ∈ rules) :
    rule.Attentive (Tracks anything initial) Ready
      (Kernel.Cooperates Adapter) := by
  have keeps :
      rule.Keeps (Tracks anything initial) Ready
        (Kernel.Cooperates Adapter) := by
    have faithful :
        rule.Keeps (Tracks anything initial) Ready
          (Kernel.Faithful Adapter anything) :=
      keeps_tracks member
    exact ⟨faithful.asked, faithful.cancelled,
      fun kernel socket tracks ready cooperates =>
        faithful.called kernel socket tracks ready cooperates.faithful⟩
  simp only [rules, List.mem_cons, List.not_mem_nil, or_false] at member
  rcases member with rfl | rfl | rfl | rfl
  · refine ⟨keeps, fun _ _ tracks _ cooperates =>
      (tracks.receiveSegment_returns cooperates).1, ?_⟩
    intro kernel socket tracks _ cooperates next same
    obtain ⟨_, _, packet, _, once⟩ :=
      tracks.receiveSegment_returns cooperates
    cases counted_ne _ (same.trans once.readCount).symm
  · refine ⟨keeps, fun _ _ tracks ready cooperates =>
      (tracks.readOutbound_returns cooperates
        (isOpen_of_ready ready)).1, ?_⟩
    intro kernel socket tracks ready cooperates next same
    obtain ⟨_, _, counted⟩ :=
      tracks.readOutbound_returns cooperates (isOpen_of_ready ready)
    cases counted_ne _ (same.trans counted).symm
  · refine ⟨keeps, fun _ _ tracks _ cooperates =>
      (tracks.writeInbound_returns cooperates).1, ?_⟩
    intro kernel socket tracks _ cooperates next same
    cases (tracks.writeInbound_returns cooperates).2.2 same.symm
  · refine ⟨keeps, fun _ _ tracks _ cooperates =>
      (tracks.sendSegments_returns cooperates).1, ?_⟩
    intro kernel socket tracks _ cooperates next _
    have emptied := (tracks.sendSegments_returns cooperates).2.2
    change (!(finalState
      (socket.sendSegments kernel)).tcp.segmentsOut.isEmpty) = false
    rw [emptied]
    rfl

omit [Transport Adapter] [Prompt Adapter] in
theorem Turn.Healthy.faithful
    (healthy : turn.Healthy Adapter) :
    turn.poll.Reports fun entry =>
      entry.2.Faithful Adapter anything :=
  healthy.reported.imp fun _ sane => sane.2.faithful

omit [Transport Adapter] [Prompt Adapter] in
theorem Thread.tcpLoopTurn_phase
    (turn : Turn Packet)
    (thread : Thread Adapter) :
    (finalState (thread.tcpLoopTurn turn)).phase = thread.phase := by
  unfold Thread.tcpLoopTurn
  repeat' split
  all_goals rfl

theorem Thread.Tracks.tcpLoopTurn_returns
    (tracks : thread.Tracks anything initial)
    (healthy : turn.Healthy Adapter) :
    ∃ goesOn, returned (thread.tcpLoopTurn turn) = some goesOn := by
  obtain ⟨result, returns⟩ :=
    EventLoop.waitNextEvent_returns healthy.reported
      (fun rule member => attentive_rules (tracks.fewer.subset member))
      (undisturbed_rules.sublist tracks.fewer) tracks.socket
  have socket :=
    EventLoop.waitNextEvent_keeps healthy.faithful
      (fun rule member => keeps_tracks (tracks.fewer.subset member))
      (undisturbed_rules.sublist tracks.fewer) tracks.socket
  unfold Thread.tcpLoopTurn
  rw [eq_ok_of_returned returns]
  dsimp only
  split
  · exact ⟨_, rfl⟩
  split
  · obtain ⟨session, _, follows⟩ := socket
    have ticked :=
      Prompt.tick follows.carried healthy.transmits turn.elapsed
    rw [eq_ok_of_returned ticked.1]
    exact ⟨_, rfl⟩
  · exact ⟨_, rfl⟩

/-- A step in a healthy turn, by what the turn of the loop returned. -/
theorem Thread.Tracks.step_cases
    (tracks : thread.Tracks anything initial)
    (healthy : turn.Healthy Adapter) :
    let turned := finalState (thread.tcpLoopTurn turn)
    (thread.condition = true ∧
        returned (thread.tcpLoopTurn turn) = some true ∧
        thread.step turn = turned) ∨
      (thread.condition = true ∧
        returned (thread.tcpLoopTurn turn) = some false ∧
        thread.step turn = turned.loopLeft turn) ∨
      (thread.condition = false ∧
        thread.step turn = thread.loopLeft turn) := by
  obtain ⟨goesOn, returns⟩ := tracks.tcpLoopTurn_returns healthy
  unfold Thread.step
  cases condition : thread.condition with
  | false =>
      exact .inr (.inr ⟨rfl, rfl⟩)
  | true =>
      rw [if_pos rfl]
      cases looping : thread.tcpLoopTurn turn with
      | error thrown next =>
          rw [looping] at returns
          cases returns
      | ok goesOn next =>
          cases goesOn with
          | true => exact .inl ⟨rfl, rfl, rfl⟩
          | false => exact .inr (.inl ⟨rfl, rfl, rfl⟩)

omit [Transport Adapter] [Prompt Adapter] in
theorem Thread.loopLeft_not_failed
    (shuts : turn.shutdown = .ok ())
    (sound : ∀ thrown, thread.phase ≠ .failed thrown)
    (thrown : StdException) :
    (thread.loopLeft turn).phase ≠ .failed thrown := by
  unfold Thread.loopLeft
  rw [shuts]
  cases phase : thread.phase with
  | failed other => exact absurd phase (sound other)
  | finished => exact sound thrown
  | connecting | listening | running => nofun

/-- A thread that has not failed. -/
structure Thread.Works
    (initial : Session)
    (thread : Thread Adapter) : Prop extends
      thread.Tracks anything initial where
  sound : ∀ thrown, thread.phase ≠ .failed thrown

theorem Thread.Works.step
    (works : thread.Works initial)
    (healthy : turn.Healthy Adapter) :
    (thread.step turn).Works initial := by
  refine ⟨works.toTracks.step healthy.faithful, ?_⟩
  have turned :
      ∀ thrown,
        (finalState (thread.tcpLoopTurn turn)).phase ≠ .failed thrown := by
    rw [Thread.tcpLoopTurn_phase]
    exact works.sound
  rcases works.toTracks.step_cases healthy with
    ⟨_, _, same⟩ | ⟨_, _, same⟩ | ⟨_, same⟩
  · rw [same]
    exact turned
  · rw [same]
    exact loopLeft_not_failed healthy.shuts turned
  · rw [same]
    exact loopLeft_not_failed healthy.shuts works.sound

end Turns

/-- A socket opens, and waits for its connection. -/
theorem Opening.opens
    [Transport Adapter]
    [Prompt Adapter]
    (opening : Opening Adapter) :
    ∃ thread,
      opening.thread = .ok thread ∧
        (thread.phase = .listening ∨ thread.phase = .connecting) ∧
        thread.socket.threadData = {} ∧
        FdAdapter.fd thread.socket.datagramAdapter =
          FdAdapter.fd opening.datagramInterface := by
  unfold Opening.thread
  split
  · exact ⟨_, rfl, .inl rfl, rfl,
      (Prompt.listening _ _).trans (Prompt.configured _ _)⟩
  · rw [connect_eq]
    exact ⟨_, rfl, .inr rfl, rfl, Prompt.configured _ _⟩

/--
Whatever packets of a possible size arrive, opening a socket and running it does
not throw as long as the system calls succeed.
-/
theorem hostile_packets_harmless
    [Transport Adapter]
    [Prompt Adapter]
    (opening : Opening Adapter)
    (fresh : Transport.Holds [] opening.datagramInterface)
    (turns : List (Turn Packet))
    (healthy : ∀ turn ∈ turns, turn.Healthy Adapter) :
    ∃ thread,
      opening.thread = .ok thread ∧
        ∀ thrown,
          (Execution.run Thread.step thread turns).phase ≠
            .failed thrown := by
  obtain ⟨thread, opened, waits, _⟩ := opening.opens
  obtain ⟨rules, socket⟩ :=
    TCPSpongeSocketNetwork.follows_opening opened fresh anything
  refine ⟨thread, opened, ?_⟩
  have initially :
      thread.Works (Session.start opening.cTcp opening.random) :=
    ⟨⟨rules ▸ List.Sublist.refl _, socket⟩, by
      rcases waits with phase | phase <;> exact phase ▸ nofun⟩
  have works :=
    Execution.EveryStep.invariant
      (Thread.Works (Session.start opening.cTcp opening.random))
      (fun _ _ works healthy => works.step healthy)
      initially
      (Execution.EveryStep.of_forall_mem healthy thread)
  exact works.sound

section Example

open TCPSpongeSocketNetwork (easyKernel clientAndServer synPacket)

/--
A turn in which a packet arrives and everything can be written; the owner may
have written as well.
-/
def busyTurn
    (packet : Bytes)
    (typed : Option Bytes) : Turn Bytes where
  poll := .events fun idx =>
    ({ pollin := idx == 0 || typed.isSome, pollout := true },
      easyKernel (.ok packet) (typed.getD []))

theorem cooperates_easyKernel
    {packet : Bytes}
    (fits : packet.length ≤ largestPacket)
    (typed : Bytes) :
    (easyKernel (.ok packet) typed).Cooperates
      TCPOverIPv4OverTunFdAdapter where
  receives := ⟨packet, rfl, fits⟩
  reads _ := ⟨_, rfl, List.length_take_le _ _⟩
  writes size := ⟨size, rfl, Nat.le_refl size, id⟩
  shuts := rfl
  transmits _ := rfl

theorem healthy_busyTurn
    {packet : Bytes}
    (fits : packet.length ≤ largestPacket)
    (typed : Option Bytes) :
    (busyTurn packet typed).Healthy TCPOverIPv4OverTunFdAdapter where
  reported _ := ⟨⟨rfl, rfl⟩, cooperates_easyKernel fits _⟩
  transmits _ := rfl
  shuts := rfl

/-- A SYN between packets that nobody sent, and a read that returns nothing. -/
theorem hostile_packets_harmless_garbage :
    ∃ thread,
      (clientAndServer .b).thread = .ok thread ∧
        ∀ thrown,
          (Execution.run Thread.step thread
            [busyTurn [69, 255, 0] none,
              busyTurn (synPacket ++ synPacket) none,
              busyTurn synPacket none,
              busyTurn (synPacket.take 30) (some [97]),
              busyTurn [] (some [])]).phase ≠ .failed thrown := by
  refine hostile_packets_harmless (clientAndServer .b)
    (TCPSpongeSocketNetwork.fresh_both .b) _ ?_
  simp only [List.forall_mem_cons, List.not_mem_nil, false_imp_iff,
    implies_true, and_true]
  refine ⟨?_, ?_, ?_, ?_, ?_⟩ <;>
    exact healthy_busyTurn (by decide) _

end Example

end Sponge.TCPSpongeSocket
