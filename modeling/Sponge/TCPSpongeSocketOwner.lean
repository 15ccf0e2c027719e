import Sponge.TCPSpongeSocketSession

namespace Sponge

/-!
# What the flags of a socket say of its owner

A socket remembers in two flags that the outbound stream has been ended and that
the owner has been told the end of the inbound stream.  The flags say what
happened at the descriptor that the socket shares with its owner: the outbound
stream ends after a read that returned nothing or after a hangup, and the owner
is told by shutting the descriptor down for writing.
-/

namespace TCPSpongeSocket

variable {Adapter Packet : Type}

/-- What the flags say, where the descriptor may have hung up or not. -/
structure Attested
    (hungUp : Prop)
    (socket : TCPSpongeSocket Adapter) : Prop where
  usable : socket.threadData.closed = false
  ended :
    socket.threadData.eof = true →
    [] ∈ socket.threadData.received
  outbound :
    socket.outboundShutdown = true →
    socket.threadData.eof = true ∨ hungUp
  inbound :
    socket.inboundShutdown = true ↔ .wr ∈ socket.threadData.shutdowns

section Callbacks

variable {hungUp : Prop} {kernel : Kernel Packet}
variable {socket : TCPSpongeSocket Adapter}

theorem Attested.shutdownOutbound
    (attested : socket.Attested hungUp)
    (reason : socket.threadData.eof = true ∨ hungUp) :
    socket.shutdownOutbound.Attested hungUp :=
  ⟨attested.usable, attested.ended, fun _ => reason, attested.inbound⟩

/-- Whatever a read returns, nothing is ended that was not at its end. -/
theorem Attested.read
    (attested : socket.Attested hungUp)
    (limit : Nat)
    (answer : SystemCall Bytes)
    (tcp : TCPConnection) :
    Attested hungUp
      { socket with
        threadData := finalState (socket.threadData.read limit answer)
        tcp } := by
  obtain ⟨_, shutdowns, closed, eof⟩ :=
    socket.threadData.read_frame limit answer
  exact {
    usable := closed.trans attested.usable
    ended := FileDescriptor.read_ends attested.ended limit answer
    outbound := fun told => (attested.outbound told).imp_left eof
    inbound := shutdowns ▸ attested.inbound }

theorem Attested.readOutbound
    (attested : socket.Attested hungUp) :
    (finalState (socket.readOutbound kernel)).Attested hungUp := by
  have read :=
    attested.read socket.tcp.remainingOutboundCapacity
      (kernel.read
        (min FileDescriptor.bufferSize
          socket.tcp.remainingOutboundCapacity))
  unfold TCPSpongeSocket.readOutbound
  dsimp only
  cases came :
      socket.threadData.read socket.tcp.remainingOutboundCapacity
        (kernel.read
          (min FileDescriptor.bufferSize
            socket.tcp.remainingOutboundCapacity)) with
  | error thrown threadData =>
      rw [came] at read
      exact read socket.tcp
  | ok data threadData =>
      rw [came] at read
      dsimp only
      split
      · exact read _
      · split
        · rename_i atEnd
          exact (read _).shutdownOutbound (.inl atEnd)
        · exact read _

/-- The owner is told, and that is recorded. -/
theorem Attested.shutdownInbound
    (attested : socket.Attested hungUp)
    {threadData : FileDescriptor Bytes}
    {answer : SystemCall Unit}
    (done : socket.threadData.shutdown .wr answer = .ok () threadData) :
    Attested hungUp
      { socket with
        threadData
        inboundShutdown := true } := by
  obtain ⟨_, received, eof, closed⟩ :=
    socket.threadData.shutdown_frame .wr answer
  rcases socket.threadData.shutdown_cases .wr answer with
    ⟨thrown, failed⟩ | ⟨after, same, recorded⟩
  · cases failed.symm.trans done
  cases same.symm.trans done
  rw [done] at received eof closed
  change threadData.received = _ at received
  change threadData.eof = _ at eof
  change threadData.closed = _ at closed
  refine ⟨closed.trans attested.usable, ?_, ?_, ?_⟩
  · dsimp only
    rw [eof, received]
    exact attested.ended
  · dsimp only
    rw [eof]
    exact attested.outbound
  · dsimp only
    rw [recorded]
    simp

theorem Attested.writeInbound
    (attested : socket.Attested hungUp) :
    (finalState (socket.writeInbound kernel)).Attested hungUp := by
  have moved (chunk : Bytes) (tcp : TCPConnection) :
      Attested hungUp
        { socket with
          threadData := socket.threadData.took chunk
          tcp } :=
    ⟨attested.usable, attested.ended, attested.outbound,
      attested.inbound⟩
  simp only [TCPSpongeSocket.writeInbound]
  generalize
    socket.tcp.inboundStream.peekOutput
      (min 65536 socket.tcp.inboundStream.bufferSize) = buffer
  rcases socket.threadData.write_once (.ofString buffer)
      (kernel.write buffer.length) with
    ⟨thrown, threw⟩ | ⟨count, _, _, wrote⟩
  · rw [threw]
    exact attested
  rw [wrote]
  dsimp only
  split
  · exact moved _ _
  split
  · rcases FileDescriptor.shutdown_cases
        (socket.threadData.took
          ((BufferViewList.ofString buffer).content.take count))
        .wr kernel.shutdown with
      ⟨thrown, failed⟩ | ⟨after, done, _⟩
    · simp only [failed]
      exact moved _ _
    · simp only [done]
      exact (moved _ _).shutdownInbound done
  · exact moved _ _

variable [FdAdapter Adapter Packet]

theorem Attested.receiveSegment
    (attested : socket.Attested hungUp) :
    (finalState (socket.receiveSegment kernel)).Attested hungUp := by
  unfold TCPSpongeSocket.receiveSegment
  split <;>
  · exact ⟨attested.usable, attested.ended, attested.outbound,
      attested.inbound⟩

theorem Attested.sendSegments
    (attested : socket.Attested hungUp) :
    (finalState (socket.sendSegments kernel)).Attested hungUp := by
  rw [TCPSpongeSocket.sendSegments, finalState_ofPart]
  exact ⟨attested.usable, attested.ended, attested.outbound,
    attested.inbound⟩

end Callbacks

section Turns

variable [FdAdapter Adapter Packet]
variable {hungUp : Prop} {thread : Thread Adapter} {turn : Turn Packet}

theorem keeps_attested
    {rule : Rule Adapter Packet}
    (member : rule ∈ rules) :
    rule.KeepsConnected (Attested hungUp) (fun _ _ => True)
      (fun _ => True) := by
  simp only [rules, List.mem_cons, List.not_mem_nil, or_false] at member
  rcases member with rfl | rfl | rfl | rfl
  · exact ⟨fun _ _ _ => trivial, fun _ attested _ => attested,
      fun _ _ attested _ _ => attested.receiveSegment⟩
  · refine ⟨fun _ _ _ => trivial, ?_,
      fun _ _ attested _ _ => attested.readOutbound⟩
    rintro socket attested (⟨_, atEnd⟩ | closed)
    · exact attested.shutdownOutbound (.inl atEnd)
    · cases attested.usable.symm.trans closed
  · exact ⟨fun _ _ _ => trivial, fun _ attested _ => attested,
      fun _ _ attested _ _ => attested.writeInbound⟩
  · exact ⟨fun _ _ _ => trivial, fun _ attested _ => attested,
      fun _ _ attested _ _ => attested.sendSegments⟩

/-- A hangup is reported for the descriptor of the owner. -/
def Thread.OwnerHangsUp
    (thread : Thread Adapter)
    (turn : Turn Packet) : Prop :=
  turn.poll.HangsUp thread.rules thread.socket outboundRule

/-- A cancellation after a hangup. -/
theorem attested_cancel
    {rule : Rule Adapter Packet}
    (member : rule ∈ rules)
    (hangs : rule = outboundRule → hungUp)
    {socket : TCPSpongeSocket Adapter}
    (attested : socket.Attested hungUp) :
    (rule.cancel socket).Attested hungUp := by
  simp only [rules, List.mem_cons, List.not_mem_nil, or_false] at member
  rcases member with rfl | rfl | rfl | rfl
  · exact attested
  · exact attested.shutdownOutbound (.inr (hangs rfl))
  · exact attested
  · exact attested

/-- A thread with some of the rules whose flags say what happened. -/
structure Thread.Attested
    (hungUp : Prop)
    (thread : Thread Adapter) : Prop where
  fewer : thread.rules.Sublist TCPSpongeSocket.rules
  socket : TCPSpongeSocket.Attested hungUp thread.socket

theorem Thread.Attested.tcpLoopTurn
    (attested : thread.Attested hungUp)
    (hangs : thread.OwnerHangsUp turn → hungUp) :
    (finalState (thread.tcpLoopTurn turn)).Attested hungUp := by
  have fewer :=
    (EventLoop.waitNextEvent_sublist turn.poll thread.rules
      thread.socket).trans attested.fewer
  have socket :
      (finalState
        (EventLoop.waitNextEvent turn.poll thread.rules
          thread.socket)).2.Attested hungUp := by
    refine @EventLoop.waitNextEvent_connected _ _ _ _ _ _
      (fun _ _ => True) (fun _ => True) ?_
      (fun _ member => keeps_attested (attested.fewer.subset member))
      (fun rule member reported socket => attested_cancel
        (attested.fewer.subset member) ?_)
      ?_ attested.socket
    · cases turn.poll <;> first | trivial | exact fun _ => trivial
    · rintro rfl
      exact hangs reported
    · exact List.pairwise_of_forall fun _ _ =>
        ⟨fun _ _ => trivial, fun _ _ => trivial, fun _ _ _ => trivial⟩
  simp only [Thread.tcpLoopTurn]
  cases waiting :
      EventLoop.waitNextEvent turn.poll thread.rules thread.socket with
  | error thrown next =>
      rw [waiting] at fewer socket
      exact ⟨fewer, socket⟩
  | ok ret next =>
      rw [waiting] at fewer socket
      have ticked (tcp : TCPConnection) (datagramAdapter : Adapter) :
          TCPSpongeSocket.Attested hungUp
            { next.2 with tcp, datagramAdapter } :=
        ⟨socket.usable, socket.ended, socket.outbound, socket.inbound⟩
      dsimp only
      split
      · exact ⟨fewer, socket⟩
      split
      · split
        · exact ⟨fewer, ticked _ _⟩
        · exact ⟨fewer, ticked _ _⟩
      · exact ⟨fewer, socket⟩

theorem Thread.Attested.step
    (attested : thread.Attested hungUp)
    (hangs : thread.OwnerHangsUp turn → hungUp) :
    (thread.step turn).Attested hungUp := by
  have left :
      ∀ {thread : Thread Adapter},
        thread.Attested hungUp →
        (thread.loopLeft turn).Attested hungUp := by
    intro thread attested
    refine ⟨?_, ?_⟩
    · rw [Thread.loopLeft_rules]
      exact attested.fewer
    · rw [Thread.loopLeft_socket]
      exact attested.socket
  have turned := attested.tcpLoopTurn hangs
  unfold Thread.step
  split
  · cases looping : thread.tcpLoopTurn turn with
    | error thrown next =>
        rw [looping] at turned
        exact ⟨turned.fewer, turned.socket⟩
    | ok goesOn next =>
        rw [looping] at turned
        cases goesOn with
        | true => exact turned
        | false => exact left turned
  · exact left attested

end Turns

end TCPSpongeSocket

end Sponge
