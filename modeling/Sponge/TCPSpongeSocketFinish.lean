import Sponge.TCPConnectionState
import Sponge.TCPNetworkRecovery
import Sponge.TCPSpongeSocketService

namespace Sponge

/-!
# A socket that finishes

A socket whose loop is left by itself has nothing to do: its connection is over,
all that was received has been written to the owner, and every segment has been
sent.  Unless the connection was reset, the streams of both owners have then
been carried to their ends.
-/

namespace TCPSpongeSocket

open TCPConnection (Op Session)

variable {Adapter Packet : Type} [FdAdapter Adapter Packet]

/-- The descriptors can still be used. -/
structure Intact (socket : TCPSpongeSocket Adapter) : Prop where
  hears : (FdAdapter.fd socket.datagramAdapter).eof = false
  adapter : (FdAdapter.fd socket.datagramAdapter).closed = false
  owner : socket.threadData.closed = false

/-- The kernel cooperates, and never hands over an empty packet. -/
structure Kernel.Serves
    (Adapter : Type)
    {Packet : Type}
    [FdAdapter Adapter Packet]
    (kernel : Kernel Packet) : Prop extends
      kernel.Cooperates Adapter where
  nonempty :
    ∀ packet,
      kernel.receive = .ok packet →
      FdAdapter.content Adapter packet ≠ []

/-- A healthy turn in which no descriptor hangs up and nothing stops the loop. -/
structure Turn.Undisturbed
    (Adapter : Type)
    {Packet : Type}
    [FdAdapter Adapter Packet]
    (turn : Turn Packet) : Prop extends
      turn.Healthy Adapter where
  served : turn.poll.Reports fun entry => entry.2.Serves Adapter
  connected : turn.poll.Reports fun entry => entry.1.pollhup = false
  uninterrupted : turn.poll ≠ .interrupted
  goesOn : turn.abort = false

theorem Unread.intact
    {before after : TCPSpongeSocket Adapter}
    (unread : before.Unread after)
    (intact : before.Intact) :
    after.Intact where
  hears := unread.adapter.eof.trans intact.hears
  adapter := unread.adapter.closed.trans intact.adapter
  owner := unread.closed.trans intact.owner

/-- Cancelling a rule does not change what the rules before it want. -/
theorem interest_undisturbed :
    (rules : List (Rule Adapter Packet)).Pairwise fun earlier later =>
      ∀ socket : TCPSpongeSocket Adapter,
        earlier.interest (later.cancel socket) =
          earlier.interest socket := by
  simp only [rules, List.pairwise_cons, List.mem_cons,
    List.not_mem_nil, or_false, forall_eq_or_imp, forall_eq,
    List.Pairwise.nil, and_true, false_imp_iff, implies_true]
  exact ⟨⟨fun _ => rfl, fun _ => rfl, fun _ => rfl⟩,
    ⟨fun _ => rfl, fun _ => rfl⟩, fun _ => rfl⟩

/-- There is nothing left to do. -/
structure Quiet (socket : TCPSpongeSocket Adapter) : Prop where
  inactive : socket.tcp.active = false
  drained : socket.tcp.inboundStream.bufferEmpty = true
  shut :
    (socket.tcp.inboundStream.eof || socket.tcp.inboundStream.error) =
      true →
    socket.inboundShutdown = true
  sent : socket.tcp.segmentsOut = []

/-- The rules that last as long as the thread. -/
def lastingRules : List (Rule Adapter Packet) :=
  [receiveRule, inboundRule, sendRule]

theorem quiet_of_uninterested
    {left : List (Rule Adapter Packet)}
    {socket : TCPSpongeSocket Adapter}
    (retained : lastingRules ⊆ left)
    (uninterested : ∀ rule ∈ left, rule.interest socket = false) :
    socket.Quiet := by
  have receive := uninterested receiveRule (retained (.head _))
  have inbound := uninterested inboundRule (retained (.tail _ (.head _)))
  have send :=
    uninterested sendRule (retained (.tail _ (.tail _ (.head _))))
  simp only [receiveRule] at receive
  simp only [inboundRule, Bool.or_eq_false_iff, Bool.not_eq_false',
    Bool.and_eq_false_iff] at inbound
  simp only [sendRule, Bool.not_eq_false', List.isEmpty_iff] at send
  refine ⟨receive, inbound.1, fun isOver => ?_, send⟩
  refine inbound.2.resolve_left fun unfinished => ?_
  rw [unfinished.1, unfinished.2] at isOver
  cases isOver

section Phases

variable {thread : Thread Adapter} {turn : Turn Packet}

/-- A thread that is not in a loop is only finished if it was before. -/
theorem Thread.finished_of_left
    (left : thread.condition = false)
    (finished : (thread.loopLeft turn).phase = .finished) :
    thread.phase = .finished := by
  unfold Thread.loopLeft at finished
  cases phase : thread.phase with
  | connecting | listening =>
      rw [phase] at finished
      cases finished
  | running =>
      rw [Thread.condition, phase] at left
      cases left
  | finished => rfl
  | failed thrown =>
      rw [phase] at finished
      exact phase.symm.trans finished

end Phases

variable [Transport Adapter] {initial : Session}

/-- What holds while nothing disturbs the socket. -/
structure Serviceable
    (initial : Session)
    (socket : TCPSpongeSocket Adapter) : Prop where
  tracks : socket.Tracks anything initial
  intact : socket.Intact

theorem lives_of_lasting
    {rule : Rule Adapter Packet}
    (member : rule ∈ lastingRules) :
    rule.Lives (Serviceable initial) := by
  simp only [lastingRules, List.mem_cons, List.not_mem_nil, or_false]
    at member
  rcases member with rfl | rfl | rfl
  · intro socket held
    refine ⟨fun atEnd => ?_, held.intact.adapter⟩
    rw [show (receiveRule.fd socket).eof = false from held.intact.hears]
      at atEnd
    cases atEnd.2
  · exact fun socket held => ⟨nofun, held.intact.owner⟩
  · exact fun socket held => ⟨nofun, held.intact.adapter⟩

variable [Prompt Adapter]

theorem keeps_serviceable
    {rule : Rule Adapter Packet}
    (member : rule ∈ rules) :
    rule.Keeps (Serviceable initial) Ready (Kernel.Serves Adapter) := by
  have attentive :
      rule.Attentive (Tracks anything initial) Ready
        (Kernel.Cooperates Adapter) :=
    attentive_rules member
  have stays
      (intact :
        ∀ socket : TCPSpongeSocket Adapter,
          socket.Intact → (rule.cancel socket).Intact)
      (called :
        ∀ kernel (socket : TCPSpongeSocket Adapter),
          Serviceable initial socket →
          Ready rule socket →
          kernel.Serves Adapter →
          (finalState (rule.callback kernel socket)).Intact) :
      rule.Keeps (Serviceable initial) Ready (Kernel.Serves Adapter) :=
    ⟨fun socket held => attentive.asked socket held.tracks,
      fun socket held =>
        ⟨attentive.cancelled socket held.tracks,
          intact socket held.intact⟩,
      fun kernel socket held ready serves =>
        ⟨attentive.called kernel socket held.tracks ready
            serves.toCooperates,
          called kernel socket held ready serves⟩⟩
  simp only [rules, List.mem_cons, List.not_mem_nil, or_false] at member
  rcases member with rfl | rfl | rfl | rfl
  · refine stays (fun _ intact => intact) ?_
    intro kernel socket held _ serves
    obtain ⟨_, owner, packet, received, once⟩ :=
      held.tracks.receiveSegment_returns serves.toCooperates
    have nonempty := serves.nonempty packet received
    exact ⟨(once.eof nonempty).trans held.intact.hears,
      once.closed.trans held.intact.adapter,
      (congrArg (·.closed) owner).trans held.intact.owner⟩
  · refine stays (fun _ intact => ⟨intact.1, intact.2, intact.3⟩) ?_
    intro kernel socket held ready serves
    exact (held.tracks.readOutbound_returns serves.toCooperates
      (isOpen_of_ready ready)).2.1.intact held.intact
  · refine stays (fun _ intact => intact) ?_
    intro kernel socket held _ serves
    exact (held.tracks.writeInbound_returns
      serves.toCooperates).2.1.intact held.intact
  · refine stays (fun _ intact => intact) ?_
    intro kernel socket held _ serves
    exact (held.tracks.sendSegments_returns
      serves.toCooperates).2.1.intact held.intact

section Turns

variable {thread : Thread Adapter} {turn : Turn Packet}

/-- A thread that nothing has disturbed so far. -/
structure Thread.Undisturbed
    (initial : Session)
    (thread : Thread Adapter) : Prop extends
      thread.Works initial where
  intact : thread.socket.Intact
  retained : lastingRules ⊆ thread.rules
  quiet : thread.phase = .finished → thread.socket.Quiet

/-- What a turn of the loop leaves. -/
theorem Thread.Undisturbed.tcpLoopTurn
    (undisturbed : thread.Undisturbed initial)
    (calm : turn.Undisturbed Adapter) :
    let next := finalState (thread.tcpLoopTurn turn)
    next.socket.Intact ∧
      lastingRules ⊆ next.rules ∧
      (returned (thread.tcpLoopTurn turn) = some false →
        next.socket.Quiet) := by
  have fewer := undisturbed.fewer
  have keeps :
      ∀ rule ∈ thread.rules,
        rule.Keeps (Serviceable initial) Ready (Kernel.Serves Adapter) :=
    fun rule member => keeps_serviceable (fewer.subset member)
  have initially : Serviceable initial thread.socket :=
    ⟨undisturbed.socket, undisturbed.intact⟩
  have serviceable :=
    EventLoop.waitNextEvent_keeps calm.served keeps
      (undisturbed_rules.sublist fewer) initially
  have retained :
      lastingRules ⊆
        (finalState
          (EventLoop.waitNextEvent turn.poll thread.rules
            thread.socket)).1 :=
    fun rule member =>
      EventLoop.waitNextEvent_retains calm.connected
        (fun rule member => (keeps rule member).cancelled) initially
        (undisturbed.retained member) (lives_of_lasting member)
  have quiet
      (exits :
        returned
            (EventLoop.waitNextEvent turn.poll thread.rules
              thread.socket) =
          some .exit) :=
    quiet_of_uninterested retained
      (EventLoop.waitNextEvent_quiet (interest_undisturbed.sublist fewer)
        exits calm.uninterrupted)
  unfold Thread.tcpLoopTurn
  cases waiting :
      EventLoop.waitNextEvent turn.poll thread.rules thread.socket with
  | error thrown next =>
      rw [waiting] at serviceable retained
      exact ⟨serviceable.intact, retained, nofun⟩
  | ok ret next =>
      rw [waiting] at serviceable retained quiet
      change Serviceable initial next.2 at serviceable
      dsimp only
      split
      · rename_i stops
        rw [calm.goesOn, or_iff_left (by nofun)] at stops
        rw [stops] at quiet
        exact ⟨serviceable.intact, retained, fun _ => quiet rfl⟩
      split
      · obtain ⟨session, _, follows⟩ := serviceable.tracks
        obtain ⟨returns, unread⟩ :=
          Prompt.tick follows.carried calm.transmits turn.elapsed
        have intact :
            Intact
              { next.2 with
                tcp := next.2.tcp.tick turn.elapsed
                datagramAdapter :=
                  finalState
                    (FdAdapter.tick turn.elapsed turn.transmit
                      next.2.datagramAdapter) } :=
          Unread.intact ⟨unread, rfl⟩ serviceable.intact
        rw [eq_ok_of_returned returns]
        exact ⟨intact, retained, nofun⟩
      · exact ⟨serviceable.intact, retained, nofun⟩

theorem Thread.Undisturbed.step
    (undisturbed : thread.Undisturbed initial)
    (calm : turn.Undisturbed Adapter) :
    (thread.step turn).Undisturbed initial := by
  have works := undisturbed.toWorks.step calm.toHealthy
  obtain ⟨intact, retained, quiet⟩ := undisturbed.tcpLoopTurn calm
  have phase := Thread.tcpLoopTurn_phase turn thread
  rcases undisturbed.step_cases calm.toHealthy with
    ⟨running, _, same⟩ | ⟨running, stopped, same⟩ | ⟨left, same⟩
  · refine ⟨works, same ▸ intact, same ▸ retained, ?_⟩
    rw [same, phase]
    intro finished
    rw [Thread.condition, finished] at running
    cases running
  · rw [same] at works ⊢
    refine ⟨works, ?_, ?_, fun _ => ?_⟩
    · rw [Thread.loopLeft_socket]
      exact intact
    · rw [Thread.loopLeft_rules]
      exact retained
    · rw [Thread.loopLeft_socket]
      exact quiet stopped
  · rw [same] at works ⊢
    refine ⟨works, ?_, ?_, ?_⟩
    · rw [Thread.loopLeft_socket]
      exact undisturbed.intact
    · rw [Thread.loopLeft_rules]
      exact undisturbed.retained
    · rw [Thread.loopLeft_socket]
      exact fun finished =>
        undisturbed.quiet (Thread.finished_of_left left finished)

theorem Opening.undisturbed
    {opening : Opening Adapter}
    (opened : opening.thread = .ok thread)
    (fresh : Transport.Holds [] opening.datagramInterface)
    (hears : (FdAdapter.fd opening.datagramInterface).eof = false)
    (usable : (FdAdapter.fd opening.datagramInterface).closed = false) :
    thread.Undisturbed
      (Session.start opening.cTcp opening.random) := by
  obtain ⟨rules, socket⟩ :=
    TCPSpongeSocketNetwork.follows_opening opened fresh anything
  obtain ⟨_, same, waits, owner, adapter⟩ := opening.opens
  cases opened.symm.trans same
  have lasting :
      lastingRules ⊆ (TCPSpongeSocket.rules : List (Rule Adapter Packet)) :=
    List.Sublist.subset (.cons_cons _ (.cons _ (.refl _)))
  refine {
    fewer := rules ▸ List.Sublist.refl _
    socket
    sound := ?_
    intact := ⟨adapter ▸ hears, adapter ▸ usable, owner ▸ rfl⟩
    retained := rules ▸ lasting
    quiet := ?_ }
  · rcases waits with phase | phase <;> exact phase ▸ nofun
  · rcases waits with phase | phase <;> exact phase ▸ nofun

end Turns

end TCPSpongeSocket

namespace TCPSpongeSocketNetwork

open TCPConnection (Session)
open TCPSpongeSocket (Opening)

variable {Adapter Packet : Type} [FdAdapter Adapter Packet]
variable [Transport Adapter]
variable {cfg : Side → TCPConfig} {random : Side → WrappingInt32}
variable {network : TCPSpongeSocketNetwork Adapter}

theorem undisturbed_step
    [Prompt Adapter]
    {initial : Side → Session}
    {event : Event Packet}
    (undisturbed : ∀ side, (network side).Undisturbed (initial side))
    (calm : event.turn.Undisturbed Adapter)
    (side : Side) :
    (network.step event side).Undisturbed (initial side) := by
  unfold TCPSpongeSocketNetwork.step
  split
  · exact (undisturbed side).step calm
  · exact undisturbed side

/--
A connection that has ended without a reset has heard its peer to the end, and
its peer has assembled all that it was given to send.
-/
theorem Joined.concluded
    (joined : Joined cfg random network)
    (small :
      ∀ side,
        (network side).socket.threadData.received.flatten.length + 2 <
          2 ^ 32)
    {side : Side}
    (inactive : (network side).socket.tcp.active = false)
    (clean : (network side).socket.tcp.inboundStream.error = false) :
    let own := (network side).socket
    let peer := (network side.other).socket
    own.tcp.inboundStream.inputEnded = true ∧
      own.outboundShutdown = true ∧
      peer.tcp.inboundStream.inputEnded = true ∧
      peer.threadData.sent.flatten ++ peer.tcp.inboundStream.contents =
        own.threadData.received.flatten := by
  intro own peer
  obtain ⟨calls, delivered, follows⟩ := joined
  have ownFollows := (follows side).2
  have peerFollows := (follows side.other).2
  have ends :
      (TCPNetwork.after cfg random calls side).connection.Ends := by
    rw [TCPNetwork.after, TCPNetwork.run_apply]
    exact Session.ends_after (cfg side) (random side) _
  have connection : own.tcp = _ := ownFollows.connection
  have peerConnection : peer.tcp = _ := peerFollows.connection
  rw [ownFollows.connection] at inactive clean
  obtain ⟨ended, finSent, acked⟩ :=
    (ends.concluded inactive).resolve_left (Bool.eq_false_iff.mp clean)
  obtain ⟨log, otherLog, tracked, flow⟩ :=
    flow_after delivered (fun side => (follows side).2) small side
  have nothingOutstanding :
      (TCPNetwork.after cfg random calls
        side).connection.sender.bytesInFlight = 0 := by
    have inFlight := tracked.queued.bytesInFlight_eq
    change
      (TCPNetwork.after cfg random calls
        side).connection.sender.bytesInFlight = _ at inFlight
    rw [inFlight]
    exact Nat.sub_eq_zero_of_le (Nat.le_of_eq acked.symm)
  have emptied :=
    (tracked.queued.bytesInFlight_eq_zero_iff tracked.logged).mp
      nothingOutstanding
  obtain ⟨assembled, heardEnd⟩ :=
    flow.complete_of_finished tracked ⟨emptied, .inl finSent⟩
  have endFlag := tracked.logged.ended finSent
  have outEnded := (Bool.and_eq_true_iff.mp endFlag).1
  rw [connection, peerConnection]
  refine ⟨ended, ownFollows.outbound.trans outEnded, heardEnd outEnded, ?_⟩
  rw [show peer.threadData.sent.flatten = _ from peerFollows.taken,
    show own.threadData.received.flatten = _ from ownFollows.written]
  exact assembled

/--
A socket that has finished without a reset, in a run that disturbed neither
socket, has given its owner all that the other owner wrote before ending the
stream, and has shut the owner's stream down.  The other connection has assembled
all that its own owner wrote before ending the stream.
-/
theorem finished_socket_served_both
    [Prompt Adapter]
    (opening : Side → Opening Adapter)
    (network : TCPSpongeSocketNetwork Adapter)
    (opened : ∀ side, (opening side).thread = .ok (network side))
    (fresh : ∀ side, Transport.Holds [] (opening side).datagramInterface)
    (usable :
      ∀ side,
        (FdAdapter.fd (opening side).datagramInterface).eof = false ∧
          (FdAdapter.fd (opening side).datagramInterface).closed = false)
    (events : List (Event Packet))
    (carried : Execution.EveryStep step Carries network events)
    (calm : ∀ event ∈ events, event.turn.Undisturbed Adapter)
    (small :
      ∀ side,
        (Execution.run step network events
          side).socket.threadData.received.flatten.length + 2 < 2 ^ 32)
    (side : Side)
    (finished :
      (Execution.run step network events side).phase = .finished)
    (clean :
      (Execution.run step network events
        side).socket.tcp.inboundStream.error = false) :
    let own := (Execution.run step network events side).socket
    let peer := (Execution.run step network events side.other).socket
    (own.inboundShutdown = true ∧
      .wr ∈ own.threadData.shutdowns ∧
      peer.outboundShutdown = true ∧
      (peer.threadData.eof = true ∧ [] ∈ peer.threadData.received) ∧
      own.threadData.sent.flatten = peer.threadData.received.flatten) ∧
      (own.outboundShutdown = true ∧
        (own.threadData.eof = true ∧ [] ∈ own.threadData.received) ∧
        peer.tcp.inboundStream.inputEnded = true ∧
        peer.threadData.sent.flatten ++
            peer.tcp.inboundStream.contents =
          own.threadData.received.flatten) ∧
      own.tcp.segmentsOut = [] := by
  intro own peer
  have both :=
    Execution.EveryStep.invariant
      (fun network : TCPSpongeSocketNetwork Adapter =>
        Joined (fun side => (opening side).cTcp)
            (fun side => (opening side).random) network ∧
          ∀ side,
            (network side).Undisturbed
              (Session.start (opening side).cTcp (opening side).random))
      (fun network event held allowed =>
        ⟨held.1.step allowed.1, undisturbed_step held.2 allowed.2⟩)
      ⟨joined_start opened fresh, fun side =>
        Opening.undisturbed (opened side) (fresh side) (usable side).1
          (usable side).2⟩
      (carried.and (Execution.EveryStep.of_forall_mem calm network))
  obtain ⟨joined, undisturbed⟩ := both
  have quiet := (undisturbed side).quiet finished
  obtain ⟨ended, ownEnded, heardEnd, assembled⟩ :=
    joined.concluded small quiet.inactive clean
  have isShut : own.inboundShutdown = true :=
    quiet.shut (Bool.or_eq_true_iff.mpr
      (.inl (Bool.and_eq_true_iff.mpr ⟨ended, quiet.drained⟩)))
  have served := (joined.served small side.other).2
  rw [Side.other_other] at served
  obtain ⟨peerEnded, all⟩ := served isShut clean
  have connected (side : Side) :=
    ownerConnected_of_reports
      (fun event member => (calm event member).connected) side network
  have recorded (side : Side) := attested_after (opened side) events
  exact ⟨⟨isShut, (recorded side).1.mp isShut, peerEnded,
      (recorded side.other).2 (connected side.other) peerEnded, all⟩,
    ⟨ownEnded, (recorded side).2 (connected side) ownEnded, heardEnd,
      assembled⟩,
    quiet.sent⟩

section Example

open TCPSpongeSocket (busyTurn)

/-- Bytes that are not an IPv4 datagram. -/
def noise : Bytes := [0]

theorem arrives_noise
    (peer : TCPOverIPv4OverTunFdAdapter) :
    Arrives peer noise := by
  refine .inr fun packet same transmitted adapter seg returns => ?_
  change packet = noise at same
  subst same
  have nothing : returned (adapter.read (.ok noise)) = some none := rfl
  cases nothing.symm.trans returns

theorem carries_busyTurn
    {network : TCPSpongeSocketNetwork TCPOverIPv4OverTunFdAdapter}
    {side : Side}
    {packet : Bytes}
    (arrives :
      Arrives (network side.other).socket.datagramAdapter packet)
    (typed : Option Bytes) :
    Carries network ⟨side, busyTurn packet typed⟩ := by
  intro idx
  refine ⟨?_, ?_⟩
  · intro other received
    cases received
    exact arrives
  · intro size bytes read
    cases read
    exact List.length_take_le _ _

theorem undisturbed_busyTurn
    {packet : Bytes}
    (fits : packet.length ≤ largestPacket)
    (nonempty : packet ≠ [])
    (typed : Option Bytes) :
    (busyTurn packet typed).Undisturbed TCPOverIPv4OverTunFdAdapter where
  toHealthy := TCPSpongeSocket.healthy_busyTurn fits typed
  served _ := {
    toCooperates := TCPSpongeSocket.cooperates_easyKernel fits _
    nonempty := by
      intro other received
      cases received
      exact nonempty }
  connected _ := rfl
  uninterrupted := nofun
  goesOn := rfl

/-- One byte from the server. -/
def answerPacket : Bytes :=
  [69, 0, 0, 41, 0, 0, 64, 0, 128, 6, 134, 199, 169, 254, 144, 1, 169,
    254, 144, 9, 19, 136, 15, 160, 0, 0, 0, 10, 0, 0, 0, 11, 80, 16, 250,
    0, 187, 141, 0, 0, 99]

/-- The FIN of the server. -/
def answerFinPacket : Bytes :=
  [69, 0, 0, 40, 0, 0, 64, 0, 128, 6, 134, 200, 169, 254, 144, 1, 169,
    254, 144, 9, 19, 136, 15, 160, 0, 0, 0, 11, 0, 0, 0, 11, 80, 17, 250,
    0, 30, 141, 0, 0]

/-- The client acknowledges the FIN of the server. -/
def lastAckPacket : Bytes :=
  [69, 0, 0, 40, 0, 0, 64, 0, 128, 6, 134, 200, 169, 254, 144, 9, 169,
    254, 144, 1, 15, 160, 19, 136, 0, 0, 0, 11, 0, 0, 0, 12, 80, 16, 249,
    255, 30, 142, 0, 0]

/-- The client sends two bytes and ends; the server answers with one and ends. -/
def askAndAnswer : List (Event Bytes) := [
  ⟨.a, busyTurn noise none⟩,
  ⟨.b, busyTurn synPacket none⟩,
  ⟨.b, busyTurn noise none⟩,
  ⟨.a, busyTurn synAckPacket none⟩,
  ⟨.a, busyTurn noise none⟩,
  ⟨.a, busyTurn noise (some [97, 98])⟩,
  ⟨.a, busyTurn noise (some [])⟩,
  ⟨.a, busyTurn noise none⟩,
  ⟨.b, busyTurn damagedPacket.before none⟩,
  ⟨.b, busyTurn noise none⟩,
  ⟨.b, busyTurn finPacket none⟩,
  ⟨.b, busyTurn noise (some [99])⟩,
  ⟨.b, busyTurn noise (some [])⟩,
  ⟨.b, busyTurn noise none⟩,
  ⟨.a, busyTurn answerPacket none⟩,
  ⟨.a, busyTurn answerFinPacket none⟩,
  ⟨.a, busyTurn noise none⟩,
  ⟨.b, busyTurn lastAckPacket none⟩,
  ⟨.b, busyTurn noise none⟩]

theorem finished_socket_served_both_server :
    let network := Execution.run step openedBoth askAndAnswer
    let own := (network .b).socket
    let peer := (network (Side.other .b)).socket
    (network .b).phase = .finished ∧
      .wr ∈ own.threadData.shutdowns ∧
      (peer.threadData.eof = true ∧ own.threadData.eof = true) ∧
      own.threadData.sent.flatten = [97, 98] ∧
      own.threadData.sent.flatten = peer.threadData.received.flatten ∧
      peer.threadData.sent.flatten ++
          peer.tcp.inboundStream.contents =
        own.threadData.received.flatten := by
  have carried :
      Execution.EveryStep step Carries openedBoth askAndAnswer :=
    ⟨carries_busyTurn (arrives_noise _) _,
      carries_busyTurn (.inl ⟨_, by decide +kernel, .inl rfl⟩) _,
      carries_busyTurn (arrives_noise _) _,
      carries_busyTurn (.inl ⟨_, by decide +kernel, .inl rfl⟩) _,
      carries_busyTurn (arrives_noise _) _,
      carries_busyTurn (arrives_noise _) _,
      carries_busyTurn (arrives_noise _) _,
      carries_busyTurn (arrives_noise _) _,
      carries_busyTurn (.inl ⟨_, by decide +kernel, .inl rfl⟩) _,
      carries_busyTurn (arrives_noise _) _,
      carries_busyTurn (.inl ⟨_, by decide +kernel, .inl rfl⟩) _,
      carries_busyTurn (arrives_noise _) _,
      carries_busyTurn (arrives_noise _) _,
      carries_busyTurn (arrives_noise _) _,
      carries_busyTurn (.inl ⟨_, by decide +kernel, .inl rfl⟩) _,
      carries_busyTurn (.inl ⟨_, by decide +kernel, .inl rfl⟩) _,
      carries_busyTurn (arrives_noise _) _,
      carries_busyTurn (.inl ⟨_, by decide +kernel, .inl rfl⟩) _,
      carries_busyTurn (arrives_noise _) _,
      trivial⟩
  have calm :
      ∀ event ∈ askAndAnswer,
        event.turn.Undisturbed TCPOverIPv4OverTunFdAdapter := by
    simp only [askAndAnswer, List.forall_mem_cons, List.not_mem_nil,
      false_imp_iff, implies_true, and_true]
    refine ⟨?_, ?_, ?_, ?_, ?_, ?_, ?_, ?_, ?_, ?_, ?_, ?_, ?_, ?_, ?_, ?_,
      ?_, ?_, ?_⟩ <;>
      exact undisturbed_busyTurn (by decide) (by decide) _
  have outcome :
      ((Execution.run step openedBoth askAndAnswer
          .a).socket.threadData.received.flatten.length + 2 < 2 ^ 32 ∧
        (Execution.run step openedBoth askAndAnswer
          .b).socket.threadData.received.flatten.length + 2 < 2 ^ 32) ∧
        (Execution.run step openedBoth askAndAnswer .b).phase =
          .finished ∧
        (Execution.run step openedBoth askAndAnswer
          .b).socket.tcp.inboundStream.error = false ∧
        (Execution.run step openedBoth askAndAnswer
          .b).socket.threadData.sent.flatten = [97, 98] := by
    decide +kernel
  obtain ⟨short, finished, clean, given⟩ := outcome
  have small :
      ∀ side,
        (Execution.run step openedBoth askAndAnswer
          side).socket.threadData.received.flatten.length + 2 <
            2 ^ 32 := by
    intro side
    cases side with
    | a => exact short.1
    | b => exact short.2
  have served :=
    finished_socket_served_both clientAndServer openedBoth opened_both
      fresh_both (fun side => by cases side <;> exact ⟨rfl, rfl⟩)
      askAndAnswer carried calm small .b finished clean
  dsimp only at served ⊢
  obtain ⟨⟨_, isShut, _, peerEnded, all⟩, ⟨_, ownEnded, _, assembled⟩, _⟩ :=
    served
  exact ⟨finished, isShut, ⟨peerEnded.1, ownEnded.1⟩, given, all, assembled⟩

end Example

end TCPSpongeSocketNetwork

end Sponge
