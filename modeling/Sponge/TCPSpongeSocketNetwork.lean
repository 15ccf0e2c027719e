import Sponge.TCPNetwork
import Sponge.TCPSpongeSocketOwner

namespace Sponge

/-!
# Two sockets and a network of packets

The threads of two sockets take turns in any order.  The network between their
adapters may lose, repeat, delay and reorder packets, and it may damage them as
long as the adapters notice.  What one owner is given is still what the other
owner wrote.
-/

namespace TCPNetwork

open TCPConnection (Op Session)

/-- Calls on one side that hear what the other side has placed. -/
theorem everyStep_on_side
    {network : TCPNetwork}
    {side : Side}
    {ops : List Op}
    (hears : ∀ op ∈ ops, op.Hears (· ∈ (network side.other).placed)) :
    Execution.EveryStep step Delivers network (ops.map (Call.mk side)) := by
  induction ops generalizing network with
  | nil =>
      trivial
  | cons op rest inductionHypothesis =>
      have delivers : Delivers network ⟨side, op⟩ := by
        have heard := hears op (.head _)
        cases op with
        | segmentReceived order seg => exact heard
        | _ => trivial
      refine ⟨delivers, inductionHypothesis ?_⟩
      intro other member
      rw [show network.step ⟨side, op⟩ side.other = network side.other from
        step_other ⟨side, op⟩]
      exact hears other (.tail _ member)

theorem callsOn_self
    (side : Side)
    (ops : List Op) :
    callsOn side (ops.map (Call.mk side)) = ops := by
  simp [callsOn, List.filterMap_map]

theorem callsOn_other
    (side : Side)
    (ops : List Op) :
    callsOn side.other (ops.map (Call.mk side)) = [] := by
  simp [callsOn, List.filterMap_map, Side.other_ne]

variable {cfg : Side → TCPConfig} {random : Side → WrappingInt32}

/-- A run goes on with calls on one side. -/
theorem extend_on_side
    {calls : List Call}
    (delivered :
      Execution.EveryStep step Delivers (start cfg random) calls)
    {side : Side}
    {session : Session}
    (reached :
      Execution.Reaches Session.step
        (Op.Hears (· ∈ (after cfg random calls side.other).placed))
        (after cfg random calls side) session) :
    ∃ longer,
      Execution.EveryStep step Delivers (start cfg random) longer ∧
        after cfg random longer side = session ∧
        after cfg random longer side.other =
          after cfg random calls side.other := by
  obtain ⟨ops, hears, rfl⟩ := reached
  refine ⟨calls ++ ops.map (Call.mk side),
    Execution.EveryStep.append_iff.mpr
      ⟨delivered, everyStep_on_side hears⟩, ?_, ?_⟩
  · rw [after, Execution.run_append, run_apply, callsOn_self]
    rfl
  · rw [after, Execution.run_append, run_apply, callsOn_other]
    rfl

end TCPNetwork

/-- A connection that has just sent its SYN is in SYN_SENT. -/
theorem TCPConnection.state_connect_new
    (cfg : TCPConfig)
    (random : WrappingInt32) :
    (TCPConnection.new cfg random).connect.state =
      TCPState.ofState .synSent := by
  generalize isn : cfg.fixedIsn.getD random = number
  have nothingAcked : unwrap number number 0 = 0 :=
    TCPSender.acked_new 0 0 number
  -- the loop of `fill_window` sends the SYN, and then the window is full
  simp [connect, new, isn, TCPSender.new, ByteStream.new,
    TCPSender.fillWindow, TCPSender.fillLoop, Execution.iterate,
    TCPSender.fillRound, TCPSender.room,
    TCPSender.bytesInFlight, TCPSender.acked, nothingAcked, sub64,
    TCPSender.buildSegment, TCPSender.beginSegment, TCPSender.addFin,
    TCPSender.sendSegment, TCPSegment.lengthInSequenceSpace,
    ByteStream.bufferSize, ByteStream.bytesRead, ByteStream.read,
    ByteStream.peekOutput, ByteStream.popOutput, BufferList.removePrefix,
    finalState, ByteStream.eof, sendSegment, state, active,
    TCPState.ofParts, TCPState.ofState, TCPSender.stateSummary,
    TCPReceiver.stateSummary, TCPReceiver.new, TCPReceiver.streamOut,
    TCPReceiver.ackno, StreamReassembler.new]

/-- Few bytes take few sequence numbers. -/
theorem TCPConnection.Session.Sound.nextSeqno_le
    {session : Session}
    (sound : session.Sound) :
    session.connection.sender.nextSeqnoAbsolute ≤
      session.written.length + 2 := by
  obtain ⟨log, accounted⟩ := sound.accounted
  have logged :
      TCPSender.Logged session.written log session.connection.sender :=
    accounted.tracked.logged
  have next := logged.next_eq
  have total := logged.total
  have accounting := logged.valid.accounting
  have syn := (log.any fun segment => segment.header.syn).toNat_le
  have fin := (log.any fun segment => segment.header.fin).toNat_le
  rw [ByteStream.bytesRead] at next
  omega

namespace TCPSpongeSocket

open TCPConnection (Op Session)

variable {Adapter Packet : Type} [FdAdapter Adapter Packet]

/-- How a socket is opened. -/
structure Opening (Adapter : Type) where
  listens : Bool
  cTcp : TCPConfig := {}
  random : WrappingInt32
  cAd : FdAdapterConfig := {}
  datagramInterface : Adapter

/-- Open a socket. -/
def Opening.thread
    (opening : Opening Adapter) :
    Except StdException (Thread Adapter) :=
  if opening.listens then
    .ok (listenAndAccept opening.cTcp opening.random opening.cAd
      opening.datagramInterface)
  else
    connect opening.cTcp opening.random opening.cAd
      opening.datagramInterface

/-- The check of the state after connecting never fails. -/
theorem connect_eq
    (cTcp : TCPConfig)
    (random : WrappingInt32)
    (cAd : FdAdapterConfig)
    (datagramInterface : Adapter) :
    connect cTcp random cAd datagramInterface =
      .ok {
        socket := {
          datagramAdapter := FdAdapter.setConfig cAd datagramInterface
          tcp := (TCPConnection.new cTcp random).connect
        }
        phase := .connecting
      } := by
  rw [connect, if_neg]
  exact not_not.mpr (TCPConnection.state_connect_new cTcp random)

end TCPSpongeSocket

/-- The threads of the sockets of two sides. -/
def TCPSpongeSocketNetwork
    (Adapter : Type)
    {Packet : outParam Type}
    [FdAdapter Adapter Packet] : Type :=
  Side → TCPSpongeSocket.Thread Adapter

namespace TCPSpongeSocketNetwork

open TCPConnection (Op Session)
open TCPSpongeSocket (Opening Thread Turn Kernel Follows)

variable {Adapter Packet : Type} [FdAdapter Adapter Packet]

/-- A turn of one side. -/
structure Event (Packet : Type) where
  side : Side
  turn : Turn Packet

/-- The thread of one side takes a turn. -/
def step
    (network : TCPSpongeSocketNetwork Adapter)
    (event : Event Packet) : TCPSpongeSocketNetwork Adapter :=
  fun side =>
    if side = event.side then
      (network side).step event.turn
    else
      network side

variable [Transport Adapter]

/--
A packet that may arrive: one that the peer has sent, perhaps damaged, or one
from which nothing can be read.
-/
def Arrives
    (peer : Adapter)
    (packet : Packet) : Prop :=
  (∃ sent ∈ (FdAdapter.fd peer).sent,
    FdAdapter.content Adapter packet = FdAdapter.content Adapter sent ∨
      Transport.Alters Adapter (FdAdapter.content Adapter sent)
        (FdAdapter.content Adapter packet)) ∨
    FdAdapter.Conveys Adapter [] (FdAdapter.content Adapter packet)

/-- What the kernel answers to a callback, given the adapter of the peer. -/
structure Answers
    (peer : Adapter)
    (kernel : Kernel Packet) : Prop where
  arrived :
    ∀ packet,
      kernel.receive = .ok packet →
      Arrives peer packet
  bounded :
    ∀ size bytes,
      kernel.read size = .ok bytes →
      bytes.length ≤ size

/-- In a turn of one side only packets of the other side arrive. -/
def Carries
    (network : TCPSpongeSocketNetwork Adapter)
    (event : Event Packet) : Prop :=
  event.turn.poll.Reports fun entry =>
    Answers (network event.side.other).socket.datagramAdapter entry.2

/-- What arrives carries a segment that the peer placed. -/
theorem Answers.faithful
    {peer : TCPSpongeSocket Adapter}
    {session : Session}
    (follows : Follows session peer)
    {kernel : Kernel Packet}
    (answers : Answers peer.datagramAdapter kernel) :
    kernel.Faithful Adapter (· ∈ session.placed) := by
  refine ⟨?_, answers.bounded⟩
  intro packet received
  rcases answers.arrived packet received with
    ⟨sent, member, same | altered⟩ | nothing
  · exact Transport.conveys follows.carried member packet same
  · exact Transport.altered follows.carried member altered packet rfl
  · intro transmitted adapter seg returns
    obtain ⟨original, impossible, _⟩ :=
      nothing packet rfl transmitted adapter seg returns
    cases impossible

/-- The sockets follow two connections that exchange segments. -/
def Joined
    (cfg : Side → TCPConfig)
    (random : Side → WrappingInt32)
    (network : TCPSpongeSocketNetwork Adapter) : Prop :=
  ∃ calls,
    Execution.EveryStep TCPNetwork.step TCPNetwork.Delivers
        (TCPNetwork.start cfg random) calls ∧
      ∀ side,
        (network side).rules.Sublist TCPSpongeSocket.rules ∧
          Follows (TCPNetwork.after cfg random calls side)
            (network side).socket

variable {cfg : Side → TCPConfig} {random : Side → WrappingInt32}
variable {network : TCPSpongeSocketNetwork Adapter}

theorem Joined.step
    (joined : Joined cfg random network)
    {event : Event Packet}
    (carries : Carries network event) :
    Joined cfg random (network.step event) := by
  obtain ⟨calls, delivered, follows⟩ := joined
  obtain ⟨fewer, follower⟩ := follows event.side
  obtain ⟨otherFewer, peer⟩ := follows event.side.other
  have faithful :
      event.turn.poll.Reports fun entry =>
        entry.2.Faithful Adapter
          (· ∈
            (TCPNetwork.after cfg random calls
              event.side.other).placed) := by
    unfold Carries at carries
    cases poll : event.turn.poll with
    | timeout | interrupted | failed =>
        trivial
    | events entry =>
        rw [poll] at carries
        exact fun idx => (carries idx).faithful peer
  have tracks :
      (network event.side).Tracks
        (· ∈ (TCPNetwork.after cfg random calls event.side.other).placed)
        (TCPNetwork.after cfg random calls event.side) :=
    ⟨fewer, _, .refl _, follower⟩
  obtain ⟨stillFewer, session, reached, followed⟩ := tracks.step faithful
  obtain ⟨longer, allDelivered, here, there⟩ :=
    TCPNetwork.extend_on_side delivered reached
  refine ⟨longer, allDelivered, fun side => ?_⟩
  rcases event.side.eq_or_eq_other side with rfl | rfl
  · rw [here]
    simp only [TCPSpongeSocketNetwork.step, if_true]
    exact ⟨stillFewer, followed⟩
  · rw [there]
    simp only [TCPSpongeSocketNetwork.step, if_neg event.side.other_ne]
    exact ⟨otherFewer, peer⟩

/-- An opened socket follows a session that has connected or not. -/
theorem follows_opening
    {opening : Opening Adapter}
    {thread : Thread Adapter}
    (opened : opening.thread = .ok thread)
    (fresh : Transport.Holds [] opening.datagramInterface)
    (heard : TCPSegment → Prop) :
    thread.rules = TCPSpongeSocket.rules ∧
      thread.socket.Tracks heard
        (Session.start opening.cTcp opening.random) := by
  have sound := Session.sound_start opening.cTcp opening.random
  unfold Opening.thread at opened
  split at opened
  · cases opened
    refine ⟨rfl, _, .refl _, sound, rfl, rfl, rfl, ?_, rfl, nofun⟩
    exact Transport.listening (Transport.configured fresh _) true
  · rw [TCPSpongeSocket.connect_eq] at opened
    cases opened
    have follows :
        Follows (Session.start opening.cTcp opening.random)
          ({ datagramAdapter :=
              FdAdapter.setConfig opening.cAd opening.datagramInterface
             tcp := TCPConnection.new opening.cTcp opening.random } :
            TCPSpongeSocket Adapter) :=
      ⟨sound, rfl, rfl, rfl, Transport.configured fresh _, rfl, nofun⟩
    exact ⟨rfl,
      (Session.start opening.cTcp opening.random).step .connect,
      .single Op.connect trivial,
      follows.quietly rfl rfl rfl follows.carried nofun⟩

theorem joined_start
    {opening : Side → Opening Adapter}
    (opened : ∀ side, (opening side).thread = .ok (network side))
    (fresh :
      ∀ side, Transport.Holds [] (opening side).datagramInterface) :
    Joined (fun side => (opening side).cTcp)
      (fun side => (opening side).random) network := by
  obtain ⟨rulesA, first, reachedA, followsA⟩ :=
    follows_opening (opened .a) (fresh .a) (· ∈ [])
  obtain ⟨calls, delivered, afterA, untouchedB⟩ :=
    @TCPNetwork.extend_on_side (fun side => (opening side).cTcp)
      (fun side => (opening side).random) [] trivial .a first reachedA
  obtain ⟨rulesB, second, reachedB, followsB⟩ :=
    follows_opening (opened .b) (fresh .b)
      (· ∈
        (TCPNetwork.after (fun side => (opening side).cTcp)
          (fun side => (opening side).random) calls .a).placed)
  obtain ⟨longer, allDelivered, afterB, untouchedA⟩ :=
    @TCPNetwork.extend_on_side _ _ calls delivered .b second
      (untouchedB ▸ reachedB)
  refine ⟨longer, allDelivered, fun side => ?_⟩
  cases side with
  | a =>
      rw [show TCPNetwork.after _ _ longer .a = first from
        untouchedA.trans afterA]
      exact ⟨rulesA ▸ List.Sublist.refl _, followsA⟩
  | b =>
      rw [afterB]
      exact ⟨rulesB ▸ List.Sublist.refl _, followsB⟩

/-- In a turn of this side no hangup of its owner is reported. -/
def OwnerConnected
    (side : Side)
    (network : TCPSpongeSocketNetwork Adapter)
    (event : Event Packet) : Prop :=
  event.side = side → ¬ (network side).OwnerHangsUp event.turn

omit [Transport Adapter] in
theorem attested_step
    {hungUp : Prop}
    {side : Side}
    {event : Event Packet}
    (attested : (network side).Attested hungUp)
    (hangs :
      event.side = side →
      (network side).OwnerHangsUp event.turn →
      hungUp) :
    (network.step event side).Attested hungUp := by
  unfold TCPSpongeSocketNetwork.step
  split
  · rename_i same
    exact attested.step (hangs same.symm)
  · exact attested

omit [Transport Adapter] in
theorem attested_opening
    {opening : Opening Adapter}
    {thread : Thread Adapter}
    (opened : opening.thread = .ok thread)
    (hungUp : Prop) :
    thread.Attested hungUp := by
  unfold Opening.thread at opened
  split at opened
  · cases opened
    exact ⟨.refl _, rfl, nofun, nofun, iff_of_false nofun nofun⟩
  · rw [TCPSpongeSocket.connect_eq] at opened
    cases opened
    exact ⟨.refl _, rfl, nofun, nofun, iff_of_false nofun nofun⟩

omit [Transport Adapter] in
theorem ownerConnected_of_reports
    {events : List (Event Packet)}
    (connected :
      ∀ event ∈ events,
        event.turn.poll.Reports fun entry => entry.1.pollhup = false)
    (side : Side)
    (network : TCPSpongeSocketNetwork Adapter) :
    Execution.EveryStep step (OwnerConnected side) network events :=
  Execution.EveryStep.imp_of_invariant (fun _ => True)
    (fun _ _ _ _ => trivial)
    (fun _ _ _ reports _ => EventLoop.Poll.not_hangsUp reports _ _ _)
    trivial (Execution.EveryStep.of_forall_mem connected network)

omit [Transport Adapter] in
/-- What the flags say of the owner at the end of a run. -/
theorem attested_after
    {opening : Opening Adapter}
    {side : Side}
    (opened : opening.thread = .ok (network side))
    (events : List (Event Packet)) :
    let socket := (Execution.run step network events side).socket
    (socket.inboundShutdown = true ↔ .wr ∈ socket.threadData.shutdowns) ∧
      (Execution.EveryStep step (OwnerConnected side) network events →
        socket.outboundShutdown = true →
        socket.threadData.eof = true ∧
          [] ∈ socket.threadData.received) := by
  refine ⟨?_, fun connected told => ?_⟩
  · have attested :
        (Execution.run step network events side).Attested True :=
      Execution.run_invariant
        (fun network : TCPSpongeSocketNetwork Adapter =>
          (network side).Attested True)
        (fun _ _ attested => attested_step attested fun _ _ => trivial)
        (attested_opening opened True) events
    exact attested.socket.inbound
  · have attested :=
      Execution.EveryStep.invariant
        (fun network : TCPSpongeSocketNetwork Adapter =>
          (network side).Attested False)
        (fun _ _ attested connected => attested_step attested connected)
        (attested_opening opened False) connected
    have atEnd := (attested.socket.outbound told).resolve_right id
    exact ⟨atEnd, attested.socket.ended atEnd⟩

/-- The streams of two connections that few bytes were written to. -/
theorem flow_after
    {calls : List TCPNetwork.Call}
    (delivered :
      Execution.EveryStep TCPNetwork.step TCPNetwork.Delivers
        (TCPNetwork.start cfg random) calls)
    (follows :
      ∀ side,
        Follows (TCPNetwork.after cfg random calls side)
          (network side).socket)
    (small :
      ∀ side,
        (network side).socket.threadData.received.flatten.length + 2 <
          2 ^ 32)
    (side : Side) :
    ∃ log otherLog,
      ((TCPNetwork.after cfg random calls side).view log).out.Tracked ∧
        TCPEndpoint.Flow
          ((TCPNetwork.after cfg random calls side).view log).out
          ((TCPNetwork.after cfg random calls side.other).view
            otherLog) := by
  have numbers :
      ∀ side,
        (TCPNetwork.after cfg random calls
          side).connection.sender.nextSeqnoAbsolute < 2 ^ 32 := by
    intro side
    have few := (follows side).sound.nextSeqno_le
    have short := small side
    rw [(follows side).written] at short
    omega
  obtain ⟨log, otherLog, connected⟩ :=
    TCPNetwork.connected_after delivered side
  exact ⟨log, otherLog, connected.firstAccounted.tracked,
    (connected.flows (numbers side) (numbers side.other)).1⟩

/-- What the connections of joined sockets deliver, their owners are given. -/
theorem Joined.served
    (joined : Joined cfg random network)
    (small :
      ∀ side,
        (network side).socket.threadData.received.flatten.length + 2 <
          2 ^ 32)
    (side : Side) :
    let source := (network side).socket
    let sink := (network side.other).socket
    sink.threadData.sent.flatten <+: source.threadData.received.flatten ∧
      (sink.inboundShutdown = true →
        sink.tcp.inboundStream.error = false →
        source.outboundShutdown = true ∧
          sink.threadData.sent.flatten =
            source.threadData.received.flatten) := by
  intro source sink
  obtain ⟨calls, delivered, follows⟩ := joined
  obtain ⟨log, otherLog, tracked, flow⟩ :=
    flow_after delivered (fun side => (follows side).2) small side
  have sourceFollows := (follows side).2
  have sinkFollows := (follows side.other).2
  have written : source.threadData.received.flatten = _ :=
    sourceFollows.written
  have taken : sink.threadData.sent.flatten = _ := sinkFollows.taken
  rw [written, taken]
  refine ⟨?_, fun isShut noError => ?_⟩
  · have assembled := (flow.delivered tracked).2
    exact (List.prefix_append _ _).trans
      (assembled ▸ List.take_prefix _ _)
  · have done := sinkFollows.inbound isShut
    rw [sinkFollows.connection] at noError
    have atEnd := done.isOver.resolve_right (Bool.eq_false_iff.mp noError)
    obtain ⟨ended, drained⟩ := Bool.and_eq_true_iff.mp atEnd
    obtain ⟨sourceEnded, whole⟩ := flow.ended_whole tracked ended
    have nothingLeft :
        (TCPNetwork.after cfg random calls
          side.other).connection.receiver.streamOut.contents = [] := by
      apply List.length_eq_zero_iff.mp
      exact done.counted.reassembler.outputValid.sizeExact.trans
        (eq_of_beq drained)
    refine ⟨sourceFollows.outbound.trans sourceEnded, ?_⟩
    exact (List.append_nil _).symm.trans (nothingLeft ▸ whole)

/--
Whatever the network does to packets, an owner is given a part of what the other
owner wrote, from its beginning and in its order.  Once its stream is shut down
without an error, it has been given the whole, and the other owner had ended the
stream: a read had returned nothing, unless a hangup was reported.
-/
theorem owners_served_reliably
    (opening : Side → Opening Adapter)
    (network : TCPSpongeSocketNetwork Adapter)
    (opened : ∀ side, (opening side).thread = .ok (network side))
    (fresh : ∀ side, Transport.Holds [] (opening side).datagramInterface)
    (events : List (Event Packet))
    (carried : Execution.EveryStep step Carries network events)
    (small :
      ∀ side,
        (Execution.run step network events
          side).socket.threadData.received.flatten.length + 2 < 2 ^ 32)
    (side : Side) :
    let source := (Execution.run step network events side).socket
    let sink := (Execution.run step network events side.other).socket
    sink.threadData.sent.flatten <+: source.threadData.received.flatten ∧
      (.wr ∈ sink.threadData.shutdowns →
        sink.tcp.inboundStream.error = false →
        source.outboundShutdown = true ∧
          (Execution.EveryStep step (OwnerConnected side) network events →
            source.threadData.eof = true ∧
              [] ∈ source.threadData.received) ∧
          sink.threadData.sent.flatten =
            source.threadData.received.flatten) := by
  intro source sink
  have joined :=
    Execution.EveryStep.invariant
      (Joined (fun side => (opening side).cTcp)
        fun side => (opening side).random)
      (fun _ _ joined carries => joined.step carries)
      (joined_start opened fresh) carried
  obtain ⟨inOrder, whole⟩ := joined.served small side
  refine ⟨inOrder, fun isShut noError => ?_⟩
  have told :=
    (attested_after (opened side.other) events).1.mpr isShut
  obtain ⟨outEnded, all⟩ := whole told noError
  exact ⟨outEnded,
    fun connected =>
      (attested_after (opened side) events).2 connected outEnded,
    all⟩

section Example

open EventLoop (Revents)

/-- A kernel that takes whatever it is given. -/
def easyKernel
    (receive : SystemCall Bytes)
    (typed : Bytes) : Kernel Bytes where
  order := .stored
  receive := receive
  read size := .ok (typed.take size)
  write := .ok
  shutdown := .ok ()
  transmit _ := .ok ()

/-- A turn in which a packet arrives. -/
def receiving (packet : Bytes) : Turn Bytes where
  poll := .events fun idx =>
    ({ pollin := idx == 0 }, easyKernel (.ok packet) [])

/-- A turn in which everything can be sent, and the owner may have written. -/
def sending (typed : Option Bytes) : Turn Bytes where
  poll := .events fun idx =>
    ({ pollin := idx == 1 && typed.isSome, pollout := true },
      easyKernel (.error (.runtimeError "recvfrom")) (typed.getD []))

theorem carries_receiving
    {network : TCPSpongeSocketNetwork TCPOverIPv4OverTunFdAdapter}
    {side : Side}
    {packet : Bytes}
    (arrives :
      Arrives (network side.other).socket.datagramAdapter packet) :
    Carries network ⟨side, receiving packet⟩ := by
  intro idx
  refine ⟨?_, ?_⟩
  · intro other received
    cases received
    exact arrives
  · intro size bytes read
    cases read
    exact List.length_take_le _ _

theorem carries_sending
    (network : TCPSpongeSocketNetwork TCPOverIPv4OverTunFdAdapter)
    (side : Side)
    (typed : Option Bytes) :
    Carries network ⟨side, sending typed⟩ := by
  intro idx
  refine ⟨?_, ?_⟩
  · intro other received
    cases received
  · intro size bytes read
    cases read
    exact List.length_take_le _ _

/-- A client at 169.254.144.9 and a server at 169.254.144.1. -/
def clientAndServer : Side → Opening TCPOverIPv4OverTunFdAdapter
  | .a => {
      listens := false
      random := ⟨7⟩
      cAd := {
        source := { ipv4Numeric := 2852032521, port := 4000 }
        destination := { ipv4Numeric := 2852032513, port := 5000 } }
      datagramInterface := {} }
  | .b => {
      listens := true
      random := ⟨9⟩
      cAd := { source := { ipv4Numeric := 2852032513, port := 5000 } }
      datagramInterface := {} }

/-- The SYN of the client. -/
def synPacket : Bytes :=
  [69, 0, 0, 40, 0, 0, 64, 0, 128, 6, 134, 200, 169, 254, 144, 9, 169,
    254, 144, 1, 15, 160, 19, 136, 0, 0, 0, 7, 0, 0, 0, 0, 80, 2, 0, 0,
    24, 172, 0, 0]

/-- The answer of the server. -/
def synAckPacket : Bytes :=
  [69, 0, 0, 40, 0, 0, 64, 0, 128, 6, 134, 200, 169, 254, 144, 1, 169,
    254, 144, 9, 19, 136, 15, 160, 0, 0, 0, 9, 0, 0, 0, 8, 80, 18, 250, 0,
    30, 145, 0, 0]

/-- The FIN of the client. -/
def finPacket : Bytes :=
  [69, 0, 0, 40, 0, 0, 64, 0, 128, 6, 134, 200, 169, 254, 144, 9, 169,
    254, 144, 1, 15, 160, 19, 136, 0, 0, 0, 10, 0, 0, 0, 10, 80, 17, 250,
    0, 30, 143, 0, 0]

/-- Two bytes, the second of which is changed on the way. -/
def damagedPacket : WordChange where
  leading :=
    [69, 0, 0, 42, 0, 0, 64, 0, 128, 6, 134, 198, 169, 254, 144, 9, 169,
      254, 144, 1, 15, 160, 19, 136, 0, 0, 0, 8, 0, 0, 0, 10, 80, 16, 250,
      0, 189, 45, 0, 0]
  old := [97, 98]
  new := [97, 99]
  trailing := []
  aligned := rfl
  sameLength := rfl
  oneWord := by decide
  changed := by decide
  notZeros := by decide

/-- The bytes come after the FIN, first damaged; an acknowledgment is lost. -/
def damagedAndReordered : List (Event Bytes) := [
  ⟨.a, sending none⟩,
  ⟨.b, receiving synPacket⟩,
  ⟨.b, sending none⟩,
  ⟨.a, receiving synAckPacket⟩,
  ⟨.a, {}⟩,
  ⟨.a, sending (some [97, 98])⟩,
  ⟨.a, sending (some [])⟩,
  ⟨.a, sending none⟩,
  ⟨.b, receiving finPacket⟩,
  ⟨.b, {}⟩,
  ⟨.b, receiving damagedPacket.after⟩,
  ⟨.b, receiving damagedPacket.before⟩,
  ⟨.b, sending none⟩]

/-- The client and the server once they are opened. -/
def openedBoth : TCPSpongeSocketNetwork TCPOverIPv4OverTunFdAdapter
  | .a => {
      socket := {
        datagramAdapter := {
          config := (clientAndServer .a).cAd }
        tcp := (TCPConnection.new {} ⟨7⟩).connect }
      phase := .connecting }
  | .b =>
      TCPSpongeSocket.listenAndAccept {} ⟨9⟩ (clientAndServer .b).cAd {}

theorem opened_both
    (side : Side) :
    (clientAndServer side).thread = .ok (openedBoth side) := by
  cases side with
  | a => exact TCPSpongeSocket.connect_eq {} ⟨7⟩ _ _
  | b => rfl

theorem fresh_both
    (side : Side) :
    Transport.Holds [] (clientAndServer side).datagramInterface := by
  intro bytes member
  cases side <;> cases member

theorem owners_served_reliably_damaged :
    let network := Execution.run step openedBoth damagedAndReordered
    let source := (network .a).socket
    let sink := (network (Side.other .a)).socket
    .wr ∈ sink.threadData.shutdowns ∧
      source.outboundShutdown = true ∧
      source.threadData.eof = true ∧
      sink.threadData.sent.flatten = [97, 98] ∧
      sink.threadData.sent.flatten =
        source.threadData.received.flatten := by
  have carried :
      Execution.EveryStep step Carries openedBoth damagedAndReordered :=
    ⟨carries_sending _ _ _,
      carries_receiving (.inl ⟨_, by decide +kernel, .inl rfl⟩),
      carries_sending _ _ _,
      carries_receiving (.inl ⟨_, by decide +kernel, .inl rfl⟩),
      trivial,
      carries_sending _ _ _,
      carries_sending _ _ _,
      carries_sending _ _ _,
      carries_receiving (.inl ⟨_, by decide +kernel, .inl rfl⟩),
      trivial,
      carries_receiving (.inl ⟨damagedPacket.before, by decide +kernel,
        .inr ⟨damagedPacket, by decide, rfl, rfl⟩⟩),
      carries_receiving (.inl ⟨_, by decide +kernel, .inl rfl⟩),
      carries_sending _ _ _,
      trivial⟩
  have small :
      ∀ side,
        (Execution.run step openedBoth damagedAndReordered
          side).socket.threadData.received.flatten.length + 2 <
            2 ^ 32 := by
    intro side
    cases side <;> decide +kernel
  have connected :
      Execution.EveryStep step (OwnerConnected .a) openedBoth
        damagedAndReordered := by
    refine ownerConnected_of_reports ?_ .a openedBoth
    simp only [damagedAndReordered, List.forall_mem_cons,
      List.not_mem_nil, false_imp_iff, implies_true, and_true]
    refine ⟨?_, ?_, ?_, ?_, ?_, ?_, ?_, ?_, ?_, ?_, ?_, ?_, ?_⟩ <;>
      first | trivial | exact fun _ => rfl
  have isShut :
      .wr ∈ (Execution.run step openedBoth damagedAndReordered
        (Side.other .a)).socket.threadData.shutdowns := by
    decide +kernel
  have noError :
      (Execution.run step openedBoth damagedAndReordered
        (Side.other .a)).socket.tcp.inboundStream.error = false := by
    decide +kernel
  have given :
      (Execution.run step openedBoth damagedAndReordered
        (Side.other .a)).socket.threadData.sent.flatten = [97, 98] := by
    decide +kernel
  have served :=
    owners_served_reliably clientAndServer openedBoth opened_both
      fresh_both damagedAndReordered carried small .a
  dsimp only at served ⊢
  have whole := served.2 isShut noError
  exact ⟨isShut, whole.1, (whole.2.1 connected).1, given, whole.2.2⟩

end Example

end TCPSpongeSocketNetwork

end Sponge
