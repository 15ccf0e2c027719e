import Sponge.TCPConnectionRun
import Sponge.TCPEndpointFlow

namespace Sponge

/-!
# Two connections and a network

The network may lose, duplicate, delay and reorder segments, but it delivers
only what the other side has placed in its outbound queue.  Calls on the two
connections interleave freely.
-/

/-- One of the two connections. -/
inductive Side where
  | a
  | b
  deriving DecidableEq

namespace Side

/-- The connection at the other end. -/
def other : Side → Side
  | a => b
  | b => a

@[simp] theorem other_other
    (side : Side) :
    side.other.other = side := by
  cases side <;> rfl

theorem other_ne
    (side : Side) :
    side.other ≠ side := by
  cases side <;> simp [other]

theorem eq_or_eq_other
    (side any : Side) :
    any = side ∨ any = side.other := by
  cases side <;> cases any <;> simp [other]

end Side

/-- The sessions of the two sides. -/
def TCPNetwork : Type := Side → TCPConnection.Session

namespace TCPNetwork

/-- A call on one side. -/
structure Call where
  side : Side
  op : TCPConnection.Op

/-- Two new connections. -/
def start
    (cfg : Side → TCPConfig)
    (random : Side → WrappingInt32) : TCPNetwork :=
  fun side => TCPConnection.Session.start (cfg side) (random side)

/-- Perform a call on its side. -/
def step
    (network : TCPNetwork)
    (call : Call) : TCPNetwork :=
  fun side =>
    if side = call.side then
      (network side).step call.op
    else
      network side

/-- The state after a list of calls on two new connections. -/
def after
    (cfg : Side → TCPConfig)
    (random : Side → WrappingInt32)
    (calls : List Call) : TCPNetwork :=
  Execution.run step (start cfg random) calls

/-- Only what the other side has placed is delivered. -/
def Delivers
    (network : TCPNetwork)
    (call : Call) : Prop :=
  match call.op with
  | .segmentReceived _ seg => seg ∈ (network call.side.other).placed
  | _ => True

instance Delivers.decidable
    (network : TCPNetwork) :
    ∀ call, Decidable (Delivers network call)
  | ⟨side, .segmentReceived _ seg⟩ =>
      inferInstanceAs (Decidable (seg ∈ (network side.other).placed))
  | ⟨_, .connect⟩ => isTrue trivial
  | ⟨_, .write _⟩ => isTrue trivial
  | ⟨_, .endInputStream⟩ => isTrue trivial
  | ⟨_, .readInbound _⟩ => isTrue trivial
  | ⟨_, .tick _⟩ => isTrue trivial
  | ⟨_, .dequeue⟩ => isTrue trivial

section Steps

variable {network : TCPNetwork}

@[simp] theorem step_self
    (call : Call) :
    network.step call call.side = (network call.side).step call.op := by
  simp [step]

@[simp] theorem step_other
    (call : Call) :
    network.step call call.side.other = network call.side.other := by
  simp [step, Side.other_ne]

/-- The sides amount to two endpoints that send to each other. -/
def Connected (network : TCPNetwork) : Prop :=
  ∀ side,
    ∃ log otherLog,
      TCPEndpoint.Joined ((network side).view log)
        ((network side.other).view otherLog)

/-- An action caused by a delivery was heard from the other side. -/
theorem Delivers.heard
    {call : Call}
    (delivers : Delivers network call)
    {action : TCPEndpoint.Action}
    (caused : call.op.Causes action) :
    action.Heard (network call.side.other).placed := by
  unfold Delivers at delivers
  cases action with
  | receive order seg =>
      have isReceive : call.op = .segmentReceived order seg := caused
      rw [isReceive] at delivers
      exact delivers
  | send senderCall =>
      cases senderCall with
      | ackReceived ackno windowSize =>
          obtain ⟨order, seg, isReceive, hasAck, same⟩ := caused
          rw [isReceive] at delivers
          exact ⟨seg, delivers, hasAck, same⟩
      | _ =>
          trivial
  | reset | inboundError | read _ =>
      trivial

theorem Connected.step
    (connected : network.Connected)
    (call : Call)
    (delivers : Delivers network call) :
    (network.step call).Connected := by
  obtain ⟨log, otherLog, joined⟩ := connected call.side
  obtain ⟨longer, reached⟩ :=
    (network call.side).reaches_step call.op log
  have kept :
      TCPEndpoint.Joined (((network call.side).step call.op).view longer)
        ((network call.side.other).view otherLog) :=
    reached.invariant
      (fun endpoint =>
        TCPEndpoint.Joined endpoint
          ((network call.side.other).view otherLog))
      (fun _ action held caused =>
        held.act action (delivers.heard caused))
      joined
  intro side
  rcases call.side.eq_or_eq_other side with rfl | rfl
  · refine ⟨longer, otherLog, ?_⟩
    rw [step_self, step_other]
    exact kept
  · refine ⟨otherLog, longer, ?_⟩
    rw [Side.other_other, step_self, step_other]
    exact kept.symm

/-- Nothing has been sent between new connections. -/
theorem flow_start
    (cfg : Side → TCPConfig)
    (random : Side → WrappingInt32)
    (side : Side) :
    TCPEndpoint.Flow ((start cfg random side).view []).out
      ((start cfg random side.other).view []) where
  sound := StreamReassembler.sound_new [] (cfg side.other).recvCapacity
  numbering := Or.inl rfl
  finished := by
    intro ended
    cases ended
  acknowledged := by
    have unacknowledged :
        ((start cfg random side).view []).out.sender.acked = 0 :=
      TCPSender.acked_new ..
    rw [unacknowledged]
    exact Nat.zero_le _
  replies := by
    simp [TCPConnection.Session.view, TCPConnection.view, start,
      TCPConnection.Session.start]

theorem connected_start
    (cfg : Side → TCPConfig)
    (random : Side → WrappingInt32) :
    (start cfg random).Connected := by
  intro side
  refine ⟨[], [], ?_, ?_, fun _ _ => ⟨flow_start cfg random side, ?_⟩⟩
  · exact TCPConnection.Session.accounted_start (cfg side) (random side)
  · exact TCPConnection.Session.accounted_start (cfg side.other)
      (random side.other)
  · have backward := flow_start cfg random side.other
    rw [Side.other_other] at backward
    exact backward

/-- After any deliveries of placed segments the sides are connected. -/
theorem connected_after
    {cfg : Side → TCPConfig}
    {random : Side → WrappingInt32}
    {calls : List Call}
    (delivered :
      Execution.EveryStep step Delivers (start cfg random) calls) :
    (after cfg random calls).Connected :=
  Execution.EveryStep.invariant Connected
    (fun _ call connected delivers => connected.step call delivers)
    (connected_start cfg random) delivered

/-- The calls on one side. -/
def callsOn
    (side : Side)
    (calls : List Call) : List TCPConnection.Op :=
  calls.filterMap fun call =>
    if side = call.side then
      some call.op
    else
      none

/-- Each side runs its own calls. -/
theorem run_apply
    (network : TCPNetwork)
    (calls : List Call)
    (side : Side) :
    Execution.run step network calls side =
      Execution.run TCPConnection.Session.step (network side)
        (callsOn side calls) := by
  induction calls generalizing network with
  | nil =>
      rfl
  | cons call rest inductionHypothesis =>
      rw [Execution.run_cons, inductionHypothesis]
      by_cases here : side = call.side
      · simp [callsOn, step, here]
      · simp [callsOn, step, here]

theorem ended_by_application
    {cfg : Side → TCPConfig}
    {random : Side → WrappingInt32}
    {calls : List Call}
    {side : Side}
    (ended :
      (after cfg random calls side).connection.sender.stream.endFlag =
        true) :
    ⟨side, .endInputStream⟩ ∈ calls := by
  rw [after, run_apply] at ended
  obtain ⟨⟨caller, op⟩, member, performed⟩ :=
    List.mem_filterMap.mp
      (TCPConnection.Session.ended_by_application ended)
  by_cases here : side = caller
  · simp only [here, ↓reduceIte, Option.some.injEq] at performed
    rw [here, ← performed]
    exact member
  · simp [here] at performed

end Steps

/--
Both streams are delivered reliably.  What one side has assembled is a prefix of
what the other has written; nothing is acknowledged, or dropped from the
retransmission queue, before it was assembled; and a stream only ends where the
writer ended it.
-/
theorem streams_delivered_reliably
    (cfg : Side → TCPConfig)
    (random : Side → WrappingInt32)
    (calls : List Call)
    (delivered :
      Execution.EveryStep step Delivers (start cfg random) calls)
    (small :
      ∀ side,
        (after cfg random calls
          side).connection.sender.nextSeqnoAbsolute < 2 ^ 32)
    (side : Side) :
    let source := after cfg random calls side
    let sink := after cfg random calls side.other
    let inbound := sink.connection.inboundStream
    let sender := source.connection.sender
    (inbound.bytesWritten ≤ source.written.length ∧
        sink.taken ++ inbound.contents =
          source.written.take inbound.bytesWritten) ∧
      (sender.acked ≤
          1 + inbound.bytesWritten + inbound.inputEnded.toNat ∧
        ∃ count,
          count ≤ inbound.bytesWritten ∧
            source.written =
              source.written.take count ++
                (TCPSender.payloads sender.retransmissionQueue ++
                  sender.stream.contents)) ∧
      (inbound.inputEnded = true →
        ⟨side, .endInputStream⟩ ∈ calls ∧
          sink.taken ++ inbound.contents = source.written) := by
  obtain ⟨log, otherLog, joined⟩ := connected_after delivered side
  obtain ⟨flow, _⟩ := joined.flows (small side) (small side.other)
  have tracked := joined.firstAccounted.tracked
  refine ⟨flow.delivered tracked,
    ⟨flow.acknowledged, flow.retained tracked⟩, ?_⟩
  intro ended
  obtain ⟨atEnd, whole⟩ := flow.ended_whole tracked ended
  exact ⟨ended_by_application atEnd, whole⟩

/-- A SYN, its acknowledgment, two bytes with a FIN, and a duplicate. -/
def handshakeAndClose : List Call :=
  let syn : TCPSegment := { header := { syn := true } }
  let synAck : TCPSegment := {
    header := {
      seqno := ⟨7⟩
      ackno := ⟨1⟩
      syn := true
      ack := true
      win := 64000 } }
  let bytes : TCPSegment := {
    header := {
      seqno := ⟨1⟩
      ackno := ⟨8⟩
      ack := true
      win := 64000 }
    payload := [97, 98] }
  let fin : TCPSegment := {
    header := {
      seqno := ⟨3⟩
      ackno := ⟨8⟩
      fin := true
      ack := true
      win := 64000 } }
  [⟨.a, .connect⟩,
    ⟨.b, .segmentReceived .stored syn⟩,
    ⟨.a, .segmentReceived .stored synAck⟩,
    ⟨.a, .write [97, 98]⟩,
    ⟨.a, .endInputStream⟩,
    ⟨.b, .segmentReceived .stored fin⟩,
    ⟨.b, .segmentReceived .stored bytes⟩,
    ⟨.b, .segmentReceived .stored bytes⟩,
    ⟨.b, .readInbound 1⟩]

/-- Initial numbers for the two sides. -/
def initialNumbers : Side → WrappingInt32
  | .a => ⟨0⟩
  | .b => ⟨7⟩

theorem streams_delivered_reliably_reordered :
    let network := after (fun _ => {}) initialNumbers handshakeAndClose
    (network .b).connection.inboundStream.inputEnded = true ∧
      (network .b).taken ++
          (network .b).connection.inboundStream.contents =
        (network .a).written := by
  have delivered :
      Execution.EveryStep step Delivers
        (start (fun _ => {}) initialNumbers) handshakeAndClose := by
    decide +kernel
  have small :
      ∀ side,
        (after (fun _ => {}) initialNumbers handshakeAndClose
          side).connection.sender.nextSeqnoAbsolute < 2 ^ 32 := by
    intro side
    cases side <;> decide +kernel
  have ended :
      (after (fun _ => {}) initialNumbers handshakeAndClose
        .b).connection.inboundStream.inputEnded = true := by
    decide +kernel
  have reliable :=
    streams_delivered_reliably (fun _ => {}) initialNumbers
      handshakeAndClose delivered small .a
  dsimp only at reliable ⊢
  exact ⟨ended, (reliable.2.2 ended).2⟩

end TCPNetwork

end Sponge
