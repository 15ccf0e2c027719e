import Sponge.TCPConnectionOutbound

namespace Sponge.TCPConnection

/-!
# Listening

A fresh connection waits for a SYN.  The steps of `segment_received` are not
guarded by the state: whatever takes up sequence numbers is answered, and the
first thing that a sender has to say is its own SYN.  A connection therefore goes
on listening exactly as long as only empty segments arrive.
-/

/-- The passage of time, or a segment with neither SYN nor RST. -/
def Op.Stray : Op → Prop
  | .tick _ => True
  | .segmentReceived _ seg =>
      seg.header.syn = false ∧ seg.header.rst = false
  | _ => False

/-- The call does not bring anything that takes up sequence numbers. -/
def Op.Empty : Op → Prop
  | .segmentReceived _ seg => seg.lengthInSequenceSpace = 0
  | _ => True

/-- The connection is in LISTEN and has neither noted nor sent anything. -/
structure Listening (connection : TCPConnection) : Prop where
  state :
    connection.state = { sender := .closed, receiver := .listen }
  synUnsent : connection.sender.nextSeqnoAbsolute = 0
  isn : connection.receiver.isn = none
  isnReceiver : connection.isnReceiver = none
  linger : connection.lingerAfterStreamsFinish = true
  silent : connection.segmentsOut = []

/-- A fresh connection, but for its clocks and the window of its peer. -/
def waiting
    (cfg : TCPConfig)
    (random : WrappingInt32)
    (ticks receTick : Nat)
    (windowSize : UInt16)
    (windowProbe : Bool) : TCPConnection :=
  { TCPConnection.new cfg random with
    ticks := ticks
    receTick := receTick
    sender :=
      { (TCPConnection.new cfg random).sender with
        windowSize := windowSize
        windowProbe := windowProbe } }

/-- Nothing but time and the window of the peer was taken notice of. -/
def Untouched
    (cfg : TCPConfig)
    (random : WrappingInt32)
    (connection : TCPConnection) : Prop :=
  ∃ ticks receTick windowSize windowProbe,
    connection =
      waiting cfg random ticks receTick windowSize windowProbe

section Steps

variable {cfg : TCPConfig} {random : WrappingInt32}
variable {connection : TCPConnection}

theorem Untouched.listening
    (untouched : Untouched cfg random connection) :
    Listening connection := by
  obtain ⟨ticks, receTick, windowSize, windowProbe, rfl⟩ := untouched
  exact ⟨rfl, rfl, rfl, rfl, rfl, rfl⟩

/-- Without a running timer and with open streams, time only passes. -/
theorem Untouched.tick
    (untouched : Untouched cfg random connection)
    (msSinceLastTick : Nat) :
    Untouched cfg random (connection.tick msSinceLastTick) := by
  obtain ⟨ticks, receTick, windowSize, windowProbe, rfl⟩ := untouched
  exact ⟨(ticks + msSinceLastTick) % 2 ^ 64, receTick, windowSize,
    windowProbe, rfl⟩

/-- An acknowledgment of what was never sent leaves only its window. -/
theorem Untouched.receiveAck
    (untouched : Untouched cfg random connection)
    (seg : TCPSegment) :
    Untouched cfg random (connection.receiveAck seg) := by
  unfold TCPConnection.receiveAck
  split
  · obtain ⟨ticks, receTick, windowSize, windowProbe, rfl⟩ := untouched
    rcases TCPSender.ackReceived_cases seg.header.ackno seg.header.win
        (waiting cfg random ticks receTick windowSize
          windowProbe).sender with
      ⟨_, same⟩ | ⟨isNew, wasSent, _⟩
    · rw [same, TCPSender.recordWindow_shape]
      exact ⟨_, _, _, _, rfl⟩
    · have nothing :
          unwrap seg.header.ackno (cfg.fixedIsn.getD random) 0 ≤ 0 :=
        wasSent
      exact (Nat.not_lt_zero _ (Nat.lt_of_lt_of_le isNew nothing)).elim
  · exact untouched

/-- Nothing of an empty segment without SYN and RST is noted. -/
theorem Untouched.segmentReceived
    (untouched : Untouched cfg random connection)
    {order : IterationOrder}
    {seg : TCPSegment}
    (stray : seg.header.syn = false ∧ seg.header.rst = false)
    (empty : seg.lengthInSequenceSpace = 0) :
    Untouched cfg random (connection.segmentReceived seg order) := by
  have noFin : seg.header.fin = false := by
    cases fin : seg.header.fin with
    | false => rfl
    | true => simp [TCPSegment.lengthInSequenceSpace, fin] at empty
  have received :
      Untouched cfg random
        ((connection.noted seg).receivePayload seg order) := by
    obtain ⟨ticks, receTick, windowSize, windowProbe, rfl⟩ := untouched
    refine ⟨ticks, ticks, windowSize, windowProbe, ?_⟩
    simp only [noted, receiveRst, recordIsn, passiveClose,
      receivePayload, checkSegmentInWindow, TCPReceiver.segmentReceived,
      TCPReceiver.pushArguments, TCPReceiver.recordSyn, waiting,
      TCPConnection.new, TCPReceiver.new, stray.1, stray.2, noFin,
      Bool.false_eq_true, false_and, ↓reduceIte]
  have heard := received.receiveAck seg
  obtain ⟨ticks, receTick, windowSize, windowProbe, same⟩ := heard
  refine ⟨ticks, receTick, windowSize, windowProbe, ?_⟩
  have replied :
      (((connection.noted seg).receivePayload seg order).receiveAck
          seg).reply seg =
        waiting cfg random ticks receTick windowSize windowProbe := by
    rw [reply, if_neg (not_not.mpr empty), same]
  have performed :
      connection.segmentReceived seg order =
        (((((connection.noted seg).receivePayload seg order).receiveAck
          seg).reply seg).replyKeepAlive seg).sendSegment :=
    rfl
  rw [performed, replied]
  rfl

end Steps

/-- Whatever takes up sequence numbers is answered. -/
theorem segmentReceived_answers
    (connection : TCPConnection)
    (order : IterationOrder)
    {seg : TCPSegment}
    (occupies : seg.lengthInSequenceSpace ≠ 0) :
    (connection.segmentReceived seg order).segmentsOut ≠ [] := by
  rw [segmentReceived_segmentsOut]
  intro nothing
  have unproduced := (List.append_eq_nil_iff.mp nothing).2
  exact produced_ne_nil connection occupies order
    (List.map_eq_nil_iff.mp unproduced)

/--
Ticks and segments without SYN and RST leave a fresh connection in LISTEN, after
each of them, exactly when none of the segments has a payload or a FIN.
-/
theorem stays_listening_iff
    (cfg : TCPConfig)
    (random : WrappingInt32)
    (calls : List Op)
    (stray : ∀ op ∈ calls, op.Stray) :
    (∀ leading,
      leading <+: calls →
      Listening (Session.after cfg random leading).connection) ↔
      ∀ op ∈ calls, op.Empty := by
  constructor
  · intro listens op member
    obtain ⟨earlier, later, shape⟩ := List.append_of_mem member
    have heard : earlier ++ [op] <+: calls :=
      ⟨later, by simp [shape]⟩
    have silent := (listens _ heard).silent
    cases op with
    | segmentReceived order seg =>
        by_contra occupies
        rw [Session.after, Execution.run_append, Execution.run_cons,
          Execution.run_nil] at silent
        exact segmentReceived_answers _ order occupies silent
    | connect | write _ | endInputStream | readInbound _ | tick _
    | dequeue => trivial
  · intro empty leading isLeading
    have both : ∀ op ∈ leading, op.Stray ∧ op.Empty :=
      fun op member =>
        ⟨stray op (isLeading.subset member),
          empty op (isLeading.subset member)⟩
    refine Untouched.listening (Execution.EveryStep.invariant
      (fun session : Session => Untouched cfg random session.connection)
      ?_ ⟨0, 0, 1, false, rfl⟩
      (Execution.EveryStep.of_forall_mem both (Session.start cfg random)))
    rintro session op untouched ⟨isStray, isEmpty⟩
    simp only [Session.step]
    cases op with
    | tick msSinceLastTick =>
        exact untouched.tick msSinceLastTick
    | segmentReceived order seg =>
        exact untouched.segmentReceived isStray isEmpty
    | connect | write _ | endInputStream | readInbound _ | dequeue =>
        exact isStray.elim

/-- An acknowledgment that nobody asked for. -/
def strayAck : TCPSegment where
  header := {
    seqno := ⟨7⟩
    ackno := ⟨70⟩
    ack := true
    win := 5 }

/-- A byte of a connection that this endpoint knows nothing of. -/
def strayByte : TCPSegment where
  header := { seqno := ⟨7⟩ }
  payload := [97]

/-- Its last byte, with the FIN. -/
def strayFin : TCPSegment where
  header := {
    seqno := ⟨8⟩
    fin := true }

/-- Time and acknowledgments alone do not end listening. -/
theorem stays_listening_iff_ack :
    Listening
      (Session.after {} ⟨0⟩
        [.tick 10, .segmentReceived .stored strayAck]).connection := by
  refine (stays_listening_iff {} ⟨0⟩
    [.tick 10, .segmentReceived .stored strayAck] ?_).mpr ?_ _
    List.prefix_rfl
  · simp [Op.Stray, strayAck]
  · simp [Op.Empty, strayAck, TCPSegment.lengthInSequenceSpace]

/-- A byte without SYN makes a listening endpoint send its own SYN. -/
theorem stray_byte_answered_with_syn :
    let calls : List Op := [
      .segmentReceived .stored strayByte,
      .segmentReceived .stored strayFin]
    let answered := (Session.after {} ⟨0⟩ (calls.take 1)).connection
    let closing := (Session.after {} ⟨0⟩ calls).connection
    answered.segmentsOut.map (fun seg => seg.header.syn) = [true] ∧
      answered.state.sender = .synSent ∧
      closing.lingerAfterStreamsFinish = false := by
  decide +kernel

end Sponge.TCPConnection
