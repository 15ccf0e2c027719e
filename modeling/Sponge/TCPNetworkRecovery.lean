import Sponge.TCPConnectionState
import Sponge.TCPNetwork

namespace Sponge

/-!
# Recovery from any loss

Whatever the network has lost so far, two connections that are still active can
finish a stream: the source resends its first outstanding segment, the sink
takes up the number it waits for and answers, and the answer moves the source
on.  One such round trip acknowledges at least one number, so that the rest of
the stream takes at most as many round trips as it has numbers left.
-/

namespace TCPEndpoint

open TCPSender

/-- A sink that has seen no SYN has acknowledged nothing. -/
def Unanswered
    (source : TCPSender.Session)
    (sink : TCPEndpoint) : Prop :=
  sink.receiver.isn = none →
  source.sender.acked = 0 ∧
    ∀ seg ∈ sink.placed, seg.header.ack = false

section Answers

variable {source : TCPSender.Session} {sink : TCPEndpoint}

/-- A source that hears no acknowledgment records none. -/
theorem Unanswered.sourceStep
    (unanswered : Unanswered source sink)
    (tracked : source.Tracked)
    (call : TCPSender.Op)
    (heard :
      ∀ ackno windowSize,
        call = .ackReceived ackno windowSize →
        ∃ seg ∈ sink.placed, seg.header.ack = true) :
    Unanswered (source.step call) sink := by
  intro unset
  obtain ⟨nothing, silent⟩ := unanswered unset
  refine ⟨?_, silent⟩
  rcases tracked.step_acked call with
    same | ⟨ackno, windowSize, isAck, _⟩
  · rw [same]
    exact nothing
  · obtain ⟨seg, member, hasAck⟩ := heard ackno windowSize isAck
    rw [silent seg member] at hasAck
    cases hasAck

/-- What a sink places before its first SYN acknowledges nothing. -/
theorem Unanswered.sinkAct
    (unanswered : Unanswered source sink)
    (accounted : sink.Accounted)
    (action : Action) :
    Unanswered source (sink.act action) := by
  intro unsetAfter
  have unset := (accounted.act_advances action).known unsetAfter
  have noAckno : sink.receiver.ackno = none := by
    rw [TCPReceiver.ackno, unset]
  obtain ⟨nothing, silent⟩ := unanswered unset
  refine ⟨nothing, ?_⟩
  cases action with
  | send call =>
      intro seg member
      rcases List.mem_append.mp member with before | handed
      · exact silent seg before
      · cases call with
        | takeSegments =>
            obtain ⟨original, pushed, rfl⟩ := List.mem_map.mp handed
            rw [TCPConnection.stamp, noAckno]
            exact accounted.outgoing_unstamped pushed
        | _ =>
            cases handed
  | reset =>
      intro seg member
      rcases List.mem_append.mp member with before | isReset
      · exact silent seg before
      · rw [List.mem_singleton.mp isReset]
        rfl
  | receive _ _ | inboundError | read _ =>
      exact silent

/-- Two endpoints that send to each other and answer only what they know. -/
structure Acquainted (first second : TCPEndpoint) : Prop where
  joined : Joined first second
  forward : Unanswered first.out second
  backward : Unanswered second.out first

variable {first second : TCPEndpoint}

theorem Acquainted.symm
    (acquainted : Acquainted first second) :
    Acquainted second first :=
  ⟨acquainted.joined.symm, acquainted.backward, acquainted.forward⟩

theorem Acquainted.act
    (acquainted : Acquainted first second)
    (action : Action)
    (heard : action.Heard second.placed) :
    Acquainted (first.act action) second where
  joined := acquainted.joined.act action heard
  forward := by
    cases action with
    | send call =>
        refine acquainted.forward.sourceStep
          acquainted.joined.firstAccounted.tracked call ?_
        rintro ackno windowSize rfl
        obtain ⟨seg, member, hasAck, _⟩ := heard
        exact ⟨seg, member, hasAck⟩
    | reset | receive _ _ | inboundError | read _ =>
        exact acquainted.forward
  backward :=
    acquainted.backward.sinkAct acquainted.joined.firstAccounted action

/-- A sink has assembled only numbers that its source has used. -/
theorem Flow.assembled_le_next
    (flow : Flow source sink)
    (tracked : source.Tracked)
    (begun : source.log ≠ []) :
    sink.receiver.assembled ≤ source.sender.nextSeqnoAbsolute := by
  have next := tracked.logged.next_eq
  have syn :=
    tracked.logged.marked.syn_sent
      (mt tracked.logged.marked.begun.mp begun)
  have written := flow.written_le
  rw [syn, tracked.logged.bytesRead_eq, Bool.toNat_true] at next
  unfold TCPReceiver.assembled
  cases ended : sink.receiver.streamOut.inputEnded with
  | false =>
      rw [Bool.toNat_false]
      omega
  | true =>
      obtain ⟨finished, _⟩ := flow.ended ended
      rw [tracked.logged.marked.finSent_iff.mp finished,
        Bool.toNat_true] at next
      rw [Bool.toNat_true]
      omega

/-- A source that is finished has been heard to its end. -/
theorem Flow.complete_of_finished
    (flow : Flow source sink)
    (tracked : source.Tracked)
    (finished : source.sender.Finished) :
    sink.taken ++ sink.receiver.streamOut.contents = source.written ∧
      (source.sender.stream.endFlag = true →
        sink.receiver.streamOut.inputEnded = true) := by
  obtain ⟨emptied, outcome⟩ := finished
  have drained :=
    (tracked.queued.bytesInFlight_eq_zero_iff tracked.logged).mpr emptied
  rw [tracked.queued.bytesInFlight_eq] at drained
  have covered := flow.acknowledged
  have written := flow.written_le
  have next := tracked.logged.next_eq
  rw [tracked.logged.bytesRead_eq] at next
  rw [TCPReceiver.assembled] at covered
  by_cases ended : sink.receiver.streamOut.inputEnded = true
  · exact ⟨(flow.ended_whole tracked ended).2, fun _ => ended⟩
  · rw [Bool.eq_false_of_not_eq_true ended, Bool.toNat_false] at covered
    have unfinished : source.sender.state ≠ .finSent := by
      intro isFinished
      have fin := tracked.logged.marked.finSent_iff.mp isFinished
      have syn := tracked.logged.marked.syn_sent (by simp [isFinished])
      rw [syn, fin, Bool.toNat_true] at next
      omega
    obtain ⟨emptyStream, unended⟩ := outcome.resolve_left unfinished
    refine ⟨?_, fun isEnded => by rw [unended] at isEnded; cases isEnded⟩
    have bytes := tracked.logged.bytes
    have noBytes : source.sender.stream.contents = [] := by
      apply List.length_eq_zero_iff.mp
      rw [tracked.logged.valid.sizeExact, emptyStream]
    rw [noBytes, List.append_nil] at bytes
    have all :
        sink.receiver.streamOut.bytesWritten =
          (payloads source.log).length := by
      by_cases begun : source.log = []
      · rw [begun] at written ⊢
        exact Nat.le_zero.mp written
      · have syn :=
          tracked.logged.marked.syn_sent
            (mt tracked.logged.marked.begun.mp begun)
        rw [syn, Bool.toNat_true] at next
        omega
    rw [(flow.delivered tracked).2, all, bytes, List.take_length]

end Answers

end TCPEndpoint

namespace TCPConnection.Session

theorem step_written
    (session : Session)
    (op : Op) :
    (session.step op).written =
      session.written ++ session.connection.accepted op :=
  rfl

theorem step_placed
    (session : Session)
    (op : Op) :
    (session.step op).placed =
      session.placed ++ session.connection.pushed op :=
  rfl

end TCPConnection.Session

namespace TCPNetwork

open TCPSender (Finished)

section Reachable

variable {cfg : Side → TCPConfig} {random : Side → WrappingInt32}
variable {network : TCPNetwork}

/-- A state that calls and deliveries of placed segments lead to. -/
def Reachable
    (cfg : Side → TCPConfig)
    (random : Side → WrappingInt32)
    (network : TCPNetwork) : Prop :=
  ∃ calls,
    Execution.EveryStep step Delivers (start cfg random) calls ∧
      after cfg random calls = network

theorem Reachable.step
    (reachable : Reachable cfg random network)
    (call : Call)
    (delivers : Delivers network call) :
    Reachable cfg random (network.step call) := by
  obtain ⟨calls, delivered, rfl⟩ := reachable
  refine ⟨calls ++ [call],
    Execution.EveryStep.append_iff.mpr ⟨delivered, delivers, trivial⟩, ?_⟩
  rw [after, Execution.run_append]
  rfl

/-- Each side of a reachable state is the result of its own calls. -/
theorem Reachable.session
    (reachable : Reachable cfg random network)
    (side : Side) :
    ∃ calls,
      network side =
        TCPConnection.Session.after (cfg side) (random side) calls := by
  obtain ⟨calls, _, rfl⟩ := reachable
  exact ⟨callsOn side calls, run_apply _ calls side⟩

theorem Reachable.counted
    (reachable : Reachable cfg random network)
    (side : Side) :
    TCPConnection.ReceiverCounted (network side).connection.receiver := by
  obtain ⟨calls, session⟩ := reachable.session side
  rw [session]
  exact TCPConnection.counted_after _ _ calls

theorem Reachable.capacity
    (reachable : Reachable cfg random network)
    (side : Side) :
    (network side).connection.receiver.capacity =
      (cfg side).recvCapacity := by
  obtain ⟨calls, session⟩ := reachable.session side
  rw [session]
  exact TCPConnection.capacity_after _ _ calls

/-- The two sides as endpoints that answer only what they know. -/
def Acquainted (network : TCPNetwork) : Prop :=
  ∀ side,
    ∃ log otherLog,
      TCPEndpoint.Acquainted ((network side).view log)
        ((network side.other).view otherLog)

theorem Acquainted.step
    (acquainted : network.Acquainted)
    (call : Call)
    (delivers : Delivers network call) :
    (network.step call).Acquainted := by
  obtain ⟨log, otherLog, known⟩ := acquainted call.side
  obtain ⟨longer, reached⟩ :=
    (network call.side).reaches_step call.op log
  have kept :
      TCPEndpoint.Acquainted
        (((network call.side).step call.op).view longer)
        ((network call.side.other).view otherLog) :=
    reached.invariant
      (fun endpoint =>
        TCPEndpoint.Acquainted endpoint
          ((network call.side.other).view otherLog))
      (fun _ action held caused =>
        held.act action (delivers.heard caused))
      known
  intro side
  rcases call.side.eq_or_eq_other side with rfl | rfl
  · refine ⟨longer, otherLog, ?_⟩
    rw [step_self, step_other]
    exact kept
  · refine ⟨otherLog, longer, ?_⟩
    rw [Side.other_other, step_self, step_other]
    exact kept.symm

theorem acquainted_start
    (cfg : Side → TCPConfig)
    (random : Side → WrappingInt32) :
    (start cfg random).Acquainted := by
  have silent :
      ∀ side,
        TCPEndpoint.Unanswered ((start cfg random side).view []).out
          ((start cfg random side.other).view []) := by
    intro side _
    refine ⟨TCPSender.acked_new .., ?_⟩
    simp [TCPConnection.Session.view, TCPConnection.view, start,
      TCPConnection.Session.start]
  intro side
  refine ⟨[], [], ?_, silent side, ?_⟩
  · refine ⟨TCPConnection.Session.accounted_start _ _,
      TCPConnection.Session.accounted_start _ _,
      fun _ _ => ⟨flow_start cfg random side, ?_⟩⟩
    have backward := flow_start cfg random side.other
    rw [Side.other_other] at backward
    exact backward
  · have backward := silent side.other
    rw [Side.other_other] at backward
    exact backward

theorem Reachable.acquainted
    (reachable : Reachable cfg random network) :
    network.Acquainted := by
  obtain ⟨calls, delivered, rfl⟩ := reachable
  exact Execution.EveryStep.invariant Acquainted
    (fun _ call held delivers => held.step call delivers)
    (acquainted_start cfg random) delivered

/-- A sender uses a number for each byte and two for SYN and FIN. -/
theorem Reachable.next_le
    (reachable : Reachable cfg random network)
    (side : Side) :
    (network side).connection.sender.nextSeqnoAbsolute ≤
      (network side).written.length + 2 := by
  obtain ⟨log, otherLog, known⟩ := reachable.acquainted side
  have logged := known.joined.firstAccounted.tracked.logged
  have next := logged.next_eq
  have bytes := congrArg List.length logged.bytes
  have syn := Bool.toNat_le (log.any fun seg => seg.header.syn)
  have fin := Bool.toNat_le (log.any fun seg => seg.header.fin)
  rw [List.length_append] at bytes
  rw [logged.bytesRead_eq] at next
  simp only [TCPConnection.Session.view, TCPConnection.view] at *
  omega

/-- While few numbers are used, both copies of a peer's number agree. -/
def Copied (network : TCPNetwork) : Prop :=
  (∀ side,
    (network side).connection.sender.nextSeqnoAbsolute < 2 ^ 32) →
  ∀ side,
    (network side).connection.isnReceiver =
      (network side).connection.receiver.isn

/-- A SYN the other side has placed carries the other side's number. -/
theorem Delivers.repeatsIsn
    {call : Call}
    (delivers : Delivers network call)
    (acquainted : network.Acquainted)
    (small :
      ∀ side,
        (network side).connection.sender.nextSeqnoAbsolute < 2 ^ 32) :
    call.op.RepeatsIsn (network call.side).connection := by
  obtain ⟨log, otherLog, known⟩ := acquainted call.side
  obtain ⟨_, backward⟩ :=
    known.joined.flows (small call.side) (small call.side.other)
  have accounted := known.joined.secondAccounted
  obtain ⟨side, op⟩ := call
  cases op with
  | segmentReceived order seg =>
      intro syn isn isKnown
      have carries := accounted.carried seg delivers
      obtain ⟨consistent, _⟩ := carries.consistent accounted.tracked
      have recorded :
          ((network side).connection.receiver.recordSyn seg).isn =
            some (network side.other).connection.sender.isn :=
        consistent.recordSyn_isn (Or.inr syn)
      have numbering := backward.numbering
      simp only [TCPReceiver.recordSyn, syn, ↓reduceIte,
        Option.some.injEq] at recorded
      rw [recorded]
      rcases numbering with unset | same
      · cases unset.symm.trans isKnown
      · exact Option.some.inj (same.symm.trans isKnown)
  | connect | write _ | endInputStream | readInbound _ | tick _ | dequeue =>
      trivial

theorem Acquainted.next_le
    (acquainted : network.Acquainted)
    (call : Call)
    (side : Side) :
    (network side).connection.sender.nextSeqnoAbsolute ≤
      (network.step call side).connection.sender.nextSeqnoAbsolute := by
  rcases call.side.eq_or_eq_other side with rfl | rfl
  · rw [step_self]
    obtain ⟨log, otherLog, known⟩ := acquainted call.side
    obtain ⟨_, _, advances⟩ :=
      TCPConnection.Session.advances_step known.joined.firstAccounted
        call.op
    exact advances.next
  · rw [step_other]

theorem Copied.step
    (copied : network.Copied)
    (acquainted : network.Acquainted)
    (call : Call)
    (delivers : Delivers network call) :
    (network.step call).Copied := by
  intro smallAfter side
  have small :
      ∀ any,
        (network any).connection.sender.nextSeqnoAbsolute < 2 ^ 32 :=
    fun any =>
      Nat.lt_of_le_of_lt (acquainted.next_le call any) (smallAfter any)
  rcases call.side.eq_or_eq_other side with rfl | rfl
  · rw [step_self]
    exact ((TCPConnection.isnFixed_perform_iff call.op
      (copied small call.side)).mpr
        (delivers.repeatsIsn acquainted small)).agrees
  · rw [step_other]
    exact copied small call.side.other

theorem Reachable.copied
    (reachable : Reachable cfg random network) :
    network.Copied := by
  obtain ⟨calls, delivered, rfl⟩ := reachable
  have both :=
    Execution.EveryStep.invariant
      (fun state => Acquainted state ∧ Copied state)
      (fun _ call held delivers =>
        ⟨held.1.step call delivers, held.2.step held.1 call delivers⟩)
      ⟨acquainted_start cfg random, fun _ _ => rfl⟩ delivered
  exact both.2

end Reachable

section Rounds

/--
A call that recovery makes on an active side: its application reads, its clock
is told the time, or a segment arrives that the other side placed after a mark.
What was placed before the marks is lost.
-/
def Resumes
    (order : IterationOrder)
    (mark : Side → Nat)
    (network : TCPNetwork)
    (call : Call) : Prop :=
  (network call.side).connection.active = true ∧
    match call.op with
    | .tick _ => True
    | .readInbound _ => True
    | .segmentReceived used seg =>
        used = order ∧
          seg ∈ (network call.side.other).placed.drop
            (mark call.side.other)
    | _ => False

/-- Both sides are active, with numbers for all that was written. -/
structure Alive
    (cfg : Side → TCPConfig)
    (random : Side → WrappingInt32)
    (mark : Side → Nat)
    (network : TCPNetwork) : Prop where
  reachable : Reachable cfg random network
  short : ∀ side, (network side).written.length + 2 < 2 ^ 32
  active : ∀ side, (network side).connection.active = true
  marked : ∀ side, mark side ≤ (network side).placed.length
  clean :
    ∀ side,
      ∀ seg ∈ (network side).placed.drop (mark side),
        seg.header.rst = false

variable {cfg : Side → TCPConfig} {random : Side → WrappingInt32}
variable {order : IterationOrder} {mark : Side → Nat}
variable {network : TCPNetwork} {call : Call}

/-- Marks that leave nothing to be delivered yet. -/
theorem alive_now
    (reachable : Reachable cfg random network)
    (short : ∀ side, (network side).written.length + 2 < 2 ^ 32)
    (active : ∀ side, (network side).connection.active = true) :
    Alive cfg random (fun side => (network side).placed.length) network :=
  ⟨reachable, short, active, fun _ => Nat.le_refl _, by simp⟩

theorem Resumes.delivers
    (resumes : Resumes order mark network call) :
    Delivers network call := by
  obtain ⟨side, op⟩ := call
  cases op with
  | segmentReceived used seg =>
      exact List.mem_of_mem_drop resumes.2.2
  | connect | write _ | endInputStream | readInbound _ | tick _ | dequeue =>
      trivial

/-- Recovery writes nothing and ends no stream. -/
theorem Resumes.quiet
    (resumes : Resumes order mark network call) :
    (network call.side).connection.accepted call.op = [] ∧
      call.op ≠ .endInputStream := by
  obtain ⟨side, op⟩ := call
  obtain ⟨_, allowed⟩ := resumes
  cases op with
  | tick _ | readInbound _ | segmentReceived _ _ =>
      exact ⟨rfl, by simp⟩
  | connect | write _ | endInputStream | dequeue =>
      exact allowed.elim

theorem Resumes.written
    (resumes : Resumes order mark network call)
    (side : Side) :
    (network.step call side).written = (network side).written := by
  rcases call.side.eq_or_eq_other side with rfl | rfl
  · rw [step_self, TCPConnection.Session.step_written, resumes.quiet.1,
      List.append_nil]
  · rw [step_other]

theorem Resumes.endFlag
    (resumes : Resumes order mark network call)
    (acquainted : network.Acquainted)
    (side : Side) :
    (network.step call side).connection.sender.stream.endFlag =
      (network side).connection.sender.stream.endFlag := by
  rcases call.side.eq_or_eq_other side with rfl | rfl
  · obtain ⟨log, _, known⟩ := acquainted call.side
    rw [step_self]
    exact TCPConnection.Session.step_endFlag known.joined.firstAccounted
      resumes.quiet.2
  · rw [step_other]

theorem Alive.step
    (alive : Alive cfg random mark network)
    (resumes : Resumes order mark network call)
    (active :
      ((network call.side).connection.perform call.op).active = true) :
    Alive cfg random mark (network.step call) where
  reachable := alive.reachable.step call resumes.delivers
  short := by
    intro side
    rw [resumes.written side]
    exact alive.short side
  active := by
    intro side
    rcases call.side.eq_or_eq_other side with rfl | rfl
    · rw [step_self]
      exact active
    · rw [step_other]
      exact alive.active call.side.other
  marked := by
    intro side
    have marked := alive.marked side
    rcases call.side.eq_or_eq_other side with rfl | rfl
    · rw [step_self, TCPConnection.Session.step_placed,
        List.length_append]
      omega
    · rw [step_other]
      exact marked
  clean := by
    intro side seg member
    rcases call.side.eq_or_eq_other side with rfl | rfl
    · rw [step_self, TCPConnection.Session.step_placed,
        List.drop_append_of_le_length (alive.marked call.side)] at member
      rcases List.mem_append.mp member with before | pushed
      · exact alive.clean call.side seg before
      · by_contra isReset
        obtain ⟨log, _, known⟩ := alive.reachable.acquainted call.side
        have aborts :
            call.op.Aborts (network call.side).connection := by
          obtain ⟨msSinceLastTick, isTick, exceeded⟩ :=
            (TCPConnection.pushed_reset_iff known.joined.firstAccounted
              call.op).mp ⟨seg, pushed, Bool.of_not_eq_false isReset⟩
          rw [isTick]
          exact exceeded
        rw [aborts.aborted.inactive] at active
        cases active
    · rw [step_other] at member
      exact alive.clean call.side.other seg member

theorem Alive.small
    (alive : Alive cfg random mark network)
    (side : Side) :
    (network side).connection.sender.nextSeqnoAbsolute < 2 ^ 32 := by
  have next := alive.reachable.next_le side
  have short := alive.short side
  omega

/-- A call's segments are placed after the mark. -/
theorem Alive.fresh
    (alive : Alive cfg random mark network)
    (call : Call)
    {seg : TCPSegment}
    (pushed : seg ∈ (network call.side).connection.pushed call.op) :
    seg ∈ (network.step call call.side).placed.drop (mark call.side) := by
  rw [step_self, TCPConnection.Session.step_placed,
    List.drop_append_of_le_length (alive.marked call.side)]
  exact List.mem_append_right _ pushed

variable {side : Side}

/-- The sink reads what it has, which opens its whole window. -/
theorem Alive.read
    (alive : Alive cfg random mark network)
    (order : IterationOrder)
    (side : Side) :
    ∃ len,
      Resumes order mark network ⟨side, .readInbound len⟩ ∧
        Alive cfg random mark
          (network.step ⟨side, .readInbound len⟩) ∧
        (network.step ⟨side, .readInbound len⟩
            side).connection.receiver.windowSize =
          (cfg side).recvCapacity := by
  let len := (network side).connection.inboundStream.bufferSize
  have resumes :
      Resumes order mark network ⟨side, .readInbound len⟩ :=
    ⟨alive.active side, trivial⟩
  refine ⟨len, resumes, alive.step resumes (alive.active side), ?_⟩
  rw [← alive.reachable.capacity side]
  exact (congrArg
    (fun session : TCPConnection.Session =>
      session.connection.receiver.windowSize)
    (step_self ⟨side, .readInbound len⟩)).trans
      (TCPConnection.readInbound_opens (alive.reachable.counted side))

/-- The source sends its first outstanding segment again. -/
theorem Alive.resend
    (alive : Alive cfg random mark network)
    (patient :
      (network side).connection.sender.consecutiveRetran <
        TCPConfig.maxRetxAttempts)
    (unfinished : ¬ Finished (network side).connection.sender)
    (order : IterationOrder) :
    ∃ msSinceLastTick seg rest,
      let after := network.step ⟨side, .tick msSinceLastTick⟩
      Resumes order mark network ⟨side, .tick msSinceLastTick⟩ ∧
        Alive cfg random mark after ∧
        (after side).connection.sender.retransmissionQueue =
          seg.content :: rest ∧
        seg ∈ (after side).placed.drop (mark side) ∧
        seg.header.rst = false ∧
        (after side).connection.sender.acked =
          (network side).connection.sender.acked := by
  obtain ⟨log, _, known⟩ := alive.reachable.acquainted side
  have accounted := known.joined.firstAccounted
  obtain ⟨msSinceLastTick, first, rest, queue, resent⟩ :=
    TCPConnection.tick_resends accounted.tracked unfinished
  let call : Call := ⟨side, .tick msSinceLastTick⟩
  have resumes : Resumes order mark network call :=
    ⟨alive.active side, trivial⟩
  have active :=
    TCPConnection.tick_active accounted (alive.active side) patient
      (by rw [queue]; simp)
  have later := alive.step resumes active
  have fresh := alive.fresh call resent
  have sameSession :
      network.step call side =
        (network side).step (.tick msSinceLastTick) :=
    step_self call
  -- what is outstanding was logged, with no other header fields
  obtain ⟨longer, _, knownAfter⟩ := later.reachable.acquainted side
  have tracked := knownAfter.joined.firstAccounted.tracked
  obtain ⟨acknowledged, shape, _⟩ := tracked.queued.split
  have queueAfter :
      (network.step call side).connection.sender.retransmissionQueue =
        first :: rest := by
    rw [sameSession]
    exact queue
  have outstanding :
      first ∈
        (network.step call side).connection.sender.retransmissionQueue := by
    rw [queueAfter]
    exact List.mem_cons_self
  have plain : first.content = first := by
    refine tracked.logged.content_eq ?_
    rw [shape]
    exact List.mem_append_right _ outstanding
  refine ⟨msSinceLastTick,
    TCPConnection.stamp (network side).connection.receiver first, rest,
    resumes, later, ?_, fresh, ?_, ?_⟩
  · rw [TCPConnection.stamp_content, plain]
    exact queueAfter
  · rw [TCPConnection.stamp_rst, ← plain]
    rfl
  · rw [sameSession]
    exact (TCPConnection.tick_counts _ msSinceLastTick).1

/-- An active side stays active until a reset arrives. -/
theorem segmentReceived_active
    {connection : TCPConnection}
    {seg : TCPSegment}
    (active : connection.active = true)
    (noRst : seg.header.rst = false) :
    (connection.segmentReceived seg order).active = true := by
  obtain ⟨_, _, _, close⟩ :=
    TCPConnection.segmentReceived_frame order seg connection
  rw [TCPConnection.active, close, noRst, Bool.or_false]
  exact active

/-- The sink takes up the resent segment and answers it. -/
theorem Alive.deliver
    (alive : Alive cfg random mark network)
    (hasRoom : 0 < (cfg side.other).recvCapacity)
    (fits : (cfg side.other).recvCapacity ≤ 2 ^ 64 - 2 ^ 32)
    (isOpen :
      (network side.other).connection.receiver.windowSize =
        (cfg side.other).recvCapacity)
    {seg : TCPSegment}
    {rest : List TCPSegment}
    (queue :
      (network side).connection.sender.retransmissionQueue =
        seg.content :: rest)
    (placed : seg ∈ (network side).placed.drop (mark side))
    (noRst : seg.header.rst = false)
    (order : IterationOrder) :
    ∃ answer,
      let call : Call := ⟨side.other, .segmentReceived order seg⟩
      let after := network.step call
      let assembled := (after side.other).connection.receiver.assembled
      Resumes order mark network call ∧
        Alive cfg random mark after ∧
        (network side).connection.sender.acked < assembled ∧
        answer ∈ (after side.other).placed.drop (mark side.other) ∧
        answer.header.rst = false ∧
        answer.header.ack = true ∧
        answer.header.ackno =
          wrap assembled (network side).connection.sender.isn := by
  obtain ⟨log, otherLog, known⟩ := alive.reachable.acquainted side
  have tracked := known.joined.firstAccounted.tracked
  obtain ⟨flow, _⟩ :=
    known.joined.flows (alive.small side) (alive.small side.other)
  obtain ⟨acknowledged, shape, starts, ends⟩ := tracked.queued.split
  have split : log = acknowledged ++ seg.content :: rest := by
    rw [← queue]
    exact shape
  have few :
      (network side.other).connection.receiver.assembled < 2 ^ 32 :=
    flow.assembled_lt tracked (alive.small side)
  obtain ⟨advanced, isn⟩ :=
    TCPConnection.segmentReceived_advances flow tracked
      (alive.small side) split starts (ends seg.content rest queue) noRst
      (alive.reachable.copied alive.small side.other)
      (fun unset => (known.forward unset).1)
      (alive.reachable.counted side.other)
      (by rw [isOpen]; exact hasRoom)
      (by rw [TCPReceiver.rightEdge, isOpen]; omega)
      order
  let call : Call := ⟨side.other, .segmentReceived order seg⟩
  have resumes : Resumes order mark network call :=
    ⟨alive.active side.other, rfl, by
      simpa only [call, Side.other_other] using placed⟩
  have occupies : seg.lengthInSequenceSpace ≠ 0 := by
    have before := ends seg.content rest queue
    have same :
        seg.content.lengthInSequenceSpace = seg.lengthInSequenceSpace :=
      rfl
    omega
  obtain ⟨answer, pushed, hasAck, ackno⟩ :=
    TCPConnection.pushed_acknowledges occupies order
      (TCPConnection.ackno_eq isn)
  have answerNoRst : answer.header.rst = false := by
    by_contra isReset
    obtain ⟨_, isTick, _⟩ :=
      (TCPConnection.pushed_reset_iff known.joined.secondAccounted
        _).mp ⟨answer, pushed, Bool.of_not_eq_false isReset⟩
    cases isTick
  have sameSession :
      network.step call side.other =
        (network side.other).step (.segmentReceived order seg) :=
    step_self call
  refine ⟨answer, resumes,
    alive.step resumes
      (segmentReceived_active (alive.active side.other) noRst),
    ?_, alive.fresh call pushed, answerNoRst, hasAck, ?_⟩
  · rw [sameSession]
    exact advanced
  · rw [sameSession]
    exact ackno

/-- The source moves on to what the answer acknowledges. -/
theorem Alive.acknowledge
    (alive : Alive cfg random mark network)
    (outstanding :
      (network side).connection.sender.retransmissionQueue ≠ [])
    {answer : TCPSegment}
    (isNew :
      (network side).connection.sender.acked <
        (network side.other).connection.receiver.assembled)
    (placed :
      answer ∈ (network side.other).placed.drop (mark side.other))
    (noRst : answer.header.rst = false)
    (hasAck : answer.header.ack = true)
    (ackno :
      answer.header.ackno =
        wrap (network side.other).connection.receiver.assembled
          (network side).connection.sender.isn)
    (order : IterationOrder) :
    let call : Call := ⟨side, .segmentReceived order answer⟩
    let after := network.step call
    Resumes order mark network call ∧
      Alive cfg random mark after ∧
      (after side).connection.sender.acked =
        (network side.other).connection.receiver.assembled ∧
      (after side).connection.sender.consecutiveRetran = 0 := by
  obtain ⟨log, otherLog, known⟩ := alive.reachable.acquainted side
  have tracked := known.joined.firstAccounted.tracked
  obtain ⟨flow, _⟩ :=
    known.joined.flows (alive.small side) (alive.small side.other)
  let call : Call := ⟨side, .segmentReceived order answer⟩
  have resumes : Resumes order mark network call :=
    ⟨alive.active side, rfl, placed⟩
  have begun : log ≠ [] := by
    obtain ⟨acknowledged, shape, _⟩ := tracked.queued.split
    rw [show log = _ from shape]
    exact List.append_ne_nil_of_right_ne_nil _ outstanding
  obtain ⟨acked, count⟩ :=
    TCPConnection.segmentReceived_accepts hasAck ackno
      (flow.assembled_lt tracked (alive.small side)) isNew
      (flow.assembled_le_next tracked begun) order
  have sameSession :
      network.step call side =
        (network side).step (.segmentReceived order answer) :=
    step_self call
  refine ⟨resumes,
    alive.step resumes (segmentReceived_active (alive.active side) noRst),
    ?_, ?_⟩
  · rw [sameSession]
    exact acked
  · rw [sameSession]
    exact Nat.le_zero.mp count

/-- How often in a row each side has retransmitted. -/
def attempts
    (network : TCPNetwork)
    (side : Side) : Nat :=
  (network side).connection.sender.consecutiveRetran

/-- The numbers of a stream that its source does not know to be heard. -/
def unheard
    (side : Side)
    (network : TCPNetwork) : Nat :=
  (network side).written.length + 2 -
    (network side).connection.sender.acked

/-- Only the clock adds an attempt. -/
theorem Resumes.attempts_le
    (resumes : Resumes order mark network call)
    (notTick : ∀ msSinceLastTick, call.op ≠ .tick msSinceLastTick)
    (any : Side) :
    (network.step call).attempts any ≤ network.attempts any := by
  unfold attempts
  rcases call.side.eq_or_eq_other any with rfl | rfl
  · rw [step_self]
    obtain ⟨side, op⟩ := call
    cases op with
    | readInbound len =>
        exact Nat.le_refl _
    | segmentReceived used seg =>
        exact TCPConnection.segmentReceived_consecutiveRetran_le used
    | tick ms =>
        exact (notTick ms rfl).elim
    | connect | write _ | endInputStream | dequeue =>
        exact resumes.2.elim
  · rw [step_other]

/-- A source has numbers left for what is acknowledged next. -/
theorem Alive.acked_le
    (alive : Alive cfg random mark network)
    (side : Side) :
    (network side).connection.sender.acked ≤
      (network side).written.length + 2 := by
  obtain ⟨log, _, known⟩ := alive.reachable.acquainted side
  have next := alive.reachable.next_le side
  have acked := known.joined.firstAccounted.tracked.queued.bound
  exact Nat.le_trans acked next

/--
A round trip: the sink reads, the source resends, the sink answers and the
source moves on.
-/
theorem Alive.round
    (alive : Alive cfg random mark network)
    (hasRoom : 0 < (cfg side.other).recvCapacity)
    (fits : (cfg side.other).recvCapacity ≤ 2 ^ 64 - 2 ^ 32)
    (patient : network.attempts side < TCPConfig.maxRetxAttempts)
    (unfinished : ¬ Finished (network side).connection.sender)
    (order : IterationOrder) :
    ∃ calls,
      calls.length ≤ 4 ∧
        Execution.EveryStep TCPNetwork.step (Resumes order mark) network
          calls ∧
        Alive cfg random mark
          (Execution.run TCPNetwork.step network calls) ∧
        (∀ any,
          (Execution.run TCPNetwork.step network calls).attempts any ≤
            network.attempts any) ∧
        unheard side (Execution.run TCPNetwork.step network calls) <
          unheard side network := by
  obtain ⟨len, reads, opened, isOpen⟩ := alive.read order side.other
  let read := network.step ⟨side.other, .readInbound len⟩
  have untouched : read side = network side := by
    have same := @step_other network ⟨side.other, .readInbound len⟩
    rwa [Side.other_other] at same
  have stillPatient : read.attempts side < TCPConfig.maxRetxAttempts := by
    rw [attempts, untouched]
    exact patient
  have stillUnfinished : ¬ Finished (read side).connection.sender := by
    rw [untouched]
    exact unfinished
  obtain ⟨ms, seg, rest, ticks, resent, queue, placed, noRst, acked⟩ :=
    opened.resend stillPatient stillUnfinished order
  let ticked := read.step ⟨side, .tick ms⟩
  have waiting : ticked side.other = read side.other :=
    @step_other read ⟨side, .tick ms⟩
  have stillOpen :
      (ticked side.other).connection.receiver.windowSize =
        (cfg side.other).recvCapacity := by
    rw [waiting]
    exact isOpen
  obtain ⟨answer, answers, answered, isNew, back, backNoRst, hasAck,
      ackno⟩ :=
    resent.deliver hasRoom fits stillOpen queue placed noRst order
  let delivered := ticked.step ⟨side.other, .segmentReceived order seg⟩
  have sent : delivered side = ticked side := by
    have same :=
      @step_other ticked ⟨side.other, .segmentReceived order seg⟩
    rwa [Side.other_other] at same
  have outstanding :
      (delivered side).connection.sender.retransmissionQueue ≠ [] := by
    rw [sent, show _ = _ :: rest from queue]
    exact List.cons_ne_nil _ _
  have newer :
      (delivered side).connection.sender.acked <
        (delivered side.other).connection.receiver.assembled := by
    rw [sent]
    exact isNew
  have numbered :
      answer.header.ackno =
        wrap (delivered side.other).connection.receiver.assembled
          (delivered side).connection.sender.isn := by
    rw [sent]
    exact ackno
  obtain ⟨hears, heard, moved, count⟩ :=
    answered.acknowledge outstanding newer back backNoRst hasAck numbered
      order
  let final := delivered.step ⟨side, .segmentReceived order answer⟩
  refine ⟨[⟨side.other, .readInbound len⟩, ⟨side, .tick ms⟩,
    ⟨side.other, .segmentReceived order seg⟩,
    ⟨side, .segmentReceived order answer⟩],
    Nat.le_refl 4, ⟨reads, ticks, answers, hears, trivial⟩, heard,
    ?_, ?_⟩
  · intro any
    rcases side.eq_or_eq_other any with rfl | rfl
    · exact (Nat.le_of_eq count).trans (Nat.zero_le _)
    · calc
        final.attempts side.other
            ≤ delivered.attempts side.other :=
              hears.attempts_le (by simp) side.other
        _ ≤ ticked.attempts side.other :=
              answers.attempts_le (by simp) side.other
        _ = read.attempts side.other := by
              rw [attempts, waiting, attempts]
        _ ≤ network.attempts side.other :=
              reads.attempts_le (by simp) side.other
  · have written : (final side).written = (network side).written := by
      rw [hears.written, answers.written, ticks.written, reads.written]
    have bounded :
        (final side).connection.sender.acked ≤
          (final side).written.length + 2 :=
      heard.acked_le side
    have advanced :
        (network side).connection.sender.acked <
          (final side).connection.sender.acked := calc
      (network side).connection.sender.acked
          = (ticked side).connection.sender.acked := by
            rw [← untouched]
            exact acked.symm
      _ < (delivered side.other).connection.receiver.assembled := isNew
      _ = (final side).connection.sender.acked := moved.symm
    change unheard side final < unheard side network
    rw [written] at bounded
    rw [unheard, unheard, written]
    omega

/--
A source that still hopes for an answer is heard to the end of what was written
so far, by one round trip for each number at most.
-/
theorem Alive.finish
    (alive : Alive cfg random mark network)
    (hasRoom : 0 < (cfg side.other).recvCapacity)
    (fits : (cfg side.other).recvCapacity ≤ 2 ^ 64 - 2 ^ 32)
    (patient : network.attempts side < TCPConfig.maxRetxAttempts)
    (order : IterationOrder) :
    ∃ calls,
      calls.length ≤ 4 * unheard side network ∧
        Execution.EveryStep TCPNetwork.step (Resumes order mark) network
          calls ∧
        Alive cfg random mark
          (Execution.run TCPNetwork.step network calls) ∧
        (∀ any,
          (Execution.run TCPNetwork.step network calls).attempts any ≤
            network.attempts any) ∧
        Finished
          (Execution.run TCPNetwork.step network calls
            side).connection.sender := by
  obtain ⟨calls, few, resumed, ⟨later, fewer⟩, finished⟩ :=
    Execution.EveryStep.reaches_goal
      (fun state =>
        Alive cfg random mark state ∧
          ∀ any, attempts state any ≤ network.attempts any)
      (fun state => Finished (state side).connection.sender)
      (unheard side) 4
      (by
        rintro state ⟨held, bounded⟩ unfinished
        obtain ⟨calls, few, resumed, later, fewer, smaller⟩ :=
          held.round hasRoom fits
            (Nat.lt_of_le_of_lt (bounded side) patient) unfinished order
        exact ⟨calls, few, resumed,
          ⟨later, fun any => Nat.le_trans (fewer any) (bounded any)⟩,
          smaller⟩)
      ⟨alive, fun _ => Nat.le_refl _⟩
  exact ⟨calls, few, resumed, later, fewer, finished⟩

/-- Recovery changes neither what was written nor whether it ended. -/
theorem Alive.resumed
    (alive : Alive cfg random mark network)
    {calls : List Call}
    (resumed :
      Execution.EveryStep TCPNetwork.step (Resumes order mark) network
        calls)
    (side : Side) :
    (Execution.run TCPNetwork.step network calls side).written =
        (network side).written ∧
      (Execution.run TCPNetwork.step network calls
          side).connection.sender.stream.endFlag =
        (network side).connection.sender.stream.endFlag := by
  have kept :=
    Execution.EveryStep.invariant
      (fun state =>
        Reachable cfg random state ∧
          (state side).written = (network side).written ∧
          (state side).connection.sender.stream.endFlag =
            (network side).connection.sender.stream.endFlag)
      (fun _ call held resumes =>
        ⟨held.1.step call resumes.delivers,
          (resumes.written side).trans held.2.1,
          (resumes.endFlag held.1.acquainted side).trans held.2.2⟩)
      ⟨alive.reachable, rfl, rfl⟩ resumed
  exact kept.2

end Rounds

/--
From every reachable state in which both connections are active, however many
segments were lost, a stream is delivered whole.  If the receiving side has any
capacity and the sending side has not used up its attempts, the two clocks, the
reader and the delivery of segments that are sent from now on suffice, with one
round trip for each number that is not yet acknowledged.
-/
theorem stream_recovers
    (cfg : Side → TCPConfig)
    (random : Side → WrappingInt32)
    (calls : List Call)
    (delivered :
      Execution.EveryStep step Delivers (start cfg random) calls)
    (side : Side)
    (active :
      ∀ any, (after cfg random calls any).connection.active = true)
    (short :
      ∀ any, (after cfg random calls any).written.length + 2 < 2 ^ 32)
    (hasRoom : 0 < (cfg side.other).recvCapacity)
    (fits : (cfg side.other).recvCapacity ≤ 2 ^ 64 - 2 ^ 32)
    (patient :
      (after cfg random calls side).connection.sender.consecutiveRetran <
        TCPConfig.maxRetxAttempts)
    (order : IterationOrder) :
    let network := after cfg random calls
    let mark := fun any => (network any).placed.length
    let unacknowledged :=
      (network side).written.length + 2 -
        (network side).connection.sender.acked
    ∃ resumed,
      resumed.length ≤ 4 * unacknowledged ∧
        Execution.EveryStep step (Resumes order mark) network resumed ∧
        let final := Execution.run step network resumed
        let inbound := (final side.other).connection.inboundStream
        (∀ any, (final any).connection.active = true) ∧
          (final side).connection.sender.bytesInFlight = 0 ∧
          (final side.other).taken ++ inbound.contents =
            (network side).written ∧
          ((network side).connection.sender.stream.inputEnded = true →
            inbound.inputEnded = true) := by
  intro network mark unacknowledged
  have alive : Alive cfg random mark network :=
    alive_now ⟨calls, delivered, rfl⟩ short active
  obtain ⟨resumed, few, guarded, later, _, finished⟩ :=
    alive.finish hasRoom fits patient order
  obtain ⟨written, ended⟩ := alive.resumed guarded side
  obtain ⟨log, otherLog, known⟩ := later.reachable.acquainted side
  obtain ⟨flow, _⟩ :=
    known.joined.flows (later.small side) (later.small side.other)
  have tracked := known.joined.firstAccounted.tracked
  obtain ⟨whole, atEnd⟩ := flow.complete_of_finished tracked finished
  refine ⟨resumed, few, guarded, later.active, ?_, ?_, ?_⟩
  · exact (tracked.queued.bytesInFlight_eq_zero_iff
      tracked.logged).mpr finished.1
  · rw [← show _ = (network side).written from written]
    exact whole
  · intro wasEnded
    exact atEnd (ended.trans wasEnded)

/-- An opening of which nothing arrives. -/
def lostOpening : List Call := [
  ⟨.a, .connect⟩,
  ⟨.a, .write [97, 98]⟩,
  ⟨.a, .endInputStream⟩]

theorem stream_recovers_lostOpening :
    let network := after (fun _ => {}) initialNumbers lostOpening
    ∃ resumed,
      resumed.length ≤ 16 ∧
        let sink := Execution.run step network resumed .b
        sink.taken ++ sink.connection.inboundStream.contents = [97, 98] ∧
          sink.connection.inboundStream.inputEnded = true := by
  intro network
  have delivered :
      Execution.EveryStep step Delivers
        (start (fun _ => {}) initialNumbers) lostOpening := by
    decide +kernel
  have active :
      ∀ any, (network any).connection.active = true := by
    intro any
    cases any <;> decide +kernel
  have short :
      ∀ any, (network any).written.length + 2 < 2 ^ 32 := by
    intro any
    cases any <;> decide +kernel
  have patient :
      (network .a).connection.sender.consecutiveRetran <
        TCPConfig.maxRetxAttempts := by
    decide +kernel
  obtain ⟨resumed, few, _, _, _, whole, ended⟩ :=
    stream_recovers (fun _ => {}) initialNumbers lostOpening delivered .a
      active short (by decide) (by decide) patient .stored
  have written : (network .a).written = [97, 98] := by
    decide +kernel
  have unacknowledged :
      (network .a).written.length + 2 -
        (network .a).connection.sender.acked = 4 := by
    decide +kernel
  have wasEnded :
      (network .a).connection.sender.stream.inputEnded = true := by
    decide +kernel
  refine ⟨resumed, ?_, ?_, ended wasEnded⟩
  · rw [unacknowledged] at few
    exact few
  · rw [← written]
    exact whole

end TCPNetwork

end Sponge
