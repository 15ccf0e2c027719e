import Sponge.StreamReassemblerCapacity
import Sponge.TCPNetworkRecovery

namespace Sponge

/-!
# Closing after any loss

Once both applications have ended their streams, two active connections can
close without a reset: each stream recovers in turn, the readers take what is
left, and the clocks run past the time a connection lingers.
-/

namespace StreamReassembler

/-- Once the output has ended nothing is left to assemble. -/
theorem Sound.nothing_unassembled
    {sequence taken : Bytes}
    {r : StreamReassembler}
    (sound : Sound sequence taken r)
    (ended : r.output.endFlag = true) :
    r.unassembledBytes = 0 := by
  obtain ⟨_, all⟩ := sound.ended_iff.mp ended
  rw [unassembledBytes_eq sound.layout.bounded, Finset.card_eq_zero,
    Finset.eq_empty_iff_forall_notMem]
  intro index stored
  obtain ⟨key, fragment, found, starts, stops⟩ :=
    mem_storedIndices.mp stored
  have ahead := sound.layout.settled key fragment found
  have nonempty : fragment ≠ [] := by
    rintro rfl
    simp only [List.length_nil] at stops
    omega
  have inside := (sound.intact.fragments key fragment found).end_le nonempty
  omega

end StreamReassembler

namespace TCPConnection

section Closing

variable {connection : TCPConnection}

/-- With both streams finished, time is all a connection waits for. -/
theorem tickFinish_of_finished
    (assembled : connection.receiver.unassembledBytes = 0)
    (inboundEnd : connection.receiver.streamOut.eof = true)
    (outboundEnd : connection.sender.stream.eof = true)
    (drained : connection.sender.bytesInFlight = 0)
    (waited :
      10 * connection.cfg.rtTimeout.toNat ≤
        connection.timeSinceLastSegmentReceived) :
    connection.tickFinish.close = true := by
  simp [tickFinish, assembled, inboundEnd, outboundEnd, drained, waited]

/-- The time that is left until a connection has lingered long enough. -/
def lingering (connection : TCPConnection) : Nat :=
  10 * connection.cfg.rtTimeout.toNat -
    connection.timeSinceLastSegmentReceived

/-- After that time the clocks show that it has passed. -/
theorem tickSend_lingered
    (ticks : connection.ticks < 2 ^ 64)
    (receTick : connection.receTick < 2 ^ 64) :
    let sent := connection.tickSend connection.lingering
    10 * sent.cfg.rtTimeout.toNat ≤ sent.timeSinceLastSegmentReceived := by
  obtain ⟨cfg, ticksAfter, receTickAfter, _⟩ :=
    tickSend_frame connection connection.lingering
  have short := connection.cfg.rtTimeout.toNat_lt
  have waits :
      connection.lingering =
        10 * connection.cfg.rtTimeout.toNat -
          connection.timeSinceLastSegmentReceived :=
    rfl
  dsimp only
  rw [timeSinceLastSegmentReceived, cfg, ticksAfter, receTickAfter]
  generalize connection.lingering = left at waits
  rw [timeSinceLastSegmentReceived] at waits
  by_cases ordered : connection.receTick ≤ connection.ticks
  · rw [sub64_of_le ordered] at waits
    by_cases wraps : connection.ticks + left < 2 ^ 64
    · rw [Nat.mod_eq_of_lt wraps, sub64_of_le (by omega)]
      omega
    · have wrapped :
          (connection.ticks + left) % 2 ^ 64 =
            connection.ticks + left - 2 ^ 64 := by
        omega
      rw [wrapped, sub64_of_lt (by omega) receTick]
      omega
  · rw [sub64_of_lt (by omega) receTick] at waits
    by_cases passes :
        (connection.ticks + left) % 2 ^ 64 < connection.receTick
    · rw [sub64_of_lt passes receTick]
      omega
    · rw [sub64_of_le (by omega)]
      omega

/-- The FIN was sent and everything up to it was acknowledged. -/
def Settled (sender : TCPSender) : Prop :=
  sender.state = .finSent ∧ sender.acked = sender.nextSeqnoAbsolute

/-- A sender that is settled remains so. -/
theorem Settled.advances
    {before after : TCPEndpoint}
    (settled : Settled before.out.sender)
    (advances : TCPEndpoint.Advances before after)
    (bound :
      after.out.sender.acked ≤ after.out.sender.nextSeqnoAbsolute) :
    Settled after.out.sender := by
  obtain ⟨finished, heard⟩ := settled
  obtain ⟨still, next⟩ := advances.finished finished
  have acked := advances.acked
  exact ⟨still, by omega⟩

/-- A settled connection closes as soon as it has lingered long enough. -/
theorem tick_closes
    {session : Session}
    {log : List TCPSegment}
    {cfg : TCPConfig}
    (accounted : (session.view log).Accounted)
    (timed : session.Timed cfg)
    (patient :
      session.connection.sender.consecutiveRetran <
        TCPConfig.maxRetxAttempts)
    (settled : Settled session.connection.sender)
    (assembled : session.connection.receiver.unassembledBytes = 0)
    (inboundEnd : session.connection.inboundStream.eof = true) :
    let op := Op.tick session.connection.lingering
    ¬ op.Aborts session.connection ∧
      (session.step op).connection.active = false := by
  intro op
  let sent :=
    session.connection.tickSend session.connection.lingering
  have clean : ¬ op.Aborts session.connection := by
    have counts :=
      (tick_counts session.connection session.connection.lingering).2
    intro exceeded
    have beyond := exceeded_iff.mp exceeded
    omega
  refine ⟨clean, ?_⟩
  obtain ⟨_, _, reach⟩ :=
    @refines_tickSend op session.connection.lingering session.connection
  obtain ⟨longer, reached⟩ :=
    reach session.written session.taken session.placed log
  obtain ⟨accountedSent, advances⟩ :=
    reached.invariant
      (fun endpoint =>
        endpoint.Accounted ∧
          TCPEndpoint.Advances (session.view log) endpoint)
      (fun _ action held _ =>
        ⟨held.1.act action, held.2.trans (held.1.act_advances action)⟩)
      ⟨accounted, .refl _⟩
  obtain ⟨finished, heard⟩ :=
    settled.advances advances accountedSent.tracked.queued.bound
  have receiver : sent.receiver = session.connection.receiver :=
    (tickSend_inbound session.connection _).receiver
  have ticks : session.connection.ticks < 2 ^ 64 := by
    rw [timed.ticks]
    exact Nat.mod_lt _ (by decide)
  have closes : sent.tickFinish.close = true := by
    refine tickFinish_of_finished ?_ ?_ ?_ ?_
      (tickSend_lingered ticks timed.receTick)
    · rw [receiver]
      exact assembled
    · rw [receiver]
      exact inboundEnd
    · exact accountedSent.tracked.logged.ended finished
    · exact sub64_eq_zero_iff.mpr heard.symm
  have performed :
      session.connection.perform op = sent.tickFinish := by
    simp only [op, Op.Aborts] at clean
    simp only [op, perform, tick, tickAbort]
    rw [if_neg clean]
  rw [Session.step_connection, performed, active, closes]
  rfl

end Closing

end TCPConnection

namespace TCPNetwork

open TCPConnection (Settled)

section Closing

variable {cfg : Side → TCPConfig} {random : Side → WrappingInt32}
variable {order : IterationOrder} {mark : Side → Nat}
variable {network : TCPNetwork} {side : Side}

/-- Recovery takes both endpoints forward. -/
theorem Alive.advances
    (alive : Alive cfg random mark network)
    {calls : List Call}
    (resumed :
      Execution.EveryStep TCPNetwork.step (Resumes order mark) network
        calls)
    (side : Side) :
    TCPEndpoint.Advances ((network side).view [])
      ((Execution.run TCPNetwork.step network calls side).view []) := by
  have kept :=
    Execution.EveryStep.invariant
      (fun state =>
        Reachable cfg random state ∧
          TCPEndpoint.Advances ((network side).view [])
            ((state side).view []))
      (fun state call held resumes => by
        refine ⟨held.1.step call resumes.delivers, held.2.trans ?_⟩
        rcases call.side.eq_or_eq_other side with rfl | rfl
        · obtain ⟨log, _, known⟩ := held.1.acquainted call.side
          obtain ⟨_, _, advances⟩ :=
            TCPConnection.Session.advances_step
              known.joined.firstAccounted call.op
          rw [step_self]
          -- the log plays no part in how far an endpoint has come
          exact ⟨advances.next, advances.acked, advances.finished,
            advances.outboundError, advances.known, advances.ended,
            advances.inboundError⟩
        · rw [step_other]
          exact .refl _)
      ⟨alive.reachable, .refl _⟩ resumed
  exact kept.2

/-- A settled source has been heard to the end of its stream. -/
theorem Alive.heard_whole
    (alive : Alive cfg random mark network)
    (settled : Settled (network side).connection.sender) :
    let sink := network side.other
    sink.taken ++ sink.connection.inboundStream.contents =
        (network side).written ∧
      sink.connection.inboundStream.inputEnded = true ∧
      sink.connection.receiver.unassembledBytes = 0 := by
  obtain ⟨log, otherLog, known⟩ := alive.reachable.acquainted side
  have tracked := known.joined.firstAccounted.tracked
  obtain ⟨flow, _⟩ :=
    known.joined.flows (alive.small side) (alive.small side.other)
  obtain ⟨finished, heard⟩ := settled
  have drained : (network side).connection.sender.bytesInFlight = 0 :=
    sub64_eq_zero_iff.mpr heard.symm
  have emptied :=
    (tracked.queued.bytesInFlight_eq_zero_iff tracked.logged).mp drained
  obtain ⟨whole, ends⟩ :=
    flow.complete_of_finished tracked ⟨emptied, Or.inl finished⟩
  have atEnd := tracked.logged.ended finished
  simp only [ByteStream.eof, Bool.and_eq_true] at atEnd
  have ended := ends atEnd.1
  exact ⟨whole, ended, flow.sound.nothing_unassembled ended⟩

/-- A source whose application has ended its stream can be settled. -/
theorem Alive.settle
    (alive : Alive cfg random mark network)
    (side : Side)
    (hasRoom : 0 < (cfg side.other).recvCapacity)
    (fits : (cfg side.other).recvCapacity ≤ 2 ^ 64 - 2 ^ 32)
    (patient : network.attempts side < TCPConfig.maxRetxAttempts)
    (ended :
      (network side).connection.sender.stream.endFlag = true)
    (order : IterationOrder) :
    ∃ calls,
      calls.length ≤ 4 * unheard side network ∧
        Execution.EveryStep TCPNetwork.step (Resumes order mark) network
          calls ∧
        Alive cfg random mark
          (Execution.run TCPNetwork.step network calls) ∧
        (∀ any,
          (Execution.run TCPNetwork.step network calls).attempts any ≤
            network.attempts any) ∧
        Settled
          (Execution.run TCPNetwork.step network calls
            side).connection.sender := by
  obtain ⟨calls, few, resumed, later, fewer, emptied, outcome⟩ :=
    alive.finish hasRoom fits patient order
  obtain ⟨_, stillEnded⟩ := alive.resumed resumed side
  obtain ⟨log, _, known⟩ := later.reachable.acquainted side
  have tracked := known.joined.firstAccounted.tracked
  have drained :=
    (tracked.queued.bytesInFlight_eq_zero_iff tracked.logged).mpr emptied
  refine ⟨calls, few, resumed, later, fewer, ?_,
    (sub64_eq_zero_iff.mp drained).symm⟩
  refine outcome.resolve_right ?_
  rintro ⟨_, unended⟩
  rw [stillEnded, ended] at unended
  cases unended

/-- Recovery keeps a settled source settled. -/
theorem Alive.still_settled
    (alive : Alive cfg random mark network)
    {calls : List Call}
    (resumed :
      Execution.EveryStep TCPNetwork.step (Resumes order mark) network
        calls)
    (later :
      Alive cfg random mark
        (Execution.run TCPNetwork.step network calls))
    (settled : Settled (network side).connection.sender) :
    Settled
      (Execution.run TCPNetwork.step network calls
        side).connection.sender := by
  obtain ⟨log, _, known⟩ := later.reachable.acquainted side
  exact TCPConnection.Settled.advances settled
    (alive.advances resumed side)
    known.joined.firstAccounted.tracked.queued.bound

/-- What is unheard only becomes less. -/
theorem Alive.unheard_le
    (alive : Alive cfg random mark network)
    {calls : List Call}
    (resumed :
      Execution.EveryStep TCPNetwork.step (Resumes order mark) network
        calls)
    (side : Side) :
    unheard side (Execution.run TCPNetwork.step network calls) ≤
      unheard side network := by
  have acked :
      (network side).connection.sender.acked ≤
        (Execution.run TCPNetwork.step network calls
          side).connection.sender.acked :=
    (alive.advances resumed side).acked
  rw [unheard, unheard, (alive.resumed resumed side).1]
  omega

/-- Both sources can be settled, one after the other. -/
theorem Alive.settle_both
    (alive : Alive cfg random mark network)
    (hasRoom : ∀ any, 0 < (cfg any).recvCapacity)
    (fits : ∀ any, (cfg any).recvCapacity ≤ 2 ^ 64 - 2 ^ 32)
    (patient : ∀ any, network.attempts any < TCPConfig.maxRetxAttempts)
    (ended :
      ∀ any, (network any).connection.sender.stream.endFlag = true)
    (order : IterationOrder) :
    ∃ calls,
      calls.length ≤ 4 * (unheard .a network + unheard .b network) ∧
        Execution.EveryStep TCPNetwork.step (Resumes order mark) network
          calls ∧
        Alive cfg random mark
          (Execution.run TCPNetwork.step network calls) ∧
        (∀ any,
          (Execution.run TCPNetwork.step network calls).attempts any ≤
            network.attempts any) ∧
        ∀ any,
          Settled
            (Execution.run TCPNetwork.step network calls
              any).connection.sender := by
  obtain ⟨first, few, resumed, settled, fewer, ofA⟩ :=
    alive.settle .a (hasRoom _) (fits _) (patient .a) (ended .a) order
  obtain ⟨second, fewLater, resumedLater, both, fewerLater, ofB⟩ :=
    settled.settle .b (hasRoom _) (fits _)
      (Nat.lt_of_le_of_lt (fewer .b) (patient .b))
      ((alive.resumed resumed .b).2.trans (ended .b)) order
  have rest := alive.unheard_le resumed .b
  refine ⟨first ++ second, ?_,
    Execution.EveryStep.append_iff.mpr ⟨resumed, resumedLater⟩, ?_⟩
  · rw [List.length_append]
    omega
  · rw [Execution.run_append]
    refine ⟨both, fun any => (fewerLater any).trans (fewer any), ?_⟩
    intro any
    cases any with
    | a =>
        exact settled.still_settled resumedLater both ofA
    | b =>
        exact ofB

/-- Both sides read what they have. -/
theorem Alive.drain
    (alive : Alive cfg random mark network)
    (order : IterationOrder) :
    ∃ calls,
      calls.length = 2 ∧
        Execution.EveryStep TCPNetwork.step (Resumes order mark) network
          calls ∧
        Alive cfg random mark
          (Execution.run TCPNetwork.step network calls) ∧
        (∀ any,
          (Execution.run TCPNetwork.step network calls).attempts any ≤
            network.attempts any) ∧
        ∀ any,
          (Execution.run TCPNetwork.step network calls
              any).connection.receiver.windowSize =
            (cfg any).recvCapacity := by
  obtain ⟨len, reads, first, opened⟩ := alive.read order .a
  obtain ⟨otherLen, readsOther, second, otherOpened⟩ :=
    first.read order .b
  refine ⟨[⟨.a, .readInbound len⟩, ⟨.b, .readInbound otherLen⟩], rfl,
    ⟨reads, readsOther, trivial⟩, second, ?_, ?_⟩
  · intro any
    exact (readsOther.attempts_le (by simp) any).trans
      (reads.attempts_le (by simp) any)
  · intro any
    cases any with
    | a =>
        exact opened
    | b =>
        exact otherOpened

/-- A side whose window is all of its capacity has nothing left to read. -/
theorem Alive.buffer_empty
    (alive : Alive cfg random mark network)
    (hasRoom : 0 < (cfg side).recvCapacity)
    (isOpen :
      (network side).connection.receiver.windowSize =
        (cfg side).recvCapacity) :
    (network side).connection.inboundStream.size = 0 := by
  obtain ⟨fits, windowSize, _⟩ :=
    TCPReceiver.rightEdge_eq (alive.reachable.counted side)
  rw [isOpen, alive.reachable.capacity side] at windowSize
  simp only [ByteStream.bufferSize] at windowSize
  change (network side).connection.receiver.streamOut.size = 0
  omega

/-- What is left of a connection that has closed without a reset. -/
structure ClosedCleanly
    (network : TCPNetwork)
    (mark : Side → Nat)
    (side : Side)
    (session : TCPConnection.Session) : Prop where
  state : session.connection.state = TCPState.ofState .closed
  taken : session.taken = (network side.other).written
  noReset :
    ∀ seg ∈ session.placed.drop (mark side), seg.header.rst = false

/-- With both sources settled and both buffers empty, a side can close. -/
theorem Alive.close
    (alive : Alive cfg random mark network)
    (patient : network.attempts side < TCPConfig.maxRetxAttempts)
    (settled : ∀ any, Settled (network any).connection.sender)
    (emptied : (network side).connection.inboundStream.size = 0) :
    ∃ msSinceLastTick,
      ClosedCleanly network mark side
        ((network side).step (.tick msSinceLastTick)) := by
  have fromOther := alive.heard_whole (settled side.other)
  rw [Side.other_other] at fromOther
  obtain ⟨whole, ended, assembled⟩ := fromOther
  obtain ⟨calls, session⟩ := alive.reachable.session side
  obtain ⟨log, _, known⟩ := alive.reachable.acquainted side
  have accounted := known.joined.firstAccounted
  have timed : (network side).Timed (cfg side) := by
    rw [session]
    exact TCPConnection.Session.timed_after _ _ calls
  have ends : (network side).connection.Ends := by
    rw [session]
    exact TCPConnection.Session.ends_after _ _ calls
  have atEnd : (network side).connection.inboundStream.eof = true := by
    simp only [ByteStream.inputEnded] at ended
    simp [ByteStream.eof, ended, emptied]
  obtain ⟨clean, inactive⟩ :=
    TCPConnection.tick_closes accounted timed patient (settled side)
      assembled atEnd
  let op := TCPConnection.Op.tick (network side).connection.lingering
  have noError :
      (network side).connection.inboundStream.error = false := by
    by_contra failed
    have closed := ends.errorCloses (Bool.of_not_eq_false failed)
    rw [alive.active side] at closed
    cases closed
  obtain ⟨longer, accountedAfter⟩ :=
    TCPConnection.Session.accounted_step op accounted
  have contents :
      (network side).connection.inboundStream.contents = [] := by
    apply List.length_eq_zero_iff.mp
    have counted := alive.reachable.counted side
    exact counted.reassembler.outputValid.sizeExact.trans emptied
  refine ⟨(network side).connection.lingering, ?_, ?_, ?_⟩
  · exact TCPConnection.Session.state_of_inactive accountedAfter
      (TCPConnection.Session.ends_step accounted timed ends op) inactive
      ((TCPConnection.perform_sameErrors clean).inbound.trans noError)
  · rw [← whole, contents]
    rfl
  · intro seg member
    rw [TCPConnection.Session.step_placed,
      List.drop_append_of_le_length (alive.marked side)] at member
    rcases List.mem_append.mp member with before | pushed
    · exact alive.clean side seg before
    · by_contra isReset
      obtain ⟨_, isTick, exceeded⟩ :=
        (TCPConnection.pushed_reset_iff accounted op).mp
          ⟨seg, pushed, Bool.of_not_eq_false isReset⟩
      rw [← TCPConnection.Op.tick.inj isTick] at exceeded
      exact clean exceeded

end Closing

/--
From every reachable state in which both connections are active and both
applications have ended their streams, however many segments were lost, both
connections can close without a reset, each with the whole stream of the other
read to its end.  The clocks, the readers and the delivery of segments that are
sent from now on suffice.
-/
theorem connections_close_cleanly
    (cfg : Side → TCPConfig)
    (random : Side → WrappingInt32)
    (calls : List Call)
    (delivered :
      Execution.EveryStep step Delivers (start cfg random) calls)
    (active :
      ∀ any, (after cfg random calls any).connection.active = true)
    (ended :
      ∀ any,
        (after cfg random calls
          any).connection.sender.stream.inputEnded = true)
    (short :
      ∀ any, (after cfg random calls any).written.length + 2 < 2 ^ 32)
    (hasRoom : ∀ any, 0 < (cfg any).recvCapacity)
    (fits : ∀ any, (cfg any).recvCapacity ≤ 2 ^ 64 - 2 ^ 32)
    (patient :
      ∀ any,
        (after cfg random calls any).connection.sender.consecutiveRetran <
          TCPConfig.maxRetxAttempts)
    (order : IterationOrder) :
    let network := after cfg random calls
    let mark := fun any => (network any).placed.length
    ∃ resumed,
      resumed.length ≤
          4 * (unheard .a network + unheard .b network + 1) ∧
        Execution.EveryStep step (Resumes order mark) network resumed ∧
        ∀ any,
          ClosedCleanly network mark any
            (Execution.run step network resumed any) := by
  intro network mark
  have alive : Alive cfg random mark network :=
    alive_now ⟨calls, delivered, rfl⟩ short active
  obtain ⟨settling, few, resumed, quiet, fewer, settled⟩ :=
    alive.settle_both hasRoom fits patient ended order
  obtain ⟨draining, two, reads, drained, fewest, opened⟩ :=
    quiet.drain order
  let last :=
    Execution.run step (Execution.run step network settling) draining
  have stillSettled :
      ∀ any, Settled (last any).connection.sender :=
    fun any => quiet.still_settled reads drained (settled any)
  have closing :
      ∀ any,
        ∃ msSinceLastTick,
          ClosedCleanly last mark any
            ((last any).step (.tick msSinceLastTick)) :=
    fun any =>
      drained.close
        (Nat.lt_of_le_of_lt ((fewest any).trans (fewer any)) (patient any))
        stillSettled
        (drained.buffer_empty (hasRoom any) (opened any))
  have written : ∀ any, (last any).written = (network any).written :=
    fun any =>
      (quiet.resumed reads any).1.trans (alive.resumed resumed any).1
  obtain ⟨msA, closedA⟩ := closing .a
  obtain ⟨msB, closedB⟩ := closing .b
  refine ⟨settling ++ (draining ++ [⟨.a, .tick msA⟩, ⟨.b, .tick msB⟩]),
    ?_, ?_, ?_⟩
  · simp only [List.length_append, two, List.length_cons,
      List.length_nil]
    omega
  · refine Execution.EveryStep.append_iff.mpr ⟨resumed,
      Execution.EveryStep.append_iff.mpr ⟨reads, ?_⟩⟩
    exact ⟨⟨drained.active .a, trivial⟩, ⟨drained.active .b, trivial⟩,
      trivial⟩
  · intro any
    rw [Execution.run_append, Execution.run_append]
    cases any with
    | a =>
        exact ⟨closedA.state, closedA.taken.trans (written .b),
          closedA.noReset⟩
    | b =>
        exact ⟨closedB.state, closedB.taken.trans (written .a),
          closedB.noReset⟩

/-- Two streams that were written and ended before anything arrived. -/
def lostStreams : List Call := [
  ⟨.a, .connect⟩,
  ⟨.a, .write [97, 98]⟩,
  ⟨.a, .endInputStream⟩,
  ⟨.b, .write [99]⟩,
  ⟨.b, .endInputStream⟩]

theorem connections_close_cleanly_lostStreams :
    let network := after (fun _ => {}) initialNumbers lostStreams
    ∃ resumed,
      resumed.length ≤ 32 ∧
        let final := Execution.run step network resumed
        (final .a).connection.state = TCPState.ofState .closed ∧
          (final .a).taken = [99] ∧
          (final .b).connection.state = TCPState.ofState .closed ∧
          (final .b).taken = [97, 98] := by
  intro network
  have delivered :
      Execution.EveryStep step Delivers
        (start (fun _ => {}) initialNumbers) lostStreams := by
    decide +kernel
  have active :
      ∀ any, (network any).connection.active = true := by
    intro any
    cases any <;> decide +kernel
  have ended :
      ∀ any,
        (network any).connection.sender.stream.inputEnded = true := by
    intro any
    cases any <;> decide +kernel
  have short :
      ∀ any, (network any).written.length + 2 < 2 ^ 32 := by
    intro any
    cases any <;> decide +kernel
  have patient :
      ∀ any,
        (network any).connection.sender.consecutiveRetran <
          TCPConfig.maxRetxAttempts := by
    intro any
    cases any <;> decide +kernel
  obtain ⟨resumed, few, _, closed⟩ :=
    connections_close_cleanly (fun _ => {}) initialNumbers lostStreams
      delivered active ended short (fun _ => by decide)
      (fun _ => by decide) patient .stored
  have numbers :
      unheard .a network = 4 ∧ unheard .b network = 3 := by
    decide +kernel
  have written :
      (network .a).written = [97, 98] ∧ (network .b).written = [99] := by
    decide +kernel
  refine ⟨resumed, ?_, (closed .a).state,
    (closed .a).taken.trans written.2, (closed .b).state,
    (closed .b).taken.trans written.1⟩
  rw [show unheard .a (after _ _ _) = 4 from numbers.1,
    show unheard .b (after _ _ _) = 3 from numbers.2] at few
  exact few

end TCPNetwork

end Sponge
