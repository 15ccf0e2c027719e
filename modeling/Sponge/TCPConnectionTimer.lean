import Sponge.TCPConnectionInbound
import Sponge.TCPSenderOutstanding
import Sponge.TCPSenderTimer

namespace Sponge

/-!
# The time between a segment and its retransmission

A trace keeps the clock of a connection and the time at which every segment was
sent for the first time.  `tick` first fills the window, which may start the
timer, and then charges the elapsed interval to the timer.  A retransmission is
therefore never early as long as no call of `tick` starts the timer.
-/

namespace TCPSender

/--
Every outstanding segment was sent for the first time at a recorded time, and
the timer, charged up to `charged`, leaves the first of them its full timeout.
-/
structure Awaiting
    (timeout charged now : Nat)
    (sent : List (Nat × TCPSegment))
    (sender : TCPSender) : Prop where
  initial : sender.initialRetransmissionTimeout = timeout
  split :
    ∃ settled waiting,
      sent = settled ++ waiting ∧
        waiting.map Prod.snd = sender.retransmissionQueue ∧
        ∀ first rest,
          waiting = first :: rest →
          first.1 + timeout ≤ charged + sender.timer.rto
  past : ∀ emission ∈ sent, emission.1 ≤ now
  running :
    sender.timer.running = true ↔ sender.retransmissionQueue ≠ []
  idle : sender.retransmissionQueue = [] → sender.rto = timeout

section Timing

variable {timeout charged now : Nat}
variable {sent : List (Nat × TCPSegment)}
variable {sender : TCPSender}

/-- Streams, windows and outbound queues play no part in the timing. -/
theorem Awaiting.transfer
    {after : TCPSender}
    (awaiting : Awaiting timeout charged now sent sender)
    (initial :
      after.initialRetransmissionTimeout =
        sender.initialRetransmissionTimeout)
    (queue :
      after.retransmissionQueue = sender.retransmissionQueue)
    (timer : after.timer = sender.timer)
    (rto : after.rto = sender.rto) :
    Awaiting timeout charged now sent after where
  initial := initial.trans awaiting.initial
  split := by
    rw [queue, timer]
    exact awaiting.split
  past := awaiting.past
  running := by
    rw [timer, queue]
    exact awaiting.running
  idle := by
    rw [queue, rto]
    exact awaiting.idle

/-- What has been pushed plays no part in the timing. -/
theorem Awaiting.withSegmentsOut
    (awaiting : Awaiting timeout charged now sent sender)
    (segmentsOut : List TCPSegment) :
    Awaiting timeout charged now sent { sender with segmentsOut } :=
  awaiting.transfer rfl rfl rfl rfl

/-- Later emissions may be stamped with a later time. -/
theorem Awaiting.later
    (awaiting : Awaiting timeout charged now sent sender)
    {future : Nat}
    (ordered : now ≤ future) :
    Awaiting timeout charged future sent sender where
  initial := awaiting.initial
  split := awaiting.split
  past := fun emission member =>
    Nat.le_trans (awaiting.past emission member) ordered
  running := awaiting.running
  idle := awaiting.idle

/--
Filling the window stamps what it sends with the current time.  If it starts
the timer, the timer must have been charged up to that time.
-/
theorem Awaiting.fillWindow
    (awaiting : Awaiting timeout charged now sent sender)
    (upToDate :
      charged = now ∨
        sender.timer.running = true ∨
        sender.filling = []) :
    Awaiting timeout charged now
      (sent ++ sender.filling.map fun seg => (now, seg))
      sender.fillWindow := by
  have timed := fillWindow_timed sender
  generalize sender.filling = new at *
  generalize sender.fillWindow = filled at *
  obtain ⟨settled, waiting, shape, queue, remaining⟩ := awaiting.split
  have past :
      ∀ emission ∈ sent ++ new.map fun seg => (now, seg),
        emission.1 ≤ now := by
    intro emission member
    rcases List.mem_append.mp member with before | isNew
    · exact awaiting.past emission before
    · obtain ⟨seg, _, rfl⟩ := List.mem_map.mp isNew
      exact Nat.le_refl now
  have extended :
      (waiting ++ new.map fun seg => (now, seg)).map Prod.snd =
        filled.retransmissionQueue := by
    rw [List.map_append, queue, timed.queue, List.map_map]
    congr 1
    exact List.map_id new
  refine {
    initial := timed.initial.trans awaiting.initial
    split := ⟨settled, waiting ++ new.map fun seg => (now, seg), ?_,
      extended, ?_⟩
    past := past
    running := timed.running awaiting.running
    idle := ?_
  }
  · rw [shape, List.append_assoc]
  · intro first rest begins
    rw [timed.timer]
    cases waiting with
    | cons head tail =>
        -- something was outstanding, so the timer was running
        have running : sender.timer.running = true :=
          awaiting.running.mpr (by simp [← queue])
        obtain ⟨rfl, _⟩ := List.cons.inj begins
        simp only [running, Bool.true_eq_false, false_and, ↓reduceIte]
        exact remaining head tail rfl
    | nil =>
        have nothing : sender.retransmissionQueue = [] := queue.symm
        have stopped : sender.timer.running = false := by
          by_contra runs
          exact awaiting.running.mp (by simpa using runs) nothing
        cases new with
        | nil =>
            simp at begins
        | cons seg later =>
            have isNow : charged = now := by
              rcases upToDate with same | runs | empty
              · exact same
              · rw [stopped] at runs
                cases runs
              · cases empty
            obtain ⟨rfl, _⟩ := List.cons.inj begins
            simp [stopped, RetransmissionTimer.start, isNow,
              awaiting.idle nothing]
  · intro nothing
    rw [timed.queue, List.append_eq_nil_iff] at nothing
    rw [timed.rto, awaiting.idle nothing.1]

/-- Popping takes segments from the front of the queue. -/
theorem popAcknowledged_suffix
    (isn ackno : WrappingInt32)
    (queue : List TCPSegment) :
    ∃ popped, queue = popped ++ popAcknowledged isn ackno queue := by
  induction queue with
  | nil =>
      exact ⟨[], rfl⟩
  | cons element rest inductionHypothesis =>
      rw [popAcknowledged]
      split
      · exact ⟨[], rfl⟩
      · obtain ⟨popped, shape⟩ := inductionHypothesis
        exact ⟨element :: popped, by rw [List.cons_append, ← shape]⟩

/-- An acknowledgment that is taken up gives the next segment a full timeout. -/
theorem Awaiting.ackReceived
    (awaiting : Awaiting timeout now now sent sender)
    (ackno : WrappingInt32)
    (windowSize : UInt16) :
    Awaiting timeout now now sent
      (sender.ackReceived ackno windowSize) := by
  have recorded :
      Awaiting timeout now now sent (sender.recordWindow windowSize) := by
    rw [recordWindow_shape]
    exact awaiting.transfer rfl rfl rfl rfl
  rcases ackReceived_cases ackno windowSize sender with
    ⟨_, same⟩ | ⟨_, _, same⟩
  · rw [same]
    exact recorded
  · rw [same]
    generalize sender.recordWindow windowSize = sender at recorded
    obtain ⟨settled, waiting, shape, queue, _⟩ := recorded.split
    obtain ⟨popped, popping⟩ :=
      popAcknowledged_suffix sender.isn ackno
        sender.retransmissionQueue
    have initial := recorded.initial
    rw [popping, List.map_eq_append_iff] at queue
    obtain ⟨gone, left, split, _, remaining⟩ := queue
    refine {
      initial := initial
      split := ⟨settled ++ gone, left, ?_, remaining, ?_⟩
      past := recorded.past
      running := ?_
      idle := fun _ => initial
    }
    · rw [shape, split, List.append_assoc]
    · intro first rest begins
      have inQueue :
          popAcknowledged sender.isn ackno
            sender.retransmissionQueue ≠ [] := by
        rw [← remaining, begins]
        simp
      have stamped : first.1 ≤ now :=
        recorded.past first (by rw [shape, split, begins]; simp)
      simp only [acceptAck, inQueue, ne_eq, not_false_eq_true,
        ↓reduceIte, RetransmissionTimer.start, initial]
      omega
    · simp only [acceptAck]
      split
      · rename_i outstanding
        simp [RetransmissionTimer.start, outstanding]
      · rename_i emptied
        simpa [RetransmissionTimer.stop] using emptied

/-- What a retransmission leaves alone. -/
theorem retransmit_timed
    {first : TCPSegment}
    {rest : List TCPSegment}
    (queue : sender.retransmissionQueue = first :: rest) :
    sender.retransmit.retransmissionQueue = first :: rest ∧
      sender.retransmit.initialRetransmissionTimeout =
        sender.initialRetransmissionTimeout ∧
      sender.retransmit.timer.running = true := by
  rw [retransmit, queue]
  dsimp only
  split
  · exact ⟨rfl, rfl, rfl⟩
  · rw [countRetransmission_frame]
    exact ⟨rfl, rfl, rfl⟩

/-- A timer that does not expire is charged and nothing is sent. -/
theorem Awaiting.tick_early
    (awaiting : Awaiting timeout charged now sent sender)
    {msSinceLastTick : Nat}
    (elapsed : now = charged + msSinceLastTick)
    (early : sender.expires msSinceLastTick = false) :
    Awaiting timeout now now sent (sender.tick msSinceLastTick) ∧
      (sender.tick msSinceLastTick).segmentsOut =
        sender.segmentsOut := by
  obtain ⟨settled, waiting, shape, queue, remaining⟩ := awaiting.split
  obtain ⟨rto, charges, ticked⟩ := tick_of_waiting early
  rw [ticked]
  refine ⟨?_, rfl⟩
  refine {
    initial := awaiting.initial
    split := ⟨settled, waiting, shape, queue, ?_⟩
    past := awaiting.past
    running := awaiting.running
    idle := awaiting.idle
  }
  intro first rest begins
  have running : sender.timer.running = true :=
    awaiting.running.mpr (by rw [← queue, begins]; simp)
  have charge := remaining first rest begins
  have left := charges running
  change first.1 + timeout ≤ now + rto
  omega

/-- A timer that expires sends the first segment again, a timeout later. -/
theorem Awaiting.tick_expired
    (awaiting : Awaiting timeout charged now sent sender)
    {msSinceLastTick : Nat}
    (elapsed : now = charged + msSinceLastTick)
    (expired : sender.expires msSinceLastTick = true) :
    Awaiting timeout now now sent (sender.tick msSinceLastTick) ∧
      ∃ settled stamp seg later,
        (sender.tick msSinceLastTick).segmentsOut =
            sender.segmentsOut ++ [seg] ∧
          sent = settled ++ (stamp, seg) :: later ∧
          seg :: later.map Prod.snd = sender.retransmissionQueue ∧
          stamp + timeout ≤ now := by
  obtain ⟨settled, waiting, shape, queue, remaining⟩ := awaiting.split
  obtain ⟨running, late, ticked⟩ := tick_of_expired expired
  cases waiting with
  | nil =>
      exact (awaiting.running.mp running queue.symm).elim
  | cons first rest =>
      rw [List.map_cons] at queue
      have due : first.1 + timeout ≤ now := by
        have charge := remaining first rest rfl
        omega
      obtain ⟨sameQueue, initial, restarted⟩ :=
        retransmit_timed queue.symm
      rw [ticked]
      refine ⟨?_, settled, first.1, first.2, rest,
        retransmit_segmentsOut queue.symm, shape, queue, due⟩
      refine {
        initial := initial.trans awaiting.initial
        split := ⟨settled, first :: rest, shape, ?_, ?_⟩
        past := awaiting.past
        running := ?_
        idle := ?_
      }
      · rw [sameQueue, List.map_cons]
      · intro head tail begins
        obtain ⟨rfl, _⟩ := List.cons.inj begins
        exact Nat.le_trans due (Nat.le_add_right _ _)
      · rw [restarted, sameQueue]
        simp
      · intro emptied
        rw [sameQueue] at emptied
        cases emptied

end Timing

end TCPSender

namespace TCPConnection

/-- The segments a call sends for the first time. -/
def firstSent
    (connection : TCPConnection) :
    Op → List TCPSegment
  | .connect => connection.sender.filling
  | .write data =>
      { connection.sender with
        stream := (connection.sender.stream.write data).2 }.filling
  | .endInputStream =>
      { connection.sender with
        stream := connection.sender.stream.endInput }.filling
  | .segmentReceived order seg =>
      if seg.lengthInSequenceSpace ≠ 0 then
        (((connection.noted seg).receivePayload seg order).receiveAck
          seg).sender.filling
      else
        []
  | .tick _ =>
      if connection.sender.stream.bufferEmpty = false ∨
          connection.sender.stream.eof = true then
        connection.sender.filling
      else
        []
  | .readInbound _ => []
  | .dequeue => []

/-- The segments a call of `tick` sends again. -/
def sentAgain
    (connection : TCPConnection)
    (msSinceLastTick : Nat) : List TCPSegment :=
  let filled := connection.tickFill msSinceLastTick
  (filled.sender.tick msSinceLastTick).segmentsOut.drop
    filled.sender.segmentsOut.length

/-- The time a call takes. -/
def Op.elapsed : Op → Nat
  | .tick msSinceLastTick => msSinceLastTick
  | _ => 0

/-- A connection, its clock, and when each segment was first sent. -/
structure Trace where
  connection : TCPConnection
  clock : Nat := 0
  sent : List (Nat × TCPSegment) := []

namespace Trace

/-- A new connection, at time zero. -/
def start
    (cfg : TCPConfig)
    (random : WrappingInt32) : Trace where
  connection := TCPConnection.new cfg random

/-- Perform one call; what it sends is stamped with the time after it. -/
def step
    (trace : Trace)
    (op : Op) : Trace where
  connection := trace.connection.perform op
  clock := trace.clock + op.elapsed
  sent :=
    trace.sent ++
      (trace.connection.firstSent op).map fun seg =>
        (trace.clock + op.elapsed, seg)

/-- The trace after these calls on a new connection. -/
def after
    (cfg : TCPConfig)
    (random : WrappingInt32)
    (calls : List Op) : Trace :=
  Execution.run step (start cfg random) calls

end Trace

/--
A call of `tick` does not start the timer: the timer is running, or there is
nothing that `fill_window` would send.
-/
def Op.Patient
    (connection : TCPConnection) :
    Op → Prop
  | .tick _ =>
      connection.sender.timer.running = true ∨
        (connection.sender.stream.bufferEmpty = true ∧
          connection.sender.stream.eof = false) ∨
        connection.sender.room = 0 ∨
        connection.sender.state = .finSent
  | _ => True

instance (connection : TCPConnection) (op : Op) :
    Decidable (op.Patient connection) :=
  match op with
  | .tick _ => inferInstanceAs (Decidable (_ ∨ _ ∨ _ ∨ _))
  | .connect | .write _ | .endInputStream | .readInbound _
  | .segmentReceived _ _ | .dequeue => isTrue trivial

section Steps

variable {timeout : Nat} {sent : List (Nat × TCPSegment)} {clock : Nat}
variable {connection : TCPConnection}

open TCPSender (Awaiting)

theorem awaiting_fill
    {sender : TCPSender}
    (awaiting : Awaiting timeout clock clock sent sender) :
    Awaiting timeout clock clock
      (sent ++ sender.filling.map fun seg => (clock, seg))
      { sender.fillWindow with segmentsOut := [] } :=
  (awaiting.fillWindow (Or.inl rfl)).withSegmentsOut []

theorem awaiting_receivePayload
    (order : IterationOrder)
    (seg : TCPSegment)
    (awaiting : Awaiting timeout clock clock sent connection.sender) :
    Awaiting timeout clock clock sent
      ((connection.noted seg).receivePayload seg order).sender := by
  obtain ⟨stream, handed⟩ := receivePayload_sender order seg connection
  rw [handed]
  exact awaiting.transfer rfl rfl rfl rfl

theorem awaiting_receiveAck
    (seg : TCPSegment)
    (awaiting : Awaiting timeout clock clock sent connection.sender) :
    Awaiting timeout clock clock sent
      (connection.receiveAck seg).sender := by
  unfold receiveAck
  split
  · exact awaiting.ackReceived seg.header.ackno seg.header.win
  · exact awaiting

/-- Answering a segment fills the window at most once. -/
theorem awaiting_reply
    (seg : TCPSegment)
    (awaiting : Awaiting timeout clock clock sent connection.sender) :
    Awaiting timeout clock clock
      (sent ++
        (if seg.lengthInSequenceSpace ≠ 0 then
          connection.sender.filling
        else
          []).map fun seg => (clock, seg))
      ((connection.reply seg).replyKeepAlive seg).sendSegment.sender := by
  have replied :
      Awaiting timeout clock clock
        (sent ++
          (if seg.lengthInSequenceSpace ≠ 0 then
            connection.sender.filling
          else
            []).map fun seg => (clock, seg))
        (connection.reply seg).sender := by
    unfold reply
    split
    · have filled := awaiting.fillWindow (Or.inl rfl)
      dsimp only
      split
      · exact filled.withSegmentsOut _
      · exact filled
    · simpa using awaiting
  generalize connection.reply seg = answered at replied ⊢
  generalize sent ++ _ = stamped at replied ⊢
  unfold replyKeepAlive
  split
  · exact replied.transfer rfl rfl rfl rfl
  · split <;> exact replied.transfer rfl rfl rfl rfl

/-- A segment is acknowledged before it is answered. -/
theorem awaiting_segmentReceived
    (order : IterationOrder)
    (seg : TCPSegment)
    (awaiting : Awaiting timeout clock clock sent connection.sender) :
    Awaiting timeout clock clock
      (sent ++
        (connection.firstSent (.segmentReceived order seg)).map
          fun seg => (clock, seg))
      (connection.segmentReceived seg order).sender :=
  awaiting_reply seg
    (awaiting_receiveAck seg (awaiting_receivePayload order seg awaiting))

/-- The window is filled before the interval is charged to the timer. -/
theorem awaiting_tickFill
    {msSinceLastTick : Nat}
    (awaiting : Awaiting timeout clock clock sent connection.sender)
    (patient : Op.Patient connection (.tick msSinceLastTick)) :
    Awaiting timeout clock (clock + msSinceLastTick)
      (sent ++
        (connection.firstSent (.tick msSinceLastTick)).map
          fun seg => (clock + msSinceLastTick, seg))
      (connection.tickFill msSinceLastTick).sender := by
  have later := awaiting.later (Nat.le_add_right clock msSinceLastTick)
  unfold tickFill firstSent
  dsimp only
  split
  · rename_i something
    refine (later.fillWindow ?_).withSegmentsOut []
    rcases patient with running | ⟨empty, notAtEnd⟩ | stops
    · exact Or.inr (Or.inl running)
    · rw [empty, notAtEnd] at something
      simp at something
    · exact Or.inr (Or.inr (TCPSender.filling_eq_nil stops))
  · simpa using later

/-- Retransmitting, giving up and finishing keep the account of the tick. -/
theorem tick_sender
    (connection : TCPConnection)
    (msSinceLastTick : Nat) :
    let ticked :=
      (connection.tickFill msSinceLastTick).sender.tick msSinceLastTick
    let final := (connection.tick msSinceLastTick).sender
    final.initialRetransmissionTimeout =
        ticked.initialRetransmissionTimeout ∧
      final.retransmissionQueue = ticked.retransmissionQueue ∧
      final.timer = ticked.timer ∧
      final.rto = ticked.rto := by
  have aborted :
      ∀ middle : TCPConnection,
        middle.tickAbort.sender.initialRetransmissionTimeout =
            middle.sender.initialRetransmissionTimeout ∧
          middle.tickAbort.sender.retransmissionQueue =
            middle.sender.retransmissionQueue ∧
          middle.tickAbort.sender.timer = middle.sender.timer ∧
          middle.tickAbort.sender.rto = middle.sender.rto := by
    intro middle
    unfold tickAbort sendRst
    split
    · dsimp only
      split <;> exact ⟨rfl, rfl, rfl, rfl⟩
    · exact ⟨rfl, rfl, rfl, rfl⟩
  have retransmitted :
      ∀ filled : TCPConnection,
        (filled.tickRetransmit
              msSinceLastTick).sender.initialRetransmissionTimeout =
            (filled.sender.tick
              msSinceLastTick).initialRetransmissionTimeout ∧
          (filled.tickRetransmit
              msSinceLastTick).sender.retransmissionQueue =
            (filled.sender.tick msSinceLastTick).retransmissionQueue ∧
          (filled.tickRetransmit msSinceLastTick).sender.timer =
            (filled.sender.tick msSinceLastTick).timer ∧
          (filled.tickRetransmit msSinceLastTick).sender.rto =
            (filled.sender.tick msSinceLastTick).rto := by
    intro filled
    unfold tickRetransmit
    dsimp only
    split <;> exact ⟨rfl, rfl, rfl, rfl⟩
  dsimp only
  unfold tick tickSend
  rw [tickFinish_sender]
  generalize connection.tickFill msSinceLastTick = filled
  obtain ⟨initial, queue, timer, rto⟩ := retransmitted filled
  obtain ⟨initialAfter, queueAfter, timerAfter, rtoAfter⟩ :=
    aborted (filled.tickRetransmit msSinceLastTick)
  exact ⟨initialAfter.trans initial, queueAfter.trans queue,
    timerAfter.trans timer, rtoAfter.trans rto⟩

theorem awaiting_tick
    {msSinceLastTick : Nat}
    (awaiting : Awaiting timeout clock clock sent connection.sender)
    (patient : Op.Patient connection (.tick msSinceLastTick)) :
    Awaiting timeout (clock + msSinceLastTick) (clock + msSinceLastTick)
      (sent ++
        (connection.firstSent (.tick msSinceLastTick)).map
          fun seg => (clock + msSinceLastTick, seg))
      (connection.tick msSinceLastTick).sender := by
  have filled := awaiting_tickFill awaiting patient
  obtain ⟨initial, queue, timer, rto⟩ :=
    tick_sender connection msSinceLastTick
  refine Awaiting.transfer ?_ initial queue timer rto
  cases passes :
      (connection.tickFill msSinceLastTick).sender.expires
        msSinceLastTick with
  | false =>
      exact (filled.tick_early rfl passes).1
  | true =>
      exact (filled.tick_expired rfl passes).1

/-- Every patient call keeps the account. -/
theorem awaiting_step
    {trace : Trace}
    (op : Op)
    (awaiting :
      Awaiting timeout trace.clock trace.clock trace.sent
        trace.connection.sender)
    (patient : op.Patient trace.connection) :
    Awaiting timeout (trace.step op).clock (trace.step op).clock
      (trace.step op).sent (trace.step op).connection.sender := by
  simp only [Trace.step]
  cases op with
  | connect =>
      exact awaiting_fill awaiting
  | write data =>
      have written :
          Awaiting timeout trace.clock trace.clock trace.sent
            { trace.connection.sender with
              stream :=
                (trace.connection.sender.stream.write data).2 } :=
        awaiting.transfer rfl rfl rfl rfl
      exact awaiting_fill written
  | endInputStream =>
      have ended :
          Awaiting timeout trace.clock trace.clock trace.sent
            { trace.connection.sender with
              stream := trace.connection.sender.stream.endInput } :=
        awaiting.transfer rfl rfl rfl rfl
      exact awaiting_fill ended
  | segmentReceived order seg =>
      exact awaiting_segmentReceived order seg awaiting
  | tick msSinceLastTick =>
      exact awaiting_tick awaiting patient
  | readInbound len =>
      simpa [perform, readInbound, firstSent, Op.elapsed] using awaiting
  | dequeue =>
      simpa [perform, firstSent, Op.elapsed] using awaiting

/-- What a call of `tick` sends again was sent a timeout before. -/
theorem sentAgain_due
    {msSinceLastTick : Nat}
    (awaiting : Awaiting timeout clock clock sent connection.sender)
    (patient : Op.Patient connection (.tick msSinceLastTick))
    {seg : TCPSegment}
    (again : seg ∈ connection.sentAgain msSinceLastTick) :
    ∃ settled stamp later,
      sent = settled ++ (stamp, seg) :: later ∧
        (seg :: later.map Prod.snd) ++
            connection.firstSent (.tick msSinceLastTick) =
          (connection.tickFill
            msSinceLastTick).sender.retransmissionQueue ∧
        stamp + timeout ≤ clock + msSinceLastTick := by
  have filled := awaiting_tickFill awaiting patient
  have queue :
      (connection.tickFill
          msSinceLastTick).sender.retransmissionQueue =
        connection.sender.retransmissionQueue ++
          connection.firstSent (.tick msSinceLastTick) := by
    unfold tickFill firstSent
    dsimp only
    split
    · rw [connect, sendSegment]
      exact (TCPSender.fillWindow_timed connection.sender).queue
    · simp
  -- what is new is not the first segment of the queue
  have notNew :
      connection.sender.retransmissionQueue ≠ [] ∨
        connection.firstSent (.tick msSinceLastTick) = [] := by
    rcases patient with running | ⟨empty, notAtEnd⟩ | stops
    · exact Or.inl (awaiting.running.mp running)
    · exact Or.inr (by simp [firstSent, empty, notAtEnd])
    · exact Or.inr (by
        simp [firstSent, TCPSender.filling_eq_nil stops])
  unfold sentAgain at again
  dsimp only at again
  generalize connection.tickFill msSinceLastTick = next at *
  generalize connection.firstSent (.tick msSinceLastTick) = new at *
  cases passes : next.sender.expires msSinceLastTick with
  | false =>
      rw [(filled.tick_early rfl passes).2, List.drop_length] at again
      cases again
  | true =>
      obtain ⟨_, settled, stamp, first, later, pushed, shape, front,
        due⟩ := filled.tick_expired rfl passes
      rw [pushed, List.drop_left, List.mem_singleton] at again
      subst again
      have length := congrArg List.length front
      rw [queue, List.length_cons, List.length_map, List.length_append]
        at length
      have outstanding :
          connection.sender.retransmissionQueue.length ≠ 0 ∨
            new.length = 0 :=
        notNew.imp (mt List.length_eq_zero_iff.mp)
          List.length_eq_zero_iff.mpr
      rcases List.append_eq_append_iff.mp shape with
        ⟨between, beyond, inNew⟩ | ⟨between, before, rest⟩
      · have tooMany := congrArg List.length inNew
        simp only [List.length_map, List.length_append,
          List.length_cons] at tooMany
        omega
      · cases between with
        | nil =>
            have tooMany := congrArg List.length rest
            simp only [List.length_map, List.nil_append,
              List.length_cons] at tooMany
            omega
        | cons head between =>
            obtain ⟨rfl, tail⟩ := List.cons.inj rest
            refine ⟨settled, stamp, between, before, ?_, due⟩
            rw [← front, tail]
            simp

end Steps

/--
In a run in which no call of `tick` starts the timer, a segment is sent again
no earlier than a timeout after it was first sent, and not by the call that
sent it.
-/
theorem no_premature_retransmission
    (cfg : TCPConfig)
    (random : WrappingInt32)
    (calls : List Op)
    (msSinceLastTick : Nat)
    (patient :
      Execution.EveryStep Trace.step
        (fun trace op => op.Patient trace.connection)
        (Trace.start cfg random)
        (calls ++ [.tick msSinceLastTick])) :
    let before := Trace.after cfg random calls
    ∀ seg ∈ before.connection.sentAgain msSinceLastTick,
      ∃ settled stamp later,
        before.sent = settled ++ (stamp, seg) :: later ∧
          (seg :: later.map Prod.snd) ++
              before.connection.firstSent (.tick msSinceLastTick) =
            (before.connection.tickFill
              msSinceLastTick).sender.retransmissionQueue ∧
          stamp + cfg.rtTimeout.toNat ≤
            (before.step (.tick msSinceLastTick)).clock := by
  obtain ⟨earlier, last⟩ := Execution.EveryStep.append_iff.mp patient
  have initially :
      TCPSender.Awaiting cfg.rtTimeout.toNat 0 0 []
        (TCPConnection.new cfg random).sender :=
    ⟨rfl, ⟨[], [], rfl, rfl, by simp⟩, by simp,
      by simp [TCPConnection.new, TCPSender.new], fun _ => rfl⟩
  intro before seg again
  have awaiting :
      TCPSender.Awaiting cfg.rtTimeout.toNat before.clock before.clock
        before.sent before.connection.sender :=
    Execution.EveryStep.invariant
      (fun trace : Trace =>
        TCPSender.Awaiting cfg.rtTimeout.toNat trace.clock trace.clock
          trace.sent trace.connection.sender)
      (fun _ op held isPatient => awaiting_step op held isPatient)
      initially earlier
  have patientNow :
      Op.Patient before.connection (.tick msSinceLastTick) :=
    last.1
  exact sentAgain_due awaiting patientNow again

/-- The peer's acknowledgment of the local SYN, with a window. -/
def peerAck : TCPSegment where
  header := {
    seqno := ⟨101⟩
    ackno := ⟨1⟩
    ack := true
    win := 1000 }

/-- A byte is written while only the window for the SYN is open. -/
def waitingByte : List Op := [
  .connect,
  .segmentReceived .stored (synAt 100),
  .write [97],
  .segmentReceived .stored peerAck]

/-- The call that sends the byte for the first time sends it again. -/
theorem tick_sends_twice :
    let before := Trace.after {} ⟨0⟩ waitingByte
    before.connection.firstSent (.tick 1000) =
        [{ header := { seqno := ⟨1⟩ }, payload := [97] }] ∧
      before.connection.sentAgain 1000 =
        [{ header := { seqno := ⟨1⟩ }, payload := [97] }] := by
  decide +kernel

/-- The SYN of a connection is sent again after its timeout. -/
theorem no_premature_retransmission_syn :
    let before := Trace.after {} ⟨0⟩ [.connect, .tick 400]
    ∃ seg stamp,
      seg ∈ before.connection.sentAgain 600 ∧
        (stamp, seg) ∈ before.sent ∧
        stamp + 1000 ≤ (before.step (.tick 600)).clock := by
  have patient :
      Execution.EveryStep Trace.step
        (fun trace op => op.Patient trace.connection)
        (Trace.start {} ⟨0⟩)
        ([.connect, .tick 400] ++ [.tick 600]) := by
    decide +kernel
  have again :
      ({ header := { seqno := ⟨0⟩, syn := true } } : TCPSegment) ∈
        (Trace.after {} ⟨0⟩
          [.connect, .tick 400]).connection.sentAgain 600 := by
    decide +kernel
  obtain ⟨settled, stamp, later, shape, _, due⟩ :=
    no_premature_retransmission {} ⟨0⟩ [.connect, .tick 400] 600 patient
      _ again
  exact ⟨_, stamp, again, by simp [shape], due⟩

end TCPConnection

end Sponge
