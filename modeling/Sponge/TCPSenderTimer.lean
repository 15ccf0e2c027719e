import Sponge.TCPSenderLog

namespace Sponge.TCPSender

/-!
# The retransmission timer of the sender

Filling the window may start the timer, an acknowledgment of new data resets it
and its expiry sends the first outstanding segment again.  The sender counts
expiries by comparing sequence numbers; `BackedOff` says that the count and the
timeout are those of the expiries since the last acknowledgment of new data.
-/

section Fill

/-- What filling the window does to the queues and the timer. -/
structure TimedFill
    (before : TCPSender)
    (sent : List TCPSegment)
    (after : TCPSender) : Prop where
  segmentsOut : after.segmentsOut = before.segmentsOut ++ sent
  queue :
    after.retransmissionQueue = before.retransmissionQueue ++ sent
  rto : after.rto = before.rto
  initial :
    after.initialRetransmissionTimeout =
      before.initialRetransmissionTimeout
  timer :
    after.timer =
      if before.timer.running = false ∧ sent ≠ [] then
        before.timer.start before.rto
      else
        before.timer

/-- The stream and the state play no part in the timing. -/
theorem TimedFill.of_shape
    (sender : TCPSender)
    (stream : ByteStream)
    (state : SenderState) :
    TimedFill sender []
      { sender with stream := stream, state := state } :=
  ⟨by simp, by simp, rfl, rfl, by simp⟩

theorem TimedFill.trans
    {before middle after : TCPSender}
    {first second : List TCPSegment}
    (earlier : TimedFill before first middle)
    (later : TimedFill middle second after) :
    TimedFill before (first ++ second) after where
  segmentsOut := by
    rw [later.segmentsOut, earlier.segmentsOut, List.append_assoc]
  queue := by
    rw [later.queue, earlier.queue, List.append_assoc]
  rto := later.rto.trans earlier.rto
  initial := later.initial.trans earlier.initial
  timer := by
    rw [later.timer, earlier.timer, earlier.rto]
    cases running : before.timer.running with
    | true =>
        simp [running]
    | false =>
        cases first with
        | nil =>
            simp [running]
        | cons segment rest =>
            simp [RetransmissionTimer.start]

/-- Building a segment sends nothing and leaves the timer alone. -/
theorem buildSegment_timed
    (sender : TCPSender) :
    TimedFill sender [] sender.buildSegment.2 := by
  have begun :
      ∀ stream : ByteStream,
        TimedFill sender []
          { sender.beginSegment.2.2 with stream := stream } := by
    intro stream
    unfold beginSegment
    split
    · exact .of_shape sender stream .synSent
    · exact .of_shape sender stream sender.state
  have ended :
      ∀ (segment : TCPSegment) (middle : TCPSender),
        TimedFill middle [] (addFin segment middle).2 := by
    intro segment middle
    unfold addFin
    split
    · exact .of_shape middle middle.stream .finSent
    · exact .of_shape middle middle.stream middle.state
  exact (begun _).trans (ended _ _)

theorem sendSegment_timed
    (sender : TCPSender)
    {segment : TCPSegment}
    (something : segment.lengthInSequenceSpace ≠ 0) :
    TimedFill sender [segment] (sender.sendSegment segment) := by
  have positive := Nat.pos_of_ne_zero something
  exact ⟨rfl, rfl, rfl, rfl, by simp [sendSegment, positive]⟩

/--
What building a segment and sending one that takes up sequence numbers preserve,
the loop of `fill_window` preserves, whatever the sender it starts with.
-/
theorem fillLoop_invariant
    (holds : TCPSender → Prop)
    (built : ∀ sender, holds sender → holds sender.buildSegment.2)
    (sent :
      ∀ sender segment,
        holds sender →
        segment.lengthInSequenceSpace ≠ 0 →
        holds (sender.sendSegment segment))
    (fuel : Nat)
    {sender : TCPSender}
    (initially : holds sender) :
    holds (fillLoop fuel sender) := by
  refine Execution.iterate_invariant holds holds ?_ ?_
    (fun _ held => held) fuel initially
  · intro sender next held goesOn
    rcases sender.fillRound_cases with
      ⟨_, left⟩ | ⟨_, _, left⟩ | ⟨_, something, sends⟩
    · cases left.symm.trans goesOn
    · cases left.symm.trans goesOn
    · cases sends.symm.trans goesOn
      exact sent _ _ (built sender held) something
  · intro sender result held left
    rcases sender.fillRound_cases with
      ⟨_, same⟩ | ⟨_, _, idle⟩ | ⟨_, _, sends⟩
    · cases same.symm.trans left
      exact held
    · cases idle.symm.trans left
      exact built sender held
    · cases sends.symm.trans left

theorem fillLoop_timed
    (fuel : Nat)
    (sender : TCPSender) :
    ∃ sent, TimedFill sender sent (fillLoop fuel sender) := by
  refine fillLoop_invariant
    (fun after => ∃ sent, TimedFill sender sent after) ?_ ?_ fuel
    ⟨[], .of_shape sender sender.stream sender.state⟩
  · rintro middle ⟨sent, earlier⟩
    exact ⟨_, earlier.trans (buildSegment_timed middle)⟩
  · rintro middle segment ⟨sent, earlier⟩ something
    exact ⟨_, earlier.trans (sendSegment_timed middle something)⟩

theorem fillWindow_timed
    (sender : TCPSender) :
    TimedFill sender sender.filling sender.fillWindow := by
  obtain ⟨sent, timed⟩ :=
    fillLoop_timed (sender.stream.bufferSize + 3) sender
  have same : sender.filling = sent := by
    rw [filling, fillWindow, timed.segmentsOut, List.drop_left]
  rw [same]
  exact timed

/-- Nothing is sent without room in the window or after the FIN. -/
theorem filling_eq_nil
    {sender : TCPSender}
    (stops : sender.room = 0 ∨ sender.state = .finSent) :
    sender.filling = [] := by
  have left : sender.fillRound = .inr sender := by
    refine if_neg ?_
    rintro ⟨hasRoom, unfinished⟩
    exact stops.elim hasRoom unfinished
  have unchanged : sender.fillWindow = sender := by
    rw [fillWindow, fillLoop, Execution.iterate, left]
  rw [filling, unchanged, List.drop_length]

/-- Filling starts a timer that does not run, if it sends anything. -/
theorem TimedFill.running
    {sender filled : TCPSender}
    {new : List TCPSegment}
    (timed : TimedFill sender new filled)
    (running :
      sender.timer.running = true ↔ sender.retransmissionQueue ≠ []) :
    filled.timer.running = true ↔ filled.retransmissionQueue ≠ [] := by
  rw [timed.timer, timed.queue]
  by_cases starts : sender.timer.running = false ∧ new ≠ []
  · rw [if_pos starts]
    simp [RetransmissionTimer.start, starts.2]
  · rw [if_neg starts, running]
    cases new with
    | nil =>
        simp
    | cons seg later =>
        have runs : sender.timer.running = true := by
          simpa using starts
        simp [running.mp runs]

end Fill

section Shape

/-- Building a segment reads from the stream and moves the state on. -/
theorem buildSegment_shape
    (sender : TCPSender) :
    ∃ stream state,
      sender.buildSegment.2 =
        { sender with stream := stream, state := state } := by
  have begun :
      ∀ stream,
        ∃ state,
          { sender.beginSegment.2.2 with stream := stream } =
            { sender with stream := stream, state := state } := by
    intro stream
    unfold beginSegment
    split
    · exact ⟨.synSent, rfl⟩
    · exact ⟨sender.state, rfl⟩
  have ended :
      ∀ (segment : TCPSegment) (middle : TCPSender),
        ∃ state,
          (addFin segment middle).2 = { middle with state := state } := by
    intro segment middle
    unfold addFin
    split
    · exact ⟨.finSent, rfl⟩
    · exact ⟨middle.state, rfl⟩
  unfold buildSegment
  dsimp only
  generalize ByteStream.read _ _ = taken
  obtain ⟨begunState, begun⟩ := begun taken.2
  rw [begun]
  obtain ⟨state, ended⟩ :=
    ended { header := sender.beginSegment.1, payload := taken.1 } _
  exact ⟨taken.2, state, ended⟩

/-- The fields of the sender that the loop of `fill_window` may change. -/
theorem fillLoop_shape
    (fuel : Nat)
    (sender : TCPSender) :
    ∃ stream state next segmentsOut queue timer,
      fillLoop fuel sender =
        { sender with
          stream := stream
          state := state
          nextSeqnoAbsolute := next
          segmentsOut := segmentsOut
          retransmissionQueue := queue
          timer := timer } := by
  refine fillLoop_invariant
    (fun after =>
      ∃ stream state next segmentsOut queue timer,
        after =
          { sender with
            stream := stream
            state := state
            nextSeqnoAbsolute := next
            segmentsOut := segmentsOut
            retransmissionQueue := queue
            timer := timer })
    ?_ ?_ fuel ⟨_, _, _, _, _, _, rfl⟩
  · rintro middle ⟨_, _, _, _, _, _, rfl⟩
    obtain ⟨stream, state, built⟩ := buildSegment_shape _
    rw [built]
    exact ⟨_, _, _, _, _, _, rfl⟩
  · rintro middle segment ⟨_, _, _, _, _, _, rfl⟩ _
    exact ⟨_, _, _, _, _, _, rfl⟩

/-- Filling the window leaves the window and the count of expiries alone. -/
theorem fillWindow_keeps
    (sender : TCPSender) :
    sender.fillWindow.windowSize = sender.windowSize ∧
      sender.fillWindow.windowProbe = sender.windowProbe ∧
      sender.fillWindow.consecutiveRetran = sender.consecutiveRetran ∧
      sender.fillWindow.lastRetransSeqno = sender.lastRetransSeqno := by
  obtain ⟨_, _, _, _, _, _, shape⟩ :=
    fillLoop_shape (sender.stream.bufferSize + 3) sender
  rw [fillWindow, shape]
  exact ⟨rfl, rfl, rfl, rfl⟩

end Shape

section Expiry

/-- Does the timer run out in an interval? -/
def expires
    (msSinceLastTick : Nat)
    (sender : TCPSender) : Bool :=
  (sender.timer.timePassed msSinceLastTick).2

theorem timePassed_cases
    (msSinceLastTick : Nat)
    (timer : RetransmissionTimer) :
    (∃ rto,
      (timer.running = true → timer.rto = rto + msSinceLastTick) ∧
        timer.timePassed msSinceLastTick =
          ({ timer with rto := rto }, false)) ∨
      timer.running = true ∧
        timer.rto ≤ msSinceLastTick ∧
        timer.timePassed msSinceLastTick = (timer, true) := by
  unfold RetransmissionTimer.timePassed
  split
  · rename_i stopped
    exact .inl ⟨timer.rto, by simp [stopped], rfl⟩
  · rename_i running
    split
    · exact .inl ⟨timer.rto - msSinceLastTick, by omega, rfl⟩
    · exact .inr ⟨Bool.of_not_eq_false running, by omega, rfl⟩

/-- An interval that does not run the timer out only counts it down. -/
theorem tick_of_waiting
    {msSinceLastTick : Nat}
    {sender : TCPSender}
    (waits : sender.expires msSinceLastTick = false) :
    ∃ rto,
      (sender.timer.running = true →
        sender.timer.rto = rto + msSinceLastTick) ∧
      sender.tick msSinceLastTick =
        { sender with timer := { sender.timer with rto := rto } } := by
  rcases timePassed_cases msSinceLastTick sender.timer with
    ⟨rto, charges, passed⟩ | ⟨_, _, passed⟩
  · refine ⟨rto, charges, ?_⟩
    simp only [tick, passed, Bool.false_eq_true, ↓reduceIte]
  · rw [expires, passed] at waits
    cases waits

theorem tick_of_expired
    {msSinceLastTick : Nat}
    {sender : TCPSender}
    (expired : sender.expires msSinceLastTick = true) :
    sender.timer.running = true ∧
      sender.timer.rto ≤ msSinceLastTick ∧
      sender.tick msSinceLastTick = sender.retransmit := by
  rcases timePassed_cases msSinceLastTick sender.timer with
    ⟨rto, _, passed⟩ | ⟨running, late, passed⟩
  · rw [expires, passed] at expired
    cases expired
  · refine ⟨running, late, ?_⟩
    simp only [tick, passed, ↓reduceIte]

/-- An expiry sends the first segment again, counts it and backs off. -/
theorem retransmit_eq
    {sender : TCPSender}
    {first : TCPSegment}
    {rest : List TCPSegment}
    (queue : sender.retransmissionQueue = first :: rest)
    (windowOpen : sender.windowSize ≠ 0) :
    sender.retransmit =
      { sender with
        segmentsOut := sender.segmentsOut ++ [first]
        consecutiveRetran :=
          if sender.lastRetransSeqno = some first.header.seqno then
            (sender.consecutiveRetran + 1) % 2 ^ 32
          else
            1
        lastRetransSeqno := some first.header.seqno
        rto :=
          if sender.windowProbe then
            sender.rto
          else
            sender.rto * 2 % 2 ^ 32
        timer :=
          sender.timer.start
            (if sender.windowProbe then
              sender.rto
            else
              sender.rto * 2 % 2 ^ 32) } := by
  unfold retransmit
  rw [queue]
  dsimp only
  rw [if_neg windowOpen]
  unfold countRetransmission
  dsimp only
  by_cases again : sender.lastRetransSeqno = some first.header.seqno
  · cases sender.windowProbe <;>
      simp [again, RetransmissionTimer.start]
  · cases sender.windowProbe <;>
      simp [again, RetransmissionTimer.start]

end Expiry

/--
The timeout was doubled `doublings` times and the timer ran out `expiries` times
since the last acknowledgment of new data.  As long as there was an expiry, the
first outstanding segment is the one last sent again.
-/
structure BackedOff
    (timeout expiries doublings : Nat)
    (sender : TCPSender) : Prop where
  small : timeout < 2 ^ 32
  initial : sender.initialRetransmissionTimeout = timeout
  rto : sender.rto = timeout * 2 ^ doublings % 2 ^ 32
  count : sender.consecutiveRetran = expiries % 2 ^ 32
  again :
    expiries ≠ 0 →
    ∃ first rest,
      sender.retransmissionQueue = first :: rest ∧
        sender.lastRetransSeqno = some first.header.seqno
  running :
    sender.timer.running = true ↔ sender.retransmissionQueue ≠ []
  windowOpen : sender.windowSize ≠ 0
  bounded : doublings ≤ expiries

/-- The test by which the sender takes an acknowledgment for a new one. -/
def acknowledges
    (ackno : WrappingInt32)
    (sender : TCPSender) : Bool :=
  decide (sender.acked < unwrap ackno sender.isn 0) &&
    decide (unwrap ackno sender.isn 0 ≤ sender.nextSeqnoAbsolute)

/-- The number stands for something sent that was not acknowledged before. -/
def AcknowledgesNew
    (ackno : WrappingInt32)
    (sender : TCPSender) : Prop :=
  ∃ new, new ≤ sender.nextSeqnoAbsolute ∧
    sender.acked < new ∧ wrap new sender.isn = ackno

instance (ackno : WrappingInt32) (sender : TCPSender) :
    Decidable (sender.AcknowledgesNew ackno) :=
  inferInstanceAs (Decidable (∃ new, new ≤ _ ∧ _))

/-- The test is right as long as the numbers do not wrap around. -/
theorem acknowledges_iff
    {sender : TCPSender}
    (small : sender.nextSeqnoAbsolute < 2 ^ 32)
    (ackno : WrappingInt32) :
    sender.acknowledges ackno = true ↔ sender.AcknowledgesNew ackno := by
  rw [acknowledges, Bool.and_eq_true, decide_eq_true_iff,
    decide_eq_true_iff]
  constructor
  · rintro ⟨isNew, wasSent⟩
    exact ⟨_, wasSent, isNew, wrap_unwrap_zero ackno sender.isn⟩
  · rintro ⟨new, wasSent, isNew, rfl⟩
    rw [unwrap_zero_wrap_of_lt (Nat.lt_of_le_of_lt wasSent small)]
    exact ⟨isNew, wasSent⟩

namespace BackedOff

variable {timeout expiries doublings : Nat} {sender : TCPSender}

theorem new
    (capacity : Nat)
    (retxTimeout : UInt16)
    (isn : WrappingInt32) :
    BackedOff retxTimeout.toNat 0 0
      (TCPSender.new capacity retxTimeout isn) := by
  have small : retxTimeout.toNat < 2 ^ 32 :=
    Nat.lt_trans retxTimeout.toNat_lt (by decide)
  exact {
    small := small
    initial := rfl
    rto := by
      rw [Nat.pow_zero, Nat.mul_one, Nat.mod_eq_of_lt small]
      rfl
    count := rfl
    again := fun impossible => (impossible rfl).elim
    running := by simp [TCPSender.new]
    windowOpen := by simp [TCPSender.new]
    bounded := Nat.le_refl 0
  }

/-- Streams and outbound queues play no part in backing off. -/
theorem detached
    (backedOff : BackedOff timeout expiries doublings sender)
    (stream : ByteStream)
    (segmentsOut : List TCPSegment) :
    BackedOff timeout expiries doublings
      { sender with stream := stream, segmentsOut := segmentsOut } :=
  ⟨backedOff.small, backedOff.initial, backedOff.rto, backedOff.count,
    backedOff.again, backedOff.running, backedOff.windowOpen,
    backedOff.bounded⟩

/-- New segments queue up behind the one sent again. -/
theorem fillWindow
    (backedOff : BackedOff timeout expiries doublings sender) :
    BackedOff timeout expiries doublings sender.fillWindow := by
  have timed := fillWindow_timed sender
  obtain ⟨windowSize, _, count, lastRetrans⟩ := fillWindow_keeps sender
  refine {
    small := backedOff.small
    initial := timed.initial.trans backedOff.initial
    rto := timed.rto.trans backedOff.rto
    count := count.trans backedOff.count
    again := ?_
    running := timed.running backedOff.running
    windowOpen := windowSize ▸ backedOff.windowOpen
    bounded := backedOff.bounded
  }
  intro some
  obtain ⟨first, rest, queue, last⟩ := backedOff.again some
  refine ⟨first, rest ++ sender.filling, ?_, lastRetrans.trans last⟩
  rw [timed.queue, queue, List.cons_append]

theorem recordWindow
    (backedOff : BackedOff timeout expiries doublings sender)
    (windowSize : UInt16) :
    BackedOff timeout expiries doublings
      (sender.recordWindow windowSize) := by
  rw [recordWindow_shape]
  refine ⟨backedOff.small, backedOff.initial, backedOff.rto,
    backedOff.count, backedOff.again, backedOff.running, ?_,
    backedOff.bounded⟩
  dsimp only
  split
  · decide
  · assumption

/-- An acknowledgment of new data starts the account afresh. -/
theorem acceptAck
    (backedOff : BackedOff timeout expiries doublings sender)
    (ackno : WrappingInt32) :
    BackedOff timeout 0 0 (sender.acceptAck ackno) := by
  refine {
    small := backedOff.small
    initial := backedOff.initial
    rto := ?_
    count := rfl
    again := fun impossible => (impossible rfl).elim
    running := ?_
    windowOpen := backedOff.windowOpen
    bounded := Nat.le_refl 0
  }
  · rw [Nat.pow_zero, Nat.mul_one, Nat.mod_eq_of_lt backedOff.small]
    exact backedOff.initial
  · simp only [TCPSender.acceptAck]
    split
    · rename_i remaining
      simp [RetransmissionTimer.start, remaining]
    · rename_i emptied
      simpa [RetransmissionTimer.stop] using emptied

/-- An acknowledgment of anything else leaves the account as it is. -/
theorem ackReceived
    (backedOff : BackedOff timeout expiries doublings sender)
    (ackno : WrappingInt32)
    (windowSize : UInt16) :
    BackedOff timeout
      (if sender.acknowledges ackno then 0 else expiries)
      (if sender.acknowledges ackno then 0 else doublings)
      (sender.ackReceived ackno windowSize) := by
  have recorded := backedOff.recordWindow windowSize
  rcases ackReceived_cases ackno windowSize sender with
    ⟨outside, same⟩ | ⟨isNew, wasSent, same⟩
  · have ignored : sender.acknowledges ackno = false := by
      rw [acknowledges, Bool.and_eq_false_iff, decide_eq_false_iff_not,
        decide_eq_false_iff_not]
      omega
    rw [same, ignored]
    exact recorded
  · have taken : sender.acknowledges ackno = true := by
      rw [acknowledges, Bool.and_eq_true, decide_eq_true_iff,
        decide_eq_true_iff]
      exact ⟨isNew, wasSent⟩
    rw [same, taken]
    exact recorded.acceptAck ackno

/-- The segment an expiry sends again. -/
theorem outstanding
    (backedOff : BackedOff timeout expiries doublings sender)
    {msSinceLastTick : Nat}
    (expired : sender.expires msSinceLastTick = true) :
    ∃ first rest, sender.retransmissionQueue = first :: rest := by
  have running := (tick_of_expired expired).1
  exact List.exists_cons_of_ne_nil (backedOff.running.mp running)

/-- An expiry is counted once, and doubles the timeout unless probing. -/
theorem expiry
    (backedOff : BackedOff timeout expiries doublings sender)
    {first : TCPSegment}
    {rest : List TCPSegment}
    (queue : sender.retransmissionQueue = first :: rest) :
    BackedOff timeout (expiries + 1)
      (doublings + (!sender.windowProbe).toNat) sender.retransmit := by
  have bounded := backedOff.bounded
  rw [retransmit_eq queue backedOff.windowOpen]
  refine {
    small := backedOff.small
    initial := backedOff.initial
    rto := ?_
    count := ?_
    again := fun _ => ⟨first, rest, queue, rfl⟩
    running := by simp [RetransmissionTimer.start, queue]
    windowOpen := backedOff.windowOpen
    bounded := by cases sender.windowProbe <;> simp <;> omega
  }
  · cases sender.windowProbe with
    | true =>
        exact backedOff.rto
    | false =>
        simp only [Bool.false_eq_true, ↓reduceIte, Bool.not_false,
          Bool.toNat_true]
        rw [backedOff.rto, Nat.mod_mul_mod, Nat.mul_assoc,
          ← Nat.pow_succ]
  · have counted := backedOff.count
    dsimp only
    split
    · omega
    · rename_i different
      -- a different segment was sent again, so this is the first expiry
      have none : expiries = 0 := by
        by_contra some
        obtain ⟨front, later, sameQueue, last⟩ := backedOff.again some
        rw [queue] at sameQueue
        cases sameQueue
        exact different last
      omega

/-- An interval counts as an expiry exactly when the timer runs out. -/
theorem tick
    (backedOff : BackedOff timeout expiries doublings sender)
    (msSinceLastTick : Nat) :
    BackedOff timeout
      (expiries + (sender.expires msSinceLastTick).toNat)
      (doublings +
        (sender.expires msSinceLastTick && !sender.windowProbe).toNat)
      (sender.tick msSinceLastTick) := by
  cases expired : sender.expires msSinceLastTick with
  | false =>
      obtain ⟨rto, _, waited⟩ := tick_of_waiting expired
      rw [waited]
      exact ⟨backedOff.small, backedOff.initial, backedOff.rto,
        backedOff.count, backedOff.again, backedOff.running,
        backedOff.windowOpen, backedOff.bounded⟩
  | true =>
      obtain ⟨first, rest, queue⟩ := backedOff.outstanding expired
      rw [(tick_of_expired expired).2.2, Bool.true_and]
      exact backedOff.expiry queue

end BackedOff

section Probing

/-- Timer or no timer, time does not end the probe state. -/
theorem tick_windowProbe
    (msSinceLastTick : Nat)
    (sender : TCPSender) :
    (sender.tick msSinceLastTick).windowProbe = sender.windowProbe := by
  have again : sender.retransmit.windowProbe = sender.windowProbe := by
    unfold retransmit
    split
    · rfl
    · dsimp only
      split
      · rfl
      · rw [countRetransmission_frame]
  cases expired : sender.expires msSinceLastTick with
  | false =>
      obtain ⟨rto, _, waited⟩ := tick_of_waiting expired
      rw [waited]
  | true =>
      rw [(tick_of_expired expired).2.2, again]

/-- The probe flag follows the advertised window, whatever is acknowledged. -/
theorem ackReceived_windowProbe
    (ackno : WrappingInt32)
    (windowSize : UInt16)
    (sender : TCPSender) :
    (sender.ackReceived ackno windowSize).windowProbe =
      decide (windowSize = 0) := by
  have recorded :
      (sender.recordWindow windowSize).windowProbe =
        decide (windowSize = 0) := by
    unfold recordWindow
    split <;> simp [*]
  rcases ackReceived_cases ackno windowSize sender with
    ⟨_, same⟩ | ⟨_, _, same⟩
  · rw [same, recorded]
  · rw [same]
    exact recorded

/-- The window that a call brings. -/
def Op.advertises : Op → Option UInt16
  | .ackReceived _ windowSize => some windowSize
  | _ => none

/-- The window of the most recently received acknowledgment. -/
def lastAdvertised (calls : List Op) : Option UInt16 :=
  (calls.filterMap Op.advertises).getLast?

/-- A sender probes exactly when the last advertised window was empty. -/
theorem Session.windowProbe_after
    (capacity : Nat)
    (retxTimeout : UInt16)
    (isn : WrappingInt32)
    (calls : List Op) :
    (after capacity retxTimeout isn calls).sender.windowProbe =
      ((lastAdvertised calls).map
        fun windowSize => decide (windowSize = 0)).getD false := by
  refine Execution.run_latest Op.advertises
    (fun session : Session => session.sender.windowProbe) _ ?_ _ calls
  intro session call
  cases call with
  | ackReceived ackno windowSize =>
      exact ackReceived_windowProbe ackno windowSize session.sender
  | tick msSinceLastTick =>
      exact tick_windowProbe msSinceLastTick session.sender
  | fillWindow =>
      exact (fillWindow_keeps session.sender).2.1
  | write _ | endInput | setError | sendEmptySegment | takeSegments =>
      rfl

/-- Every sender has backed off by some account. -/
theorem Session.backedOff_after
    (capacity : Nat)
    (retxTimeout : UInt16)
    (isn : WrappingInt32)
    (calls : List Op) :
    ∃ expiries doublings,
      BackedOff retxTimeout.toNat expiries doublings
        (after capacity retxTimeout isn calls).sender := by
  refine Execution.run_invariant
    (fun session : Session =>
      ∃ expiries doublings,
        BackedOff retxTimeout.toNat expiries doublings session.sender)
    ?_ ⟨0, 0, .new capacity retxTimeout isn⟩ calls
  rintro session call ⟨expiries, doublings, backedOff⟩
  cases call with
  | ackReceived ackno windowSize =>
      exact ⟨_, _, backedOff.ackReceived ackno windowSize⟩
  | tick msSinceLastTick =>
      exact ⟨_, _, backedOff.tick msSinceLastTick⟩
  | fillWindow =>
      exact ⟨_, _, backedOff.fillWindow⟩
  | write _ | endInput | setError | sendEmptySegment | takeSegments =>
      exact ⟨_, _, backedOff.detached _ _⟩

/-- The sender after a number of intervals. -/
def ticks
    (intervals : List Nat)
    (sender : TCPSender) : TCPSender :=
  intervals.foldl (fun sender ms => sender.tick ms) sender

/-- How often the timer runs out in a number of intervals. -/
def expiries : List Nat → TCPSender → Nat
  | [], _ => 0
  | ms :: rest, sender =>
      (sender.expires ms).toNat + expiries rest (sender.tick ms)

/-- While probing, every expiry is counted and none doubles the timeout. -/
theorem BackedOff.ticks
    {timeout count doublings : Nat}
    {sender : TCPSender}
    (backedOff : BackedOff timeout count doublings sender)
    (probing : sender.windowProbe = true)
    (intervals : List Nat) :
    BackedOff timeout (count + sender.expiries intervals) doublings
      (sender.ticks intervals) := by
  induction intervals generalizing sender count with
  | nil =>
      exact backedOff
  | cons ms rest inductionHypothesis =>
      have ticked := backedOff.tick ms
      rw [probing, Bool.not_true, Bool.and_false, Bool.toNat_false,
        Nat.add_zero] at ticked
      have later :=
        inductionHypothesis ticked
          ((tick_windowProbe ms sender).trans probing)
      rw [Nat.add_assoc] at later
      exact later

/-- The count of a probing sender only stays the same modulo its width. -/
theorem ticks_of_probing
    {timeout count doublings : Nat}
    {sender : TCPSender}
    (backedOff : BackedOff timeout count doublings sender)
    (probing : sender.windowProbe = true)
    (intervals : List Nat) :
    (sender.ticks intervals).rto = sender.rto ∧
      ((sender.ticks intervals).consecutiveRetran =
          sender.consecutiveRetran ↔
        2 ^ 32 ∣ sender.expiries intervals) := by
  have later := backedOff.ticks probing intervals
  refine ⟨later.rto.trans backedOff.rto.symm, ?_⟩
  rw [later.count, backedOff.count]
  omega

end Probing

end Sponge.TCPSender
