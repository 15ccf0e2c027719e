import Sponge.TCPSenderWindow

namespace Sponge.TCPSender

/-!
# The sender at the end of the sequence space

The sender keeps its acknowledgment as a 32-bit value and expands it with
checkpoint zero.  An acknowledgment is taken up as what it means exactly while
its absolute number is below `2 ^ 32`; a run that sends a long stream in full
windows gets past that.
-/

/-- The segments of a queue with the absolute numbers at which they end. -/
def withEnds
    (next : Nat) :
    List TCPSegment → List (TCPSegment × Nat)
  | [] => []
  | segment :: rest =>
      (segment, next - seqLength rest) :: withEnds next rest

section Ends

variable {next bound : Nat} {first second : List TCPSegment}

theorem withEnds_append :
    withEnds next (first ++ second) =
      withEnds (next - seqLength second) first ++
        withEnds next second := by
  induction first with
  | nil =>
      rfl
  | cons segment rest inductionHypothesis =>
      simp only [List.cons_append, withEnds, inductionHypothesis,
        seqLength_append, List.cons.injEq, Prod.mk.injEq, true_and,
        and_true]
      omega

theorem withEnds_le
    {entry : TCPSegment × Nat}
    (member : entry ∈ withEnds next first) :
    entry.2 ≤ next := by
  induction first with
  | nil =>
      cases member
  | cons segment rest inductionHypothesis =>
      rcases List.mem_cons.mp member with rfl | inRest
      · exact Nat.sub_le _ _
      · exact inductionHypothesis inRest

/-- If the first segment ends past the bound, all do. -/
theorem lt_withEnds
    (firstEnd :
      ∀ segment rest,
        first = segment :: rest →
        bound < next - seqLength rest)
    {entry : TCPSegment × Nat}
    (member : entry ∈ withEnds next first) :
    bound < entry.2 := by
  induction first with
  | nil =>
      cases member
  | cons segment rest inductionHypothesis =>
      have here := firstEnd segment rest rfl
      rcases List.mem_cons.mp member with rfl | inRest
      · exact here
      · apply inductionHypothesis _ inRest
        rintro later trailing rfl
        rw [seqLength_cons] at here
        omega

end Ends

section Accepted

variable {written : Bytes} {log : List TCPSegment} {sender : TCPSender}

/-- Taking up an acknowledgment drops exactly the segments it covers. -/
theorem Queued.acceptAck_queue
    {ackno : WrappingInt32}
    (queued : Queued log sender)
    (logged : Logged written log sender)
    (isNew : sender.acked < unwrap ackno sender.isn 0) :
    withEnds sender.nextSeqnoAbsolute
        (sender.acceptAck ackno).retransmissionQueue =
      (withEnds sender.nextSeqnoAbsolute
        sender.retransmissionQueue).filter
          fun entry => unwrap ackno sender.isn 0 < entry.2 := by
  obtain ⟨acknowledged, shape, low, _⟩ := queued.split
  have numbered := logged.numbered
  rw [shape, Numbered.append_iff, Nat.zero_add] at numbered
  have reached :
      seqLength acknowledged ≤ unwrap ackno sender.isn 0 := by
    omega
  obtain ⟨popped, split, popLow, popHigh⟩ :=
    popAcknowledged_spec numbered.2 reached
  have total := logged.next
  rw [shape, split, seqLength_append, seqLength_append] at total
  change withEnds _ (popAcknowledged _ _ _) = _
  generalize
    popAcknowledged sender.isn ackno sender.retransmissionQueue = left
    at split popHigh total ⊢
  rw [split, withEnds_append, List.filter_append]
  have dropped :
      (withEnds (sender.nextSeqnoAbsolute - seqLength left)
        popped).filter
          (fun entry => unwrap ackno sender.isn 0 < entry.2) =
        [] := by
    rw [List.filter_eq_nil_iff]
    intro entry member
    have bound := withEnds_le member
    simp only [decide_eq_true_eq]
    omega
  have kept :
      (withEnds sender.nextSeqnoAbsolute left).filter
          (fun entry => unwrap ackno sender.isn 0 < entry.2) =
        withEnds sender.nextSeqnoAbsolute left := by
    rw [List.filter_eq_self]
    intro entry member
    rw [decide_eq_true_eq]
    apply lt_withEnds _ member
    rintro segment rest rfl
    have bound := popHigh segment rest rfl
    rw [seqLength_cons] at total
    omega
  rw [dropped, kept, List.nil_append]

end Accepted

/-- An acknowledgment below the end of the space is taken up in full. -/
theorem Session.Tracked.ack_taken_up
    {session : Session}
    (tracked : session.Tracked)
    {a a' : Nat}
    (windowSize : UInt16)
    (recorded : session.sender.ack = wrap a session.sender.isn)
    (isNew : a < a')
    (wasSent : a' ≤ session.sender.nextSeqnoAbsolute)
    (small : a' < 2 ^ 32) :
    let sender := session.sender
    let later := sender.ackReceived (wrap a' sender.isn) windowSize
    later.bytesInFlight = sender.nextSeqnoAbsolute - a' ∧
      withEnds sender.nextSeqnoAbsolute later.retransmissionQueue =
        (withEnds sender.nextSeqnoAbsolute
          sender.retransmissionQueue).filter
            fun entry => a' < entry.2 := by
  intro sender later
  obtain ⟨logged, queued, _⟩ := tracked
  have expanded :
      unwrap (wrap a' session.sender.isn) session.sender.isn 0 = a' :=
    unwrap_zero_wrap_of_lt small _
  have ackedIs : session.sender.acked = a := by
    rw [acked, recorded, unwrap_zero_wrap_of_lt (by omega)]
  have taken :
      later =
        (session.sender.recordWindow windowSize).acceptAck
          (wrap a' session.sender.isn) := by
    rcases ackReceived_cases (wrap a' session.sender.isn) windowSize
        session.sender with ⟨rejected, _⟩ | ⟨_, _, accepted⟩
    · rw [expanded, ackedIs] at rejected
      omega
    · exact accepted
  rw [recordWindow_shape] at taken
  have laterAcked : later.acked = a' := by
    rw [taken]
    exact expanded
  have laterNext :
      later.nextSeqnoAbsolute = session.sender.nextSeqnoAbsolute := by
    rw [taken]
    rfl
  constructor
  · rw [bytesInFlight, laterAcked, laterNext, sub64_of_le wasSent]
  · have advances :
        session.sender.acked <
          unwrap (wrap a' session.sender.isn) session.sender.isn 0 := by
      rw [expanded, ackedIs]
      exact isNew
    have filtered := queued.acceptAck_queue logged advances
    rw [expanded] at filtered
    rw [taken]
    exact filtered

/-- Whatever is recorded lies below the end of the sequence space. -/
theorem Session.Tracked.ack_misread
    {session : Session}
    (tracked : session.Tracked)
    {a' : Nat}
    (windowSize : UInt16)
    (wasSent : a' ≤ session.sender.nextSeqnoAbsolute)
    (large : 2 ^ 32 ≤ a') :
    let sender := session.sender
    let later := sender.ackReceived (wrap a' sender.isn) windowSize
    later.bytesInFlight ≠ sender.nextSeqnoAbsolute - a' := by
  intro sender later
  have stillTracked :=
    tracked.ackReceived (wrap a' session.sender.isn) windowSize
  have inFlight : later.bytesInFlight = _ :=
    stillTracked.queued.bytesInFlight_eq
  have small : later.acked < 2 ^ 32 := unwrap_zero_lt _ _
  have laterNext :
      later.nextSeqnoAbsolute = session.sender.nextSeqnoAbsolute := by
    have before := tracked.logged.next
    have after := stillTracked.logged.next
    exact after.trans before.symm
  intro same
  rw [inFlight] at same
  change
    later.nextSeqnoAbsolute - later.acked =
      session.sender.nextSeqnoAbsolute - a'
    at same
  omega

/--
In every reachable state, an acknowledgment `a'` of something sent and not yet
acknowledged is accounted for exactly when `a'` lies below `2 ^ 32`.
-/
theorem ack_accounted_iff
    (capacity : Nat)
    (retxTimeout : UInt16)
    (isn : WrappingInt32)
    (calls : List Op)
    (a a' : Nat)
    (windowSize : UInt16)
    (recorded :
      (Session.after capacity retxTimeout isn calls).sender.ack =
        wrap a isn)
    (isNew : a < a')
    (wasSent :
      a' ≤
        (Session.after capacity retxTimeout isn
          calls).sender.nextSeqnoAbsolute) :
    let sender := (Session.after capacity retxTimeout isn calls).sender
    let later := sender.ackReceived (wrap a' isn) windowSize
    (later.bytesInFlight = sender.nextSeqnoAbsolute - a' ∧
        withEnds sender.nextSeqnoAbsolute later.retransmissionQueue =
          (withEnds sender.nextSeqnoAbsolute
            sender.retransmissionQueue).filter
              fun entry => a' < entry.2) ↔
      a' < 2 ^ 32 := by
  have tracked := Session.tracked_after capacity retxTimeout isn calls
  have sameIsn := Session.isn_after capacity retxTimeout isn calls
  generalize Session.after capacity retxTimeout isn calls = session
    at recorded wasSent tracked sameIsn ⊢
  subst isn
  constructor
  · rintro ⟨inFlight, _⟩
    by_contra large
    exact tracked.ack_misread windowSize wasSent
      (Nat.le_of_not_lt large) inFlight
  · exact tracked.ack_taken_up windowSize recorded isNew wasSent

/-- The SYN of a new connection is acknowledged. -/
theorem ack_accounted_syn :
    let sender :=
      (Session.after 64000 1000 ⟨7⟩ [.fillWindow]).sender
    let later := sender.ackReceived (wrap 1 ⟨7⟩) 10
    later.bytesInFlight = 0 ∧
      withEnds 1 later.retransmissionQueue = [] := by
  have accounted :=
    (ack_accounted_iff 64000 1000 ⟨7⟩ [.fillWindow] 0 1 10
      (by decide) (by decide) (by decide)).mpr (by decide)
  refine ⟨accounted.1.trans (by decide), ?_⟩
  exact accounted.2.trans (by decide)

section LongRun

/-- Everything sent so far was acknowledged and the window is open again. -/
structure Steady
    (isn : WrappingInt32)
    (count : Nat)
    (session : Session) : Prop where
  tracked : session.Tracked
  isn : session.sender.isn = isn
  begun : session.sender.state ≠ .init
  isOpen : session.sender.stream.endFlag = false
  drained : session.sender.stream.size = 0
  window : session.sender.windowSize.toNat = 1000
  capacity : 1000 ≤ session.sender.stream.mCapacity
  sent : session.sender.nextSeqnoAbsolute = 1 + count
  acknowledged : session.sender.acked = 1 + count

variable {isn : WrappingInt32} {count : Nat} {session : Session}

/-- While the stream is open, the next number counts the SYN and the bytes. -/
theorem Session.Tracked.next_of_open
    (tracked : session.Tracked)
    (begun : session.sender.state ≠ .init)
    (isOpen : session.sender.stream.endFlag = false) :
    session.sender.nextSeqnoAbsolute =
      1 + session.sender.stream.bytesR := by
  have logged := tracked.logged
  have next := logged.next_eq
  have synSent := logged.marked.syn_sent begun
  have noFin :
      (session.log.any fun segment => segment.header.fin) = false := by
    rw [← Bool.not_eq_true, ← logged.marked.finSent_iff]
    intro isFinished
    have atEnd := logged.ended isFinished
    rw [ByteStream.eof, isOpen] at atEnd
    cases atEnd
  rw [synSent, noFin] at next
  simpa [ByteStream.bytesRead] using next

/-- A full window of bytes was sent and is not yet acknowledged. -/
structure Sending
    (isn : WrappingInt32)
    (count : Nat)
    (session : Session) : Prop where
  tracked : session.Tracked
  isn : session.sender.isn = isn
  begun : session.sender.state ≠ .init
  isOpen : session.sender.stream.endFlag = false
  drained : session.sender.stream.size = 0
  capacity : 1000 ≤ session.sender.stream.mCapacity
  sent : session.sender.nextSeqnoAbsolute = 1 + (count + 1000)
  acknowledged : session.sender.acked = 1 + count

/-- A full window of bytes fits in the empty stream. -/
theorem Steady.accepts
    (steady : Steady isn count session)
    {data : Bytes}
    (full : data.length = 1000) :
    session.sender.stream.accepted data = 1000 := by
  have room := steady.capacity
  have drained := steady.drained
  rw [ByteStream.accepted, steady.isOpen, if_neg Bool.false_ne_true,
    ByteStream.remainingCapacity_of_le (by omega), full]
  omega

/-- With everything acknowledged, at most a window is sent. -/
theorem Steady.fill_bounded
    (steady : Steady isn count session)
    (data : Bytes) :
    ((session.step (.write data)).step
      .fillWindow).sender.nextSeqnoAbsolute ≤ 1 + count + 1000 := by
  have written := steady.tracked.write data
  obtain ⟨sent, fills⟩ := fillWindow_fills written.logged.ready
  have covered :
      session.sender.bytesInFlight ≤
        session.sender.windowSize.toNat := by
    rw [steady.tracked.queued.bytesInFlight_eq, steady.sent,
      steady.acknowledged]
    omega
  have within := fills.within_window written.queued.bound covered
  change
    session.sender.nextSeqnoAbsolute + seqLength sent ≤
      session.sender.acked + session.sender.windowSize.toNat
    at within
  have advanced := fills.frame.next
  change _ = session.sender.nextSeqnoAbsolute + seqLength sent
    at advanced
  rw [steady.acknowledged, steady.window, ← advanced] at within
  exact within

/-- Writing a full window and filling sends all of it. -/
theorem Steady.send
    (steady : Steady isn count session)
    {data : Bytes}
    (full : data.length = 1000) :
    Sending isn count
      ((session.step (.write data)).step .fillWindow) := by
  have drained := steady.drained
  have accepts := steady.accepts full
  have written := steady.tracked.write data
  obtain ⟨sent, fills⟩ := fillWindow_fills written.logged.ready
  have filled := written.fillWindow
  have bounded := steady.fill_bounded data
  have grown :=
    steady.tracked.logged.marked.begun.not.mp steady.begun
  have logGrown :
      ((session.step (.write data)).step .fillWindow).log ≠ [] :=
    fun nothing => grown (List.append_eq_nil_iff.mp nothing).1
  have started :=
    steady.tracked.next_of_open steady.begun steady.isOpen
  have stepped :
      ((session.step (.write data)).step .fillWindow).sender =
        (session.step (.write data)).sender.fillWindow :=
    rfl
  rw [← stepped] at fills
  clear stepped
  generalize (session.step (.write data)).step .fillWindow = final
    at fills filled bounded logGrown ⊢
  have frame := fills.frame
  have isOpen : final.sender.stream.endFlag = false := by
    refine frame.endFlag.trans ?_
    simp [Session.step, steady.isOpen]
  have begun : final.sender.state ≠ .init :=
    filled.logged.marked.begun.not.mpr logGrown
  have next := filled.next_of_open begun isOpen
  have acknowledged : final.sender.acked = 1 + count :=
    frame.acked.trans steady.acknowledged
  have total : final.sender.stream.bytesW = count + 1000 := by
    have before := steady.tracked.logged.valid.accounting
    have sentBefore := steady.sent
    have bytesW := frame.bytesW
    simp only [Session.step, ByteStream.write_bytesW, accepts] at bytesW
    omega
  have accounting := filled.logged.valid.accounting
  -- the window bounds what is sent from above, the exit from below
  have reached :
      final.sender.nextSeqnoAbsolute = 1 + (count + 1000) := by
    rcases fills.exit with noRoom | isFinished | ⟨emptied, _⟩
    · have exhausted := sub64_eq_zero_iff.mp noRoom
      have window : final.sender.windowSize = session.sender.windowSize :=
        frame.windowSize
      rw [window, steady.window, filled.queued.bytesInFlight_eq,
        acknowledged] at exhausted
      omega
    · have atEnd := filled.logged.ended isFinished
      rw [ByteStream.eof, isOpen] at atEnd
      cases atEnd
    · omega
  exact {
    tracked := filled
    isn := frame.isn.trans steady.isn
    begun := begun
    isOpen := isOpen
    drained := by omega
    capacity := by
      have limit := frame.mCapacity
      simp only [Session.step, ByteStream.write_mCapacity] at limit
      rw [limit]
      exact steady.capacity
    sent := reached
    acknowledged := acknowledged
  }

/-- Acknowledging everything makes the session steady again. -/
theorem Sending.acknowledge
    (sending : Sending isn count session)
    (small : 1 + (count + 1000) < 2 ^ 32) :
    Steady isn (count + 1000)
      (session.step
        (.ackReceived (wrap (1 + (count + 1000)) isn) 1000)) := by
  have expanded :
      unwrap (wrap (1 + (count + 1000)) isn) session.sender.isn 0 =
        1 + (count + 1000) := by
    rw [sending.isn, unwrap_zero_wrap_of_lt small]
  have tracked :=
    sending.tracked.ackReceived (wrap (1 + (count + 1000)) isn) 1000
  have taken :
      session.sender.ackReceived (wrap (1 + (count + 1000)) isn) 1000 =
        (session.sender.recordWindow 1000).acceptAck
          (wrap (1 + (count + 1000)) isn) := by
    have sent := sending.sent
    have acknowledged := sending.acknowledged
    rcases ackReceived_cases (wrap (1 + (count + 1000)) isn) 1000
        session.sender with ⟨rejected, _⟩ | ⟨_, _, accepted⟩
    · rw [expanded] at rejected
      omega
    · exact accepted
  rw [recordWindow_shape] at taken
  refine {
    tracked := tracked
    isn := ?_
    begun := ?_
    isOpen := ?_
    drained := ?_
    window := ?_
    capacity := ?_
    sent := ?_
    acknowledged := ?_
  } <;> simp only [Session.step, taken]
  · exact sending.isn
  · exact sending.begun
  · exact sending.isOpen
  · exact sending.drained
  · rfl
  · exact sending.capacity
  · exact sending.sent
  · exact expanded

/-- A SYN, and then full windows, each acknowledged at once. -/
def steadyCalls
    (isn : WrappingInt32)
    (data : Bytes) :
    Nat → List Op
  | 0 => [.fillWindow, .ackReceived (wrap 1 isn) 1000]
  | rounds + 1 =>
      steadyCalls isn data rounds ++
        [.write data, .fillWindow,
          .ackReceived (wrap (1 + (rounds * 1000 + 1000)) isn) 1000]

theorem steadyCalls_steady
    {data : Bytes}
    (full : data.length = 1000)
    {rounds : Nat}
    (small : 1 + rounds * 1000 < 2 ^ 32) :
    Steady ⟨0⟩ (rounds * 1000)
      (Session.after 64000 1000 ⟨0⟩ (steadyCalls ⟨0⟩ data rounds)) := by
  induction rounds with
  | zero =>
      exact {
        tracked := Session.tracked_after 64000 1000 ⟨0⟩ _
        isn := rfl
        begun := by
          rw [steadyCalls]
          decide
        isOpen := rfl
        drained := rfl
        window := rfl
        capacity := by
          rw [steadyCalls]
          decide
        sent := rfl
        acknowledged := by
          rw [steadyCalls]
          decide
      }
  | succ rounds inductionHypothesis =>
      rw [Nat.succ_mul] at small ⊢
      have before := inductionHypothesis
        (Nat.lt_of_le_of_lt
          (Nat.add_le_add_left (Nat.le_add_right _ 1000) 1) small)
      rw [steadyCalls, Session.after_append]
      simp only [Execution.run_cons, Execution.run_nil]
      exact (before.send full).acknowledge small

/-- An acknowledgment past the end of the space leaves all in flight. -/
theorem Sending.ack_lost
    (sending : Sending isn count session)
    (past : 2 ^ 32 ≤ 1 + (count + 1000)) :
    session.sender.ack = wrap (1 + count) isn ∧
      session.sender.nextSeqnoAbsolute = 1 + (count + 1000) ∧
      (session.sender.ackReceived
          (wrap (1 + (count + 1000)) isn) 1000).bytesInFlight ≠
        session.sender.nextSeqnoAbsolute - (1 + (count + 1000)) := by
  have sent := sending.sent
  have recorded : session.sender.ack = wrap (1 + count) isn := by
    rw [← sending.acknowledged, acked, sending.isn, wrap_unwrap_zero]
  have misread :=
    sending.tracked.ack_misread 1000 (Nat.le_of_eq sent.symm) past
  dsimp only at misread
  rw [sending.isn] at misread
  exact ⟨recorded, sent, misread⟩

end LongRun

/--
After four gibibytes the last window ends past `2 ^ 32`.  Acknowledging all of
it, a thousand numbers past the recorded acknowledgment, leaves bytes in
flight.
-/
theorem wrapped_ack_lost :
    let sender :=
      (Session.after 64000 1000 ⟨0⟩
        (steadyCalls ⟨0⟩ (List.replicate 1000 0) 4294967 ++
          [.write (List.replicate 1000 0), .fillWindow])).sender
    sender.ack = wrap 4294967001 ⟨0⟩ ∧
      sender.nextSeqnoAbsolute = 4294968001 ∧
      (sender.ackReceived (wrap 4294968001 ⟨0⟩) 1000).bytesInFlight ≠
        sender.nextSeqnoAbsolute - 4294968001 := by
  have full : (List.replicate 1000 (0 : UInt8)).length = 1000 :=
    List.length_replicate
  have small : 1 + 4294967 * 1000 < 2 ^ 32 := by decide
  have sending := (steadyCalls_steady full small).send full
  have count : 4294967 * 1000 = 4294967000 := by decide
  rw [count] at sending
  have lost := sending.ack_lost (by decide)
  have recorded : 1 + 4294967000 = 4294967001 := by decide
  have next : 1 + (4294967000 + 1000) = 4294968001 := by decide
  rw [recorded, next] at lost
  rw [Session.after_append]
  simp only [Execution.run_cons, Execution.run_nil]
  exact lost

end Sponge.TCPSender
