import Sponge.Execution
import Sponge.TCPSenderFill

namespace Sponge.TCPSender

/-!
# The log of sent segments

A session keeps, next to a sender, the bytes its stream accepted and the
segments `fill_window` pushed.  `Logged` ties the sender to that log, and
`Queued` describes the retransmission queue as the part of the log that is not
yet acknowledged.  Both hold in every state a session can reach.
-/

/-- The payloads of a list of segments, one after the other. -/
def payloads (segments : List TCPSegment) : Bytes :=
  segments.flatMap TCPSegment.payload

@[simp] theorem payloads_append
    (first second : List TCPSegment) :
    payloads (first ++ second) = payloads first ++ payloads second :=
  List.flatMap_append

@[simp] theorem payloads_singleton
    (segment : TCPSegment) :
    payloads [segment] = segment.payload := by
  simp [payloads]

/-- The segments are numbered without gaps from a starting number. -/
def Numbered
    (isn : WrappingInt32) :
    Nat → List TCPSegment → Prop
  | _, [] => True
  | start, segment :: rest =>
      segment.header.seqno = wrap start isn ∧
        Numbered isn (start + segment.lengthInSequenceSpace) rest

theorem Numbered.append_iff
    {isn : WrappingInt32}
    {start : Nat}
    {first second : List TCPSegment} :
    Numbered isn start (first ++ second) ↔
      Numbered isn start first ∧
        Numbered isn (start + seqLength first) second := by
  induction first generalizing start with
  | nil =>
      simp [Numbered]
  | cons segment rest inductionHypothesis =>
      simp only [List.cons_append, Numbered, inductionHypothesis,
        seqLength_cons, and_assoc, Nat.add_assoc]

/-- SYN is on the first segment of the log and FIN on the last. -/
structure Marked
    (state : SenderState)
    (log : List TCPSegment) : Prop where
  begun : state = .init ↔ log = []
  synFirst :
    ∀ first rest,
      log = first :: rest →
      first.header.syn = true ∧
        ∀ segment ∈ rest, segment.header.syn = false
  finLast :
    ∀ leading segment trailing,
      log = leading ++ segment :: trailing →
      segment.header.fin = true →
      trailing = [] ∧ state = .finSent
  finished :
    state = .finSent →
    ∃ segment ∈ log, segment.header.fin = true

/-- The log accounts for everything the sender took from its stream. -/
structure Logged
    (written : Bytes)
    (log : List TCPSegment)
    (sender : TCPSender) : Prop where
  valid : sender.stream.Valid
  bytes : payloads log ++ sender.stream.contents = written
  total : sender.stream.bytesW = written.length
  numbered : Numbered sender.isn 0 log
  next : sender.nextSeqnoAbsolute = seqLength log
  short :
    ∀ segment ∈ log,
      segment.payload.length ≤ TCPConfig.maxPayloadSize
  plain :
    ∀ segment ∈ log,
      segment.header = {
        seqno := segment.header.seqno
        syn := segment.header.syn
        fin := segment.header.fin }
  marked : Marked sender.state log
  ended : sender.state = .finSent → sender.stream.eof = true

/-- A sender logged in a new session. -/
theorem logged_new
    (capacity : Nat)
    (retxTimeout : UInt16)
    (isn : WrappingInt32) :
    Logged [] [] (new capacity retxTimeout isn) where
  valid := ByteStream.valid_new capacity
  bytes := rfl
  total := rfl
  numbered := trivial
  next := rfl
  short := by simp
  plain := by simp
  marked := {
    begun := by simp [new]
    synFirst := by simp
    finLast := by simp
    finished := by simp [new]
  }
  ended := by simp [new]

theorem SenderState.eq_synSent
    {state : SenderState}
    (begun : state ≠ .init)
    (unfinished : state ≠ .finSent) :
    state = .synSent := by
  cases state with
  | init =>
      exact (begun rfl).elim
  | synSent =>
      rfl
  | finSent =>
      exact (unfinished rfl).elim

section Fill

variable {written : Bytes} {log : List TCPSegment} {sender : TCPSender}

/-- Nothing was read before the SYN was sent. -/
theorem Logged.ready
    (logged : Logged written log sender) :
    sender.Ready := by
  refine ⟨logged.valid, fun isInit => ?_⟩
  have nothing := logged.marked.begun.mp isInit
  have bytes := congrArg List.length logged.bytes
  have size := logged.valid.sizeExact
  have accounting := logged.valid.accounting
  have total := logged.total
  rw [nothing] at bytes
  simp only [payloads, List.flatMap_nil, List.nil_append] at bytes
  omega

/-- Marking the next segment keeps SYN first and FIN last. -/
theorem Marked.send
    {after : TCPSender}
    {segment : TCPSegment}
    (marked : Marked sender.state log)
    (unfinished : sender.state ≠ .finSent)
    (built : Built sender segment after) :
    Marked after.state (log ++ [segment]) := by
  have noFin : ∀ earlier ∈ log, earlier.header.fin = false := by
    intro earlier member
    obtain ⟨leading, trailing, shape⟩ := List.append_of_mem member
    by_contra hasFin
    exact unfinished
      (marked.finLast leading earlier trailing shape
        (by simpa using hasFin)).2
  have syn :
      segment.header.syn = decide (sender.state = .init) := by
    rw [built.header]
  have fin :
      segment.header.fin = decide (after.state = .finSent) := by
    rw [built.header]
  refine {
    begun := ?_
    synFirst := ?_
    finLast := ?_
    finished := ?_
  }
  · simp [built.begun]
  · intro first rest shape
    cases log with
    | nil =>
        have isInit := marked.begun.mpr rfl
        simp only [List.nil_append, List.cons.injEq] at shape
        obtain ⟨rfl, rfl⟩ := shape
        simp [syn, isInit]
    | cons head tail =>
        simp only [List.cons_append, List.cons.injEq] at shape
        obtain ⟨rfl, rfl⟩ := shape
        obtain ⟨headSyn, tailNoSyn⟩ := marked.synFirst head tail rfl
        have notInit : sender.state ≠ .init :=
          fun isInit => List.cons_ne_nil _ _ (marked.begun.mp isInit)
        refine ⟨headSyn, ?_⟩
        intro later member
        rcases List.mem_append.mp member with inTail | isLast
        · exact tailNoSyn later inTail
        · rw [List.mem_singleton.mp isLast, syn]
          simp [notInit]
  · intro leading carrier trailing shape carriesFin
    rcases List.eq_nil_or_concat trailing with
      isNil | ⟨shorter, last, isConcat⟩
    · subst trailing
      have same : segment = carrier :=
        (List.append_inj' shape rfl).2 |> List.cons.inj |> And.left
      rw [← same, fin] at carriesFin
      exact ⟨rfl, of_decide_eq_true carriesFin⟩
    · subst trailing
      rw [List.concat_eq_append, ← List.cons_append,
        ← List.append_assoc] at shape
      have inLog : carrier ∈ log := by
        rw [(List.append_inj' shape rfl).1]
        simp
      rw [noFin carrier inLog] at carriesFin
      cases carriesFin
  · intro isFinished
    exact ⟨segment, by simp, by simp [fin, isFinished]⟩

/-- Sending a built segment keeps the log. -/
theorem Logged.send
    {after : TCPSender}
    {segment : TCPSegment}
    (logged : Logged written log sender)
    (unfinished : sender.state ≠ .finSent)
    (built : Built sender segment after)
    (something : segment.lengthInSequenceSpace ≠ 0) :
    Logged written (log ++ [segment]) (after.sendSegment segment) := by
  have frame :=
    built.fillFrame.trans (sendSegment_fillFrame after something)
  have next := frame.next
  simp only [List.nil_append, seqLength_cons, seqLength_nil,
    Nat.add_zero, logged.next] at next
  refine {
    valid := built.valid
    bytes := ?_
    total := frame.bytesW.trans logged.total
    numbered := ?_
    next := ?_
    short := ?_
    plain := ?_
    marked :=
      (logged.marked.send unfinished built : Marked after.state _)
    ended := built.finished
  }
  · rw [payloads_append, payloads_singleton, List.append_assoc]
    exact (congrArg _ built.payload).trans logged.bytes
  · rw [frame.isn, Numbered.append_iff, Nat.zero_add, ← logged.next]
    refine ⟨logged.numbered, ?_, trivial⟩
    rw [built.header]
    rfl
  · simp [next]
  · intro member inLog
    rcases List.mem_append.mp inLog with before | isLast
    · exact logged.short member before
    · rw [List.mem_singleton.mp isLast]
      exact built.short
  · intro member inLog
    rcases List.mem_append.mp inLog with before | isLast
    · exact logged.plain member before
    · rw [List.mem_singleton.mp isLast, built.header]

/-- An iteration that finds nothing to send keeps the log. -/
theorem Logged.idle
    {after : TCPSender}
    {segment : TCPSegment}
    (logged : Logged written log sender)
    (hasRoom : sender.room ≠ 0)
    (unfinished : sender.state ≠ .finSent)
    (built : Built sender segment after)
    (nothing : segment.lengthInSequenceSpace = 0) :
    Logged written log after := by
  obtain ⟨bare, begun, stillOpen, _, _⟩ :=
    built.nothing_left hasRoom nothing
  have frame := built.fillFrame
  have sameState : after.state = sender.state := by
    rw [SenderState.eq_synSent built.begun stillOpen,
      SenderState.eq_synSent begun unfinished]
  have payload := built.payload
  rw [bare, List.nil_append] at payload
  have next := frame.next
  simp only [seqLength_nil, Nat.add_zero] at next
  exact {
    valid := built.valid
    bytes := by
      rw [payload]
      exact logged.bytes
    total := frame.bytesW.trans logged.total
    numbered := by
      rw [frame.isn]
      exact logged.numbered
    next := next.trans logged.next
    short := logged.short
    plain := logged.plain
    marked := by
      rw [sameState]
      exact logged.marked
    ended := fun isFinished => (stillOpen isFinished).elim
  }

/-- Filling the window appends what it sends to the log. -/
theorem Logged.fills
    {sent : List TCPSegment}
    {after : TCPSender}
    (logged : Logged written log sender)
    (fills : Fills sender sent after) :
    Logged written (log ++ sent) after := by
  induction fills generalizing log with
  | full stops =>
      simpa using logged
  | idle hasRoom unfinished built nothing =>
      simpa using logged.idle hasRoom unfinished built nothing
  | send hasRoom unfinished built something later inductionHypothesis =>
      have extended :=
        inductionHypothesis (logged.send unfinished built something)
      simpa using extended

end Fill

/-- The queue is what the recorded acknowledgment leaves of the log. -/
structure Queued
    (log : List TCPSegment)
    (sender : TCPSender) : Prop where
  split :
    ∃ acknowledged,
      log = acknowledged ++ sender.retransmissionQueue ∧
        seqLength acknowledged ≤ sender.acked ∧
        ∀ first rest,
          sender.retransmissionQueue = first :: rest →
          sender.acked <
            seqLength acknowledged + first.lengthInSequenceSpace
  bound : sender.acked ≤ sender.nextSeqnoAbsolute
  running :
    sender.timer.running = true ↔ sender.retransmissionQueue ≠ []

theorem acked_new
    (capacity : Nat)
    (retxTimeout : UInt16)
    (isn : WrappingInt32) :
    (new capacity retxTimeout isn).acked = 0 := by
  rw [acked, unwrap_zero]
  simp [new]

theorem queued_new
    (capacity : Nat)
    (retxTimeout : UInt16)
    (isn : WrappingInt32) :
    Queued [] (new capacity retxTimeout isn) := by
  refine ⟨⟨[], rfl, by simp, by simp [new]⟩, ?_, by simp [new]⟩
  rw [acked_new]
  exact Nat.zero_le _

section Queue

variable {written : Bytes} {log : List TCPSegment} {sender : TCPSender}

/-- What is sent goes to the end of the queue. -/
theorem Queued.fills
    {sent : List TCPSegment}
    {after : TCPSender}
    (queued : Queued log sender)
    (logged : Logged written log sender)
    (fills : Fills sender sent after) :
    Queued (log ++ sent) after := by
  have frame := fills.frame
  have sameAcked := frame.acked
  obtain ⟨acknowledged, shape, low, high⟩ := queued.split
  have bound := queued.bound
  refine {
    split := ⟨acknowledged, ?_, ?_, ?_⟩
    bound := ?_
    running := ?_
  }
  · rw [frame.retransmissionQueue, ← List.append_assoc, ← shape]
  · rw [sameAcked]
    exact low
  · intro first rest
    rw [frame.retransmissionQueue, sameAcked]
    cases queue : sender.retransmissionQueue with
    | cons head tail =>
        intro begins
        obtain ⟨rfl, _⟩ := List.cons.inj begins
        exact high head tail queue
    | nil =>
        intro begins
        have member : first ∈ sent := by
          rw [List.nil_append] at begins
          simp [begins]
        have positive :=
          Nat.pos_of_ne_zero (fills.sent_nonempty member)
        have all : seqLength log = seqLength acknowledged := by
          rw [shape, queue, List.append_nil]
        have next := logged.next
        omega
  · rw [sameAcked, frame.next]
    omega
  · rw [frame.running, frame.retransmissionQueue, Bool.or_eq_true,
      queued.running]
    cases sent <;> simp

/-- Popping stops at the first segment that ends past the acknowledgment. -/
theorem popAcknowledged_spec
    {isn ackno : WrappingInt32}
    {start : Nat}
    {queue : List TCPSegment}
    (numbered : Numbered isn start queue)
    (reached : start ≤ unwrap ackno isn 0) :
    ∃ popped,
      queue = popped ++ popAcknowledged isn ackno queue ∧
        start + seqLength popped ≤ unwrap ackno isn 0 ∧
        ∀ first rest,
          popAcknowledged isn ackno queue = first :: rest →
          unwrap ackno isn 0 <
            start + seqLength popped + first.lengthInSequenceSpace := by
  induction queue generalizing start with
  | nil =>
      exact ⟨[], rfl, by simpa using reached, by simp [popAcknowledged]⟩
  | cons element rest inductionHypothesis =>
      obtain ⟨seqno, later⟩ := numbered
      -- the start is acknowledged, so its expansion cannot be truncated
      have small := unwrap_zero_lt ackno isn
      have position : unwrap element.header.seqno isn 0 = start := by
        rw [seqno, unwrap_zero_wrap_of_lt (by omega)]
      by_cases beyond :
          start + element.lengthInSequenceSpace > unwrap ackno isn 0
      · refine ⟨[], ?_, by simpa using reached, ?_⟩
        · simp [popAcknowledged, position, beyond]
        · intro first trailing begins
          rw [popAcknowledged, position, if_pos beyond] at begins
          obtain ⟨rfl, _⟩ := List.cons.inj begins
          simpa using beyond
      · obtain ⟨popped, shape, low, high⟩ :=
          inductionHypothesis later (by omega)
        have popping :
            popAcknowledged isn ackno (element :: rest) =
              popAcknowledged isn ackno rest := by
          rw [popAcknowledged, position, if_neg beyond]
        refine ⟨element :: popped, ?_, ?_, ?_⟩
        · rw [popping, List.cons_append, ← shape]
        · rw [seqLength_cons]
          omega
        · intro first trailing begins
          rw [popping] at begins
          have bound := high first trailing begins
          rw [seqLength_cons]
          omega

end Queue

section Acknowledgment

variable {written : Bytes} {log : List TCPSegment} {sender : TCPSender}

/-- Recording a window touches the window and the probe flag. -/
theorem recordWindow_shape
    (windowSize : UInt16)
    (sender : TCPSender) :
    sender.recordWindow windowSize =
      { sender with
        windowSize := if windowSize = 0 then 1 else windowSize
        windowProbe := decide (windowSize = 0) } := by
  unfold recordWindow
  split
  · rename_i isZero
    simp [isZero]
  · rename_i notZero
    simp [notZero]

/-- An acknowledgment is taken up exactly when it is new and was sent. -/
theorem ackReceived_cases
    (ackno : WrappingInt32)
    (windowSize : UInt16)
    (sender : TCPSender) :
    ((sender.nextSeqnoAbsolute < unwrap ackno sender.isn 0 ∨
          unwrap ackno sender.isn 0 ≤ sender.acked) ∧
        sender.ackReceived ackno windowSize =
          sender.recordWindow windowSize) ∨
      (sender.acked < unwrap ackno sender.isn 0 ∧
        unwrap ackno sender.isn 0 ≤ sender.nextSeqnoAbsolute ∧
        sender.ackReceived ackno windowSize =
          (sender.recordWindow windowSize).acceptAck ackno) := by
  unfold ackReceived
  rw [recordWindow_shape]
  dsimp only
  by_cases rejected :
      unwrap ackno sender.isn 0 > sender.nextSeqnoAbsolute ∨
        unwrap ackno sender.isn 0 ≤ sender.acked
  · exact Or.inl ⟨rejected, if_pos rejected⟩
  · refine Or.inr ⟨by omega, by omega, if_neg rejected⟩

/-- What an acknowledgment leaves alone. -/
structure AckFrame (before after : TCPSender) : Prop where
  isn : after.isn = before.isn
  stream : after.stream = before.stream
  next : after.nextSeqnoAbsolute = before.nextSeqnoAbsolute
  state : after.state = before.state
  segmentsOut : after.segmentsOut = before.segmentsOut
  windowOpen : after.windowSize ≠ 0

theorem ackReceived_frame
    (ackno : WrappingInt32)
    (windowSize : UInt16)
    (sender : TCPSender) :
    AckFrame sender (sender.ackReceived ackno windowSize) := by
  have recorded :
      (if windowSize = 0 then 1 else windowSize) ≠ 0 := by
    split
    · decide
    · assumption
  rcases ackReceived_cases ackno windowSize sender with
    ⟨_, same⟩ | ⟨_, _, same⟩
  · rw [same, recordWindow_shape]
    exact ⟨rfl, rfl, rfl, rfl, rfl, recorded⟩
  · rw [same, recordWindow_shape]
    exact ⟨rfl, rfl, rfl, rfl, rfl, recorded⟩

/-- The log only depends on the stream and the numbering. -/
theorem Logged.transfer
    {after : TCPSender}
    (logged : Logged written log sender)
    (isn : after.isn = sender.isn)
    (stream : after.stream = sender.stream)
    (next : after.nextSeqnoAbsolute = sender.nextSeqnoAbsolute)
    (state : after.state = sender.state) :
    Logged written log after where
  valid := stream ▸ logged.valid
  bytes := stream ▸ logged.bytes
  total := stream ▸ logged.total
  numbered := isn ▸ logged.numbered
  next := next.trans logged.next
  short := logged.short
  plain := logged.plain
  marked := state ▸ logged.marked
  ended := by
    rw [state, stream]
    exact logged.ended

/-- The queue only depends on the numbering and the acknowledgment. -/
theorem Queued.transfer
    {after : TCPSender}
    (queued : Queued log sender)
    (isn : after.isn = sender.isn)
    (ack : after.ack = sender.ack)
    (next : after.nextSeqnoAbsolute = sender.nextSeqnoAbsolute)
    (queue :
      after.retransmissionQueue = sender.retransmissionQueue)
    (running : after.timer.running = sender.timer.running) :
    Queued log after := by
  have sameAcked : after.acked = sender.acked := by
    rw [acked, acked, isn, ack]
  exact {
    split := by
      rw [queue, sameAcked]
      exact queued.split
    bound := by
      rw [sameAcked, next]
      exact queued.bound
    running := by
      rw [running, queue]
      exact queued.running
  }

/-- Taking up an acknowledgment removes what it covers from the queue. -/
theorem Queued.acceptAck
    {ackno : WrappingInt32}
    (queued : Queued log sender)
    (logged : Logged written log sender)
    (isNew : sender.acked < unwrap ackno sender.isn 0)
    (wasSent :
      unwrap ackno sender.isn 0 ≤ sender.nextSeqnoAbsolute) :
    Queued log (sender.acceptAck ackno) := by
  obtain ⟨acknowledged, shape, low, _⟩ := queued.split
  have numbered := logged.numbered
  rw [shape, Numbered.append_iff, Nat.zero_add] at numbered
  have reached :
      seqLength acknowledged ≤ unwrap ackno sender.isn 0 := by
    omega
  obtain ⟨popped, split, popLow, popHigh⟩ :=
    popAcknowledged_spec numbered.2 reached
  have sameAcked :
      (sender.acceptAck ackno).acked = unwrap ackno sender.isn 0 :=
    rfl
  refine {
    split := ⟨acknowledged ++ popped, ?_, ?_, ?_⟩
    bound := wasSent
    running := ?_
  }
  · rw [List.append_assoc]
    exact shape.trans (congrArg _ split)
  · rw [sameAcked, seqLength_append]
    exact popLow
  · rw [sameAcked, seqLength_append]
    exact popHigh
  · simp only [TCPSender.acceptAck]
    split
    · rename_i remaining
      simp [RetransmissionTimer.start, remaining]
    · rename_i emptied
      simpa [RetransmissionTimer.stop] using emptied

theorem Logged.recordWindow
    (logged : Logged written log sender)
    (windowSize : UInt16) :
    Logged written log (sender.recordWindow windowSize) := by
  rw [recordWindow_shape]
  exact logged.transfer rfl rfl rfl rfl

theorem Queued.recordWindow
    (queued : Queued log sender)
    (windowSize : UInt16) :
    Queued log (sender.recordWindow windowSize) := by
  rw [recordWindow_shape]
  exact queued.transfer rfl rfl rfl rfl rfl

theorem Logged.ackReceived
    (logged : Logged written log sender)
    (ackno : WrappingInt32)
    (windowSize : UInt16) :
    Logged written log (sender.ackReceived ackno windowSize) := by
  have frame := ackReceived_frame ackno windowSize sender
  exact logged.transfer frame.isn frame.stream frame.next frame.state

theorem Queued.ackReceived
    (queued : Queued log sender)
    (logged : Logged written log sender)
    (ackno : WrappingInt32)
    (windowSize : UInt16) :
    Queued log (sender.ackReceived ackno windowSize) := by
  rcases ackReceived_cases ackno windowSize sender with
    ⟨_, same⟩ | ⟨isNew, wasSent, same⟩
  · rw [same]
    exact queued.recordWindow windowSize
  · rw [same]
    apply (queued.recordWindow windowSize).acceptAck
      (logged.recordWindow windowSize)
    · rw [recordWindow_shape]
      exact isNew
    · rw [recordWindow_shape]
      exact wasSent

end Acknowledgment

section Time

/-- What the passage of time leaves alone. -/
structure TickFrame (before after : TCPSender) : Prop where
  isn : after.isn = before.isn
  stream : after.stream = before.stream
  next : after.nextSeqnoAbsolute = before.nextSeqnoAbsolute
  state : after.state = before.state
  ack : after.ack = before.ack
  windowSize : after.windowSize = before.windowSize
  queue : after.retransmissionQueue = before.retransmissionQueue
  running : after.timer.running = before.timer.running
  segmentsOut :
    after.segmentsOut = before.segmentsOut ∨
      ∃ segment ∈ before.retransmissionQueue,
        after.segmentsOut = before.segmentsOut ++ [segment]

theorem countRetransmission_frame
    (segment : TCPSegment)
    (sender : TCPSender) :
    sender.countRetransmission segment =
      { sender with
        consecutiveRetran :=
          (sender.countRetransmission segment).consecutiveRetran
        lastRetransSeqno :=
          (sender.countRetransmission segment).lastRetransSeqno
        rto := (sender.countRetransmission segment).rto } := by
  unfold countRetransmission
  dsimp only
  split <;> split <;> rfl

/-- A retransmission sends the first segment of the queue again. -/
theorem retransmit_frame
    (sender : TCPSender)
    (running : sender.timer.running = true) :
    TickFrame sender sender.retransmit := by
  unfold retransmit
  split
  · constructor <;> simp
  · rename_i segment rest queue
    have sends :
        ∃ again ∈ sender.retransmissionQueue,
          sender.segmentsOut ++ [segment] =
            sender.segmentsOut ++ [again] :=
      ⟨segment, by simp [queue], rfl⟩
    dsimp only
    split
    · exact ⟨rfl, rfl, rfl, rfl, rfl, rfl, rfl, running.symm,
        Or.inr sends⟩
    · rw [countRetransmission_frame]
      exact ⟨rfl, rfl, rfl, rfl, rfl, rfl, rfl, running.symm,
        Or.inr sends⟩

/-- A running timer either counts down or retransmits. -/
theorem tick_cases
    (msSinceLastTick : Nat)
    (sender : TCPSender) :
    (∃ rto, sender.tick msSinceLastTick =
        { sender with timer := { sender.timer with rto := rto } }) ∨
      sender.timer.running = true ∧
        sender.tick msSinceLastTick = sender.retransmit := by
  unfold tick RetransmissionTimer.timePassed
  cases running : sender.timer.running with
  | false =>
      exact Or.inl ⟨sender.timer.rto, rfl⟩
  | true =>
      by_cases early : sender.timer.rto > msSinceLastTick
      · left
        exact ⟨sender.timer.rto - msSinceLastTick, by
          simp [early, running]⟩
      · right
        exact ⟨rfl, by simp [early]⟩

theorem tick_frame
    (msSinceLastTick : Nat)
    (sender : TCPSender) :
    TickFrame sender (sender.tick msSinceLastTick) := by
  rcases tick_cases msSinceLastTick sender with
    ⟨rto, counted⟩ | ⟨running, fired⟩
  · rw [counted]
    constructor <;> simp
  · rw [fired]
    exact retransmit_frame sender running

end Time

/-- One call on a sender or its stream. -/
inductive Op where
  | write (data : Bytes)
  | endInput
  | setError
  | fillWindow
  | ackReceived
      (ackno : WrappingInt32)
      (windowSize : UInt16)
  | tick (msSinceLastTick : Nat)
  | sendEmptySegment
  | takeSegments

/-- A sender, the bytes it accepted and the segments `fill_window` pushed. -/
structure Session where
  sender : TCPSender
  written : Bytes := []
  log : List TCPSegment := []

namespace Session

/-- A session on a new sender. -/
def start
    (capacity : Nat)
    (retxTimeout : UInt16)
    (isn : WrappingInt32) : Session where
  sender := TCPSender.new capacity retxTimeout isn

/-- Perform one call. -/
def step
    (session : Session) :
    Op → Session
  | .write data =>
      let result := session.sender.stream.write data
      { session with
        sender := { session.sender with stream := result.2 }
        written := session.written ++ data.take result.1 }
  | .endInput =>
      { session with
        sender := { session.sender with
          stream := session.sender.stream.endInput } }
  | .setError =>
      { session with
        sender := { session.sender with
          stream := session.sender.stream.setError } }
  | .fillWindow =>
      let filled := session.sender.fillWindow
      { session with
        sender := filled
        log :=
          session.log ++
            filled.segmentsOut.drop
              session.sender.segmentsOut.length }
  | .ackReceived ackno windowSize =>
      { session with
        sender := session.sender.ackReceived ackno windowSize }
  | .tick msSinceLastTick =>
      { session with sender := session.sender.tick msSinceLastTick }
  | .sendEmptySegment =>
      { session with sender := session.sender.sendEmptySegment }
  | .takeSegments =>
      { session with
        sender := { session.sender with segmentsOut := [] } }

/-- The state after a list of calls on a new sender. -/
def after
    (capacity : Nat)
    (retxTimeout : UInt16)
    (isn : WrappingInt32)
    (calls : List Op) : Session :=
  Execution.run step (start capacity retxTimeout isn) calls

theorem after_append
    (capacity : Nat)
    (retxTimeout : UInt16)
    (isn : WrappingInt32)
    (leading trailing : List Op) :
    after capacity retxTimeout isn (leading ++ trailing) =
      Execution.run step (after capacity retxTimeout isn leading)
        trailing :=
  Execution.run_append step _ leading trailing

/-- What holds in every reachable state of a session. -/
structure Tracked (session : Session) : Prop where
  logged : Logged session.written session.log session.sender
  queued : Queued session.log session.sender
  windowOpen : session.sender.windowSize ≠ 0

section Steps

variable {session : Session}

theorem tracked_start
    (capacity : Nat)
    (retxTimeout : UInt16)
    (isn : WrappingInt32) :
    (start capacity retxTimeout isn).Tracked :=
  ⟨logged_new capacity retxTimeout isn,
    queued_new capacity retxTimeout isn, by simp [start, new]⟩

/-- Writing appends what the stream accepted. -/
theorem Tracked.write
    (tracked : session.Tracked)
    (data : Bytes) :
    (session.step (.write data)).Tracked := by
  obtain ⟨logged, queued, windowOpen⟩ := tracked
  have accepted :=
    ByteStream.accepted_le_length data session.sender.stream
  refine ⟨?_, queued.transfer rfl rfl rfl rfl rfl, windowOpen⟩
  exact {
    valid := logged.valid.write data
    bytes := by
      simp only [step, ByteStream.write_contents, ByteStream.write_fst]
      rw [← List.append_assoc, logged.bytes]
    total := by
      simp only [step, ByteStream.write_bytesW, ByteStream.write_fst,
        List.length_append, List.length_take, logged.total]
      omega
    numbered := logged.numbered
    next := logged.next
    short := logged.short
    plain := logged.plain
    marked := logged.marked
    ended := by
      intro isFinished
      have atEnd := logged.ended isFinished
      simp only [ByteStream.eof, Bool.and_eq_true] at atEnd
      simp only [step, ByteStream.write, atEnd.1, ↓reduceIte]
      exact logged.ended isFinished
  }

theorem Tracked.endInput
    (tracked : session.Tracked) :
    (session.step .endInput).Tracked := by
  obtain ⟨logged, queued, windowOpen⟩ := tracked
  refine ⟨?_, queued.transfer rfl rfl rfl rfl rfl, windowOpen⟩
  exact {
    valid := logged.valid.endInput
    bytes := logged.bytes
    total := logged.total
    numbered := logged.numbered
    next := logged.next
    short := logged.short
    plain := logged.plain
    marked := logged.marked
    ended := by
      intro isFinished
      have atEnd := logged.ended isFinished
      simp only [ByteStream.eof, Bool.and_eq_true] at atEnd
      simp [step, ByteStream.eof, ByteStream.endInput, atEnd.2]
  }

theorem Tracked.setError
    (tracked : session.Tracked) :
    (session.step .setError).Tracked := by
  obtain ⟨logged, queued, windowOpen⟩ := tracked
  refine ⟨?_, queued.transfer rfl rfl rfl rfl rfl, windowOpen⟩
  exact {
    valid := logged.valid.setError
    bytes := logged.bytes
    total := logged.total
    numbered := logged.numbered
    next := logged.next
    short := logged.short
    plain := logged.plain
    marked := logged.marked
    ended := logged.ended
  }

/-- The segments a call of `fill_window` adds to the outbound queue. -/
theorem fillWindow_sent
    {sender : TCPSender}
    {sent : List TCPSegment}
    (fills : Fills sender sent sender.fillWindow) :
    sender.fillWindow.segmentsOut.drop sender.segmentsOut.length =
      sent := by
  rw [fills.frame.segmentsOut, List.drop_left]

theorem Tracked.fillWindow
    (tracked : session.Tracked) :
    (session.step .fillWindow).Tracked := by
  obtain ⟨logged, queued, windowOpen⟩ := tracked
  obtain ⟨sent, fills⟩ := fillWindow_fills logged.ready
  refine ⟨?_, ?_, ?_⟩
  · simp only [step, fillWindow_sent fills]
    exact logged.fills fills
  · simp only [step, fillWindow_sent fills]
    exact queued.fills logged fills
  · simp only [step, fills.frame.windowSize]
    exact windowOpen

theorem Tracked.ackReceived
    (tracked : session.Tracked)
    (ackno : WrappingInt32)
    (windowSize : UInt16) :
    (session.step (.ackReceived ackno windowSize)).Tracked := by
  obtain ⟨logged, queued, _⟩ := tracked
  exact ⟨logged.ackReceived ackno windowSize,
    queued.ackReceived logged ackno windowSize,
    (ackReceived_frame ackno windowSize session.sender).windowOpen⟩

theorem Tracked.tick
    (tracked : session.Tracked)
    (msSinceLastTick : Nat) :
    (session.step (.tick msSinceLastTick)).Tracked := by
  obtain ⟨logged, queued, windowOpen⟩ := tracked
  have frame := tick_frame msSinceLastTick session.sender
  refine ⟨logged.transfer frame.isn frame.stream frame.next frame.state,
    queued.transfer frame.isn frame.ack frame.next frame.queue
      frame.running, ?_⟩
  simp only [step, frame.windowSize]
  exact windowOpen

/-- Every call keeps the session tracked. -/
theorem Tracked.step
    (tracked : session.Tracked)
    (call : Op) :
    (session.step call).Tracked := by
  cases call with
  | write data =>
      exact tracked.write data
  | endInput =>
      exact tracked.endInput
  | setError =>
      exact tracked.setError
  | fillWindow =>
      exact tracked.fillWindow
  | ackReceived ackno windowSize =>
      exact tracked.ackReceived ackno windowSize
  | tick msSinceLastTick =>
      exact tracked.tick msSinceLastTick
  | sendEmptySegment | takeSegments =>
      exact ⟨tracked.logged.transfer rfl rfl rfl rfl,
        tracked.queued.transfer rfl rfl rfl rfl rfl,
        tracked.windowOpen⟩

end Steps

/-- Every reachable session is tracked. -/
theorem tracked_after
    (capacity : Nat)
    (retxTimeout : UInt16)
    (isn : WrappingInt32)
    (calls : List Op) :
    (after capacity retxTimeout isn calls).Tracked :=
  Execution.run_invariant Tracked
    (fun _ call tracked => tracked.step call)
    (tracked_start capacity retxTimeout isn) calls

end Session

end Sponge.TCPSender
