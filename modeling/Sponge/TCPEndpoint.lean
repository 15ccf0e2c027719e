import Sponge.TCPConnection
import Sponge.TCPReceiverCorrectness
import Sponge.TCPSenderSegmentation

namespace Sponge

/-!
# Endpoints

An endpoint is what a connection amounts to once its flags, clocks and tests are
forgotten: a sender with its log, a receiver, and the segments placed in the
outbound queue.  Its actions may be taken in any order.  `TCPConnectionRun`
shows that every call on a connection is a sequence of these actions, so what
holds of all endpoints holds of all connections.
-/

/-- What a segment says about the stream it was cut from. -/
def TCPSegment.content (seg : TCPSegment) : TCPSegment where
  header := {
    seqno := seg.header.seqno
    syn := seg.header.syn
    fin := seg.header.fin }
  payload := seg.payload

/-- The segment has nothing but a sequence number. -/
def TCPSegment.Bare (seg : TCPSegment) : Prop :=
  seg = { header := { seqno := seg.header.seqno } }

theorem TCPSegment.Bare.length_eq_zero
    {seg : TCPSegment}
    (bare : seg.Bare) :
    seg.lengthInSequenceSpace = 0 := by
  rw [bare]
  rfl

@[simp] theorem TCPConnection.stamp_content
    (receiver : TCPReceiver)
    (seg : TCPSegment) :
    (stamp receiver seg).content = seg.content := by
  unfold stamp
  split <;> rfl

namespace TCPSender

section Content

variable {written : Bytes} {log : List TCPSegment} {sender : TCPSender}

/-- A logged segment has no other header fields. -/
theorem Logged.content_eq
    (logged : Logged written log sender)
    {seg : TCPSegment}
    (member : seg ∈ log) :
    seg.content = seg := by
  have plain := logged.plain seg member
  cases seg with
  | mk header payload =>
      simp only [TCPSegment.content, TCPSegment.mk.injEq, and_true]
      exact plain.symm

/-- What precedes a segment of the log is a SYN and payload. -/
theorem Logged.seqLength_leading
    (logged : Logged written log sender)
    {leading trailing : List TCPSegment}
    {seg : TCPSegment}
    (shape : log = leading ++ seg :: trailing)
    (begun : leading ≠ []) :
    seqLength leading = (payloads leading).length + 1 := by
  have marked : Marked .synSent leading := {
    begun := by simp [begun]
    synFirst := by
      intro first rest split
      obtain ⟨firstSyn, restNoSyn⟩ :=
        logged.marked.synFirst first (rest ++ seg :: trailing)
          (by rw [shape, split, List.cons_append])
      exact ⟨firstSyn, fun later member =>
        restNoSyn later (List.mem_append_left _ member)⟩
    finLast := by
      intro before carrier after split carriesFin
      obtain ⟨impossible, _⟩ :=
        logged.marked.finLast before carrier (after ++ seg :: trailing)
          (by rw [shape, split, List.append_assoc, List.cons_append])
          carriesFin
      simp at impossible
    finished := by simp
  }
  have syn := marked.syn_sent (by simp)
  have fin : (leading.any fun segment => segment.header.fin) = false := by
    by_contra hasFin
    have isFinished := marked.finSent_iff.mpr (by simpa using hasFin)
    cases isFinished
  rw [seqLength_eq, marked.countP_syn, marked.countP_fin, syn, fin]
  rfl

/-- Every logged segment is part of the numbered stream of sent bytes. -/
theorem Logged.consistent
    (logged : Logged written log sender)
    {seg : TCPSegment}
    (member : seg ∈ log) :
    TCPReceiver.ConsistentSegment sender.isn (payloads log) seg := by
  obtain ⟨leading, trailing, shape⟩ := List.append_of_mem member
  have bytes :
      payloads log =
        payloads leading ++ (seg.payload ++ payloads trailing) := by
    rw [shape, payloads_append]
    rfl
  have numbered : seg.header.seqno = wrap (seqLength leading) sender.isn := by
    have whole := logged.numbered
    rw [shape, Numbered.append_iff, Nat.zero_add] at whole
    exact whole.2.1
  have synIff : seg.header.syn = true ↔ leading = [] := by
    cases leading with
    | nil =>
        simp [(logged.marked.synFirst seg trailing shape).1]
    | cons first rest =>
        have noSyn :=
          (logged.marked.synFirst first (rest ++ seg :: trailing)
            shape).2 seg (by simp)
        simp [noSyn]
  refine Or.inr ⟨(payloads leading).length, ?_, ?_, ?_⟩
  · rw [numbered]
    by_cases isFirst : leading = []
    · simp [synIff.mpr isFirst, isFirst]
    · rw [logged.seqLength_leading shape isFirst,
        if_neg (mt synIff.mp isFirst)]
  · intro syn
    rw [synIff.mp syn]
    rfl
  · refine {
      inside := ?_
      agrees := ?_
      endsAt := ?_
    }
    · rw [bytes]
      simp only [List.length_append]
      omega
    · rw [bytes, List.drop_left, List.take_left]
    · intro isFin
      obtain ⟨isLast, _⟩ :=
        logged.marked.finLast leading seg trailing shape isFin
      rw [bytes, isLast]
      simp [payloads]

/-- The bytes sent so far are fewer than the numbers used. -/
theorem Logged.payloads_short
    (logged : Logged written log sender)
    (small : sender.nextSeqnoAbsolute < 2 ^ 32) :
    (payloads log).length + 1 < 2 ^ 32 := by
  by_cases nothing : log = []
  · subst log
    decide
  · have syn :=
      logged.marked.syn_sent (mt logged.marked.begun.mp nothing)
    have next := logged.next_eq
    rw [syn, logged.bytesRead_eq, Bool.toNat_true] at next
    omega

/-- Once the FIN is sent, every byte of the stream is in the log. -/
theorem Logged.payloads_of_finSent
    (logged : Logged written log sender)
    (finished : sender.state = .finSent) :
    payloads log = written := by
  have atEnd := logged.ended finished
  simp only [ByteStream.eof, Bool.and_eq_true, beq_iff_eq] at atEnd
  have drained : sender.stream.contents = [] := by
    apply List.length_eq_zero_iff.mp
    rw [logged.valid.sizeExact, atEnd.2]
  simpa [drained] using logged.bytes

/-- Once the FIN is sent, the SYN, every byte and the FIN are numbered. -/
theorem Logged.next_of_finSent
    (logged : Logged written log sender)
    (finished : sender.state = .finSent) :
    sender.nextSeqnoAbsolute = sender.stream.bytesWritten + 2 := by
  have fin := logged.marked.finSent_iff.mp finished
  have syn := logged.marked.syn_sent (by simp [finished])
  rw [logged.next_eq, syn, fin, logged.bytesRead_eq,
    logged.payloads_of_finSent finished, ← logged.total]
  simp only [ByteStream.bytesWritten, Bool.toNat_true]
  omega

end Content

namespace Session

/-- What one call adds to the log and to the queue of the sender. -/
structure Emits
    (before after : Session)
    (sent repeated : List TCPSegment) : Prop where
  log : after.log = before.log ++ sent
  segmentsOut :
    after.sender.segmentsOut =
      before.sender.segmentsOut ++ (sent ++ repeated)
  again : ∀ seg ∈ repeated, seg ∈ before.log ∨ seg.Bare
  afterFin : before.sender.state = .finSent → sent = []

theorem Emits.nothing
    {before after : Session}
    (log : after.log = before.log)
    (segmentsOut :
      after.sender.segmentsOut = before.sender.segmentsOut) :
    Emits before after [] [] where
  log := by simp [log]
  segmentsOut := by simp [segmentsOut]
  again := by simp
  afterFin := fun _ => rfl

/-- A call sends new segments, old ones, or bare ones. -/
theorem Tracked.emits
    {session : Session}
    (tracked : session.Tracked)
    (call : Op)
    (kept : call ≠ .takeSegments) :
    ∃ sent repeated,
      Emits session (session.step call) sent repeated := by
  cases call with
  | takeSegments =>
      exact (kept rfl).elim
  | fillWindow =>
      obtain ⟨sent, fills⟩ := fillWindow_fills tracked.logged.ready
      refine ⟨sent, [], ?_, ?_, by simp, fills.nothing_after_fin⟩
      · simp only [Session.step, fillWindow_sent fills]
      · simpa [Session.step] using fills.frame.segmentsOut
  | tick msSinceLastTick =>
      obtain ⟨acknowledged, shape, _⟩ := tracked.queued.split
      rcases (tick_frame msSinceLastTick session.sender).segmentsOut with
        same | ⟨seg, member, pushed⟩
      · exact ⟨[], [], Emits.nothing rfl same⟩
      · refine ⟨[], [seg], by simp [Session.step], by simpa [Session.step] using pushed,
          ?_, fun _ => rfl⟩
        intro again isSeg
        left
        rw [List.mem_singleton.mp isSeg, shape]
        exact List.mem_append_right _ member
  | sendEmptySegment =>
      refine ⟨[], [{ header := { seqno := session.sender.nextSeqno } }],
        by simp [Session.step], by simp [Session.step, TCPSender.sendEmptySegment],
        ?_, fun _ => rfl⟩
      intro again isBare
      right
      rw [List.mem_singleton.mp isBare]
      rfl
  | ackReceived ackno windowSize =>
      exact ⟨[], [], Emits.nothing rfl
        (ackReceived_frame ackno windowSize session.sender).segmentsOut⟩
  | write _ | endInput | setError =>
      exact ⟨[], [], Emits.nothing rfl rfl⟩

/-- Only `end_input` ends the stream. -/
theorem Tracked.step_endFlag
    {session : Session}
    (tracked : session.Tracked)
    {call : Op}
    (notEnding : call ≠ .endInput) :
    (session.step call).sender.stream.endFlag =
      session.sender.stream.endFlag := by
  cases call with
  | endInput =>
      exact (notEnding rfl).elim
  | fillWindow =>
      obtain ⟨sent, fills⟩ := fillWindow_fills tracked.logged.ready
      exact fills.frame.endFlag
  | tick msSinceLastTick =>
      exact congrArg ByteStream.endFlag
        (tick_frame msSinceLastTick session.sender).stream
  | ackReceived ackno windowSize =>
      exact congrArg ByteStream.endFlag
        (ackReceived_frame ackno windowSize session.sender).stream
  | write data =>
      exact ByteStream.write_endFlag data session.sender.stream
  | setError | sendEmptySegment | takeSegments =>
      rfl

end Session

end TCPSender

/-- A sender with its log, a receiver, and what passed through them. -/
structure TCPEndpoint where
  out : TCPSender.Session
  receiver : TCPReceiver
  taken : Bytes := []
  placed : List TCPSegment := []

namespace TCPEndpoint

/-- Something an endpoint may do at any time. -/
inductive Action where
  | send (call : TCPSender.Op)
  | reset
  | receive
      (order : IterationOrder)
      (seg : TCPSegment)
  | inboundError
  | read (len : Nat)

/-- What is taken from the sender is stamped and placed. -/
def handedOver
    (endpoint : TCPEndpoint) :
    TCPSender.Op → List TCPSegment
  | .takeSegments =>
      endpoint.out.sender.segmentsOut.map
        (TCPConnection.stamp endpoint.receiver)
  | _ => []

/-- The RST segment an endpoint gives up with. -/
def resetSegment (endpoint : TCPEndpoint) : TCPSegment where
  header := {
    seqno := endpoint.out.sender.nextSeqno
    rst := true }

/-- Take an action. -/
def act
    (endpoint : TCPEndpoint) :
    Action → TCPEndpoint
  | .send call =>
      { endpoint with
        out := endpoint.out.step call
        placed := endpoint.placed ++ endpoint.handedOver call }
  | .reset =>
      { endpoint with
        placed := endpoint.placed ++ [endpoint.resetSegment] }
  | .receive order seg =>
      { endpoint with
        receiver := endpoint.receiver.segmentReceived order seg }
  | .inboundError =>
      { endpoint with receiver := endpoint.receiver.setError }
  | .read len =>
      let result := endpoint.receiver.readOut len
      { endpoint with
        receiver := result.2
        taken := endpoint.taken ++ result.1 }

/-- The segment repeats a logged one or takes up no numbers. -/
def Carries
    (log : List TCPSegment)
    (seg : TCPSegment) : Prop :=
  seg.lengthInSequenceSpace = 0 ∨ seg.content ∈ log

theorem Carries.extend
    {log : List TCPSegment}
    {seg : TCPSegment}
    (carries : Carries log seg)
    (sent : List TCPSegment) :
    Carries (log ++ sent) seg :=
  carries.imp_right (List.mem_append_left sent)

theorem Carries.of_content_eq
    {log : List TCPSegment}
    {seg other : TCPSegment}
    (carries : Carries log seg)
    (same : other.content = seg.content) :
    Carries log other := by
  refine carries.imp (fun nothing => ?_) (fun member => same ▸ member)
  exact (congrArg TCPSegment.lengthInSequenceSpace same).trans nothing

/-- What holds of an endpoint after any actions. -/
structure Accounted (endpoint : TCPEndpoint) : Prop where
  tracked : endpoint.out.Tracked
  outgoing :
    ∀ seg ∈ endpoint.out.sender.segmentsOut,
      seg ∈ endpoint.out.log ∨ seg.Bare
  complete :
    endpoint.out.log.Sublist
      ((endpoint.placed ++ endpoint.out.sender.segmentsOut).map
        TCPSegment.content)
  carried :
    ∀ seg ∈ endpoint.placed, Carries endpoint.out.log seg

section Steps

variable {endpoint : TCPEndpoint}

theorem Accounted.outgoing_carries
    (accounted : endpoint.Accounted)
    {seg : TCPSegment}
    (member : seg ∈ endpoint.out.sender.segmentsOut) :
    Carries endpoint.out.log seg := by
  rcases accounted.outgoing seg member with logged | bare
  · right
    rw [accounted.tracked.logged.content_eq logged]
    exact logged
  · exact Or.inl bare.length_eq_zero

/-- Taking the segments from the sender places all of them. -/
theorem Accounted.takeSegments
    (accounted : endpoint.Accounted) :
    (endpoint.act (.send .takeSegments)).Accounted where
  tracked := accounted.tracked.step .takeSegments
  outgoing := by simp [act, TCPSender.Session.step]
  complete := by
    have stamped :
        TCPSegment.content ∘ TCPConnection.stamp endpoint.receiver =
          TCPSegment.content :=
      funext (TCPConnection.stamp_content endpoint.receiver)
    have complete := accounted.complete
    rw [List.map_append] at complete
    simpa [act, handedOver, TCPSender.Session.step, stamped]
      using complete
  carried := by
    intro seg member
    rcases List.mem_append.mp member with before | handed
    · exact accounted.carried seg before
    · obtain ⟨original, pushed, rfl⟩ := List.mem_map.mp handed
      exact (accounted.outgoing_carries pushed).of_content_eq
        (TCPConnection.stamp_content endpoint.receiver original)

/-- Any other call only adds to the sender's queue. -/
theorem Accounted.send
    (accounted : endpoint.Accounted)
    (call : TCPSender.Op)
    (kept : call ≠ .takeSegments) :
    (endpoint.act (.send call)).Accounted := by
  have tracked := accounted.tracked.step call
  obtain ⟨sent, repeated, emits⟩ :=
    accounted.tracked.emits call kept
  have nothing : endpoint.handedOver call = [] := by
    cases call <;> first | rfl | exact (kept rfl).elim
  have fresh : sent.map TCPSegment.content = sent := by
    rw [List.map_eq_iff]
    intro index
    cases found : sent[index]? with
    | none =>
        rfl
    | some seg =>
        have member : seg ∈ (endpoint.out.step call).log := by
          rw [emits.log]
          exact List.mem_append_right _ (List.mem_of_getElem? found)
        rw [Option.map_some, tracked.logged.content_eq member]
  refine {
    tracked := tracked
    outgoing := ?_
    complete := ?_
    carried := ?_
  }
  · intro seg member
    simp only [act, emits.segmentsOut, emits.log, List.mem_append]
      at member ⊢
    rcases member with old | new | again
    · exact (accounted.outgoing seg old).imp_left Or.inl
    · exact Or.inl (Or.inr new)
    · exact (emits.again seg again).imp_left Or.inl
  · have pieces :
        ((endpoint.placed ++ (endpoint.out.sender.segmentsOut ++
            (sent ++ repeated))).map TCPSegment.content) =
          (endpoint.placed ++ endpoint.out.sender.segmentsOut).map
              TCPSegment.content ++
            (sent ++ repeated.map TCPSegment.content) := by
      simp [fresh]
    simp only [act, nothing, emits.log, emits.segmentsOut,
      List.append_nil, pieces]
    exact accounted.complete.append (List.sublist_append_left _ _)
  · intro seg member
    simp only [act, nothing, emits.log, List.append_nil] at member ⊢
    exact (accounted.carried seg member).extend sent

/-- A RST segment carries nothing. -/
theorem Accounted.reset
    (accounted : endpoint.Accounted) :
    (endpoint.act .reset).Accounted where
  tracked := accounted.tracked
  outgoing := accounted.outgoing
  complete := by
    refine accounted.complete.trans ?_
    simp only [act, List.map_append, List.append_assoc]
    exact (List.Sublist.refl _).append
      (List.sublist_append_right _ _)
  carried := by
    intro seg member
    rcases List.mem_append.mp member with before | isReset
    · exact accounted.carried seg before
    · rw [List.mem_singleton.mp isReset]
      exact Or.inl rfl

/-- Every action keeps the books. -/
theorem Accounted.act
    (accounted : endpoint.Accounted)
    (action : Action) :
    (endpoint.act action).Accounted := by
  cases action with
  | send call =>
      by_cases taken : call = .takeSegments
      · subst call
        exact accounted.takeSegments
      · exact accounted.send call taken
  | reset =>
      exact accounted.reset
  | receive _ _ | inboundError | read _ =>
      exact ⟨accounted.tracked, accounted.outgoing,
        accounted.complete, accounted.carried⟩

/-- Only an action of the application ends the outbound stream. -/
theorem Accounted.act_endFlag
    (accounted : endpoint.Accounted)
    {action : Action}
    (notEnding : action ≠ .send .endInput) :
    (endpoint.act action).out.sender.stream.endFlag =
      endpoint.out.sender.stream.endFlag := by
  cases action with
  | send call =>
      exact accounted.tracked.step_endFlag
        fun isEnd => notEnding (congrArg Action.send isEnd)
  | reset | receive _ _ | inboundError | read _ =>
      rfl

end Steps

end TCPEndpoint

end Sponge
