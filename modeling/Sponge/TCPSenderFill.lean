import Sponge.TCPSender

namespace Sponge.TCPSender

/-!
# Filling the window

`buildSegment_built` says once what an iteration of the loop of `fill_window`
builds.  `fillWindow_exits` shows that the loop leaves by its own tests, and
`Fills` is such a run of the loop with the segments it sends.
-/

/-- The segments a call of `fill_window` sends. -/
def filling (sender : TCPSender) : List TCPSegment :=
  sender.fillWindow.segmentsOut.drop sender.segmentsOut.length

/-- What holds of a sender whenever `fill_window` is called. -/
structure Ready (sender : TCPSender) : Prop where
  valid : sender.stream.Valid
  unread : sender.state = .init → sender.stream.bytesR = 0

/-- A segment built by one iteration, and the sender it leaves. -/
structure Built
    (before : TCPSender)
    (segment : TCPSegment)
    (after : TCPSender) : Prop where
  header :
    segment.header = {
      seqno := before.nextSeqno
      syn := decide (before.state = .init)
      fin := decide (after.state = .finSent) }
  payload :
    segment.payload ++ after.stream.contents = before.stream.contents
  short : segment.payload.length ≤ TCPConfig.maxPayloadSize
  fits : segment.lengthInSequenceSpace ≤ before.room
  begun : after.state ≠ .init
  finished : after.state = .finSent → after.stream.eof = true
  eager :
    after.stream.eof = true →
    after.state ≠ .finSent →
    segment.lengthInSequenceSpace = before.room
  idle :
    segment.lengthInSequenceSpace = 0 →
    before.stream.size = 0 ∧ after.stream.size = 0
  read : after.stream.bytesR = before.stream.bytesR + segment.payload.length
  valid : after.stream.Valid
  streamFrame :
    after.stream.endFlag = before.stream.endFlag ∧
      after.stream.bytesW = before.stream.bytesW ∧
      after.stream.mCapacity = before.stream.mCapacity ∧
      after.stream.error = before.stream.error
  frame :
    after = { before with stream := after.stream, state := after.state }

section Build

variable {sender : TCPSender}

/-- The length of a segment without FIN. -/
theorem lengthInSequenceSpace_of_noFin
    {segment : TCPSegment}
    (noFin : segment.header.fin = false) :
    segment.lengthInSequenceSpace =
      segment.payload.length + segment.header.syn.toNat := by
  simp only [TCPSegment.lengthInSequenceSpace, noFin]
  cases segment.header.syn <;> rfl

/-- The number of payload bytes the next segment may carry. -/
def payloadLimit (sender : TCPSender) : Nat :=
  min TCPConfig.maxPayloadSize
    (sender.room - (decide (sender.state = .init)).toNat)

/-- The next segment before a FIN is considered. -/
def draft (sender : TCPSender) : TCPSegment where
  header := {
    seqno := sender.nextSeqno
    syn := decide (sender.state = .init) }
  payload := (sender.stream.read sender.payloadLimit).1

/-- The sender once the next payload is read. -/
def drafted (sender : TCPSender) : TCPSender :=
  { sender with
    state := .synSent
    stream := (sender.stream.read sender.payloadLimit).2 }

/-- An unfinished sender drafts a segment and then considers a FIN. -/
theorem Ready.buildSegment_eq
    (ready : sender.Ready)
    (unfinished : sender.state ≠ .finSent) :
    sender.buildSegment = addFin sender.draft sender.drafted := by
  have limited :
      ∀ bytes : Nat,
        (if bytes ≥ TCPConfig.maxPayloadSize then
            TCPConfig.maxPayloadSize
          else
            bytes) =
          min TCPConfig.maxPayloadSize bytes := by
    intro bytes
    split <;> omega
  cases state : sender.state with
  | init =>
      have unread := ready.unread state
      simp [buildSegment, beginSegment, state, ByteStream.bytesRead,
        unread, limited, draft, drafted, payloadLimit]
  | synSent =>
      simp [buildSegment, beginSegment, state, limited, draft, drafted,
        payloadLimit]
  | finSent =>
      exact (unfinished state).elim

/-- The drafted segment fits the room and takes what there is to send. -/
theorem Ready.draft_length
    (ready : sender.Ready)
    (hasRoom : sender.room ≠ 0) :
    sender.draft.lengthInSequenceSpace =
        min sender.payloadLimit sender.stream.size +
          (decide (sender.state = .init)).toNat ∧
      sender.draft.payload.length =
        min sender.payloadLimit sender.stream.size ∧
      sender.draft.lengthInSequenceSpace ≤ sender.room := by
  have length :
      sender.draft.payload.length =
        min sender.payloadLimit sender.stream.size := by
    simp only [draft, ready.valid.read_bytes, List.length_take,
      ready.valid.sizeExact]
  have total :
      sender.draft.lengthInSequenceSpace =
        min sender.payloadLimit sender.stream.size +
          (decide (sender.state = .init)).toNat := by
    rw [lengthInSequenceSpace_of_noFin rfl, length]
    rfl
  refine ⟨total, length, ?_⟩
  rw [total]
  have bit := Bool.toNat_le (decide (sender.state = .init))
  unfold payloadLimit
  omega

/-- The payload of a draft is what it takes off the front of the stream. -/
theorem Ready.draft_payload
    (ready : sender.Ready) :
    sender.draft.payload ++ sender.drafted.stream.contents =
      sender.stream.contents := by
  simp only [draft, drafted, ready.valid.read_bytes,
    ready.valid.read_contents, List.take_append_drop]

/-- Without a SYN the payload takes at least one byte if there is any. -/
theorem Ready.draft_idle
    (ready : sender.Ready)
    (hasRoom : sender.room ≠ 0)
    (nothing : sender.draft.lengthInSequenceSpace = 0) :
    sender.stream.size = 0 ∧ sender.drafted.stream.size = 0 := by
  have left :
      sender.drafted.stream.size =
        sender.stream.size -
          min sender.payloadLimit sender.stream.size :=
    ready.valid.read_size _
  rw [(ready.draft_length hasRoom).1] at nothing
  rw [left]
  unfold payloadLimit TCPConfig.maxPayloadSize at *
  omega

theorem drafted_streamFrame :
    sender.drafted.stream.endFlag = sender.stream.endFlag ∧
      sender.drafted.stream.bytesW = sender.stream.bytesW ∧
      sender.drafted.stream.mCapacity = sender.stream.mCapacity ∧
      sender.drafted.stream.error = sender.stream.error := by
  simp [drafted]

/-- One iteration of the loop builds a segment that fits the room left. -/
theorem buildSegment_built
    (ready : sender.Ready)
    (hasRoom : sender.room ≠ 0)
    (unfinished : sender.state ≠ .finSent) :
    Built sender sender.buildSegment.1 sender.buildSegment.2 := by
  obtain ⟨_, payloadLength, fits⟩ := ready.draft_length hasRoom
  have short :
      sender.draft.payload.length ≤ TCPConfig.maxPayloadSize := by
    rw [payloadLength, payloadLimit]
    omega
  have read :
      sender.drafted.stream.bytesR =
        sender.stream.bytesR + sender.draft.payload.length := by
    rw [payloadLength]
    exact ready.valid.read_bytesR _
  have valid : sender.drafted.stream.Valid := ready.valid.read _
  rw [ready.buildSegment_eq unfinished]
  unfold addFin
  split
  · rename_i ends
    obtain ⟨atEnd, _, place⟩ := ends
    have longer :
        ({ sender.draft with
          header := { sender.draft.header with fin := true } } :
            TCPSegment).lengthInSequenceSpace =
          sender.draft.lengthInSequenceSpace + 1 := by
      simp [TCPSegment.lengthInSequenceSpace, draft]
    exact {
      header := by simp [draft]
      payload := ready.draft_payload
      short := short
      fits := by
        rw [longer]
        exact place
      begun := by simp
      finished := fun _ => atEnd
      eager := fun _ notFinished => (notFinished rfl).elim
      idle := fun nothing =>
        absurd (longer.symm.trans nothing) (Nat.succ_ne_zero _)
      read := read
      valid := valid
      streamFrame := drafted_streamFrame
      frame := rfl
    }
  · rename_i notYet
    exact {
      header := by simp [draft, drafted]
      payload := ready.draft_payload
      short := short
      fits := fits
      begun := by simp [drafted]
      finished := by simp [drafted]
      eager := by
        intro atEnd _
        have crowded :
            ¬ sender.draft.lengthInSequenceSpace + 1 ≤
              sender.drafted.room :=
          fun place => notYet ⟨atEnd, rfl, place⟩
        exact Nat.le_antisymm fits
          (Nat.le_of_lt_succ (Nat.lt_of_not_le crowded))
      idle := ready.draft_idle hasRoom
      read := read
      valid := valid
      streamFrame := drafted_streamFrame
      frame := rfl
    }

end Build

/-- An iteration finds no place, builds nothing, or sends a segment. -/
theorem fillRound_cases
    (sender : TCPSender) :
    ((sender.room = 0 ∨ sender.state = .finSent) ∧
        sender.fillRound = .inr sender) ∨
      ((sender.room ≠ 0 ∧ sender.state ≠ .finSent) ∧
        sender.buildSegment.1.lengthInSequenceSpace = 0 ∧
        sender.fillRound = .inr sender.buildSegment.2) ∨
      (sender.room ≠ 0 ∧ sender.state ≠ .finSent) ∧
        sender.buildSegment.1.lengthInSequenceSpace ≠ 0 ∧
        sender.fillRound =
          .inl (sender.buildSegment.2.sendSegment
            sender.buildSegment.1) := by
  by_cases continues : sender.room ≠ 0 ∧ sender.state ≠ .finSent
  · right
    by_cases nothing :
        sender.buildSegment.1.lengthInSequenceSpace = 0
    · left
      refine ⟨continues, nothing, ?_⟩
      simp only [fillRound, if_pos continues, if_pos nothing]
    · right
      refine ⟨continues, nothing, ?_⟩
      simp only [fillRound, if_pos continues, if_neg nothing]
  · left
    refine ⟨?_, if_neg continues⟩
    by_cases isFull : sender.room = 0
    · exact Or.inl isFull
    · exact Or.inr (by_contra fun unfinished =>
        continues ⟨isFull, unfinished⟩)

/-- The loop, with the segments it sends. -/
inductive Fills :
    TCPSender → List TCPSegment → TCPSender → Prop where
  | full
      {sender : TCPSender}
      (stops : sender.room = 0 ∨ sender.state = .finSent) :
      Fills sender [] sender
  | idle
      {sender after : TCPSender}
      {segment : TCPSegment}
      (hasRoom : sender.room ≠ 0)
      (unfinished : sender.state ≠ .finSent)
      (built : Built sender segment after)
      (nothing : segment.lengthInSequenceSpace = 0) :
      Fills sender [] after
  | send
      {sender after final : TCPSender}
      {segment : TCPSegment}
      {rest : List TCPSegment}
      (hasRoom : sender.room ≠ 0)
      (unfinished : sender.state ≠ .finSent)
      (built : Built sender segment after)
      (something : segment.lengthInSequenceSpace ≠ 0)
      (later : Fills (after.sendSegment segment) rest final) :
      Fills sender (segment :: rest) final

/-- Sequence numbers a list of segments takes up. -/
def seqLength (segments : List TCPSegment) : Nat :=
  (segments.map TCPSegment.lengthInSequenceSpace).sum

@[simp] theorem seqLength_nil : seqLength [] = 0 :=
  rfl

@[simp] theorem seqLength_cons
    (segment : TCPSegment)
    (rest : List TCPSegment) :
    seqLength (segment :: rest) =
      segment.lengthInSequenceSpace + seqLength rest :=
  List.sum_cons

@[simp] theorem seqLength_append
    (first second : List TCPSegment) :
    seqLength (first ++ second) = seqLength first + seqLength second := by
  simp [seqLength]

section Loop

variable {sender : TCPSender}

/-- Building a segment leaves a sender that may build the next one. -/
theorem Built.ready
    {before after : TCPSender}
    {segment : TCPSegment}
    (built : Built before segment after) :
    (after.sendSegment segment).Ready :=
  ⟨built.valid, fun isInit => (built.begun isInit).elim⟩

/-- The numbers a built segment takes up: its payload, SYN and FIN. -/
theorem Built.length_eq
    {before after : TCPSender}
    {segment : TCPSegment}
    (built : Built before segment after) :
    segment.lengthInSequenceSpace =
      segment.payload.length +
        (if before.state = .init then 1 else 0) +
        (if after.state = .finSent then 1 else 0) := by
  simp only [TCPSegment.lengthInSequenceSpace, built.header,
    decide_eq_true_eq]

/-- Bytes, SYN and FIN still to be sent. -/
def remaining (sender : TCPSender) : Nat :=
  sender.stream.size +
    (match sender.state with
      | .init => 2
      | .synSent => 1
      | .finSent => 0)

theorem remaining_lt_bound
    (sender : TCPSender) :
    sender.remaining < sender.stream.bufferSize + 3 := by
  unfold remaining
  cases sender.state <;> simp [ByteStream.bufferSize]

/-- A segment that takes up sequence numbers leaves less to send. -/
theorem Built.remaining_lt
    {before after : TCPSender}
    {segment : TCPSegment}
    (built : Built before segment after)
    (ready : before.Ready)
    (unfinished : before.state ≠ .finSent)
    (something : segment.lengthInSequenceSpace ≠ 0) :
    (after.sendSegment segment).remaining < before.remaining := by
  have beforeSize := ready.valid.sizeExact
  have afterSize := built.valid.sizeExact
  have split := congrArg List.length built.payload
  rw [List.length_append] at split
  have length := built.length_eq
  have begun := built.begun
  change after.remaining < before.remaining
  unfold remaining
  cases beforeState : before.state with
  | init =>
      cases afterState : after.state with
      | init =>
          exact (begun afterState).elim
      | synSent | finSent =>
          dsimp only
          omega
  | synSent =>
      cases afterState : after.state with
      | init =>
          exact (begun afterState).elim
      | synSent | finSent =>
          simp [beforeState, afterState] at length ⊢
          omega
  | finSent =>
      exact (unfinished beforeState).elim

/-- With more rounds than there is left to send the loop leaves by itself. -/
theorem fillLoop_exits
    {fuel : Nat}
    (ready : sender.Ready)
    (enough : sender.remaining < fuel) :
    Execution.Exits fillRound sender (fillLoop fuel sender) := by
  refine Execution.exits_iterate Ready remaining ?_ ready enough
  intro sender next ready goesOn
  rcases sender.fillRound_cases with
    ⟨_, left⟩ | ⟨_, _, left⟩ | ⟨continues, something, sends⟩
  · cases left.symm.trans goesOn
  · cases left.symm.trans goesOn
  · cases sends.symm.trans goesOn
    have built := buildSegment_built ready continues.1 continues.2
    exact ⟨built.ready, built.remaining_lt ready continues.2 something⟩

/-- `fill_window` runs its loop to the end. -/
theorem fillWindow_exits
    (ready : sender.Ready) :
    Execution.Exits fillRound sender sender.fillWindow :=
  fillLoop_exits ready sender.remaining_lt_bound

/-- A run of the loop that leaves, with the segments it sends. -/
theorem fills_of_exits
    {after : TCPSender}
    (exits : Execution.Exits fillRound sender after)
    (ready : sender.Ready) :
    ∃ sent, Fills sender sent after := by
  induction exits with
  | @leave sender after left =>
      rcases sender.fillRound_cases with
        ⟨stops, same⟩ | ⟨continues, nothing, idle⟩ | ⟨_, _, sends⟩
      · cases same.symm.trans left
        exact ⟨[], .full stops⟩
      · cases idle.symm.trans left
        have built := buildSegment_built ready continues.1 continues.2
        exact ⟨[], .idle continues.1 continues.2 built nothing⟩
      · cases sends.symm.trans left
  | @again sender next after goesOn _ inductionHypothesis =>
      rcases sender.fillRound_cases with
        ⟨_, left⟩ | ⟨_, _, left⟩ | ⟨continues, something, sends⟩
      · cases left.symm.trans goesOn
      · cases left.symm.trans goesOn
      · cases sends.symm.trans goesOn
        have built := buildSegment_built ready continues.1 continues.2
        obtain ⟨rest, later⟩ := inductionHypothesis built.ready
        exact ⟨_, .send continues.1 continues.2 built something later⟩

theorem fillWindow_fills
    (ready : sender.Ready) :
    ∃ sent, Fills sender sent sender.fillWindow :=
  fills_of_exits (fillWindow_exits ready) ready

/-- The loop ends within as many rounds as there are bytes, SYN and FIN. -/
theorem fillLoop_of_enough
    {fuel : Nat}
    (ready : sender.Ready)
    (enough : sender.stream.bufferSize + 3 ≤ fuel) :
    fillLoop fuel sender = sender.fillWindow :=
  (fillLoop_exits ready
    (Nat.lt_of_lt_of_le sender.remaining_lt_bound enough)).unique
    (fillWindow_exits ready)

end Loop

section Effects

/-- What the loop leaves alone, and where the segments it sends go. -/
structure FillFrame
    (before : TCPSender)
    (sent : List TCPSegment)
    (after : TCPSender) : Prop where
  isn : after.isn = before.isn
  ack : after.ack = before.ack
  windowSize : after.windowSize = before.windowSize
  consecutiveRetran : after.consecutiveRetran = before.consecutiveRetran
  segmentsOut : after.segmentsOut = before.segmentsOut ++ sent
  retransmissionQueue :
    after.retransmissionQueue = before.retransmissionQueue ++ sent
  next :
    after.nextSeqnoAbsolute = before.nextSeqnoAbsolute + seqLength sent
  running :
    after.timer.running = (before.timer.running || !sent.isEmpty)
  endFlag : after.stream.endFlag = before.stream.endFlag
  bytesW : after.stream.bytesW = before.stream.bytesW
  mCapacity : after.stream.mCapacity = before.stream.mCapacity
  error : after.stream.error = before.stream.error

theorem FillFrame.acked
    {before after : TCPSender}
    {sent : List TCPSegment}
    (frame : FillFrame before sent after) :
    after.acked = before.acked := by
  rw [TCPSender.acked, TCPSender.acked, frame.isn, frame.ack]

theorem FillFrame.trans
    {before middle after : TCPSender}
    {first second : List TCPSegment}
    (earlier : FillFrame before first middle)
    (later : FillFrame middle second after) :
    FillFrame before (first ++ second) after where
  isn := later.isn.trans earlier.isn
  ack := later.ack.trans earlier.ack
  windowSize := later.windowSize.trans earlier.windowSize
  consecutiveRetran :=
    later.consecutiveRetran.trans earlier.consecutiveRetran
  segmentsOut := by
    rw [later.segmentsOut, earlier.segmentsOut, List.append_assoc]
  retransmissionQueue := by
    rw [later.retransmissionQueue, earlier.retransmissionQueue,
      List.append_assoc]
  next := by
    rw [later.next, earlier.next, seqLength_append, Nat.add_assoc]
  running := by
    rw [later.running, earlier.running]
    cases first <;> simp
  endFlag := later.endFlag.trans earlier.endFlag
  bytesW := later.bytesW.trans earlier.bytesW
  mCapacity := later.mCapacity.trans earlier.mCapacity
  error := later.error.trans earlier.error

/-- Building a segment sends nothing yet. -/
theorem Built.fillFrame
    {before after : TCPSender}
    {segment : TCPSegment}
    (built : Built before segment after) :
    FillFrame before [] after := by
  obtain ⟨endFlag, bytesW, mCapacity, error⟩ := built.streamFrame
  rw [built.frame]
  constructor <;> simp [endFlag, bytesW, mCapacity, error]

/-- Sending puts the segment in both queues and keeps the timer running. -/
theorem sendSegment_fillFrame
    (sender : TCPSender)
    {segment : TCPSegment}
    (something : segment.lengthInSequenceSpace ≠ 0) :
    FillFrame sender [segment] (sender.sendSegment segment) := by
  have positive := Nat.pos_of_ne_zero something
  constructor <;> simp [sendSegment]
  split
  · rfl
  · rename_i kept
    by_contra stopped
    exact kept ⟨by simpa using stopped, positive⟩

theorem Fills.frame
    {before after : TCPSender}
    {sent : List TCPSegment}
    (fills : Fills before sent after) :
    FillFrame before sent after := by
  induction fills with
  | full stops =>
      constructor <;> simp
  | idle hasRoom unfinished built nothing =>
      exact built.fillFrame
  | send hasRoom unfinished built something later inductionHypothesis =>
      exact (built.fillFrame.trans
        (sendSegment_fillFrame _ something)).trans inductionHypothesis

/-- A built segment takes up no numbers only if there is nothing to send. -/
theorem Built.nothing_left
    {before after : TCPSender}
    {segment : TCPSegment}
    (built : Built before segment after)
    (hasRoom : before.room ≠ 0)
    (nothing : segment.lengthInSequenceSpace = 0) :
    segment.payload = [] ∧
      before.state ≠ .init ∧
      after.state ≠ .finSent ∧
      after.stream.size = 0 ∧
      after.stream.eof = false := by
  have length := built.length_eq
  rw [nothing] at length
  have bare : segment.payload = [] :=
    List.length_eq_zero_iff.mp (by omega)
  have begun : before.state ≠ .init := by
    intro isInit
    rw [if_pos isInit] at length
    omega
  have unfinished : after.state ≠ .finSent := by
    intro isFinished
    rw [if_pos isFinished] at length
    omega
  have emptied := (built.idle nothing).2
  refine ⟨bare, begun, unfinished, emptied, ?_⟩
  cases atEnd : after.stream.eof with
  | false =>
      rfl
  | true =>
      have filled := built.eager atEnd unfinished
      omega

/-- Every segment the loop sends takes up sequence numbers. -/
theorem Fills.sent_nonempty
    {before after : TCPSender}
    {sent : List TCPSegment}
    (fills : Fills before sent after)
    {segment : TCPSegment}
    (member : segment ∈ sent) :
    segment.lengthInSequenceSpace ≠ 0 := by
  induction fills with
  | full stops =>
      cases member
  | idle hasRoom unfinished built nothing =>
      cases member
  | send hasRoom unfinished built something later inductionHypothesis =>
      rcases List.mem_cons.mp member with rfl | inRest
      · exact something
      · exact inductionHypothesis inRest

/-- Why the loop stopped. -/
theorem Fills.exit
    {before after : TCPSender}
    {sent : List TCPSegment}
    (fills : Fills before sent after) :
    after.room = 0 ∨
      after.state = .finSent ∨
      after.stream.size = 0 ∧ after.stream.eof = false := by
  induction fills with
  | full stops =>
      exact stops.imp_right Or.inl
  | idle hasRoom unfinished built nothing =>
      exact Or.inr (Or.inr (built.nothing_left hasRoom nothing).2.2.2)
  | send hasRoom unfinished built something later inductionHypothesis =>
      exact inductionHypothesis

/-- After the FIN nothing is sent. -/
theorem Fills.nothing_after_fin
    {before after : TCPSender}
    {sent : List TCPSegment}
    (fills : Fills before sent after)
    (isFinished : before.state = .finSent) :
    sent = [] := by
  cases fills with
  | full stops =>
      rfl
  | idle hasRoom unfinished built nothing =>
      rfl
  | send hasRoom unfinished built something later =>
      exact (unfinished isFinished).elim

end Effects

end Sponge.TCPSender
