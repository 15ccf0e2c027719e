import Sponge.TCPSenderSegmentation

namespace Sponge.TCPSender

/-!
# Flow control

The room that `fill_window` computes is a 64-bit difference, which wraps around
when more is in flight than the window allows.  Filling respects the window
exactly when that does not happen, or when there is nothing to send anyway.
-/

/--
Every new segment ends within the recorded window, counted from the recorded
acknowledgment; with more in flight than the window nothing is sent.
-/
def RespectsWindow
    (session : Session) :
    Op → Prop
  | .fillWindow =>
      let sender := session.sender
      (∀ leading segment trailing,
          sender.filling = leading ++ segment :: trailing →
          sender.nextSeqnoAbsolute + seqLength (leading ++ [segment]) ≤
            sender.acked + max 1 sender.windowSize.toNat) ∧
        (sender.windowSize.toNat < sender.bytesInFlight →
          sender.filling = [])
  | _ => True

/-- The window covers what is in flight, or there is nothing to send. -/
def WindowCovers
    (session : Session) :
    Op → Prop
  | .fillWindow =>
      let sender := session.sender
      sender.bytesInFlight ≤ sender.windowSize.toNat ∨
        sender.state = .finSent ∨
        sender.stream.bufferEmpty = true ∧
          sender.stream.inputEnded = false
  | _ => True

section Fill

variable {sender after : TCPSender} {sent : List TCPSegment}

/-- As long as the room does not wrap around, filling stays in the window. -/
theorem Fills.within_window
    (fills : Fills sender sent after)
    (acknowledged : sender.acked ≤ sender.nextSeqnoAbsolute)
    (covered : sender.bytesInFlight ≤ sender.windowSize.toNat) :
    sender.nextSeqnoAbsolute + seqLength sent ≤
      sender.acked + sender.windowSize.toNat := by
  induction fills with
  | full stops =>
      rw [bytesInFlight, sub64_of_le acknowledged] at covered
      simp only [seqLength_nil]
      omega
  | idle hasRoom unfinished built nothing =>
      rw [bytesInFlight, sub64_of_le acknowledged] at covered
      simp only [seqLength_nil]
      omega
  | @send sender after final segment rest hasRoom unfinished built
      something later inductionHypothesis =>
      have frame :=
        built.fillFrame.trans (sendSegment_fillFrame after something)
      have next := frame.next
      simp only [List.nil_append, seqLength_cons, seqLength_nil,
        Nat.add_zero] at next
      have sameAcked := frame.acked
      have fits := built.fits
      rw [room, sub64_of_le covered] at fits
      have inFlight := sub64_of_le acknowledged
      change sender.bytesInFlight = _ at inFlight
      have stillAcknowledged :
          (after.sendSegment segment).acked ≤
            (after.sendSegment segment).nextSeqnoAbsolute := by
        omega
      have stillCovered :
          (after.sendSegment segment).bytesInFlight ≤
            (after.sendSegment segment).windowSize.toNat := by
        rw [bytesInFlight, sub64_of_le stillAcknowledged,
          frame.windowSize]
        omega
      have bound := inductionHypothesis stillAcknowledged stillCovered
      rw [frame.windowSize] at bound
      rw [seqLength_cons]
      omega

/-- Without bytes and without an end there is nothing to send. -/
theorem Fills.nothing_to_send
    (fills : Fills sender sent after)
    (ready : sender.Ready)
    (begun : sender.state ≠ .init)
    (drained : sender.stream.size = 0)
    (unended : sender.stream.endFlag = false) :
    sent = [] := by
  cases fills with
  | full stops =>
      rfl
  | idle hasRoom unfinished built nothing =>
      rfl
  | @send _ middle _ segment rest hasRoom unfinished built something
      later =>
      have payload := congrArg List.length built.payload
      have size := ready.valid.sizeExact
      rw [List.length_append, size, drained] at payload
      have length := built.length_eq
      rw [if_neg begun] at length
      have stillOpen : middle.state ≠ .finSent := by
        intro isFinished
        have atEnd := built.finished isFinished
        rw [ByteStream.eof, built.streamFrame.1, unended] at atEnd
        cases atEnd
      rw [if_neg stillOpen] at length
      omega

/-- Nothing is sent beyond the window only if there is nothing to send. -/
theorem Fills.silent_beyond_window
    (fills : Fills sender [] after)
    (beyond : sender.windowSize.toNat < sender.bytesInFlight) :
    sender.state = .finSent ∨
      sender.stream.size = 0 ∧ sender.stream.endFlag = false := by
  cases fills with
  | full stops =>
      refine Or.inl (stops.resolve_left fun noRoom => ?_)
      have same := sub64_eq_zero_iff.mp noRoom
      omega
  | idle hasRoom unfinished built nothing =>
      right
      obtain ⟨_, _, _, emptied, notAtEnd⟩ :=
        built.nothing_left hasRoom nothing
      refine ⟨(built.idle nothing).1, ?_⟩
      rw [← built.streamFrame.1]
      simpa [ByteStream.eof, emptied] using notAtEnd

/--
A window that covers the bytes in flight is not overrun, and it is filled as far
as there is something to send.
-/
theorem Fills.complete
    (fills : Fills sender sent after)
    (acknowledged : sender.acked ≤ sender.nextSeqnoAbsolute)
    (covered : sender.bytesInFlight ≤ sender.windowSize.toNat) :
    after.bytesInFlight ≤ sender.windowSize.toNat ∧
      (after.bytesInFlight = sender.windowSize.toNat ∨
        after.state = .finSent ∨
        after.stream.bufferEmpty = true ∧
          after.stream.inputEnded = false) := by
  have frame := fills.frame
  constructor
  · have within := fills.within_window acknowledged covered
    have next := frame.next
    have acked := frame.acked
    rw [bytesInFlight, sub64_of_le (by omega)]
    omega
  · rcases fills.exit with isFull | isFinished | ⟨emptied, notAtEnd⟩
    · left
      rw [← frame.windowSize]
      exact (sub64_eq_zero_iff.mp isFull).symm
    · exact .inr (.inl isFinished)
    · right
      right
      rw [ByteStream.eof, emptied] at notAtEnd
      exact ⟨by rw [ByteStream.bufferEmpty, emptied]; rfl,
        by simpa [ByteStream.inputEnded] using notAtEnd⟩

end Fill

/-- A call that the window covers sends nothing or starts within the window. -/
theorem Session.Tracked.silent_or_covered
    {session : Session}
    (tracked : session.Tracked)
    {sent : List TCPSegment}
    {after : TCPSender}
    (fills : Fills session.sender sent after)
    (covers : WindowCovers session .fillWindow) :
    sent = [] ∨
      session.sender.bytesInFlight ≤
        session.sender.windowSize.toNat := by
  rcases covers with covered | isFinished | ⟨drained, unended⟩
  · exact Or.inr covered
  · exact Or.inl (fills.nothing_after_fin isFinished)
  by_cases isInit : session.sender.state = .init
  · -- before the SYN nothing is in flight
    right
    have unused : session.sender.nextSeqnoAbsolute = 0 := by
      rw [tracked.logged.next, tracked.logged.marked.begun.mp isInit]
      rfl
    rw [tracked.queued.bytesInFlight_eq, unused]
    omega
  · exact Or.inl
      (fills.nothing_to_send tracked.logged.ready isInit
        (by simpa [ByteStream.bufferEmpty] using drained) unended)

/-- One call respects the window exactly when the window covers it. -/
theorem Session.Tracked.respects_iff
    {session : Session}
    (tracked : session.Tracked)
    (call : Op) :
    RespectsWindow session call ↔ WindowCovers session call := by
  cases call with
  | fillWindow =>
      obtain ⟨sent, fills⟩ := fillWindow_fills tracked.logged.ready
      have emits : session.sender.filling = sent :=
        Session.fillWindow_sent fills
      have positive : 1 ≤ session.sender.windowSize.toNat := by
        apply Nat.pos_of_ne_zero
        intro isZero
        exact tracked.windowOpen (UInt16.toNat_inj.mp isZero)
      have window :
          max 1 session.sender.windowSize.toNat =
            session.sender.windowSize.toNat :=
        Nat.max_eq_right positive
      simp only [RespectsWindow, emits, window]
      constructor
      · rintro ⟨_, silent⟩
        by_cases covered :
            session.sender.bytesInFlight ≤
              session.sender.windowSize.toNat
        · exact Or.inl covered
        · have beyond := Nat.lt_of_not_le covered
          rw [silent beyond] at fills
          right
          rcases fills.silent_beyond_window beyond with
            isFinished | ⟨drained, unended⟩
          · exact Or.inl isFinished
          · exact Or.inr ⟨by simp [ByteStream.bufferEmpty, drained],
              unended⟩
      · intro covers
        rcases tracked.silent_or_covered fills covers with
          nothing | covered
        · subst nothing
          refine ⟨?_, fun _ => rfl⟩
          intro leading segment trailing shape
          simp at shape
        · refine ⟨?_, fun beyond => (Nat.not_lt.mpr covered beyond).elim⟩
          intro leading segment trailing shape
          have total := fills.within_window tracked.queued.bound covered
          rw [shape] at total
          simp only [seqLength_append, seqLength_cons, seqLength_nil]
            at total ⊢
          omega
  | write _ | endInput | setError | ackReceived _ _ | tick _
  | sendEmptySegment | takeSegments =>
      exact Iff.rfl

/--
A run respects flow control exactly when each of its calls of `fill_window` is
made while the recorded window covers the bytes in flight, or while there is
nothing to send.
-/
theorem window_respected_iff
    (capacity : Nat)
    (retxTimeout : UInt16)
    (isn : WrappingInt32)
    (calls : List Op) :
    Execution.EveryStep Session.step RespectsWindow
        (Session.start capacity retxTimeout isn) calls ↔
      Execution.EveryStep Session.step WindowCovers
        (Session.start capacity retxTimeout isn) calls :=
  Execution.EveryStep.congr Session.Tracked
    (fun _ call tracked => tracked.step call)
    (fun _ call tracked => tracked.respects_iff call)
    (Session.tracked_start capacity retxTimeout isn) calls

/--
Ten bytes are in flight when the window shrinks to three: the room wraps around
and the next byte is sent nevertheless.
-/
theorem shrunken_window_overrun :
    ¬ Execution.EveryStep Session.step RespectsWindow
      (Session.start 64000 1000 ⟨0⟩)
      [.fillWindow,
        .ackReceived ⟨1⟩ 10,
        .write [0, 1, 2, 3, 4, 5, 6, 7, 8, 9],
        .fillWindow,
        .ackReceived ⟨1⟩ 3,
        .write [10],
        .fillWindow] := by
  rintro ⟨_, _, _, _, _, _, ⟨_, silent⟩, _⟩
  exact absurd (silent (by decide)) (by decide)

theorem Session.step_fillWindow
    (session : Session) :
    (session.step .fillWindow).sender = session.sender.fillWindow := by
  simp only [Session.step]

/--
`fill_window` ends in every reachable state: its loop leaves by its own tests,
and however many rounds it is allowed beyond that, it takes the same ones.  If
the window covers the bytes in flight it still does so afterwards, and the
window is full, the FIN was sent, or the stream has nothing to offer for now.
-/
theorem fill_window_complete
    (capacity : Nat)
    (retxTimeout : UInt16)
    (isn : WrappingInt32)
    (calls : List Op) :
    let before := Session.after capacity retxTimeout isn calls
    let after := before.step .fillWindow
    let window := before.sender.windowSize.toNat
    Execution.Exits fillRound before.sender after.sender ∧
      (∀ fuel,
        before.sender.stream.bufferSize + 3 ≤ fuel →
        fillLoop fuel before.sender = after.sender) ∧
      (∃ sent, Fills before.sender sent after.sender) ∧
      (before.sender.bytesInFlight ≤ window →
        after.sender.bytesInFlight ≤ window ∧
          (after.sender.bytesInFlight = window ∨
            (∃ segment ∈ after.log, segment.header.fin = true) ∨
            after.sender.stream.bufferEmpty = true ∧
              after.sender.stream.inputEnded = false)) := by
  intro before after window
  have tracked : before.Tracked :=
    Session.tracked_after capacity retxTimeout isn calls
  have trackedAfter : after.Tracked := tracked.fillWindow
  have filled : after.sender = before.sender.fillWindow :=
    before.step_fillWindow
  have exits := fillWindow_exits tracked.logged.ready
  rw [← filled] at exits
  obtain ⟨sent, fills⟩ := fills_of_exits exits tracked.logged.ready
  refine ⟨exits, ?_, ⟨sent, fills⟩, ?_⟩
  · intro fuel enough
    rw [filled]
    exact fillLoop_of_enough tracked.logged.ready enough
  · intro covered
    obtain ⟨stillCovered, reason⟩ :=
      fills.complete tracked.queued.bound covered
    refine ⟨stillCovered, ?_⟩
    rcases reason with isFull | isFinished | waiting
    · exact .inl isFull
    · exact .inr (.inl (trackedAfter.logged.marked.finished isFinished))
    · exact .inr (.inr waiting)

/-- The window an acknowledgment advertises is the one already recorded. -/
def RepeatsWindow
    (windowSize : UInt16)
    (sender : TCPSender) : Prop :=
  sender.windowSize = (if windowSize = 0 then 1 else windowSize) ∧
    sender.windowProbe = decide (windowSize = 0)

/-- Recording a window changes nothing exactly when it is repeated. -/
theorem recordWindow_eq_iff
    (windowSize : UInt16)
    (sender : TCPSender) :
    sender.recordWindow windowSize = sender ↔
      sender.RepeatsWindow windowSize := by
  constructor
  · intro same
    have size := congrArg TCPSender.windowSize same
    have probe := congrArg TCPSender.windowProbe same
    rw [recordWindow_shape] at size probe
    exact ⟨size.symm, probe.symm⟩
  · rintro ⟨size, probe⟩
    rw [recordWindow_shape, ← size, ← probe]

/--
An acknowledgment of something never sent, or of less than was acknowledged
before, changes at most the recorded window and the probe flag.  It changes
nothing exactly when it advertises the window that is recorded already.
-/
theorem unacceptable_ack_ignored_iff
    (capacity : Nat)
    (retxTimeout : UInt16)
    (isn : WrappingInt32)
    (calls : List Op)
    (ackno : WrappingInt32)
    (windowSize : UInt16)
    (unacceptable :
      let sender := (Session.after capacity retxTimeout isn calls).sender
      sender.nextSeqnoAbsolute < unwrap ackno sender.isn 0 ∨
        unwrap ackno sender.isn 0 < sender.acked) :
    let sender := (Session.after capacity retxTimeout isn calls).sender
    (sender.ackReceived ackno windowSize = sender ↔
        sender.RepeatsWindow windowSize) ∧
      sender.ackReceived ackno windowSize =
        { sender with
          windowSize := if windowSize = 0 then 1 else windowSize
          windowProbe := decide (windowSize = 0) } := by
  intro sender
  have rejected :
      sender.ackReceived ackno windowSize =
        sender.recordWindow windowSize := by
    rcases ackReceived_cases ackno windowSize sender with
      ⟨_, recorded⟩ | ⟨isNew, wasSent, _⟩
    · exact recorded
    · have outside :
          sender.nextSeqnoAbsolute < unwrap ackno sender.isn 0 ∨
            unwrap ackno sender.isn 0 < sender.acked :=
        unacceptable
      omega
  rw [rejected]
  exact ⟨recordWindow_eq_iff windowSize sender,
    recordWindow_shape windowSize sender⟩

/-- The sender after a SYN was acknowledged with a window of ten bytes. -/
def tenByteWindow : List Op :=
  [.fillWindow, .ackReceived ⟨1⟩ 10]

/-- An old acknowledgment that repeats the window is ignored altogether. -/
theorem unacceptable_ack_ignored_iff_repeated :
    let sender := (Session.after 64000 1000 ⟨0⟩ tenByteWindow).sender
    sender.ackReceived ⟨0⟩ 10 = sender :=
  (unacceptable_ack_ignored_iff 64000 1000 ⟨0⟩ tenByteWindow ⟨0⟩ 10
    (by decide)).1.mpr ⟨by decide, by decide⟩

/--
An old acknowledgment and one of bytes never sent both move the recorded window
and the probe flag.
-/
theorem stale_ack_moves_window :
    let sender := (Session.after 64000 1000 ⟨0⟩ tenByteWindow).sender
    unwrap ⟨0⟩ sender.isn 0 < sender.acked ∧
      sender.nextSeqnoAbsolute < unwrap ⟨2⟩ sender.isn 0 ∧
      sender.windowSize = 10 ∧
      (sender.ackReceived ⟨0⟩ 3).windowSize = 3 ∧
      (sender.ackReceived ⟨2⟩ 0).windowSize = 1 ∧
      (sender.ackReceived ⟨2⟩ 0).windowProbe = true := by
  decide

end Sponge.TCPSender
