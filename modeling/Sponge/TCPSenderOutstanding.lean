import Sponge.TCPSenderSegmentation

namespace Sponge.TCPSender

/-!
# Outstanding data

Queue, timer, acknowledgment and next number are touched by four operations.
In every reachable state they describe the same outstanding interval: the queue
covers the numbers up to the next one, starting at or before the recorded
acknowledgment, and the timer runs exactly while there is something to resend.
-/

section Retransmission

variable {log : List TCPSegment} {sender : TCPSender}

/-- A retransmission pushes the first segment of the queue as it is. -/
theorem retransmit_segmentsOut
    {first : TCPSegment}
    {rest : List TCPSegment}
    (queue : sender.retransmissionQueue = first :: rest) :
    sender.retransmit.segmentsOut = sender.segmentsOut ++ [first] := by
  rw [retransmit, queue]
  dsimp only
  split
  · rfl
  · rw [countRetransmission_frame]

/-- The callback of the timer never meets an empty queue. -/
theorem Queued.expiry_finds_segment
    (queued : Queued log sender)
    {msSinceLastTick : Nat}
    (expires :
      (sender.timer.timePassed msSinceLastTick).2 = true) :
    ∃ first rest, sender.retransmissionQueue = first :: rest := by
  have running : sender.timer.running = true := by
    by_contra stopped
    rw [RetransmissionTimer.timePassed,
      if_pos (Bool.eq_false_of_not_eq_true stopped)] at expires
    cases expires
  exact List.exists_cons_of_ne_nil (queued.running.mp running)

/-- Time makes the sender push nothing or the first segment of its queue. -/
theorem Queued.tick_segmentsOut
    (queued : Queued log sender)
    (msSinceLastTick : Nat) :
    (sender.tick msSinceLastTick).segmentsOut = sender.segmentsOut ∨
      ∃ first rest,
        sender.retransmissionQueue = first :: rest ∧
          (sender.tick msSinceLastTick).segmentsOut =
            sender.segmentsOut ++ [first] := by
  rcases tick_cases msSinceLastTick sender with
    ⟨rto, counted⟩ | ⟨running, fired⟩
  · left
    rw [counted]
  · right
    obtain ⟨first, rest, queue⟩ :=
      List.exists_cons_of_ne_nil (queued.running.mp running)
    exact ⟨first, rest, queue, by
      rw [fired, retransmit_segmentsOut queue]⟩

end Retransmission

section Interval

variable {written : Bytes} {log : List TCPSegment} {sender : TCPSender}

/-- The queue covers the numbers from its start to the next one to be sent. -/
theorem Queued.covers
    (queued : Queued log sender)
    (logged : Logged written log sender) :
    ∃ start,
      Numbered sender.isn start sender.retransmissionQueue ∧
        start + seqLength sender.retransmissionQueue =
          sender.nextSeqnoAbsolute ∧
        start ≤ sender.acked ∧
        ∀ first rest,
          sender.retransmissionQueue = first :: rest →
          sender.acked < start + first.lengthInSequenceSpace := by
  obtain ⟨acknowledged, shape, low, high⟩ := queued.split
  have numbered := logged.numbered
  rw [shape, Numbered.append_iff, Nat.zero_add] at numbered
  refine ⟨seqLength acknowledged, numbered.2, ?_, low, high⟩
  rw [logged.next, shape, seqLength_append]

/-- Nothing is in flight exactly when nothing is queued. -/
theorem Queued.bytesInFlight_eq_zero_iff
    (queued : Queued log sender)
    (logged : Logged written log sender) :
    sender.bytesInFlight = 0 ↔ sender.retransmissionQueue = [] := by
  obtain ⟨start, _, total, low, high⟩ := queued.covers logged
  have bound := queued.bound
  rw [queued.bytesInFlight_eq]
  cases queue : sender.retransmissionQueue with
  | nil =>
      rw [queue, seqLength_nil] at total
      simp only [iff_true]
      omega
  | cons first rest =>
      have past := high first rest queue
      rw [queue, seqLength_cons] at total
      simp only [reduceCtorEq, iff_false]
      omega

end Interval

/--
In every reachable state the queue, the timer and the counters describe the
same outstanding interval, and `tick` resends the first segment of it.
-/
theorem outstanding_data_tracked
    (capacity : Nat)
    (retxTimeout : UInt16)
    (isn : WrappingInt32)
    (calls : List Op) :
    let sender := (Session.after capacity retxTimeout isn calls).sender
    (∃ start,
      Numbered sender.isn start sender.retransmissionQueue ∧
        start + seqLength sender.retransmissionQueue =
          sender.nextSeqnoAbsolute ∧
        start ≤ sender.acked ∧
        sender.acked ≤ sender.nextSeqnoAbsolute ∧
        ∀ first rest,
          sender.retransmissionQueue = first :: rest →
          sender.acked < start + first.lengthInSequenceSpace) ∧
      sender.bytesInFlight =
        sender.nextSeqnoAbsolute - sender.acked ∧
      (sender.bytesInFlight = 0 ↔ sender.retransmissionQueue = []) ∧
      (sender.timer.running = true ↔
        sender.retransmissionQueue ≠ []) ∧
      ∀ msSinceLastTick,
        ((sender.timer.timePassed msSinceLastTick).2 = true →
          ∃ first rest,
            sender.retransmissionQueue = first :: rest) ∧
        ((sender.tick msSinceLastTick).segmentsOut =
            sender.segmentsOut ∨
          ∃ first rest,
            sender.retransmissionQueue = first :: rest ∧
              (sender.tick msSinceLastTick).segmentsOut =
                sender.segmentsOut ++ [first]) := by
  intro sender
  have tracked := Session.tracked_after capacity retxTimeout isn calls
  have logged := tracked.logged
  have queued := tracked.queued
  obtain ⟨start, numbered, total, low, high⟩ := queued.covers logged
  refine ⟨⟨start, numbered, total, low, queued.bound, high⟩,
    queued.bytesInFlight_eq, queued.bytesInFlight_eq_zero_iff logged,
    queued.running, ?_⟩
  intro msSinceLastTick
  exact ⟨queued.expiry_finds_segment,
    queued.tick_segmentsOut msSinceLastTick⟩

end Sponge.TCPSender
