import Sponge.TCPSenderLog
import Sponge.TCPState

namespace Sponge.TCPSender

/-!
# Segmentation of the stream

Whatever windows and acknowledgments arrive, the segments `fill_window` pushes
cut the stream exactly once and in order.  The numbering accounts for every
byte, so the state the sender keeps agrees with the summary that is computed
from its counters.
-/

section Counting

/-- A list of segments takes up its payload bytes, SYNs and FINs. -/
theorem seqLength_eq
    (log : List TCPSegment) :
    seqLength log =
      (payloads log).length +
        log.countP (fun segment => segment.header.syn) +
        log.countP (fun segment => segment.header.fin) := by
  induction log with
  | nil =>
      rfl
  | cons segment rest inductionHypothesis =>
      have split : payloads (segment :: rest) =
          segment.payload ++ payloads rest :=
        List.flatMap_cons
      rw [seqLength_cons, inductionHypothesis, split,
        List.length_append, List.countP_cons, List.countP_cons,
        TCPSegment.lengthInSequenceSpace]
      omega

variable {state : SenderState} {log : List TCPSegment}

theorem Marked.countP_syn
    (marked : Marked state log) :
    log.countP (fun segment => segment.header.syn) =
      (log.any fun segment => segment.header.syn).toNat := by
  cases log with
  | nil =>
      rfl
  | cons first rest =>
      obtain ⟨firstSyn, restNoSyn⟩ := marked.synFirst first rest rfl
      have none :
          rest.countP (fun segment => segment.header.syn) = 0 :=
        List.countP_eq_zero.mpr fun segment member => by
          simp [restNoSyn segment member]
      simp [firstSyn, none]

/-- A FIN is on the last segment only. -/
theorem Marked.countP_fin
    (marked : Marked state log) :
    log.countP (fun segment => segment.header.fin) =
      (log.any fun segment => segment.header.fin).toNat := by
  cases carries : log.any fun segment => segment.header.fin with
  | false =>
      rw [List.any_eq_false] at carries
      exact List.countP_eq_zero.mpr carries
  | true =>
      obtain ⟨last, member, isFin⟩ := List.any_eq_true.mp carries
      obtain ⟨leading, trailing, shape⟩ := List.append_of_mem member
      obtain ⟨nothing, _⟩ :=
        marked.finLast leading last trailing shape isFin
      subst trailing
      have none :
          leading.countP (fun segment => segment.header.fin) = 0 := by
        apply List.countP_eq_zero.mpr
        intro earlier inLeading isFinToo
        obtain ⟨before, after, split⟩ := List.append_of_mem inLeading
        rw [split, List.append_assoc, List.cons_append] at shape
        obtain ⟨impossible, _⟩ :=
          marked.finLast before earlier _ shape isFinToo
        simp at impossible
      rw [shape, List.countP_append, none]
      simp [isFin]

theorem Marked.init_iff
    (marked : Marked state log) :
    state = .init ↔
      (log.any fun segment => segment.header.syn) = false := by
  rw [marked.begun]
  cases log with
  | nil =>
      simp
  | cons first rest =>
      simp [(marked.synFirst first rest rfl).1]

theorem Marked.syn_sent
    (marked : Marked state log)
    (begun : state ≠ .init) :
    (log.any fun segment => segment.header.syn) = true :=
  Bool.eq_true_of_not_eq_false fun noSyn =>
    begun (marked.init_iff.mpr noSyn)

theorem Marked.finSent_iff
    (marked : Marked state log) :
    state = .finSent ↔
      (log.any fun segment => segment.header.fin) = true := by
  rw [List.any_eq_true]
  constructor
  · exact marked.finished
  · rintro ⟨segment, member, isFin⟩
    obtain ⟨leading, trailing, shape⟩ := List.append_of_mem member
    exact (marked.finLast leading segment trailing shape isFin).2

end Counting

section Summary

variable {written : Bytes} {log : List TCPSegment} {sender : TCPSender}

/-- The bytes read from the stream are those in the log. -/
theorem Logged.bytesRead_eq
    (logged : Logged written log sender) :
    sender.stream.bytesRead = (payloads log).length := by
  have split := congrArg List.length logged.bytes
  have size := logged.valid.sizeExact
  have accounting := logged.valid.accounting
  have total := logged.total
  rw [List.length_append] at split
  simp only [ByteStream.bytesRead]
  omega

/-- The next number counts the SYN, the bytes read and the FIN. -/
theorem Logged.next_eq
    (logged : Logged written log sender) :
    sender.nextSeqnoAbsolute =
      (log.any fun segment => segment.header.syn).toNat +
        sender.stream.bytesRead +
        (log.any fun segment => segment.header.fin).toNat := by
  rw [logged.next, seqLength_eq, logged.marked.countP_syn,
    logged.marked.countP_fin, logged.bytesRead_eq]
  omega

/-- The recorded acknowledgment was sent, so the difference is exact. -/
theorem Queued.bytesInFlight_eq
    (queued : Queued log sender) :
    sender.bytesInFlight = sender.nextSeqnoAbsolute - sender.acked :=
  sub64_of_le queued.bound

/-- No number is used before the SYN. -/
theorem Logged.next_eq_zero_iff
    (logged : Logged written log sender) :
    sender.nextSeqnoAbsolute = 0 ↔
      (log.any fun segment => segment.header.syn) = false := by
  constructor
  · intro unused
    have next := logged.next_eq
    cases carries : log.any fun segment => segment.header.syn with
    | false =>
        rfl
    | true =>
        rw [unused, carries] at next
        simp only [Bool.toNat_true] at next
        omega
  · intro noSyn
    have nothing :=
      logged.marked.begun.mp (logged.marked.init_iff.mpr noSyn)
    rw [logged.next, nothing, seqLength_nil]

/-- Without an error the summary is CLOSED exactly before the SYN. -/
theorem Logged.summary_closed_iff
    (logged : Logged written log sender)
    (noError : sender.stream.error = false) :
    sender.stateSummary = .closed ↔
      (log.any fun segment => segment.header.syn) = false := by
  rw [← logged.next_eq_zero_iff, stateSummary, noError,
    if_neg Bool.false_ne_true]
  constructor
  · intro summary
    by_contra used
    rw [if_neg used] at summary
    split at summary
    · cases summary
    · split at summary
      · cases summary
      · split at summary
        · cases summary
        · split at summary <;> cases summary
  · intro unused
    rw [if_pos unused]

/--
Without an error the summary is FIN_SENT or FIN_ACKED exactly when the FIN was
sent and something was acknowledged.
-/
theorem Logged.summary_fin_iff
    (logged : Logged written log sender)
    (queued : Queued log sender)
    (noError : sender.stream.error = false) :
    (sender.stateSummary = .finSent ∨ sender.stateSummary = .finAcked) ↔
      (log.any fun segment => segment.header.fin) = true ∧
        sender.acked ≠ 0 := by
  have next := logged.next_eq
  have inFlight := queued.bytesInFlight_eq
  have bound := queued.bound
  have accounting := logged.valid.accounting
  have synBit :=
    Bool.toNat_le (log.any fun segment => segment.header.syn)
  simp only [ByteStream.bytesRead] at next
  rw [stateSummary, noError, if_neg Bool.false_ne_true]
  constructor
  · intro summary
    by_cases unused : sender.nextSeqnoAbsolute = 0
    · simp [unused] at summary
    by_cases unacked : sender.nextSeqnoAbsolute = sender.bytesInFlight
    · rw [if_neg unused, if_pos unacked] at summary
      simp at summary
    by_cases running : ¬ sender.stream.eof = true
    · rw [if_neg unused, if_neg unacked, if_pos running] at summary
      simp at summary
    by_cases unfinished :
        sender.nextSeqnoAbsolute < sender.stream.bytesWritten + 2
    · rw [if_neg unused, if_neg unacked, if_neg running,
        if_pos unfinished] at summary
      simp at summary
    refine ⟨?_, by omega⟩
    simp only [ByteStream.bytesWritten] at unfinished
    cases carries : log.any fun segment => segment.header.fin with
    | true =>
        rfl
    | false =>
        rw [carries] at next
        simp only [Bool.toNat_false] at next
        omega
  · rintro ⟨carries, acknowledged⟩
    have isFinished := logged.marked.finSent_iff.mpr carries
    have atEnd := logged.ended isFinished
    have drained : sender.stream.size = 0 := by
      simpa [ByteStream.eof] using (Bool.and_eq_true_iff.mp atEnd).2
    have begun :
        (log.any fun segment => segment.header.syn) = true := by
      rw [← Bool.not_eq_false, ← logged.marked.init_iff, isFinished]
      simp
    rw [begun, carries] at next
    simp only [Bool.toNat_true] at next
    rw [if_neg (by omega), if_neg (by omega),
      if_neg (not_not.mpr atEnd), if_neg (by
        simp only [ByteStream.bytesWritten]
        omega)]
    by_cases outstanding : sender.bytesInFlight ≠ 0
    · exact Or.inl (if_pos outstanding)
    · exact Or.inr (if_neg outstanding)

end Summary

/-- No call changes the initial sequence number. -/
theorem Session.Tracked.step_isn
    {session : Session}
    (tracked : session.Tracked)
    (call : Op) :
    (session.step call).sender.isn = session.sender.isn := by
  cases call with
  | fillWindow =>
      obtain ⟨sent, fills⟩ := fillWindow_fills tracked.logged.ready
      exact fills.frame.isn
  | ackReceived ackno windowSize =>
      exact (ackReceived_frame ackno windowSize session.sender).isn
  | tick msSinceLastTick =>
      exact (tick_frame msSinceLastTick session.sender).isn
  | write _ | endInput | setError | sendEmptySegment | takeSegments =>
      rfl

theorem Session.isn_after
    (capacity : Nat)
    (retxTimeout : UInt16)
    (isn : WrappingInt32)
    (calls : List Op) :
    (Session.after capacity retxTimeout isn calls).sender.isn = isn := by
  have both :
      (Session.after capacity retxTimeout isn calls).Tracked ∧
        (Session.after capacity retxTimeout isn calls).sender.isn =
          isn :=
    Execution.run_invariant
      (fun session : Session =>
        session.Tracked ∧ session.sender.isn = isn)
      (fun _ call held =>
        ⟨held.1.step call, (held.1.step_isn call).trans held.2⟩)
      ⟨Session.tracked_start capacity retxTimeout isn, rfl⟩ calls
  exact both.2

/-- Segments numbered without gaps follow one another. -/
theorem Numbered.next_seqno
    {isn : WrappingInt32}
    {start : Nat}
    {leading trailing : List TCPSegment}
    {previous next : TCPSegment}
    (numbered :
      Numbered isn start (leading ++ previous :: next :: trailing)) :
    next.header.seqno =
      previous.header.seqno +
        UInt32.ofNat previous.lengthInSequenceSpace := by
  obtain ⟨_, previousAt, nextAt, _⟩ := Numbered.append_iff.mp numbered
  rw [nextAt, previousAt, wrap_add]

/--
The segments that `fill_window` pushes cut the stream exactly once and in
order, the next number accounts for all of them, and the state the sender keeps
agrees with its summary.
-/
theorem segments_stream_once_in_order
    (capacity : Nat)
    (retxTimeout : UInt16)
    (isn : WrappingInt32)
    (calls : List Op) :
    let session := Session.after capacity retxTimeout isn calls
    let sender := session.sender
    let log := session.log
    let synSent := log.any fun segment => segment.header.syn
    let finSent := log.any fun segment => segment.header.fin
    (∀ first rest,
        log = first :: rest →
        first.header.syn = true ∧
          first.header.seqno = isn ∧
          ∀ segment ∈ rest, segment.header.syn = false) ∧
      (∀ (leading : List TCPSegment) (previous next : TCPSegment)
          (trailing : List TCPSegment),
        log = leading ++ previous :: next :: trailing →
        next.header.seqno =
          previous.header.seqno +
            UInt32.ofNat previous.lengthInSequenceSpace) ∧
      (∀ segment ∈ log,
        segment.payload.length ≤ TCPConfig.maxPayloadSize) ∧
      payloads log = session.written.take sender.stream.bytesRead ∧
      sender.stream.bytesRead ≤ session.written.length ∧
      (∀ leading segment trailing,
        log = leading ++ segment :: trailing →
        segment.header.fin = true →
        trailing = [] ∧
          sender.stream.inputEnded = true ∧
          payloads log = session.written) ∧
      sender.nextSeqnoAbsolute =
        synSent.toNat + sender.stream.bytesRead + finSent.toNat ∧
      (sender.state = .init ↔ synSent = false) ∧
      (sender.state = .finSent ↔ finSent = true) ∧
      (sender.stream.error = false →
        (sender.stateSummary = .closed ↔ synSent = false) ∧
          (sender.stateSummary = .finSent ∨
              sender.stateSummary = .finAcked ↔
            finSent = true ∧ sender.acked ≠ 0)) := by
  intro session sender log synSent finSent
  obtain ⟨logged, queued, _⟩ :=
    Session.tracked_after capacity retxTimeout isn calls
  have sameIsn := Session.isn_after capacity retxTimeout isn calls
  have read := logged.bytesRead_eq
  have bytes := logged.bytes
  refine ⟨?_, ?_, logged.short, ?_, ?_, ?_, logged.next_eq,
    logged.marked.init_iff, logged.marked.finSent_iff, ?_⟩
  · intro first rest shape
    obtain ⟨isSyn, restNoSyn⟩ := logged.marked.synFirst first rest shape
    have numbered := logged.numbered
    rw [sameIsn] at numbered
    change Numbered isn 0 log at numbered
    rw [shape] at numbered
    exact ⟨isSyn, numbered.1.trans (wrap_zero isn), restNoSyn⟩
  · intro leading previous next trailing shape
    have numbered := logged.numbered
    change Numbered _ 0 log at numbered
    rw [shape] at numbered
    exact numbered.next_seqno
  · rw [read, ← bytes, List.take_left]
  · rw [read, ← bytes, List.length_append]
    exact Nat.le_add_right _ _
  · intro leading segment trailing shape isFin
    obtain ⟨nothing, isFinished⟩ :=
      logged.marked.finLast leading segment trailing shape isFin
    have atEnd := Bool.and_eq_true_iff.mp (logged.ended isFinished)
    have drained : sender.stream.contents = [] := by
      apply List.length_eq_zero_iff.mp
      rw [logged.valid.sizeExact]
      simpa using atEnd.2
    refine ⟨nothing, atEnd.1, ?_⟩
    rw [← bytes, drained, List.append_nil]
  · intro noError
    exact ⟨logged.summary_closed_iff noError,
      logged.summary_fin_iff queued noError⟩

end Sponge.TCPSender
