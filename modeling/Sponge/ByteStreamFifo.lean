import Sponge.BoundedFifo
import Sponge.ByteStream

namespace Sponge.ByteStream

/-!
# The byte stream as a bounded queue

A `ByteStream` counts its bytes apart from the chunks that hold them.  The
queue of `BoundedFifo` has no chunks and no counters.  `Represents` relates the
two, every method keeps the relation, and the laws of the queue pass to the
stream.
-/

/-- The methods of the writer and of the reader. -/
inductive Op where
  | write (data : Bytes)
  | read (len : Nat)
  | peekOutput (len : Nat)
  | popOutput (len : Nat)
  | endInput
  deriving DecidableEq

/-- The request on a queue that a method stands for. -/
def Op.request : Op → BoundedFifo.Request UInt8
  | .write data => .push data
  | .read len => .take len
  | .peekOutput len => .look len
  | .popOutput len => .discard len
  | .endInput => .close

/-- `read` with the exception its removal may raise. -/
def readResult
    (len : Nat)
    (stream : ByteStream) :
    EStateM.Result StdException ByteStream Bytes :=
  let readBytes :=
    if stream.bufferSize ≤ len then
      stream.bufferSize
    else
      len
  match stream.popOutput readBytes with
  | .error thrown rest => .error thrown rest
  | .ok _ rest => .ok (stream.peekOutput readBytes) rest

/-- A method call: what it answers or throws, and the stream it leaves. -/
def perform
    (stream : ByteStream) :
    Op → EStateM.Result StdException ByteStream (BoundedFifo.Answer UInt8)
  | .write data =>
      .ok (.accepted (stream.write data).1) (stream.write data).2
  | .read len =>
      match stream.readResult len with
      | .error thrown rest => .error thrown rest
      | .ok bytes rest => .ok (.items bytes) rest
  | .peekOutput len => .ok (.items (stream.peekOutput len)) stream
  | .popOutput len =>
      match stream.popOutput len with
      | .error thrown rest => .error thrown rest
      | .ok _ rest => .ok .done rest
  | .endInput => .ok .done stream.endInput

/-- The call leaves the stream that `read` leaves. -/
theorem finalState_perform_read
    (len : Nat)
    (stream : ByteStream) :
    finalState (stream.perform (.read len)) = (stream.read len).2 := by
  simp only [perform, readResult, read]
  cases stream.popOutput
      (if stream.bufferSize ≤ len then stream.bufferSize else len) with
  | ok _ rest => rfl
  | error thrown rest => rfl

theorem finalState_perform_popOutput
    (len : Nat)
    (stream : ByteStream) :
    finalState (stream.perform (.popOutput len)) =
      finalState (stream.popOutput len) := by
  simp only [perform]
  cases stream.popOutput len with
  | ok _ rest => rfl
  | error thrown rest => rfl

/-- A call that pops no more than is buffered. -/
def Op.WithinBuffer
    (stream : ByteStream) :
    Op → Prop
  | .popOutput len => len ≤ stream.bufferSize
  | _ => True

instance
    (stream : ByteStream)
    (op : Op) :
    Decidable (op.WithinBuffer stream) :=
  match op with
  | .popOutput len => inferInstanceAs (Decidable (len ≤ _))
  | .write _ | .read _ | .peekOutput _ | .endInput => isTrue trivial

/-- The accepted bytes of a write. -/
def accepting
    (stream : ByteStream) :
    Op → Bytes
  | .write data => data.take (stream.write data).1
  | _ => []

/-- The bytes a read returns or a pop removes. -/
def removing
    (stream : ByteStream) :
    Op → Bytes
  | .read len => (stream.read len).1
  | .popOutput len => stream.peekOutput len
  | _ => []

/-- A stream, the bytes that went in and out of it, and what it answered. -/
structure History where
  stream : ByteStream
  accepted : Bytes := []
  removed : Bytes := []
  answers : List (BoundedFifo.Answer UInt8) := []

namespace History

/-- The history of a new stream. -/
def start (capacity : Nat) : History where
  stream := ByteStream.new capacity

/-- Perform a call and record what it moves and returns. -/
def step
    (history : History)
    (op : Op) : History where
  stream := finalState (history.stream.perform op)
  accepted := history.accepted ++ history.stream.accepting op
  removed := history.removed ++ history.stream.removing op
  answers :=
    history.answers ++ (returned (history.stream.perform op)).toList

/-- The history after these calls on a new stream. -/
def after
    (capacity : Nat)
    (calls : List Op) : History :=
  Execution.run step (start capacity) calls

end History

/-- The stream holds the items of the queue, with the same bound and flag. -/
structure Represents
    (stream : ByteStream)
    (fifo : BoundedFifo UInt8) : Prop where
  valid : stream.Valid
  capacity : fifo.capacity = stream.mCapacity
  items : fifo.items = stream.contents
  closed : fifo.closed = stream.endFlag

theorem represents_new
    (capacity : Nat) :
    (new capacity).Represents (BoundedFifo.empty capacity) :=
  ⟨valid_new capacity, rfl, rfl, rfl⟩

namespace Represents

variable {stream : ByteStream} {fifo : BoundedFifo UInt8}

theorem space
    (represents : stream.Represents fifo) :
    fifo.space = stream.remainingCapacity := by
  rw [remainingCapacity_of_le represents.valid.withinCapacity,
    BoundedFifo.space, represents.capacity, represents.items,
    represents.valid.sizeExact]

/-- What the stream accepts is what the queue lets in. -/
theorem admitted
    (represents : stream.Represents fifo)
    (data : Bytes) :
    fifo.admitted data = data.take (stream.accepted data) := by
  unfold BoundedFifo.admitted accepted
  rw [represents.closed, represents.space]
  split
  · rw [List.take_zero]
  · rw [Nat.min_comm, Nat.min_def]
    split
    · rw [List.take_length]
      exact List.take_of_length_le ‹_›
    · rfl

theorem length_admitted
    (represents : stream.Represents fifo)
    (data : Bytes) :
    (fifo.admitted data).length = (stream.write data).1 := by
  rw [represents.admitted, write_fst, List.length_take]
  exact Nat.min_eq_left (accepted_le_length data stream)

theorem write
    (represents : stream.Represents fifo)
    (data : Bytes) :
    (stream.write data).2.Represents (fifo.push data) where
  valid := represents.valid.write data
  capacity := by
    rw [write_mCapacity]
    exact represents.capacity
  items := by
    rw [write_contents, ← represents.admitted, ← represents.items]
    rfl
  closed := by
    rw [write_endFlag]
    exact represents.closed

/-- Popping what is there drops the front of the queue. -/
theorem popOutput
    (represents : stream.Represents fifo)
    {len : Nat}
    (enough : len ≤ stream.bufferSize) :
    ∃ rest,
      stream.popOutput len = .ok () rest ∧
        rest.Represents (fifo.discard len) := by
  obtain ⟨buffers, popped, dropped⟩ :=
    represents.valid.popOutput_ok enough
  have within := represents.valid.withinCapacity
  have counted := represents.valid.accounting
  have exact := represents.valid.sizeExact
  unfold bufferSize at enough
  refine ⟨_, popped, ⟨⟨?_, ?_, ?_⟩, represents.capacity, ?_,
    represents.closed⟩⟩
  · change buffers.concatenate.length = stream.size - len
    rw [dropped, List.length_drop, exact]
  · change stream.size - len ≤ stream.mCapacity
    omega
  · change stream.bytesW = stream.bytesR + len + (stream.size - len)
    omega
  · change fifo.items.drop len = buffers.concatenate
    rw [dropped, represents.items]

/-- A read is bounded by the buffer, so its removal does not throw. -/
theorem read
    (represents : stream.Represents fifo)
    (len : Nat) :
    ∃ rest,
      stream.readResult len = .ok (fifo.items.take len) rest ∧
        rest.Represents (fifo.discard len) ∧
        (stream.read len).1 = fifo.items.take len := by
  have exact := represents.valid.sizeExact
  have shown := represents.valid.read_bytes len
  have bounded :
      (if stream.bufferSize ≤ len then stream.bufferSize else len) ≤
        stream.bufferSize := by
    split <;> omega
  obtain ⟨rest, popped, represented⟩ := represents.popOutput bounded
  have sameRest :
      fifo.discard
          (if stream.bufferSize ≤ len then stream.bufferSize else len) =
        fifo.discard len := by
    split
    · rename_i short
      have drained :
          fifo.items.drop stream.bufferSize = fifo.items.drop len := by
        unfold bufferSize at short ⊢
        rw [represents.items, ← exact, List.drop_length,
          List.drop_eq_nil_of_le (by omega)]
      simp only [BoundedFifo.discard, drained]
    · rfl
  rw [sameRest] at represented
  refine ⟨rest, ?_, represented, by rw [shown, represents.items]⟩
  rw [represents.items, ← shown]
  simp only [readResult, popped]
  rfl

/--
Every method that pops no more than is buffered returns, answers as the queue
does and leaves a stream that represents the next queue.
-/
theorem perform
    (represents : stream.Represents fifo)
    {op : Op}
    (within : op.WithinBuffer stream) :
    ∃ rest,
      stream.perform op = .ok (fifo.answer op.request) rest ∧
        rest.Represents (fifo.next op.request) := by
  cases op with
  | write data =>
      refine ⟨_, ?_, represents.write data⟩
      rw [Op.request, BoundedFifo.answer, represents.length_admitted]
      rfl
  | read len =>
      obtain ⟨rest, reads, represented, _⟩ := represents.read len
      exact ⟨rest, by simp only [ByteStream.perform, reads]; rfl,
        represented⟩
  | peekOutput len =>
      refine ⟨stream, ?_, represents⟩
      rw [Op.request, BoundedFifo.answer, represents.items]
      rfl
  | popOutput len =>
      obtain ⟨rest, popped, represented⟩ := represents.popOutput within
      exact ⟨rest, by simp only [ByteStream.perform, popped]; rfl,
        represented⟩
  | endInput =>
      exact ⟨stream.endInput, rfl, represents.valid.endInput,
        represents.capacity, represents.items, rfl⟩

theorem accepting
    (represents : stream.Represents fifo)
    (op : Op) :
    stream.accepting op = fifo.entering op.request := by
  cases op with
  | write data =>
      rw [Op.request, BoundedFifo.entering, represents.admitted,
        ← write_fst]
      rfl
  | read _ | peekOutput _ | popOutput _ | endInput => rfl

theorem removing
    (represents : stream.Represents fifo)
    (op : Op) :
    stream.removing op = fifo.leaving op.request := by
  cases op with
  | read len =>
      obtain ⟨_, _, _, shown⟩ := represents.read len
      exact shown
  | popOutput len =>
      rw [Op.request, BoundedFifo.leaving, represents.items]
      rfl
  | write _ | peekOutput _ | endInput => rfl

end Represents

/-- The two histories tell the same story. -/
structure History.Matches
    (history : History)
    (fifo : BoundedFifo.History UInt8) : Prop where
  represents : history.stream.Represents fifo.fifo
  accepted : history.accepted = fifo.entered
  removed : history.removed = fifo.left
  answers : history.answers = fifo.answers
  written : history.stream.bytesWritten = history.accepted.length

/-- A call counts the bytes it accepts. -/
theorem perform_bytesW
    {stream rest : ByteStream}
    {op : Op}
    {answer : BoundedFifo.Answer UInt8}
    (performs : stream.perform op = .ok answer rest) :
    rest.bytesW = stream.bytesW + (stream.accepting op).length := by
  have result : rest = finalState (stream.perform op) := by
    rw [performs]
    rfl
  rw [result]
  cases op with
  | write data =>
      have taken := accepted_le_length data stream
      simp only [accepting, write_fst, List.length_take,
        Nat.min_eq_left taken]
      exact write_bytesW data stream
  | read len =>
      rw [finalState_perform_read]
      exact read_bytesW len stream
  | popOutput len =>
      rw [finalState_perform_popOutput]
      exact (popOutput_frame len stream).2.2.1
  | peekOutput _ | endInput => rfl

theorem History.Matches.step
    {history : History}
    {fifo : BoundedFifo.History UInt8}
    (agrees : history.Matches fifo)
    {op : Op}
    (within : op.WithinBuffer history.stream) :
    (history.step op).Matches (fifo.step op.request) := by
  obtain ⟨rest, performs, represented⟩ :=
    agrees.represents.perform within
  have counted := perform_bytesW performs
  refine ⟨?_, ?_, ?_, ?_, ?_⟩
  · simp only [History.step, performs, finalState]
    exact represented
  · simp only [History.step, BoundedFifo.History.step,
      agrees.represents.accepting, agrees.accepted]
  · simp only [History.step, BoundedFifo.History.step,
      agrees.represents.removing, agrees.removed]
  · simp only [History.step, BoundedFifo.History.step, performs,
      returned, agrees.answers, Option.toList]
  · simp only [History.step, performs, finalState, List.length_append,
      bytesWritten, counted]
    rw [← agrees.written]
    rfl

/-- A run of the stream is a run of the queue. -/
theorem History.matches_after
    (capacity : Nat)
    {calls : List Op}
    (within :
      Execution.EveryStep History.step
        (fun history op => op.WithinBuffer history.stream)
        (History.start capacity) calls) :
    (History.after capacity calls).Matches
      (Execution.run BoundedFifo.History.step
        (BoundedFifo.History.start capacity)
        (calls.map Op.request)) := by
  rw [Execution.run_map]
  refine Execution.EveryStep.simulation History.Matches ?_ ?_ within
  · intro history fifo op agrees admissible
    exact agrees.step admissible
  · exact ⟨represents_new capacity, rfl, rfl, rfl, rfl⟩

theorem close_mem_requests
    (calls : List Op) :
    .close ∈ calls.map Op.request ↔ Op.endInput ∈ calls := by
  rw [List.mem_map]
  constructor
  · rintro ⟨op, member, closes⟩
    cases op with
    | endInput => exact member
    | write _ | read _ | peekOutput _ | popOutput _ => cases closes
  · intro member
    exact ⟨.endInput, member, rfl⟩

/--
A stream is a bounded queue of bytes.  Along every run that pops no more than is
buffered it answers as the queue does, its counters are exact, and the next
call does not throw either.
-/
theorem refines_bounded_fifo
    (capacity : Nat)
    (calls : List Op)
    (within :
      Execution.EveryStep History.step
        (fun history op => op.WithinBuffer history.stream)
        (History.start capacity) calls) :
    let history := History.after capacity calls
    let stream := history.stream
    history.answers =
        (Execution.run BoundedFifo.History.step
          (BoundedFifo.History.start capacity)
          (calls.map Op.request)).answers ∧
      history.removed ++ stream.contents = history.accepted ∧
      (∀ data,
        (stream.write data).1 =
          if .endInput ∈ calls then
            0
          else
            min data.length stream.remainingCapacity) ∧
      stream.bufferSize = stream.contents.length ∧
      stream.bufferSize ≤ capacity ∧
      stream.bytesWritten = history.accepted.length ∧
      stream.bytesRead = history.removed.length ∧
      stream.bytesRead ≤ stream.bytesWritten ∧
      stream.bufferSize = stream.bytesWritten - stream.bytesRead ∧
      stream.bufferSize + stream.remainingCapacity = capacity ∧
      (stream.eof = true ↔
        .endInput ∈ calls ∧ history.removed = history.accepted) ∧
      ∀ op : Op,
        op.WithinBuffer stream →
        ∃ answer rest, stream.perform op = .ok answer rest := by
  intro history stream
  have agrees := History.matches_after capacity within
  have represents := agrees.represents
  have valid : stream.Valid := represents.valid
  have exact := valid.sizeExact
  have counted := valid.accounting
  have limit : stream.mCapacity = capacity :=
    represents.capacity.symm.trans
      (BoundedFifo.History.capacity_run capacity _)
  have bounded := valid.withinCapacity
  rw [limit] at bounded
  have ended : stream.endFlag = true ↔ .endInput ∈ calls := by
    rw [← close_mem_requests, ← represents.closed,
      BoundedFifo.History.closed_run]
    simp [BoundedFifo.History.start, BoundedFifo.empty]
  have conserved : history.removed ++ stream.contents = history.accepted := by
    have law :=
      BoundedFifo.History.conserved_run capacity (calls.map Op.request)
    rw [BoundedFifo.History.Conserved, ← agrees.removed,
      represents.items, ← agrees.accepted] at law
    exact law
  have written : stream.bytesW = history.accepted.length :=
    agrees.written
  have lengths := congrArg List.length conserved
  rw [List.length_append] at lengths
  have emptied :
      stream.size = 0 ↔ history.removed = history.accepted := by
    rw [← exact, List.length_eq_zero_iff, ← conserved,
      List.self_eq_append_right]
  refine ⟨agrees.answers, conserved, ?_, exact.symm, bounded, written,
    ?_, ?_, ?_, ?_, ?_, ?_⟩
  · intro data
    rw [write_fst, accepted, ← if_congr ended rfl rfl, Nat.min_comm]
  · change stream.bytesR = _
    omega
  · change stream.bytesR ≤ stream.bytesW
    omega
  · change stream.size = stream.bytesW - stream.bytesR
    omega
  · rw [remainingCapacity_of_le valid.withinCapacity, limit]
    change stream.size + _ = _
    omega
  · rw [eof, Bool.and_eq_true, beq_iff_eq, ended, emptied]
  · intro op admissible
    obtain ⟨rest, performs, _⟩ := represents.perform admissible
    exact ⟨_, rest, performs⟩

/-- Three bytes in a stream of two, an empty write, and what is left after. -/
theorem refines_bounded_fifo_three :
    let calls : List Op :=
      [.write [97, 98, 99], .write [], .popOutput 1, .endInput]
    (History.after 2 calls).removed ++
        (History.after 2 calls).stream.contents =
      (History.after 2 calls).accepted :=
  (refines_bounded_fifo 2
    [.write [97, 98, 99], .write [], .popOutput 1, .endInput]
    (by decide)).2.1

end Sponge.ByteStream
