import Sponge.ByteStreamFifo
import Sponge.Execution

namespace Sponge.ByteStream

/-!
# Popping more than is buffered

`pop_output` has no check of its own.  Its exception is raised by the loop that
drops the chunks, once there is none left, and the counters are only updated
when that loop returns.  A failed pop therefore loses what was buffered and
leaves the counters as they were; it is harmless only if nothing was buffered.
-/

/-- A method of the writer or the reader, or the error flag being set. -/
inductive Call where
  | method (op : Op)
  | setError
  deriving DecidableEq

/-- A call: what it answers or throws, and the stream it leaves. -/
def invoke
    (stream : ByteStream) :
    Call →
      EStateM.Result StdException ByteStream (BoundedFifo.Answer UInt8)
  | .method op => stream.perform op
  | .setError => .ok .done stream.setError

/-- The stream a call leaves, whether it returned or threw. -/
def act
    (stream : ByteStream)
    (call : Call) : ByteStream :=
  finalState (stream.invoke call)

/-- The stream after a list of calls. -/
def reached
    (capacity : Nat)
    (calls : List Call) : ByteStream :=
  Execution.run act (new capacity) calls

/-- The answer or the exception of a call. -/
def outcome {α : Type} :
    EStateM.Result StdException ByteStream α → Except StdException α
  | .ok value _ => .ok value
  | .error thrown _ => .error thrown

/-- The stream with its bytes in one chunk: all that its methods show. -/
def snapshot (stream : ByteStream) : ByteStream :=
  { stream with stream := [Buffer.ofString stream.contents] }

/-- What is seen of a call: its outcome and the stream after it. -/
def respond
    (stream : ByteStream)
    (call : Call) :
    Except StdException (BoundedFifo.Answer UInt8) × ByteStream :=
  (outcome (stream.invoke call), (stream.act call).snapshot)

/--
Same bytes, same counters, and no calls ever tell the streams apart.
-/
structure Intact (before after : ByteStream) : Prop where
  contents : after.contents = before.contents
  bufferSize : after.bufferSize = before.bufferSize
  bytesRead : after.bytesRead = before.bytesRead
  later :
    ∀ calls,
      Execution.outputs act respond after calls =
        Execution.outputs act respond before calls

section Pop

variable {stream : ByteStream} {len : Nat}

/-- A pop of what the chunks hold. -/
theorem popOutput_of_le
    (enough : len ≤ stream.contents.length) :
    ∃ buffers,
      stream.popOutput len =
          .ok () { stream with
            stream := buffers
            size := sub64 stream.size len
            bytesR := stream.bytesR + len } ∧
        buffers.concatenate = stream.contents.drop len := by
  obtain ⟨buffers, removed, dropped⟩ :=
    BufferList.removePrefix_concatenate enough
  exact ⟨buffers, by rw [popOutput, removed], dropped⟩

/-- A pop of more than that drops every chunk and then throws. -/
theorem popOutput_of_short
    (short : stream.contents.length < len) :
    stream.popOutput len =
      .error (.outOfRange "BufferList::remove_prefix")
        { stream with stream := [] } := by
  rw [popOutput, BufferList.removePrefix_of_short short]

/-- A method that pops answers if the pop does. -/
theorem outcome_perform_popOutput
    (len : Nat)
    (stream : ByteStream) :
    outcome (stream.perform (.popOutput len)) =
      (outcome (stream.popOutput len)).map fun _ => .done := by
  simp only [perform]
  cases stream.popOutput len with
  | ok _ rest => rfl
  | error thrown rest => rfl

theorem outcome_perform_read
    {len readBytes : Nat}
    {stream : ByteStream}
    (clamped :
      (if stream.bufferSize ≤ len then stream.bufferSize else len) =
        readBytes) :
    outcome (stream.perform (.read len)) =
      (outcome (stream.popOutput readBytes)).map
        fun _ => .items (stream.peekOutput readBytes) := by
  subst clamped
  simp only [perform, readResult]
  cases stream.popOutput
      (if stream.bufferSize ≤ len then stream.bufferSize else len) with
  | ok _ rest => rfl
  | error thrown rest => rfl

end Pop

/-- The stream with other chunks. -/
def withChunks
    (stream : ByteStream)
    (buffers : BufferList) : ByteStream :=
  { stream with stream := buffers }

/-- Two streams that differ in their chunks at most. -/
def Alike (first second : ByteStream) : Prop :=
  first.snapshot = second.snapshot

section Rechunked

variable {stream : ByteStream} {buffers : BufferList}

theorem alike_withChunks
    (same : buffers.concatenate = stream.contents) :
    Alike stream (stream.withChunks buffers) := by
  have contents : (stream.withChunks buffers).contents = stream.contents :=
    same
  rw [Alike, snapshot, snapshot, contents]
  rfl

theorem Alike.eq_withChunks
    {first second : ByteStream}
    (alike : Alike first second) :
    ∃ buffers,
      second = first.withChunks buffers ∧
        buffers.concatenate = first.contents := by
  rcases first with ⟨endFlag, mCapacity, size, chunks, bytesW, bytesR, error⟩
  rcases second with ⟨_, _, _, buffers, _, _, _⟩
  simp only [Alike, snapshot, contents, ByteStream.mk.injEq,
    List.cons.injEq, Buffer.ofString, Buffer.mk.injEq,
    Option.some.injEq, and_true] at alike
  obtain ⟨rfl, rfl, rfl, same, rfl, rfl, rfl⟩ := alike
  exact ⟨buffers, rfl, same.symm⟩

/-- How the bytes are cut into chunks plays no part in a pop. -/
theorem popOutput_withChunks
    (same : buffers.concatenate = stream.contents)
    (len : Nat) :
    outcome ((stream.withChunks buffers).popOutput len) =
        outcome (stream.popOutput len) ∧
      Alike (finalState (stream.popOutput len))
        (finalState ((stream.withChunks buffers).popOutput len)) := by
  have contents : (stream.withChunks buffers).contents = stream.contents :=
    same
  by_cases enough : len ≤ stream.contents.length
  · obtain ⟨rest, popped, left⟩ := popOutput_of_le enough
    rw [← contents] at enough
    obtain ⟨otherRest, otherPopped, otherLeft⟩ := popOutput_of_le enough
    rw [contents, ← left] at otherLeft
    rw [popped, otherPopped]
    exact ⟨rfl, alike_withChunks otherLeft⟩
  · have short := Nat.not_le.mp enough
    rw [popOutput_of_short short]
    rw [← contents] at short
    rw [popOutput_of_short short]
    exact ⟨rfl, rfl⟩

theorem write_withChunks
    (same : buffers.concatenate = stream.contents)
    (data : Bytes) :
    ((stream.withChunks buffers).write data).1 = (stream.write data).1 ∧
      Alike (stream.write data).2
        ((stream.withChunks buffers).write data).2 := by
  by_cases ended : stream.endFlag = true
  · have alsoEnded : (stream.withChunks buffers).endFlag = true := ended
    rw [write, write, if_pos ended, if_pos alsoEnded]
    exact ⟨rfl, alike_withChunks same⟩
  · have alsoOpen : ¬ (stream.withChunks buffers).endFlag = true := ended
    rw [write, write, if_neg ended, if_neg alsoOpen]
    refine ⟨rfl, alike_withChunks ?_⟩
    change
      (BufferList.append buffers _).concatenate =
        (BufferList.append stream.stream _).concatenate
    rw [BufferList.concatenate_append, BufferList.concatenate_append,
      same]
    rfl

/-- Nor does it in any other call. -/
theorem invoke_withChunks
    (same : buffers.concatenate = stream.contents)
    (call : Call) :
    outcome ((stream.withChunks buffers).invoke call) =
        outcome (stream.invoke call) ∧
      Alike (stream.act call)
        ((stream.withChunks buffers).act call) := by
  have peeked :
      ∀ len,
        (stream.withChunks buffers).peekOutput len =
          stream.peekOutput len :=
    fun len => congrArg (List.take len) same
  cases call with
  | setError =>
      exact ⟨rfl, alike_withChunks same⟩
  | method op =>
      cases op with
      | write data =>
          obtain ⟨sameCount, alike⟩ := write_withChunks same data
          refine ⟨?_, alike⟩
          simp only [invoke, perform, outcome, sameCount]
      | read len =>
          generalize clamped :
            (if stream.bufferSize ≤ len then
              stream.bufferSize
            else
              len) = readBytes
          obtain ⟨sameOutcome, alike⟩ :=
            popOutput_withChunks same readBytes
          have answer := outcome_perform_read clamped
          have otherAnswer :=
            @outcome_perform_read len readBytes
              (stream.withChunks buffers) clamped
          rw [sameOutcome, peeked] at otherAnswer
          refine ⟨otherAnswer.trans answer.symm, ?_⟩
          simp only [act, invoke, finalState_perform_read]
          rw [← clamped] at alike
          exact alike
      | peekOutput len =>
          refine ⟨?_, alike_withChunks same⟩
          simp only [invoke, perform, outcome, peeked]
      | popOutput len =>
          obtain ⟨sameOutcome, alike⟩ := popOutput_withChunks same len
          simp only [act, invoke, finalState_perform_popOutput]
          rw [outcome_perform_popOutput, outcome_perform_popOutput,
            sameOutcome]
          exact ⟨rfl, alike⟩
      | endInput =>
          exact ⟨rfl, alike_withChunks same⟩

end Rechunked

/-- Streams that differ in their chunks at most respond alike for ever. -/
theorem Alike.outputs_eq
    {first second : ByteStream}
    (alike : Alike first second)
    (calls : List Call) :
    Execution.outputs act respond first calls =
      Execution.outputs act respond second calls := by
  refine Execution.outputs_of_bisimulation Alike ?_ ?_ alike calls
  · intro first second call alike
    obtain ⟨buffers, rfl, same⟩ := alike.eq_withChunks
    obtain ⟨sameOutcome, next⟩ := invoke_withChunks same call
    rw [respond, respond, sameOutcome, next]
  · intro first second call alike
    obtain ⟨buffers, rfl, same⟩ := alike.eq_withChunks
    exact (invoke_withChunks same call).2

/-- A pop of what is buffered, or one that finds nothing buffered. -/
def Call.Gentle
    (stream : ByteStream) :
    Call → Prop
  | .method (.popOutput len) =>
      len ≤ stream.bufferSize ∨ stream.bufferSize = 0
  | _ => True

section Gentle

variable {stream : ByteStream}

/-- A failed pop of an empty stream only drops empty chunks. -/
theorem Valid.popOutput_of_empty
    (valid : stream.Valid)
    (empty : stream.bufferSize = 0) :
    Alike stream { stream with stream := [] } := by
  refine alike_withChunks ?_
  have nothing : stream.contents.length = 0 :=
    valid.sizeExact.trans empty
  exact (List.length_eq_zero_iff.mp nothing).symm

theorem Alike.valid
    {first second : ByteStream}
    (alike : Alike first second)
    (valid : first.Valid) :
    second.Valid := by
  obtain ⟨buffers, rfl, same⟩ := alike.eq_withChunks
  exact ⟨(congrArg List.length same).trans valid.sizeExact,
    valid.withinCapacity, valid.accounting⟩

/-- Gentle calls keep the counters in step with the chunks. -/
theorem Valid.act
    (valid : stream.Valid)
    {call : Call}
    (gentle : call.Gentle stream) :
    (stream.act call).Valid := by
  have represents :
      stream.Represents
        { capacity := stream.mCapacity
          items := stream.contents
          closed := stream.endFlag
          bounded :=
            Nat.le_trans (Nat.le_of_eq valid.sizeExact)
              valid.withinCapacity } :=
    ⟨valid, rfl, rfl, rfl⟩
  have returns :
      ∀ op : Op,
        op.WithinBuffer stream →
        (stream.act (.method op)).Valid := by
    intro op within
    obtain ⟨rest, performed, represented⟩ := represents.perform within
    rw [ByteStream.act, invoke, performed]
    exact represented.valid
  cases call with
  | setError =>
      exact valid.setError
  | method op =>
      cases op with
      | popOutput len =>
          by_cases within : len ≤ stream.bufferSize
          · exact returns (.popOutput len) within
          · have empty := gentle.resolve_left within
            have short : stream.contents.length < len := by
              rw [valid.sizeExact]
              exact Nat.not_le.mp within
            simp only [ByteStream.act, invoke,
              finalState_perform_popOutput]
            rw [popOutput_of_short short]
            exact (valid.popOutput_of_empty empty).valid valid
      | write data => exact returns (.write data) trivial
      | read len => exact returns (.read len) trivial
      | peekOutput len => exact returns (.peekOutput len) trivial
      | endInput => exact returns .endInput trivial

theorem valid_reached
    (capacity : Nat)
    {calls : List Call}
    (gentle :
      Execution.EveryStep act (fun stream call => call.Gentle stream)
        (new capacity) calls) :
    (reached capacity calls).Valid :=
  Execution.EveryStep.invariant Valid
    (fun _ _ valid allowed => valid.act allowed)
    (valid_new capacity) gentle

end Gentle

/--
After calls that never pop more than is buffered from a stream that has anything
buffered, a pop throws exactly if it asks for more than is buffered, and it then
leaves the stream intact exactly if nothing was buffered.
-/
theorem failed_pop_intact_iff
    (capacity : Nat)
    (calls : List Call)
    (gentle :
      Execution.EveryStep act (fun stream call => call.Gentle stream)
        (new capacity) calls)
    (len : Nat) :
    let stream := reached capacity calls
    (returned (stream.popOutput len) = none ↔
        stream.bufferSize < len) ∧
      ((returned (stream.popOutput len) = none →
          Intact stream (finalState (stream.popOutput len))) ↔
        len ≤ stream.bufferSize ∨ stream.bufferSize = 0) := by
  intro stream
  have valid : stream.Valid := valid_reached capacity gentle
  have counted : stream.contents.length = stream.bufferSize :=
    valid.sizeExact
  by_cases enough : len ≤ stream.bufferSize
  · have returns : returned (stream.popOutput len) ≠ none := by
      obtain ⟨buffers, popped, _⟩ := valid.popOutput_ok enough
      rw [popped]
      simp [returned]
    exact ⟨iff_of_false returns (Nat.not_lt.mpr enough),
      iff_of_true (fun throws => (returns throws).elim) (.inl enough)⟩
  · have short := Nat.not_le.mp enough
    have throws := popOutput_of_short (counted ▸ short)
    rw [throws]
    refine ⟨iff_of_true rfl short, ?_⟩
    simp only [enough, false_or]
    constructor
    · intro intact
      have lost := (intact rfl).contents
      rw [← counted, ← lost]
      rfl
    · intro empty _
      have alike := valid.popOutput_of_empty empty
      obtain ⟨buffers, same, contents⟩ := alike.eq_withChunks
      exact {
        contents := by
          rw [finalState, same]
          exact contents
        bufferSize := rfl
        bytesRead := rfl
        later := fun later => (alike.outputs_eq later).symm }

/-- Popping from a stream that holds an empty chunk and nothing else. -/
theorem failed_pop_intact_iff_empty :
    let stream := reached 4 [.method (.write [])]
    stream.stream.length = 1 ∧
      returned (stream.popOutput 3) = none ∧
      Intact stream (finalState (stream.popOutput 3)) := by
  have gentle :
      Execution.EveryStep act (fun stream call => call.Gentle stream)
        (new 4) [.method (.write [])] :=
    ⟨trivial, trivial⟩
  obtain ⟨throws, intact⟩ :=
    failed_pop_intact_iff 4 [.method (.write [])] gentle 3
  have thrown := throws.mpr (by decide)
  exact ⟨by decide, thrown, intact.mpr (.inr (by decide)) thrown⟩

/--
A pop of three of two bytes throws and loses both; the count still says two, so
that the next read throws as well.
-/
theorem failed_pop_loses_bytes :
    let stream := reached 4 [.method (.write [97, 98])]
    let after := finalState (stream.popOutput 3)
    returned (stream.popOutput 3) = none ∧
      stream.contents = [97, 98] ∧
      after.contents = [] ∧
      after.bufferSize = 2 ∧
      returned (stream.readResult 2) = some [97, 98] ∧
      returned (after.readResult 2) = none := by
  decide

end Sponge.ByteStream
