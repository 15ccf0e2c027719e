import Mathlib.Data.List.TakeWhile
import Sponge.ByteStream
import Sponge.EventLoop
import Sponge.FdAdapter

namespace Sponge

/-!
# Copying between a socket and the standard streams

`bidirectional_stream_copy` moves bytes from the standard input to a socket and
from the socket to the standard output, through a byte stream each way, by four
rules of an event loop.  Each stream is filled from one descriptor and emptied
into another.
-/

namespace BidirectionalStreamCopy

/-- How much is written at once, at most. -/
def maxCopyLength : Nat := 65536

/-- The capacity of each of the two streams. -/
def bufferSize : Nat := 1048576

end BidirectionalStreamCopy

/-- The variables that the rules share. -/
structure BidirectionalStreamCopy where
  socket : FileDescriptor Bytes := {}
  input : FileDescriptor Bytes := {}
  output : FileDescriptor Bytes := {}
  outbound : ByteStream := .new BidirectionalStreamCopy.bufferSize
  inbound : ByteStream := .new BidirectionalStreamCopy.bufferSize
  outboundShutdown : Bool := false
  inboundShutdown : Bool := false

namespace BidirectionalStreamCopy

/-- What the kernel answers to the calls of a callback. -/
structure Kernel where
  /-- The bytes that are read, given how many are asked for. -/
  read : Nat → SystemCall Bytes
  /-- How many bytes are taken, given how many there are. -/
  write : Nat → SystemCall Nat
  shutdown : SystemCall Unit
  close : SystemCall Unit

/-! ## The rules -/

section Callbacks

variable (kernel : Kernel)

/-- Read from a descriptor into a stream, and end the stream at its end. -/
def readInto
    (fd : FileDescriptor Bytes)
    (stream : ByteStream) :
    EStateM.Result StdException (FileDescriptor Bytes × ByteStream) Unit :=
  let limit := stream.remainingCapacity
  match fd.read limit
      (kernel.read (min FileDescriptor.bufferSize limit)) with
  | .error thrown fd => .error thrown (fd, stream)
  | .ok data fd =>
      let stream := (stream.write data).2
      if fd.eof then
        .ok () (fd, stream.endInput)
      else
        .ok () (fd, stream)

/-- Write from a stream to a descriptor, and pop what was written. -/
def writeFrom
    (stream : ByteStream)
    (fd : FileDescriptor Bytes) :
    EStateM.Result StdException (FileDescriptor Bytes × ByteStream) Unit :=
  let bytesToWrite := min maxCopyLength stream.bufferSize
  let buffer := stream.peekOutput bytesToWrite
  match fd.write (.ofString buffer) false
      (fun _ => kernel.write buffer.length) with
  | .error thrown fd => .error thrown (fd, stream)
  | .ok bytesWritten fd =>
      ofPart (fun stream => (fd, stream)) (stream.popOutput bytesWritten)

/--
Write from a stream to a descriptor, and finish with the descriptor when the
stream is at its end.
-/
def writeOut
    (finish :
      FileDescriptor Bytes →
      EStateM.Result StdException (FileDescriptor Bytes) Unit)
    (stream : ByteStream)
    (fd : FileDescriptor Bytes)
    (shutdown : Bool) :
    EStateM.Result StdException
      (FileDescriptor Bytes × ByteStream × Bool) Unit :=
  match writeFrom kernel stream fd with
  | .error thrown (fd, stream) => .error thrown (fd, stream, shutdown)
  | .ok _ (fd, stream) =>
      if stream.eof then
        match finish fd with
        | .error thrown fd => .error thrown (fd, stream, shutdown)
        | .ok _ fd => .ok () (fd, stream, true)
      else
        .ok () (fd, stream, shutdown)

variable (copy : BidirectionalStreamCopy)

/-- Rule 1: read from the standard input into the outbound stream. -/
def readInput :
    EStateM.Result StdException BidirectionalStreamCopy Unit :=
  ofPart (fun part => { copy with input := part.1, outbound := part.2 })
    (readInto kernel copy.input copy.outbound)

/-- Rule 2: write from the outbound stream to the socket. -/
def writeSocket :
    EStateM.Result StdException BidirectionalStreamCopy Unit :=
  ofPart
    (fun part =>
      { copy with
        socket := part.1
        outbound := part.2.1
        outboundShutdown := part.2.2 })
    (writeOut kernel (·.shutdown .wr kernel.shutdown) copy.outbound
      copy.socket copy.outboundShutdown)

/-- Rule 3: read from the socket into the inbound stream. -/
def readSocket :
    EStateM.Result StdException BidirectionalStreamCopy Unit :=
  ofPart (fun part => { copy with socket := part.1, inbound := part.2 })
    (readInto kernel copy.socket copy.inbound)

/-- Rule 4: write from the inbound stream to the standard output. -/
def writeOutput :
    EStateM.Result StdException BidirectionalStreamCopy Unit :=
  ofPart
    (fun part =>
      { copy with
        output := part.1
        inbound := part.2.1
        inboundShutdown := part.2.2 })
    (writeOut kernel (·.close kernel.close) copy.inbound copy.output
      copy.inboundShutdown)

end Callbacks

/-- There is room in a stream, and neither stream has an error. -/
def readable (stream other : ByteStream) : Bool :=
  !stream.error && decide (stream.remainingCapacity > 0) && !other.error

/-- There is something to write, or the end to tell of. -/
def writable (stream : ByteStream) (shutdown : Bool) : Bool :=
  !stream.bufferEmpty || (stream.eof && !shutdown)

/-- No more is read for the socket. -/
def endOutbound (copy : BidirectionalStreamCopy) :
    BidirectionalStreamCopy :=
  { copy with outbound := copy.outbound.endInput }

/-- No more is read from the socket. -/
def endInbound (copy : BidirectionalStreamCopy) :
    BidirectionalStreamCopy :=
  { copy with inbound := copy.inbound.endInput }

/-- A rule over the variables. -/
abbrev Rule : Type := EventLoop.Rule BidirectionalStreamCopy Kernel

/-- Rule 1 is wanted while there is room for what is read. -/
def inputRule : Rule where
  fd copy := copy.input.toFDWrapper
  direction := .In
  callback := readInput
  interest copy := readable copy.outbound copy.inbound
  cancel := endOutbound

/-- Rule 2 is wanted while there is something for the socket. -/
def socketOutRule : Rule where
  fd copy := copy.socket.toFDWrapper
  direction := .Out
  callback := writeSocket
  interest copy := writable copy.outbound copy.outboundShutdown
  cancel := endOutbound

/-- Rule 3 is wanted while there is room for what the socket sends. -/
def socketInRule : Rule where
  fd copy := copy.socket.toFDWrapper
  direction := .In
  callback := readSocket
  interest copy := readable copy.inbound copy.outbound
  cancel := endInbound

/-- Rule 4 is wanted while there is something for the output. -/
def outputRule : Rule where
  fd copy := copy.output.toFDWrapper
  direction := .Out
  callback := writeOutput
  interest copy := writable copy.inbound copy.inboundShutdown
  cancel := endInbound

/-- The rules, in the order in which they are added. -/
def rules : List Rule :=
  [inputRule, socketOutRule, socketInRule, outputRule]

/-! ## The loop -/

/-- Whether the function has returned or thrown. -/
inductive Phase where
  | running
  | returned
  | failed (thrown : StdException)
  deriving DecidableEq

/-- The variables, and the rules that have not been cancelled. -/
structure Loop where
  copy : BidirectionalStreamCopy := {}
  rules : List Rule := BidirectionalStreamCopy.rules
  phase : Phase := .running

/-- One turn of the loop. -/
def Loop.step
    (loop : Loop)
    (poll : EventLoop.Poll Kernel) : Loop :=
  match loop.phase with
  | .running =>
      match EventLoop.waitNextEvent poll loop.rules loop.copy with
      | .error thrown (rules, copy) =>
          { rules, copy, phase := .failed thrown }
      | .ok .exit (rules, copy) => { rules, copy, phase := .returned }
      | .ok _ (rules, copy) => { rules, copy }
  | _ => loop

/-! ## One direction -/

/-- What was read before the end of the file. -/
def beforeEnd (received : List Bytes) : Bytes :=
  (received.takeWhile (!·.isEmpty)).flatten

theorem takeWhile_of_not_mem
    {received : List Bytes}
    (unended : [] ∉ received) :
    received.takeWhile (!·.isEmpty) = received := by
  refine List.takeWhile_eq_self_iff.mpr fun chunk member => ?_
  have nonempty : chunk ≠ [] := fun same => unended (same ▸ member)
  simpa using nonempty

theorem beforeEnd_append_of_not_mem
    {received : List Bytes}
    (unended : [] ∉ received)
    (data : Bytes) :
    beforeEnd (received ++ [data]) = beforeEnd received ++ data := by
  have all := takeWhile_of_not_mem unended
  rw [beforeEnd, beforeEnd, all, List.takeWhile_append_of_pos]
  · cases data <;> simp
  · exact List.takeWhile_eq_self_iff.mp all

theorem beforeEnd_append_of_mem
    {received : List Bytes}
    (ended : [] ∈ received)
    (data : Bytes) :
    beforeEnd (received ++ [data]) = beforeEnd received := by
  rw [beforeEnd, beforeEnd, List.takeWhile_append, if_neg]
  intro whole
  have all := (List.takeWhile_prefix _).eq_of_length whole
  have nonempty := List.takeWhile_eq_self_iff.mp all [] ended
  cases nonempty

theorem beforeEnd_grows
    (received : List Bytes)
    (data : Bytes) :
    beforeEnd received <+: beforeEnd (received ++ [data]) := by
  by_cases ended : [] ∈ received
  · exact ⟨[], by rw [beforeEnd_append_of_mem ended, List.append_nil]⟩
  · exact ⟨data, (beforeEnd_append_of_not_mem ended data).symm⟩

/-- The kernel returns no more than was asked for. -/
def Kernel.Faithful (kernel : Kernel) : Prop :=
  ∀ {asked data}, kernel.read asked = .ok data → data.length ≤ asked

section Parts

variable {kernel : Kernel} {fd : FileDescriptor Bytes}
variable {stream : ByteStream}

/-- Reading fails and changes nothing, or a chunk comes in. -/
theorem readInto_cases
    (faithful : kernel.Faithful)
    (room : stream.remainingCapacity > 0) :
    (∃ thrown,
      readInto kernel fd stream = .error thrown (fd, stream)) ∨
      ∃ data next,
        data.length ≤ stream.remainingCapacity ∧
          next.received = fd.received ++ [data] ∧
          next.sent = fd.sent ∧
          next.closed = fd.closed ∧
          next.eof = (fd.eof || data.isEmpty) ∧
          readInto kernel fd stream =
            .ok ()
              (next,
                if next.eof then
                  (stream.write data).2.endInput
                else
                  (stream.write data).2) := by
  unfold readInto
  cases answer :
      kernel.read (min FileDescriptor.bufferSize
        stream.remainingCapacity) with
  | error thrown =>
      exact .inl ⟨thrown, by simp only [answer]; rfl⟩
  | ok data =>
      have fits := faithful answer
      obtain ⟨next, read, received, sent, closed, _, eof⟩ :=
        fd.read_of_le fits
      rw [decide_eq_true room, Bool.true_and] at eof
      refine .inr ⟨data, next, fits.trans (Nat.min_le_right _ _),
        received, sent, closed, eof, ?_⟩
      simp only [answer, read]
      split <;> rfl

/-- Writing fails and changes nothing, or the front of the stream goes out. -/
theorem writeFrom_cases
    (valid : stream.Valid)
    (kernel : Kernel)
    (fd : FileDescriptor Bytes) :
    (∃ thrown,
      writeFrom kernel stream fd = .error thrown (fd, stream)) ∨
      ∃ count popped,
        popped.Valid ∧
          popped.contents = stream.contents.drop count ∧
          popped.endFlag = stream.endFlag ∧
          popped.error = stream.error ∧
          popped.mCapacity = stream.mCapacity ∧
          writeFrom kernel stream fd =
            .ok () (fd.took (stream.contents.take count), popped) := by
  have size :
      (BufferViewList.ofString
        (stream.peekOutput (min maxCopyLength stream.bufferSize))).size =
        min maxCopyLength stream.bufferSize := by
    rw [BufferViewList.size_eq_length, BufferViewList.content_ofString]
    have exact := valid.sizeExact
    rw [ByteStream.contents] at exact
    simp only [ByteStream.peekOutput, ByteStream.bufferSize,
      List.length_take]
    omega
  rcases FileDescriptor.write_once
      (.ofString (stream.peekOutput (min maxCopyLength stream.bufferSize)))
      (kernel.write
        (stream.peekOutput
          (min maxCopyLength stream.bufferSize)).length) fd with
    ⟨thrown, threw⟩ | ⟨count, _, enough, wrote⟩
  · exact .inl ⟨thrown, by simp only [writeFrom, threw]⟩
  · rw [size] at enough
    have available : count ≤ stream.size :=
      enough.trans (Nat.min_le_right _ _)
    obtain ⟨buffers, pop, dropped⟩ := valid.popOutput_ok available
    have taken :
        (stream.peekOutput
          (min maxCopyLength stream.bufferSize)).take count =
          stream.contents.take count := by
      rw [ByteStream.peekOutput, List.take_take, Nat.min_eq_left enough]
      rfl
    have counted := valid.accounting
    have fits := valid.withinCapacity
    have shorter : buffers.concatenate.length = stream.size - count := by
      rw [dropped, List.length_drop, valid.sizeExact]
    refine .inr ⟨count,
      { stream with
        stream := buffers
        size := stream.size - count
        bytesR := stream.bytesR + count },
      ⟨shorter, (Nat.sub_le _ _).trans fits, ?_⟩, dropped, rfl, rfl, rfl,
      ?_⟩
    · simp only
      omega
    · rw [BufferViewList.content_ofString, taken] at wrote
      simp only [writeFrom, wrote, pop, ofPart]

end Parts

/--
A stream between what one descriptor received and what another sent.  Nothing is
lost or out of order while the stream is open; once it has ended, what comes in
is dropped.
-/
structure Copies
    (received sent : List Bytes)
    (stream : ByteStream) : Prop where
  valid : stream.Valid
  faultless : stream.error = false
  capacity : stream.mCapacity = bufferSize
  ordered : sent.flatten ++ stream.contents <+: beforeEnd received
  whole :
    stream.endFlag = false →
    sent.flatten ++ stream.contents = beforeEnd received ∧ [] ∉ received

/-- A stream that only the end of the file has ended. -/
structure CopiesAll
    (received sent : List Bytes)
    (stream : ByteStream)
    (eof : Bool) : Prop extends Copies received sent stream where
  all : sent.flatten ++ stream.contents = beforeEnd received
  ended : stream.endFlag = true → [] ∈ received
  noticed : eof = true → stream.endFlag = true

theorem copies_new :
    CopiesAll [] [] (.new bufferSize) false where
  valid := ByteStream.valid_new bufferSize
  faultless := rfl
  capacity := rfl
  ordered := List.prefix_rfl
  whole := by
    intro _
    exact ⟨rfl, List.not_mem_nil⟩
  all := rfl
  ended := by
    intro ended
    cases ended
  noticed := by
    intro noticed
    cases noticed

section Directions

variable {received sent : List Bytes} {stream : ByteStream} {eof : Bool}
variable {kernel : Kernel} {fd : FileDescriptor Bytes}

/-- A stream that is ended early keeps what it holds in order. -/
theorem Copies.endInput
    (copies : Copies received sent stream) :
    Copies received sent stream.endInput where
  valid := copies.valid.endInput
  faultless := copies.faultless
  capacity := copies.capacity
  ordered := copies.ordered
  whole := by
    intro opened
    cases opened

/-- Ending a stream that has ended changes nothing. -/
theorem endInput_of_ended
    (ended : stream.endFlag = true) :
    stream.endInput = stream := by
  cases stream
  cases ended
  rfl

theorem write_ended
    (ended : stream.endFlag = true)
    (data : Bytes) :
    (stream.write data).2 = stream := by
  rw [ByteStream.write, if_pos ended]

/-- While a stream is open, all that is read is stored. -/
theorem write_open
    (opened : stream.endFlag = false)
    {data : Bytes}
    (fits : data.length ≤ stream.remainingCapacity) :
    (stream.write data).2.contents = stream.contents ++ data := by
  have all : stream.accepted data = data.length := by
    simp only [ByteStream.accepted, opened, Bool.false_eq_true, if_false]
    omega
  rw [ByteStream.write_contents, all, List.take_length]

theorem Copies.stored
    (copies : Copies received sent stream)
    {data : Bytes}
    (fits : data.length ≤ stream.remainingCapacity)
    (opened : stream.endFlag = false) :
    sent.flatten ++ (stream.write data).2.contents =
      beforeEnd (received ++ [data]) := by
  obtain ⟨whole, unended⟩ := copies.whole opened
  rw [write_open opened fits, ← List.append_assoc, whole,
    beforeEnd_append_of_not_mem unended]

theorem Copies.ordered_write
    (copies : Copies received sent stream)
    {data : Bytes}
    (fits : data.length ≤ stream.remainingCapacity) :
    sent.flatten ++ (stream.write data).2.contents <+:
      beforeEnd (received ++ [data]) := by
  cases opened : stream.endFlag with
  | true =>
      rw [write_ended opened]
      exact copies.ordered.trans (beforeEnd_grows received data)
  | false =>
      exact ⟨[], by rw [copies.stored fits opened, List.append_nil]⟩

/-- A stream is filled from its descriptor. -/
theorem Copies.readInto
    (copies : Copies fd.received sent stream)
    (faithful : kernel.Faithful)
    (room : stream.remainingCapacity > 0) :
    let after := finalState (readInto kernel fd stream)
    Copies after.1.received sent after.2 := by
  intro after
  rcases @readInto_cases kernel fd stream faithful room with
    ⟨thrown, threw⟩ | ⟨data, next, fits, received, _, _, eof, read⟩
  · have same : after = (fd, stream) := congrArg finalState threw
    rw [same]
    exact copies
  have same :
      after =
        (next,
          if next.eof then
            (stream.write data).2.endInput
          else
            (stream.write data).2) :=
    congrArg finalState read
  rw [same]
  dsimp only
  rw [received]
  have valid := copies.valid.write data
  have faultless :=
    (ByteStream.write_error data stream).trans copies.faultless
  have capacity :=
    (ByteStream.write_mCapacity data stream).trans copies.capacity
  have ordered := copies.ordered_write fits
  split
  · refine ⟨valid.endInput, faultless, capacity, ordered, ?_⟩
    intro opened
    cases opened
  · rename_i more
    refine ⟨valid, faultless, capacity, ordered, ?_⟩
    intro opened
    rw [ByteStream.write_endFlag] at opened
    refine ⟨copies.stored fits opened, ?_⟩
    have nonempty : [] ≠ data := by
      rintro rfl
      rw [eof, List.isEmpty_nil, Bool.or_true] at more
      exact more rfl
    rw [List.mem_append, List.mem_singleton, not_or]
    exact ⟨(copies.whole opened).2, nonempty⟩

theorem CopiesAll.readInto
    (copies : CopiesAll fd.received sent stream fd.eof)
    (faithful : kernel.Faithful)
    (room : stream.remainingCapacity > 0) :
    let after := finalState (readInto kernel fd stream)
    CopiesAll after.1.received sent after.2 after.1.eof := by
  intro after
  have kept := copies.toCopies.readInto faithful room
  rcases @readInto_cases kernel fd stream faithful room with
    ⟨thrown, threw⟩ | ⟨data, next, fits, received, _, _, eof, read⟩
  · have same : after = (fd, stream) := congrArg finalState threw
    rw [same]
    exact copies
  have same :
      after =
        (next,
          if next.eof then
            (stream.write data).2.endInput
          else
            (stream.write data).2) :=
    congrArg finalState read
  change Copies after.1.received sent after.2 at kept
  rw [same] at kept ⊢
  dsimp only at kept ⊢
  have all :
      sent.flatten ++ (stream.write data).2.contents =
        beforeEnd (fd.received ++ [data]) := by
    cases opened : stream.endFlag with
    | true =>
        rw [write_ended opened, copies.all,
          beforeEnd_append_of_mem (copies.ended opened)]
    | false =>
        exact copies.stored fits opened
  refine ⟨kept, ?_, ?_, ?_⟩
  · rw [received]
    split <;> exact all
  · intro ended
    rw [received, List.mem_append, List.mem_singleton]
    cases opened : stream.endFlag with
    | true =>
        exact .inl (copies.ended opened)
    | false =>
        -- the stream was open, so this read has ended it
        have unnoticed : fd.eof = false := by
          by_contra noticed
          have was := copies.noticed (Bool.of_not_eq_false noticed)
          rw [opened] at was
          cases was
        split at ended
        · rename_i atEnd
          rw [eof, unnoticed, Bool.false_or] at atEnd
          exact .inr (List.isEmpty_iff.mp atEnd).symm
        · rw [ByteStream.write_endFlag, opened] at ended
          cases ended
  · intro noticed
    rw [if_pos noticed]
    rfl

/-- A stream is emptied into its descriptor. -/
theorem Copies.writeFrom
    (copies : Copies received fd.sent stream)
    (kernel : Kernel) :
    let after := finalState (writeFrom kernel stream fd)
    Copies received after.1.sent after.2 := by
  intro after
  rcases writeFrom_cases copies.valid kernel fd with
    ⟨thrown, threw⟩ |
    ⟨count, popped, valid, dropped, endFlag, error, capacity, wrote⟩
  · have same : after = (fd, stream) := congrArg finalState threw
    rw [same]
    exact copies
  have same : after = (fd.took (stream.contents.take count), popped) :=
    congrArg finalState wrote
  rw [same]
  dsimp only
  have moved :
      (fd.took (stream.contents.take count)).sent.flatten ++
          popped.contents = fd.sent.flatten ++ stream.contents := by
    rw [dropped]
    simp [FileDescriptor.took]
  refine ⟨valid, error.trans copies.faultless,
    capacity.trans copies.capacity, ?_, ?_⟩
  · rw [moved]
    exact copies.ordered
  · rw [moved, endFlag]
    exact copies.whole

theorem CopiesAll.writeFrom
    (copies : CopiesAll received fd.sent stream eof)
    (kernel : Kernel) :
    let after := finalState (writeFrom kernel stream fd)
    CopiesAll received after.1.sent after.2 eof := by
  intro after
  have kept := copies.toCopies.writeFrom kernel
  rcases writeFrom_cases copies.valid kernel fd with
    ⟨thrown, threw⟩ | ⟨count, popped, _, dropped, endFlag, _, _, wrote⟩
  · have same : after = (fd, stream) := congrArg finalState threw
    rw [same]
    exact copies
  have same : after = (fd.took (stream.contents.take count), popped) :=
    congrArg finalState wrote
  change Copies received after.1.sent after.2 at kept
  rw [same] at kept ⊢
  refine ⟨kept, ?_, endFlag ▸ copies.ended, endFlag ▸ copies.noticed⟩
  rw [dropped, ← copies.all]
  simp [FileDescriptor.took]

/-- How a descriptor is left when its stream is written and finished with. -/
theorem writeOut_leaves
    (kernel : Kernel)
    (finish :
      FileDescriptor Bytes →
      EStateM.Result StdException (FileDescriptor Bytes) Unit)
    (stream : ByteStream)
    (fd : FileDescriptor Bytes)
    (shutdown : Bool) :
    let written := finalState (BidirectionalStreamCopy.writeFrom kernel stream fd)
    let next :=
      finalState
        (BidirectionalStreamCopy.writeOut kernel finish stream fd shutdown)
    next = (written.1, written.2, shutdown) ∨
      (∃ thrown after,
        finish written.1 = .error thrown after ∧
          next = (after, written.2, shutdown)) ∨
      ∃ after,
        written.2.eof = true ∧
          finish written.1 = .ok () after ∧
          next = (after, written.2, true) := by
  intro written next
  cases wrote : BidirectionalStreamCopy.writeFrom kernel stream fd with
  | error thrown left =>
      have same : written = left := congrArg finalState wrote
      refine .inl ?_
      rw [same]
      simp only [next, writeOut, wrote]
      rfl
  | ok _ left =>
      have same : written = left := congrArg finalState wrote
      rw [same]
      simp only [next, writeOut, wrote]
      split
      · rename_i ended
        cases finished : finish left.1 with
        | error thrown after =>
            exact .inr (.inl ⟨thrown, after, rfl, rfl⟩)
        | ok _ after =>
            exact .inr (.inr ⟨after, ended, rfl, rfl⟩)
      · exact .inl rfl

theorem writeOut_stream
    (kernel : Kernel)
    (finish :
      FileDescriptor Bytes →
      EStateM.Result StdException (FileDescriptor Bytes) Unit)
    (stream : ByteStream)
    (fd : FileDescriptor Bytes)
    (shutdown : Bool) :
    (finalState (writeOut kernel finish stream fd shutdown)).2.1 =
      (finalState
        (BidirectionalStreamCopy.writeFrom kernel stream fd)).2 := by
  rcases writeOut_leaves kernel finish stream fd shutdown with
    left | ⟨_, _, _, left⟩ | ⟨_, _, _, left⟩ <;>
  · rw [left]

/-- What finishing keeps of a descriptor holds after writing. -/
theorem writeOut_fd
    {finish :
      FileDescriptor Bytes →
      EStateM.Result StdException (FileDescriptor Bytes) Unit}
    (holds : FileDescriptor Bytes → Prop)
    (finishes : ∀ fd, holds fd → holds (finalState (finish fd)))
    (written :
      holds
        (finalState
          (BidirectionalStreamCopy.writeFrom kernel stream fd)).1)
    (shutdown : Bool) :
    holds (finalState (writeOut kernel finish stream fd shutdown)).1 := by
  have final := finishes _ written
  rcases writeOut_leaves kernel finish stream fd shutdown with
    left | ⟨_, _, threw, left⟩ | ⟨_, _, finished, left⟩
  · rw [left]
    exact written
  · rw [left]
    rw [threw] at final
    exact final
  · rw [left]
    rw [finished] at final
    exact final

/-- Reading does not touch what goes out at a descriptor. -/
theorem readInto_fd
    (kernel : Kernel)
    (fd : FileDescriptor Bytes)
    (stream : ByteStream) :
    let after :=
      finalState (BidirectionalStreamCopy.readInto kernel fd stream)
    after.1.sent = fd.sent ∧
      after.1.shutdowns = fd.shutdowns ∧
      after.1.closed = fd.closed ∧
      (fd.eof = true → after.1.eof = true) := by
  intro after
  have frame :=
    fd.read_frame stream.remainingCapacity
      (kernel.read
        (min FileDescriptor.bufferSize stream.remainingCapacity))
  simp only [after, BidirectionalStreamCopy.readInto]
  cases came :
      fd.read stream.remainingCapacity
        (kernel.read
          (min FileDescriptor.bufferSize stream.remainingCapacity)) with
  | error thrown next =>
      rw [came] at frame
      exact frame
  | ok data next =>
      rw [came] at frame
      dsimp only
      split
      · exact frame
      · exact frame

theorem readInto_error
    (kernel : Kernel)
    (fd : FileDescriptor Bytes)
    (stream : ByteStream) :
    (finalState
      (BidirectionalStreamCopy.readInto kernel fd stream)).2.error =
        stream.error := by
  unfold BidirectionalStreamCopy.readInto
  dsimp only
  split
  · rfl
  · split
    · exact ByteStream.write_error _ _
    · exact ByteStream.write_error _ _

/-- Writing does not touch what comes in at a descriptor. -/
theorem writeFrom_fd
    (kernel : Kernel)
    (stream : ByteStream)
    (fd : FileDescriptor Bytes) :
    let after :=
      finalState (BidirectionalStreamCopy.writeFrom kernel stream fd)
    after.1.received = fd.received ∧
      after.1.shutdowns = fd.shutdowns ∧
      after.1.eof = fd.eof ∧ after.1.closed = fd.closed := by
  intro after
  rcases FileDescriptor.write_once
      (.ofString (stream.peekOutput (min maxCopyLength stream.bufferSize)))
      (kernel.write
        (stream.peekOutput
          (min maxCopyLength stream.bufferSize)).length) fd with
    ⟨thrown, threw⟩ | ⟨count, _, _, wrote⟩
  · simp only [after, BidirectionalStreamCopy.writeFrom, threw]
    exact ⟨rfl, rfl, rfl, rfl⟩
  · simp only [after, BidirectionalStreamCopy.writeFrom, wrote,
      finalState_ofPart]
    exact ⟨rfl, rfl, rfl, rfl⟩

/-- What rule 2 does; the socket is only shut down at the end of its stream. -/
theorem writeSocket_leaves
    (kernel : Kernel)
    (copy : BidirectionalStreamCopy) :
    let written :=
      finalState
        (BidirectionalStreamCopy.writeFrom kernel copy.outbound
          copy.socket)
    ∃ socket outboundShutdown,
      finalState (writeSocket kernel copy) =
          { copy with
            socket
            outbound := written.2
            outboundShutdown } ∧
        (socket.sent = written.1.sent ∧
          socket.received = copy.socket.received ∧
          socket.eof = copy.socket.eof ∧
          socket.closed = copy.socket.closed) ∧
        ((socket.shutdowns = copy.socket.shutdowns ∧
            outboundShutdown = copy.outboundShutdown) ∨
          (written.2.eof = true ∧
            socket.shutdowns = copy.socket.shutdowns ++ [.wr] ∧
            outboundShutdown = true)) := by
  intro written
  obtain ⟨received, shutdowns, eof, closed⟩ :=
    writeFrom_fd kernel copy.outbound copy.socket
  let left :=
    finalState
      (writeOut kernel (·.shutdown .wr kernel.shutdown) copy.outbound
        copy.socket copy.outboundShutdown)
  refine ⟨left.1, left.2.2, ?_, ?_, ?_⟩
  · rw [writeSocket, finalState_ofPart, writeOut_stream]
  · refine writeOut_fd
      (fun fd =>
        fd.sent = written.1.sent ∧
          fd.received = copy.socket.received ∧
          fd.eof = copy.socket.eof ∧
          fd.closed = copy.socket.closed) ?_
      ⟨rfl, received, eof, closed⟩ copy.outboundShutdown
    intro fd ⟨sent, received, eof, closed⟩
    obtain ⟨sent', received', eof', closed'⟩ :=
      fd.shutdown_frame .wr kernel.shutdown
    exact ⟨sent'.trans sent, received'.trans received, eof'.trans eof,
      closed'.trans closed⟩
  · have called := written.1.shutdown_cases .wr kernel.shutdown
    rcases writeOut_leaves kernel (·.shutdown .wr kernel.shutdown)
        copy.outbound copy.socket copy.outboundShutdown with
      same | ⟨_, _, threw, same⟩ | ⟨_, atEnd, finished, same⟩
    · have same : left = _ := same
      rw [same]
      exact .inl ⟨shutdowns, rfl⟩
    · have same : left = _ := same
      rw [same]
      rcases called with ⟨_, failed⟩ | ⟨_, done, _⟩
      · cases failed.symm.trans threw
        exact .inl ⟨shutdowns, rfl⟩
      · cases done.symm.trans threw
    · have same : left = _ := same
      rw [same]
      rcases called with ⟨_, failed⟩ | ⟨_, done, recorded⟩
      · cases failed.symm.trans finished
      · cases done.symm.trans finished
        exact .inr ⟨atEnd, recorded.trans (by rw [shutdowns]), rfl⟩

/-- What rule 4 does; the output is only closed at the end of its stream. -/
theorem writeOutput_leaves
    (kernel : Kernel)
    (copy : BidirectionalStreamCopy) :
    let written :=
      finalState
        (BidirectionalStreamCopy.writeFrom kernel copy.inbound
          copy.output)
    ∃ output inboundShutdown,
      finalState (writeOutput kernel copy) =
          { copy with
            output
            inbound := written.2
            inboundShutdown } ∧
        output.sent = written.1.sent ∧
        ((output.closed = copy.output.closed ∧
            inboundShutdown = copy.inboundShutdown) ∨
          (written.2.eof = true ∧
            output.closed = true ∧ inboundShutdown = true)) := by
  intro written
  have unclosed := (writeFrom_fd kernel copy.inbound copy.output).2.2.2
  let left :=
    finalState
      (writeOut kernel (·.close kernel.close) copy.inbound copy.output
        copy.inboundShutdown)
  refine ⟨left.1, left.2.2, ?_, ?_, ?_⟩
  · rw [writeOutput, finalState_ofPart, writeOut_stream]
  · exact writeOut_fd (fun fd => fd.sent = written.1.sent)
      (fun fd sent => (fd.close_sent kernel.close).trans sent) rfl
      copy.inboundShutdown
  · have called := written.1.close_cases kernel.close
    rcases writeOut_leaves kernel (·.close kernel.close) copy.inbound
        copy.output copy.inboundShutdown with
      same | ⟨_, _, threw, same⟩ | ⟨_, atEnd, finished, same⟩
    · have same : left = _ := same
      rw [same]
      exact .inl ⟨unclosed, rfl⟩
    · have same : left = _ := same
      rw [same]
      rcases called with ⟨_, failed⟩ | ⟨_, done, _⟩
      · cases failed.symm.trans threw
        exact .inl ⟨unclosed, rfl⟩
      · cases done.symm.trans threw
    · have same : left = _ := same
      rw [same]
      rcases called with ⟨_, failed⟩ | ⟨_, done, closed⟩
      · cases failed.symm.trans finished
      · cases done.symm.trans finished
        exact .inr ⟨atEnd, closed, rfl⟩

theorem writeOut_error
    (kernel : Kernel)
    (finish :
      FileDescriptor Bytes →
      EStateM.Result StdException (FileDescriptor Bytes) Unit)
    (stream : ByteStream)
    (fd : FileDescriptor Bytes)
    (shutdown : Bool) :
    (finalState
      (writeOut kernel finish stream fd shutdown)).2.1.error =
        stream.error := by
  have written :
      (finalState
        (BidirectionalStreamCopy.writeFrom kernel stream fd)).2.error =
          stream.error := by
    unfold BidirectionalStreamCopy.writeFrom
    dsimp only
    split
    · rfl
    · rw [finalState_ofPart]
      exact (ByteStream.popOutput_frame _ stream).2.2.2
  rcases writeOut_leaves kernel finish stream fd shutdown with
    left | ⟨thrown, after, _, left⟩ | ⟨after, _, _, left⟩ <;>
  · rw [left]
    exact written

end Directions

end BidirectionalStreamCopy

end Sponge
