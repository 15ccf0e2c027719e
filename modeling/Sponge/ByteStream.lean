import Sponge.Buffer
import Sponge.MachineWord

namespace Sponge

/-!
# The flow-controlled byte stream

`ByteStream` keeps its byte count apart from the queue of chunks it counts.
`ByteStream.Valid` ties the two representations together; every stream built
by the constructor and changed by the methods below satisfies it.
-/

/-- An in-order byte stream of bounded capacity. -/
structure ByteStream where
  endFlag : Bool := false
  mCapacity : Nat
  size : Nat := 0
  stream : BufferList := []
  bytesW : Nat := 0
  bytesR : Nat := 0
  error : Bool := false
  deriving DecidableEq

namespace ByteStream

/-- Construct a stream with room for `capacity` bytes. -/
def new (capacity : Nat) : ByteStream where
  mCapacity := capacity

/-- The number of additional bytes the stream has space for. -/
def remainingCapacity (stream : ByteStream) : Nat :=
  sub64 stream.mCapacity stream.size

/-- Write as many bytes as fit, and return how many were written. -/
def write
    (data : Bytes)
    (stream : ByteStream) : Nat × ByteStream :=
  if stream.endFlag then
    (0, stream)
  else
    let writeBytes :=
      if stream.remainingCapacity ≤ data.length then
        stream.remainingCapacity
      else
        data.length
    (writeBytes, { stream with
      stream :=
        stream.stream.append (Buffer.ofString (data.take writeBytes))
      size := stream.size + writeBytes
      bytesW := stream.bytesW + writeBytes })

/-- The next `len` bytes, left in the stream. -/
def peekOutput
    (len : Nat)
    (stream : ByteStream) : Bytes :=
  stream.stream.concatenate.take len

/-- Remove `len` bytes; the counters change only when the removal returns. -/
def popOutput
    (len : Nat)
    (stream : ByteStream) :
    EStateM.Result StdException ByteStream Unit :=
  match stream.stream.removePrefix len with
  | .error thrown buffers =>
      .error thrown { stream with stream := buffers }
  | .ok _ buffers =>
      .ok () { stream with
        stream := buffers
        size := sub64 stream.size len
        bytesR := stream.bytesR + len }

/-- The number of bytes that can be read. -/
def bufferSize (stream : ByteStream) : Nat :=
  stream.size

/--
Copy and then pop the next `len` bytes.  The removal is bounded by the byte
count, so it does not throw on a valid stream (`Valid.popOutput_ok`).
-/
def read
    (len : Nat)
    (stream : ByteStream) : Bytes × ByteStream :=
  let readBytes :=
    if stream.bufferSize ≤ len then
      stream.bufferSize
    else
      len
  (stream.peekOutput readBytes,
    finalState (stream.popOutput readBytes))

/-- Signal that the stream has reached its ending. -/
def endInput (stream : ByteStream) : ByteStream :=
  { stream with endFlag := true }

/-- Indicate that the stream suffered an error. -/
def setError (stream : ByteStream) : ByteStream :=
  { stream with error := true }

/-- The writer has ended the stream. -/
def inputEnded (stream : ByteStream) : Bool :=
  stream.endFlag

/-- Nothing is left to read for now. -/
def bufferEmpty (stream : ByteStream) : Bool :=
  stream.size == 0

/-- The stream has ended and everything was read. -/
def eof (stream : ByteStream) : Bool :=
  stream.endFlag && stream.size == 0

/-- Total number of bytes written. -/
def bytesWritten (stream : ByteStream) : Nat :=
  stream.bytesW

/-- Total number of bytes popped. -/
def bytesRead (stream : ByteStream) : Nat :=
  stream.bytesR

/-- The bytes that are buffered, whatever chunks they are stored in. -/
def contents (stream : ByteStream) : Bytes :=
  stream.stream.concatenate

/-- The counters describe the chunks. -/
structure Valid (stream : ByteStream) : Prop where
  sizeExact :
    stream.contents.length = stream.size
  withinCapacity :
    stream.size ≤ stream.mCapacity
  accounting :
    stream.bytesW = stream.bytesR + stream.size

/-- A new stream is empty and valid. -/
theorem valid_new
    (capacity : Nat) :
    (new capacity).Valid where
  sizeExact := rfl
  withinCapacity := Nat.zero_le capacity
  accounting := rfl

/-- The space is exact as long as the bytes stored fit the capacity. -/
theorem remainingCapacity_of_le
    {stream : ByteStream}
    (fits : stream.size ≤ stream.mCapacity) :
    stream.remainingCapacity = stream.mCapacity - stream.size :=
  sub64_of_le fits

section Write

/-- The number of bytes a write accepts. -/
def accepted
    (data : Bytes)
    (stream : ByteStream) : Nat :=
  if stream.endFlag then
    0
  else
    min stream.remainingCapacity data.length

theorem write_fst
    (data : Bytes)
    (stream : ByteStream) :
    (stream.write data).1 = stream.accepted data := by
  unfold write accepted
  split
  · rfl
  · simp only [Nat.min_def]

variable (data : Bytes) (stream : ByteStream)

@[simp] theorem write_endFlag :
    (stream.write data).2.endFlag = stream.endFlag := by
  unfold write
  split <;> rfl

@[simp] theorem write_mCapacity :
    (stream.write data).2.mCapacity = stream.mCapacity := by
  unfold write
  split <;> rfl

@[simp] theorem write_bytesR :
    (stream.write data).2.bytesR = stream.bytesR := by
  unfold write
  split <;> rfl

@[simp] theorem write_error :
    (stream.write data).2.error = stream.error := by
  unfold write
  split <;> rfl

theorem write_bytesW :
    (stream.write data).2.bytesW =
      stream.bytesW + stream.accepted data := by
  rw [← write_fst]
  unfold write
  split <;> rfl

theorem write_size :
    (stream.write data).2.size =
      stream.size + stream.accepted data := by
  rw [← write_fst]
  unfold write
  split <;> rfl

/-- A write appends exactly the accepted bytes. -/
theorem write_contents :
    (stream.write data).2.contents =
      stream.contents ++ data.take (stream.accepted data) := by
  rw [← write_fst]
  unfold write contents
  split
  · simp
  · simp

theorem accepted_le_length :
    stream.accepted data ≤ data.length := by
  unfold accepted
  split <;> omega

end Write

section Read

variable {stream : ByteStream}

/-- Removing no more than is buffered returns and drops exactly those bytes. -/
theorem Valid.popOutput_ok
    (valid : stream.Valid)
    {len : Nat}
    (enough : len ≤ stream.size) :
    ∃ buffers,
      stream.popOutput len =
          .ok () { stream with
            stream := buffers
            size := stream.size - len
            bytesR := stream.bytesR + len } ∧
        buffers.concatenate = stream.contents.drop len := by
  have available : len ≤ stream.stream.concatenate.length := by
    have exact := valid.sizeExact
    rw [contents] at exact
    omega
  obtain ⟨buffers, removed, dropped⟩ :=
    BufferList.removePrefix_concatenate available
  exact ⟨buffers, by simp only [popOutput, removed, sub64_of_le enough],
    dropped⟩

/-- What a read returns and the stream it leaves. -/
theorem Valid.read_spec
    (valid : stream.Valid)
    (len : Nat) :
    ∃ buffers,
      stream.read len =
          (stream.contents.take len,
            { stream with
              stream := buffers
              size := stream.size - min len stream.size
              bytesR := stream.bytesR + min len stream.size }) ∧
        buffers.concatenate = stream.contents.drop len := by
  have exact := valid.sizeExact
  have readBytes :
      (if stream.bufferSize ≤ len then stream.bufferSize else len) =
        min len stream.size := by
    unfold bufferSize
    split <;> omega
  obtain ⟨buffers, popped, dropped⟩ :=
    valid.popOutput_ok (Nat.min_le_right len stream.size)
  refine ⟨buffers, ?_, ?_⟩
  · simp only [read, readBytes, popped, finalState, peekOutput]
    congr 1
    rw [← exact]
    exact (List.take_eq_take_min).symm
  · rw [dropped, ← exact]
    by_cases short : len ≤ stream.contents.length
    · rw [Nat.min_eq_left short]
    · rw [Nat.min_eq_right (by omega), List.drop_length,
        List.drop_eq_nil_of_le (by omega)]

theorem Valid.read_bytes
    (valid : stream.Valid)
    (len : Nat) :
    (stream.read len).1 = stream.contents.take len := by
  obtain ⟨buffers, spec, _⟩ := valid.read_spec len
  rw [spec]

theorem Valid.read_contents
    (valid : stream.Valid)
    (len : Nat) :
    (stream.read len).2.contents = stream.contents.drop len := by
  obtain ⟨buffers, spec, dropped⟩ := valid.read_spec len
  rw [spec]
  exact dropped

theorem Valid.read_size
    (valid : stream.Valid)
    (len : Nat) :
    (stream.read len).2.size = stream.size - min len stream.size := by
  obtain ⟨buffers, spec, _⟩ := valid.read_spec len
  rw [spec]

theorem Valid.read_bytesR
    (valid : stream.Valid)
    (len : Nat) :
    (stream.read len).2.bytesR = stream.bytesR + min len stream.size := by
  obtain ⟨buffers, spec, _⟩ := valid.read_spec len
  rw [spec]

end Read

section Frame

variable (len : Nat) (stream : ByteStream)

/-- Popping changes neither the writer's side nor the flags. -/
theorem popOutput_frame :
    (finalState (stream.popOutput len)).endFlag = stream.endFlag ∧
      (finalState (stream.popOutput len)).mCapacity = stream.mCapacity ∧
      (finalState (stream.popOutput len)).bytesW = stream.bytesW ∧
      (finalState (stream.popOutput len)).error = stream.error := by
  unfold popOutput
  split <;> exact ⟨rfl, rfl, rfl, rfl⟩

@[simp] theorem read_endFlag :
    (stream.read len).2.endFlag = stream.endFlag :=
  (popOutput_frame _ stream).1

@[simp] theorem read_mCapacity :
    (stream.read len).2.mCapacity = stream.mCapacity :=
  (popOutput_frame _ stream).2.1

@[simp] theorem read_bytesW :
    (stream.read len).2.bytesW = stream.bytesW :=
  (popOutput_frame _ stream).2.2.1

@[simp] theorem read_error :
    (stream.read len).2.error = stream.error :=
  (popOutput_frame _ stream).2.2.2

end Frame

namespace Valid

variable {stream : ByteStream}

/-- Writing keeps the stream valid. -/
theorem write
    (valid : stream.Valid)
    (data : Bytes) :
    (stream.write data).2.Valid := by
  have room := valid.withinCapacity
  have counted := valid.accounting
  have taken := accepted_le_length data stream
  refine ⟨?_, ?_, ?_⟩
  · rw [write_contents, write_size, List.length_append,
      List.length_take, valid.sizeExact]
    omega
  · have fits : stream.accepted data ≤ stream.remainingCapacity := by
      unfold accepted
      split <;> omega
    rw [remainingCapacity_of_le room] at fits
    rw [write_size, write_mCapacity]
    omega
  · rw [write_bytesW, write_bytesR, write_size]
    omega

/-- Reading keeps the stream valid. -/
theorem read
    (valid : stream.Valid)
    (len : Nat) :
    (stream.read len).2.Valid := by
  have room := valid.withinCapacity
  have counted := valid.accounting
  refine ⟨?_, ?_, ?_⟩
  · rw [valid.read_contents, valid.read_size, List.length_drop,
      valid.sizeExact]
    omega
  · rw [valid.read_size, read_mCapacity]
    omega
  · rw [valid.read_size, valid.read_bytesR, read_bytesW]
    omega

/-- Ending the input keeps the stream valid. -/
theorem endInput
    (valid : stream.Valid) :
    stream.endInput.Valid :=
  ⟨valid.sizeExact, valid.withinCapacity, valid.accounting⟩

/-- Setting the error flag keeps the stream valid. -/
theorem setError
    (valid : stream.Valid) :
    stream.setError.Valid :=
  ⟨valid.sizeExact, valid.withinCapacity, valid.accounting⟩

end Valid

end ByteStream

end Sponge
