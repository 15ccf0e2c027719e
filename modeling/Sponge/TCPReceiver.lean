import Sponge.StreamReassembler
import Sponge.TCPSegment

namespace Sponge

/-!
# The receiver

The receiver translates sequence numbers to stream indices for its reassembler
and acknowledges what was assembled.  `pushArguments` is the call that
`segment_received` makes on the reassembler.
-/

/-- The receiving half of a connection. -/
structure TCPReceiver where
  reassembler : StreamReassembler
  capacity : Nat
  isn : Option WrappingInt32 := none

namespace TCPReceiver

/-- Construct a receiver that stores up to `capacity` bytes. -/
def new (capacity : Nat) : TCPReceiver where
  reassembler := StreamReassembler.new capacity
  capacity := capacity

/-- Remember the initial sequence number a SYN carries. -/
def recordSyn
    (seg : TCPSegment)
    (receiver : TCPReceiver) : TCPReceiver :=
  if seg.header.syn then
    { receiver with isn := some seg.header.seqno }
  else
    receiver

/-- The stream index of the first payload byte. -/
def strIndex
    (header : TCPHeader)
    (isn : WrappingInt32) : Nat :=
  if header.syn then
    0
  else
    sub64 (unwrap header.seqno isn 0) 1

/-- What is pushed to the reassembler: nothing before the first SYN. -/
def pushArguments
    (seg : TCPSegment)
    (receiver : TCPReceiver) : Option (Bytes × Nat × Bool) :=
  match (receiver.recordSyn seg).isn with
  | none => none
  | some isn =>
      some (seg.payload, strIndex seg.header isn, seg.header.fin)

/-- Handle an inbound segment. -/
def segmentReceived
    (order : IterationOrder)
    (seg : TCPSegment)
    (receiver : TCPReceiver) : TCPReceiver :=
  match receiver.pushArguments seg with
  | none => receiver.recordSyn seg
  | some (data, index, eof) =>
      { receiver.recordSyn seg with
        reassembler :=
          receiver.reassembler.pushSubstring order data index eof }

section Segment

variable (order : IterationOrder) (seg : TCPSegment)
variable (receiver : TCPReceiver)

@[simp] theorem recordSyn_reassembler :
    (receiver.recordSyn seg).reassembler = receiver.reassembler := by
  unfold recordSyn
  split <;> rfl

@[simp] theorem recordSyn_capacity :
    (receiver.recordSyn seg).capacity = receiver.capacity := by
  unfold recordSyn
  split <;> rfl

theorem segmentReceived_capacity :
    (receiver.segmentReceived order seg).capacity =
      receiver.capacity := by
  unfold segmentReceived
  split <;> exact recordSyn_capacity seg receiver

theorem segmentReceived_isn :
    (receiver.segmentReceived order seg).isn =
      if seg.header.syn then
        some seg.header.seqno
      else
        receiver.isn := by
  have recorded :
      (receiver.segmentReceived order seg).isn =
        (receiver.recordSyn seg).isn := by
    unfold segmentReceived
    split <;> rfl
  rw [recorded, recordSyn]
  split <;> rfl

/-- What the one push of a segment establishes holds after the segment. -/
theorem segmentReceived_invariant
    (holds : StreamReassembler → Prop)
    (pushed :
      ∀ isn,
        holds
          (receiver.reassembler.pushSubstring order seg.payload
            (strIndex seg.header isn) seg.header.fin))
    (initially : holds receiver.reassembler) :
    holds (receiver.segmentReceived order seg).reassembler := by
  unfold segmentReceived
  split
  · rw [recordSyn_reassembler]
    exact initially
  · rename_i handed
    unfold pushArguments at handed
    split at handed
    · cases handed
    · cases handed
      exact pushed _

end Segment

/-- The output of the reassembler. -/
def streamOut (receiver : TCPReceiver) : ByteStream :=
  receiver.reassembler.output

/-- The number to acknowledge, once a SYN was received. -/
def ackno (receiver : TCPReceiver) : Option WrappingInt32 :=
  match receiver.isn with
  | none => none
  | some isn =>
      some (wrap
        (receiver.streamOut.bytesWritten + 1 +
          receiver.streamOut.inputEnded.toNat)
        isn)

/-- The window to advertise. -/
def windowSize (receiver : TCPReceiver) : Nat :=
  sub64 receiver.capacity receiver.streamOut.bufferSize

/-- The number of bytes stored but not yet assembled. -/
def unassembledBytes (receiver : TCPReceiver) : Nat :=
  receiver.reassembler.unassembledBytes

/-- Read from the output. -/
def readOut
    (len : Nat)
    (receiver : TCPReceiver) : Bytes × TCPReceiver :=
  let result := receiver.reassembler.readOut len
  (result.1, { receiver with reassembler := result.2 })

end TCPReceiver

end Sponge
