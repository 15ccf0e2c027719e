import Sponge.ByteStream
import Sponge.Execution
import Sponge.MachineWord
import Sponge.TCPSegment

namespace Sponge

/-!
# The sender

The sender cuts its stream into segments, keeps the unacknowledged ones for
retransmission and runs the retransmission timer.  The loop of `fill_window` is
given more rounds than there is left to send; `TCPSenderFill` shows that it
leaves by itself.
-/

namespace TCPConfig

/-- The default capacity of a stream. -/
def defaultCapacity : Nat := 64000

/-- The most bytes a segment carries. -/
def maxPayloadSize : Nat := 1000

/-- The default retransmission timeout, in milliseconds. -/
def timeoutDflt : UInt16 := 1000

/-- How many retransmissions in a row are attempted before giving up. -/
def maxRetxAttempts : Nat := 8

end TCPConfig

/-- Configuration of a connection. -/
structure TCPConfig where
  rtTimeout : UInt16 := TCPConfig.timeoutDflt
  recvCapacity : Nat := TCPConfig.defaultCapacity
  sendCapacity : Nat := TCPConfig.defaultCapacity
  fixedIsn : Option WrappingInt32 := none

/-- A countdown in milliseconds. -/
structure RetransmissionTimer where
  rto : Nat := 0
  running : Bool := false

namespace RetransmissionTimer

/-- Start the timer anew, with this timeout. -/
def start
    (timeout : Nat)
    (_timer : RetransmissionTimer) : RetransmissionTimer where
  rto := timeout
  running := true

/-- Stop the timer. -/
def stop (timer : RetransmissionTimer) : RetransmissionTimer :=
  { timer with running := false }

/-- Let time pass, and report whether the callback runs. -/
def timePassed
    (msSinceLastTick : Nat)
    (timer : RetransmissionTimer) : RetransmissionTimer × Bool :=
  if timer.running = false then
    (timer, false)
  else if timer.rto > msSinceLastTick then
    ({ timer with rto := timer.rto - msSinceLastTick }, false)
  else
    (timer, true)

end RetransmissionTimer

/-- How far the sender has got with its stream. -/
inductive SenderState where
  | init
  | synSent
  | finSent
  deriving DecidableEq

/-- The sending half of a connection. -/
structure TCPSender where
  isn : WrappingInt32
  segmentsOut : List TCPSegment := []
  initialRetransmissionTimeout : Nat
  stream : ByteStream
  nextSeqnoAbsolute : Nat := 0
  lastRetransSeqno : Option WrappingInt32 := some ⟨0⟩
  retransmissionQueue : List TCPSegment := []
  consecutiveRetran : Nat := 0
  rto : Nat
  windowSize : UInt16 := 1
  ack : WrappingInt32
  windowProbe : Bool := false
  state : SenderState := .init
  timer : RetransmissionTimer := {}

namespace TCPSender

/-- Construct a sender; `isn` is the fixed or the random initial number. -/
def new
    (capacity : Nat)
    (retxTimeout : UInt16)
    (isn : WrappingInt32) : TCPSender where
  isn := isn
  initialRetransmissionTimeout := retxTimeout.toNat
  stream := ByteStream.new capacity
  rto := retxTimeout.toNat
  ack := isn

/-- The relative sequence number of the next byte to be sent. -/
def nextSeqno (sender : TCPSender) : WrappingInt32 :=
  wrap sender.nextSeqnoAbsolute sender.isn

/-- The recorded acknowledgment as an absolute number. -/
def acked (sender : TCPSender) : Nat :=
  unwrap sender.ack sender.isn 0

/-- Sequence numbers sent but not yet acknowledged. -/
def bytesInFlight (sender : TCPSender) : Nat :=
  sub64 sender.nextSeqnoAbsolute sender.acked

/-- The window less the bytes in flight, in 64-bit arithmetic. -/
def room (sender : TCPSender) : Nat :=
  sub64 sender.windowSize.toNat sender.bytesInFlight

/-- The header of the next segment and the number of bytes it may carry. -/
def beginSegment
    (sender : TCPSender) : TCPHeader × Nat × TCPSender :=
  if sender.stream.bytesRead = 0 ∧ sender.state = .init then
    ({ seqno := sender.nextSeqno, syn := true },
      sender.room - 1,
      { sender with state := .synSent })
  else
    ({ seqno := sender.nextSeqno }, sender.room, sender)

/-- Add a FIN when the stream has ended and the window has place for it. -/
def addFin
    (segment : TCPSegment)
    (sender : TCPSender) : TCPSegment × TCPSender :=
  if sender.stream.eof ∧ sender.state = .synSent ∧
      segment.lengthInSequenceSpace + 1 ≤ sender.room then
    ({ segment with header := { segment.header with fin := true } },
      { sender with state := .finSent })
  else
    (segment, sender)

/-- The segment one iteration of the loop builds from the stream. -/
def buildSegment
    (sender : TCPSender) : TCPSegment × TCPSender :=
  let begun := sender.beginSegment
  let bytes2read :=
    if begun.2.1 ≥ TCPConfig.maxPayloadSize then
      TCPConfig.maxPayloadSize
    else
      begun.2.1
  let taken := begun.2.2.stream.read bytes2read
  addFin { header := begun.1, payload := taken.1 }
    { begun.2.2 with stream := taken.2 }

/-- Send a segment and keep it for retransmission. -/
def sendSegment
    (segment : TCPSegment)
    (sender : TCPSender) : TCPSender :=
  { sender with
    nextSeqnoAbsolute :=
      sender.nextSeqnoAbsolute + segment.lengthInSequenceSpace
    segmentsOut := sender.segmentsOut ++ [segment]
    retransmissionQueue := sender.retransmissionQueue ++ [segment]
    timer :=
      if sender.timer.running = false ∧
          segment.lengthInSequenceSpace > 0 then
        sender.timer.start sender.rto
      else
        sender.timer }

/-- One iteration of the loop of `fill_window`. -/
def fillRound (sender : TCPSender) : TCPSender ⊕ TCPSender :=
  if sender.room ≠ 0 ∧ sender.state ≠ .finSent then
    let built := sender.buildSegment
    if built.1.lengthInSequenceSpace = 0 then
      .inr built.2
    else
      .inl (built.2.sendSegment built.1)
  else
    .inr sender

/-- The loop of `fill_window`. -/
def fillLoop
    (fuel : Nat)
    (sender : TCPSender) : TCPSender :=
  Execution.iterate fillRound id fuel sender

/-- Send segments until the window is full or nothing is left to send. -/
def fillWindow (sender : TCPSender) : TCPSender :=
  fillLoop (sender.stream.bufferSize + 3) sender

/-- Record an advertised window; zero is treated as one, in probe state. -/
def recordWindow
    (windowSize : UInt16)
    (sender : TCPSender) : TCPSender :=
  if windowSize = 0 then
    { sender with windowSize := 1, windowProbe := true }
  else
    { sender with windowSize := windowSize, windowProbe := false }

/-- Remove acknowledged segments from the front of a queue. -/
def popAcknowledged
    (isn ackno : WrappingInt32) :
    List TCPSegment → List TCPSegment
  | [] => []
  | element :: rest =>
      if unwrap element.header.seqno isn 0 +
            element.lengthInSequenceSpace >
          unwrap ackno isn 0 then
        element :: rest
      else
        popAcknowledged isn ackno rest

/-- Take up a new acknowledgment. -/
def acceptAck
    (ackno : WrappingInt32)
    (sender : TCPSender) : TCPSender :=
  let queue :=
    popAcknowledged sender.isn ackno sender.retransmissionQueue
  { sender with
    ack := ackno
    rto := sender.initialRetransmissionTimeout
    retransmissionQueue := queue
    timer :=
      if queue ≠ [] then
        sender.timer.start sender.initialRetransmissionTimeout
      else
        sender.timer.stop
    consecutiveRetran := 0 }

/-- Handle an acknowledgment and an advertised window. -/
def ackReceived
    (ackno : WrappingInt32)
    (windowSize : UInt16)
    (sender : TCPSender) : TCPSender :=
  let sender := sender.recordWindow windowSize
  if unwrap ackno sender.isn 0 > sender.nextSeqnoAbsolute ∨
      unwrap ackno sender.isn 0 ≤ sender.acked then
    sender
  else
    sender.acceptAck ackno

/-- Count a retransmission and back off, unless the window was empty. -/
def countRetransmission
    (segment : TCPSegment)
    (sender : TCPSender) : TCPSender :=
  let sender :=
    if sender.lastRetransSeqno = some segment.header.seqno then
      { sender with
        consecutiveRetran := (sender.consecutiveRetran + 1) % 2 ^ 32 }
    else
      { sender with
        consecutiveRetran := 1
        lastRetransSeqno := some segment.header.seqno }
  if sender.windowProbe = false then
    { sender with rto := sender.rto * 2 % 2 ^ 32 }
  else
    sender

/--
Send the earliest unacknowledged segment again.  The timer only runs while
there is one, so the empty queue is never met.
-/
def retransmit (sender : TCPSender) : TCPSender :=
  match sender.retransmissionQueue with
  | [] => sender
  | segment :: _ =>
      let sent : TCPSender :=
        { sender with segmentsOut := sender.segmentsOut ++ [segment] }
      let counted :=
        if sent.windowSize = 0 then
          sent
        else
          sent.countRetransmission segment
      { counted with timer := counted.timer.start counted.rto }

/-- Notify the sender of the passage of time. -/
def tick
    (msSinceLastTick : Nat)
    (sender : TCPSender) : TCPSender :=
  let passed := sender.timer.timePassed msSinceLastTick
  let sender := { sender with timer := passed.1 }
  if passed.2 then
    sender.retransmit
  else
    sender

/-- Send a segment that takes up no sequence numbers. -/
def sendEmptySegment (sender : TCPSender) : TCPSender :=
  { sender with
    segmentsOut :=
      sender.segmentsOut ++ [{ header := { seqno := sender.nextSeqno } }] }

end TCPSender

end Sponge
