import Sponge.TCPState

namespace Sponge

/-!
# The connection

A connection joins a sender and a receiver.  What the sender pushes is stamped
with the receiver's acknowledgment and window on its way to the outbound queue
of the connection.  `segment_received` and `tick` are sequences of independent
tests; each test is a function of its own here, in the order of the source.
-/

/-- A complete endpoint; `ticks` is the clock the method `tick` advances. -/
structure TCPConnection where
  cfg : TCPConfig
  receiver : TCPReceiver
  sender : TCPSender
  segmentsOut : List TCPSegment := []
  lingerAfterStreamsFinish : Bool := true
  close : Bool := false
  ticks : Nat := 0
  receTick : Nat := 0
  isnReceiver : Option WrappingInt32 := none

/-- Set the error flag of the inbound stream. -/
def TCPReceiver.setError (receiver : TCPReceiver) : TCPReceiver :=
  { receiver with
    reassembler :=
      { receiver.reassembler with
        output := receiver.reassembler.output.setError } }

/-- Set the error flag of the outbound stream. -/
def TCPSender.setError (sender : TCPSender) : TCPSender :=
  { sender with stream := sender.stream.setError }

namespace TCPConnection

/-- Construct a connection; the random number is used without a fixed one. -/
def new
    (cfg : TCPConfig)
    (random : WrappingInt32) : TCPConnection where
  cfg := cfg
  receiver := TCPReceiver.new cfg.recvCapacity
  sender :=
    TCPSender.new cfg.sendCapacity cfg.rtTimeout
      (cfg.fixedIsn.getD random)

/-- Fill in the acknowledgment and the window, once there is one. -/
def stamp
    (receiver : TCPReceiver)
    (seg : TCPSegment) : TCPSegment :=
  match receiver.ackno with
  | none => seg
  | some ackno =>
      { seg with
        header := { seg.header with
          ack := true
          ackno := ackno
          win := UInt16.ofNat receiver.windowSize } }

/-- Move everything the sender pushed to the outbound queue. -/
def sendSegment (connection : TCPConnection) : TCPConnection :=
  { connection with
    sender := { connection.sender with segmentsOut := [] }
    segmentsOut :=
      connection.segmentsOut ++
        connection.sender.segmentsOut.map (stamp connection.receiver) }

/-- Does the segment reach into the receiver's window? -/
def checkSegmentInWindow
    (seg : TCPSegment)
    (connection : TCPConnection) : Bool :=
  match connection.isnReceiver, connection.receiver.ackno with
  | some isn, some ackno =>
      let segStart := unwrap seg.header.seqno isn 0
      let segEnd :=
        segStart +
          (if seg.lengthInSequenceSpace = 0 then
            0
          else
            seg.lengthInSequenceSpace - 1)
      let windowStart := unwrap ackno isn 0
      let windowEnd :=
        (windowStart + connection.receiver.windowSize) % 2 ^ 64
      if segEnd < windowStart then
        false
      else if segStart ≥ windowEnd then
        false
      else
        true
  | _, _ => true

/--
Abort the connection.  The front of the sender's queue is moved from, which
empties its payload, but it is not popped.
-/
def sendRst (connection : TCPConnection) : TCPConnection :=
  let sender := connection.sender.sendEmptySegment
  match sender.segmentsOut with
  | [] => connection
  | seg :: rest =>
      { connection with
        sender :=
          { sender with
            segmentsOut := { seg with payload := [] } :: rest }.setError
        receiver := connection.receiver.setError
        segmentsOut :=
          [{ seg with header := { seg.header with rst := true } }]
        close := true }

/-- How much the owner may write now. -/
def remainingOutboundCapacity (connection : TCPConnection) : Nat :=
  connection.sender.stream.remainingCapacity

/-- How many sequence numbers are sent and not acknowledged. -/
def bytesInFlight (connection : TCPConnection) : Nat :=
  connection.sender.bytesInFlight

/-- How many bytes the receiver holds back. -/
def unassembledBytes (connection : TCPConnection) : Nat :=
  connection.receiver.unassembledBytes

/-- Milliseconds since the last segment, as the 64-bit clock shows them. -/
def timeSinceLastSegmentReceived (connection : TCPConnection) : Nat :=
  sub64 connection.ticks connection.receTick

/-- The connection still has something to do. -/
def active (connection : TCPConnection) : Bool :=
  !connection.close

/-- The stream that the owner reads. -/
def inboundStream (connection : TCPConnection) : ByteStream :=
  connection.receiver.streamOut

/-- What the connection reports of its state. -/
def state (connection : TCPConnection) : TCPState :=
  TCPState.ofParts connection.sender connection.receiver
    connection.active connection.lingerAfterStreamsFinish

section SegmentReceived

variable (seg : TCPSegment) (connection : TCPConnection)

/-- A RST puts both streams in the error state and closes. -/
def receiveRst : TCPConnection :=
  if seg.header.rst then
    { connection with
      receiver := connection.receiver.setError
      sender := connection.sender.setError
      close := true }
  else
    connection

/-- A SYN sets the initial number the window test uses. -/
def recordIsn : TCPConnection :=
  if seg.header.syn then
    { connection with isnReceiver := some seg.header.seqno }
  else
    connection

/-- A FIN before the local FIN was sent: there is no need to linger. -/
def passiveClose : TCPConnection :=
  if seg.header.fin ∧
      connection.sender.stateSummary ≠ .finSent ∧
      connection.sender.stateSummary ≠ .finAcked then
    { connection with lingerAfterStreamsFinish := false }
  else
    connection

/-- Hand the segment to the receiver. -/
def receivePayload (order : IterationOrder) : TCPConnection :=
  if connection.checkSegmentInWindow seg then
    { connection with
      receiver := connection.receiver.segmentReceived order seg }
  else
    connection

/-- Hand the acknowledgment to the sender. -/
def receiveAck : TCPConnection :=
  if seg.header.ack then
    { connection with
      sender :=
        connection.sender.ackReceived seg.header.ackno seg.header.win }
  else
    connection

/-- Answer a segment that takes up sequence numbers. -/
def reply : TCPConnection :=
  if seg.lengthInSequenceSpace ≠ 0 then
    let filled := connection.sender.fillWindow
    { connection with
      sender :=
        if filled.segmentsOut = [] then
          filled.sendEmptySegment
        else
          filled }
  else
    connection

/-- Answer a keep-alive: an empty segment just before the window. -/
def replyKeepAlive : TCPConnection :=
  match connection.receiver.ackno with
  | none => connection
  | some ackno =>
      if seg.lengthInSequenceSpace = 0 ∧
          seg.header.seqno = ackno - (1 : UInt32) then
        { connection with
          sender := connection.sender.sendEmptySegment }
      else
        connection

/-- A segment has been received from the network. -/
def segmentReceived (order : IterationOrder) : TCPConnection :=
  let noted :=
    (({ connection with receTick := connection.ticks }.receiveRst seg
      ).recordIsn seg).passiveClose seg
  (((noted.receivePayload seg order).receiveAck seg).reply seg
    |>.replyKeepAlive seg).sendSegment

end SegmentReceived

/-- Fill the window and pass on what the sender pushed. -/
def connect (connection : TCPConnection) : TCPConnection :=
  { connection with sender := connection.sender.fillWindow }.sendSegment

/-- Write to the outbound stream and send if possible. -/
def write
    (data : Bytes)
    (connection : TCPConnection) : Nat × TCPConnection :=
  let result := connection.sender.stream.write data
  (result.1,
    { connection with
      sender := { connection.sender with
        stream := result.2 }.fillWindow }.sendSegment)

/-- Shut down the outbound stream. -/
def endInputStream (connection : TCPConnection) : TCPConnection :=
  { connection with
    sender := { connection.sender with
      stream := connection.sender.stream.endInput }.fillWindow
    }.sendSegment

section Tick

/-- Advance the clock and fill the window. -/
def tickFill
    (msSinceLastTick : Nat)
    (connection : TCPConnection) : TCPConnection :=
  let timed : TCPConnection := { connection with
    ticks := (connection.ticks + msSinceLastTick) % 2 ^ 64 }
  if timed.sender.stream.bufferEmpty = false ∨
      timed.sender.stream.eof = true then
    timed.connect
  else
    timed

/-- Tell the sender the time and pass on what it retransmits. -/
def tickRetransmit
    (msSinceLastTick : Nat)
    (connection : TCPConnection) : TCPConnection :=
  let ticked := { connection with
    sender := connection.sender.tick msSinceLastTick }
  if ticked.sender.segmentsOut ≠ [] then
    ticked.sendSegment
  else
    ticked

/-- The first part of `tick`: send what there is to send. -/
def tickSend
    (msSinceLastTick : Nat)
    (connection : TCPConnection) : TCPConnection :=
  (connection.tickFill msSinceLastTick).tickRetransmit msSinceLastTick

/-- Has the sender retransmitted too often? -/
def retransmissionsExceeded (connection : TCPConnection) : Bool :=
  decide (TCPConfig.maxRetxAttempts < connection.sender.consecutiveRetran)

/-- The second part of `tick`: give up after too many attempts. -/
def tickAbort (connection : TCPConnection) : TCPConnection :=
  if connection.retransmissionsExceeded then
    connection.sendRst
  else
    connection

/-- The third part of `tick`: close once both streams are finished. -/
def tickFinish (connection : TCPConnection) : TCPConnection :=
  if connection.receiver.unassembledBytes ≠ 0 ∨
      connection.receiver.streamOut.eof = false then
    connection
  else if connection.sender.stream.eof = false then
    connection
  else if connection.sender.bytesInFlight ≠ 0 then
    connection
  else
    let connection :=
      if connection.timeSinceLastSegmentReceived ≥
          10 * connection.cfg.rtTimeout.toNat then
        { connection with
          lingerAfterStreamsFinish := false
          close := true }
      else
        connection
    if connection.lingerAfterStreamsFinish then
      connection
    else
      { connection with close := true }

/-- Time has passed. -/
def tick
    (msSinceLastTick : Nat)
    (connection : TCPConnection) : TCPConnection :=
  (connection.tickSend msSinceLastTick).tickAbort.tickFinish

end Tick

/-- Read from the inbound stream. -/
def readInbound
    (len : Nat)
    (connection : TCPConnection) : Bytes × TCPConnection :=
  let result := connection.receiver.readOut len
  (result.1, { connection with receiver := result.2 })

end TCPConnection

end Sponge
