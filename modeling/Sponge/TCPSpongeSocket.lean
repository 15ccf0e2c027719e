import Sponge.EventLoop
import Sponge.FdAdapter
import Sponge.TCPConnection

namespace Sponge

/-!
# The socket

A socket runs a connection between its owner, who writes to and reads from a
pair of local sockets, and a datagram adapter.  Four rules of an event loop move
bytes and segments between the three.  The loop first runs until the connection
is established and then, on a thread of its own, until it exits.
-/

/-- What the rules of the event loop share. -/
structure TCPSpongeSocket (Adapter : Type) where
  /-- The thread's end of the pair whose other end the owner holds. -/
  threadData : FileDescriptor Bytes := {}
  datagramAdapter : Adapter
  tcp : TCPConnection
  inboundShutdown : Bool := false
  outboundShutdown : Bool := false

/-- Replace the inbound stream. -/
def TCPConnection.setInbound
    (inbound : ByteStream)
    (connection : TCPConnection) : TCPConnection :=
  { connection with
    receiver := { connection.receiver with
      reassembler := { connection.receiver.reassembler with
        output := inbound } } }

namespace TCPSpongeSocket

/--
What the kernel answers to the calls of a callback, and the orders in which the
hash tables are visited.
-/
structure Kernel (Packet : Type) where
  order : IterationOrder
  receive : SystemCall Packet
  /-- The bytes that the owner wrote, given how many are asked for. -/
  read : Nat → SystemCall Bytes
  /-- How many bytes are taken for the owner, given how many there are. -/
  write : Nat → SystemCall Nat
  shutdown : SystemCall Unit
  transmit : Nat → SystemCall Unit

variable {Adapter Packet : Type} [FdAdapter Adapter Packet]

/-! ## The rules -/

section Callbacks

variable (kernel : Kernel Packet) (socket : TCPSpongeSocket Adapter)

/-- Rule 1: read a segment from the adapter and give it to the connection. -/
def receiveSegment :
    EStateM.Result StdException (TCPSpongeSocket Adapter) Unit :=
  match FdAdapter.read kernel.receive kernel.transmit
      socket.datagramAdapter with
  | .error thrown datagramAdapter =>
      .error thrown { socket with datagramAdapter }
  | .ok none datagramAdapter => .ok () { socket with datagramAdapter }
  | .ok (some seg) datagramAdapter =>
      .ok () { socket with
        datagramAdapter
        tcp := socket.tcp.segmentReceived seg kernel.order }

/-- End the outbound stream. -/
def shutdownOutbound : TCPSpongeSocket Adapter :=
  { socket with
    tcp := socket.tcp.endInputStream
    outboundShutdown := true }

/-- Rule 2: read what the owner wrote into the outbound stream. -/
def readOutbound :
    EStateM.Result StdException (TCPSpongeSocket Adapter) Unit :=
  let limit := socket.tcp.remainingOutboundCapacity
  match socket.threadData.read limit
      (kernel.read (min FileDescriptor.bufferSize limit)) with
  | .error thrown threadData => .error thrown { socket with threadData }
  | .ok data threadData =>
      let len := data.length
      let written := socket.tcp.write data
      let amountWritten := written.1
      let socket := { socket with threadData, tcp := written.2 }
      if amountWritten ≠ len then
        .error
          (.runtimeError
            "TCPConnection::write() accepted less than advertised length")
          socket
      else if threadData.eof then
        .ok () socket.shutdownOutbound
      else
        .ok () socket

/-- Rule 3: write from the inbound stream to the owner. -/
def writeInbound :
    EStateM.Result StdException (TCPSpongeSocket Adapter) Unit :=
  let inbound := socket.tcp.inboundStream
  let amountToWrite := min 65536 inbound.bufferSize
  let buffer := inbound.peekOutput amountToWrite
  match socket.threadData.write (.ofString buffer) false
      (fun _ => kernel.write buffer.length) with
  | .error thrown threadData => .error thrown { socket with threadData }
  | .ok bytesWritten threadData =>
      -- only what was actually written is popped
      match inbound.popOutput bytesWritten with
      | .error thrown inbound =>
          .error thrown { socket with
            threadData
            tcp := socket.tcp.setInbound inbound }
      | .ok _ inbound =>
          let socket := { socket with
            threadData
            tcp := socket.tcp.setInbound inbound }
          if inbound.eof || inbound.error then
            match threadData.shutdown .wr kernel.shutdown with
            | .error thrown threadData =>
                .error thrown { socket with threadData }
            | .ok _ threadData =>
                .ok () { socket with threadData, inboundShutdown := true }
          else
            .ok () socket

/-- Write the segments of a queue, popping each one that was written. -/
def writeLoop
    (transmit : Nat → SystemCall Unit) :
    List TCPSegment →
    Adapter →
    EStateM.Result StdException (List TCPSegment × Adapter) Unit
  | [], adapter => .ok () ([], adapter)
  | seg :: rest, adapter =>
      match FdAdapter.write seg transmit adapter with
      | .error thrown adapter => .error thrown (seg :: rest, adapter)
      | .ok _ adapter => writeLoop transmit rest adapter

/-- Rule 4: send the outbound segments of the connection. -/
def sendSegments :
    EStateM.Result StdException (TCPSpongeSocket Adapter) Unit :=
  ofPart
    (fun left =>
      { socket with
        datagramAdapter := left.2
        tcp := { socket.tcp with segmentsOut := left.1 } })
    (writeLoop kernel.transmit socket.tcp.segmentsOut
      socket.datagramAdapter)

end Callbacks

/-- A rule of the event loop of a socket. -/
abbrev Rule (Adapter Packet : Type) : Type :=
  EventLoop.Rule (TCPSpongeSocket Adapter) (Kernel Packet)

/-- Rule 1: read segments of the peer. -/
def receiveRule : Rule Adapter Packet where
  fd socket := (FdAdapter.fd socket.datagramAdapter).toFDWrapper
  direction := .In
  callback := receiveSegment
  interest socket := socket.tcp.active

/-- Rule 2: read from the owner into the outbound stream. -/
def outboundRule : Rule Adapter Packet where
  fd socket := socket.threadData.toFDWrapper
  direction := .In
  callback := readOutbound
  interest socket :=
    socket.tcp.active && !socket.outboundShutdown &&
      decide (socket.tcp.remainingOutboundCapacity > 0)
  cancel := shutdownOutbound

/-- Rule 3: write the inbound stream to the owner. -/
def inboundRule : Rule Adapter Packet where
  fd socket := socket.threadData.toFDWrapper
  direction := .Out
  callback := writeInbound
  interest socket :=
    !socket.tcp.inboundStream.bufferEmpty ||
      ((socket.tcp.inboundStream.eof || socket.tcp.inboundStream.error) &&
        !socket.inboundShutdown)

/-- Rule 4: send the segments that wait. -/
def sendRule : Rule Adapter Packet where
  fd socket := (FdAdapter.fd socket.datagramAdapter).toFDWrapper
  direction := .Out
  callback := sendSegments
  interest socket := !socket.tcp.segmentsOut.isEmpty

/-- The rules, in the order in which they are added. -/
def rules : List (Rule Adapter Packet) :=
  [receiveRule, outboundRule, inboundRule, sendRule]

/-! ## The loops -/

/-- How far the socket is. -/
inductive Phase where
  | connecting
  | listening
  | running
  | finished
  | failed (thrown : StdException)
  deriving DecidableEq

/-- A socket with a connection and the rules that have not been cancelled. -/
structure Thread (Adapter : Type) {Packet : outParam Type}
    [FdAdapter Adapter Packet] where
  socket : TCPSpongeSocket Adapter
  rules : List (Rule Adapter Packet) := TCPSpongeSocket.rules
  phase : Phase

/-- What the world does in one turn of a loop. -/
structure Turn (Packet : Type) where
  poll : EventLoop.Poll (Kernel Packet) := .timeout
  abort : Bool := false
  /-- The time since the last tick. -/
  elapsed : Nat := 0
  transmit : Nat → SystemCall Unit := fun _ => .ok ()
  /-- The answer when the owner's end is shut down. -/
  shutdown : SystemCall Unit := .ok ()

namespace Thread

/-- One turn of the loop, and whether the loop goes on. -/
def tcpLoopTurn
    (turn : Turn Packet)
    (thread : Thread Adapter) :
    EStateM.Result StdException (Thread Adapter) Bool :=
  match EventLoop.waitNextEvent turn.poll thread.rules thread.socket with
  | .error thrown (rules, socket) =>
      .error thrown { thread with rules, socket }
  | .ok ret (rules, socket) =>
      if ret = .exit ∨ turn.abort then
        .ok false { thread with rules, socket }
      else if socket.tcp.active then
        let tcp := socket.tcp.tick turn.elapsed
        match FdAdapter.tick turn.elapsed turn.transmit
            socket.datagramAdapter with
        | .error thrown datagramAdapter =>
            .error thrown { thread with
              rules
              socket := { socket with tcp, datagramAdapter } }
        | .ok _ datagramAdapter =>
            .ok true { thread with
              rules
              socket := { socket with tcp, datagramAdapter } }
      else
        .ok true { thread with rules, socket }

/-- Whether the loop of a phase goes on. -/
def condition (thread : Thread Adapter) : Bool :=
  let state := thread.socket.tcp.state
  match thread.phase with
  | .connecting => state = TCPState.ofState .synSent
  | .listening =>
      state = TCPState.ofState .listen ||
        state = TCPState.ofState .synRcvd ||
        state = TCPState.ofState .synSent
  | .running => true
  | .finished | .failed _ => false

/-- What follows the loop of a phase. -/
def loopLeft
    (turn : Turn Packet)
    (thread : Thread Adapter) : Thread Adapter :=
  match thread.phase with
  | .connecting | .listening => { thread with phase := .running }
  | .running =>
      match turn.shutdown with
      | .ok _ => { thread with phase := .finished }
      | .error thrown => { thread with phase := .failed thrown }
  | .finished | .failed _ => thread

/-- Leaving a loop touches neither the socket nor the rules. -/
theorem loopLeft_socket
    (turn : Turn Packet)
    (thread : Thread Adapter) :
    (thread.loopLeft turn).socket = thread.socket := by
  unfold loopLeft
  repeat' split
  all_goals rfl

theorem loopLeft_rules
    (turn : Turn Packet)
    (thread : Thread Adapter) :
    (thread.loopLeft turn).rules = thread.rules := by
  unfold loopLeft
  repeat' split
  all_goals rfl

/-- One step of a socket. -/
def step
    (thread : Thread Adapter)
    (turn : Turn Packet) : Thread Adapter :=
  if thread.condition then
    match thread.tcpLoopTurn turn with
    | .error thrown thread => { thread with phase := .failed thrown }
    | .ok true thread => thread
    | .ok false thread => thread.loopLeft turn
  else
    thread.loopLeft turn

end Thread

/-! ## Opening -/

/-- Connect using the configurations. -/
def connect
    (cTcp : TCPConfig)
    (random : WrappingInt32)
    (cAd : FdAdapterConfig)
    (datagramInterface : Adapter) :
    Except StdException (Thread Adapter) :=
  let tcp := (TCPConnection.new cTcp random).connect
  let expectedState := TCPState.ofState .synSent
  if tcp.state ≠ expectedState then
    .error (.runtimeError
      ("After TCPConnection::connect(), state was " ++ tcp.state.name ++
        " but expected " ++ expectedState.name))
  else
    .ok {
      socket := {
        datagramAdapter := FdAdapter.setConfig cAd datagramInterface
        tcp
      }
      phase := .connecting
    }

/-- Listen and accept using the configurations. -/
def listenAndAccept
    (cTcp : TCPConfig)
    (random : WrappingInt32)
    (cAd : FdAdapterConfig)
    (datagramInterface : Adapter) : Thread Adapter where
  socket := {
    datagramAdapter :=
      FdAdapter.setListening true
        (FdAdapter.setConfig cAd datagramInterface)
    tcp := TCPConnection.new cTcp random
  }
  phase := .listening

end TCPSpongeSocket

end Sponge
