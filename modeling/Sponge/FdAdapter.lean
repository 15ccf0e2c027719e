import Sponge.FileDescriptor
import Sponge.NetworkInterface
import Sponge.TCPOverIPv4

namespace Sponge

/-!
# Adapters of file descriptors

An adapter reads and writes the segments of one connection on a descriptor that
carries packets: UDP datagrams, IPv4 datagrams or Ethernet frames.  The kernel
takes a packet whole or fails; `transmitted n` is its answer when a descriptor
that has sent `n` packets sends the next one.
-/

/-- The largest value of `size_t`, the default limit of a read. -/
def sizeMax : Nat := 2 ^ 64 - 1

/-- What a socket does with the adapter it is built on. -/
class FdAdapter (Adapter : Type) (Packet : outParam Type) where
  fd : Adapter → FileDescriptor Packet
  /-- The bytes of a packet that the network carries. -/
  content : Packet → Bytes
  setConfig : FdAdapterConfig → Adapter → Adapter
  setListening : Bool → Adapter → Adapter
  read :
    SystemCall Packet →
    (Nat → SystemCall Unit) →
    Adapter →
    EStateM.Result StdException Adapter (Option TCPSegment)
  write :
    TCPSegment →
    (Nat → SystemCall Unit) →
    Adapter →
    EStateM.Result StdException Adapter Unit
  tick :
    Nat →
    (Nat → SystemCall Unit) →
    Adapter →
    EStateM.Result StdException Adapter Unit

/-- What a method of a part does to the whole. -/
def ofPart
    {ε Part Whole α : Type}
    (put : Part → Whole) :
    EStateM.Result ε Part α → EStateM.Result ε Whole α
  | .ok value part => .ok value (put part)
  | .error thrown part => .error thrown (put part)

@[simp] theorem finalState_ofPart
    {ε Part Whole α : Type}
    (put : Part → Whole)
    (result : EStateM.Result ε Part α) :
    finalState (ofPart put result) = put (finalState result) := by
  cases result <;> rfl

@[simp] theorem returned_ofPart
    {ε Part Whole α : Type}
    (put : Part → Whole)
    (result : EStateM.Result ε Part α) :
    returned (ofPart put result) = returned result := by
  cases result <;> rfl

/-- Write a packet to a device. -/
def FileDescriptor.transmit
    (payload : BufferList)
    (transmitted : Nat → SystemCall Unit)
    (fd : FileDescriptor Bytes) :
    EStateM.Result StdException (FileDescriptor Bytes) Unit :=
  let buffer := BufferViewList.ofBufferList payload
  let answer :=
    (transmitted fd.sent.length).map fun _ => buffer.size
  match fd.write buffer true fun _ => answer with
  | .error thrown fd => .error thrown fd
  | .ok _ fd => .ok () fd

theorem BufferViewList.content_ofBufferList
    (buffers : BufferList) :
    (ofBufferList buffers).content = buffers.concatenate := by
  induction buffers with
  | nil =>
      rfl
  | cons buffer rest inductionHypothesis =>
      have first := buffer.shownBy_toStringView.bytes
      rw [BufferList.concatenate_cons, ← inductionHypothesis, ← first]
      rfl

/-- A device takes the bytes of a packet as one message, or nothing. -/
theorem FileDescriptor.transmit_eq
    (payload : BufferList)
    (transmitted : Nat → SystemCall Unit)
    (fd : FileDescriptor Bytes) :
    fd.transmit payload transmitted =
      match transmitted fd.sent.length with
      | .error thrown => .error thrown fd
      | .ok _ => .ok () (fd.took payload.concatenate) := by
  simp only [transmit, write_whole, BufferViewList.content_ofBufferList]
  cases transmitted fd.sent.length <;> rfl

/-! ## Segments in UDP payloads -/

/-- A datagram and the address of its other end. -/
structure UDPDatagram where
  address : Address
  payload : Bytes
  deriving DecidableEq

/-- A socket that exchanges datagrams with the addresses of their ends. -/
abbrev UDPSocket := FileDescriptor UDPDatagram

namespace UDPSocket

/-- Receive a datagram and the address of its sender. -/
def recv
    (mtu : Nat)
    (answer : SystemCall UDPDatagram)
    (sock : UDPSocket) :
    EStateM.Result StdException UDPSocket UDPDatagram :=
  match answer with
  | .error thrown => .error thrown sock
  | .ok datagram =>
      if datagram.payload.length > mtu then
        .error (.runtimeError "recvfrom (oversized datagram)") sock
      else
        .ok datagram { sock.registerRead with
          received := sock.received ++ [datagram] }

/-- Send a datagram to an address; the answer is the number of bytes sent. -/
def sendto
    (destination : Address)
    (payload : BufferList)
    (answer : SystemCall Nat)
    (sock : UDPSocket) :
    EStateM.Result StdException UDPSocket Unit :=
  match answer with
  | .error thrown => .error thrown sock
  | .ok bytesSent =>
      if bytesSent ≠ payload.size then
        .error (.runtimeError "datagram payload too big for sendmsg()")
          sock
      else
        .ok () { sock.registerWrite with
          sent := sock.sent ++ [⟨destination, payload.concatenate⟩] }

end UDPSocket

/-- Segments as the payloads of UDP datagrams. -/
structure TCPOverUDPSocketAdapter where
  config : FdAdapterConfig := {}
  listen : Bool := false
  sock : UDPSocket := {}

namespace TCPOverUDPSocketAdapter

/-- Read a segment of the connection from a UDP payload. -/
def read
    (answer : SystemCall UDPDatagram)
    (adapter : TCPOverUDPSocketAdapter) :
    EStateM.Result StdException TCPOverUDPSocketAdapter
      (Option TCPSegment) :=
  match UDPSocket.recv 65536 answer adapter.sock with
  | .error thrown sock => .error thrown { adapter with sock }
  | .ok datagram sock =>
      let adapter := { adapter with sock }
      if ¬ adapter.listen ∧
          datagram.address ≠ adapter.config.destination then
        .ok none adapter
      else
        match ({} : TCPSegment).parse (Buffer.ofString datagram.payload)
            0 with
        | .error thrown _ => .error thrown adapter
        | .ok result seg =>
            if result ≠ .noError then
              .ok none adapter
            else if adapter.listen then
              if seg.header.syn ∧ ¬ seg.header.rst then
                .ok (some seg) { adapter with
                  config := { adapter.config with
                    destination := datagram.address }
                  listen := false }
              else
                .ok none adapter
            else
              .ok (some seg) adapter

/-- Write a segment into a UDP payload. -/
def write
    (seg : TCPSegment)
    (transmitted : Nat → SystemCall Unit)
    (adapter : TCPOverUDPSocketAdapter) :
    EStateM.Result StdException TCPOverUDPSocketAdapter Unit :=
  let seg := { seg with
    header := { seg.header with
      sport := adapter.config.source.port
      dport := adapter.config.destination.port } }
  match seg.serialize 0 with
  | .error thrown => .error thrown adapter
  | .ok payload =>
      let answer :=
        (transmitted adapter.sock.sent.length).map fun _ => payload.size
      ofPart (fun sock => { adapter with sock })
        (UDPSocket.sendto adapter.config.destination payload answer
          adapter.sock)

instance : FdAdapter TCPOverUDPSocketAdapter UDPDatagram where
  fd adapter := adapter.sock
  content datagram := datagram.payload
  setConfig config adapter := { adapter with config }
  setListening listen adapter := { adapter with listen }
  read answer _ adapter := adapter.read answer
  write := write
  tick _ _ adapter := .ok () adapter

end TCPOverUDPSocketAdapter

/-! ## Segments in IPv4 datagrams on a TUN device -/

/-- Segments in IPv4 datagrams, on a TUN device. -/
structure TCPOverIPv4OverTunFdAdapter extends TCPOverIPv4Adapter where
  tun : FileDescriptor Bytes := {}

namespace TCPOverIPv4OverTunFdAdapter

/-- Read a segment of the connection from an IPv4 datagram. -/
def read
    (answer : SystemCall Bytes)
    (adapter : TCPOverIPv4OverTunFdAdapter) :
    EStateM.Result StdException TCPOverIPv4OverTunFdAdapter
      (Option TCPSegment) :=
  match adapter.tun.read sizeMax answer with
  | .error thrown tun => .error thrown { adapter with tun }
  | .ok bytes tun =>
      let adapter := { adapter with tun }
      match ({} : InternetDatagram).parse (Buffer.ofString bytes) with
      | .error thrown _ => .error thrown adapter
      | .ok result ipDgram =>
          if result ≠ .noError then
            .ok none adapter
          else
            ofPart
              (fun base => { adapter with toTCPOverIPv4Adapter := base })
              (adapter.unwrapTcpInIp ipDgram)

/-- Write a segment in an IPv4 datagram. -/
def write
    (seg : TCPSegment)
    (transmitted : Nat → SystemCall Unit)
    (adapter : TCPOverIPv4OverTunFdAdapter) :
    EStateM.Result StdException TCPOverIPv4OverTunFdAdapter Unit :=
  match adapter.wrapTcpInIp seg with
  | .error thrown _ => .error thrown adapter
  | .ok dgram _ =>
      match dgram.serialize with
      | .error thrown => .error thrown adapter
      | .ok payload =>
          ofPart (fun tun => { adapter with tun })
            (adapter.tun.transmit payload transmitted)

instance : FdAdapter TCPOverIPv4OverTunFdAdapter Bytes where
  fd adapter := adapter.tun
  content := id
  setConfig config adapter := { adapter with config }
  setListening listen adapter := { adapter with listen }
  read answer _ adapter := adapter.read answer
  write := write
  tick _ _ adapter := .ok () adapter

end TCPOverIPv4OverTunFdAdapter

/-! ## Segments in Ethernet frames on a TAP device -/

/-- Segments in IPv4 datagrams in Ethernet frames, on a TAP device. -/
structure TCPOverIPv4OverEthernetAdapter extends TCPOverIPv4Adapter where
  tap : FileDescriptor Bytes := {}
  interface : NetworkInterface
  nextHop : Address

namespace TCPOverIPv4OverEthernetAdapter

/-- Send the frames of a queue, popping each one that was sent. -/
def sendLoop
    (transmitted : Nat → SystemCall Unit) :
    List EthernetFrame →
    FileDescriptor Bytes →
    EStateM.Result StdException
      (List EthernetFrame × FileDescriptor Bytes) Unit
  | [], tap => .ok () ([], tap)
  | frame :: rest, tap =>
      match tap.transmit frame.serialize transmitted with
      | .error thrown tap => .error thrown (frame :: rest, tap)
      | .ok _ tap => sendLoop transmitted rest tap

/-- The adapter with the frames that are left to send. -/
def withFrames
    (adapter : TCPOverIPv4OverEthernetAdapter)
    (left : List EthernetFrame × FileDescriptor Bytes) :
    TCPOverIPv4OverEthernetAdapter :=
  { adapter with
    interface := { adapter.interface with framesOut := left.1 }
    tap := left.2 }

/-- Send any pending frames. -/
def sendPending
    (transmitted : Nat → SystemCall Unit)
    (adapter : TCPOverIPv4OverEthernetAdapter) :
    EStateM.Result StdException TCPOverIPv4OverEthernetAdapter Unit :=
  ofPart adapter.withFrames
    (sendLoop transmitted adapter.interface.framesOut adapter.tap)

/-- Construct from a device; an empty frame is sent first. -/
def new
    (tap : FileDescriptor Bytes)
    (ethernetAddress : EthernetAddress)
    (ipAddress nextHop : Address)
    (transmitted : Nat → SystemCall Unit) :
    Except StdException TCPOverIPv4OverEthernetAdapter :=
  match tap.transmit ({} : EthernetFrame).serialize transmitted with
  | .error thrown _ => .error thrown
  | .ok _ tap =>
      .ok { tap, interface := { ethernetAddress, ipAddress }, nextHop }

/-- Read a segment of the connection from an Ethernet frame. -/
def read
    (answer : SystemCall Bytes)
    (transmitted : Nat → SystemCall Unit)
    (adapter : TCPOverIPv4OverEthernetAdapter) :
    EStateM.Result StdException TCPOverIPv4OverEthernetAdapter
      (Option TCPSegment) :=
  match adapter.tap.read sizeMax answer with
  | .error thrown tap => .error thrown { adapter with tap }
  | .ok bytes tap =>
      let adapter := { adapter with tap }
      match ({} : EthernetFrame).parse (Buffer.ofString bytes) with
      | .error thrown _ => .error thrown adapter
      | .ok result frame =>
          if result ≠ .noError then
            .ok none adapter
          else
            match adapter.interface.recvFrame frame with
            | .error thrown interface =>
                .error thrown { adapter with interface }
            | .ok ipDgram interface =>
                match { adapter with interface }.sendPending
                    transmitted with
                | .error thrown adapter => .error thrown adapter
                | .ok _ adapter =>
                    match ipDgram with
                    | none => .ok none adapter
                    | some ipDgram =>
                        ofPart
                          (fun base =>
                            { adapter with toTCPOverIPv4Adapter := base })
                          (adapter.unwrapTcpInIp ipDgram)

/-- Tell the interface the time. -/
def tick
    (msSinceLastTick : Nat)
    (transmitted : Nat → SystemCall Unit)
    (adapter : TCPOverIPv4OverEthernetAdapter) :
    EStateM.Result StdException TCPOverIPv4OverEthernetAdapter Unit :=
  { adapter with
    interface := adapter.interface.tick msSinceLastTick }.sendPending
    transmitted

/-- Write a segment in an IPv4 datagram in an Ethernet frame. -/
def write
    (seg : TCPSegment)
    (transmitted : Nat → SystemCall Unit)
    (adapter : TCPOverIPv4OverEthernetAdapter) :
    EStateM.Result StdException TCPOverIPv4OverEthernetAdapter Unit :=
  match adapter.wrapTcpInIp seg with
  | .error thrown _ => .error thrown adapter
  | .ok dgram _ =>
      match adapter.interface.sendDatagram dgram adapter.nextHop with
      | .error thrown interface => .error thrown { adapter with interface }
      | .ok _ interface =>
          { adapter with interface }.sendPending transmitted

instance : FdAdapter TCPOverIPv4OverEthernetAdapter Bytes where
  fd adapter := adapter.tap
  content := id
  setConfig config adapter := { adapter with config }
  setListening listen adapter := { adapter with listen }
  read := read
  write := write
  tick := tick

end TCPOverIPv4OverEthernetAdapter

/-! ## Random loss -/

/-- An adapter that drops packets; `random` are the numbers it draws. -/
structure LossyFdAdapter (Adapter : Type) where
  adapter : Adapter
  random : Nat → UInt32
  drawn : Nat := 0
  lossRateDn : UInt16 := 0
  lossRateUp : UInt16 := 0

namespace LossyFdAdapter

variable {Adapter Packet : Type}

/-- Is a read or write to be dropped?  A number is drawn if one can be. -/
def shouldDrop
    (uplink : Bool)
    (lossy : LossyFdAdapter Adapter) : Bool × LossyFdAdapter Adapter :=
  let loss := if uplink then lossy.lossRateUp else lossy.lossRateDn
  if loss ≠ 0 then
    (decide ((lossy.random lossy.drawn).toUInt16 < loss),
      { lossy with drawn := lossy.drawn + 1 })
  else
    (false, lossy)

variable [FdAdapter Adapter Packet]

/-- Read from the adapter, and perhaps drop what was read. -/
def read
    (answer : SystemCall Packet)
    (transmitted : Nat → SystemCall Unit)
    (lossy : LossyFdAdapter Adapter) :
    EStateM.Result StdException (LossyFdAdapter Adapter)
      (Option TCPSegment) :=
  match FdAdapter.read answer transmitted lossy.adapter with
  | .error thrown adapter => .error thrown { lossy with adapter }
  | .ok seg adapter =>
      let (drop, lossy) := { lossy with adapter }.shouldDrop false
      if drop then
        .ok none lossy
      else
        .ok seg lossy

/-- Write to the adapter unless the segment is dropped. -/
def write
    (seg : TCPSegment)
    (transmitted : Nat → SystemCall Unit)
    (lossy : LossyFdAdapter Adapter) :
    EStateM.Result StdException (LossyFdAdapter Adapter) Unit :=
  let (drop, lossy) := lossy.shouldDrop true
  if drop then
    .ok () lossy
  else
    ofPart (fun adapter => { lossy with adapter })
      (FdAdapter.write seg transmitted lossy.adapter)

/-- Tell the adapter the time. -/
def tick
    (msSinceLastTick : Nat)
    (transmitted : Nat → SystemCall Unit)
    (lossy : LossyFdAdapter Adapter) :
    EStateM.Result StdException (LossyFdAdapter Adapter) Unit :=
  ofPart (fun adapter => { lossy with adapter })
    (FdAdapter.tick msSinceLastTick transmitted lossy.adapter)

instance : FdAdapter (LossyFdAdapter Adapter) Packet where
  fd lossy := FdAdapter.fd lossy.adapter
  content := FdAdapter.content Adapter
  setConfig config lossy :=
    { lossy with adapter := FdAdapter.setConfig config lossy.adapter }
  setListening listen lossy :=
    { lossy with adapter := FdAdapter.setListening listen lossy.adapter }
  read := read
  write := write
  tick := tick

end LossyFdAdapter

end Sponge
