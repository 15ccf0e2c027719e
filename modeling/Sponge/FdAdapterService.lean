import Sponge.FdAdapterEthernet

namespace Sponge

/-!
# Adapters while the kernel cooperates

As long as the kernel hands over packets of a possible size and takes the ones
it is given, no method of an adapter throws, whatever is in the packets.  Every
call of `read` then counts as one read of the descriptor.
-/

/-- Nothing was read, and neither the end nor a closing was noticed. -/
structure FDWrapper.Unread (before after : FDWrapper) : Prop where
  eof : after.eof = before.eof
  closed : after.closed = before.closed
  readCount : after.readCount = before.readCount

theorem FDWrapper.Unread.refl
    (fd : FDWrapper) :
    fd.Unread fd :=
  ⟨rfl, rfl, rfl⟩

theorem FDWrapper.Unread.trans
    {first second third : FDWrapper}
    (early : first.Unread second)
    (late : second.Unread third) :
    first.Unread third where
  eof := late.eof.trans early.eof
  closed := late.closed.trans early.closed
  readCount := late.readCount.trans early.readCount

/-- One message was read; an empty one may be the end. -/
structure FDWrapper.ReadOnce
    (message : Bytes)
    (before after : FDWrapper) : Prop where
  eof : message ≠ [] → after.eof = before.eof
  closed : after.closed = before.closed
  readCount : after.readCount = before.readCount + 1

theorem FDWrapper.ReadOnce.followed
    {message : Bytes}
    {first second third : FDWrapper}
    (read : first.ReadOnce message second)
    (later : second.Unread third) :
    first.ReadOnce message third where
  eof nonempty := later.eof.trans (read.eof nonempty)
  closed := later.closed.trans read.closed
  readCount := later.readCount.trans read.readCount

/-- The largest packet that a kernel hands over. -/
def largestPacket : Nat := 65536

/-- A transport whose methods return while the kernel cooperates. -/
class Prompt
    (Adapter : Type)
    {Packet : outParam Type}
    [FdAdapter Adapter Packet]
    [Transport Adapter] : Prop where
  configured :
    ∀ config (adapter : Adapter),
      FdAdapter.fd (FdAdapter.setConfig config adapter) =
        FdAdapter.fd adapter
  listening :
    ∀ listen (adapter : Adapter),
      FdAdapter.fd (FdAdapter.setListening listen adapter) =
        FdAdapter.fd adapter
  read :
    ∀ {segs : List TCPSegment} {adapter : Adapter} {packet : Packet}
      {transmitted : Nat → SystemCall Unit},
      Transport.Holds segs adapter →
      (FdAdapter.content Adapter packet).length ≤ largestPacket →
      (∀ sent, transmitted sent = .ok ()) →
      let outcome := FdAdapter.read (.ok packet) transmitted adapter
      (∃ seg, returned outcome = some seg) ∧
        (FdAdapter.fd adapter).ReadOnce
          (FdAdapter.content Adapter packet)
          (FdAdapter.fd (finalState outcome)).toFDWrapper
  write :
    ∀ {segs : List TCPSegment} {adapter : Adapter} {seg : TCPSegment}
      {transmitted : Nat → SystemCall Unit},
      Transport.Holds segs adapter →
      seg.Sendable →
      (∀ sent, transmitted sent = .ok ()) →
      let outcome := FdAdapter.write seg transmitted adapter
      returned outcome = some () ∧
        (FdAdapter.fd adapter).Unread
          (FdAdapter.fd (finalState outcome)).toFDWrapper
  tick :
    ∀ {segs : List TCPSegment} {adapter : Adapter}
      {transmitted : Nat → SystemCall Unit},
      Transport.Holds segs adapter →
      (∀ sent, transmitted sent = .ok ()) →
      ∀ ms,
        let outcome := FdAdapter.tick ms transmitted adapter
        returned outcome = some () ∧
          (FdAdapter.fd adapter).Unread
            (FdAdapter.fd (finalState outcome)).toFDWrapper

instance : Prompt TCPOverUDPSocketAdapter where
  configured _ _ := rfl
  listening _ _ := rfl
  read := by
    intro segs adapter datagram transmitted _ fits _
    change (∃ seg, returned (adapter.read (.ok datagram)) = some seg) ∧
      FDWrapper.ReadOnce datagram.payload adapter.sock.toFDWrapper
        (finalState (adapter.read (.ok datagram))).sock.toFDWrapper
    rcases adapter.read_cases fits with
      nothing | ⟨seg, config, listen, _, same⟩
    · rw [nothing]
      exact ⟨⟨_, rfl⟩, fun _ => rfl, rfl, rfl⟩
    · rw [same]
      exact ⟨⟨_, rfl⟩, fun _ => rfl, rfl, rfl⟩
  write := by
    intro segs adapter seg transmitted _ sendable accepted
    change returned (adapter.write seg transmitted) = some () ∧
      FDWrapper.Unread adapter.sock.toFDWrapper
        (finalState (adapter.write seg transmitted)).sock.toFDWrapper
    rcases adapter.write_cases sendable transmitted with
      ⟨thrown, refused, _⟩ | ⟨sport, dport, same⟩
    · rw [accepted] at refused
      cases refused
    · rw [same]
      exact ⟨rfl, rfl, rfl, rfl⟩
  tick _ _ _ := ⟨rfl, .refl _⟩

theorem FileDescriptor.readOnce_heard
    (bytes : Bytes)
    (fd : FileDescriptor Bytes) :
    fd.ReadOnce bytes (fd.heard bytes).toFDWrapper := by
  refine ⟨fun nonempty => ?_, rfl, rfl⟩
  cases bytes with
  | nil => exact absurd rfl nonempty
  | cons byte rest => exact Bool.or_false _

theorem fits_bufferSize
    {bytes : Bytes}
    (fits : bytes.length ≤ largestPacket) :
    bytes.length ≤ FileDescriptor.bufferSize :=
  Nat.le_trans fits (by decide)

/-- Unwrapping what was parsed returns. -/
theorem TCPOverIPv4Adapter.unwrap_parsed
    {bytes : Bytes}
    {dgram : InternetDatagram}
    (parsed :
      ({} : InternetDatagram).parse (Buffer.ofString bytes) =
        .ok .noError dgram)
    (adapter : TCPOverIPv4Adapter) :
    ∃ seg, returned (adapter.unwrapTcpInIp dgram) = some seg := by
  obtain ⟨rest, single⟩ := IPv4Datagram.parse_single parsed
  exact adapter.unwrapTcpInIp_returns single

instance : Prompt TCPOverIPv4OverTunFdAdapter where
  configured _ _ := rfl
  listening _ _ := rfl
  read := by
    intro segs adapter bytes transmitted _ fits _
    change bytes.length ≤ largestPacket at fits
    change (∃ seg, returned (adapter.read (.ok bytes)) = some seg) ∧
      FDWrapper.ReadOnce bytes adapter.tun.toFDWrapper
        (finalState (adapter.read (.ok bytes))).tun.toFDWrapper
    obtain ⟨result, dgram, parsed⟩ :=
      IPv4Datagram.parse_returns (Buffer.ofString bytes) {}
    have once := adapter.tun.readOnce_heard bytes
    rw [adapter.read_packet (fits_bufferSize fits) parsed]
    split
    · exact ⟨⟨_, rfl⟩, once⟩
    · rename_i valid
      rw [not_not.mp valid] at parsed
      rw [returned_ofPart, finalState_ofPart]
      exact ⟨adapter.unwrap_parsed parsed, once⟩
  write := by
    intro segs adapter seg transmitted _ sendable accepted
    change returned (adapter.write seg transmitted) = some () ∧
      FDWrapper.Unread adapter.tun.toFDWrapper
        (finalState (adapter.write seg transmitted)).tun.toFDWrapper
    rcases adapter.write_cases sendable transmitted with
      ⟨thrown, refused, _⟩ | ⟨dgram, _, same⟩
    · rw [accepted] at refused
      cases refused
    · rw [same]
      exact ⟨rfl, rfl, rfl, rfl⟩
  tick _ _ _ := ⟨rfl, .refl _⟩

namespace NetworkInterface

variable {segs : List TCPSegment} {before : NetworkInterface}

/-- Whatever is received, the datagrams that were waiting can be sent. -/
theorem Bears.recvFrame_returns
    (bears : before.Bears segs)
    (frame : EthernetFrame) :
    ∃ dgram after, before.recvFrame frame = .ok dgram after := by
  cases heard : before.heardIn frame with
  | none =>
      exact ⟨_, _, recvFrame_of_not_heard heard⟩
  | some message =>
      obtain ⟨flushed, remaining, frames, replies, learned, returns⟩ :=
        learn_learned (heardIn_supported heard) before
      have allSent :=
        learned.remaining_eq_nil fun dgram waits => by
          obtain ⟨seg, _, wraps⟩ := bears.waiting _ dgram waits
          exact wraps.wellFormed.serializable
      have value := (recvFrame_of_heard heard).2
      rw [returns allSent] at value
      exact ⟨_, _, eq_ok_of_returned value⟩

end NetworkInterface

namespace TCPOverIPv4OverEthernetAdapter

variable {segs : List TCPSegment}
variable {adapter : TCPOverIPv4OverEthernetAdapter}
variable {transmitted : Nat → SystemCall Unit}

theorem sendLoop_returns
    (accepted : ∀ sent, transmitted sent = .ok ())
    (frames : List EthernetFrame)
    (tap : FileDescriptor Bytes) :
    returned (sendLoop transmitted frames tap) = some () ∧
      tap.Unread
        (finalState (sendLoop transmitted frames tap)).2.toFDWrapper := by
  induction frames generalizing tap with
  | nil =>
      exact ⟨rfl, .refl _⟩
  | cons frame rest inductionHypothesis =>
      obtain ⟨returns, unread⟩ :=
        inductionHypothesis (tap.took frame.serialize.concatenate)
      have taken :
          tap.Unread (tap.took frame.serialize.concatenate).toFDWrapper :=
        ⟨rfl, rfl, rfl⟩
      simp only [sendLoop, FileDescriptor.transmit_eq, accepted]
      exact ⟨returns, taken.trans unread⟩

theorem sendPending_returns
    (accepted : ∀ sent, transmitted sent = .ok ())
    (adapter : TCPOverIPv4OverEthernetAdapter) :
    ∃ next,
      adapter.sendPending transmitted = .ok () next ∧
        adapter.tap.Unread next.tap.toFDWrapper := by
  obtain ⟨returns, unread⟩ :=
    sendLoop_returns accepted adapter.interface.framesOut adapter.tap
  rw [sendPending, eq_ok_of_returned returns]
  exact ⟨_, rfl, unread⟩

instance : Prompt TCPOverIPv4OverEthernetAdapter where
  configured _ _ := rfl
  listening _ _ := rfl
  read := by
    intro segs adapter bytes transmitted holding fits accepted
    change bytes.length ≤ largestPacket at fits
    have once := adapter.tap.readOnce_heard bytes
    obtain ⟨frame, parsed, _⟩ := EthernetFrame.parse_bytes bytes
    obtain ⟨ipDgram, interface, received⟩ :=
      (show adapter.interface.Bears segs from
        holding.interface).recvFrame_returns frame
    obtain ⟨sent, sends, unread⟩ :=
      sendPending_returns accepted
        { adapter with tap := adapter.tap.heard bytes, interface }
    have followed := once.followed unread
    change
      (∃ seg, returned (adapter.read (.ok bytes) transmitted) = some seg) ∧
        FDWrapper.ReadOnce bytes adapter.tap.toFDWrapper
          (finalState
            (adapter.read (.ok bytes) transmitted)).tap.toFDWrapper
    simp only [TCPOverIPv4OverEthernetAdapter.read,
      FileDescriptor.read_heard (fits_bufferSize fits), parsed, ne_eq,
      not_true_eq_false, if_false, received, sends]
    cases ipDgram with
    | none =>
        exact ⟨⟨_, rfl⟩, followed⟩
    | some dgram =>
        have parses :=
          (NetworkInterface.recvFrame_parsed received).2
        dsimp only
        rw [returned_ofPart, finalState_ofPart]
        exact ⟨sent.unwrap_parsed parses, followed⟩
  write := by
    intro segs adapter seg transmitted holding sendable accepted
    change returned (adapter.write seg transmitted) = some () ∧
      FDWrapper.Unread adapter.tap.toFDWrapper
        (finalState (adapter.write seg transmitted)).tap.toFDWrapper
    obtain ⟨dgram, wrapped, wraps⟩ :=
      adapter.toTCPOverIPv4Adapter.wrap_wraps sendable
    have queued :=
      eq_ok_of_returned
        (NetworkInterface.sendDatagram_returns
          wraps.wellFormed.serializable adapter.nextHop
          adapter.interface)
    obtain ⟨sent, sends, unread⟩ :=
      sendPending_returns accepted
        { adapter with
          interface :=
            finalState
              (adapter.interface.sendDatagram dgram adapter.nextHop) }
    simp only [TCPOverIPv4OverEthernetAdapter.write, wrapped]
    rw [queued]
    dsimp only
    rw [sends]
    exact ⟨rfl, unread⟩
  tick := by
    intro segs adapter transmitted _ accepted ms
    obtain ⟨sent, sends, unread⟩ :=
      sendPending_returns accepted
        { adapter with interface := adapter.interface.tick ms }
    change returned (adapter.tick ms transmitted) = some () ∧
      FDWrapper.Unread adapter.tap.toFDWrapper
        (finalState (adapter.tick ms transmitted)).tap.toFDWrapper
    rw [TCPOverIPv4OverEthernetAdapter.tick, sends]
    exact ⟨rfl, unread⟩

end TCPOverIPv4OverEthernetAdapter

instance
    {Adapter Packet : Type}
    [FdAdapter Adapter Packet]
    [Transport Adapter]
    [Prompt Adapter] :
    Prompt (LossyFdAdapter Adapter) where
  configured config lossy := Prompt.configured config lossy.adapter
  listening listen lossy := Prompt.listening listen lossy.adapter
  read := by
    intro segs lossy packet transmitted holds fits accepted
    obtain ⟨⟨seg, returns⟩, once⟩ :=
      @Prompt.read Adapter Packet _ _ _ segs lossy.adapter packet
        transmitted holds fits accepted
    obtain ⟨state, value⟩ := lossy.read_cases (.ok packet) transmitted
    refine ⟨?_, ?_⟩
    · rcases value with same | dropped
      · exact ⟨seg, same.trans returns⟩
      · exact ⟨none, dropped⟩
    · change FDWrapper.ReadOnce _ _
        (FdAdapter.fd
          (finalState
            (lossy.read (.ok packet) transmitted)).adapter).toFDWrapper
      rw [state]
      exact once
  write := by
    intro segs lossy seg transmitted holds sendable accepted
    have kept := lossy.shouldDrop_adapter true
    change returned (lossy.write seg transmitted) = some () ∧
      FDWrapper.Unread (FdAdapter.fd lossy.adapter).toFDWrapper
        (FdAdapter.fd
          (finalState (lossy.write seg transmitted)).adapter).toFDWrapper
    simp only [LossyFdAdapter.write]
    split
    · refine ⟨rfl, ?_⟩
      change FDWrapper.Unread _
        (FdAdapter.fd (lossy.shouldDrop true).2.adapter).toFDWrapper
      rw [kept]
      exact .refl _
    · rw [returned_ofPart, finalState_ofPart, kept]
      exact @Prompt.write Adapter Packet _ _ _ segs lossy.adapter seg
        transmitted holds sendable accepted
  tick := by
    intro segs lossy transmitted holds accepted ms
    change returned (lossy.tick ms transmitted) = some () ∧
      FDWrapper.Unread (FdAdapter.fd lossy.adapter).toFDWrapper
        (FdAdapter.fd
          (finalState (lossy.tick ms transmitted)).adapter).toFDWrapper
    rw [LossyFdAdapter.tick, returned_ofPart, finalState_ofPart]
    exact @Prompt.tick Adapter Packet _ _ _ segs lossy.adapter
      transmitted holds accepted ms

end Sponge
