import Sponge.PacketParsing

namespace Sponge

/-!
# Segments in IPv4 datagrams

The adapter wraps the segments of one connection in datagrams and unwraps the
datagrams that belong to it.  A listening adapter takes its addresses from the
first SYN it unwraps.
-/

/-- The addresses at both ends of a connection. -/
structure FdAdapterConfig where
  source : Address := {}
  destination : Address := {}
  deriving DecidableEq

/-- What an adapter knows of the connection whose segments it translates. -/
structure TCPOverIPv4Adapter where
  config : FdAdapterConfig := {}
  listen : Bool := false
  deriving DecidableEq

namespace TCPOverIPv4Adapter

/-- Take the addresses of both ends from a segment that opens a connection. -/
def adoptPeer
    (ipDgram : InternetDatagram)
    (tcpSeg : TCPSegment)
    (adapter : TCPOverIPv4Adapter) : TCPOverIPv4Adapter where
  config := {
    source := {
      ipv4Numeric := ipDgram.header.dst
      port := adapter.config.source.port
    }
    destination := {
      ipv4Numeric := ipDgram.header.src
      port := tcpSeg.header.sport
    }
  }
  listen := false

/-- Parse a segment out of a datagram; nothing if it is invalid or unrelated. -/
def unwrapTcpInIp
    (ipDgram : InternetDatagram)
    (adapter : TCPOverIPv4Adapter) :
    EStateM.Result StdException TCPOverIPv4Adapter (Option TCPSegment) :=
  -- a listening adapter takes datagrams for and from any address
  if ¬ adapter.listen ∧
      ipDgram.header.dst ≠ adapter.config.source.ipv4Numeric then
    .ok none adapter
  else if ¬ adapter.listen ∧
      ipDgram.header.src ≠ adapter.config.destination.ipv4Numeric then
    .ok none adapter
  else if ipDgram.header.proto ≠ IPv4Header.protoTcp then
    .ok none adapter
  else
    match ipDgram.payload.toBuffer with
    | .error thrown => .error thrown adapter
    | .ok buffer =>
        match ({} : TCPSegment).parse buffer
            ipDgram.header.pseudoCksum with
        | .error thrown _ => .error thrown adapter
        | .ok result tcpSeg =>
            if result ≠ .noError then
              .ok none adapter
            else if tcpSeg.header.dport ≠ adapter.config.source.port then
              .ok none adapter
            else if adapter.listen ∧
                ¬ (tcpSeg.header.syn ∧ ¬ tcpSeg.header.rst) then
              .ok none adapter
            else
              let adapter :=
                if adapter.listen then
                  adapter.adoptPeer ipDgram tcpSeg
                else
                  adapter
              if tcpSeg.header.sport ≠
                  adapter.config.destination.port then
                .ok none adapter
              else
                .ok (some tcpSeg) adapter

/-- The segment with the ports of the adapter. -/
def addressed
    (adapter : TCPOverIPv4Adapter)
    (seg : TCPSegment) : TCPSegment :=
  { seg with
    header :=
      { seg.header with
        sport := adapter.config.source.port
        dport := adapter.config.destination.port } }

/-- The header of the datagram a segment is wrapped in. -/
def datagramHeader
    (adapter : TCPOverIPv4Adapter)
    (seg : TCPSegment) : IPv4Header where
  src := adapter.config.source.ipv4Numeric
  dst := adapter.config.destination.ipv4Numeric
  len :=
    UInt16.ofNat
      (({} : IPv4Header).hlen.toNat * 4 + seg.header.doff.toNat * 4 +
        seg.payload.length)

/-- Set the ports of a segment and wrap it in a datagram. -/
def wrapTcpInIp
    (adapter : TCPOverIPv4Adapter)
    (seg : TCPSegment) :
    EStateM.Result StdException TCPSegment InternetDatagram :=
  let seg := adapter.addressed seg
  let header := adapter.datagramHeader seg
  match seg.serialize header.pseudoCksum with
  | .error thrown => .error thrown seg
  | .ok payload => .ok { header, payload } seg

end TCPOverIPv4Adapter

/-- The pseudo-header is a sum of a few 16-bit words. -/
theorem IPv4Header.pseudoCksum_le
    (header : IPv4Header) :
    header.pseudoCksum.toNat ≤ 2 ^ 19 := by
  have halves :
      ∀ word : UInt32,
        ((word >>> 16) + (word &&& 0xffff)).toNat ≤ 2 * 65535 := by
    intro word
    have bounded := word.toNat_lt
    rw [InternetChecksum.folded_toNat, OnesComplement.carry]
    omega
  have src := halves header.src
  have dst := halves header.dst
  have proto : header.proto.toUInt32.toNat < 256 := by
    rw [UInt8.toNat_toUInt32]
    exact header.proto.toNat_lt
  have payload : header.payloadLength.toUInt32.toNat < 65536 := by
    rw [UInt16.toNat_toUInt32]
    exact header.payloadLength.toNat_lt
  simp only [pseudoCksum]
  rw [UInt32.toNat_add, UInt32.toNat_add, UInt32.toNat_add]
  omega

namespace TCPOverIPv4Adapter

/-- Wrapping a segment that fits gives a well-formed datagram. -/
theorem wrap_wellFormed
    (adapter : TCPOverIPv4Adapter)
    {seg : TCPSegment}
    (minimal : 5 ≤ seg.header.doff.toNat)
    (fits :
      seg.payload.length + 4 * seg.header.doff.toNat + 20 ≤ 65535) :
    ∃ dgram,
      adapter.wrapTcpInIp seg = .ok dgram (adapter.addressed seg) ∧
        dgram.WellFormed ∧
        dgram.header.src = adapter.config.source.ipv4Numeric ∧
        dgram.header.dst = adapter.config.destination.ipv4Numeric ∧
        dgram.header.proto = IPv4Header.protoTcp ∧
        dgram.payload.concatenate =
          (adapter.addressed seg).image dgram.header.pseudoCksum := by
  have valid : ¬ (adapter.addressed seg).header.doff < 5 :=
    UInt8.not_lt.mpr (UInt8.le_iff_toNat_le.mpr minimal)
  obtain ⟨payload, serialized, content⟩ :=
    TCPSegment.serialize_of_valid valid
      (adapter.datagramHeader (adapter.addressed seg)).pseudoCksum
  refine
    ⟨{ header := adapter.datagramHeader (adapter.addressed seg)
       payload }, ?_, ?_, rfl, rfl, rfl, content⟩
  · simp only [wrapTcpInIp, serialized]
  · have total :
        (adapter.datagramHeader (adapter.addressed seg)).len.toNat =
          4 * 5 + payload.size := by
      rw [BufferList.size_eq_length, content, TCPSegment.length_image]
      change
        (UInt16.ofNat
          (5 * 4 + seg.header.doff.toNat * 4 +
            seg.payload.length)).toNat =
          4 * 5 + (4 * seg.header.doff.toNat + seg.payload.length)
      rw [UInt16.toNat_ofNat']
      omega
    exact ⟨rfl, Nat.le_refl 5, (by decide : 5 ≤ 15), Nat.two_pow_pos 13,
      total⟩

/-- A quiet adapter unwraps a segment addressed to it by its peer. -/
theorem unwrap_of_parsed
    {adapter : TCPOverIPv4Adapter}
    {header : IPv4Header}
    {buffer : Buffer}
    {seg : TCPSegment}
    (quiet : adapter.listen = false)
    (forUs : header.dst = adapter.config.source.ipv4Numeric)
    (fromPeer : header.src = adapter.config.destination.ipv4Numeric)
    (carriesTcp : header.proto = IPv4Header.protoTcp)
    (parsed :
      ({} : TCPSegment).parse buffer header.pseudoCksum =
        .ok .noError seg)
    (ourPort : seg.header.dport = adapter.config.source.port)
    (peerPort : seg.header.sport = adapter.config.destination.port) :
    adapter.unwrapTcpInIp { header, payload := [buffer] } =
      .ok (some seg) adapter := by
  simp [unwrapTcpInIp, quiet, forUs, fromPeer, carriesTcp,
    BufferList.toBuffer, parsed, ourPort, peerPort]

/--
A segment that one adapter wraps and that travels as the bytes of an IPv4
datagram is unwrapped by the mirrored adapter, with the ports of the two and
the checksum computed on the way.
-/
theorem unwrap_wrapped_bytes
    {x y : TCPOverIPv4Adapter}
    {seg : TCPSegment}
    (quiet : y.listen = false)
    (towards : y.config.source = x.config.destination)
    (back : y.config.destination = x.config.source)
    (minimal : 5 ≤ seg.header.doff.toNat)
    (maximal : seg.header.doff.toNat ≤ 15)
    (fits : seg.payload.length ≤ 65535 - 20 - 4 * seg.header.doff.toNat) :
    ∃ dgram sent out,
      x.wrapTcpInIp seg = .ok dgram sent ∧
        dgram.serialize = .ok out ∧
        ∀ self : IPv4Datagram,
          self.header.Accepts (Buffer.ofString out.concatenate) ∧
            ∃ parsed,
              self.parse (Buffer.ofString out.concatenate) =
                  .ok .noError parsed ∧
                y.unwrapTcpInIp parsed =
                  .ok
                    (some {
                      header := {
                        seg.header with
                        sport := x.config.source.port
                        dport := y.config.source.port
                        cksum := sent.checksum dgram.header.pseudoCksum
                      }
                      payload := seg.payload
                    })
                    y := by
  obtain ⟨dgram, wrapped, wellFormed, src, dst, proto, content⟩ :=
    x.wrap_wellFormed minimal (by omega)
  obtain ⟨out, serialized, image⟩ :=
    IPv4Datagram.serialize_of_serializable wellFormed.serializable
  refine ⟨dgram, x.addressed seg, out, wrapped, serialized, ?_⟩
  intro self
  rw [image]
  obtain ⟨next, headerParsed, _⟩ :=
    wellFormed.headerParse_image self.header
  obtain ⟨rest, parsed, left⟩ := wellFormed.parse_image self
  refine ⟨by rw [IPv4Header.Accepts, headerParsed]; rfl, _, parsed, ?_⟩
  have pseudoBound := dgram.header.pseudoCksum_le
  have segParsed :=
    TCPSegment.parse_image
      (show 5 ≤ (x.addressed seg).header.doff.toNat from minimal)
      maximal
      (by
        change _ + 65280 * (4 * seg.header.doff.toNat +
          seg.payload.length) < _
        omega)
      (left.trans content) {}
  have forUs : dgram.headerOut.dst = y.config.source.ipv4Numeric := by
    rw [towards]
    exact dst
  have fromPeer :
      dgram.headerOut.src = y.config.destination.ipv4Numeric := by
    rw [back]
    exact src
  rw [unwrap_of_parsed quiet forUs fromPeer proto segParsed
    (by rw [towards]; rfl) (by rw [back]; rfl), towards]
  rfl

/-- A client on port 1000 of one host. -/
def clientAdapter : TCPOverIPv4Adapter where
  config := {
    source := { ipv4Numeric := 0x0a000001, port := 1000 }
    destination := { ipv4Numeric := 0x0a000002, port := 80 }
  }

/-- The server on port 80 of the other, with the addresses mirrored. -/
def serverAdapter : TCPOverIPv4Adapter where
  config := {
    source := { ipv4Numeric := 0x0a000002, port := 80 }
    destination := { ipv4Numeric := 0x0a000001, port := 1000 }
  }

/-- One byte travels from the client to the server. -/
theorem unwrap_wrapped_bytes_single :
    ∃ dgram sent out,
      clientAdapter.wrapTcpInIp { payload := [97] } = .ok dgram sent ∧
        dgram.serialize = .ok out ∧
        ∃ parsed,
          ({} : IPv4Datagram).parse (Buffer.ofString out.concatenate) =
              .ok .noError parsed ∧
            serverAdapter.unwrapTcpInIp parsed =
              .ok
                (some {
                  header := {
                    sport := 1000
                    dport := 80
                    cksum := sent.checksum dgram.header.pseudoCksum
                  }
                  payload := [97]
                })
                serverAdapter := by
  obtain ⟨dgram, sent, out, wrapped, serialized, received⟩ :=
    @unwrap_wrapped_bytes clientAdapter serverAdapter
      { payload := [97] } rfl rfl rfl (by decide) (by decide) (by decide)
  exact ⟨dgram, sent, out, wrapped, serialized, (received {}).2⟩

end TCPOverIPv4Adapter

end Sponge
