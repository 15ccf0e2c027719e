import Sponge.NetworkInterfaceRun
import Sponge.PacketDamage
import Sponge.TCPSender

namespace Sponge

/-!
# Adapters as transports

Seen from the connections at both ends, an adapter is a transport: whatever
comes out of it at one end was put into it at the other, apart from the ports
and the checksum, which adapters fill in.  That holds of every packet an adapter
has sent, in whatever state the adapter is that reads it, and of packets with
damage that the checks of the adapter notice.
-/

/-- The same segment, apart from what an adapter fills in. -/
def TCPSegment.Repeats (seg original : TCPSegment) : Prop :=
  ∃ sport dport cksum,
    seg = { original with
      header := { original.header with sport, dport, cksum } }

/-- A segment as senders make them. -/
structure TCPSegment.Sendable (seg : TCPSegment) : Prop where
  doff : seg.header.doff = 5
  short : seg.payload.length ≤ TCPConfig.maxPayloadSize

/-- Only these segments can be read from a packet with this content. -/
def FdAdapter.Conveys
    (Adapter : Type)
    {Packet : Type}
    [FdAdapter Adapter Packet]
    (segs : List TCPSegment)
    (bytes : Bytes) : Prop :=
  ∀ packet : Packet,
    FdAdapter.content Adapter packet = bytes →
    ∀ transmitted (adapter : Adapter) seg,
      returned (FdAdapter.read (.ok packet) transmitted adapter) =
        some (some seg) →
      ∃ original ∈ segs, seg.Repeats original

/--
What makes an adapter a transport.  `Holds segs` says that whatever the adapter
has sent or keeps back is one of the segments.
-/
class Transport
    (Adapter : Type)
    {Packet : outParam Type}
    [FdAdapter Adapter Packet] where
  Holds : List TCPSegment → Adapter → Prop
  /-- Damage that the adapter notices. -/
  Alters : Bytes → Bytes → Prop
  mono :
    ∀ {segs more : List TCPSegment} {adapter : Adapter},
      Holds segs adapter →
      segs ⊆ more →
      Holds more adapter
  configured :
    ∀ {segs : List TCPSegment} {adapter : Adapter},
      Holds segs adapter →
      ∀ config, Holds segs (FdAdapter.setConfig config adapter)
  listening :
    ∀ {segs : List TCPSegment} {adapter : Adapter},
      Holds segs adapter →
      ∀ listen, Holds segs (FdAdapter.setListening listen adapter)
  conveys :
    ∀ {segs : List TCPSegment} {adapter : Adapter} {packet : Packet},
      Holds segs adapter →
      packet ∈ (FdAdapter.fd adapter).sent →
      FdAdapter.Conveys Adapter segs (FdAdapter.content Adapter packet)
  altered :
    ∀ {segs : List TCPSegment} {adapter : Adapter} {packet : Packet}
      {bytes : Bytes},
      Holds segs adapter →
      packet ∈ (FdAdapter.fd adapter).sent →
      Alters (FdAdapter.content Adapter packet) bytes →
      FdAdapter.Conveys Adapter segs bytes
  refused :
    ∀ thrown transmitted (adapter : Adapter),
      FdAdapter.read (.error thrown) transmitted adapter =
        .error thrown adapter
  read :
    ∀ {segs : List TCPSegment} {adapter : Adapter},
      Holds segs adapter →
      ∀ answer transmitted,
        Holds segs
          (finalState (FdAdapter.read answer transmitted adapter))
  write :
    ∀ {segs : List TCPSegment} {adapter : Adapter} {seg : TCPSegment},
      Holds segs adapter →
      seg ∈ segs →
      seg.Sendable →
      ∀ transmitted,
        Holds segs (finalState (FdAdapter.write seg transmitted adapter))
  tick :
    ∀ {segs : List TCPSegment} {adapter : Adapter},
      Holds segs adapter →
      ∀ ms transmitted,
        Holds segs (finalState (FdAdapter.tick ms transmitted adapter))

/-- The segment with other ports. -/
def TCPSegment.withPorts
    (seg : TCPSegment)
    (sport dport : UInt16) : TCPSegment :=
  { seg with header := { seg.header with sport, dport } }

namespace TCPSegment

theorem Sendable.doff_eq
    {seg : TCPSegment}
    (sendable : seg.Sendable) :
    seg.header.doff.toNat = 5 := by
  rw [sendable.doff]
  rfl

/-- What a sendable segment is sent as is read as the segment. -/
theorem Sendable.parse_image
    {seg : TCPSegment}
    (sendable : seg.Sendable)
    {pseudo : UInt32}
    (small : pseudo.toNat ≤ 2 ^ 19)
    {sport dport : UInt16}
    {buffer : Buffer}
    (content : buffer.str = (seg.withPorts sport dport).image pseudo) :
    ∃ read,
      ({} : TCPSegment).parse buffer pseudo = .ok .noError read ∧
        read.Repeats seg := by
  have doff := sendable.doff_eq
  have short := sendable.short
  have parsed :=
    TCPSegment.parse_image
      (show 5 ≤ (seg.withPorts sport dport).header.doff.toNat from
        doff.ge)
      (show seg.header.doff.toNat ≤ 15 by omega)
      (by
        change _ + 65280 * (4 * seg.header.doff.toNat +
          seg.payload.length) < _
        unfold TCPConfig.maxPayloadSize at short
        omega)
      content {}
  exact ⟨_, parsed, sport, dport, _, rfl⟩

theorem Sendable.serialize
    {seg : TCPSegment}
    (sendable : seg.Sendable)
    (sport dport : UInt16)
    (pseudo : UInt32) :
    ∃ out,
      (seg.withPorts sport dport).serialize pseudo = .ok out ∧
        out.concatenate = (seg.withPorts sport dport).image pseudo := by
  apply serialize_of_valid
  change ¬ seg.header.doff < 5
  rw [sendable.doff]
  decide

end TCPSegment

/-! ## UDP -/

namespace TCPOverUDPSocketAdapter

/-- The payload of a datagram that carries one of the segments. -/
def Carried
    (segs : List TCPSegment)
    (bytes : Bytes) : Prop :=
  ∃ seg ∈ segs,
    seg.Sendable ∧
      ∃ sport dport, bytes = (seg.withPorts sport dport).image 0

/-- The adapter after a datagram was received. -/
def heard
    (adapter : TCPOverUDPSocketAdapter)
    (datagram : UDPDatagram) : TCPOverUDPSocketAdapter :=
  { adapter with
    sock := { adapter.sock.registerRead with
      received := adapter.sock.received ++ [datagram] } }

/-- Nothing is read, or the segment in the payload. -/
theorem read_cases
    {datagram : UDPDatagram}
    (fits : datagram.payload.length ≤ 65536)
    (adapter : TCPOverUDPSocketAdapter) :
    adapter.read (.ok datagram) = .ok none (adapter.heard datagram) ∨
      ∃ seg config listen,
        ({} : TCPSegment).parse (Buffer.ofString datagram.payload) 0 =
            .ok .noError seg ∧
          adapter.read (.ok datagram) =
            .ok (some seg)
              { adapter.heard datagram with config, listen } := by
  obtain ⟨result, seg, parses⟩ :=
    TCPSegment.parse_returns (Buffer.ofString datagram.payload) 0 {}
  simp only [read, UDPSocket.recv, gt_iff_lt, Nat.not_lt.mpr fits,
    if_false, parses]
  split
  · exact .inl rfl
  split
  · exact .inl rfl
  rename_i valid
  rw [not_not.mp valid]
  split
  · split
    · exact .inr ⟨seg, _, _, rfl, rfl⟩
    · exact .inl rfl
  · exact .inr ⟨seg, _, _, rfl, rfl⟩

theorem read_oversized
    {datagram : UDPDatagram}
    (large : 65536 < datagram.payload.length)
    (adapter : TCPOverUDPSocketAdapter) :
    adapter.read (.ok datagram) =
      .error (.runtimeError "recvfrom (oversized datagram)") adapter := by
  simp only [read, UDPSocket.recv, gt_iff_lt, large, if_true]

theorem read_sent
    (answer : SystemCall UDPDatagram)
    (adapter : TCPOverUDPSocketAdapter) :
    (finalState (adapter.read answer)).sock.sent =
      adapter.sock.sent := by
  cases answer with
  | error thrown =>
      rfl
  | ok datagram =>
      by_cases fits : datagram.payload.length ≤ 65536
      · rcases adapter.read_cases fits with
          same | ⟨_, _, _, _, same⟩ <;>
        · rw [same]
          rfl
      · rw [read_oversized (Nat.lt_of_not_le fits)]
        rfl

theorem read_parsed
    {datagram : UDPDatagram}
    {adapter : TCPOverUDPSocketAdapter}
    {seg : TCPSegment}
    (returns :
      returned (adapter.read (.ok datagram)) = some (some seg)) :
    ({} : TCPSegment).parse (Buffer.ofString datagram.payload) 0 =
      .ok .noError seg := by
  by_cases fits : datagram.payload.length ≤ 65536
  · rcases adapter.read_cases fits with
      same | ⟨_, _, _, parsed, same⟩
    · rw [same] at returns
      cases returns
    · rw [same] at returns
      cases returns
      exact parsed
  · rw [read_oversized (Nat.lt_of_not_le fits)] at returns
    cases returns

/-- A segment that can be sent is sent as one payload, or not at all. -/
theorem write_cases
    {seg : TCPSegment}
    (sendable : seg.Sendable)
    (transmitted : Nat → SystemCall Unit)
    (adapter : TCPOverUDPSocketAdapter) :
    (∃ thrown,
      transmitted adapter.sock.sent.length = .error thrown ∧
        adapter.write seg transmitted = .error thrown adapter) ∨
      ∃ sport dport,
        adapter.write seg transmitted =
          .ok () { adapter with
            sock := { adapter.sock.registerWrite with
              sent := adapter.sock.sent ++
                [⟨adapter.config.destination,
                  (seg.withPorts sport dport).image 0⟩] } } := by
  obtain ⟨out, serialized, image⟩ :=
    sendable.serialize adapter.config.source.port
      adapter.config.destination.port 0
  rw [TCPSegment.withPorts] at serialized
  simp only [write, serialized]
  cases answer : transmitted adapter.sock.sent.length with
  | error thrown =>
      exact .inl ⟨thrown, rfl, rfl⟩
  | ok _ =>
      refine .inr ⟨adapter.config.source.port,
        adapter.config.destination.port, ?_⟩
      rw [← image]
      simp [Except.map, UDPSocket.sendto, ofPart]

theorem conveys_of_carried
    {segs : List TCPSegment}
    {bytes : Bytes}
    (carried : Carried segs bytes) :
    FdAdapter.Conveys TCPOverUDPSocketAdapter segs bytes := by
  obtain ⟨original, member, sendable, sport, dport, rfl⟩ := carried
  intro datagram content transmitted adapter seg returns
  obtain ⟨read, parsed, repeats⟩ :=
    @TCPSegment.Sendable.parse_image original sendable 0 (by decide)
      sport dport (Buffer.ofString datagram.payload)
      ((Buffer.ofString_str _).trans content)
  rw [read_parsed returns] at parsed
  cases parsed
  exact ⟨original, member, repeats⟩

/-- A changed word is noticed wherever it is. -/
theorem conveys_of_altered
    {segs : List TCPSegment}
    {change : WordChange}
    (carried : Carried segs change.before) :
    FdAdapter.Conveys TCPOverUDPSocketAdapter segs change.after := by
  obtain ⟨original, member, sendable, sport, dport, same⟩ := carried
  intro datagram content transmitted adapter seg returns
  obtain ⟨_, accepted, _⟩ :=
    @TCPSegment.Sendable.parse_image original sendable 0 (by decide)
      sport dport (Buffer.ofString change.before)
      ((Buffer.ofString_str _).trans same)
  have verified := TCPSegment.verifies_of_parsed accepted
  have verifies :=
    TCPSegment.verifies_of_parsed (read_parsed returns)
  rw [Buffer.ofString_str] at verified verifies
  have sized : change.before.length ≤ 20 + 1000 := by
    rw [same, TCPSegment.length_image]
    exact Nat.add_le_add (Nat.le_of_eq
      (congrArg (4 * ·) sendable.doff_eq)) sendable.short
  rw [show datagram.payload = change.after from content] at verifies
  refine absurd verifies
    (InternetChecksum.value_after_change change ?_ verified)
  change 0 + _ < _
  omega

theorem Carried.mono
    {segs more : List TCPSegment}
    {bytes : Bytes}
    (carried : Carried segs bytes)
    (subset : segs ⊆ more) :
    Carried more bytes := by
  obtain ⟨seg, member, rest⟩ := carried
  exact ⟨seg, subset member, rest⟩

instance : Transport TCPOverUDPSocketAdapter where
  Holds segs adapter :=
    ∀ datagram ∈ adapter.sock.sent, Carried segs datagram.payload
  Alters before after :=
    ∃ change : WordChange,
      change.before = before ∧ change.after = after
  mono holds subset datagram member := (holds datagram member).mono subset
  configured holds _ := holds
  listening holds _ := holds
  conveys holds member := conveys_of_carried (holds _ member)
  altered := by
    rintro segs adapter datagram _ holds member ⟨change, same, rfl⟩
    exact conveys_of_altered (same ▸ holds datagram member)
  refused _ _ _ := rfl
  read := by
    intro segs adapter holds answer _ datagram member
    change datagram ∈ (finalState (adapter.read answer)).sock.sent
      at member
    rw [read_sent] at member
    exact holds datagram member
  write := by
    intro segs adapter seg holds known sendable transmitted datagram
      member
    change datagram ∈ (finalState (adapter.write seg transmitted)).sock.sent
      at member
    rcases adapter.write_cases sendable transmitted with
      ⟨thrown, _, same⟩ | ⟨sport, dport, same⟩
    · rw [same] at member
      exact holds datagram member
    · rw [same] at member
      rcases List.mem_append.mp member with earlier | last
      · exact holds datagram earlier
      · rw [List.mem_singleton.mp last]
        exact ⟨seg, known, sendable, sport, dport, rfl⟩
  tick holds _ _ := holds

end TCPOverUDPSocketAdapter

/-! ## IPv4 -/

/-- A datagram in which an adapter wrapped the segment. -/
structure InternetDatagram.Wraps
    (dgram : InternetDatagram)
    (seg : TCPSegment) : Prop where
  sendable : seg.Sendable
  wellFormed : dgram.WellFormed
  plain : dgram.header.hlen = 5
  carriesTcp : dgram.header.proto = IPv4Header.protoTcp
  carried :
    ∃ sport dport,
      dgram.payload.concatenate =
        (seg.withPorts sport dport).image dgram.header.pseudoCksum

/-- The bytes of a datagram in which one of the segments is wrapped. -/
def WrappedIn
    (segs : List TCPSegment)
    (bytes : Bytes) : Prop :=
  ∃ seg ∈ segs, ∃ dgram : InternetDatagram,
    dgram.Wraps seg ∧ bytes = dgram.image

theorem WrappedIn.mono
    {segs more : List TCPSegment}
    {bytes : Bytes}
    (wrapped : WrappedIn segs bytes)
    (subset : segs ⊆ more) :
    WrappedIn more bytes := by
  obtain ⟨seg, member, rest⟩ := wrapped
  exact ⟨seg, subset member, rest⟩

namespace TCPOverIPv4Adapter

theorem wrap_wraps
    {seg : TCPSegment}
    (sendable : seg.Sendable)
    (adapter : TCPOverIPv4Adapter) :
    ∃ dgram,
      adapter.wrapTcpInIp seg = .ok dgram (adapter.addressed seg) ∧
        dgram.Wraps seg := by
  have doff := sendable.doff_eq
  have short := sendable.short
  unfold TCPConfig.maxPayloadSize at short
  obtain ⟨dgram, wrapped, wellFormed, _, _, proto, content⟩ :=
    adapter.wrap_wellFormed doff.ge (by omega)
  refine ⟨dgram, wrapped, sendable, wellFormed, ?_, proto,
    adapter.config.source.port, adapter.config.destination.port,
    content⟩
  simp only [wrapTcpInIp] at wrapped
  split at wrapped
  · cases wrapped
  · cases wrapped
    rfl

end TCPOverIPv4Adapter

namespace InternetDatagram.Wraps

variable {dgram : InternetDatagram} {seg : TCPSegment}

/-- Whatever is read from the payload repeats the segment. -/
theorem parse_repeats
    (wraps : dgram.Wraps seg)
    {rest : Buffer}
    (content : rest.str = dgram.payload.concatenate) :
    ∃ read,
      ({} : TCPSegment).parse rest dgram.header.pseudoCksum =
          .ok .noError read ∧
        read.Repeats seg := by
  obtain ⟨sport, dport, image⟩ := wraps.carried
  exact wraps.sendable.parse_image dgram.header.pseudoCksum_le
    (content.trans image)

/-- A segment that any adapter unwraps repeats the one that was wrapped. -/
theorem unwrap_repeats
    (wraps : dgram.Wraps seg)
    {parsed : InternetDatagram}
    (parses :
      ({} : InternetDatagram).parse (Buffer.ofString dgram.image) =
        .ok .noError parsed)
    {adapter : TCPOverIPv4Adapter}
    {read : TCPSegment}
    (returns :
      returned (adapter.unwrapTcpInIp parsed) = some (some read)) :
    read.Repeats seg := by
  obtain ⟨rest, image, content⟩ := wraps.wellFormed.parse_image {}
  rw [image] at parses
  cases parses
  rcases TCPOverIPv4Adapter.unwrapTcpInIp_cases
      { header := dgram.headerOut, payload := [rest] } adapter with
    ignored | ⟨other, after, same, carries, _⟩
  · exact absurd returns (ignored.nothing read)
  · rw [same] at returns
    cases returns
    obtain ⟨buffer, toBuffer, parsed⟩ := carries.parsed
    cases toBuffer
    obtain ⟨expected, expectedParsed, repeats⟩ :=
      wraps.parse_repeats content
    have samePseudo :
        dgram.headerOut.pseudoCksum = dgram.header.pseudoCksum :=
      rfl
    rw [samePseudo, expectedParsed] at parsed
    cases parsed
    exact repeats

theorem length_image_le
    (wraps : dgram.Wraps seg) :
    dgram.image.length ≤ 65535 := by
  rw [wraps.wellFormed.length_image]
  exact Nat.le_of_lt_succ dgram.header.len.toNat_lt

theorem intact
    (wraps : dgram.Wraps seg) :
    IntactDatagram dgram.image := by
  have wellFormed := wraps.wellFormed
  have minimal := wellFormed.minimal
  have total := wellFormed.total
  have header := wellFormed.ofBytes_image
  have plain : dgram.headerOut.hlen = 5 := wraps.plain
  have rest :
      dgram.image.drop 20 = dgram.payload.concatenate := by
    refine List.drop_left' ?_
    rw [IPv4Datagram.length_headerImage, wraps.plain]
    rfl
  refine ⟨?_, wraps.length_image_le, ?_, ?_, ?_, ?_⟩
  · rw [wellFormed.length_image]
    change 20 ≤ _
    omega
  · rw [header]
    exact plain
  · rw [header, wellFormed.length_image]
    rfl
  · rw [header]
    exact wraps.carriesTcp
  · obtain ⟨_, parsed, _⟩ :=
      wraps.parse_repeats
        (Buffer.ofString_str dgram.payload.concatenate)
    have verifies := TCPSegment.verifies_of_parsed parsed
    rw [Buffer.ofString_str] at verifies
    rw [header, rest]
    exact verifies

end InternetDatagram.Wraps

theorem FileDescriptor.read_sent
    (limit : Nat)
    (answer : SystemCall Bytes)
    (fd : FileDescriptor Bytes) :
    (finalState (fd.read limit answer)).sent = fd.sent := by
  cases answer with
  | error thrown =>
      rfl
  | ok bytes =>
      simp only [read]
      repeat' split
      all_goals rfl

namespace TCPOverIPv4OverTunFdAdapter

theorem read_sent
    (answer : SystemCall Bytes)
    (adapter : TCPOverIPv4OverTunFdAdapter) :
    (finalState (adapter.read answer)).tun.sent = adapter.tun.sent := by
  have kept := adapter.tun.read_sent sizeMax answer
  simp only [read]
  cases result : adapter.tun.read sizeMax answer with
  | error thrown tun =>
      rw [result] at kept
      exact kept
  | ok bytes tun =>
      rw [result] at kept
      obtain ⟨outcome, dgram, parsed⟩ :=
        IPv4Datagram.parse_returns (Buffer.ofString bytes) {}
      simp only [parsed]
      split
      · exact kept
      · rw [finalState_ofPart]
        exact kept

/-- A segment is read by unwrapping the datagram. -/
theorem read_unwraps
    {bytes : Bytes}
    (fits : bytes.length ≤ 65535)
    {adapter : TCPOverIPv4OverTunFdAdapter}
    {seg : TCPSegment}
    (returns :
      returned (adapter.read (.ok bytes)) = some (some seg)) :
    ∃ dgram,
      ({} : InternetDatagram).parse (Buffer.ofString bytes) =
          .ok .noError dgram ∧
        returned (adapter.unwrapTcpInIp dgram) = some (some seg) := by
  obtain ⟨result, dgram, parsed⟩ :=
    IPv4Datagram.parse_returns (Buffer.ofString bytes) {}
  rw [adapter.read_packet (Nat.le_trans fits (by decide)) parsed]
    at returns
  split at returns
  · cases returns
  · rename_i valid
    rw [returned_ofPart] at returns
    rw [not_not.mp valid] at parsed
    exact ⟨dgram, parsed, returns⟩

theorem conveys_of_wrapped
    {segs : List TCPSegment}
    {bytes : Bytes}
    (wrapped : WrappedIn segs bytes) :
    FdAdapter.Conveys TCPOverIPv4OverTunFdAdapter segs bytes := by
  obtain ⟨original, member, dgram, wraps, rfl⟩ := wrapped
  intro packet content transmitted adapter seg returns
  rw [show packet = dgram.image from content] at returns
  obtain ⟨parsed, parses, unwraps⟩ :=
    read_unwraps wraps.length_image_le returns
  exact ⟨original, member, wraps.unwrap_repeats parses unwraps⟩

/-- A changed word is noticed or harmless. -/
theorem conveys_of_altered
    {segs : List TCPSegment}
    {change : WordChange}
    (wrapped : WrappedIn segs change.before)
    (spared : 2 ≤ change.leading.length) :
    FdAdapter.Conveys TCPOverIPv4OverTunFdAdapter segs change.after := by
  obtain ⟨original, member, dgram, wraps, same⟩ := wrapped
  intro packet content transmitted adapter seg returns
  rw [show packet = change.after from content] at returns
  have intact : IntactDatagram change.before := same ▸ wraps.intact
  obtain ⟨damaged, parses, unwraps⟩ :=
    read_unwraps (change.length_after ▸ intact.short) returns
  rcases TCPOverIPv4Adapter.unwrap_damaged intact spared parses
      adapter.toTCPOverIPv4Adapter with
    ignored | ⟨_, _, parsed, parsesBefore, sameUnwrap⟩
  · exact absurd unwraps (ignored.nothing seg)
  · rw [sameUnwrap] at unwraps
    rw [same] at parsesBefore
    exact ⟨original, member,
      wraps.unwrap_repeats parsesBefore unwraps⟩

/-- A segment that can be sent is sent as one datagram, or not at all. -/
theorem write_cases
    {seg : TCPSegment}
    (sendable : seg.Sendable)
    (transmitted : Nat → SystemCall Unit)
    (adapter : TCPOverIPv4OverTunFdAdapter) :
    (∃ thrown,
      transmitted adapter.tun.sent.length = .error thrown ∧
        adapter.write seg transmitted = .error thrown adapter) ∨
      ∃ dgram : InternetDatagram,
        dgram.Wraps seg ∧
          adapter.write seg transmitted =
            .ok () { adapter with tun := adapter.tun.took dgram.image } := by
  obtain ⟨dgram, wrapped, wraps⟩ :=
    adapter.toTCPOverIPv4Adapter.wrap_wraps sendable
  obtain ⟨out, serialized, image⟩ :=
    IPv4Datagram.serialize_of_serializable wraps.wellFormed.serializable
  simp only [write, wrapped, serialized, FileDescriptor.transmit_eq]
  cases answer : transmitted adapter.tun.sent.length with
  | error thrown =>
      exact .inl ⟨thrown, rfl, rfl⟩
  | ok _ =>
      refine .inr ⟨dgram, wraps, ?_⟩
      rw [image]
      rfl

instance : Transport TCPOverIPv4OverTunFdAdapter where
  Holds segs adapter := ∀ bytes ∈ adapter.tun.sent, WrappedIn segs bytes
  Alters before after :=
    ∃ change : WordChange,
      2 ≤ change.leading.length ∧
        change.before = before ∧ change.after = after
  mono holds subset bytes member := (holds bytes member).mono subset
  configured holds _ := holds
  listening holds _ := holds
  conveys holds member := conveys_of_wrapped (holds _ member)
  altered := by
    rintro segs adapter bytes _ holds member ⟨change, spared, same, rfl⟩
    exact conveys_of_altered (same ▸ holds bytes member) spared
  refused _ _ _ := rfl
  read := by
    intro segs adapter holds answer _ bytes member
    change bytes ∈ (finalState (adapter.read answer)).tun.sent at member
    rw [read_sent] at member
    exact holds bytes member
  write := by
    intro segs adapter seg holds known sendable transmitted bytes member
    change bytes ∈ (finalState (adapter.write seg transmitted)).tun.sent
      at member
    rcases adapter.write_cases sendable transmitted with
      ⟨thrown, _, same⟩ | ⟨dgram, wraps, same⟩
    · rw [same] at member
      exact holds bytes member
    · rw [same] at member
      rcases List.mem_append.mp member with earlier | last
      · exact holds bytes earlier
      · rw [List.mem_singleton.mp last]
        exact ⟨seg, known, dgram, wraps, rfl⟩
  tick holds _ _ := holds

end TCPOverIPv4OverTunFdAdapter

/-! ## Random loss -/

namespace LossyFdAdapter

variable {Adapter Packet : Type} [FdAdapter Adapter Packet]

theorem shouldDrop_adapter
    (uplink : Bool)
    (lossy : LossyFdAdapter Adapter) :
    (lossy.shouldDrop uplink).2.adapter = lossy.adapter := by
  simp only [shouldDrop]
  repeat' split
  all_goals rfl

/-- A read is a read of the adapter, whose result may be dropped. -/
theorem read_cases
    (answer : SystemCall Packet)
    (transmitted : Nat → SystemCall Unit)
    (lossy : LossyFdAdapter Adapter) :
    (finalState (lossy.read answer transmitted)).adapter =
        finalState (FdAdapter.read answer transmitted lossy.adapter) ∧
      (returned (lossy.read answer transmitted) =
          returned (FdAdapter.read answer transmitted lossy.adapter) ∨
        returned (lossy.read answer transmitted) = some none) := by
  simp only [read]
  cases FdAdapter.read answer transmitted lossy.adapter with
  | error thrown adapter =>
      exact ⟨rfl, .inl rfl⟩
  | ok seg adapter =>
      dsimp only
      have kept :=
        ({ lossy with adapter } :
          LossyFdAdapter Adapter).shouldDrop_adapter false
      split
      · exact ⟨kept, .inr rfl⟩
      · exact ⟨kept, .inl rfl⟩

theorem conveys_of_adapter
    {segs : List TCPSegment}
    {bytes : Bytes}
    (conveys : FdAdapter.Conveys Adapter segs bytes) :
    FdAdapter.Conveys (LossyFdAdapter Adapter) segs bytes := by
  intro packet content transmitted lossy seg returns
  change returned (lossy.read (.ok packet) transmitted) = _ at returns
  rcases (lossy.read_cases (.ok packet) transmitted).2 with
    same | dropped
  · rw [same] at returns
    exact conveys packet content transmitted lossy.adapter seg returns
  · rw [dropped] at returns
    cases returns

instance [Transport Adapter] : Transport (LossyFdAdapter Adapter) where
  Holds segs lossy := Transport.Holds segs lossy.adapter
  Alters := Transport.Alters Adapter
  mono := Transport.mono
  configured := Transport.configured
  listening := Transport.listening
  conveys holds member :=
    conveys_of_adapter (Transport.conveys holds member)
  altered holds member alters :=
    conveys_of_adapter (Transport.altered holds member alters)
  refused := by
    intro thrown transmitted lossy
    change lossy.read (.error thrown) transmitted = _
    rw [read, Transport.refused]
  read := by
    intro segs lossy holds answer transmitted
    change Transport.Holds segs
      (finalState (lossy.read answer transmitted)).adapter
    rw [(lossy.read_cases answer transmitted).1]
    exact Transport.read holds answer transmitted
  write := by
    intro segs lossy seg holds known sendable transmitted
    change Transport.Holds segs
      (finalState (lossy.write seg transmitted)).adapter
    have kept := lossy.shouldDrop_adapter true
    simp only [write]
    split
    · change Transport.Holds segs (lossy.shouldDrop true).2.adapter
      rw [kept]
      exact holds
    · rw [finalState_ofPart, kept]
      exact Transport.write holds known sendable transmitted
  tick := by
    intro segs lossy holds ms transmitted
    change Transport.Holds segs
      (finalState (lossy.tick ms transmitted)).adapter
    rw [tick, finalState_ofPart]
    exact Transport.tick holds ms transmitted

end LossyFdAdapter

end Sponge
