import Sponge.Ethernet
import Sponge.IPv4
import Sponge.TCPSegmentWire

namespace Sponge

open Reading NetParser

/-!
# Which faults the packet parsers overlook

A packet parser runs the header parser, drops its result and keeps only the
error of the underlying `NetParser`.  The theorems say which packets are
accepted although their header is not.
-/

/-- The header parser reports success. -/
abbrev IPv4Header.Accepts
    (header : IPv4Header)
    (buffer : Buffer) : Prop :=
  (returned (header.parse { buffer })).map Prod.fst = some .noError

/-- The datagram parser reports success. -/
abbrev IPv4Datagram.Accepts
    (dgram : IPv4Datagram)
    (buffer : Buffer) : Prop :=
  returned (dgram.parse buffer) = some .noError

/-- The header parser reports success. -/
abbrev TCPHeader.Accepts (buffer : Buffer) : Prop :=
  (returned (TCPHeader.parse { buffer })).map Prod.fst = some .noError

/-- The segment parser reports success. -/
abbrev TCPSegment.Accepts
    (seg : TCPSegment)
    (buffer : Buffer)
    (datagramLayerChecksum : UInt32) : Prop :=
  returned (seg.parse buffer datagramLayerChecksum) = some .noError

/-- The header parser reports success. -/
abbrev EthernetHeader.Accepts
    (header : EthernetHeader)
    (buffer : Buffer) : Prop :=
  (returned (header.parse { buffer })).map Prod.fst = some .noError

/-- The frame parser reports success. -/
abbrev EthernetFrame.Accepts
    (frame : EthernetFrame)
    (buffer : Buffer) : Prop :=
  returned (frame.parse buffer) = some .noError

namespace IPv4Datagram

/--
A packet with a faulty header whose length is nevertheless the one the datagram
parser compares with: a packet too short for a header against the header that
was there before, a packet with unfit fields against the fields just read.
-/
def Overlooked
    (dgram : IPv4Datagram)
    (bytes : Bytes) : Prop :=
  let header := IPv4Header.ofBytes bytes
  if bytes.length < IPv4Header.length then
    bytes.length = dgram.header.payloadLength.toNat
  else if header.Framed bytes.length then
    (({} : InternetChecksum).add
      (bytes.take (4 * header.hlen.toNat))).value ≠ 0
  else
    bytes.length - IPv4Header.length = header.payloadLength.toNat

/-- The lengths of a packet whose fields fit it always agree. -/
theorem payloadLength_of_framed
    {header : IPv4Header}
    {size : Nat}
    (framed : header.Framed size) :
    size - 4 * header.hlen.toNat = header.payloadLength.toNat := by
  have present := framed.present
  have total := framed.total
  rw [payloadLength_of_total
    (show header.len.toNat =
        4 * header.hlen.toNat + (size - 4 * header.hlen.toNat) by
      omega)]

/-- What the datagram parser returns depends on the remaining length. -/
theorem accepts_iff
    {dgram : IPv4Datagram}
    {buffer : Buffer}
    {result : ParseResult}
    {header : IPv4Header}
    {next : NetParser}
    {rest : Bytes}
    (parsed :
      dgram.header.parse { buffer } = .ok (result, header) next)
    (holds : Holds next rest) :
    dgram.Accepts buffer ↔
      rest.length = header.payloadLength.toNat := by
  rw [Accepts, parse_eq parsed holds]
  by_cases agree : rest.length = header.payloadLength.toNat
  · simp [returned, agree]
  · simp [returned, agree]

theorem headerAccepts_iff
    {header parsedHeader : IPv4Header}
    {buffer : Buffer}
    {result : ParseResult}
    {next : NetParser}
    (parsed :
      header.parse { buffer } = .ok (result, parsedHeader) next) :
    header.Accepts buffer ↔ result = .noError := by
  rw [IPv4Header.Accepts, parsed]
  simp [returned]

/-- The datagram parser heeds the header parser except on these packets. -/
theorem heeds_header_iff
    (dgram : IPv4Datagram)
    (buffer : Buffer) :
    (dgram.Accepts buffer → dgram.header.Accepts buffer) ↔
      ¬ dgram.Overlooked buffer.str := by
  have holds := holds_start buffer
  by_cases short : buffer.str.length < IPv4Header.length
  · have parsed :=
      IPv4Header.parse_of_short dgram.header holds short
    rw [accepts_iff parsed holds, headerAccepts_iff parsed]
    simp [Overlooked, short]
  have long : IPv4Header.length ≤ buffer.str.length :=
    Nat.le_of_not_lt short
  by_cases framed :
      (IPv4Header.ofBytes buffer.str).Framed buffer.str.length
  · obtain ⟨next, parsed, nextHolds⟩ :=
      IPv4Header.parse_of_framed dgram.header holds long framed
    have agree := payloadLength_of_framed framed
    rw [← List.length_drop] at agree
    rw [accepts_iff parsed nextHolds, headerAccepts_iff parsed]
    simp only [agree, forall_const, Overlooked, short, framed]
    simp
  · obtain ⟨result, next, parsed, fault, nextHolds⟩ :=
      IPv4Header.parse_of_not_framed dgram.header holds long
        framed
    rw [accepts_iff parsed nextHolds, headerAccepts_iff parsed]
    simp [Overlooked, short, framed, fault]

end IPv4Datagram

/-- The header parser accepts a packet that fits its fields and verifies. -/
theorem IPv4Header.accepts_iff
    {header : IPv4Header}
    {buffer : Buffer} :
    header.Accepts buffer ↔
      IPv4Header.length ≤ buffer.str.length ∧
        (IPv4Header.ofBytes buffer.str).Framed buffer.str.length ∧
        (({} : InternetChecksum).add
          (buffer.str.take
            (4 * (IPv4Header.ofBytes
              buffer.str).hlen.toNat))).value = 0 := by
  have holds := NetParser.holds_start buffer
  by_cases short : buffer.str.length < IPv4Header.length
  · rw [IPv4Datagram.headerAccepts_iff
      (IPv4Header.parse_of_short header holds short)]
    exact iff_of_false (by decide)
      fun accepted => Nat.not_le.mpr short accepted.1
  have long : IPv4Header.length ≤ buffer.str.length :=
    Nat.le_of_not_lt short
  by_cases framed :
      (IPv4Header.ofBytes buffer.str).Framed buffer.str.length
  · obtain ⟨next, parsed, _⟩ :=
      IPv4Header.parse_of_framed header holds long framed
    rw [IPv4Datagram.headerAccepts_iff parsed]
    split
    · rename_i fails
      exact iff_of_false (by decide) fun accepted => fails accepted.2.2
    · rename_i verifies
      exact iff_of_true rfl ⟨long, framed, not_not.mp verifies⟩
  · obtain ⟨result, next, parsed, fault, _⟩ :=
      IPv4Header.parse_of_not_framed header holds long framed
    rw [IPv4Datagram.headerAccepts_iff parsed]
    exact iff_of_false fault fun accepted => framed accepted.2.1
namespace TCPSegment

/-- A segment that verifies and has a data offset below five. -/
def Overlooked
    (bytes : Bytes)
    (datagramLayerChecksum : UInt32) : Prop :=
  let check : InternetChecksum := { sum := datagramLayerChecksum }
  (check.add bytes).value = 0 ∧
    TCPHeader.length ≤ bytes.length ∧
    (TCPHeader.ofBytes bytes).doff < 5

theorem headerAccepts_iff
    {buffer : Buffer}
    {result : ParseResult}
    {header : TCPHeader}
    {next : NetParser}
    (parsed : TCPHeader.parse { buffer } = .ok (result, header) next) :
    TCPHeader.Accepts buffer ↔ result = .noError := by
  rw [TCPHeader.Accepts, parsed]
  simp [returned]

/-- A segment is accepted if it verifies and the parser has no error. -/
theorem accepts_iff
    {seg : TCPSegment}
    {buffer : Buffer}
    {pseudo : UInt32}
    {result : ParseResult}
    {header : TCPHeader}
    {next : NetParser}
    (parsed : TCPHeader.parse { buffer } = .ok (result, header) next) :
    seg.Accepts buffer pseudo ↔
      (({ sum := pseudo } : InternetChecksum).add buffer.str).value = 0 ∧
        next.error = .noError := by
  by_cases verifies :
      (({ sum := pseudo } : InternetChecksum).add buffer.str).value = 0
  · rw [Accepts, parse_eq verifies parsed]
    simp [returned, verifies]
  · simp [Accepts, parse, returned, verifies]

/-- The segment parser heeds the header parser except on these segments. -/
theorem heeds_header_iff
    (seg : TCPSegment)
    (buffer : Buffer)
    (pseudo : UInt32) :
    (seg.Accepts buffer pseudo → TCPHeader.Accepts buffer) ↔
      ¬ Overlooked buffer.str pseudo := by
  have holds := holds_start buffer
  by_cases short : buffer.str.length < TCPHeader.length
  · obtain ⟨result, header, next, parsed, fault, failed⟩ :=
      TCPHeader.parse_of_short holds short
    have failed : next.error = .packetTooShort := failed
    rw [accepts_iff parsed, headerAccepts_iff parsed, failed]
    simp [Overlooked, short]
  have long : TCPHeader.length ≤ buffer.str.length :=
    Nat.le_of_not_lt short
  by_cases small : (TCPHeader.ofBytes buffer.str).doff < 5
  · obtain ⟨next, parsed, nextHolds⟩ :=
      TCPHeader.parse_of_small holds long small
    rw [accepts_iff parsed, headerAccepts_iff parsed, nextHolds.noError]
    simp [Overlooked, long, small]
  by_cases whole :
      4 * (TCPHeader.ofBytes buffer.str).doff.toNat ≤ buffer.str.length
  · obtain ⟨next, parsed, _⟩ :=
      TCPHeader.parse_of_whole holds small whole
    rw [headerAccepts_iff parsed]
    simp [Overlooked, small]
  · obtain ⟨next, parsed, failed⟩ :=
      TCPHeader.parse_of_truncated holds long small
        (Nat.lt_of_not_le whole)
    have failed : next.error = .packetTooShort := failed
    rw [accepts_iff parsed, failed]
    simp [Overlooked, small]

end TCPSegment

namespace EthernetFrame

/-- Every byte string is accepted as a frame; a header takes fourteen. -/
theorem heeds_header_iff
    (frame : EthernetFrame)
    (buffer : Buffer) :
    (frame.Accepts buffer → frame.header.Accepts buffer) ↔
      EthernetHeader.length ≤ buffer.str.length := by
  have holds := holds_start buffer
  by_cases long : EthernetHeader.length ≤ buffer.str.length
  · obtain ⟨header, next, parsed, _⟩ :=
      EthernetHeader.parse_of_long frame.header holds long
    simp [EthernetHeader.Accepts, returned, parsed, long]
  · have parsed :=
      EthernetHeader.parse_of_short frame.header holds
        (Nat.lt_of_not_le long)
    simp [Accepts, EthernetHeader.Accepts, parse, returned, parsed, long]

end EthernetFrame

/--
The packet parsers reject what their header parsers reject, except for IPv4
packets with an overlooked fault, for segments that verify with a data offset
below five, and for frames shorter than a header.
-/
theorem packet_parsers_heed_headers
    (dgram : IPv4Datagram)
    (seg : TCPSegment)
    (frame : EthernetFrame)
    (buffer : Buffer)
    (datagramLayerChecksum : UInt32) :
    ((dgram.Accepts buffer → dgram.header.Accepts buffer) ↔
      ¬ dgram.Overlooked buffer.str) ∧
    ((seg.Accepts buffer datagramLayerChecksum →
        TCPHeader.Accepts buffer) ↔
      ¬ TCPSegment.Overlooked buffer.str datagramLayerChecksum) ∧
    ((frame.Accepts buffer → frame.header.Accepts buffer) ↔
      EthernetHeader.length ≤ buffer.str.length) :=
  ⟨dgram.heeds_header_iff buffer,
    seg.heeds_header_iff buffer datagramLayerChecksum,
    frame.heeds_header_iff buffer⟩

/-- A packet of version five: a header without payload. -/
def versionFive : Bytes :=
  [0x55, 0, 0, 20] ++ List.replicate 16 0

/-- A segment that verifies and says that its header takes no words. -/
def noOffset : Bytes :=
  List.replicate 16 0 ++ [0xff, 0xff, 0, 0]

/-- Each of the three packet parsers overlooks a fault. -/
theorem packet_parsers_overlook_faults :
    (({} : IPv4Datagram).Accepts (Buffer.ofString versionFive) ∧
      ¬ ({} : IPv4Header).Accepts (Buffer.ofString versionFive)) ∧
    (({} : TCPSegment).Accepts (Buffer.ofString noOffset) 0 ∧
      ¬ TCPHeader.Accepts (Buffer.ofString noOffset)) ∧
    (({} : EthernetFrame).Accepts (Buffer.ofString []) ∧
      ¬ ({} : EthernetHeader).Accepts (Buffer.ofString [])) := by
  decide +kernel

end Sponge
