import Sponge.ChecksumDetection
import Sponge.FdAdapter
import Sponge.TCPOverIPv4Isolation

namespace Sponge

/-!
# Damaged datagrams

The datagram parser does not look at what the header parser returned, so a
header with a bad checksum is read like any other.  A changed word is harmless
all the same: the length is compared, the addresses and the payload are covered
by the checksum of the segment, and nothing else says what the segment is.
-/

open InternetChecksum (wordSum)
open NetParser

/-! ## Datagrams without options -/

/-- A datagram without options is split after twenty bytes. -/
theorem IPv4Datagram.parse_of_plain
    {bytes : Bytes}
    (long : IPv4Header.length ≤ bytes.length)
    (plain : (IPv4Header.ofBytes bytes).hlen = 5)
    (self : IPv4Datagram) :
    ∃ rest : Buffer,
      self.parse (Buffer.ofString bytes) =
          .ok
            (if bytes.length - 20 =
                (IPv4Header.ofBytes bytes).payloadLength.toNat then
              .noError
            else
              .packetTooShort)
            { header := IPv4Header.ofBytes bytes, payload := [rest] } ∧
        rest.str = bytes.drop 20 := by
  have holds : Holds { buffer := Buffer.ofString bytes } bytes :=
    ⟨rfl, Buffer.ofString_str _⟩
  have split :
      ∃ result next,
        self.header.parse { buffer := Buffer.ofString bytes } =
            .ok (result, IPv4Header.ofBytes bytes) next ∧
          Holds next (bytes.drop 20) := by
    by_cases framed : (IPv4Header.ofBytes bytes).Framed bytes.length
    · obtain ⟨next, parsed, nextHolds⟩ :=
        IPv4Header.parse_of_framed self.header holds long framed
      rw [plain] at nextHolds
      exact ⟨_, next, parsed, nextHolds⟩
    · obtain ⟨result, next, parsed, _, nextHolds⟩ :=
        IPv4Header.parse_of_not_framed self.header holds long framed
      exact ⟨result, next, parsed, nextHolds⟩
  obtain ⟨result, next, parsed, nextHolds⟩ := split
  refine ⟨next.buffer, ?_, nextHolds.left⟩
  rw [parse_eq parsed nextHolds, List.length_drop]

/-- The payload of a parsed datagram is one buffer. -/
theorem IPv4Datagram.parse_single
    {self parsed : IPv4Datagram}
    {buffer : Buffer}
    {result : ParseResult}
    (returns : self.parse buffer = .ok result parsed) :
    ∃ rest, parsed.payload = [rest] := by
  simp only [parse] at returns
  split at returns
  · cases returns
  · split at returns <;> cases returns <;> exact ⟨_, rfl⟩

/-- Four bytes are two words, which the pseudo-header adds up. -/
theorem u32At_halves
    {bytes : Bytes}
    {start : Nat}
    (inside : start + 4 ≤ bytes.length) :
    ((u32At bytes start >>> 16) + (u32At bytes start &&& 0xffff)).toNat =
      wordSum false (slice bytes start 4) := by
  have length := length_slice inside
  have bounded := BigEndian.value_lt (slice bytes start 4)
  rw [length] at bounded
  rw [InternetChecksum.folded_toNat, u32At,
    UInt32.toNat_ofNat_of_lt' bounded, OnesComplement.carry]
  obtain ⟨a, three, word, shorter⟩ := List.length_eq_succ_iff.mp length
  obtain ⟨b, c, d, rfl⟩ := List.length_eq_three.mp shorter
  have second := b.toNat_lt
  have third := c.toNat_lt
  have fourth := d.toNat_lt
  simp only [← word, BigEndian.value_cons, BigEndian.value_nil, wordSum,
    List.length_cons, List.length_nil, Bool.false_eq_true, if_false,
    Bool.not_false, Bool.not_true, if_true]
  omega

/-- What the pseudo-header of a datagram adds to the checksum. -/
theorem pseudoCksum_ofBytes
    {bytes : Bytes}
    (long : IPv4Header.length ≤ bytes.length) :
    (IPv4Header.ofBytes bytes).pseudoCksum.toNat =
      wordSum false (slice bytes 12 8) +
        (IPv4Header.ofBytes bytes).proto.toNat +
        (IPv4Header.ofBytes bytes).payloadLength.toNat := by
  have inside : 20 ≤ bytes.length := long
  have src := @u32At_halves bytes 12 (by omega)
  have dst := @u32At_halves bytes 16 inside
  have even : (slice bytes 12 4).length % 2 = 0 := by
    rw [length_slice (by omega)]
  have addresses :
      wordSum false (slice bytes 12 8) =
        wordSum false (slice bytes 12 4) +
          wordSum false (slice bytes 16 4) := by
    rw [← InternetChecksum.wordSum_append_of_even even,
      slice_append_slice]
  have first := InternetChecksum.wordSum_le false (slice bytes 12 4)
  have second := InternetChecksum.wordSum_le false (slice bytes 16 4)
  rw [length_slice (by omega)] at first
  rw [length_slice inside] at second
  have proto := (IPv4Header.ofBytes bytes).proto.toNat_lt
  have payload := (IPv4Header.ofBytes bytes).payloadLength.toNat_lt
  have sameSrc : (IPv4Header.ofBytes bytes).src = u32At bytes 12 := rfl
  have sameDst : (IPv4Header.ofBytes bytes).dst = u32At bytes 16 := rfl
  simp only [IPv4Header.pseudoCksum, UInt32.toNat_add (_ + _),
    UInt8.toNat_toUInt32, UInt16.toNat_toUInt32, sameSrc, sameDst, src,
    dst]
  omega

/-- When the segment in a datagram without options verifies. -/
theorem verifies_plain_iff
    {bytes : Bytes}
    (long : IPv4Header.length ≤ bytes.length)
    (short : bytes.length ≤ 65535) :
    (({ sum := (IPv4Header.ofBytes bytes).pseudoCksum } :
        InternetChecksum).add (bytes.drop 20)).value = 0 ↔
      OnesComplement.normal 65535
        ((IPv4Header.ofBytes bytes).proto.toNat +
          (IPv4Header.ofBytes bytes).payloadLength.toNat +
          wordSum false (bytes.drop 12)) = 65535 := by
  have inside : 20 ≤ bytes.length := long
  have bound := (IPv4Header.ofBytes bytes).pseudoCksum_le
  have even : (slice bytes 12 8).length % 2 = 0 := by
    rw [length_slice (by omega)]
  have split :
      wordSum false (bytes.drop 12) =
        wordSum false (slice bytes 12 8) +
          wordSum false (bytes.drop 20) := by
    rw [← InternetChecksum.wordSum_append_of_even even,
      slice_append_drop]
  have total :
      (IPv4Header.ofBytes bytes).pseudoCksum.toNat +
          wordSum false (bytes.drop 20) =
        (IPv4Header.ofBytes bytes).proto.toNat +
          (IPv4Header.ofBytes bytes).payloadLength.toNat +
          wordSum false (bytes.drop 12) := by
    rw [pseudoCksum_ofBytes long, split]
    omega
  rw [InternetChecksum.verifies_iff (by rw [List.length_drop]; omega),
    total]

/-- Parsing a segment always returns. -/
theorem TCPSegment.parse_returns
    (buffer : Buffer)
    (pseudo : UInt32)
    (self : TCPSegment) :
    ∃ result parsed, self.parse buffer pseudo = .ok result parsed := by
  have holds := holds_start buffer
  have read :
      ∃ result next, TCPHeader.parse { buffer } = .ok result next := by
    by_cases short : buffer.str.length < TCPHeader.length
    · obtain ⟨_, _, _, parsed, _⟩ :=
        TCPHeader.parse_of_short holds short
      exact ⟨_, _, parsed⟩
    have long : TCPHeader.length ≤ buffer.str.length :=
      Nat.le_of_not_lt short
    by_cases small : (TCPHeader.ofBytes buffer.str).doff < 5
    · obtain ⟨_, parsed, _⟩ := TCPHeader.parse_of_small holds long small
      exact ⟨_, _, parsed⟩
    by_cases whole :
        4 * (TCPHeader.ofBytes buffer.str).doff.toNat ≤ buffer.str.length
    · obtain ⟨_, parsed, _⟩ := TCPHeader.parse_of_whole holds small whole
      exact ⟨_, _, parsed⟩
    · obtain ⟨_, parsed, _⟩ :=
        TCPHeader.parse_of_truncated holds long small
          (Nat.lt_of_not_le whole)
      exact ⟨_, _, parsed⟩
  obtain ⟨_, next, parsed⟩ := read
  simp only [parse, parsed]
  split
  · exact ⟨_, _, rfl⟩
  · exact ⟨_, _, rfl⟩

theorem TCPSegment.verifies_of_parsed
    {buffer : Buffer}
    {pseudo : UInt32}
    {self seg : TCPSegment}
    (parsed : self.parse buffer pseudo = .ok .noError seg) :
    (({ sum := pseudo } : InternetChecksum).add buffer.str).value = 0 := by
  by_contra fails
  simp [parse, fails] at parsed

/-- A segment that is accepted is read off the bytes of the buffer alone. -/
theorem TCPSegment.parse_transfer
    {buffer other : Buffer}
    {pseudo : UInt32}
    {self seg : TCPSegment}
    (same : other.str = buffer.str)
    (parsed : self.parse buffer pseudo = .ok .noError seg) :
    self.parse other pseudo = .ok .noError seg := by
  have verifies := verifies_of_parsed parsed
  have holds := holds_start buffer
  have otherHolds := holds_start other
  rw [same] at otherHolds
  have otherVerifies := verifies
  rw [← same] at otherVerifies
  by_cases short : buffer.str.length < TCPHeader.length
  · obtain ⟨result, header, next, headerParsed, _, failed⟩ :=
      TCPHeader.parse_of_short holds short
    rw [parse_eq verifies headerParsed, (failed : next.error = _)]
      at parsed
    cases parsed
  have long : TCPHeader.length ≤ buffer.str.length :=
    Nat.le_of_not_lt short
  by_cases small : (TCPHeader.ofBytes buffer.str).doff < 5
  · obtain ⟨next, headerParsed, nextHolds⟩ :=
      TCPHeader.parse_of_small holds long small
    obtain ⟨otherNext, otherParsed, otherNextHolds⟩ :=
      TCPHeader.parse_of_small otherHolds long small
    rw [parse_eq verifies headerParsed, nextHolds.noError,
      nextHolds.left] at parsed
    rw [parse_eq otherVerifies otherParsed, otherNextHolds.noError,
      otherNextHolds.left]
    exact parsed
  by_cases whole :
      4 * (TCPHeader.ofBytes buffer.str).doff.toNat ≤ buffer.str.length
  · obtain ⟨next, headerParsed, nextHolds⟩ :=
      TCPHeader.parse_of_whole holds small whole
    obtain ⟨otherNext, otherParsed, otherNextHolds⟩ :=
      TCPHeader.parse_of_whole otherHolds small whole
    rw [parse_eq verifies headerParsed, nextHolds.noError,
      nextHolds.left] at parsed
    rw [parse_eq otherVerifies otherParsed, otherNextHolds.noError,
      otherNextHolds.left]
    exact parsed
  · obtain ⟨next, headerParsed, failed⟩ :=
      TCPHeader.parse_of_truncated holds long small
        (Nat.lt_of_not_le whole)
    rw [parse_eq verifies headerParsed, (failed : next.error = _)]
      at parsed
    cases parsed

/-! ## One changed word -/

namespace WordChange

variable (change : WordChange)

theorem u16At_after
    {start : Nat}
    (apart :
      start + 2 ≤ change.leading.length ∨
        change.leading.length + change.old.length ≤ start) :
    u16At change.after start = u16At change.before start := by
  rw [u16At, u16At, change.slice_after apart]

theorem u32At_after
    {start : Nat}
    (apart :
      start + 4 ≤ change.leading.length ∨
        change.leading.length + change.old.length ≤ start) :
    u32At change.after start = u32At change.before start := by
  rw [u32At, u32At, change.slice_after apart]

/-- What follows the change is the same. -/
theorem drop_after
    {start : Nat}
    (apart :
      change.leading.length + change.old.length ≤ start) :
    change.after.drop start = change.before.drop start := by
  have slices := @slice_after change start change.before.length (.inr apart)
  rwa [slice, slice, List.take_of_length_le (by simp [length_after]),
    List.take_of_length_le (by simp)] at slices

/-- A change of the word at a location changes the integer there. -/
theorem u16At_changed
    (inside : change.leading.length + 2 ≤ change.before.length) :
    u16At change.after change.leading.length ≠
      u16At change.before change.leading.length := by
  intro same
  have sameBytes := congrArg NetUnparser.u16 same
  rw [u16_u16At (by rw [change.length_after]; exact inside),
    u16_u16At inside, slice, slice, before, after,
    List.drop_left, List.drop_left] at sameBytes
  have sameWord := congrArg (List.take change.old.length) sameBytes
  rw [List.take_take, List.take_take, Nat.min_eq_left change.oneWord,
    List.take_left, ← change.sameLength, List.take_left] at sameWord
  exact change.changed sameWord

/-- The change as one of what follows a front part that it spares. -/
def back
    (count : Nat)
    (even : count % 2 = 0)
    (spared : count ≤ change.leading.length) : WordChange :=
  { change with
    leading := change.leading.drop count
    aligned := by
      have aligned := change.aligned
      rw [List.length_drop]
      omega }

theorem back_before
    {count : Nat}
    (even : count % 2 = 0)
    (spared : count ≤ change.leading.length) :
    (change.back count even spared).before =
      change.before.drop count := by
  rw [before, before, List.drop_append_of_le_length spared]
  rfl

theorem back_after
    {count : Nat}
    (even : count % 2 = 0)
    (spared : count ≤ change.leading.length) :
    (change.back count even spared).after = change.after.drop count := by
  rw [after, after, List.drop_append_of_le_length spared]
  rfl

end WordChange

/-- A datagram without options that carries a segment that verifies. -/
structure IntactDatagram (bytes : Bytes) : Prop where
  long : IPv4Header.length ≤ bytes.length
  short : bytes.length ≤ 65535
  plain : (IPv4Header.ofBytes bytes).hlen = 5
  sized : (IPv4Header.ofBytes bytes).len.toNat = bytes.length
  carriesTcp : (IPv4Header.ofBytes bytes).proto = IPv4Header.protoTcp
  verifies :
    (({ sum := (IPv4Header.ofBytes bytes).pseudoCksum } :
      InternetChecksum).add (bytes.drop 20)).value = 0

/-- The length field is right if the datagram parser is content. -/
theorem len_of_payloadLength
    {header : IPv4Header}
    {size : Nat}
    (plain : header.hlen = 5)
    (long : 20 ≤ size)
    (short : size ≤ 65535)
    (agree : size - 20 = header.payloadLength.toNat) :
    header.len.toNat = size := by
  have bound := header.len.toNat_lt
  have twenty : (4 * (5 : UInt8).toUInt16 : UInt16).toNat = 20 := rfl
  rw [IPv4Header.payloadLength, plain, UInt16.toNat_sub, twenty] at agree
  omega

/--
If the datagram parser is content with a changed datagram, its length field still
agrees with its length, so it is not the changed word.
-/
theorem IntactDatagram.len_after
    {change : WordChange}
    (intact : IntactDatagram change.before)
    (spared : 2 ≤ change.leading.length)
    (agree :
      change.after.length - 20 =
        (IPv4Header.ofBytes change.after).payloadLength.toNat) :
    (IPv4Header.ofBytes change.after).len =
        (IPv4Header.ofBytes change.before).len ∧
      4 ≤ change.leading.length := by
  have aligned := change.aligned
  have sameSize := change.length_after
  have sized :=
    len_of_payloadLength ((change.hlen_after spared).trans intact.plain)
      (sameSize ▸ intact.long) (sameSize ▸ intact.short) agree
  have lenSame :
      (IPv4Header.ofBytes change.after).len =
        (IPv4Header.ofBytes change.before).len := by
    rw [← UInt16.toNat_inj, sized, intact.sized, sameSize]
  refine ⟨lenSame, ?_⟩
  by_contra within
  have long : 20 ≤ change.before.length := intact.long
  have second : change.leading.length = 2 := by omega
  refine change.u16At_changed (by omega) ?_
  rw [second]
  exact lenSame

namespace TCPOverIPv4Adapter

/-- A datagram whose segment does not verify is ignored. -/
theorem ignores_of_fails
    {header : IPv4Header}
    {rest : Buffer}
    (fails :
      (({ sum := header.pseudoCksum } : InternetChecksum).add
        rest.str).value ≠ 0)
    (adapter : TCPOverIPv4Adapter) :
    adapter.Ignores
      (adapter.unwrapTcpInIp { header, payload := [rest] }) := by
  rcases unwrapTcpInIp_cases { header, payload := [rest] } adapter with
    ignored | ⟨seg, after, _, carries, _⟩
  · exact ignored
  · obtain ⟨buffer, toBuffer, parsed⟩ := carries.parsed
    cases toBuffer
    exact absurd (TCPSegment.verifies_of_parsed parsed) fails

/-- What is unwrapped depends on the ends, the length and the payload. -/
theorem unwrapTcpInIp_congr
    {header other : IPv4Header}
    {rest otherRest : Buffer}
    (src : other.src = header.src)
    (dst : other.dst = header.dst)
    (proto : other.proto = header.proto)
    (payloadLength : other.payloadLength = header.payloadLength)
    (sameRest : otherRest.str = rest.str)
    (adapter : TCPOverIPv4Adapter) :
    adapter.Ignores
        (adapter.unwrapTcpInIp { header, payload := [rest] }) ∨
      adapter.unwrapTcpInIp { header, payload := [rest] } =
        adapter.unwrapTcpInIp
          { header := other, payload := [otherRest] } := by
  have pseudo : other.pseudoCksum = header.pseudoCksum := by
    simp only [IPv4Header.pseudoCksum, src, dst, proto, payloadLength]
  rcases unwrapTcpInIp_cases { header, payload := [rest] } adapter with
    ignored | ⟨seg, after, _, carries, _⟩
  · exact .inl ignored
  · obtain ⟨buffer, toBuffer, parsed⟩ := carries.parsed
    cases toBuffer
    have otherParsed := TCPSegment.parse_transfer sameRest parsed
    refine .inr ?_
    simp only [unwrapTcpInIp, adoptPeer, BufferList.toBuffer, src, dst,
      proto, pseudo, parsed, otherParsed]
    rfl

/--
An intact datagram that had one word changed after its first is too short,
ignored, or unwrapped as before.  In the last case the word is in the header,
after the length and before the addresses.
-/
theorem unwrap_damaged
    {change : WordChange}
    (intact : IntactDatagram change.before)
    (spared : 2 ≤ change.leading.length)
    {damaged : InternetDatagram}
    (parsed :
      ({} : InternetDatagram).parse (Buffer.ofString change.after) =
        .ok .noError damaged)
    (adapter : TCPOverIPv4Adapter) :
    adapter.Ignores (adapter.unwrapTcpInIp damaged) ∨
      4 ≤ change.leading.length ∧
        change.leading.length + change.old.length ≤ 12 ∧
        ∃ dgram,
          ({} : InternetDatagram).parse (Buffer.ofString change.before) =
              .ok .noError dgram ∧
            adapter.unwrapTcpInIp damaged =
              adapter.unwrapTcpInIp dgram := by
  have aligned := change.aligned
  have oneWord := change.oneWord
  have sameSize := change.length_after
  have longAfter : IPv4Header.length ≤ change.after.length :=
    sameSize ▸ intact.long
  have plainAfter : (IPv4Header.ofBytes change.after).hlen = 5 :=
    (change.hlen_after spared).trans intact.plain
  obtain ⟨restAfter, parsedAfter, leftAfter⟩ :=
    IPv4Datagram.parse_of_plain longAfter plainAfter {}
  rw [parsedAfter] at parsed
  split at parsed
  case isFalse => cases parsed
  rename_i agree
  cases parsed
  obtain ⟨lenSame, beyond⟩ := intact.len_after spared agree
  have payloadLengthSame :
      (IPv4Header.ofBytes change.after).payloadLength =
        (IPv4Header.ofBytes change.before).payloadLength := by
    rw [IPv4Header.payloadLength, IPv4Header.payloadLength, lenSame,
      plainAfter, intact.plain]
  by_cases covered : 12 ≤ change.leading.length
  · left
    apply ignores_of_fails
    have protoSame :
        (IPv4Header.ofBytes change.after).proto =
          (IPv4Header.ofBytes change.before).proto :=
      change.u8At_after (.inl (by omega))
    have verified :=
      (verifies_plain_iff intact.long intact.short).mp intact.verifies
    rw [leftAfter, Ne,
      verifies_plain_iff longAfter (sameSize ▸ intact.short), protoSame,
      payloadLengthSame, ← change.back_after (by decide) covered]
    rw [← change.back_before (by decide) covered] at verified
    exact (change.back 12 (by decide) covered).detected verified
  · obtain ⟨rest, parsedBefore, left⟩ :=
      IPv4Datagram.parse_of_plain intact.long intact.plain {}
    have agreeBefore :
        change.before.length - 20 =
          (IPv4Header.ofBytes change.before).payloadLength.toNat := by
      rw [← payloadLengthSame, ← agree, sameSize]
    rw [if_pos agreeBefore] at parsedBefore
    have sameRest : rest.str = restAfter.str := by
      rw [left, leftAfter, change.drop_after (by omega)]
    by_cases otherProto :
        (IPv4Header.ofBytes change.after).proto = IPv4Header.protoTcp
    · refine (unwrapTcpInIp_congr ?_ ?_ ?_ payloadLengthSame.symm
        sameRest adapter).imp_right
        fun same => ⟨beyond, by omega, _, parsedBefore, same⟩
      · exact (change.u32At_after (.inr (by omega))).symm
      · exact (change.u32At_after (.inr (by omega))).symm
      · rw [otherProto, intact.carriesTcp]
    · left
      rcases unwrapTcpInIp_cases
          { header := IPv4Header.ofBytes change.after
            payload := [restAfter] } adapter with
        ignored | ⟨seg, next, _, carries, _⟩
      · exact ignored
      · exact absurd carries.proto otherProto

/-- A datagram in one buffer is unwrapped without an exception. -/
theorem unwrapTcpInIp_returns
    {dgram : InternetDatagram}
    {rest : Buffer}
    (single : dgram.payload = [rest])
    (adapter : TCPOverIPv4Adapter) :
    ∃ seg, returned (adapter.unwrapTcpInIp dgram) = some seg := by
  obtain ⟨result, seg, parsed⟩ :=
    TCPSegment.parse_returns rest dgram.header.pseudoCksum {}
  simp only [unwrapTcpInIp, single, BufferList.toBuffer, parsed]
  repeat' split
  all_goals exact ⟨_, rfl⟩

/-- What is ignored in one buffer returns nothing. -/
theorem Ignores.returned_eq
    {dgram : InternetDatagram}
    {rest : Buffer}
    {adapter : TCPOverIPv4Adapter}
    (ignored : adapter.Ignores (adapter.unwrapTcpInIp dgram))
    (single : dgram.payload = [rest]) :
    returned (adapter.unwrapTcpInIp dgram) = some none := by
  obtain ⟨seg, returns⟩ := unwrapTcpInIp_returns single adapter
  cases seg with
  | none => exact returns
  | some seg => exact absurd returns (ignored.nothing seg)

end TCPOverIPv4Adapter

namespace FileDescriptor

/-- The descriptor after a message was read. -/
def heard
    (fd : FileDescriptor Bytes)
    (bytes : Bytes) : FileDescriptor Bytes :=
  { fd with
    eof := fd.eof || bytes.isEmpty
    readCount := fd.readCount + 1
    received := fd.received ++ [bytes] }

/-- Without a limit every message that fits the buffer is read. -/
theorem read_heard
    {bytes : Bytes}
    (fits : bytes.length ≤ bufferSize)
    (fd : FileDescriptor Bytes) :
    fd.read sizeMax (.ok bytes) = .ok bytes (fd.heard bytes) := by
  have limited : min bufferSize sizeMax = bufferSize := by decide
  have positive : sizeMax > 0 := by decide
  simp only [read, limited, gt_iff_lt, Nat.not_lt.mpr fits, if_false,
    positive, true_and, List.length_eq_zero_iff, registerRead, heard]
  cases bytes with
  | nil => simp
  | cons byte rest => simp

end FileDescriptor

namespace TCPOverIPv4OverTunFdAdapter

/-- Reading a packet comes down to parsing and unwrapping it. -/
theorem read_packet
    {bytes : Bytes}
    {result : ParseResult}
    {dgram : InternetDatagram}
    (fits : bytes.length ≤ FileDescriptor.bufferSize)
    (parsed :
      ({} : InternetDatagram).parse (Buffer.ofString bytes) =
        .ok result dgram)
    (adapter : TCPOverIPv4OverTunFdAdapter) :
    adapter.read (.ok bytes) =
      if result ≠ .noError then
        .ok none { adapter with tun := adapter.tun.heard bytes }
      else
        ofPart
          (fun base =>
            { toTCPOverIPv4Adapter := base
              tun := adapter.tun.heard bytes })
          (adapter.unwrapTcpInIp dgram) := by
  simp only [read, FileDescriptor.read_heard fits, parsed]

/--
A datagram without options whose segment verifies may lose any one word after
its first to damage: reading it returns no segment and leaves the adapter as it
was, or the word is outside the segment, in the header between its length and
its addresses, and reading returns what reading the undamaged datagram returns.
This does not rest on the checksum of the IPv4 header, which the datagram parser
ignores.
-/
theorem damage_does_no_harm
    (change : WordChange)
    (intact : IntactDatagram change.before)
    (spared : 2 ≤ change.leading.length)
    (adapter : TCPOverIPv4OverTunFdAdapter) :
    let damaged := adapter.read (.ok change.after)
    let undamaged := adapter.read (.ok change.before)
    (returned damaged = some none ∧
        (finalState damaged).toTCPOverIPv4Adapter =
          adapter.toTCPOverIPv4Adapter) ∨
      (4 ≤ change.leading.length ∧
        change.leading.length + change.old.length ≤ 12 ∧
        returned damaged = returned undamaged ∧
        (finalState damaged).toTCPOverIPv4Adapter =
          (finalState undamaged).toTCPOverIPv4Adapter) := by
  intro damaged undamaged
  have short := intact.short
  have sameSize := change.length_after
  have fits : change.before.length ≤ FileDescriptor.bufferSize :=
    Nat.le_trans short (by decide)
  have fitsAfter : change.after.length ≤ FileDescriptor.bufferSize :=
    sameSize ▸ fits
  obtain ⟨result, damagedDgram, parsed⟩ :=
    IPv4Datagram.parse_returns (Buffer.ofString change.after) {}
  have readsDamaged : damaged = _ := adapter.read_packet fitsAfter parsed
  by_cases invalid : result ≠ .noError
  · rw [if_pos invalid] at readsDamaged
    rw [readsDamaged]
    exact .inl ⟨rfl, rfl⟩
  · rw [if_neg invalid] at readsDamaged
    rw [not_not.mp invalid] at parsed
    rcases TCPOverIPv4Adapter.unwrap_damaged intact spared parsed
        adapter.toTCPOverIPv4Adapter with
      ignored | ⟨beyond, before, dgram, parsedBefore, same⟩
    · obtain ⟨rest, single⟩ := IPv4Datagram.parse_single parsed
      refine .inl ?_
      rw [readsDamaged, returned_ofPart, finalState_ofPart]
      exact ⟨ignored.returned_eq single, ignored.unchanged⟩
    · have readsUndamaged : undamaged = _ :=
        adapter.read_packet fits parsedBefore
      rw [if_neg (by decide)] at readsUndamaged
      refine .inr ⟨beyond, before, ?_⟩
      rw [readsDamaged, readsUndamaged, same]
      simp

/-- A byte from the client, with the time to live changed on the way. -/
def agedDatagram : WordChange :=
  { agedHeader with
    leading := [69, 0, 0, 41, 0, 0, 64, 0]
    trailing := [
      230, 204, 10, 0, 0, 1, 10, 0, 0, 2, 3, 232, 0, 80, 0, 0, 0, 0, 0, 0,
      0, 0, 80, 0, 0, 0, 54, 169, 0, 0, 97]
    aligned := rfl }

theorem damage_does_no_harm_aged :
    let server : TCPOverIPv4OverTunFdAdapter := {
      toTCPOverIPv4Adapter := TCPOverIPv4Adapter.serverAdapter }
    let damaged := server.read (.ok agedDatagram.after)
    (returned damaged).join.map TCPSegment.payload = some [97] ∧
      returned damaged =
        returned (server.read (.ok agedDatagram.before)) := by
  intro server damaged
  have intact : IntactDatagram agedDatagram.before :=
    ⟨by decide, by decide, by decide, by decide, by decide,
      by decide +kernel⟩
  have read :
      (returned damaged).join.map TCPSegment.payload = some [97] := by
    decide +kernel
  rcases damage_does_no_harm agedDatagram intact (by decide) server with
    ⟨nothing, _⟩ | ⟨_, _, same, _⟩
  · have impossible : returned damaged = some none := nothing
    rw [impossible] at read
    cases read
  · exact ⟨read, same⟩

end TCPOverIPv4OverTunFdAdapter

end Sponge
