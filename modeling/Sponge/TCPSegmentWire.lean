import Sponge.InternetChecksum
import Sponge.TCPSegment

namespace Sponge

open Reading NetParser

/-!
# Segments as bytes

The header parser reads every field before it looks at any; a segment that ends
early is noticed by the parser's error alone.  The checksum covers the whole
segment and whatever the layer below adds to it.
-/

namespace TCPHeader

/-- The header length, not including options. -/
def length : Nat := 20

/-- The header with another checksum field. -/
def withCksum
    (header : TCPHeader)
    (cksum : UInt16) : TCPHeader :=
  { header with cksum }

/-- The header described by the words read off the wire. -/
def ofWords
    (sport dport : UInt16)
    (seqno ackno : UInt32)
    (offsetByte flB : UInt8)
    (win cksum uptr : UInt16) : TCPHeader where
  sport
  dport
  seqno := ⟨seqno⟩
  ackno := ⟨ackno⟩
  doff := offsetByte >>> 4
  urg := decide (flB &&& 0b00100000 ≠ 0)
  ack := decide (flB &&& 0b00010000 ≠ 0)
  psh := decide (flB &&& 0b00001000 ≠ 0)
  rst := decide (flB &&& 0b00000100 ≠ 0)
  syn := decide (flB &&& 0b00000010 ≠ 0)
  fin := decide (flB &&& 0b00000001 ≠ 0)
  win
  cksum
  uptr

/-- Read the fields in the order of the wire. -/
def readFields : Parser TCPHeader := do
  let sport ← u16
  let dport ← u16
  let seqno ← u32
  let ackno ← u32
  let offsetByte ← u8
  let flB ← u8
  let win ← u16
  let cksum ← u16
  let uptr ← u16
  return ofWords sport dport seqno ackno offsetByte flB win cksum uptr

/-- Parse a header; every field is overwritten, whatever the result. -/
def parse : Parser (ParseResult × TCPHeader) := do
  let header ← readFields
  if header.doff < 5 then
    return (.headerTooShort, header)
  -- skip options and anything extra in the header
  NetParser.removePrefix (header.doff.toNat * 4 - length)
  if ← hasError then
    return ((← get).error, header)
  return (.noError, header)

/-- The byte with the flags. -/
def flB (header : TCPHeader) : UInt8 :=
  (if header.urg then 0b00100000 else 0) |||
    (if header.ack then 0b00010000 else 0) |||
    (if header.psh then 0b00001000 else 0) |||
    (if header.rst then 0b00000100 else 0) |||
    (if header.syn then 0b00000010 else 0) |||
    (if header.fin then 0b00000001 else 0)

/-- The fields in the order of the wire, without options. -/
def fieldBytes (header : TCPHeader) : Bytes :=
  NetUnparser.u16 header.sport ++
    (NetUnparser.u16 header.dport ++
    (NetUnparser.u32 header.seqno.rawValue ++
    (NetUnparser.u32 header.ackno.rawValue ++
    (NetUnparser.u8 (header.doff <<< 4) ++
    (NetUnparser.u8 header.flB ++
    (NetUnparser.u16 header.win ++
    (NetUnparser.u16 header.cksum ++
      NetUnparser.u16 header.uptr)))))))

/-- Serialise the fields, without recomputing the checksum. -/
def serialize (header : TCPHeader) : Except StdException Bytes :=
  if header.doff < 5 then
    .error (.runtimeError "TCP header too short")
  else
    .ok (NetUnparser.resize (4 * header.doff.toNat) header.fieldBytes)

/-- Reading the fields, given how each of the words is read. -/
theorem reads_readFields
    {sport dport : UInt16}
    {seqno ackno : UInt32}
    {offsetByte flB : UInt8}
    {win cksum uptr : UInt16}
    {sportBytes dportBytes seqnoBytes acknoBytes offsetBytes flBytes
      winBytes cksumBytes uptrBytes : Bytes}
    (readSport : Reads u16 sportBytes sport)
    (readDport : Reads u16 dportBytes dport)
    (readSeqno : Reads u32 seqnoBytes seqno)
    (readAckno : Reads u32 acknoBytes ackno)
    (readOffset : Reads u8 offsetBytes offsetByte)
    (readFlB : Reads u8 flBytes flB)
    (readWin : Reads u16 winBytes win)
    (readCksum : Reads u16 cksumBytes cksum)
    (readUptr : Reads u16 uptrBytes uptr) :
    Reads readFields
      (sportBytes ++ (dportBytes ++ (seqnoBytes ++ (acknoBytes ++
        (offsetBytes ++ (flBytes ++ (winBytes ++ (cksumBytes ++
          (uptrBytes ++ [])))))))))
      (ofWords sport dport seqno ackno offsetByte flB win cksum uptr) :=
  readSport.bind <| readDport.bind <| readSeqno.bind <|
    readAckno.bind <| readOffset.bind <| readFlB.bind <|
    readWin.bind <| readCksum.bind <| readUptr.bind <|
    Reading.Reads.pure _

/-- The fields take twenty bytes, or as many as there are. -/
theorem consumes_readFields :
    Consumes readFields length :=
  consumes_u16.bind fun _ => consumes_u16.bind fun _ =>
    consumes_u32.bind fun _ => consumes_u32.bind fun _ =>
    consumes_u8.bind fun _ => consumes_u8.bind fun _ =>
    consumes_u16.bind fun _ => consumes_u16.bind fun _ =>
    consumes_u16.bind fun _ => Reading.Consumes.pure _

/-- The header the first twenty bytes of a segment describe. -/
def ofBytes (bytes : Bytes) : TCPHeader :=
  ofWords (u16At bytes 0) (u16At bytes 2) (u32At bytes 4)
    (u32At bytes 8) (u8At bytes 12) (u8At bytes 13) (u16At bytes 14)
    (u16At bytes 16) (u16At bytes 18)

/-- Twenty bytes are enough to read every field. -/
theorem readFields_of_holds
    {parser : NetParser}
    {bytes : Bytes}
    (holds : Holds parser bytes)
    (long : length ≤ bytes.length) :
    ∃ next,
      readFields parser = .ok (ofBytes bytes) next ∧
        Holds next (bytes.drop length) := by
  have inside : 20 ≤ bytes.length := long
  have layout :
      slice bytes 0 2 ++ (slice bytes 2 2 ++ (slice bytes 4 4 ++
        (slice bytes 8 4 ++ (slice bytes 12 1 ++ (slice bytes 13 1 ++
          (slice bytes 14 2 ++ (slice bytes 16 2 ++ (slice bytes 18 2 ++
            bytes.drop 20)))))))) = bytes := by
    rw [slice_append_drop bytes 18 2, slice_append_drop bytes 16 2,
      slice_append_drop bytes 14 2, slice_append_drop bytes 13 1,
      slice_append_drop bytes 12 1, slice_append_drop bytes 8 4,
      slice_append_drop bytes 4 4, slice_append_drop bytes 2 2,
      slice_append_drop bytes 0 2, List.drop_zero]
  rw [← layout] at holds
  have read :=
    reads_readFields
      (reads_u16At bytes 0 (by omega)) (reads_u16At bytes 2 (by omega))
      (reads_u32At bytes 4 (by omega)) (reads_u32At bytes 8 (by omega))
      (reads_u8At bytes 12 (by omega)) (reads_u8At bytes 13 (by omega))
      (reads_u16At bytes 14 (by omega)) (reads_u16At bytes 16 (by omega))
      (reads_u16At bytes 18 inside)
  exact read parser (bytes.drop 20) (by simpa using holds)

/-- A segment that ends within the fields leaves an error behind. -/
theorem parse_of_short
    {parser : NetParser}
    {bytes : Bytes}
    (holds : Holds parser bytes)
    (short : bytes.length < length) :
    ∃ result header next,
      parse parser = .ok (result, header) next ∧
        result ≠ .noError ∧
        Failed next := by
  obtain ⟨header, middle, read, middleFailed⟩ :=
    consumes_readFields.short parser bytes holds short
  rw [parse, bind_of_ok read]
  by_cases small : header.doff < 5
  · rw [if_pos small]
    exact ⟨_, header, middle, rfl, by decide, middleFailed⟩
  · obtain ⟨_, next, removed, nextFailed⟩ :=
      (consumes_removePrefix (header.doff.toNat * 4 - length)).failed
        middle middleFailed
    have hasFailed : hasError next = .ok true next := by
      rw [hasError_eq, (nextFailed : next.error = _)]
      rfl
    have got : (get : Parser NetParser) next = .ok next next := rfl
    rw [if_neg small, bind_of_ok removed, bind_of_ok hasFailed,
      if_pos rfl, bind_of_ok got, (nextFailed : next.error = _)]
    exact ⟨_, header, next, rfl, by decide, nextFailed⟩

/-- A data offset below five is reported, and leaves no error behind. -/
theorem parse_of_small
    {parser : NetParser}
    {bytes : Bytes}
    (holds : Holds parser bytes)
    (long : length ≤ bytes.length)
    (small : (ofBytes bytes).doff < 5) :
    ∃ next,
      parse parser = .ok (.headerTooShort, ofBytes bytes) next ∧
        Holds next (bytes.drop length) := by
  obtain ⟨next, read, nextHolds⟩ := readFields_of_holds holds long
  refine ⟨next, ?_, nextHolds⟩
  rw [parse, bind_of_ok read, if_pos small]
  rfl

/-- A segment that ends within the options leaves an error behind. -/
theorem parse_of_truncated
    {parser : NetParser}
    {bytes : Bytes}
    (holds : Holds parser bytes)
    (long : length ≤ bytes.length)
    (minimal : ¬ (ofBytes bytes).doff < 5)
    (truncated : bytes.length < 4 * (ofBytes bytes).doff.toNat) :
    ∃ next,
      parse parser = .ok (.packetTooShort, ofBytes bytes) next ∧
        Failed next := by
  obtain ⟨middle, read, middleHolds⟩ := readFields_of_holds holds long
  have inside : 20 ≤ bytes.length := long
  obtain ⟨_, next, removed, nextFailed⟩ :=
    (consumes_removePrefix
      ((ofBytes bytes).doff.toNat * 4 - length)).short middle _
      middleHolds
      (by
        rw [List.length_drop]
        change _ - 20 < _ * 4 - 20
        omega)
  have hasFailed : hasError next = .ok true next := by
    rw [hasError_eq, (nextFailed : next.error = _)]
    rfl
  have got : (get : Parser NetParser) next = .ok next next := rfl
  refine ⟨next, ?_, nextFailed⟩
  rw [parse, bind_of_ok read, if_neg minimal, bind_of_ok removed,
    bind_of_ok hasFailed, if_pos rfl, bind_of_ok got,
    (nextFailed : next.error = _)]
  rfl

/-- A header that is all there is taken off with its options. -/
theorem parse_of_whole
    {parser : NetParser}
    {bytes : Bytes}
    (holds : Holds parser bytes)
    (minimal : ¬ (ofBytes bytes).doff < 5)
    (whole : 4 * (ofBytes bytes).doff.toNat ≤ bytes.length) :
    ∃ next,
      parse parser = .ok (.noError, ofBytes bytes) next ∧
        Holds next (bytes.drop (4 * (ofBytes bytes).doff.toNat)) := by
  have five : 5 ≤ (ofBytes bytes).doff.toNat :=
    UInt8.le_iff_toNat_le.mp (UInt8.not_lt.mp minimal)
  have long : length ≤ bytes.length := by
    change 20 ≤ _
    omega
  obtain ⟨middle, read, middleHolds⟩ := readFields_of_holds holds long
  generalize ofBytes bytes = header at minimal whole five read ⊢
  have skipped :
      length + (header.doff.toNat * 4 - length) =
        4 * header.doff.toNat := by
    change 20 + (_ - 20) = _
    omega
  obtain ⟨next, removed, nextHolds⟩ :=
    middleHolds.removePrefix (header.doff.toNat * 4 - length)
      (by rw [List.length_drop]; omega)
  rw [List.drop_drop, skipped] at nextHolds
  have noError : hasError next = .ok false next := by
    rw [hasError_eq, nextHolds.noError]
    rfl
  refine ⟨next, ?_, nextHolds⟩
  rw [parse, bind_of_ok read, if_neg minimal, bind_of_ok removed,
    bind_of_ok noError, if_neg (by decide)]
  rfl

theorem serialize_of_valid
    {header : TCPHeader}
    (minimal : ¬ header.doff < 5) :
    header.serialize =
      .ok (NetUnparser.resize (4 * header.doff.toNat)
        header.fieldBytes) := by
  rw [serialize, if_neg minimal]

@[simp] theorem length_fieldBytes
    (header : TCPHeader) :
    header.fieldBytes.length = length := by
  simp [fieldBytes, length]

/-- The words of a valid header describe the header. -/
theorem ofWords_words
    {header : TCPHeader}
    (maximal : header.doff.toNat ≤ 15) :
    ofWords header.sport header.dport header.seqno.rawValue
        header.ackno.rawValue (header.doff <<< 4) header.flB header.win
        header.cksum header.uptr =
      header := by
  have nibble :
      ∀ doff : Fin 16,
        (UInt8.ofNat doff <<< 4) >>> 4 = UInt8.ofNat doff := by
    decide
  have doff := nibble ⟨header.doff.toNat, by omega⟩
  rw [UInt8.ofNat_toNat] at doff
  have flags :
      ∀ urg ack psh rst syn fin : Bool,
        let byte : UInt8 :=
          (if urg then 0b00100000 else 0) |||
            (if ack then 0b00010000 else 0) |||
            (if psh then 0b00001000 else 0) |||
            (if rst then 0b00000100 else 0) |||
            (if syn then 0b00000010 else 0) |||
            (if fin then 0b00000001 else 0)
        decide (byte &&& 0b00100000 ≠ 0) = urg ∧
          decide (byte &&& 0b00010000 ≠ 0) = ack ∧
          decide (byte &&& 0b00001000 ≠ 0) = psh ∧
          decide (byte &&& 0b00000100 ≠ 0) = rst ∧
          decide (byte &&& 0b00000010 ≠ 0) = syn ∧
          decide (byte &&& 0b00000001 ≠ 0) = fin := by
    decide
  obtain ⟨urg, ack, psh, rst, syn, fin⟩ :=
    flags header.urg header.ack header.psh header.rst header.syn
      header.fin
  rw [ofWords, doff, flB, urg, ack, psh, rst, syn, fin]

/-- The serialised fields of a valid header are read back. -/
theorem ofBytes_fieldBytes
    {header : TCPHeader}
    (maximal : header.doff.toNat ≤ 15)
    (rest : Bytes) :
    ofBytes (header.fieldBytes ++ rest) = header := by
  have holds :
      Holds { buffer := Buffer.ofString (header.fieldBytes ++ rest) }
        (header.fieldBytes ++ rest) :=
    ⟨rfl, Buffer.ofString_str _⟩
  have long : length ≤ (header.fieldBytes ++ rest).length := by
    rw [List.length_append, length_fieldBytes]
    exact Nat.le_add_right _ _
  have reads : Reads readFields (header.fieldBytes ++ []) header := by
    have chain :=
      reads_readFields (reads_u16 header.sport) (reads_u16 header.dport)
        (reads_u32 header.seqno.rawValue)
        (reads_u32 header.ackno.rawValue) (reads_u8 (header.doff <<< 4))
        (reads_u8 header.flB) (reads_u16 header.win)
        (reads_u16 header.cksum) (reads_u16 header.uptr)
    rw [ofWords_words maximal] at chain
    simpa [fieldBytes] using chain
  -- both readings are of the same parser state
  obtain ⟨_, decoded, _⟩ := readFields_of_holds holds long
  obtain ⟨_, readBack, _⟩ := reads _ rest (by simpa using holds)
  rw [decoded] at readBack
  injection readBack

/-- The serialised header, split at its checksum field. -/
theorem resize_fieldBytes
    {header : TCPHeader}
    (minimal : 5 ≤ header.doff.toNat) :
    ∃ before after : Bytes,
      before.length = 16 ∧
        16 + 2 + after.length = 4 * header.doff.toNat ∧
        ∀ cksum,
          NetUnparser.resize (4 * header.doff.toNat)
              (header.withCksum cksum).fieldBytes =
            before ++ (NetUnparser.u16 cksum ++ after) := by
  refine
    ⟨NetUnparser.u16 header.sport ++ (NetUnparser.u16 header.dport ++
        (NetUnparser.u32 header.seqno.rawValue ++
          (NetUnparser.u32 header.ackno.rawValue ++
            (NetUnparser.u8 (header.doff <<< 4) ++
              (NetUnparser.u8 header.flB ++
                NetUnparser.u16 header.win))))),
      NetUnparser.u16 header.uptr ++
        List.replicate (4 * header.doff.toNat - 20) 0, ?_, ?_, ?_⟩
  · simp
  · simp
    omega
  · intro cksum
    have room :
        (header.withCksum cksum).fieldBytes.length ≤
          4 * header.doff.toNat := by
      rw [length_fieldBytes]
      change 20 ≤ _
      omega
    rw [NetUnparser.resize_of_le room, length_fieldBytes]
    simp only [fieldBytes, List.append_assoc]
    rfl

end TCPHeader

namespace TCPSegment

/-- Parse into an existing segment, which a bad checksum leaves as it was. -/
def parse
    (buffer : Buffer)
    (datagramLayerChecksum : UInt32)
    (self : TCPSegment) :
    EStateM.Result StdException TCPSegment ParseResult :=
  let check : InternetChecksum := { sum := datagramLayerChecksum }
  if (check.add buffer.str).value ≠ 0 then
    .ok .badChecksum self
  else
    match TCPHeader.parse { buffer } with
    | .error thrown _ => .error thrown self
    -- what the header parser returned is not looked at
    | .ok (_, header) p =>
        .ok p.error { header, payload := p.buffer.str }

/-- Serialise with a checksum over the whole segment. -/
def serialize
    (seg : TCPSegment)
    (datagramLayerChecksum : UInt32) :
    Except StdException BufferList := do
  let check : InternetChecksum := { sum := datagramLayerChecksum }
  let check := check.add (← (seg.header.withCksum 0).serialize)
  let check := check.add seg.payload
  let serialized ← (seg.header.withCksum check.value).serialize
  return (BufferList.append [] (Buffer.ofString serialized)).append
    (Buffer.ofString seg.payload)

/-- The checksum a segment is sent with. -/
def checksum
    (seg : TCPSegment)
    (datagramLayerChecksum : UInt32) : UInt16 :=
  let check : InternetChecksum := { sum := datagramLayerChecksum }
  (check.add
    (NetUnparser.resize (4 * seg.header.doff.toNat)
        (seg.header.withCksum 0).fieldBytes ++
      seg.payload)).value

/-- The header a segment is sent with. -/
def headerOut
    (seg : TCPSegment)
    (datagramLayerChecksum : UInt32) : TCPHeader :=
  seg.header.withCksum (seg.checksum datagramLayerChecksum)

/-- The bytes a segment is sent as. -/
def image
    (seg : TCPSegment)
    (datagramLayerChecksum : UInt32) : Bytes :=
  NetUnparser.resize (4 * seg.header.doff.toNat)
      (seg.headerOut datagramLayerChecksum).fieldBytes ++
    seg.payload

theorem length_image
    (seg : TCPSegment)
    (pseudo : UInt32) :
    (seg.image pseudo).length =
      4 * seg.header.doff.toNat + seg.payload.length := by
  rw [image, List.length_append, NetUnparser.length_resize]

theorem serialize_of_valid
    {seg : TCPSegment}
    (minimal : ¬ seg.header.doff < 5)
    (pseudo : UInt32) :
    ∃ out,
      seg.serialize pseudo = .ok out ∧
        out.concatenate = seg.image pseudo := by
  have serialized :
      ∀ cksum,
        (seg.header.withCksum cksum).serialize =
          .ok (NetUnparser.resize (4 * seg.header.doff.toNat)
            (seg.header.withCksum cksum).fieldBytes) :=
    fun _ => TCPHeader.serialize_of_valid minimal
  refine
    ⟨[Buffer.ofString
        (NetUnparser.resize (4 * seg.header.doff.toNat)
          (seg.headerOut pseudo).fieldBytes),
      Buffer.ofString seg.payload], ?_, ?_⟩
  · simp only [serialize, serialized, Except.bind, bind]
    rw [headerOut, checksum, InternetChecksum.add_append]
    rfl
  · simp [image]

/-- The segment parser looks at the checksum and the parser's error. -/
theorem parse_eq
    {self : TCPSegment}
    {buffer : Buffer}
    {pseudo : UInt32}
    {result : ParseResult}
    {header : TCPHeader}
    {next : NetParser}
    (verifies :
      (({ sum := pseudo } : InternetChecksum).add buffer.str).value = 0)
    (parsed : TCPHeader.parse { buffer } = .ok (result, header) next) :
    self.parse buffer pseudo =
      .ok next.error { header, payload := next.buffer.str } := by
  simp only [parse, verifies, parsed]
  rfl

/--
What a segment is sent as is parsed to it again, as long as the counter of the
checksum does not overflow.
-/
theorem parse_image
    {seg : TCPSegment}
    {pseudo : UInt32}
    {buffer : Buffer}
    (minimal : 5 ≤ seg.header.doff.toNat)
    (maximal : seg.header.doff.toNat ≤ 15)
    (fits :
      pseudo.toNat +
        65280 * (4 * seg.header.doff.toNat + seg.payload.length) <
        2 ^ 32 - 2 ^ 16)
    (content : buffer.str = seg.image pseudo)
    (self : TCPSegment) :
    self.parse buffer pseudo =
      .ok .noError
        { header := seg.headerOut pseudo, payload := seg.payload } := by
  have headerLength :
      (NetUnparser.resize (4 * seg.header.doff.toNat)
        (seg.headerOut pseudo).fieldBytes).length =
        4 * seg.header.doff.toNat :=
    NetUnparser.length_resize _ _
  obtain ⟨before, after, beforeLength, afterLength, layout⟩ :=
    TCPHeader.resize_fieldBytes minimal
  have verifies :
      (({ sum := pseudo } : InternetChecksum).add buffer.str).value =
        0 := by
    rw [content, image, headerOut, checksum, layout, layout,
      List.append_assoc, List.append_assoc, List.append_assoc,
      List.append_assoc]
    refine InternetChecksum.value_filled rfl (by rw [beforeLength]) ?_
    rw [List.length_append]
    change pseudo.toNat + _ < _
    omega
  have decoded :
      TCPHeader.ofBytes (seg.image pseudo) = seg.headerOut pseudo := by
    have room :
        (seg.headerOut pseudo).fieldBytes.length ≤
          4 * seg.header.doff.toNat := by
      rw [TCPHeader.length_fieldBytes]
      change 20 ≤ _
      omega
    have doffOut : (seg.headerOut pseudo).doff.toNat ≤ 15 := maximal
    rw [image, NetUnparser.resize_of_le room, List.append_assoc,
      TCPHeader.ofBytes_fieldBytes doffOut]
  have holds : Holds { buffer } (seg.image pseudo) := ⟨rfl, content⟩
  have five : ¬ (TCPHeader.ofBytes (seg.image pseudo)).doff < 5 := by
    rw [decoded]
    exact UInt8.not_lt.mpr (UInt8.le_iff_toNat_le.mpr minimal)
  have whole :
      4 * (TCPHeader.ofBytes (seg.image pseudo)).doff.toNat ≤
        (seg.image pseudo).length := by
    rw [decoded, length_image]
    exact Nat.le_add_right _ _
  obtain ⟨next, parsed, nextHolds⟩ :=
    TCPHeader.parse_of_whole holds five whole
  have rest :
      (seg.image pseudo).drop (4 * (seg.headerOut pseudo).doff.toNat) =
        seg.payload :=
    List.drop_left' headerLength
  rw [decoded, rest] at nextHolds
  rw [decoded] at parsed
  rw [parse_eq verifies parsed, nextHolds.noError, nextHolds.left]

end TCPSegment

end Sponge
