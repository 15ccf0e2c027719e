import Sponge.InternetChecksum

namespace Sponge

open Reading NetParser

/-!
# IPv4 headers and datagrams

The header parser fills in the fields of an existing header and reports what is
wrong with them; the datagram parser calls it and looks at the remaining length
only.  Serialising recomputes the header checksum.
-/

/-- An IPv4 address and a port, as the numbers they convert to. -/
structure Address where
  ipv4Numeric : UInt32 := 0
  port : UInt16 := 0
  deriving DecidableEq

/-- The header of an IPv4 datagram, without options. -/
structure IPv4Header where
  ver : UInt8 := 4
  hlen : UInt8 := 5
  tos : UInt8 := 0
  len : UInt16 := 0
  id : UInt16 := 0
  df : Bool := true
  mf : Bool := false
  offset : UInt16 := 0
  ttl : UInt8 := 128
  proto : UInt8 := 6
  cksum : UInt16 := 0
  src : UInt32 := 0
  dst : UInt32 := 0
  deriving DecidableEq

namespace IPv4Header

/-- The header length, not including options. -/
def length : Nat := 20

/-- The protocol number of TCP. -/
def protoTcp : UInt8 := 6

/-- The header with another checksum field. -/
def withCksum
    (header : IPv4Header)
    (cksum : UInt16) : IPv4Header :=
  { header with cksum }

/-- The header described by the words read off the wire. -/
def ofWords
    (firstByte tos : UInt8)
    (len id foVal : UInt16)
    (ttl proto : UInt8)
    (cksum : UInt16)
    (src dst : UInt32) : IPv4Header where
  ver := firstByte >>> 4
  hlen := firstByte &&& 0x0f
  tos
  len
  id
  df := decide (foVal &&& 0x4000 ≠ 0)
  mf := decide (foVal &&& 0x2000 ≠ 0)
  offset := foVal &&& 0x1fff
  ttl
  proto
  cksum
  src
  dst

/-- Read the fields in the order of the wire. -/
def readFields : Parser IPv4Header := do
  let firstByte ← u8
  let tos ← u8
  let len ← u16
  let id ← u16
  let foVal ← u16
  let ttl ← u8
  let proto ← u8
  let cksum ← u16
  let src ← u32
  let dst ← u32
  return ofWords firstByte tos len id foVal ttl proto cksum src dst

/-- Parse into an existing header, which a short packet leaves as it was. -/
def parse (self : IPv4Header) : Parser (ParseResult × IPv4Header) := do
  let originalSerializedVersion := (← get).buffer
  let dataSize := originalSerializedVersion.str.length
  if dataSize < length then
    return (.packetTooShort, self)
  let header ← readFields
  if dataSize < 4 * header.hlen.toNat then
    return (.packetTooShort, header)
  if header.ver ≠ 4 then
    return (.wrongIPVersion, header)
  if header.hlen < 5 then
    return (.headerTooShort, header)
  if dataSize ≠ header.len.toNat then
    return (.truncatedPacket, header)
  NetParser.removePrefix (header.hlen.toNat * 4 - length)
  if ← hasError then
    return ((← get).error, header)
  let check :=
    ({} : InternetChecksum).add
      (originalSerializedVersion.str.take (4 * header.hlen.toNat))
  if check.value ≠ 0 then
    return (.badChecksum, header)
  return (.noError, header)

/-- The word with the two flags and the fragment offset. -/
def foVal (header : IPv4Header) : UInt16 :=
  (if header.df then 0x4000 else 0) |||
    (if header.mf then 0x2000 else 0) |||
    (header.offset &&& 0x1fff)

/-- The fields in the order of the wire, without options. -/
def fieldBytes (header : IPv4Header) : Bytes :=
  NetUnparser.u8 ((header.ver <<< 4) ||| (header.hlen &&& 0xf)) ++
    (NetUnparser.u8 header.tos ++
    (NetUnparser.u16 header.len ++
    (NetUnparser.u16 header.id ++
    (NetUnparser.u16 header.foVal ++
    (NetUnparser.u8 header.ttl ++
    (NetUnparser.u8 header.proto ++
    (NetUnparser.u16 header.cksum ++
    (NetUnparser.u32 header.src ++
      NetUnparser.u32 header.dst))))))))

/-- Serialise the fields, without recomputing the checksum. -/
def serialize (header : IPv4Header) : Except StdException Bytes :=
  if header.ver ≠ 4 then
    .error (.runtimeError "wrong IP version")
  else if 4 * header.hlen.toNat < length then
    .error (.runtimeError "IP header too short")
  else
    .ok (NetUnparser.resize (4 * header.hlen.toNat) header.fieldBytes)

/-- What the length field leaves after the header, on 16 bits. -/
def payloadLength (header : IPv4Header) : UInt16 :=
  header.len - 4 * header.hlen.toUInt16

/-- The pseudo-header's contribution to the checksum of a segment. -/
def pseudoCksum (header : IPv4Header) : UInt32 :=
  let pcksum : UInt32 := (header.src >>> 16) + (header.src &&& 0xffff)
  let pcksum := pcksum + ((header.dst >>> 16) + (header.dst &&& 0xffff))
  let pcksum := pcksum + header.proto.toUInt32
  pcksum + header.payloadLength.toUInt32

/-- Reading the fields, given how each of the words is read. -/
theorem reads_readFields
    {firstByte tos : UInt8}
    {len id foVal : UInt16}
    {ttl proto : UInt8}
    {cksum : UInt16}
    {src dst : UInt32}
    {firstByteBytes tosBytes lenBytes idBytes foValBytes ttlBytes
      protoBytes cksumBytes srcBytes dstBytes : Bytes}
    (readFirstByte : Reads u8 firstByteBytes firstByte)
    (readTos : Reads u8 tosBytes tos)
    (readLen : Reads u16 lenBytes len)
    (readId : Reads u16 idBytes id)
    (readFoVal : Reads u16 foValBytes foVal)
    (readTtl : Reads u8 ttlBytes ttl)
    (readProto : Reads u8 protoBytes proto)
    (readCksum : Reads u16 cksumBytes cksum)
    (readSrc : Reads u32 srcBytes src)
    (readDst : Reads u32 dstBytes dst) :
    Reads readFields
      (firstByteBytes ++ (tosBytes ++ (lenBytes ++ (idBytes ++
        (foValBytes ++ (ttlBytes ++ (protoBytes ++ (cksumBytes ++
          (srcBytes ++ (dstBytes ++ []))))))))))
      (ofWords firstByte tos len id foVal ttl proto cksum src dst) :=
  readFirstByte.bind <| readTos.bind <| readLen.bind <| readId.bind <|
    readFoVal.bind <| readTtl.bind <| readProto.bind <|
    readCksum.bind <| readSrc.bind <| readDst.bind <|
    Reading.Reads.pure _

/-- The header the first twenty bytes of a packet describe. -/
def ofBytes (bytes : Bytes) : IPv4Header :=
  ofWords (u8At bytes 0) (u8At bytes 1) (u16At bytes 2) (u16At bytes 4)
    (u16At bytes 6) (u8At bytes 8) (u8At bytes 9) (u16At bytes 10)
    (u32At bytes 12) (u32At bytes 16)

/-- Twenty bytes are enough to read every field. -/
theorem readFields_of_holds
    {parser : NetParser}
    {bytes : Bytes}
    (holds : Holds parser bytes)
    (long : length ≤ bytes.length) :
    ∃ next,
      readFields parser = .ok (ofBytes bytes) next ∧
        Holds next (bytes.drop length) := by
  have inside : 20 ≤ bytes.length := long
  have layout :
      slice bytes 0 1 ++ (slice bytes 1 1 ++ (slice bytes 2 2 ++
        (slice bytes 4 2 ++ (slice bytes 6 2 ++ (slice bytes 8 1 ++
          (slice bytes 9 1 ++ (slice bytes 10 2 ++ (slice bytes 12 4 ++
            (slice bytes 16 4 ++ bytes.drop 20))))))))) = bytes := by
    rw [slice_append_drop bytes 16 4, slice_append_drop bytes 12 4,
      slice_append_drop bytes 10 2, slice_append_drop bytes 9 1,
      slice_append_drop bytes 8 1, slice_append_drop bytes 6 2,
      slice_append_drop bytes 4 2, slice_append_drop bytes 2 2,
      slice_append_drop bytes 1 1, slice_append_drop bytes 0 1,
      List.drop_zero]
  rw [← layout] at holds
  have read :=
    reads_readFields
      (reads_u8At bytes 0 (by omega)) (reads_u8At bytes 1 (by omega))
      (reads_u16At bytes 2 (by omega)) (reads_u16At bytes 4 (by omega))
      (reads_u16At bytes 6 (by omega)) (reads_u8At bytes 8 (by omega))
      (reads_u8At bytes 9 (by omega)) (reads_u16At bytes 10 (by omega))
      (reads_u32At bytes 12 (by omega)) (reads_u32At bytes 16 inside)
  exact read parser (bytes.drop 20) (by simpa using holds)

/-- The fields agree with each other and with the size of the packet. -/
structure Framed
    (header : IPv4Header)
    (size : Nat) : Prop where
  present : 4 * header.hlen.toNat ≤ size
  version : header.ver = 4
  minimal : ¬ header.hlen < 5
  total : size = header.len.toNat

instance
    (header : IPv4Header)
    (size : Nat) :
    Decidable (header.Framed size) :=
  decidable_of_iff
    (4 * header.hlen.toNat ≤ size ∧ header.ver = 4 ∧
      ¬ header.hlen < 5 ∧ size = header.len.toNat)
    ⟨fun ⟨present, version, minimal, total⟩ =>
        ⟨present, version, minimal, total⟩,
      fun framed =>
        ⟨framed.present, framed.version, framed.minimal, framed.total⟩⟩

theorem parse_of_short
    (self : IPv4Header)
    {parser : NetParser}
    {bytes : Bytes}
    (holds : Holds parser bytes)
    (short : bytes.length < length) :
    parse self parser = .ok (.packetTooShort, self) parser := by
  have got : (get : Parser NetParser) parser = .ok parser parser := rfl
  rw [parse, bind_of_ok got, holds.left, if_pos short]
  rfl

/-- Fields that do not fit the packet are reported, and the rest is kept. -/
theorem parse_of_not_framed
    (self : IPv4Header)
    {parser : NetParser}
    {bytes : Bytes}
    (holds : Holds parser bytes)
    (long : length ≤ bytes.length)
    (unframed : ¬ (ofBytes bytes).Framed bytes.length) :
    ∃ result next,
      parse self parser = .ok (result, ofBytes bytes) next ∧
        result ≠ .noError ∧
        Holds next (bytes.drop length) := by
  have got : (get : Parser NetParser) parser = .ok parser parser := rfl
  obtain ⟨next, read, nextHolds⟩ := readFields_of_holds holds long
  rw [parse, bind_of_ok got, holds.left, if_neg (Nat.not_lt.mpr long),
    bind_of_ok read]
  generalize ofBytes bytes = header at unframed ⊢
  by_cases absent : bytes.length < 4 * header.hlen.toNat
  · rw [if_pos absent]
    exact ⟨_, next, rfl, by decide, nextHolds⟩
  rw [if_neg absent]
  by_cases version : header.ver ≠ 4
  · rw [if_pos version]
    exact ⟨_, next, rfl, by decide, nextHolds⟩
  rw [if_neg version]
  by_cases minimal : header.hlen < 5
  · rw [if_pos minimal]
    exact ⟨_, next, rfl, by decide, nextHolds⟩
  rw [if_neg minimal]
  by_cases total : bytes.length ≠ header.len.toNat
  · rw [if_pos total]
    exact ⟨_, next, rfl, by decide, nextHolds⟩
  · exact absurd
      ⟨Nat.le_of_not_lt absent, not_not.mp version, minimal,
        not_not.mp total⟩
      unframed

/-- Fields that fit the packet leave the checksum to be verified. -/
theorem parse_of_framed
    (self : IPv4Header)
    {parser : NetParser}
    {bytes : Bytes}
    (holds : Holds parser bytes)
    (long : length ≤ bytes.length)
    (framed : (ofBytes bytes).Framed bytes.length) :
    ∃ next,
      parse self parser =
          .ok
            (if (({} : InternetChecksum).add
                  (bytes.take (4 * (ofBytes bytes).hlen.toNat))).value ≠ 0
              then .badChecksum
              else .noError,
              ofBytes bytes) next ∧
        Holds next (bytes.drop (4 * (ofBytes bytes).hlen.toNat)) := by
  have got : (get : Parser NetParser) parser = .ok parser parser := rfl
  obtain ⟨middle, read, middleHolds⟩ := readFields_of_holds holds long
  rw [parse, bind_of_ok got, holds.left, if_neg (Nat.not_lt.mpr long),
    bind_of_ok read]
  generalize ofBytes bytes = header at framed ⊢
  have minimal : 5 ≤ header.hlen.toNat :=
    UInt8.le_iff_toNat_le.mp (UInt8.not_lt.mp framed.minimal)
  have present := framed.present
  have skipped :
      length + (header.hlen.toNat * 4 - length) =
        4 * header.hlen.toNat := by
    change 20 + (_ - 20) = _
    omega
  obtain ⟨next, removed, nextHolds⟩ :=
    middleHolds.removePrefix (header.hlen.toNat * 4 - length)
      (by rw [List.length_drop]; omega)
  rw [List.drop_drop, skipped] at nextHolds
  have noError : hasError next = .ok false next := by
    rw [hasError_eq, nextHolds.noError]
    rfl
  refine ⟨next, ?_, nextHolds⟩
  rw [if_neg (Nat.not_lt.mpr present), if_neg (not_not.mpr framed.version),
    if_neg framed.minimal, if_neg (not_not.mpr framed.total),
    bind_of_ok removed, bind_of_ok noError, if_neg (by decide)]
  split <;> rfl

/-- Serialising needs the right version and room for the fields. -/
theorem serialize_of_valid
    {header : IPv4Header}
    (version : header.ver = 4)
    (minimal : 5 ≤ header.hlen.toNat) :
    header.serialize =
      .ok (NetUnparser.resize (4 * header.hlen.toNat)
        header.fieldBytes) := by
  have room : ¬ 4 * header.hlen.toNat < length := by
    change ¬ 4 * header.hlen.toNat < 20
    omega
  rw [serialize, if_neg (not_not.mpr version), if_neg room]

@[simp] theorem length_fieldBytes
    (header : IPv4Header) :
    header.fieldBytes.length = length := by
  simp [fieldBytes, length]

/-- Masking the word of flags and offset. -/
theorem foVal_and
    (header : IPv4Header)
    (mask : UInt16) :
    header.foVal &&& mask =
      (((if header.df then 0x4000 else 0) |||
          (if header.mf then 0x2000 else 0)) &&& mask) |||
        (header.offset &&& (0x1fff &&& mask)) := by
  apply UInt16.toNat.inj
  simp only [foVal, UInt16.toNat_and, UInt16.toNat_or,
    Nat.and_or_distrib_right, Nat.and_assoc]

/-- The words of a valid header describe the header. -/
theorem ofWords_words
    {header : IPv4Header}
    (version : header.ver = 4)
    (maximal : header.hlen.toNat ≤ 15)
    (offsetFits : header.offset.toNat < 2 ^ 13) :
    ofWords ((header.ver <<< 4) ||| (header.hlen &&& 0xf)) header.tos
        header.len header.id header.foVal header.ttl header.proto
        header.cksum header.src header.dst =
      header := by
  have nibbles :
      ∀ hlen : Fin 16,
        (((4 : UInt8) <<< 4) ||| (UInt8.ofNat hlen &&& 0xf)) >>> 4 = 4 ∧
          (((4 : UInt8) <<< 4) ||| (UInt8.ofNat hlen &&& 0xf)) &&& 0x0f =
            UInt8.ofNat hlen := by
    decide
  have firstByte := nibbles ⟨header.hlen.toNat, by omega⟩
  rw [UInt8.ofNat_toNat] at firstByte
  have df : decide (header.foVal &&& 0x4000 ≠ 0) = header.df := by
    rw [foVal_and]
    change decide (_ ||| (header.offset &&& 0) ≠ 0) = _
    rw [UInt16.and_zero]
    cases header.df <;> cases header.mf <;> rfl
  have mf : decide (header.foVal &&& 0x2000 ≠ 0) = header.mf := by
    rw [foVal_and]
    change decide (_ ||| (header.offset &&& 0) ≠ 0) = _
    rw [UInt16.and_zero]
    cases header.df <;> cases header.mf <;> rfl
  have offset : header.foVal &&& 0x1fff = header.offset := by
    have low : header.offset &&& 0x1fff = header.offset := by
      apply UInt16.toNat.inj
      rw [UInt16.toNat_and]
      exact
        (Nat.and_two_pow_sub_one_eq_mod _ 13).trans
          (Nat.mod_eq_of_lt offsetFits)
    have noFlag :
        (((if header.df then 0x4000 else 0) |||
          (if header.mf then 0x2000 else 0)) &&& 0x1fff : UInt16) = 0 := by
      cases header.df <;> cases header.mf <;> rfl
    rw [foVal_and, noFlag, UInt16.zero_or]
    exact low
  rw [ofWords, version, firstByte.1, firstByte.2, df, mf, offset,
    ← version]

/-- The serialised fields of a valid header are read back. -/
theorem ofBytes_fieldBytes
    {header : IPv4Header}
    (version : header.ver = 4)
    (maximal : header.hlen.toNat ≤ 15)
    (offsetFits : header.offset.toNat < 2 ^ 13)
    (rest : Bytes) :
    ofBytes (header.fieldBytes ++ rest) = header := by
  have holds :
      Holds { buffer := Buffer.ofString (header.fieldBytes ++ rest) }
        (header.fieldBytes ++ rest) :=
    ⟨rfl, Buffer.ofString_str _⟩
  have long : length ≤ (header.fieldBytes ++ rest).length := by
    rw [List.length_append, length_fieldBytes]
    exact Nat.le_add_right _ _
  have reads : Reads readFields (header.fieldBytes ++ []) header := by
    have chain :=
      reads_readFields
        (reads_u8 ((header.ver <<< 4) ||| (header.hlen &&& 0xf)))
        (reads_u8 header.tos) (reads_u16 header.len)
        (reads_u16 header.id) (reads_u16 header.foVal)
        (reads_u8 header.ttl) (reads_u8 header.proto)
        (reads_u16 header.cksum) (reads_u32 header.src)
        (reads_u32 header.dst)
    rw [ofWords_words version maximal offsetFits] at chain
    simpa [fieldBytes] using chain
  -- both readings are of the same parser state
  obtain ⟨_, decoded, _⟩ := readFields_of_holds holds long
  obtain ⟨_, readBack, _⟩ := reads _ rest (by simpa using holds)
  rw [decoded] at readBack
  injection readBack

/-- The serialised header, split at its checksum field. -/
theorem resize_fieldBytes
    {header : IPv4Header}
    (minimal : 5 ≤ header.hlen.toNat) :
    ∃ before after : Bytes,
      before.length = 10 ∧
        10 + 2 + after.length = 4 * header.hlen.toNat ∧
        ∀ cksum,
          NetUnparser.resize (4 * header.hlen.toNat)
              (header.withCksum cksum).fieldBytes =
            before ++ (NetUnparser.u16 cksum ++ after) := by
  refine
    ⟨NetUnparser.u8 ((header.ver <<< 4) ||| (header.hlen &&& 0xf)) ++
        (NetUnparser.u8 header.tos ++ (NetUnparser.u16 header.len ++
          (NetUnparser.u16 header.id ++ (NetUnparser.u16 header.foVal ++
            (NetUnparser.u8 header.ttl ++
              NetUnparser.u8 header.proto))))),
      NetUnparser.u32 header.src ++ (NetUnparser.u32 header.dst ++
        List.replicate (4 * header.hlen.toNat - 20) 0), ?_, ?_, ?_⟩
  · simp
  · simp
    omega
  · intro cksum
    have room :
        (header.withCksum cksum).fieldBytes.length ≤
          4 * header.hlen.toNat := by
      rw [length_fieldBytes]
      change 20 ≤ _
      omega
    rw [NetUnparser.resize_of_le room, length_fieldBytes]
    simp only [fieldBytes, List.append_assoc]
    rfl

end IPv4Header

/-- A datagram: a header and the payload it was parsed or built with. -/
structure IPv4Datagram where
  header : IPv4Header := {}
  payload : BufferList := []
  deriving DecidableEq

/-- The datagrams that interfaces and routers handle. -/
abbrev InternetDatagram := IPv4Datagram

namespace IPv4Datagram

/-- Parse into an existing datagram. -/
def parse
    (buffer : Buffer)
    (self : IPv4Datagram) :
    EStateM.Result StdException IPv4Datagram ParseResult :=
  match self.header.parse { buffer } with
  | .error thrown _ => .error thrown self
  -- what the header parser returned is not looked at
  | .ok (_, header) p =>
      let payload : BufferList := [p.buffer]
      if payload.size ≠ header.payloadLength.toNat then
        .ok .packetTooShort { header, payload }
      else
        .ok p.error { header, payload }

/-- Serialise with a header checksum computed afresh. -/
def serialize
    (dgram : IPv4Datagram) : Except StdException BufferList :=
  if dgram.payload.size ≠ dgram.header.payloadLength.toNat then
    .error (.runtimeError
      "IPv4Datagram::serialize: payload is wrong size")
  else do
    let headerZeroChecksum ← (dgram.header.withCksum 0).serialize
    let check := ({} : InternetChecksum).add headerZeroChecksum
    let serialized ← (dgram.header.withCksum check.value).serialize
    return (BufferList.append [] (Buffer.ofString serialized)).appendList
      dgram.payload

/-- The datagrams that can be serialised. -/
structure Serializable (dgram : IPv4Datagram) : Prop where
  sized : dgram.payload.size = dgram.header.payloadLength.toNat
  version : dgram.header.ver = 4
  minimal : 5 ≤ dgram.header.hlen.toNat

/-- The header a datagram is sent with. -/
def headerOut (dgram : IPv4Datagram) : IPv4Header :=
  dgram.header.withCksum
    (({} : InternetChecksum).add
      (NetUnparser.resize (4 * dgram.header.hlen.toNat)
        (dgram.header.withCksum 0).fieldBytes)).value

/-- The bytes a datagram is sent as. -/
def image (dgram : IPv4Datagram) : Bytes :=
  NetUnparser.resize (4 * dgram.header.hlen.toNat)
      dgram.headerOut.fieldBytes ++
    dgram.payload.concatenate

theorem serialize_of_serializable
    {dgram : IPv4Datagram}
    (valid : dgram.Serializable) :
    ∃ out,
      dgram.serialize = .ok out ∧ out.concatenate = dgram.image := by
  have serialized :
      ∀ cksum,
        (dgram.header.withCksum cksum).serialize =
          .ok (NetUnparser.resize (4 * dgram.header.hlen.toNat)
            (dgram.header.withCksum cksum).fieldBytes) :=
    fun _ =>
      IPv4Header.serialize_of_valid valid.version valid.minimal
  refine
    ⟨Buffer.ofString
        (NetUnparser.resize (4 * dgram.header.hlen.toNat)
          dgram.headerOut.fieldBytes) :: dgram.payload, ?_, ?_⟩
  · rw [serialize, if_neg (not_not.mpr valid.sized)]
    simp only [serialized, Except.bind, bind]
    rfl
  · simp [image]

theorem serializable_of_serialize
    {dgram : IPv4Datagram}
    {out : BufferList}
    (returned : dgram.serialize = .ok out) :
    dgram.Serializable := by
  by_cases sized :
      dgram.payload.size = dgram.header.payloadLength.toNat
  · by_cases version : dgram.header.ver = 4
    · by_cases minimal : 5 ≤ dgram.header.hlen.toNat
      · exact ⟨sized, version, minimal⟩
      · have tooShort :
            4 * dgram.header.hlen.toNat < IPv4Header.length := by
          change _ < 20
          omega
        simp [serialize, sized, version, IPv4Header.serialize,
          IPv4Header.withCksum, tooShort, bind, Except.bind] at returned
    · simp [serialize, sized, version, IPv4Header.serialize,
        IPv4Header.withCksum, bind, Except.bind] at returned
  · simp [serialize, sized] at returned

/-- A datagram whose header describes it. -/
structure WellFormed (dgram : IPv4Datagram) : Prop where
  version : dgram.header.ver = 4
  minimal : 5 ≤ dgram.header.hlen.toNat
  maximal : dgram.header.hlen.toNat ≤ 15
  offsetFits : dgram.header.offset.toNat < 2 ^ 13
  total :
    dgram.header.len.toNat =
      4 * dgram.header.hlen.toNat + dgram.payload.size

instance (dgram : IPv4Datagram) : Decidable dgram.WellFormed :=
  decidable_of_iff
    (dgram.header.ver = 4 ∧
      5 ≤ dgram.header.hlen.toNat ∧
      dgram.header.hlen.toNat ≤ 15 ∧
      dgram.header.offset.toNat < 2 ^ 13 ∧
      dgram.header.len.toNat =
        4 * dgram.header.hlen.toNat + dgram.payload.size)
    ⟨fun ⟨version, minimal, maximal, offsetFits, total⟩ =>
      ⟨version, minimal, maximal, offsetFits, total⟩,
    fun ⟨version, minimal, maximal, offsetFits, total⟩ =>
      ⟨version, minimal, maximal, offsetFits, total⟩⟩

theorem payloadLength_of_total
    {header : IPv4Header}
    {size : Nat}
    (total : header.len.toNat = 4 * header.hlen.toNat + size) :
    header.payloadLength.toNat = size := by
  have lenBound := header.len.toNat_lt
  have words :
      (4 * header.hlen.toUInt16 : UInt16).toNat =
        4 * header.hlen.toNat := by
    have bound := header.hlen.toNat_lt
    rw [UInt16.toNat_mul, UInt8.toNat_toUInt16]
    exact Nat.mod_eq_of_lt (by change 4 * _ < _; omega)
  rw [IPv4Header.payloadLength, UInt16.toNat_sub, words]
  omega

theorem WellFormed.serializable
    {dgram : IPv4Datagram}
    (wellFormed : dgram.WellFormed) :
    dgram.Serializable where
  sized := (payloadLength_of_total wellFormed.total).symm
  version := wellFormed.version
  minimal := wellFormed.minimal

/-- The datagram parser only compares lengths. -/
theorem parse_eq
    {self : IPv4Datagram}
    {buffer : Buffer}
    {result : ParseResult}
    {header : IPv4Header}
    {next : NetParser}
    {rest : Bytes}
    (parsed :
      self.header.parse { buffer } = .ok (result, header) next)
    (holds : Holds next rest) :
    self.parse buffer =
      .ok
        (if rest.length = header.payloadLength.toNat then
          .noError
        else
          .packetTooShort)
        { header, payload := [next.buffer] } := by
  have size : BufferList.size [next.buffer] = rest.length := by
    rw [BufferList.size_eq_length, BufferList.concatenate_cons,
      BufferList.concatenate_nil, List.append_nil, holds.left]
  rw [parse, parsed]
  simp only [size, holds.noError, ne_eq, ite_not]
  split <;> rfl

/-- Parsing always returns. -/
theorem parse_returns
    (buffer : Buffer)
    (self : IPv4Datagram) :
    ∃ result parsed, self.parse buffer = .ok result parsed := by
  have holds := holds_start buffer
  by_cases short : buffer.str.length < IPv4Header.length
  · exact ⟨_, _,
      parse_eq (IPv4Header.parse_of_short self.header holds short)
        holds⟩
  have long : IPv4Header.length ≤ buffer.str.length :=
    Nat.le_of_not_lt short
  by_cases framed :
      (IPv4Header.ofBytes buffer.str).Framed buffer.str.length
  · obtain ⟨next, parsed, nextHolds⟩ :=
      IPv4Header.parse_of_framed self.header holds long framed
    exact ⟨_, _, parse_eq parsed nextHolds⟩
  · obtain ⟨result, next, parsed, _, nextHolds⟩ :=
      IPv4Header.parse_of_not_framed self.header holds long framed
    exact ⟨_, _, parse_eq parsed nextHolds⟩

theorem length_headerImage
    (dgram : IPv4Datagram) :
    (NetUnparser.resize (4 * dgram.header.hlen.toNat)
      dgram.headerOut.fieldBytes).length =
      4 * dgram.header.hlen.toNat :=
  NetUnparser.length_resize _ _

/-- The first bytes of an image describe the header that was sent. -/
theorem WellFormed.ofBytes_image
    {dgram : IPv4Datagram}
    (wellFormed : dgram.WellFormed) :
    IPv4Header.ofBytes dgram.image = dgram.headerOut := by
  have minimal := wellFormed.minimal
  have room :
      dgram.headerOut.fieldBytes.length ≤
        4 * dgram.header.hlen.toNat := by
    rw [IPv4Header.length_fieldBytes]
    change 20 ≤ _
    omega
  have version : dgram.headerOut.ver = 4 := wellFormed.version
  have maximal : dgram.headerOut.hlen.toNat ≤ 15 := wellFormed.maximal
  have offsetFits : dgram.headerOut.offset.toNat < 2 ^ 13 :=
    wellFormed.offsetFits
  rw [image, NetUnparser.resize_of_le room, List.append_assoc,
    IPv4Header.ofBytes_fieldBytes version maximal offsetFits]

theorem WellFormed.length_image
    {dgram : IPv4Datagram}
    (wellFormed : dgram.WellFormed) :
    dgram.image.length = dgram.header.len.toNat := by
  rw [image, List.length_append, length_headerImage, wellFormed.total,
    BufferList.size_eq_length]

/-- The header parser accepts an image and takes the header off it. -/
theorem WellFormed.headerParse_image
    {dgram : IPv4Datagram}
    (wellFormed : dgram.WellFormed)
    (self : IPv4Header) :
    ∃ next,
      self.parse { buffer := Buffer.ofString dgram.image } =
          .ok (.noError, dgram.headerOut) next ∧
        Holds next dgram.payload.concatenate := by
  have minimal := wellFormed.minimal
  have total := wellFormed.total
  have holds :
      Holds { buffer := Buffer.ofString dgram.image } dgram.image :=
    ⟨rfl, Buffer.ofString_str _⟩
  have long : IPv4Header.length ≤ dgram.image.length := by
    rw [wellFormed.length_image]
    change 20 ≤ _
    omega
  have framed :
      (IPv4Header.ofBytes dgram.image).Framed dgram.image.length := by
    have present :
        4 * dgram.header.hlen.toNat ≤ dgram.header.len.toNat := by
      omega
    rw [wellFormed.ofBytes_image, wellFormed.length_image]
    exact
      ⟨present, wellFormed.version,
        UInt8.not_lt.mpr (UInt8.le_iff_toNat_le.mpr minimal), rfl⟩
  obtain ⟨before, after, beforeLength, afterLength, layout⟩ :=
    IPv4Header.resize_fieldBytes wellFormed.minimal
  have verifies :
      (({} : InternetChecksum).add
        (dgram.image.take (4 * dgram.headerOut.hlen.toNat))).value =
        0 := by
    have bound := wellFormed.maximal
    rw [image]
    change
      (InternetChecksum.add _
        (List.take (4 * dgram.header.hlen.toNat) _)).value = 0
    rw [List.take_left' dgram.length_headerImage, headerOut, layout,
      layout]
    exact InternetChecksum.value_filled rfl (by rw [beforeLength])
      (by change 0 + _ < _; omega)
  have rest :
      dgram.image.drop (4 * dgram.headerOut.hlen.toNat) =
        dgram.payload.concatenate :=
    List.drop_left' dgram.length_headerImage
  obtain ⟨next, parsed, nextHolds⟩ :=
    IPv4Header.parse_of_framed self holds long framed
  rw [wellFormed.ofBytes_image, rest] at nextHolds
  rw [wellFormed.ofBytes_image, if_neg (not_not.mpr verifies)] at parsed
  exact ⟨next, parsed, nextHolds⟩

/-- What a well-formed datagram is sent as is parsed to it again. -/
theorem WellFormed.parse_image
    {dgram : IPv4Datagram}
    (wellFormed : dgram.WellFormed)
    (self : IPv4Datagram) :
    ∃ rest : Buffer,
      self.parse (Buffer.ofString dgram.image) =
          .ok .noError { header := dgram.headerOut, payload := [rest] } ∧
        rest.str = dgram.payload.concatenate := by
  obtain ⟨next, parsed, holds⟩ :=
    wellFormed.headerParse_image self.header
  have total :
      dgram.headerOut.len.toNat =
        4 * dgram.headerOut.hlen.toNat +
          dgram.payload.concatenate.length := by
    rw [← BufferList.size_eq_length]
    exact wellFormed.total
  refine ⟨next.buffer, ?_, holds.left⟩
  rw [parse_eq parsed holds, payloadLength_of_total total, if_pos rfl]

end IPv4Datagram

end Sponge
