import Sponge.PacketParsing

namespace Sponge

open Reading NetParser

/-!
# The packet parsers stay within their input

Reading past a buffer throws, and so does removing more than it holds.  Two
steps of the header parsers are not guarded that way: the length of the options
is a difference, and the range of a checksum is a bare pointer and a count.  The
`parseChecked` parsers refuse both where the source would go wrong; they are the
same computations as the parsers, and no packet makes a parser throw.
-/

namespace NetParser

/-- The bytes a parser has not taken yet. -/
def remaining (parser : NetParser) : Bytes :=
  parser.buffer.str

/-- Skip the rest of a header of `words` words, if that is not negative. -/
def skipOptions (words fields : Nat) : Parser Unit :=
  if words * 4 < fields then
    throw (.outOfRange "negative skip length")
  else
    removePrefix (words * 4 - fields)

/-- The first `count` bytes from a pointer to the front of a string. -/
def viewFront (count : Nat) (bytes : Bytes) : Parser Bytes :=
  if bytes.length < count then
    throw (.outOfRange "read past the end")
  else
    return bytes.take count

theorem skipOptions_of_le
    {words fields : Nat}
    (ordered : fields ≤ words * 4) :
    skipOptions words fields = removePrefix (words * 4 - fields) := by
  rw [skipOptions, if_neg (Nat.not_lt.mpr ordered)]

theorem viewFront_of_le
    {count : Nat}
    {bytes : Bytes}
    (inside : count ≤ bytes.length) :
    viewFront count bytes = pure (bytes.take count) := by
  rw [viewFront, if_neg (Nat.not_lt.mpr inside)]

/-- A size check leaves the buffer alone, and an error or enough bytes. -/
theorem checkSize_cases
    (size : Nat)
    (parser : NetParser) :
    ∃ checked,
      checkSize size parser = .ok () checked ∧
        checked.buffer = parser.buffer ∧
        (checked.error ≠ .noError ∨
          size ≤ parser.buffer.str.length ∧ checked.error = .noError) := by
  by_cases short : parser.buffer.str.length < size
  · exact ⟨_, checkSize_of_lt short, rfl, Or.inl nofun⟩
  · have enough := Nat.le_of_not_lt short
    refine ⟨parser, checkSize_of_le enough, rfl, ?_⟩
    by_cases failed : parser.error = .noError
    · exact Or.inr ⟨enough, failed⟩
    · exact Or.inl failed

theorem shortens_hasError :
    Shortens remaining hasError :=
  fun parser => ⟨_, parser, hasError_eq parser, List.suffix_refl _⟩

/--
A reader that checks for `width` bytes first takes them from the front, or stops
at an error and takes nothing.
-/
theorem shortens_of_checked
    {α : Type}
    {width : Nat}
    {reader action : Parser α}
    {fallback : α}
    (guarded :
      reader =
        checkSize width >>= fun _ =>
          hasError >>= fun failed =>
            if failed then pure fallback else action)
    (consumes : Consumes reader width) :
    Shortens remaining reader := by
  intro parser
  obtain ⟨checked, sizeChecked, same, failed | ⟨enough, noError⟩⟩ :=
    checkSize_cases width parser
  · have stops : hasError checked = .ok true checked := by
      rw [hasError_eq, decide_eq_true failed]
    refine ⟨fallback, checked, ?_, ?_⟩
    · rw [guarded, bind_of_ok sizeChecked, bind_of_ok stops, if_pos rfl]
      rfl
    · rw [remaining, same]
      exact List.suffix_refl _
  · have holds : Holds checked parser.remaining :=
      ⟨noError, by rw [same]; rfl⟩
    have passes : checkSize width checked = .ok () checked :=
      checkSize_of_le (by rw [same]; exact enough)
    obtain ⟨value, next, read, left⟩ :=
      consumes.enough checked _ holds enough
    refine ⟨value, next, ?_, ?_⟩
    · -- a parser that passes the check is not changed by it
      rw [guarded, bind_of_ok passes] at read
      rw [guarded, bind_of_ok sizeChecked]
      exact read
    · rw [remaining, left.left]
      exact List.drop_suffix _ _

theorem shortens_parseInt
    (len : Nat) :
    Shortens remaining (parseInt len) :=
  shortens_of_checked rfl (consumes_parseInt len)

theorem shortens_removePrefix
    (n : Nat) :
    Shortens remaining (removePrefix n) :=
  shortens_of_checked rfl (consumes_removePrefix n)

theorem shortens_u32 : Shortens remaining u32 :=
  (shortens_parseInt 4).map _

theorem shortens_u16 : Shortens remaining u16 :=
  (shortens_parseInt 2).map _

theorem shortens_u8 : Shortens remaining u8 :=
  (shortens_parseInt 1).map _

theorem shortens_byteArray
    (n : Nat) :
    Shortens remaining (byteArray n) := by
  induction n with
  | zero =>
      exact Shortens.pure _
  | succ n inductionHypothesis =>
      exact shortens_u8.bind fun _ =>
        inductionHypothesis.bind fun _ => Shortens.pure _

end NetParser

namespace TCPHeader

/-- `parse`, refusing a negative length of the options. -/
def parseChecked : Parser (ParseResult × TCPHeader) := do
  let header ← readFields
  if header.doff < 5 then
    return (.headerTooShort, header)
  skipOptions header.doff.toNat length
  if ← hasError then
    return ((← get).error, header)
  return (.noError, header)

theorem parseChecked_eq : parseChecked = parse := by
  unfold parseChecked parse
  refine bind_congr fun header => ?_
  refine ite_congr rfl (fun _ => rfl) fun minimal => ?_
  have five : 5 ≤ header.doff.toNat :=
    UInt8.le_iff_toNat_le.mp (UInt8.not_lt.mp minimal)
  rw [skipOptions_of_le (by change 20 ≤ _; omega)]

theorem shortens_parse :
    Shortens remaining parse := by
  have fields : Shortens remaining readFields :=
    shortens_u16.bind fun _ => shortens_u16.bind fun _ =>
      shortens_u32.bind fun _ => shortens_u32.bind fun _ =>
      shortens_u8.bind fun _ => shortens_u8.bind fun _ =>
      shortens_u16.bind fun _ => shortens_u16.bind fun _ =>
      shortens_u16.bind fun _ => Shortens.pure _
  exact fields.bind fun _ =>
    (Shortens.pure _).ite fun _ =>
    (shortens_removePrefix _).bind fun _ =>
    shortens_hasError.bind fun _ =>
    (Shortens.get.bind fun _ => Shortens.pure _).ite fun _ =>
    Shortens.pure _

end TCPHeader

namespace IPv4Header

/-- `parse`, refusing a negative skip and a range past the end. -/
def parseChecked
    (self : IPv4Header) : Parser (ParseResult × IPv4Header) := do
  let originalSerializedVersion := (← get).buffer
  let dataSize := originalSerializedVersion.str.length
  if dataSize < length then
    return (.packetTooShort, self)
  let header ← readFields
  if dataSize < 4 * header.hlen.toNat then
    return (.packetTooShort, header)
  if header.ver ≠ 4 then
    return (.wrongIPVersion, header)
  if header.hlen < 5 then
    return (.headerTooShort, header)
  if dataSize ≠ header.len.toNat then
    return (.truncatedPacket, header)
  skipOptions header.hlen.toNat length
  if ← hasError then
    return ((← get).error, header)
  let range ←
    viewFront (4 * header.hlen.toNat) originalSerializedVersion.str
  if (({} : InternetChecksum).add range).value ≠ 0 then
    return (.badChecksum, header)
  return (.noError, header)

theorem parseChecked_eq
    (self : IPv4Header) :
    parseChecked self = parse self := by
  unfold parseChecked parse
  refine bind_congr fun parser => ?_
  refine ite_congr rfl (fun _ => rfl) fun long => ?_
  refine bind_congr fun header => ?_
  refine ite_congr rfl (fun _ => rfl) fun present => ?_
  refine ite_congr rfl (fun _ => rfl) fun version => ?_
  refine ite_congr rfl (fun _ => rfl) fun minimal => ?_
  refine ite_congr rfl (fun _ => rfl) fun total => ?_
  have five : 5 ≤ header.hlen.toNat :=
    UInt8.le_iff_toNat_le.mp (UInt8.not_lt.mp minimal)
  rw [skipOptions_of_le (by change 20 ≤ _; omega),
    viewFront_of_le (Nat.le_of_not_lt present)]
  refine bind_congr fun _ => bind_congr fun failed => ?_
  rw [pure_bind]

theorem shortens_parse
    (self : IPv4Header) :
    Shortens remaining (parse self) := by
  have fields : Shortens remaining readFields :=
    shortens_u8.bind fun _ => shortens_u8.bind fun _ =>
      shortens_u16.bind fun _ => shortens_u16.bind fun _ =>
      shortens_u16.bind fun _ => shortens_u8.bind fun _ =>
      shortens_u8.bind fun _ => shortens_u16.bind fun _ =>
      shortens_u32.bind fun _ => shortens_u32.bind fun _ =>
      Shortens.pure _
  exact Shortens.get.bind fun _ =>
    (Shortens.pure _).ite fun _ =>
    fields.bind fun _ =>
    (Shortens.pure _).ite fun _ =>
    (Shortens.pure _).ite fun _ =>
    (Shortens.pure _).ite fun _ =>
    (Shortens.pure _).ite fun _ =>
    (shortens_removePrefix _).bind fun _ =>
    shortens_hasError.bind fun _ =>
    (Shortens.get.bind fun _ => Shortens.pure _).ite fun _ =>
    (Shortens.pure _).ite fun _ =>
    Shortens.pure _

end IPv4Header

theorem EthernetHeader.shortens_parse
    (self : EthernetHeader) :
    Shortens remaining (parse self) := by
  have fields : Shortens remaining readFields :=
    (shortens_byteArray 6).bind fun _ =>
      (shortens_byteArray 6).bind fun _ =>
      shortens_u16.bind fun _ => Shortens.pure _
  exact Shortens.get.bind fun _ =>
    (Shortens.pure _).ite fun _ =>
    fields.bind fun _ => Shortens.get.bind fun _ => Shortens.pure _

theorem ARPMessage.shortens_parseFields
    (self : ARPMessage) :
    Shortens remaining (parseFields self) := by
  have kind : Shortens remaining (readKind self) :=
    shortens_u16.bind fun _ => shortens_u16.bind fun _ =>
      shortens_u8.bind fun _ => shortens_u8.bind fun _ =>
      shortens_u16.bind fun _ => Shortens.pure _
  have party : Shortens remaining readParty :=
    (shortens_byteArray 6).bind fun _ => shortens_u32.bind fun _ =>
      Shortens.pure _
  exact Shortens.get.bind fun _ =>
    (Shortens.pure _).ite fun _ =>
    kind.bind fun _ =>
    (Shortens.pure _).ite fun _ =>
    party.bind fun _ => party.bind fun _ =>
    Shortens.get.bind fun _ => Shortens.pure _

/--
The packet parsers return on every input, whatever the object they parse into.
The checked header parsers are the header parsers they run, so that no skip is
negative and no checksum goes past the end.  The payload kept is a suffix of
the input; a segment with a bad checksum is left as it was.
-/
theorem packet_parsers_stay_within
    (seg : TCPSegment)
    (dgram : IPv4Datagram)
    (frame : EthernetFrame)
    (message : ARPMessage)
    (buffer : Buffer)
    (datagramLayerChecksum : UInt32) :
    (∃ result parsed,
      seg.parse buffer datagramLayerChecksum = .ok result parsed ∧
        (parsed.payload <:+ buffer.str ∨
          result = .badChecksum ∧ parsed = seg)) ∧
    (∃ result parsed,
      ({} : TCPSegment).parse buffer datagramLayerChecksum =
          .ok result parsed ∧
        parsed.payload <:+ buffer.str) ∧
    (∃ result parsed,
      dgram.parse buffer = .ok result parsed ∧
        parsed.payload.concatenate <:+ buffer.str) ∧
    (∃ result parsed,
      frame.parse buffer = .ok result parsed ∧
        parsed.payload.concatenate <:+ buffer.str) ∧
    (∃ result parsed, message.parse buffer = .ok result parsed) ∧
    (∃ parsed next,
      TCPHeader.parseChecked { buffer } = .ok parsed next ∧
        TCPHeader.parse { buffer } = .ok parsed next) ∧
    ∃ parsed next,
      dgram.header.parseChecked { buffer } = .ok parsed next ∧
        dgram.header.parse { buffer } = .ok parsed next := by
  obtain ⟨tcp, tcpNext, tcpParsed, tcpShorter⟩ :=
    TCPHeader.shortens_parse { buffer }
  obtain ⟨ip, ipNext, ipParsed, ipShorter⟩ :=
    dgram.header.shortens_parse { buffer }
  obtain ⟨ethernet, ethernetNext, ethernetParsed, ethernetShorter⟩ :=
    frame.header.shortens_parse { buffer }
  obtain ⟨arp, arpNext, arpParsed, _⟩ :=
    message.shortens_parseFields { buffer }
  have segment :
      ∀ self : TCPSegment,
        ∃ result parsed,
          self.parse buffer datagramLayerChecksum = .ok result parsed ∧
            (parsed.payload <:+ buffer.str ∨
              result = .badChecksum ∧ parsed = self) := by
    intro self
    by_cases verifies :
        (({ sum := datagramLayerChecksum } : InternetChecksum).add
          buffer.str).value = 0
    · exact ⟨_, _, TCPSegment.parse_eq verifies tcpParsed,
        Or.inl tcpShorter⟩
    · refine ⟨.badChecksum, self, ?_, Or.inr ⟨rfl, rfl⟩⟩
      rw [TCPSegment.parse]
      exact if_pos verifies
  refine ⟨segment seg, ?_, ?_, ?_, ?_, ?_, ?_⟩
  · obtain ⟨result, parsed, parses, kept | ⟨_, unchanged⟩⟩ := segment {}
    · exact ⟨result, parsed, parses, kept⟩
    · refine ⟨result, parsed, parses, ?_⟩
      rw [unchanged]
      exact List.nil_suffix
  · have kept :
        BufferList.concatenate [ipNext.buffer] <:+ buffer.str := by
      rw [BufferList.concatenate_cons, BufferList.concatenate_nil,
        List.append_nil]
      exact ipShorter
    rw [IPv4Datagram.parse, ipParsed]
    dsimp only
    split
    · exact ⟨_, _, rfl, kept⟩
    · exact ⟨_, _, rfl, kept⟩
  · refine ⟨_, _, by rw [EthernetFrame.parse, ethernetParsed], ?_⟩
    rw [BufferList.concatenate_cons, BufferList.concatenate_nil,
      List.append_nil]
    exact ethernetShorter
  · exact ⟨_, _, by rw [ARPMessage.parse, arpParsed]⟩
  · rw [TCPHeader.parseChecked_eq]
    exact ⟨tcp, tcpNext, tcpParsed, tcpParsed⟩
  · rw [IPv4Header.parseChecked_eq]
    exact ⟨ip, ipNext, ipParsed, ipParsed⟩

end Sponge
