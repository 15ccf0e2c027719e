import Sponge.NetParser

namespace Sponge

open Reading NetParser

/-!
# Ethernet frames and ARP messages

Frames carry a payload between two Ethernet addresses; ARP messages are the
payload that ties an Ethernet address to an IP address.
-/

/-- An array of six bytes. -/
abbrev EthernetAddress := List.Vector UInt8 6

/-- ff:ff:ff:ff:ff:ff -/
def ethernetBroadcast : EthernetAddress :=
  List.Vector.replicate 6 0xff

/-- The header of an Ethernet frame. -/
structure EthernetHeader where
  dst : EthernetAddress := List.Vector.replicate 6 0
  src : EthernetAddress := List.Vector.replicate 6 0
  type : UInt16 := 0
  deriving DecidableEq

namespace EthernetHeader

/-- The header length in bytes. -/
def length : Nat := 14

/-- The type of a frame that carries an IPv4 datagram. -/
def typeIPv4 : UInt16 := 0x800

/-- The type of a frame that carries an ARP message. -/
def typeArp : UInt16 := 0x806

/-- Read the fields in the order of the wire. -/
def readFields : Parser EthernetHeader := do
  let dst ← byteArray 6
  let src ← byteArray 6
  let type ← u16
  return { dst, src, type }

/-- Parse into an existing header, which a short frame leaves as it was. -/
def parse (self : EthernetHeader) : Parser (ParseResult × EthernetHeader) := do
  if (← get).buffer.str.length < length then
    return (.packetTooShort, self)
  let header ← readFields
  return ((← get).error, header)

/-- The fields in the order of the wire. -/
def serialize (header : EthernetHeader) : Bytes :=
  NetUnparser.byteArray header.dst ++
    (NetUnparser.byteArray header.src ++ NetUnparser.u16 header.type)

theorem consumes_readFields :
    Consumes readFields length :=
  (consumes_byteArray 6).bind fun _ =>
    (consumes_byteArray 6).bind fun _ =>
    consumes_u16.bind fun _ => Reading.Consumes.pure _

theorem reads_readFields
    (header : EthernetHeader) :
    Reads readFields header.serialize header := by
  have chain :
      Reads readFields
        (header.dst.toList ++ (header.src.toList ++
          (NetUnparser.u16 header.type ++ [])))
        header :=
    (reads_byteArray header.dst).bind <|
      (reads_byteArray header.src).bind <|
      (reads_u16 header.type).bind <| Reading.Reads.pure _
  simpa [serialize] using chain

@[simp] theorem length_serialize
    (header : EthernetHeader) :
    header.serialize.length = length := by
  simp [serialize, length]

theorem parse_of_short
    (self : EthernetHeader)
    {parser : NetParser}
    {bytes : Bytes}
    (holds : Holds parser bytes)
    (short : bytes.length < length) :
    parse self parser = .ok (.packetTooShort, self) parser := by
  have got : (get : Parser NetParser) parser = .ok parser parser := rfl
  rw [parse, bind_of_ok got, holds.left, if_pos short]
  rfl

theorem parse_of_long
    (self : EthernetHeader)
    {parser : NetParser}
    {bytes : Bytes}
    (holds : Holds parser bytes)
    (long : length ≤ bytes.length) :
    ∃ header next,
      parse self parser = .ok (.noError, header) next ∧
        Holds next (bytes.drop length) := by
  have got : (get : Parser NetParser) parser = .ok parser parser := rfl
  obtain ⟨header, next, read, nextHolds⟩ :=
    consumes_readFields.enough parser bytes holds long
  have gotNext : (get : Parser NetParser) next = .ok next next := rfl
  refine ⟨header, next, ?_, nextHolds⟩
  rw [parse, bind_of_ok got, holds.left, if_neg (Nat.not_lt.mpr long),
    bind_of_ok read, bind_of_ok gotNext, nextHolds.noError]
  rfl

end EthernetHeader

/-- An Ethernet frame: a header and the payload it was parsed or built with. -/
structure EthernetFrame where
  header : EthernetHeader := {}
  payload : BufferList := []
  deriving DecidableEq

namespace EthernetFrame

/-- Parse into an existing frame. -/
def parse
    (buffer : Buffer)
    (self : EthernetFrame) :
    EStateM.Result StdException EthernetFrame ParseResult :=
  match self.header.parse { buffer } with
  | .error thrown _ => .error thrown self
  -- what the header parser returned is not looked at
  | .ok (_, header) p => .ok p.error { header, payload := [p.buffer] }

/-- The serialised header, followed by the buffers of the payload. -/
def serialize (frame : EthernetFrame) : BufferList :=
  (BufferList.append [] (Buffer.ofString frame.header.serialize)).appendList
    frame.payload

/-- What a frame is sent as is parsed to it again. -/
theorem parse_serialize
    (frame self : EthernetFrame) :
    ∃ rest : Buffer,
      self.parse (Buffer.ofString frame.serialize.concatenate) =
          .ok .noError { header := frame.header, payload := [rest] } ∧
        rest.str = frame.payload.concatenate := by
  have image :
      frame.serialize.concatenate =
        frame.header.serialize ++ frame.payload.concatenate := by
    simp [serialize, BufferList.append, BufferList.appendList]
  have got :
      ∀ parser, (get : Parser NetParser) parser = .ok parser parser :=
    fun _ => rfl
  have long :
      ¬ (Buffer.ofString frame.serialize.concatenate).str.length <
        EthernetHeader.length := by
    rw [Buffer.ofString_str, image, List.length_append,
      EthernetHeader.length_serialize]
    omega
  obtain ⟨next, read, holds⟩ :=
    EthernetHeader.reads_readFields frame.header
      { buffer := Buffer.ofString frame.serialize.concatenate }
      frame.payload.concatenate
      ⟨rfl, by rw [Buffer.ofString_str, image]⟩
  refine ⟨next.buffer, ?_, holds.left⟩
  have parsed :
      self.header.parse
          { buffer := Buffer.ofString frame.serialize.concatenate } =
        .ok (.noError, frame.header) next := by
    rw [EthernetHeader.parse, bind_of_ok (got _), if_neg long,
      bind_of_ok read, bind_of_ok (got _), holds.noError]
    rfl
  rw [parse, parsed]
  dsimp only
  rw [holds.noError]

end EthernetFrame

/-- An ARP message, by default of the kind that asks about IPv4 on Ethernet. -/
structure ARPMessage where
  hardwareType : UInt16 := 1
  protocolType : UInt16 := EthernetHeader.typeIPv4
  hardwareAddressSize : UInt8 := 6
  protocolAddressSize : UInt8 := 4
  opcode : UInt16 := 0
  senderEthernetAddress : EthernetAddress := List.Vector.replicate 6 0
  senderIpAddress : UInt32 := 0
  targetEthernetAddress : EthernetAddress := List.Vector.replicate 6 0
  targetIpAddress : UInt32 := 0
  deriving DecidableEq

namespace ARPMessage

/-- The message length in bytes. -/
def length : Nat := 28

/-- The hardware type of Ethernet. -/
def typeEthernet : UInt16 := 1

/-- The sender asks who has an address. -/
def opcodeRequest : UInt16 := 1

/-- The sender says that it has an address. -/
def opcodeReply : UInt16 := 2

/-- Whether this kind of message is supported by the parser. -/
def supported (message : ARPMessage) : Bool :=
  decide (message.hardwareType = typeEthernet) &&
    decide (message.protocolType = EthernetHeader.typeIPv4) &&
    decide (message.hardwareAddressSize = 6) &&
    decide (message.protocolAddressSize = 4) &&
    (decide (message.opcode = opcodeRequest) ||
      decide (message.opcode = opcodeReply))

/-- Read the kind of the message. -/
def readKind (self : ARPMessage) : Parser ARPMessage := do
  let hardwareType ← u16
  let protocolType ← u16
  let hardwareAddressSize ← u8
  let protocolAddressSize ← u8
  let opcode ← u16
  return { self with
    hardwareType, protocolType, hardwareAddressSize,
    protocolAddressSize, opcode }

/-- The Ethernet and IP address of one party. -/
def readParty : Parser (EthernetAddress × UInt32) := do
  let ethernetAddress ← byteArray 6
  let ipAddress ← u32
  return (ethernetAddress, ipAddress)

/-- The body of `parse`, on a parser of the message. -/
def parseFields (self : ARPMessage) : Parser (ParseResult × ARPMessage) := do
  if (← get).buffer.str.length < length then
    return (.packetTooShort, self)
  let kind ← readKind self
  if kind.supported = false then
    return (.unsupported, kind)
  let sender ← readParty
  let target ← readParty
  return ((← get).error,
    { kind with
      senderEthernetAddress := sender.1
      senderIpAddress := sender.2
      targetEthernetAddress := target.1
      targetIpAddress := target.2 })

/-- Parse into an existing message. -/
def parse
    (buffer : Buffer)
    (self : ARPMessage) :
    EStateM.Result StdException ARPMessage ParseResult :=
  match self.parseFields { buffer } with
  | .error thrown _ => .error thrown self
  | .ok (result, message) _ => .ok result message

/-- The fields in the order of the wire. -/
def fieldBytes (message : ARPMessage) : Bytes :=
  NetUnparser.u16 message.hardwareType ++
    (NetUnparser.u16 message.protocolType ++
    (NetUnparser.u8 message.hardwareAddressSize ++
    (NetUnparser.u8 message.protocolAddressSize ++
    (NetUnparser.u16 message.opcode ++
    (NetUnparser.byteArray message.senderEthernetAddress ++
    (NetUnparser.u32 message.senderIpAddress ++
    (NetUnparser.byteArray message.targetEthernetAddress ++
      NetUnparser.u32 message.targetIpAddress)))))))

/-- The fields of a supported message; any other one throws. -/
def serialize (message : ARPMessage) : Except StdException Bytes :=
  if message.supported = false then
    .error (.runtimeError
      ("ARPMessage::serialize(): unsupported field combination " ++
        "(must be Ethernet/IP, and request or reply)"))
  else
    .ok message.fieldBytes

theorem consumes_readKind
    (self : ARPMessage) :
    Consumes (readKind self) 8 :=
  consumes_u16.bind fun _ => consumes_u16.bind fun _ =>
    consumes_u8.bind fun _ => consumes_u8.bind fun _ =>
    consumes_u16.bind fun _ => Reading.Consumes.pure _

theorem consumes_readParty :
    Consumes readParty 10 :=
  (consumes_byteArray 6).bind fun _ => consumes_u32.bind fun _ =>
    Reading.Consumes.pure _

/--
Parsing always returns, and what it accepts is of a supported kind.
-/
theorem parse_returns
    (buffer : Buffer)
    (self : ARPMessage) :
    ∃ result message,
      self.parse buffer = .ok result message ∧
        (result = .noError → message.supported = true) := by
  have got :
      ∀ parser, (get : Parser NetParser) parser = .ok parser parser :=
    fun _ => rfl
  by_cases short : buffer.str.length < length
  · refine ⟨.packetTooShort, self, ?_, by simp⟩
    rw [parse, parseFields, bind_of_ok (got _), if_pos short]
    rfl
  have long : 28 ≤ buffer.str.length := Nat.le_of_not_lt short
  obtain ⟨kind, afterKind, readsKind, kindHolds⟩ :=
    (consumes_readKind self).enough _ _ (holds_start buffer) (by omega)
  by_cases unsupported : kind.supported = false
  · refine ⟨.unsupported, kind, ?_, by simp⟩
    rw [parse, parseFields, bind_of_ok (got _), if_neg short,
      bind_of_ok readsKind, if_pos unsupported]
    rfl
  obtain ⟨sender, afterSender, readsSender, senderHolds⟩ :=
    consumes_readParty.enough _ _ kindHolds
      (by rw [List.length_drop]; omega)
  obtain ⟨target, afterTarget, readsTarget, targetHolds⟩ :=
    consumes_readParty.enough _ _ senderHolds
      (by rw [List.length_drop, List.length_drop]; omega)
  refine
    ⟨.noError,
      { kind with
        senderEthernetAddress := sender.1
        senderIpAddress := sender.2
        targetEthernetAddress := target.1
        targetIpAddress := target.2 },
      ?_, fun _ => Bool.of_not_eq_false unsupported⟩
  rw [parse, parseFields, bind_of_ok (got _), if_neg short,
    bind_of_ok readsKind, if_neg unsupported, bind_of_ok readsSender,
    bind_of_ok readsTarget, bind_of_ok (got _), targetHolds.noError]
  rfl

@[simp] theorem length_fieldBytes
    (message : ARPMessage) :
    message.fieldBytes.length = length := by
  simp [fieldBytes, length]

theorem reads_readParty
    (ethernetAddress : EthernetAddress)
    (ipAddress : UInt32) :
    Reads readParty
      (NetUnparser.byteArray ethernetAddress ++
        NetUnparser.u32 ipAddress)
      (ethernetAddress, ipAddress) := by
  have chain :
      Reads readParty
        (ethernetAddress.toList ++ (NetUnparser.u32 ipAddress ++ []))
        (ethernetAddress, ipAddress) :=
    (reads_byteArray ethernetAddress).bind <|
      (reads_u32 ipAddress).bind <| Reading.Reads.pure _
  rwa [List.append_nil, ← NetUnparser.byteArray_eq] at chain

/-- A message that takes its kind from another one. -/
def withKindOf (self message : ARPMessage) : ARPMessage :=
  { self with
    hardwareType := message.hardwareType
    protocolType := message.protocolType
    hardwareAddressSize := message.hardwareAddressSize
    protocolAddressSize := message.protocolAddressSize
    opcode := message.opcode }

@[simp] theorem supported_withKindOf
    (self message : ARPMessage) :
    (self.withKindOf message).supported = message.supported :=
  rfl

theorem reads_readKind
    (self message : ARPMessage) :
    Reads (readKind self)
      (NetUnparser.u16 message.hardwareType ++
        (NetUnparser.u16 message.protocolType ++
        (NetUnparser.u8 message.hardwareAddressSize ++
        (NetUnparser.u8 message.protocolAddressSize ++
          NetUnparser.u16 message.opcode))))
      (self.withKindOf message) := by
  have chain :
      Reads (readKind self)
        (NetUnparser.u16 message.hardwareType ++
          (NetUnparser.u16 message.protocolType ++
          ([message.hardwareAddressSize] ++
          ([message.protocolAddressSize] ++
            (NetUnparser.u16 message.opcode ++ [])))))
        _ :=
    (reads_u16 message.hardwareType).bind <|
      (reads_u16 message.protocolType).bind <|
      (reads_u8 message.hardwareAddressSize).bind <|
      (reads_u8 message.protocolAddressSize).bind <|
      (reads_u16 message.opcode).bind <| Reading.Reads.pure _
  rwa [List.append_nil, ← NetUnparser.u8_eq, ← NetUnparser.u8_eq]
    at chain

section Parse

variable {message : ARPMessage} {buffer : Buffer} {rest : Bytes}

/-- The kind of a message is read first, whatever stood there before. -/
theorem readKind_fieldBytes
    (content : buffer.str = message.fieldBytes ++ rest)
    (self : ARPMessage) :
    ∃ next,
      readKind self { buffer } =
          .ok (self.withKindOf message) next ∧
        Holds next
          (NetUnparser.byteArray message.senderEthernetAddress ++
            NetUnparser.u32 message.senderIpAddress ++
            (NetUnparser.byteArray message.targetEthernetAddress ++
              NetUnparser.u32 message.targetIpAddress ++ rest)) := by
  have holds : Holds { buffer } (message.fieldBytes ++ rest) :=
    ⟨rfl, content⟩
  exact reads_readKind self message { buffer } _
    (by simpa [fieldBytes] using holds)

theorem long_of_fieldBytes
    (content : buffer.str = message.fieldBytes ++ rest) :
    ¬ buffer.str.length < length := by
  rw [content, List.length_append, length_fieldBytes]
  omega

/-- What a supported message is sent as is parsed to it again. -/
theorem parse_fieldBytes
    (isSupported : message.supported = true)
    (content : buffer.str = message.fieldBytes ++ rest)
    (self : ARPMessage) :
    self.parse buffer = .ok .noError message := by
  have got :
      ∀ parser, (get : Parser NetParser) parser = .ok parser parser :=
    fun _ => rfl
  obtain ⟨afterKind, readsKind, kindHolds⟩ :=
    readKind_fieldBytes content self
  obtain ⟨afterSender, readsSender, senderHolds⟩ :=
    reads_readParty message.senderEthernetAddress
      message.senderIpAddress afterKind _ kindHolds
  obtain ⟨afterTarget, readsTarget, targetHolds⟩ :=
    reads_readParty message.targetEthernetAddress
      message.targetIpAddress afterSender _ senderHolds
  have kindSupported :
      ¬ (self.withKindOf message).supported = false := by
    rw [supported_withKindOf, isSupported]
    decide
  rw [parse, parseFields, bind_of_ok (got _),
    if_neg (long_of_fieldBytes content), bind_of_ok readsKind,
    if_neg kindSupported, bind_of_ok readsSender, bind_of_ok readsTarget,
    bind_of_ok (got _), targetHolds.noError]
  rfl

/-- A message of another kind is not accepted. -/
theorem parse_of_unsupported
    (unsupported : message.supported = false)
    (content : buffer.str = message.fieldBytes ++ rest)
    (self : ARPMessage) :
    self.parse buffer = .ok .unsupported (self.withKindOf message) := by
  have got :
      ∀ parser, (get : Parser NetParser) parser = .ok parser parser :=
    fun _ => rfl
  obtain ⟨afterKind, readsKind, _⟩ := readKind_fieldBytes content self
  rw [parse, parseFields, bind_of_ok (got _),
    if_neg (long_of_fieldBytes content), bind_of_ok readsKind,
    supported_withKindOf, if_pos unsupported]
  rfl

end Parse

/-- The message that the first bytes of a packet describe. -/
def ofBytes (bytes : Bytes) : ARPMessage where
  hardwareType := u16At bytes 0
  protocolType := u16At bytes 2
  hardwareAddressSize := u8At bytes 4
  protocolAddressSize := u8At bytes 5
  opcode := u16At bytes 6
  senderEthernetAddress := byteArrayAt 6 bytes 8
  senderIpAddress := u32At bytes 14
  targetEthernetAddress := byteArrayAt 6 bytes 18
  targetIpAddress := u32At bytes 24

/-- Its fields are laid out as the bytes it was taken from. -/
theorem fieldBytes_ofBytes
    {bytes : Bytes}
    (long : length ≤ bytes.length) :
    (ofBytes bytes).fieldBytes = bytes.take length := by
  have inside : 28 ≤ bytes.length := long
  simp only [fieldBytes, ofBytes]
  rw [u16_u16At (by omega), u16_u16At (by omega), u8_u8At (by omega),
    u8_u8At (by omega), u16_u16At (by omega),
    byteArray_byteArrayAt (by omega), u32_u32At (by omega),
    byteArray_byteArrayAt (by omega), u32_u32At inside,
    slice_append_slice bytes 18 6 4, slice_append_slice bytes 14 4 10,
    slice_append_slice bytes 8 6 14, slice_append_slice bytes 6 2 20,
    slice_append_slice bytes 5 1 22, slice_append_slice bytes 4 1 23,
    slice_append_slice bytes 2 2 24, slice_append_slice bytes 0 2 26,
    slice_zero]
  rfl

/-- What is accepted is the message its first bytes describe. -/
theorem ofBytes_of_parse
    {buffer : Buffer}
    {self message : ARPMessage}
    (accepted : self.parse buffer = .ok .noError message) :
    length ≤ buffer.str.length ∧
      message = ofBytes buffer.str ∧
      message.supported = true := by
  have got :
      ∀ parser, (get : Parser NetParser) parser = .ok parser parser :=
    fun _ => rfl
  by_cases short : buffer.str.length < length
  · rw [parse, parseFields, bind_of_ok (got _), if_pos short] at accepted
    cases accepted
  have long := Nat.le_of_not_lt short
  have content :
      buffer.str =
        (ofBytes buffer.str).fieldBytes ++ buffer.str.drop length := by
    rw [fieldBytes_ofBytes long, List.take_append_drop]
  cases supported : (ofBytes buffer.str).supported with
  | true =>
      rw [parse_fieldBytes supported content self] at accepted
      cases accepted
      exact ⟨long, rfl, supported⟩
  | false =>
      rw [parse_of_unsupported supported content self] at accepted
      cases accepted

/--
A supported message in a frame survives both directions: the frame is parsed to
its header and to a payload that is parsed to the message, and every packet
accepted as a message starts with what that message is sent as.
-/
theorem coding_faithful
    (self : ARPMessage)
    (frame : EthernetFrame) :
    (∀ (message : ARPMessage) (header : EthernetHeader),
      message.supported = true →
      ∃ serialized payload rest,
        message.serialize = .ok serialized ∧
          frame.parse
              (Buffer.ofString
                (EthernetFrame.serialize
                  { header
                    payload := [Buffer.ofString serialized] }
                  ).concatenate) =
            .ok .noError { header, payload } ∧
          payload.toBuffer = .ok rest ∧
          self.parse rest = .ok .noError message) ∧
    ∀ buffer accepted,
      self.parse buffer = .ok .noError accepted →
      length ≤ buffer.str.length ∧
        accepted.serialize = .ok (buffer.str.take length) := by
  have serializes :
      ∀ message : ARPMessage,
        message.supported = true →
        message.serialize = .ok message.fieldBytes := by
    intro message known
    rw [serialize, if_neg (by rw [known]; decide)]
  constructor
  · intro message header isSupported
    obtain ⟨rest, parsed, content⟩ :=
      EthernetFrame.parse_serialize
        { header
          payload := [Buffer.ofString message.fieldBytes] } frame
    refine ⟨message.fieldBytes, [rest], rest, serializes _ isSupported,
      parsed, rfl, ?_⟩
    have image : rest.str = message.fieldBytes ++ [] := by
      simpa using content
    exact parse_fieldBytes isSupported image self
  · intro buffer accepted parses
    obtain ⟨long, described, known⟩ := ofBytes_of_parse parses
    refine ⟨long, ?_⟩
    rw [serializes _ known, described, fieldBytes_ofBytes long]

/-- A request in a frame, and a request with two bytes behind it. -/
theorem coding_faithful_request :
    let request : ARPMessage := { opcode := opcodeRequest }
    let trailed := Buffer.ofString (request.fieldBytes ++ [7, 7])
    (∃ serialized, request.serialize = .ok serialized) ∧
      request.parse trailed = .ok .noError request ∧
      request.serialize = .ok (trailed.str.take length) := by
  intro request trailed
  obtain ⟨framed, accepted⟩ := coding_faithful request {}
  obtain ⟨serialized, _, _, serializes, _⟩ :=
    framed request {} (by decide)
  have parses : request.parse trailed = .ok .noError request :=
    parse_fieldBytes (by decide) (Buffer.ofString_str _) request
  exact ⟨⟨serialized, serializes⟩, parses,
    (accepted trailed request parses).2⟩

end ARPMessage

end Sponge
