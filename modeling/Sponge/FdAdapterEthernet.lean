import Sponge.FdAdapterTransport

namespace Sponge

open NetParser

/-!
# The Ethernet adapter as a transport

The adapter keeps datagrams back while it asks for the address of its next hop,
and answers the requests of others.  None of this puts a segment on the wire
that was not written to the adapter: a frame with a datagram carries one of the
segments, whenever it is sent, and the other frames carry no segment.
-/

namespace EthernetFrame

theorem concatenate_serialize
    (frame : EthernetFrame) :
    frame.serialize.concatenate =
      frame.header.serialize ++ frame.payload.concatenate := by
  simp [serialize, BufferList.append, BufferList.appendList]

/-- The frame a string of bytes is. -/
def ofBytes (bytes : Bytes) : EthernetFrame where
  header := {
    dst := byteArrayAt 6 bytes 0
    src := byteArrayAt 6 bytes 6
    type := u16At bytes 12
  }
  payload := [Buffer.ofString (bytes.drop 14)]

theorem serialize_ofBytes
    {bytes : Bytes}
    (long : EthernetHeader.length ≤ bytes.length) :
    (ofBytes bytes).serialize.concatenate = bytes := by
  have inside : 14 ≤ bytes.length := long
  have header :
      (ofBytes bytes).header.serialize =
        slice bytes 0 6 ++ (slice bytes 6 6 ++ slice bytes 12 2) := by
    rw [EthernetHeader.serialize]
    simp only [ofBytes]
    rw [byteArray_byteArrayAt (by omega), byteArray_byteArrayAt (by omega),
      u16_u16At inside]
  rw [concatenate_serialize, header]
  change _ ++ ((Buffer.ofString (bytes.drop 14)).str ++ []) = _
  rw [Buffer.ofString_str, List.append_nil, List.append_assoc,
    List.append_assoc, slice_append_drop bytes 12 2,
    slice_append_drop bytes 6 6, slice_append_drop bytes 0 6,
    List.drop_zero]

/--
Every string of bytes is taken for a frame.  One that carries a datagram has
its type and its payload where they belong.
-/
theorem parse_bytes
    (bytes : Bytes) :
    ∃ frame,
      ({} : EthernetFrame).parse (Buffer.ofString bytes) =
          .ok .noError frame ∧
        (frame.header.type = EthernetHeader.typeIPv4 →
          u16At bytes 12 = EthernetHeader.typeIPv4 ∧
            frame.payload.concatenate = bytes.drop 14) := by
  by_cases long : EthernetHeader.length ≤ bytes.length
  · obtain ⟨rest, parsed, content⟩ := (ofBytes bytes).parse_serialize {}
    rw [serialize_ofBytes long] at parsed
    refine ⟨_, parsed, fun isIPv4 => ⟨isIPv4, ?_⟩⟩
    change rest.str ++ [] = _
    rw [List.append_nil, content]
    change (Buffer.ofString (bytes.drop 14)).str ++ [] = _
    rw [List.append_nil, Buffer.ofString_str]
  · have holds : Holds { buffer := Buffer.ofString bytes } bytes :=
      ⟨rfl, Buffer.ofString_str _⟩
    have parsed :=
      EthernetHeader.parse_of_short ({} : EthernetFrame).header holds
        (Nat.lt_of_not_le long)
    refine ⟨{ payload := [Buffer.ofString bytes] }, ?_, ?_⟩
    · rw [parse, parsed]
    · intro isIPv4
      cases isIPv4

end EthernetFrame

/-- A frame that carries one of the segments if it carries a datagram. -/
def EthernetFrame.Bears
    (frame : EthernetFrame)
    (segs : List TCPSegment) : Prop :=
  frame.header.type = EthernetHeader.typeIPv4 →
  WrappedIn segs frame.payload.concatenate

namespace NetworkInterface

/-- All that an interface has to send carries one of the segments. -/
structure Bears
    (interface : NetworkInterface)
    (segs : List TCPSegment) : Prop where
  pending : ∀ frame ∈ interface.framesOut, frame.Bears segs
  waiting :
    ∀ hop,
      ∀ dgram ∈ interface.queued hop,
        ∃ seg ∈ segs, InternetDatagram.Wraps dgram seg

variable {segs : List TCPSegment} {before : NetworkInterface}

theorem bears_arpFrame
    (interface : NetworkInterface)
    (dst : EthernetAddress)
    (message : ARPMessage) :
    (interface.arpFrame dst message).Bears segs := by
  intro isIPv4
  cases isIPv4

/-- A frame for a wrapped segment carries its datagram. -/
theorem Carries.bears
    {src dst : EthernetAddress}
    {dgram : InternetDatagram}
    {frame : EthernetFrame}
    (carries : Carries src dst dgram frame)
    {seg : TCPSegment}
    (member : seg ∈ segs)
    (wraps : InternetDatagram.Wraps dgram seg) :
    frame.Bears segs := by
  intro _
  obtain ⟨out, serialized, image⟩ :=
    IPv4Datagram.serialize_of_serializable wraps.wellFormed.serializable
  rw [carries.payload] at serialized
  cases serialized
  exact ⟨seg, member, dgram, wraps, image⟩

theorem Bears.sendDatagram
    (bears : before.Bears segs)
    {seg : TCPSegment}
    (member : seg ∈ segs)
    {dgram : InternetDatagram}
    (wraps : InternetDatagram.Wraps dgram seg)
    (nextHop : Address) :
    (finalState (before.sendDatagram dgram nextHop)).Bears segs := by
  have outcome := before.sendDatagram_outcome dgram nextHop
  refine ⟨?_, ?_⟩
  · intro frame sent
    generalize finalState (before.sendDatagram dgram nextHop) = after
      at outcome sent
    cases outcome with
    | rejected | waiting =>
        exact bears.pending frame sent
    | carried known carries =>
        rcases List.mem_append.mp sent with earlier | last
        · exact bears.pending frame earlier
        · rw [List.mem_singleton.mp last]
          exact carries.bears member wraps
    | asking =>
        rcases List.mem_append.mp sent with earlier | last
        · exact bears.pending frame earlier
        · rw [List.mem_singleton.mp last]
          exact bears_arpFrame _ _ _
  · intro hop waiting waits
    rcases outcome.mem_queued waits with earlier | rfl
    · exact bears.waiting hop waiting earlier
    · exact ⟨seg, member, wraps⟩

theorem Bears.recvFrame
    (bears : before.Bears segs)
    (frame : EthernetFrame) :
    (finalState (before.recvFrame frame)).Bears segs := by
  cases heard : before.heardIn frame with
  | none =>
      rw [recvFrame_of_not_heard heard]
      exact bears
  | some message =>
      obtain ⟨flushed, remaining, frames, replies, learned⟩ :=
        perform_recv_of_heard heard
      change Learned message before (finalState (before.recvFrame frame))
        flushed remaining frames replies at learned
      refine ⟨?_, fun hop dgram waits =>
        bears.waiting hop dgram (learned.mem_queued waits)⟩
      intro other sent
      rw [learned.framesOut, List.mem_append, List.mem_append] at sent
      rcases sent with earlier | carried | reply
      · exact bears.pending other earlier
      · have wrapped :
            ∀ dgram ∈ flushed,
              ∃ seg ∈ segs, InternetDatagram.Wraps dgram seg := by
          intro dgram member
          refine bears.waiting message.senderIpAddress dgram ?_
          rw [learned.waited]
          exact List.mem_append_left _ member
        have both :=
          (List.forall₂_and_left _ _).mpr ⟨wrapped, learned.carried⟩
        have borne : ∀ frame ∈ frames, frame.Bears segs := by
          refine ((List.forall₂_and_left _ _).mp
            (both.flip.imp fun frame dgram held => ⟨?_, held⟩)).1
          obtain ⟨⟨seg, member, wraps⟩, carries⟩ := held
          exact carries.bears member wraps
        exact borne other carried
      · rcases learned.answered with none | some
        · rw [none] at reply
          cases reply
        · rw [some, answers] at reply
          split at reply
          · rw [List.mem_singleton.mp reply]
            exact bears_arpFrame _ _ _
          · cases reply

/-- A datagram is received from a frame of its type only. -/
theorem recvFrame_parsed
    {frame : EthernetFrame}
    {dgram : InternetDatagram}
    {after : NetworkInterface}
    (received : before.recvFrame frame = .ok (some dgram) after) :
    frame.header.type = EthernetHeader.typeIPv4 ∧
      ({} : InternetDatagram).parse
          (Buffer.ofString frame.payload.concatenate) =
        .ok .noError dgram := by
  cases heard : before.heardIn frame with
  | some message =>
      have returns := (recvFrame_of_heard heard).2
      rw [received] at returns
      cases learned : Sponge.returned (before.learn message) with
      | none =>
          rw [learned] at returns
          cases returns
      | some _ =>
          rw [learned] at returns
          cases returns
  | none =>
      rw [recvFrame_of_not_heard heard] at received
      simp only [EStateM.Result.ok.injEq] at received
      have accepted := received.1
      split at accepted
      case isFalse => cases accepted
      rw [ipDatagram] at accepted
      split at accepted
      case isFalse => cases accepted
      rename_i isIPv4
      split at accepted
      case h_2 => cases accepted
      rename_i parsed
      cases accepted
      exact ⟨isIPv4, parsed⟩

theorem Bears.tick
    (bears : before.Bears segs)
    (ms : Nat) :
    (before.tick ms).Bears segs :=
  ⟨bears.pending, bears.waiting⟩

end NetworkInterface

namespace TCPOverIPv4OverEthernetAdapter

/-- The bytes of a frame that carries one of the segments, or none. -/
def Carried
    (segs : List TCPSegment)
    (bytes : Bytes) : Prop :=
  u16At bytes 12 = EthernetHeader.typeIPv4 →
  WrappedIn segs (bytes.drop 14)

theorem carried_of_bears
    {segs : List TCPSegment}
    {frame : EthernetFrame}
    (bears : frame.Bears segs) :
    Carried segs frame.serialize.concatenate := by
  let addresses :=
    NetUnparser.byteArray frame.header.dst ++
      NetUnparser.byteArray frame.header.src
  have twelve : addresses.length = 12 := by
    simp [addresses]
  have layout :
      frame.serialize.concatenate =
        addresses ++
          (NetUnparser.u16 frame.header.type ++
            frame.payload.concatenate) := by
    simp [EthernetFrame.concatenate_serialize, EthernetHeader.serialize,
      addresses]
  have type : u16At frame.serialize.concatenate 12 = frame.header.type := by
    rw [layout, ← twelve]
    exact u16At_of_layout addresses _ _
  have payload :
      frame.serialize.concatenate.drop 14 =
        frame.payload.concatenate := by
    rw [frame.concatenate_serialize]
    exact List.drop_left' frame.header.length_serialize
  intro isIPv4
  rw [type] at isIPv4
  rw [payload]
  exact bears isIPv4

/-- All that the adapter has sent or keeps back is one of the segments. -/
structure Holding
    (segs : List TCPSegment)
    (adapter : TCPOverIPv4OverEthernetAdapter) : Prop where
  sent : ∀ bytes ∈ adapter.tap.sent, Carried segs bytes
  interface : adapter.interface.Bears segs

variable {segs : List TCPSegment}
variable {adapter : TCPOverIPv4OverEthernetAdapter}

/-- Frames are sent from the front of the queue. -/
theorem sendLoop_sends
    (transmitted : Nat → SystemCall Unit)
    (frames : List EthernetFrame)
    (tap : FileDescriptor Bytes) :
    ∃ gone,
      frames =
          gone ++ (finalState (sendLoop transmitted frames tap)).1 ∧
        (finalState (sendLoop transmitted frames tap)).2.sent =
          tap.sent ++
            gone.map fun frame => frame.serialize.concatenate := by
  induction frames generalizing tap with
  | nil =>
      exact ⟨[], rfl, (List.append_nil _).symm⟩
  | cons frame rest inductionHypothesis =>
      simp only [sendLoop, FileDescriptor.transmit_eq]
      cases transmitted tap.sent.length with
      | error thrown =>
          exact ⟨[], rfl, (List.append_nil _).symm⟩
      | ok _ =>
          obtain ⟨gone, split, sent⟩ :=
            inductionHypothesis
              (tap.took frame.serialize.concatenate)
          refine ⟨frame :: gone, congrArg (frame :: ·) split, ?_⟩
          dsimp only
          rw [sent]
          exact List.append_assoc _ [_] _

theorem Holding.replaced
    (holding : Holding segs adapter)
    {interface : NetworkInterface}
    (bears : interface.Bears segs) :
    Holding segs { adapter with interface } :=
  ⟨holding.sent, bears⟩

theorem Holding.sendPending
    (holding : Holding segs adapter)
    (transmitted : Nat → SystemCall Unit) :
    Holding segs (finalState (adapter.sendPending transmitted)) := by
  obtain ⟨gone, split, sent⟩ :=
    sendLoop_sends transmitted adapter.interface.framesOut adapter.tap
  have pending := holding.interface.pending
  rw [TCPOverIPv4OverEthernetAdapter.sendPending, finalState_ofPart]
  refine ⟨?_, ?_, holding.interface.waiting⟩
  · intro bytes member
    change bytes ∈ (finalState (sendLoop transmitted
      adapter.interface.framesOut adapter.tap)).2.sent at member
    rw [sent] at member
    rcases List.mem_append.mp member with earlier | new
    · exact holding.sent bytes earlier
    · obtain ⟨frame, wasPending, rfl⟩ := List.mem_map.mp new
      refine carried_of_bears (pending frame ?_)
      rw [split]
      exact List.mem_append_left _ wasPending
  · intro frame left
    refine pending frame ?_
    rw [split]
    exact List.mem_append_right _ left

theorem Holding.read
    (holding : Holding segs adapter)
    (answer : SystemCall Bytes)
    (transmitted : Nat → SystemCall Unit) :
    Holding segs (finalState (adapter.read answer transmitted)) := by
  have kept := adapter.tap.read_sent sizeMax answer
  simp only [TCPOverIPv4OverEthernetAdapter.read]
  cases result : adapter.tap.read sizeMax answer with
  | error thrown tap =>
      rw [result] at kept
      exact ⟨fun bytes member => holding.sent bytes (kept ▸ member),
        holding.interface⟩
  | ok bytes tap =>
      rw [result] at kept
      have sent : ∀ bytes ∈ tap.sent, Carried segs bytes :=
        fun bytes member => holding.sent bytes (kept ▸ member)
      obtain ⟨frame, parsed, _⟩ := EthernetFrame.parse_bytes bytes
      have learned := holding.interface.recvFrame frame
      simp only [parsed, ne_eq, not_true_eq_false, if_false]
      cases received : adapter.interface.recvFrame frame with
      | error thrown interface =>
          rw [received] at learned
          exact ⟨sent, learned⟩
      | ok ipDgram interface =>
          rw [received] at learned
          let waiting : TCPOverIPv4OverEthernetAdapter :=
            { adapter with tap, interface }
          have awaits : Holding segs waiting := ⟨sent, learned⟩
          have sends := awaits.sendPending transmitted
          dsimp only
          cases sending : waiting.sendPending transmitted with
          | error thrown adapter =>
              rw [sending] at sends
              exact sends
          | ok _ adapter =>
              rw [sending] at sends
              cases ipDgram with
              | none =>
                  exact sends
              | some ipDgram =>
                  dsimp only
                  rw [finalState_ofPart]
                  exact ⟨sends.sent, sends.interface⟩

theorem Holding.tick
    (holding : Holding segs adapter)
    (ms : Nat)
    (transmitted : Nat → SystemCall Unit) :
    Holding segs (finalState (adapter.tick ms transmitted)) :=
  (holding.replaced (holding.interface.tick ms)).sendPending transmitted

theorem Holding.write
    (holding : Holding segs adapter)
    {seg : TCPSegment}
    (member : seg ∈ segs)
    (sendable : seg.Sendable)
    (transmitted : Nat → SystemCall Unit) :
    Holding segs (finalState (adapter.write seg transmitted)) := by
  obtain ⟨dgram, wrapped, wraps⟩ :=
    adapter.toTCPOverIPv4Adapter.wrap_wraps sendable
  have queued :=
    holding.interface.sendDatagram member wraps adapter.nextHop
  simp only [TCPOverIPv4OverEthernetAdapter.write, wrapped]
  cases sending : adapter.interface.sendDatagram dgram adapter.nextHop with
  | error thrown interface =>
      rw [sending] at queued
      exact ⟨holding.sent, queued⟩
  | ok _ interface =>
      rw [sending] at queued
      exact (holding.replaced queued).sendPending transmitted

/-- A segment is read by unwrapping the datagram in the frame. -/
theorem read_unwraps
    {bytes : Bytes}
    {transmitted : Nat → SystemCall Unit}
    {seg : TCPSegment}
    (returns :
      returned (adapter.read (.ok bytes) transmitted) =
        some (some seg)) :
    u16At bytes 12 = EthernetHeader.typeIPv4 ∧
      ∃ (base : TCPOverIPv4Adapter) (dgram : InternetDatagram),
        ({} : InternetDatagram).parse
            (Buffer.ofString (bytes.drop 14)) =
            .ok .noError dgram ∧
          returned (base.unwrapTcpInIp dgram) = some (some seg) := by
  simp only [read] at returns
  cases result : adapter.tap.read sizeMax (.ok bytes) with
  | error thrown tap =>
      rw [result] at returns
      cases returns
  | ok heard tap =>
      have same : heard = bytes := by
        simp only [FileDescriptor.read] at result
        split at result <;> cases result
        rfl
      subst same
      obtain ⟨frame, parsed, layout⟩ := EthernetFrame.parse_bytes heard
      simp only [result, parsed, ne_eq, not_true_eq_false, if_false]
        at returns
      split at returns
      · cases returns
      rename_i ipDgram interface received
      split at returns
      · cases returns
      split at returns
      · cases returns
      rw [returned_ofPart] at returns
      obtain ⟨isIPv4, parses⟩ :=
        NetworkInterface.recvFrame_parsed received
      obtain ⟨type, payload⟩ := layout isIPv4
      rw [payload] at parses
      exact ⟨type, _, _, parses, returns⟩

theorem conveys_of_carried
    {bytes : Bytes}
    (carried : Carried segs bytes) :
    FdAdapter.Conveys TCPOverIPv4OverEthernetAdapter segs bytes := by
  intro packet content transmitted adapter seg returns
  rw [show packet = bytes from content] at returns
  obtain ⟨type, base, parsed, parses, unwraps⟩ := read_unwraps returns
  obtain ⟨original, member, dgram, wraps, same⟩ := carried type
  rw [same] at parses
  exact ⟨original, member, wraps.unwrap_repeats parses unwraps⟩

/--
A changed word in one of the addresses of the frame makes no difference to the
datagram in it; in the datagram, it is noticed or harmless.
-/
theorem conveys_of_altered
    {change : WordChange}
    (carried : Carried segs change.before)
    (spared :
      change.leading.length < 12 ∨ 16 ≤ change.leading.length) :
    FdAdapter.Conveys TCPOverIPv4OverEthernetAdapter segs
      change.after := by
  have aligned := change.aligned
  have oneWord := change.oneWord
  rcases spared with address | inside
  · refine conveys_of_carried fun isIPv4 => ?_
    rw [change.u16At_after (by omega)] at isIPv4
    rw [change.drop_after (by omega)]
    exact carried isIPv4
  · intro packet content transmitted adapter seg returns
    rw [show packet = change.after from content] at returns
    obtain ⟨type, base, damaged, parses, unwraps⟩ := read_unwraps returns
    have spared : 14 ≤ change.leading.length := by omega
    rw [change.u16At_after (by omega)] at type
    obtain ⟨original, member, dgram, wraps, same⟩ := carried type
    let inner := change.back 14 rfl spared
    have before : inner.before = change.before.drop 14 :=
      change.back_before rfl spared
    have after : inner.after = change.after.drop 14 :=
      change.back_after rfl spared
    rw [← before] at same
    rw [← after] at parses
    have intact : IntactDatagram inner.before := same ▸ wraps.intact
    have innerSpared : 2 ≤ inner.leading.length := by
      change 2 ≤ (change.leading.drop 14).length
      rw [List.length_drop]
      omega
    rcases TCPOverIPv4Adapter.unwrap_damaged intact innerSpared parses
        base with
      ignored | ⟨_, _, parsed, parsesBefore, sameUnwrap⟩
    · exact absurd unwraps (ignored.nothing seg)
    · rw [sameUnwrap] at unwraps
      rw [same] at parsesBefore
      exact ⟨original, member,
        wraps.unwrap_repeats parsesBefore unwraps⟩

theorem Holding.mono
    {more : List TCPSegment}
    (holding : Holding segs adapter)
    (subset : segs ⊆ more) :
    Holding more adapter where
  sent bytes member isIPv4 := (holding.sent bytes member isIPv4).mono subset
  interface := {
    pending := fun frame member isIPv4 =>
      (holding.interface.pending frame member isIPv4).mono subset
    waiting := fun hop dgram waits =>
      (holding.interface.waiting hop dgram waits).imp
        fun _ held => held.imp_left (subset ·)
  }

instance : Transport TCPOverIPv4OverEthernetAdapter where
  Holds := Holding
  Alters before after :=
    ∃ change : WordChange,
      (change.leading.length < 12 ∨ 16 ≤ change.leading.length) ∧
        change.before = before ∧ change.after = after
  mono := Holding.mono
  configured holds _ := ⟨holds.sent, holds.interface⟩
  listening holds _ := ⟨holds.sent, holds.interface⟩
  conveys holds member := conveys_of_carried (holds.sent _ member)
  altered := by
    rintro segs adapter bytes _ holds member ⟨change, spared, same, rfl⟩
    exact conveys_of_altered (same ▸ holds.sent bytes member) spared
  refused _ _ _ := rfl
  read := Holding.read
  write holds := holds.write
  tick := Holding.tick

end TCPOverIPv4OverEthernetAdapter

end Sponge
