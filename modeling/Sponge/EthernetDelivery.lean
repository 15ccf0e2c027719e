import Sponge.EthernetSegment

namespace Sponge

namespace EthernetSegment

open NetworkInterface (Carries arpMessage)

/-!
# No misdelivery on a shared Ethernet segment

The ledger of the segment gives every packet the call it belongs to.  A packet
is returned by the interface that owns the next hop of its call and by no other,
and since it is delivered there once, no call is returned twice.
-/

variable {ι : Type} [DecidableEq ι]

section Delivery

variable {hosts : Hosts ι} {segment next : EthernetSegment ι}
variable {tags : List (Option Nat)} {pending : ι → UInt32 → List Nat}

omit [DecidableEq ι] in
/-- An interface stays faithful if what it hears is true. -/
theorem Faithful.perform
    {i : ι}
    {before : NetworkInterface}
    (faithful : Faithful hosts i before)
    {op : NetworkInterface.Op}
    (sendable : op.Sendable)
    (truthful :
      ∀ frame message,
        op = .recv frame →
        before.heardIn frame = some message →
        Owned hosts message.senderIpAddress
          message.senderEthernetAddress) :
    Faithful hosts i (before.perform op) := by
  have ordered :=
    (NetworkInterface.perform_inOrder faithful.ordered sendable).1
  cases op with
  | send dgram nextHop =>
      obtain ⟨sameEthernet, sameIp, sameCache⟩ :=
        (before.perform_send dgram nextHop).others
      exact ⟨sameEthernet.trans faithful.ethernetAddress,
        sameIp.trans faithful.ipAddress,
        by rw [sameCache]; exact faithful.cache, ordered⟩
  | recv frame =>
      cases heard : before.heardIn frame with
      | none =>
          rw [NetworkInterface.perform_recv_of_not_heard heard]
          exact faithful
      | some message =>
          have owned := truthful frame message rfl heard
          obtain ⟨_, _, _, _, learned⟩ :=
            NetworkInterface.perform_recv_of_heard heard
          refine ⟨?_, ?_, ?_, ordered⟩
          · rw [learned.others]
            exact faithful.ethernetAddress
          · rw [learned.others]
            exact faithful.ipAddress
          · intro hop address left cached
            rw [learned.cacheMap,
              UnorderedMap.lookup_insert_eq_some] at cached
            rcases cached with ⟨rfl, entry⟩ | ⟨_, cached⟩
            · cases entry
              exact owned
            · exact faithful.cache hop address left cached
  | tick ms =>
      refine ⟨faithful.ethernetAddress, faithful.ipAddress, ?_, ordered⟩
      intro hop address left cached
      obtain ⟨old, wasCached, _⟩ :=
        NetworkInterface.tick_cacheMap.mp cached
      exact faithful.cache hop address old wasCached

theorem Steps.faithful
    {i : ι}
    {after : NetworkInterface}
    (steps : Steps segment next i after)
    (faithful : ∀ j, Faithful hosts j (segment.interfaces j))
    (changed : Faithful hosts i after)
    (j : ι) :
    Faithful hosts j (next.interfaces j) := by
  by_cases self : j = i
  · rw [self, steps.self]
    exact changed
  · rw [steps.interfaces, Function.update_of_ne self]
    exact faithful j

omit [DecidableEq ι] in
/-- The tag of a packet on the wire. -/
theorem Ledger.tag_of_wire
    (ledger : Ledger hosts segment tags pending)
    {k : Nat}
    {packet : Packet ι}
    (onWire : segment.wire[k]? = some packet) :
    ∃ tag,
      tags[k]? = some tag ∧ Tagged hosts segment.calls packet tag := by
  obtain ⟨inWire, rfl⟩ := List.getElem?_eq_some_iff.mp onWire
  have inTags : k < tags.length := ledger.tagged.length_eq ▸ inWire
  exact ⟨tags[k], List.getElem?_eq_getElem inTags,
    ledger.tagged.get inWire inTags⟩

omit [DecidableEq ι] in
/-- Packets of one call are one packet. -/
theorem Ledger.tag_unique
    (ledger : Ledger hosts segment tags pending)
    {k l n : Nat}
    (first : tags[k]? = some (some n))
    (second : tags[l]? = some (some n)) :
    k = l := by
  have distinct :
      tags.Pairwise fun earlier later =>
        ∀ m ∈ earlier, ∀ n ∈ later, m ≠ n :=
    List.pairwise_filterMap.mp ledger.distinctTags
  obtain ⟨inFirst, atFirst⟩ := List.getElem?_eq_some_iff.mp first
  obtain ⟨inSecond, atSecond⟩ := List.getElem?_eq_some_iff.mp second
  rcases Nat.lt_trichotomy k l with less | same | more
  · exact absurd rfl
      (List.pairwise_iff_getElem.mp distinct k l inFirst inSecond less
        n atFirst n atSecond)
  · exact same
  · exact absurd rfl
      (List.pairwise_iff_getElem.mp distinct l k inSecond inFirst more
        n atSecond n atFirst)

/-- A datagram arrives as it was sent. -/
theorem ipDatagram_of_carries
    {src dst : EthernetAddress}
    {dgram : InternetDatagram}
    {frame : EthernetFrame}
    (wellFormed : dgram.WellFormed)
    (carries : Carries src dst dgram frame) :
    ∃ received,
      NetworkInterface.ipDatagram frame = some received ∧
        SameDatagram dgram received := by
  obtain ⟨out, serialized, image⟩ :=
    IPv4Datagram.serialize_of_serializable wellFormed.serializable
  have payload : out = frame.payload :=
    Except.ok.inj (serialized.symm.trans carries.payload)
  obtain ⟨rest, parsed, content⟩ := wellFormed.parse_image {}
  have isIPv4 : frame.header.type = EthernetHeader.typeIPv4 := by
    rw [carries.header]
  refine ⟨{ header := dgram.headerOut, payload := [rest] }, ?_, rfl, ?_⟩
  · rw [NetworkInterface.ipDatagram, if_pos isIPv4, ← payload, image,
      parsed]
  · change rest.str ++ [] = _
    rw [List.append_nil, content]

theorem arpMessage_of_carries
    {src dst : EthernetAddress}
    {dgram : InternetDatagram}
    {frame : EthernetFrame}
    (carries : Carries src dst dgram frame) :
    arpMessage frame = none := by
  have isIPv4 : frame.header.type = EthernetHeader.typeIPv4 := by
    rw [carries.header]
  rw [arpMessage, if_neg (by rw [isIPv4]; decide)]

/-- A message is not passed on to the owner of an interface. -/
theorem recvFrame_arpMessage
    {frame : EthernetFrame}
    {message : ARPMessage}
    (valid : arpMessage frame = some message)
    (interface : NetworkInterface) :
    (returned (interface.recvFrame frame)).join = none := by
  cases heard : interface.heardIn frame with
  | some message =>
      rw [(NetworkInterface.recvFrame_of_heard heard).2]
      cases returned (interface.learn message) <;> rfl
  | none =>
      rw [NetworkInterface.heardIn, valid] at heard
      have notForUs : ¬ interface.ForUs frame := fun forUs => by
        rw [if_pos forUs] at heard
        cases heard
      rw [NetworkInterface.recvFrame_of_not_heard (by
        rw [NetworkInterface.heardIn, if_neg notForUs]),
        if_neg notForUs]
      rfl

end Delivery

/-- A receipt is accounted for by a call whose packet was delivered. -/
structure Accounted
    (hosts : Hosts ι)
    (segment : EthernetSegment ι)
    (tags : List (Option Nat))
    (receipt : Receipt ι)
    (n : Nat) : Prop where
  delivered :
    ∃ k,
      tags[k]? = some (some n) ∧
        (k, receipt.receiver) ∈ segment.delivered
  asked :
    ∃ sender dgram,
      segment.calls[n]? =
          some ⟨sender, (hosts.ipAddress receipt.receiver).ipv4Numeric,
            dgram⟩ ∧
        sender ≠ receipt.receiver ∧
        SameDatagram dgram receipt.dgram

/-- The invariant of the segment. -/
structure Sound
    (hosts : Hosts ι)
    (segment : EthernetSegment ι)
    (tags : List (Option Nat))
    (pending : ι → UInt32 → List Nat)
    (origins : List Nat) : Prop where
  faithful : ∀ i, Faithful hosts i (segment.interfaces i)
  valid : ∀ call ∈ segment.calls, call.dgram.WellFormed
  ledger : Ledger hosts segment tags pending
  accounted :
    List.Forall₂ (Accounted hosts segment tags)
      segment.receipts origins
  once : origins.Nodup

omit [DecidableEq ι] in
theorem sound_start
    (hosts : Hosts ι) :
    Sound hosts (start hosts) [] (fun _ _ => []) [] := by
  have empty :
      ∀ i hop, ((start hosts).interfaces i).queued hop = [] :=
    fun _ _ => rfl
  refine ⟨fun i => ⟨rfl, rfl, ?_, ?_, ?_⟩, ?_, ⟨?_, .nil, ?_, ?_, ?_⟩,
    .nil, ?_⟩
  · intro hop address left found
    cases found
  · intro hop dgram member
    rw [empty] at member
    cases member
  · intro hop _
    exact empty i hop
  · intro call member
    cases member
  · intro i hop
    rw [empty]
    exact .nil
  all_goals simp

section Sound

variable {hosts : Hosts ι} {segment next : EthernetSegment ι}
variable {tags : List (Option Nat)} {pending : ι → UInt32 → List Nat}
variable {origins : List Nat}

omit [DecidableEq ι] in
/-- A receipt stays accounted for while the logs grow. -/
theorem Accounted.grow
    {receipt : Receipt ι}
    {n : Nat}
    (accounted : Accounted hosts segment tags receipt n)
    {more : List (SendCall ι)}
    (calls : next.calls = segment.calls ++ more)
    (delivered : segment.delivered ⊆ next.delivered)
    (newTags : List (Option Nat)) :
    Accounted hosts next (tags ++ newTags) receipt n where
  delivered := by
    obtain ⟨k, tagged, seen⟩ := accounted.delivered
    obtain ⟨inside, _⟩ := List.getElem?_eq_some_iff.mp tagged
    exact ⟨k, by rw [List.getElem?_append_left inside, tagged],
      delivered seen⟩
  asked := by
    obtain ⟨sender, dgram, called, other, same⟩ := accounted.asked
    rw [calls]
    exact ⟨sender, dgram, getElem?_append_of_some called, other, same⟩

/-- What has to be shown about a step of one interface. -/
theorem Sound.extend
    (sound : Sound hosts segment tags pending origins)
    {i : ι}
    {after : NetworkInterface}
    (steps : Steps segment next i after)
    (changed : Faithful hosts i after)
    {more : List (SendCall ι)}
    (calls : next.calls = segment.calls ++ more)
    (valid : ∀ call ∈ more, call.dgram.WellFormed)
    {newTags : List (Option Nat)}
    {newPending : ι → UInt32 → List Nat}
    (ledger : Ledger hosts next (tags ++ newTags) newPending)
    (delivered : segment.delivered ⊆ next.delivered)
    {newReceipts : List (Receipt ι)}
    {newOrigins : List Nat}
    (receipts : next.receipts = segment.receipts ++ newReceipts)
    (accounted :
      List.Forall₂ (Accounted hosts next (tags ++ newTags))
        newReceipts newOrigins)
    (once : (origins ++ newOrigins).Nodup) :
    Sound hosts next (tags ++ newTags) newPending
      (origins ++ newOrigins) where
  faithful := steps.faithful sound.faithful changed
  valid := by
    intro call member
    rw [calls] at member
    rcases List.mem_append.mp member with old | new
    · exact sound.valid call old
    · exact valid call new
  ledger := ledger
  accounted := by
    rw [receipts]
    refine List.rel_append ?_ accounted
    exact sound.accounted.imp fun _ _ known =>
      known.grow calls delivered newTags
  once := once

/-- A step in which nothing is returned to the owner. -/
theorem Sound.extend_silently
    (sound : Sound hosts segment tags pending origins)
    {i : ι}
    {after : NetworkInterface}
    (steps : Steps segment next i after)
    (changed : Faithful hosts i after)
    {more : List (SendCall ι)}
    (calls : next.calls = segment.calls ++ more)
    (valid : ∀ call ∈ more, call.dgram.WellFormed)
    (ledger :
      ∃ newTags newPending,
        Ledger hosts next (tags ++ newTags) newPending)
    (delivered : segment.delivered ⊆ next.delivered)
    (receipts : next.receipts = segment.receipts) :
    ∃ tags pending origins, Sound hosts next tags pending origins := by
  obtain ⟨newTags, newPending, ledger⟩ := ledger
  exact ⟨_, _, _, sound.extend steps changed calls valid ledger delivered
    (receipts.trans (List.append_nil _).symm) .nil
    (by rw [List.append_nil]; exact sound.once)⟩

omit [DecidableEq ι] in
/-- The call of a packet that was not delivered before is not returned. -/
theorem Sound.not_mem_origins
    (sound : Sound hosts segment tags pending origins)
    {k n : Nat}
    {j sender : ι}
    {dgram : InternetDatagram}
    (tagged : tags[k]? = some (some n))
    (called :
      segment.calls[n]? =
        some ⟨sender, (hosts.ipAddress j).ipv4Numeric, dgram⟩)
    (unseen : (k, j) ∉ segment.delivered) :
    n ∉ origins := by
  have once :
      ∀ m ∈ origins, m ≠ n := by
    refine
      ((List.forall₂_and_left _ _).mp
        (sound.accounted.flip.imp fun m receipt known => ⟨?_, known⟩)).1
    rintro rfl
    obtain ⟨l, again, seen⟩ := known.delivered
    obtain ⟨_, _, asked, _⟩ := known.asked
    rw [called] at asked
    have receiver : j = receipt.receiver :=
      hosts.distinctIp
        (congrArg SendCall.hop (Option.some.inj asked))
    rw [sound.ledger.tag_unique tagged again, receiver] at unseen
    exact unseen seen
  exact fun member => once n member rfl

theorem Sound.send
    (sound : Sound hosts segment tags pending origins)
    {i : ι}
    {dgram : InternetDatagram}
    (wellFormed : dgram.WellFormed)
    (nextHop : Address) :
    ∃ tags pending origins,
      Sound hosts (segment.step (.send i dgram nextHop))
        tags pending origins := by
  have steps :
      Steps segment (segment.step (.send i dgram nextHop)) i
        ((segment.interfaces i).perform (.send dgram nextHop)) :=
    ⟨rfl, rfl⟩
  have valid := wellFormed.serializable
  obtain ⟨out, serialized, _⟩ :=
    IPv4Datagram.serialize_of_serializable valid
  refine sound.extend_silently steps ?_ rfl ?_ ?_ (List.Subset.refl _)
    rfl
  · refine (sound.faithful i).perform ⟨out, serialized⟩ ?_
    rintro frame message ⟨⟩
  · intro call member
    rw [List.mem_singleton.mp member]
    exact wellFormed
  · exact sound.ledger.send (sound.faithful i) steps rfl valid
      ((segment.interfaces i).perform_send dgram nextHop)

theorem Sound.tick
    (sound : Sound hosts segment tags pending origins)
    (i : ι)
    (ms : Nat) :
    ∃ tags pending origins,
      Sound hosts (segment.step (.tick i ms)) tags pending origins := by
  have steps :
      Steps segment (segment.step (.tick i ms)) i
        ((segment.interfaces i).perform (.tick ms)) :=
    ⟨rfl, rfl⟩
  refine sound.extend_silently steps ?_ (List.append_nil _).symm ?_ ?_
    (List.Subset.refl _) rfl
  · refine (sound.faithful i).perform trivial ?_
    rintro frame message ⟨⟩
  · simp
  · exact sound.ledger.quiet steps rfl rfl rfl

/-- A packet with a message teaches the interface its origin. -/
theorem Sound.deliver_message
    (sound : Sound hosts segment tags pending origins)
    {j : ι}
    {packet : Packet ι}
    (steps :
      Steps segment next j
        ((segment.interfaces j).perform (.recv packet.frame)))
    (calls : next.calls = segment.calls)
    (delivered : segment.delivered ⊆ next.delivered)
    (receipts : next.receipts = segment.receipts)
    (tagged : Tagged hosts segment.calls packet none) :
    ∃ tags pending origins, Sound hosts next tags pending origins := by
  obtain ⟨message, read, senderIp, senderEthernet⟩ := tagged
  have owned :
      Owned hosts message.senderIpAddress
        message.senderEthernetAddress :=
    ⟨packet.origin, senderIp.symm, senderEthernet.symm⟩
  have changed :
      Faithful hosts j
        ((segment.interfaces j).perform (.recv packet.frame)) := by
    refine (sound.faithful j).perform trivial ?_
    rintro _ heardMessage ⟨⟩ heard
    rw [NetworkInterface.heardIn, read] at heard
    split at heard <;> cases heard
    exact owned
  refine sound.extend_silently steps changed
    (calls.trans (List.append_nil _).symm) (by simp) ?_ delivered
    receipts
  cases heard : (segment.interfaces j).heardIn packet.frame with
  | none =>
      rw [NetworkInterface.perform_recv_of_not_heard heard] at steps
      exact sound.ledger.quiet steps calls rfl rfl
  | some heardMessage =>
      have same : heardMessage = message := by
        rw [NetworkInterface.heardIn, read] at heard
        split at heard <;> cases heard
        rfl
      subst same
      obtain ⟨flushed, remaining, frames, replies, learned⟩ :=
        NetworkInterface.perform_recv_of_heard heard
      have all :=
        learned.remaining_eq_nil ((sound.faithful j).ordered.valid _)
      subst all
      exact sound.ledger.learn (sound.faithful j) steps calls
        (NetworkInterface.arpMessage_supported read) owned learned

/-- A packet with a datagram is returned by the owner of the next hop only. -/
theorem Sound.deliver_datagram
    (sound : Sound hosts segment tags pending origins)
    {k n : Nat}
    {j : ι}
    {packet : Packet ι}
    (steps :
      Steps segment next j
        ((segment.interfaces j).perform (.recv packet.frame)))
    (calls : next.calls = segment.calls)
    (delivered : next.delivered = segment.delivered ++ [(k, j)])
    (receipts :
      next.receipts =
        segment.receipts ++
          (returned ((segment.interfaces j).recvFrame
              packet.frame)).join.toList.map (Receipt.mk j))
    (other : packet.origin ≠ j)
    (unseen : (k, j) ∉ segment.delivered)
    (atTag : tags[k]? = some (some n))
    (tagged : Tagged hosts segment.calls packet (some n)) :
    ∃ tags pending origins, Sound hosts next tags pending origins := by
  obtain ⟨hop, dgram, dst, called, ⟨owner, ownsIp, ownsEthernet⟩,
    carries⟩ := tagged
  have silent : (segment.interfaces j).heardIn packet.frame = none := by
    rw [NetworkInterface.heardIn, arpMessage_of_carries carries,
      ite_self]
  have seen : segment.delivered ⊆ next.delivered := by
    rw [delivered]
    exact List.subset_append_left _ _
  have toOwner : packet.frame.header.dst = dst := by
    rw [carries.header]
  rw [NetworkInterface.perform_recv_of_not_heard silent] at steps
  rw [NetworkInterface.recvFrame_of_not_heard silent] at receipts
  obtain ⟨newTags, newPending, ledger⟩ :=
    sound.ledger.quiet steps calls rfl rfl
  by_cases receives : owner = j
  · subst receives
    have forUs : (segment.interfaces owner).ForUs packet.frame := by
      refine Or.inr ?_
      rw [toOwner, (sound.faithful owner).ethernetAddress,
        ownsEthernet]
    obtain ⟨inside, callAt⟩ := List.getElem?_eq_some_iff.mp called
    have wellFormed : dgram.WellFormed := by
      have known := sound.valid _ (List.getElem_mem inside)
      rwa [callAt] at known
    obtain ⟨received, arrives, same⟩ :=
      ipDatagram_of_carries wellFormed carries
    rw [if_pos forUs, arrives] at receipts
    subst ownsIp
    have accounted :
        Accounted hosts next (tags ++ newTags) ⟨owner, received⟩ n := by
      refine ⟨⟨k, ?_, ?_⟩, packet.origin, dgram, ?_, other, same⟩
      · obtain ⟨inTags, _⟩ := List.getElem?_eq_some_iff.mp atTag
        rw [List.getElem?_append_left inTags, atTag]
      · rw [delivered]
        simp
      · rw [calls, called]
    have once : (origins ++ [n]).Nodup := by
      rw [← List.concat_eq_append]
      exact .concat (sound.not_mem_origins atTag called unseen)
        sound.once
    exact ⟨_, _, _, sound.extend steps (sound.faithful owner)
      (calls.trans (List.append_nil _).symm) (by simp) ledger seen
      receipts (.cons accounted .nil) once⟩
  · have notForUs : ¬ (segment.interfaces j).ForUs packet.frame := by
      rintro (broadcast | mine)
      · rw [toOwner, ← ownsEthernet] at broadcast
        exact hosts.unicast owner broadcast
      · rw [toOwner, ← ownsEthernet,
          (sound.faithful j).ethernetAddress] at mine
        exact receives (hosts.distinctEthernet mine)
    rw [if_neg notForUs] at receipts
    exact sound.extend_silently steps (sound.faithful j)
      (calls.trans (List.append_nil _).symm) (by simp)
      ⟨newTags, newPending, ledger⟩ seen
      (receipts.trans (List.append_nil _))

theorem Sound.deliver
    (sound : Sound hosts segment tags pending origins)
    {k : Nat}
    {j : ι}
    (allowed : segment.Allowed (.deliver k j)) :
    ∃ tags pending origins,
      Sound hosts (segment.step (.deliver k j)) tags pending
        origins := by
  obtain ⟨packet, onWire, other, unseen⟩ := allowed
  obtain ⟨tag, atTag, tagged⟩ := sound.ledger.tag_of_wire onWire
  have stepped :
      segment.step (.deliver k j) =
        { segment.perform j (.recv packet.frame) with
          delivered := segment.delivered ++ [(k, j)]
          receipts :=
            segment.receipts ++
              (returned ((segment.interfaces j).recvFrame
                  packet.frame)).join.toList.map (Receipt.mk j) } := by
    simp only [step, Option.mem_def.mp onWire]
  rw [stepped]
  cases tag with
  | none =>
      refine sound.deliver_message ⟨rfl, rfl⟩ rfl
        (List.subset_append_left _ _) ?_ tagged
      obtain ⟨message, read, _⟩ := tagged
      change _ ++ List.map _ (Option.toList _) = _
      rw [recvFrame_arpMessage read]
      exact List.append_nil _
  | some n =>
      exact sound.deliver_datagram ⟨rfl, rfl⟩ rfl rfl rfl other unseen
        atTag tagged

/-- Every allowed step keeps the segment sound. -/
theorem Sound.step
    (sound : Sound hosts segment tags pending origins)
    {op : Op ι}
    (allowed : segment.Allowed op) :
    ∃ tags pending origins,
      Sound hosts (segment.step op) tags pending origins := by
  cases op with
  | send i dgram nextHop => exact sound.send allowed nextHop
  | deliver k j => exact sound.deliver allowed
  | tick i ms => exact sound.tick i ms

end Sound

/--
On a shared segment every cache entry names the owner of the address, and every
datagram an interface returns was sent by another interface with this one as
next hop, no call being returned twice.
-/
theorem no_misdelivery
    (hosts : Hosts ι)
    {ops : List (Op ι)}
    (allowed :
      Execution.EveryStep step Allowed (start hosts) ops) :
    let segment := Execution.run step (start hosts) ops
    (∀ i hop address left,
      (segment.interfaces i).cacheMap.lookup hop =
          some (address, left) →
        ∃ owner,
          (hosts.ipAddress owner).ipv4Numeric = hop ∧
            hosts.ethernetAddress owner = address) ∧
    ∃ origins : List Nat,
      origins.Nodup ∧
        List.Forall₂
          (fun receipt n =>
            ∃ call,
              segment.calls[n]? = some call ∧
                call.sender ≠ receipt.receiver ∧
                call.hop =
                  (hosts.ipAddress receipt.receiver).ipv4Numeric ∧
                SameDatagram call.dgram receipt.dgram)
          segment.receipts origins := by
  intro segment
  obtain ⟨tags, pending, origins, sound⟩ :
      ∃ tags pending origins,
        Sound hosts segment tags pending origins := by
    refine
      Execution.EveryStep.invariant
        (fun segment =>
          ∃ tags pending origins,
            Sound hosts segment tags pending origins)
        ?_ ⟨_, _, _, sound_start hosts⟩ allowed
    rintro state op ⟨_, _, _, sound⟩ permitted
    exact sound.step permitted
  refine ⟨fun i => (sound.faithful i).cache, origins, sound.once, ?_⟩
  refine sound.accounted.imp fun receipt n accounted => ?_
  obtain ⟨sender, dgram, called, other, same⟩ := accounted.asked
  exact ⟨_, called, other, rfl, same⟩

/-- An Ethernet address for each of two interfaces. -/
def twoAddresses (i : Bool) : EthernetAddress :=
  ⟨[2, 0, 0, 0, 0, i.toUInt8], rfl⟩

/-- Two interfaces with their own addresses. -/
def twoHosts : Hosts Bool where
  ethernetAddress := twoAddresses
  ipAddress i := { ipv4Numeric := i.toUInt32 }
  distinctEthernet first second := by revert first second; decide
  unicast := by decide
  distinctIp first second := by revert first second; decide

/-- A call to send, the request, the reply and then the datagram. -/
def exchange : List (Op Bool) :=
  [.send false { header := { len := 20 } } { ipv4Numeric := 1 },
    .deliver 0 true, .deliver 1 false, .tick false 1000,
    .deliver 2 true]

theorem no_misdelivery_exchange :
    (Execution.run step (start twoHosts) exchange).receipts.map
        Receipt.receiver = [true] ∧
    ∃ origins : List Nat,
      origins.Nodup ∧
        List.Forall₂
          (fun receipt n =>
            ∃ call,
              (Execution.run step (start twoHosts)
                  exchange).calls[n]? = some call ∧
                call.sender ≠ receipt.receiver ∧
                call.hop =
                  (twoHosts.ipAddress receipt.receiver).ipv4Numeric ∧
                SameDatagram call.dgram receipt.dgram)
          (Execution.run step (start twoHosts) exchange).receipts
          origins :=
  ⟨by decide +kernel, (no_misdelivery twoHosts (by decide +kernel)).2⟩

end EthernetSegment

end Sponge
