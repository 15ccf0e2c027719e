import Mathlib.Data.List.ReduceOption
import Sponge.NetworkInterfaceRun

namespace Sponge

open NetworkInterface (Learned Carries emitted emitted_of_append arpMessage)

/-!
# Interfaces on a shared Ethernet segment

Any number of interfaces share a wire.  Every frame an interface emits is put
on the wire, where it may wait for ever or be delivered to the other interfaces
in any order, to each at most once.  The logs of the segment record what the
interfaces were asked to send and what they returned to their owners.
-/

/-- Interfaces with addresses of their own. -/
structure Hosts (ι : Type) where
  ethernetAddress : ι → EthernetAddress
  ipAddress : ι → Address
  distinctEthernet : Function.Injective ethernetAddress
  unicast : ∀ i, ethernetAddress i ≠ ethernetBroadcast
  distinctIp : Function.Injective fun i => (ipAddress i).ipv4Numeric

/-- A call to send a datagram. -/
structure SendCall (ι : Type) where
  sender : ι
  hop : UInt32
  dgram : InternetDatagram

/-- A frame on the wire and the interface that emitted it. -/
structure Packet (ι : Type) where
  origin : ι
  frame : EthernetFrame

/-- A datagram returned to the owner of an interface. -/
structure Receipt (ι : Type) where
  receiver : ι
  dgram : InternetDatagram

/-- Interfaces on a shared medium, with a record of what has happened. -/
structure EthernetSegment (ι : Type) where
  interfaces : ι → NetworkInterface
  calls : List (SendCall ι) := []
  wire : List (Packet ι) := []
  -- which packet went to which interface
  delivered : List (Nat × ι) := []
  receipts : List (Receipt ι) := []

namespace EthernetSegment

variable {ι : Type} [DecidableEq ι]

/-- What may happen on the segment. -/
inductive Op (ι : Type) where
  | send (i : ι) (dgram : InternetDatagram) (nextHop : Address)
  | deliver (packet : Nat) (j : ι)
  | tick (i : ι) (ms : Nat)

/-- One interface performs a call and its frames go on the wire. -/
def perform
    (segment : EthernetSegment ι)
    (i : ι)
    (op : NetworkInterface.Op) : EthernetSegment ι :=
  let before := segment.interfaces i
  let after := before.perform op
  { segment with
    interfaces := Function.update segment.interfaces i after
    wire := segment.wire ++ (emitted before after).map (Packet.mk i) }

/-- Perform what happens on its interface, and record it. -/
def step (segment : EthernetSegment ι) : Op ι → EthernetSegment ι
  | .send i dgram nextHop =>
      { segment.perform i (.send dgram nextHop) with
        calls := segment.calls ++ [⟨i, nextHop.ipv4Numeric, dgram⟩] }
  | .deliver k j =>
      match segment.wire[k]? with
      | none => segment
      | some packet =>
          let result :=
            returned ((segment.interfaces j).recvFrame packet.frame)
          { segment.perform j (.recv packet.frame) with
            delivered := segment.delivered ++ [(k, j)]
            receipts :=
              segment.receipts ++ result.join.toList.map (Receipt.mk j) }
  | .tick i ms => segment.perform i (.tick ms)

/--
Well-formed datagrams are sent, and a packet is delivered to another interface
than its origin, once.
-/
def Allowed (segment : EthernetSegment ι) : Op ι → Prop
  | .send _ dgram _ => dgram.WellFormed
  | .deliver k j =>
      ∃ packet ∈ segment.wire[k]?,
        packet.origin ≠ j ∧ (k, j) ∉ segment.delivered
  | .tick _ _ => True

instance (segment : EthernetSegment ι) (op : Op ι) :
    Decidable (segment.Allowed op) :=
  match op with
  | .send _ dgram _ => inferInstanceAs (Decidable dgram.WellFormed)
  | .deliver _ _ => inferInstanceAs (Decidable (∃ _ ∈ _, _ ∧ _))
  | .tick _ _ => inferInstanceAs (Decidable True)

/-- Newly constructed interfaces and an empty wire. -/
def start (hosts : Hosts ι) : EthernetSegment ι where
  interfaces i := {
    ethernetAddress := hosts.ethernetAddress i
    ipAddress := hosts.ipAddress i
  }

/-- The same datagram, with the header checksum computed by the sender. -/
structure SameDatagram (sent received : InternetDatagram) : Prop where
  header : received.header = sent.headerOut
  payload : received.payload.concatenate = sent.payload.concatenate

/-- An interface on the segment has this IP and this Ethernet address. -/
def Owned
    (hosts : Hosts ι)
    (hop : UInt32)
    (address : EthernetAddress) : Prop :=
  ∃ owner,
    (hosts.ipAddress owner).ipv4Numeric = hop ∧
      hosts.ethernetAddress owner = address

/--
What a packet is: a message about its origin, or the datagram of the call it is
tagged with on its way to the owner of the next hop.
-/
def Tagged
    (hosts : Hosts ι)
    (calls : List (SendCall ι))
    (packet : Packet ι) :
    Option Nat → Prop
  | none =>
      ∃ message,
        arpMessage packet.frame = some message ∧
          message.senderIpAddress =
            (hosts.ipAddress packet.origin).ipv4Numeric ∧
          message.senderEthernetAddress =
            hosts.ethernetAddress packet.origin
  | some n =>
      ∃ hop dgram dst,
        calls[n]? = some ⟨packet.origin, hop, dgram⟩ ∧
          Owned hosts hop dst ∧
          Carries (hosts.ethernetAddress packet.origin) dst dgram
            packet.frame

/-- What one interface knows about the others. -/
structure Faithful
    (hosts : Hosts ι)
    (i : ι)
    (interface : NetworkInterface) : Prop where
  ethernetAddress : interface.ethernetAddress = hosts.ethernetAddress i
  ipAddress : interface.ipAddress = hosts.ipAddress i
  cache :
    ∀ hop address left,
      interface.cacheMap.lookup hop = some (address, left) →
      Owned hosts hop address
  ordered : interface.Ordered

/--
The accounts of the segment: every packet has a tag, every waiting datagram has
the number of its call, and no call is counted twice.
-/
structure Ledger
    (hosts : Hosts ι)
    (segment : EthernetSegment ι)
    (tags : List (Option Nat))
    (pending : ι → UInt32 → List Nat) : Prop where
  waiting :
    ∀ i hop,
      List.Forall₂
        (fun n dgram => segment.calls[n]? = some ⟨i, hop, dgram⟩)
        (pending i hop) ((segment.interfaces i).queued hop)
  tagged :
    List.Forall₂ (Tagged hosts segment.calls) segment.wire tags
  distinctTags : tags.reduceOption.Nodup
  distinctPending : ∀ i hop, (pending i hop).Nodup
  separate : ∀ i hop, ∀ n ∈ pending i hop, n ∉ tags.reduceOption

section Calls

variable {hosts : Hosts ι}
variable {calls more : List (SendCall ι)}

omit [DecidableEq ι] in
/-- A call keeps its number. -/
theorem getElem?_append_of_some
    {n : Nat}
    {call : SendCall ι}
    (found : calls[n]? = some call) :
    (calls ++ more)[n]? = some call := by
  obtain ⟨inside, _⟩ := List.getElem?_eq_some_iff.mp found
  rw [List.getElem?_append_left inside, found]

omit [DecidableEq ι] in
theorem Tagged.append
    {packet : Packet ι}
    {tag : Option Nat}
    (tagged : Tagged hosts calls packet tag) :
    Tagged hosts (calls ++ more) packet tag := by
  cases tag with
  | none =>
      exact tagged
  | some n =>
      obtain ⟨hop, dgram, dst, found, owned, carries⟩ := tagged
      exact ⟨hop, dgram, dst, getElem?_append_of_some found, owned,
        carries⟩

omit [DecidableEq ι] in
/-- The frames of a queue are tagged with its calls. -/
theorem tagged_of_carried
    {i : ι}
    {hop : UInt32}
    {dst : EthernetAddress}
    {numbers : List Nat}
    {dgrams : List InternetDatagram}
    {frames : List EthernetFrame}
    (owned : Owned hosts hop dst)
    (called :
      List.Forall₂ (fun n dgram => calls[n]? = some ⟨i, hop, dgram⟩)
        numbers dgrams)
    (carried :
      List.Forall₂ (Carries (hosts.ethernetAddress i) dst)
        dgrams frames) :
    List.Forall₂ (Tagged hosts calls)
      (frames.map (Packet.mk i)) (numbers.map some) := by
  induction called generalizing frames with
  | nil =>
      rw [List.forall₂_nil_left_iff.mp carried]
      exact .nil
  | cons found _ inductionHypothesis =>
      obtain ⟨frame, rest, carries, later, rfl⟩ :=
        List.forall₂_cons_left_iff.mp carried
      exact .cons ⟨_, _, _, found, owned, carries⟩
        (inductionHypothesis later)

omit [DecidableEq ι] in
/-- A message about the interface that sends it is tagged as one. -/
theorem tagged_arpFrame
    {i : ι}
    {interface : NetworkInterface}
    {message : ARPMessage}
    (faithful : Faithful hosts i interface)
    (supported : message.supported = true)
    (senderIp :
      message.senderIpAddress = interface.ipAddress.ipv4Numeric)
    (senderEthernet :
      message.senderEthernetAddress = interface.ethernetAddress)
    (dst : EthernetAddress) :
    Tagged hosts calls ⟨i, interface.arpFrame dst message⟩ none := by
  refine ⟨message,
    NetworkInterface.arpMessage_arpFrame supported interface dst, ?_, ?_⟩
  · rw [senderIp, faithful.ipAddress]
  · rw [senderEthernet, faithful.ethernetAddress]

end Calls

section Ledger

variable {hosts : Hosts ι} {segment next : EthernetSegment ι}
variable {tags : List (Option Nat)} {pending : ι → UInt32 → List Nat}

omit [DecidableEq ι] in
/-- The call of a waiting datagram. -/
theorem Ledger.call_of_pending
    (ledger : Ledger hosts segment tags pending)
    {i : ι}
    {hop : UInt32}
    {n : Nat}
    (waits : n ∈ pending i hop) :
    ∃ dgram, segment.calls[n]? = some ⟨i, hop, dgram⟩ := by
  have each :=
    (ledger.waiting i hop).imp fun _ dgram found =>
      And.intro (Exists.intro dgram found) found
  exact ((List.forall₂_and_left _ _).mp each).1 n waits

omit [DecidableEq ι] in
/-- A tag is the number of a call. -/
theorem Ledger.lt_of_tag
    (ledger : Ledger hosts segment tags pending)
    {n : Nat}
    (tagged : n ∈ tags.reduceOption) :
    n < segment.calls.length := by
  have known :
      ∀ tag ∈ tags, ∀ n ∈ tag, n < segment.calls.length := by
    refine
      ((List.forall₂_and_left _ _).mp
        (ledger.tagged.flip.imp fun tag packet known => ⟨?_, known⟩)).1
    rintro n ⟨⟩
    obtain ⟨hop, dgram, dst, found, _⟩ := known
    exact (List.getElem?_eq_some_iff.mp found).1
  exact known (some n) (List.reduceOption_mem_iff.mp tagged) n rfl

omit [DecidableEq ι] in
theorem Ledger.lt_of_pending
    (ledger : Ledger hosts segment tags pending)
    {i : ι}
    {hop : UInt32}
    {n : Nat}
    (waits : n ∈ pending i hop) :
    n < segment.calls.length := by
  obtain ⟨dgram, found⟩ := ledger.call_of_pending waits
  exact (List.getElem?_eq_some_iff.mp found).1

/--
The rule for one interface and one next hop: calls that waited and new calls are
put on the wire or wait, and everything else stays as it was.
-/
theorem Ledger.move
    (ledger : Ledger hosts segment tags pending)
    {i : ι}
    {hop : UInt32}
    {more : List (SendCall ι)}
    {packets : List (Packet ι)}
    {newTags : List (Option Nat)}
    {fresh remaining : List Nat}
    (calls : next.calls = segment.calls ++ more)
    (wire : next.wire = segment.wire ++ packets)
    (new : ∀ n ∈ fresh, segment.calls.length ≤ n)
    (freshNodup : fresh.Nodup)
    (moved :
      pending i hop ++ fresh = newTags.reduceOption ++ remaining)
    (untouched :
      ∀ j query,
        ¬ (j = i ∧ query = hop) →
        (next.interfaces j).queued query =
          (segment.interfaces j).queued query)
    (remains :
      List.Forall₂
        (fun n dgram => next.calls[n]? = some ⟨i, hop, dgram⟩)
        remaining ((next.interfaces i).queued hop))
    (tagged : List.Forall₂ (Tagged hosts next.calls) packets newTags) :
    Ledger hosts next (tags ++ newTags) fun j query =>
      if j = i ∧ query = hop then remaining else pending j query := by
  have accounts : (newTags.reduceOption ++ remaining).Nodup := by
    rw [← moved]
    refine List.nodup_append.mpr
      ⟨ledger.distinctPending i hop, freshNodup, ?_⟩
    rintro n waits _ isNew rfl
    exact absurd (ledger.lt_of_pending waits) (new n isNew).not_gt
  have offWire :
      ∀ n ∈ newTags.reduceOption ++ remaining,
        n ∉ tags.reduceOption := by
    rw [← moved]
    intro n member onWire
    rcases List.mem_append.mp member with waits | isNew
    · exact ledger.separate i hop n waits onWire
    · exact absurd (ledger.lt_of_tag onWire) (new n isNew).not_gt
  obtain ⟨distinctNew, distinctRemaining, apart⟩ :=
    List.nodup_append.mp accounts
  constructor
  case waiting =>
    intro j query
    split
    · rename_i here
      rw [here.1, here.2]
      exact remains
    · rename_i elsewhere
      rw [untouched j query elsewhere, calls]
      exact (ledger.waiting j query).imp fun _ _ =>
        getElem?_append_of_some
  case tagged =>
    rw [wire, calls]
    rw [calls] at tagged
    exact List.rel_append
      (ledger.tagged.imp fun _ _ => Tagged.append) tagged
  case distinctTags =>
    rw [List.reduceOption_append]
    refine List.nodup_append.mpr
      ⟨ledger.distinctTags, distinctNew, ?_⟩
    rintro n old _ added rfl
    exact offWire n (List.mem_append_left _ added) old
  case distinctPending =>
    intro j query
    split
    · exact distinctRemaining
    · exact ledger.distinctPending j query
  case separate =>
    intro j query n member onWire
    rw [List.reduceOption_append] at onWire
    split at member
    · rcases List.mem_append.mp onWire with old | added
      · exact offWire n (List.mem_append_right _ member) old
      · exact apart n added n member rfl
    · rename_i elsewhere
      rcases List.mem_append.mp onWire with old | added
      · exact ledger.separate j query n member old
      · -- a call has only one sender and one next hop
        have source := List.mem_append_left remaining added
        rw [← moved] at source
        rcases List.mem_append.mp source with waits | isNew
        · obtain ⟨_, here⟩ := ledger.call_of_pending waits
          obtain ⟨_, there⟩ := ledger.call_of_pending member
          rw [here] at there
          cases there
          exact elsewhere ⟨rfl, rfl⟩
        · exact absurd (ledger.lt_of_pending member)
            (new n isNew).not_gt

end Ledger

/-- One interface changes, and the frames it emits go on the wire. -/
structure Steps
    (segment next : EthernetSegment ι)
    (i : ι)
    (after : NetworkInterface) : Prop where
  interfaces :
    next.interfaces = Function.update segment.interfaces i after
  wire :
    next.wire =
      segment.wire ++
        (emitted (segment.interfaces i) after).map (Packet.mk i)

section Steps

variable {hosts : Hosts ι} {segment next : EthernetSegment ι}
variable {tags : List (Option Nat)} {pending : ι → UInt32 → List Nat}
variable {i : ι} {after : NetworkInterface}

theorem Steps.self
    (steps : Steps segment next i after) :
    next.interfaces i = after := by
  rw [steps.interfaces, Function.update_self]

theorem Steps.queued
    (steps : Steps segment next i after)
    {hop : UInt32}
    (others :
      ∀ query,
        query ≠ hop →
        after.queued query = (segment.interfaces i).queued query)
    (j : ι)
    (query : UInt32)
    (untouched : ¬ (j = i ∧ query = hop)) :
    (next.interfaces j).queued query =
      (segment.interfaces j).queued query := by
  by_cases self : j = i
  · subst self
    rw [steps.self]
    exact others query fun same => untouched ⟨rfl, same⟩
  · rw [steps.interfaces, Function.update_of_ne self]

/-- A call that emits nothing and leaves the queues alone. -/
theorem Ledger.quiet
    (ledger : Ledger hosts segment tags pending)
    (steps : Steps segment next i after)
    (calls : next.calls = segment.calls)
    (silent : after.framesOut = (segment.interfaces i).framesOut)
    (sameQueues :
      after.datagramQueue = (segment.interfaces i).datagramQueue) :
    ∃ newTags newPending,
      Ledger hosts next (tags ++ newTags) newPending := by
  have same :
      ∀ query,
        after.queued query = (segment.interfaces i).queued query :=
    fun query => by
      rw [NetworkInterface.queued, NetworkInterface.queued, sameQueues]
  have wire := steps.wire
  rw [emitted_of_append (silent.trans (List.append_nil _).symm)] at wire
  have remains := ledger.waiting i 0
  rw [← same, ← steps.self, ← calls] at remains
  exact ⟨[], _, ledger.move (calls.trans (List.append_nil _).symm) wire
    (fun _ member => (List.not_mem_nil member).elim) List.nodup_nil
    (List.append_nil _) (steps.queued fun query _ => same query)
    remains .nil⟩

/-- A call waits behind the others, and at most messages are emitted. -/
theorem Ledger.wait
    (ledger : Ledger hosts segment tags pending)
    (steps : Steps segment next i after)
    {dgram : InternetDatagram}
    {hop : UInt32}
    (calls : next.calls = segment.calls ++ [⟨i, hop, dgram⟩])
    {frames : List EthernetFrame}
    {newTags : List (Option Nat)}
    (pushed :
      after.framesOut = (segment.interfaces i).framesOut ++ frames)
    (tagged :
      List.Forall₂ (Tagged hosts next.calls)
        (frames.map (Packet.mk i)) newTags)
    (messages : newTags.reduceOption = [])
    (queued :
      ∀ query,
        after.queued query =
          if query = hop then
            (segment.interfaces i).queued hop ++ [dgram]
          else
            (segment.interfaces i).queued query) :
    ∃ newTags newPending,
      Ledger hosts next (tags ++ newTags) newPending := by
  have wire := steps.wire
  rw [emitted_of_append pushed] at wire
  have moved :
      pending i hop ++ [segment.calls.length] =
        newTags.reduceOption ++
          (pending i hop ++ [segment.calls.length]) := by
    rw [messages, List.nil_append]
  have untouched :=
    steps.queued fun query other => by rw [queued, if_neg other]
  refine ⟨newTags, _, ledger.move calls wire (by simp)
    (List.nodup_singleton _) moved untouched ?_ tagged⟩
  rw [steps.self, queued, if_pos rfl, calls]
  refine List.rel_append ?_ (.cons ?_ .nil)
  · exact (ledger.waiting i hop).imp fun _ _ => getElem?_append_of_some
  · exact List.getElem?_concat_length

/-- A call to send is put on the wire, or waits behind the others. -/
theorem Ledger.send
    (ledger : Ledger hosts segment tags pending)
    (faithful : Faithful hosts i (segment.interfaces i))
    (steps : Steps segment next i after)
    {dgram : InternetDatagram}
    {hop : UInt32}
    (calls : next.calls = segment.calls ++ [⟨i, hop, dgram⟩])
    (valid : dgram.Serializable)
    (outcome :
      NetworkInterface.SendOutcome dgram hop
        (segment.interfaces i) after) :
    ∃ newTags newPending,
      Ledger hosts next (tags ++ newTags) newPending := by
  have untouched := steps.queued fun _ => outcome.queued
  cases outcome with
  | @carried dst left frame known carries =>
      have nothing : (segment.interfaces i).queued hop = [] :=
        faithful.ordered.known hop (by rw [known]; simp)
      have noneWaits : pending i hop = [] := by
        have waiting := ledger.waiting i hop
        rw [nothing] at waiting
        exact List.forall₂_nil_right_iff.mp waiting
      have moved :
          pending i hop ++ [segment.calls.length] =
            List.reduceOption [some segment.calls.length] ++ [] := by
        rw [noneWaits]
        rfl
      have wire := steps.wire
      have frames :
          emitted (segment.interfaces i)
              { segment.interfaces i with
                framesOut :=
                  (segment.interfaces i).framesOut ++ [frame] } =
            [frame] :=
        emitted_of_append rfl
      rw [frames] at wire
      refine ⟨[some segment.calls.length], _,
        ledger.move calls wire (by simp) (List.nodup_singleton _) moved
          untouched ?_ (.cons ?_ .nil)⟩
      · rw [steps.self]
        change List.Forall₂ _ _ ((segment.interfaces i).queued hop)
        rw [nothing]
        exact .nil
      · rw [faithful.ethernetAddress] at carries
        refine ⟨hop, dgram, dst, ?_,
          faithful.cache hop dst left known, carries⟩
        rw [calls, List.getElem?_concat_length]
  | rejected known invalid =>
      exact absurd valid invalid
  | waiting unknown asked =>
      exact ledger.wait steps calls (List.append_nil _).symm .nil rfl
        (NetworkInterface.queued_enqueue _ hop dgram)
  | asking unknown unasked =>
      have tagged :
          Tagged hosts next.calls ⟨i, _⟩ none :=
        tagged_arpFrame faithful
          (NetworkInterface.arpRequest_supported _ hop) rfl rfl
          ethernetBroadcast
      exact ledger.wait steps calls rfl (.cons tagged .nil) rfl
        (NetworkInterface.queued_enqueue _ hop dgram)

/-- A message puts everything that waits for its sender on the wire. -/
theorem Ledger.learn
    (ledger : Ledger hosts segment tags pending)
    (faithful : Faithful hosts i (segment.interfaces i))
    (steps : Steps segment next i after)
    (calls : next.calls = segment.calls)
    {message : ARPMessage}
    {flushed : List InternetDatagram}
    {frames replies : List EthernetFrame}
    (supported : message.supported = true)
    (owned :
      Owned hosts message.senderIpAddress
        message.senderEthernetAddress)
    (learned :
      Learned message (segment.interfaces i) after flushed [] frames
        replies) :
    ∃ newTags newPending,
      Ledger hosts next (tags ++ newTags) newPending := by
  have wire := steps.wire
  rw [emitted_of_append learned.framesOut, List.map_append] at wire
  have waited := ledger.waiting i message.senderIpAddress
  rw [learned.waited, List.append_nil] at waited
  have moved :
      pending i message.senderIpAddress ++ [] =
        List.reduceOption
            ((pending i message.senderIpAddress).map some ++
              replies.map fun _ => none) ++ [] := by
    rw [List.map_const', List.reduceOption_append,
      List.reduceOption_replicate_none]
    simp [List.reduceOption, List.filterMap_map]
  have untouched :=
    steps.queued fun query other => by
      rw [learned.left query, if_neg other]
  refine ⟨_, _, ledger.move (calls.trans (List.append_nil _).symm) wire
    (fun _ member => (List.not_mem_nil member).elim) List.nodup_nil
    moved untouched ?_ (List.rel_append ?_ ?_)⟩
  · rw [steps.self, learned.left, if_pos rfl]
    exact .nil
  · have carried := learned.carried
    rw [faithful.ethernetAddress] at carried
    rw [calls]
    exact tagged_of_carried owned waited carried
  · rw [List.forall₂_map_left_iff, List.forall₂_map_right_iff,
      List.forall₂_same]
    intro reply member
    rcases learned.answered with none | answers
    · rw [none] at member
      cases member
    · rw [answers, NetworkInterface.answers] at member
      split at member
      · rw [List.mem_singleton.mp member]
        exact tagged_arpFrame faithful
          (NetworkInterface.arpReply_supported supported _) rfl rfl _
      · cases member

end Steps

end EthernetSegment

end Sponge
