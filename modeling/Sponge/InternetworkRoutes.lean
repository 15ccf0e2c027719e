import Mathlib.Algebra.BigOperators.Fin
import Mathlib.Algebra.Order.BigOperators.Group.List
import Sponge.InternetworkSound

namespace Sponge

/-!
# Datagrams follow their routes, once

Whatever frames are lost, delayed or reordered, every datagram that an interface
receives was sent by the owner of some node, has travelled along the routes of
the nodes on its way, is as many hops older as nodes have forwarded it, and has
not been duplicated: no two receptions share the sending and the number of hops.
Since every hop takes one from the time to live, routes that lead in circles
cannot keep a datagram going for ever.
-/

/-! ## Datagrams on their way -/

/-- A datagram that has been forwarded a number of times. -/
structure Aged
    (hops : Nat)
    (sent received : InternetDatagram) : Prop where
  header :
    ∃ cksum,
      received.header =
        { sent.header with ttl := received.header.ttl, cksum }
  ttl : received.header.ttl.toNat + hops = sent.header.ttl.toNat
  payload : received.payload.concatenate = sent.payload.concatenate

theorem Aged.dst
    {hops : Nat}
    {sent received : InternetDatagram}
    (aged : Aged hops sent received) :
    received.header.dst = sent.header.dst := by
  obtain ⟨cksum, header⟩ := aged.header
  rw [header]

theorem aged_of_same
    {sent received : InternetDatagram}
    (same : EthernetSegment.SameDatagram sent received) :
    Aged 0 sent received := by
  refine ⟨⟨received.header.cksum, ?_⟩, ?_, same.payload⟩
  · rw [same.header]
    rfl
  · rw [same.header]
    rfl

/-- One node forwards the datagram. -/
theorem Aged.forwarded
    {hops : Nat}
    {sent middle received : InternetDatagram}
    (aged : Aged hops sent middle)
    (alive : ¬ middle.header.ttl ≤ 1)
    (same :
      EthernetSegment.SameDatagram (Router.hopped middle) received) :
    Aged (hops + 1) sent received := by
  obtain ⟨cksum, header⟩ := aged.header
  have older : 1 ≤ middle.header.ttl :=
    Std.le_of_lt (UInt8.not_le.mp alive)
  have ttl : received.header.ttl = middle.header.ttl - 1 := by
    rw [same.header]
    rfl
  have positive := UInt8.le_iff_toNat_le.mp older
  have hopped :
      received.header =
        { middle.header with
          ttl := received.header.ttl
          cksum := received.header.cksum } := by
    rw [same.header]
    rfl
  refine ⟨⟨received.header.cksum, ?_⟩, ?_, ?_⟩
  · rw [header] at hopped
    exact hopped
  · have before := aged.ttl
    rw [ttl, UInt8.toNat_sub_of_le _ _ older]
    change 1 ≤ _ at positive
    change middle.header.ttl.toNat - 1 + (hops + 1) = _
    omega
  · exact same.payload.trans aged.payload

/-! ## Routes -/

namespace Internetwork

variable {ν σ : Type} {topology : Topology ν σ}

/-- The port that owns an address on a segment. -/
def Owns
    {s : σ}
    (hop : UInt32)
    (port : Port topology.attached s) : Prop :=
  ((topology.hosts s).ipAddress port).ipv4Numeric = hop

/--
The ports that a datagram for a destination visits, by the tables of the nodes,
when it is first sent on a segment to a next hop.
-/
inductive Travels
    (tables : ν → List Route)
    (dst : UInt32)
    (first : σ)
    (firstHop : UInt32) :
    Nat →
    (s : σ) →
    Port topology.attached s →
    Prop
  | sent
      {port : Port topology.attached first}
      (owns : Owns firstHop port) :
      Travels tables dst first firstHop 0 first port
  | forwarded
      {hops : Nat}
      {s t : σ}
      {port : Port topology.attached s}
      {next : Port topology.attached t}
      {route : Route}
      (travels : Travels tables dst first firstHop hops s port)
      (best : Router.BestRoute (tables port.1.1) dst route)
      (attached :
        (topology.attached port.1.1)[route.interfaceNum]? = some t)
      (owns :
        Owns
          (route.nextHop.getD { ipv4Numeric := dst }).ipv4Numeric next) :
      Travels tables dst first firstHop (hops + 1) t next

/--
A reception is of the datagram of another one, which the node that received it
has sent on by its best route.
-/
structure Forwarded
    (tables : ν → List Route)
    {s t : σ}
    (earlier : Receipt (Port topology.attached t))
    (receipt : Receipt (Port topology.attached s)) : Prop where
  aged : Aged 1 earlier.dgram receipt.dgram
  routed :
    ∃ route,
      Router.BestRoute (tables earlier.receiver.1.1)
          earlier.dgram.header.dst route ∧
        (topology.attached earlier.receiver.1.1)[route.interfaceNum]? =
          some s ∧
        Owns
          (route.nextHop.getD
            { ipv4Numeric := earlier.dgram.header.dst }).ipv4Numeric
          receipt.receiver

variable [DecidableEq ν]

/-! ## Receptions and the calls they come from -/

/-- How many datagrams a port had received before a receipt on its segment. -/
def rank
    (net : Internetwork topology)
    {s : σ}
    (port : Port topology.attached s)
    (k : Nat) : Nat :=
  Records.rank (·.receiver = port) (net.traffic s).receipts k

/-- The calls that the receipts on the segments come from, by their numbers. -/
structure Numbered
    (net : Internetwork topology)
    (numbers : σ → List Nat) : Prop where
  call :
    ∀ {s : σ} {m : Nat} {receipt : Receipt (Port topology.attached s)},
      (net.traffic s).receipts[m]? = some receipt →
      ∃ n call,
        (numbers s)[m]? = some n ∧
          (net.traffic s).calls[n]? = some call ∧
          Owns call.hop receipt.receiver ∧
          EthernetSegment.SameDatagram call.dgram receipt.dgram
  once : ∀ s, (numbers s).Nodup

theorem Sound.numbered
    {tables : ν → List Route}
    {net : Internetwork topology}
    (sound : Sound tables net) :
    ∃ numbers, Numbered net numbers := by
  choose tags pending numbers segments using sound.segments
  refine ⟨numbers, ?_, fun s => (segments s).once⟩
  intro s m receipt found
  obtain ⟨inReceipts, rfl⟩ := List.getElem?_eq_some_iff.mp found
  have inNumbers : m < (numbers s).length :=
    (segments s).accounted.length_eq ▸ inReceipts
  obtain ⟨sender, dgram, called, _, same⟩ :=
    ((segments s).accounted.get inReceipts inNumbers).asked
  exact ⟨_, _, List.getElem?_eq_getElem inNumbers, called, rfl, same⟩

/-! ## Journeys -/

/--
A receipt is the end of a journey: its datagram is that of a call by an owner,
after a number of hops.
-/
inductive Came
    (tables : ν → List Route)
    (net : Internetwork topology)
    (numbers : σ → List Nat)
    (number : Nat) :
    Nat →
    σ →
    Nat →
    Prop
  | sent
      {s : σ}
      {m n : Nat}
      {call : SendCall (Port topology.attached s)}
      (numbered : (numbers s)[m]? = some n)
      (origin : (net.traffic s).origins[n]? = some (.sent number))
      (called : (net.traffic s).calls[n]? = some call)
      (asked : net.sent[number]? = some ⟨s, call⟩) :
      Came tables net numbers number 0 s m
  | forwarded
      {hops : Nat}
      {s t : σ}
      {m n k : Nat}
      {call : SendCall (Port topology.attached s)}
      {earlier : Receipt (Port topology.attached t)}
      (came : Came tables net numbers number hops t k)
      (received : (net.traffic t).receipts[k]? = some earlier)
      (numbered : (numbers s)[m]? = some n)
      (origin :
        (net.traffic s).origins[n]? =
          some
            (.received earlier.receiver.1
              (net.rank earlier.receiver k)))
      (called : (net.traffic s).calls[n]? = some call)
      (relays : Relays tables earlier.receiver earlier.dgram call) :
      Came tables net numbers number (hops + 1) s m

section Journeys

variable {tables : ν → List Route} {net : Internetwork topology}
variable {numbers : σ → List Nat}

omit [DecidableEq ν] in
/-- What a node relays is forwarded to where it is received next. -/
theorem Relays.forwarded
    {s t : σ}
    {earlier : Receipt (Port topology.attached t)}
    {receipt : Receipt (Port topology.attached s)}
    {call : SendCall (Port topology.attached s)}
    (relays : Relays tables earlier.receiver earlier.dgram call)
    (owns : Owns call.hop receipt.receiver)
    (same : EthernetSegment.SameDatagram call.dgram receipt.dgram) :
    Forwarded tables earlier receipt := by
  have unchanged : Aged 0 earlier.dgram earlier.dgram :=
    ⟨⟨_, rfl⟩, rfl, rfl⟩
  obtain ⟨route, chosen, sender, hop⟩ := relays.route
  have attached := call.sender.2
  rw [sender] at attached
  rw [hop] at owns
  exact ⟨unchanged.forwarded relays.alive (relays.dgram ▸ same),
    route, Router.bestRoute_of_chosen chosen, attached, owns⟩

/-- The sending and the number of hops tell journeys apart. -/
theorem Came.unique
    (sound : Sound tables net)
    (numbered : Numbered net numbers)
    {number hops : Nat}
    {s t : σ}
    {m k : Nat}
    (first : Came tables net numbers number hops s m)
    (second : Came tables net numbers number hops t k) :
    s = t ∧ m = k := by
  -- calls of one origin are one call, which is received once
  have together :
      ∀ {s t : σ} {m k n l : Nat} {origin : Origin ν},
        (numbers s)[m]? = some n →
        (numbers t)[k]? = some l →
        (net.traffic s).origins[n]? = some origin →
        (net.traffic t).origins[l]? = some origin →
        s = t ∧ m = k := by
    intro s t m k n l origin atM atK atN atL
    obtain ⟨rfl, rfl⟩ := sound.distinct atN atL
    have inside := (List.getElem?_eq_some_iff.mp atM).1
    exact ⟨rfl,
      (List.getElem?_inj inside (numbered.once s)).mp
        (atM.trans atK.symm)⟩
  induction first generalizing t k with
  | sent atM origin _ _ =>
      cases second with
      | sent atK again _ _ => exact together atM atK origin again
  | forwarded _ received atM origin _ _ inductionHypothesis =>
      cases second with
      | forwarded came again atK repeated _ _ =>
          obtain ⟨rfl, rfl⟩ := inductionHypothesis came
          obtain rfl := Option.some.inj (received.symm.trans again)
          exact together atM atK origin repeated

/-- A journey of some hops goes on from a reception with one hop less. -/
theorem Came.earlier
    (numbered : Numbered net numbers)
    {number hops : Nat}
    {s : σ}
    {m : Nat}
    {receipt : Receipt (Port topology.attached s)}
    (came : Came tables net numbers number (hops + 1) s m)
    (found : (net.traffic s).receipts[m]? = some receipt) :
    ∃ (t : σ) (k : Nat) (earlier : Receipt (Port topology.attached t)),
      (net.traffic t).receipts[k]? = some earlier ∧
        Came tables net numbers number hops t k ∧
        Forwarded tables earlier receipt := by
  cases came with
  | forwarded came received atM origin called relays =>
      obtain ⟨n, call, again, calledToo, owns, same⟩ :=
        numbered.call found
      obtain rfl := Option.some.inj (atM.symm.trans again)
      obtain rfl := Option.some.inj (called.symm.trans calledToo)
      exact ⟨_, _, _, received, came, relays.forwarded owns same⟩

/-- A journey follows the routes, and the datagram ages by its hops. -/
theorem Came.travels
    (numbered : Numbered net numbers)
    {number hops : Nat}
    {s : σ}
    {m : Nat}
    {receipt : Receipt (Port topology.attached s)}
    (came : Came tables net numbers number hops s m)
    (found : (net.traffic s).receipts[m]? = some receipt) :
    ∃ first call,
      net.sent[number]? = some ⟨first, call⟩ ∧
        Travels tables call.dgram.header.dst first call.hop hops s
          receipt.receiver ∧
        Aged hops call.dgram receipt.dgram := by
  induction came with
  | sent atM origin called asked =>
      obtain ⟨n, call, again, calledToo, owns, same⟩ :=
        numbered.call found
      obtain rfl := Option.some.inj (atM.symm.trans again)
      obtain rfl := Option.some.inj (called.symm.trans calledToo)
      exact ⟨_, _, asked, .sent owns, aged_of_same same⟩
  | forwarded came received atM origin called relays inductionHypothesis =>
      obtain ⟨n, call, again, calledToo, owns, same⟩ :=
        numbered.call found
      obtain rfl := Option.some.inj (atM.symm.trans again)
      obtain rfl := Option.some.inj (called.symm.trans calledToo)
      obtain ⟨first, sent, asked, travels, aged⟩ :=
        inductionHypothesis received
      obtain ⟨route, best, attached, owned⟩ :=
        (relays.forwarded owns same).routed
      rw [aged.dst] at best owned
      exact ⟨first, sent, asked, travels.forwarded best attached owned,
        aged.forwarded relays.alive (relays.dgram ▸ same)⟩

end Journeys

/-- The call and the number of hops that every reception comes from. -/
structure Journeys
    (tables : ν → List Route)
    (net : Internetwork topology)
    (journey : σ → Nat → Nat × Nat) : Prop where
  travelled :
    ∀ s m receipt,
      (net.traffic s).receipts[m]? = some receipt →
      ∃ first call,
        net.sent[(journey s m).1]? = some ⟨first, call⟩ ∧
          Travels tables call.dgram.header.dst first call.hop
            (journey s m).2 s receipt.receiver ∧
          Aged (journey s m).2 call.dgram receipt.dgram
  forwarded :
    ∀ s m receipt hops,
      (net.traffic s).receipts[m]? = some receipt →
      (journey s m).2 = hops + 1 →
      ∃ (t : σ) (k : Nat)
          (earlier : Receipt (Port topology.attached t)),
        (net.traffic t).receipts[k]? = some earlier ∧
          journey t k = ((journey s m).1, hops) ∧
          Forwarded tables earlier receipt
  distinct :
    ∀ s t m k,
      m < (net.traffic s).receipts.length →
      k < (net.traffic t).receipts.length →
      journey s m = journey t k →
      s = t ∧ m = k

/-- How often the datagrams that were sent may be received, one after another. -/
def lifetimes (net : Internetwork topology) : List Nat :=
  net.sent.map fun sent => sent.2.dgram.header.ttl.toNat + 1

omit [DecidableEq ν] in
/-- A reception is within the lifetime of its call. -/
theorem Journeys.inside
    {tables : ν → List Route}
    {net : Internetwork topology}
    {journey : σ → Nat → Nat × Nat}
    (journeys : Journeys tables net journey)
    {s : σ}
    {m : Nat}
    (received : m < (net.traffic s).receipts.length) :
    (journey s m).1 < net.lifetimes.length ∧
      (journey s m).2 < net.lifetimes[(journey s m).1]?.getD 0 := by
  obtain ⟨first, call, sent, _, aged⟩ :=
    journeys.travelled s m _ (List.getElem?_eq_getElem received)
  have inside := (List.getElem?_eq_some_iff.mp sent).1
  have ttl := aged.ttl
  constructor
  · rw [lifetimes, List.length_map]
    exact inside
  · rw [lifetimes, List.getElem?_map, sent]
    change _ < call.dgram.header.ttl.toNat + 1
    omega

variable [DecidableEq σ]

end Internetwork

end Sponge
