import Sponge.Internetwork
import Sponge.Records

namespace Sponge

/-!
# Sound internetworks

Every call to send a datagram on a segment has an origin: the owner of a node
made it, or a node forwarded a datagram that one of its ports had received.  No
origin is used twice, and this survives every step.
-/

/-! ## Datagrams stay well formed -/

theorem EthernetSegment.SameDatagram.wellFormed
    {sent received : InternetDatagram}
    (same : SameDatagram sent received)
    (valid : sent.WellFormed) :
    received.WellFormed := by
  have header := same.header
  have size : received.payload.size = sent.payload.size := by
    rw [BufferList.size_eq_length, BufferList.size_eq_length,
      same.payload]
  constructor
  · rw [header]
    exact valid.version
  · rw [header]
    exact valid.minimal
  · rw [header]
    exact valid.maximal
  · rw [header]
    exact valid.offsetFits
  · rw [header, size]
    exact valid.total

theorem Router.hopped_wellFormed
    {dgram : InternetDatagram}
    (valid : dgram.WellFormed) :
    (hopped dgram).WellFormed :=
  ⟨valid.version, valid.minimal, valid.maximal, valid.offsetFits,
    valid.total⟩

namespace Internetwork

variable {ν σ : Type} {topology : Topology ν σ}

/-! ## The invariant -/

/-- A node forwards a datagram that one of its ports received. -/
structure Relays
    (tables : ν → List Route)
    {s t : σ}
    (port : Port topology.attached t)
    (dgram : InternetDatagram)
    (call : SendCall (Port topology.attached s)) : Prop where
  alive : ¬ dgram.header.ttl ≤ 1
  route :
    ∃ route,
      Router.chosen (tables port.1.1) dgram.header.dst = some route ∧
        call.sender.1 = (port.1.1, route.interfaceNum) ∧
        call.hop =
          (route.nextHop.getD
            { ipv4Numeric := dgram.header.dst }).ipv4Numeric
  dgram : call.dgram = Router.hopped dgram

variable [DecidableEq ν]

/-- What a port has received. -/
def receivedAt
    (net : Internetwork topology)
    {s : σ}
    (port : Port topology.attached s) : List InternetDatagram :=
  ((net.traffic s).receipts.filter (·.receiver = port)).map Receipt.dgram

omit [DecidableEq ν] in
/-- What a port has received and its node has not dealt with. -/
def queue
    (net : Internetwork topology)
    {s : σ}
    (port : Port topology.attached s) : List InternetDatagram :=
  (net.routers port.1.1).datagramsOut port.1.2

/-- A call to send has the origin that is recorded for it. -/
def Explained
    (tables : ν → List Route)
    (net : Internetwork topology)
    (s : σ)
    (call : SendCall (Port topology.attached s)) :
    Origin ν → Prop
  | .sent number => net.sent[number]? = some ⟨s, call⟩
  | .received port number =>
      number < net.taken port ∧
        ∃ (t : σ) (source : Port topology.attached t) (dgram : _),
          source.1 = port ∧
            (net.receivedAt source)[number]? = some dgram ∧
            Relays tables source dgram call

/-- An origin that no call has yet. -/
def Fresh
    (net : Internetwork topology) :
    Origin ν → Prop
  | .sent number => net.sent.length ≤ number
  | .received port number => net.taken port ≤ number

/-- Every segment is sound. -/
def SegmentsSound (net : Internetwork topology) : Prop :=
  ∀ s,
    ∃ tags pending origins,
      EthernetSegment.Sound (topology.hosts s) (net.segment s) tags
        pending origins

/-- The queues hold what was received last. -/
def QueuesKept (net : Internetwork topology) : Prop :=
  ∀ (s : σ) (port : Port topology.attached s),
    ∃ popped,
      net.receivedAt port = popped ++ net.queue port ∧
        popped.length = net.taken port.1

/-- The invariant of an internetwork. -/
structure Sound
    (tables : ν → List Route)
    (net : Internetwork topology) : Prop where
  table : ∀ node, (net.routers node).routerTable = tables node
  length :
    ∀ node,
      (net.routers node).interfaces.length =
        (topology.attached node).length
  segments : net.SegmentsSound
  kept : net.QueuesKept
  explained :
    ∀ s,
      List.Forall₂ (Explained tables net s) (net.traffic s).calls
        (net.traffic s).origins
  distinct :
    ∀ {s t : σ} {n m : Nat} {origin : Origin ν},
      (net.traffic s).origins[n]? = some origin →
      (net.traffic t).origins[m]? = some origin →
      s = t ∧ n = m

/-! ## Records only grow -/

/-- What is recorded in one internetwork is recorded in the other. -/
structure Grows (before after : Internetwork topology) : Prop where
  sent : before.sent <+: after.sent
  receipts :
    ∀ s, (before.traffic s).receipts <+: (after.traffic s).receipts
  taken : ∀ port, before.taken port ≤ after.taken port

section Growth

variable {tables : ν → List Route}
variable {before after : Internetwork topology}

theorem Grows.receivedAt
    (grows : Grows before after)
    {s : σ}
    (port : Port topology.attached s) :
    before.receivedAt port <+: after.receivedAt port :=
  ((grows.receipts s).filter _).map _

theorem Explained.grow
    (grows : Grows before after)
    {s : σ}
    {call : SendCall (Port topology.attached s)}
    {origin : Origin ν}
    (explained : Explained tables before s call origin) :
    Explained tables after s call origin := by
  cases origin with
  | sent number =>
      exact Records.getElem?_of_grown grows.sent explained
  | received port number =>
      obtain ⟨earlier, t, source, dgram, here, found, relays⟩ := explained
      exact ⟨earlier.trans_le (grows.taken port), t, source, dgram, here,
        Records.getElem?_of_grown (grows.receivedAt source) found,
        relays⟩

theorem Explained.not_fresh
    {s : σ}
    {call : SendCall (Port topology.attached s)}
    {origin : Origin ν}
    (explained : Explained tables before s call origin) :
    ¬ before.Fresh origin := by
  cases origin with
  | sent number =>
      have inside := (List.getElem?_eq_some_iff.mp explained).1
      exact Nat.not_le_of_lt inside
  | received port number =>
      exact Nat.not_le_of_lt explained.1

/-- The call that an origin is recorded for. -/
theorem Sound.call_of_origin
    (sound : Sound tables before)
    {s : σ}
    {n : Nat}
    {origin : Origin ν}
    (found : (before.traffic s).origins[n]? = some origin) :
    ∃ call,
      (before.traffic s).calls[n]? = some call ∧
        Explained tables before s call origin := by
  obtain ⟨inOrigins, rfl⟩ := List.getElem?_eq_some_iff.mp found
  have inCalls : n < (before.traffic s).calls.length :=
    (sound.explained s).length_eq ▸ inOrigins
  exact ⟨_, List.getElem?_eq_getElem inCalls,
    (sound.explained s).get inCalls inOrigins⟩

/-- What every step does, but for the calls it records. -/
structure Follows (before after : Internetwork topology) : Prop where
  grows : Grows before after
  table :
    ∀ node,
      (after.routers node).routerTable =
        (before.routers node).routerTable
  length :
    ∀ node,
      (after.routers node).interfaces.length =
        (before.routers node).interfaces.length
  segments : after.SegmentsSound
  kept : after.QueuesKept

/-- A step that records no call. -/
theorem Sound.quiet
    (sound : Sound tables before)
    (follows : Follows before after)
    (calls :
      ∀ t, (after.traffic t).calls = (before.traffic t).calls)
    (origins :
      ∀ t, (after.traffic t).origins = (before.traffic t).origins) :
    Sound tables after where
  table node := (follows.table node).trans (sound.table node)
  length node := (follows.length node).trans (sound.length node)
  segments := follows.segments
  kept := follows.kept
  explained t := by
    rw [calls, origins]
    exact (sound.explained t).imp fun _ _ => Explained.grow follows.grows
  distinct first second := by
    rw [origins] at first second
    exact sound.distinct first second

/-- A step that records one call, with an origin of its own. -/
theorem Sound.record
    [DecidableEq σ]
    (sound : Sound tables before)
    (follows : Follows before after)
    {s : σ}
    {call : SendCall (Port topology.attached s)}
    {origin : Origin ν}
    (fresh : before.Fresh origin)
    (explained : Explained tables after s call origin)
    (calls : (after.traffic s).calls = (before.traffic s).calls ++ [call])
    (origins :
      (after.traffic s).origins = (before.traffic s).origins ++ [origin])
    (others :
      ∀ t,
        t ≠ s →
        (after.traffic t).calls = (before.traffic t).calls ∧
          (after.traffic t).origins = (before.traffic t).origins) :
    Sound tables after where
  table node := (follows.table node).trans (sound.table node)
  length node := (follows.length node).trans (sound.length node)
  segments := follows.segments
  kept := follows.kept
  explained t := by
    have earlier :=
      (sound.explained t).imp fun _ _ => Explained.grow follows.grows
    by_cases here : t = s
    · subst here
      rw [calls, origins]
      exact List.rel_append earlier (.cons explained .nil)
    · rw [(others t here).1, (others t here).2]
      exact earlier
  distinct {t u n m found} first second := by
    have source :
        ∀ {v : σ} {k : Nat},
          (after.traffic v).origins[k]? = some found →
          (before.traffic v).origins[k]? = some found ∨
            v = s ∧ k = (before.traffic s).origins.length ∧
              found = origin := by
      intro v k atK
      by_cases here : v = s
      · subst here
        rw [origins] at atK
        exact (Records.getElem?_concat_cases atK).imp_right
          fun last => ⟨rfl, last⟩
      · rw [(others v here).2] at atK
        exact .inl atK
    have unseen :
        ∀ {v : σ} {k : Nat},
          (before.traffic v).origins[k]? ≠ some origin := by
      intro v k atK
      obtain ⟨_, _, known⟩ := sound.call_of_origin atK
      exact known.not_fresh fresh
    rcases source first, source second with
      ⟨old | ⟨rfl, rfl, rfl⟩, old' | ⟨rfl, rfl, new⟩⟩
    · exact sound.distinct old old'
    · exact absurd (new ▸ old) unseen
    · exact absurd old' unseen
    · exact ⟨rfl, rfl⟩

end Growth

/-! ## What an update leaves as it is -/

omit [DecidableEq ν] in
/-- A port is attached to one segment. -/
theorem segment_of_port
    {s t : σ}
    {port : Port topology.attached s}
    {query : Port topology.attached t}
    (same : query.1 = port.1) :
    t = s := by
  have attached := query.2
  rw [same] at attached
  exact Option.some.inj (attached.symm.trans port.2)

section Routers

variable {net after : Internetwork topology} {node : ν} {router : Router}

theorem router_update
    (routers : after.routers = Function.update net.routers node router)
    {α : Type}
    (f : Router → α)
    (same : f router = f (net.routers node))
    (query : ν) :
    f (after.routers query) = f (net.routers query) := by
  rw [routers]
  by_cases here : query = node
  · rw [here, Function.update_self, same]
  · rw [Function.update_of_ne here]

theorem queue_update_of_ne
    (routers : after.routers = Function.update net.routers node router)
    {s t : σ}
    {popped : Port topology.attached s}
    {query : Port topology.attached t}
    (atNode : popped.1.1 = node)
    (others :
      ∀ j,
        j ≠ popped.1.2 →
        router.datagramsOut j = (net.routers node).datagramsOut j)
    (elsewhere : query.1 ≠ popped.1) :
    after.queue query = net.queue query := by
  rw [queue, queue, routers]
  by_cases here : query.1.1 = node
  · have other : query.1.2 ≠ popped.1.2 := fun same =>
      elsewhere (Prod.ext (here.trans atNode.symm) same)
    rw [here, Function.update_self, others _ other]
  · rw [Function.update_of_ne here]

theorem queue_update_self
    (routers : after.routers = Function.update net.routers node router)
    {s : σ}
    {popped : Port topology.attached s}
    (atNode : popped.1.1 = node) :
    after.queue popped = router.datagramsOut popped.1.2 := by
  rw [queue, routers, atNode, Function.update_self]

end Routers

variable [DecidableEq σ]

section Update

variable {net : Internetwork topology} {s : σ}
variable {port : Port topology.attached s} {router : Router}
variable {record :
  Traffic ν (Port topology.attached s) →
  Traffic ν (Port topology.attached s)}

theorem traffic_update_self :
    ∃ wire,
      (net.update port router record).traffic s =
        { record (net.traffic s) with wire } :=
  ⟨_, Function.update_self s _ _⟩

theorem traffic_update_of_ne
    {t : σ}
    (elsewhere : t ≠ s) :
    (net.update port router record).traffic t = net.traffic t :=
  Function.update_of_ne elsewhere _ _

/-- What does not depend on the wire of a segment that only hears frames. -/
theorem traffic_update
    {α : σ → Type}
    (f : (t : σ) → Traffic ν (Port topology.attached t) → α t)
    (same :
      ∀ wire,
        f s { record (net.traffic s) with wire } = f s (net.traffic s))
    (t : σ) :
    f t ((net.update port router record).traffic t) =
      f t (net.traffic t) := by
  by_cases here : t = s
  · subst here
    obtain ⟨wire, changed⟩ :=
      @traffic_update_self _ _ _ _ _ net t port router record
    rw [changed, same]
  · rw [traffic_update_of_ne here]

end Update

/-! ## Steps -/

section Steps

variable {tables : ν → List Route}
variable {net after : Internetwork topology} {s : σ}
variable {port : Port topology.attached s}

omit [DecidableEq σ] in
theorem Sound.inside
    (sound : Sound tables net)
    (port : Port topology.attached s) :
    port.1.2 < (net.routers port.1.1).interfaces.length := by
  rw [sound.length]
  exact (List.getElem?_eq_some_iff.mp port.2).1

omit [DecidableEq σ] in
theorem Sound.interface_at
    (sound : Sound tables net)
    (port : Port topology.attached s) :
    ∃ interface,
      (net.routers port.1.1).interfaces[port.1.2]? = some interface ∧
        net.interface port = interface.toNetworkInterface := by
  obtain ⟨interface, found⟩ :=
    Router.exists_interface (sound.inside port)
  refine ⟨interface, found, ?_⟩
  rw [Internetwork.interface, Router.networkInterface, found]
  rfl

omit [DecidableEq σ] in
/-- Whatever is received is well formed. -/
theorem Sound.wellFormed_of_received
    (sound : Sound tables net)
    {dgram : InternetDatagram}
    (received : dgram ∈ net.receivedAt port) :
    dgram.WellFormed := by
  obtain ⟨receipt, kept, rfl⟩ := List.mem_map.mp received
  have member := List.mem_of_mem_filter kept
  obtain ⟨tags, pending, origins, segment⟩ := sound.segments s
  obtain ⟨m, atM⟩ := List.getElem?_of_mem member
  obtain ⟨inReceipts, rfl⟩ := List.getElem?_eq_some_iff.mp atM
  have inOrigins : m < origins.length :=
    segment.accounted.length_eq ▸ inReceipts
  obtain ⟨sender, sent, called, _, same⟩ :=
    (segment.accounted.get inReceipts inOrigins).asked
  exact same.wellFormed
    (segment.valid _ (List.mem_of_getElem? called))

/-- One interface performs a call, and its segment stays sound. -/
theorem Sound.segments_update
    (sound : Sound tables net)
    {router : Router}
    {op : NetworkInterface.Op}
    (performs :
      Router.Performs port.1.2 op (net.routers port.1.1) router)
    {record :
      Traffic ν (Port topology.attached s) →
      Traffic ν (Port topology.attached s)}
    (silent : (record (net.traffic s)).wire = (net.traffic s).wire)
    (here :
      ∃ tags pending origins,
        EthernetSegment.Sound (topology.hosts s)
          { (net.segment s).perform port op with
            calls := (record (net.traffic s)).calls
            delivered := (record (net.traffic s)).delivered
            receipts := (record (net.traffic s)).receipts }
          tags pending origins) :
    (net.update port router record).SegmentsSound := by
  obtain ⟨interface, found, same⟩ := sound.interface_at port
  have exists_ :
      (net.routers port.1.1).networkInterface port.1.2 =
        some (net.interface port) := by
    rw [Router.networkInterface, found, same]
    rfl
  intro t
  by_cases onSegment : t = s
  · subst onSegment
    rw [segment_update_self performs exists_ silent]
    exact here
  · rw [segment_update_of_ne performs.others onSegment]
    exact sound.segments t

omit [DecidableEq σ] in
/-- A step that neither receives nor takes a datagram. -/
theorem Sound.kept_of_same
    (sound : Sound tables net)
    (queues :
      ∀ {t} (query : Port topology.attached t),
        after.queue query = net.queue query)
    (receipts :
      ∀ t, (after.traffic t).receipts = (net.traffic t).receipts)
    (taken : after.taken = net.taken) :
    after.QueuesKept := by
  intro t query
  rw [receivedAt, receipts, queues, taken]
  exact sound.kept _ query

omit [DecidableEq σ] in
/-- A step that takes the front of a queue. -/
theorem Sound.kept_of_pop
    (sound : Sound tables net)
    {dgram : InternetDatagram}
    (front : net.queue port = dgram :: after.queue port)
    (queues :
      ∀ {t} (query : Port topology.attached t),
        query.1 ≠ port.1 →
        after.queue query = net.queue query)
    (receipts :
      ∀ t, (after.traffic t).receipts = (net.traffic t).receipts)
    (taken :
      after.taken =
        Function.update net.taken port.1 (net.taken port.1 + 1)) :
    after.QueuesKept := by
  intro t query
  rw [receivedAt, receipts, taken]
  by_cases here : query.1 = port.1
  · obtain rfl := segment_of_port here
    obtain rfl : query = port := Subtype.ext here
    obtain ⟨popped, split, count⟩ := sound.kept _ query
    refine ⟨popped ++ [dgram], ?_, ?_⟩
    · rw [List.append_assoc, List.singleton_append, ← front]
      exact split
    · rw [Function.update_self, List.length_append, count]
      rfl
  · rw [Function.update_of_ne here, queues query here]
    exact sound.kept _ query

/-- A step that receives datagrams at one port. -/
theorem Sound.kept_of_receive
    (sound : Sound tables net)
    {result : List InternetDatagram}
    (appended : after.queue port = net.queue port ++ result)
    (queues :
      ∀ {t} (query : Port topology.attached t),
        query.1 ≠ port.1 →
        after.queue query = net.queue query)
    (self :
      (after.traffic s).receipts =
        (net.traffic s).receipts ++ result.map (Receipt.mk port))
    (others :
      ∀ t,
        t ≠ s →
        (after.traffic t).receipts = (net.traffic t).receipts)
    (taken : after.taken = net.taken) :
    after.QueuesKept := by
  intro t query
  obtain ⟨popped, split, count⟩ := sound.kept _ query
  rw [taken]
  refine ⟨popped, ?_, count⟩
  by_cases here : query.1 = port.1
  · obtain rfl := segment_of_port here
    obtain rfl : query = port := Subtype.ext here
    rw [appended, ← List.append_assoc, ← split, receivedAt, self]
    simp [receivedAt, List.filter_map, Function.comp_def]
  · rw [queues query here, ← split]
    by_cases onSegment : t = s
    · subst onSegment
      have apart : port ≠ query := fun same => here (same ▸ rfl)
      rw [receivedAt, self]
      simp [receivedAt, List.filter_map, Function.comp_def, apart]
    · rw [receivedAt, others t onSegment]
      rfl

omit [DecidableEq σ] in
/-- The front of a queue is the next to be taken of what was received. -/
theorem Sound.received_of_front
    (sound : Sound tables net)
    {dgram : InternetDatagram}
    {rest : List InternetDatagram}
    (front : net.queue port = dgram :: rest) :
    (net.receivedAt port)[net.taken port.1]? = some dgram := by
  obtain ⟨popped, split, count⟩ := sound.kept _ port
  rw [split, front, ← count, List.getElem?_append_right (Nat.le_refl _),
    Nat.sub_self]
  rfl

/-- A node changes, but for its table and its interfaces. -/
theorem follows_update
    {router : Router}
    {record :
      Traffic ν (Port topology.attached s) →
      Traffic ν (Port topology.attached s)}
    (routers :
      after.routers =
        Function.update net.routers port.1.1 router)
    (traffic : after.traffic = (net.update port router record).traffic)
    (sent : net.sent <+: after.sent)
    (taken : ∀ query, net.taken query ≤ after.taken query)
    (table :
      router.routerTable = (net.routers port.1.1).routerTable)
    (length :
      router.interfaces.length =
        (net.routers port.1.1).interfaces.length)
    (receipts :
      (net.traffic s).receipts <+: (record (net.traffic s)).receipts)
    (segments : after.SegmentsSound)
    (kept : after.QueuesKept) :
    Follows net after where
  grows := {
    sent
    receipts t := by
      rw [traffic]
      by_cases here : t = s
      · subst here
        obtain ⟨wire, self⟩ :=
          @traffic_update_self _ _ _ _ _ net t port router record
        rw [self]
        exact receipts
      · exact ⟨[], by rw [traffic_update_of_ne here, List.append_nil]⟩
    taken
  }
  table := router_update routers Router.routerTable table
  length := router_update routers (·.interfaces.length) length
  segments
  kept

/-- One call to send is recorded. -/
theorem Sound.record_asked
    (sound : Sound tables net)
    (follows : Follows net after)
    {router : Router}
    {call : SendCall (Port topology.attached s)}
    {origin : Origin ν}
    (traffic :
      after.traffic =
        (net.update port router (asked call origin)).traffic)
    (fresh : net.Fresh origin)
    (explained : Explained tables after s call origin) :
    Sound tables after := by
  obtain ⟨wire, self⟩ :=
    @traffic_update_self _ _ _ _ _ net s port router (asked call origin)
  rw [← traffic] at self
  refine sound.record follows fresh explained
    (congrArg Traffic.calls self) (congrArg Traffic.origins self) ?_
  intro t elsewhere
  rw [traffic, traffic_update_of_ne elsewhere]
  exact ⟨rfl, rfl⟩

theorem Sound.send
    (sound : Sound tables net)
    (port : Port topology.attached s)
    {dgram : InternetDatagram}
    (valid : dgram.WellFormed)
    (nextHop : Address) :
    Sound tables (net.step (.send port dgram nextHop)) := by
  obtain ⟨performs, queues⟩ :=
    Router.performs_send (sound.inside port) dgram nextHop
  have segments : (net.step (.send port dgram nextHop)).SegmentsSound := by
    refine sound.segments_update performs rfl ?_
    obtain ⟨_, _, _, segment⟩ := sound.segments s
    exact segment.send valid nextHop
  have kept : (net.step (.send port dgram nextHop)).QueuesKept :=
    sound.kept_of_same
      (fun query =>
        router_update rfl (·.datagramsOut query.1.2) (queues query.1.2)
          query.1.1)
      (traffic_update (fun _ => Traffic.receipts) fun _ => rfl) rfl
  have follows : Follows net (net.step (.send port dgram nextHop)) :=
    follows_update rfl rfl (List.prefix_append _ _)
      (fun _ => Nat.le_refl _) performs.routerTable performs.length
      List.prefix_rfl segments kept
  exact sound.record_asked follows rfl (Nat.le_refl net.sent.length)
    List.getElem?_concat_length

theorem Sound.tick
    (sound : Sound tables net)
    (port : Port topology.attached s)
    (ms : Nat) :
    Sound tables (net.step (.tick port ms)) := by
  obtain ⟨interface, found, _⟩ := sound.interface_at port
  obtain ⟨performs, queues⟩ := Router.performs_tick found ms
  have segments : (net.step (.tick port ms)).SegmentsSound := by
    refine sound.segments_update performs rfl ?_
    obtain ⟨_, _, _, segment⟩ := sound.segments s
    exact segment.tick port ms
  have kept : (net.step (.tick port ms)).QueuesKept :=
    sound.kept_of_same
      (fun query =>
        router_update rfl (·.datagramsOut query.1.2) (queues query.1.2)
          query.1.1)
      (traffic_update (fun _ => Traffic.receipts) fun _ => rfl) rfl
  have follows : Follows net (net.step (.tick port ms)) :=
    follows_update rfl rfl List.prefix_rfl (fun _ => Nat.le_refl _)
      performs.routerTable performs.length List.prefix_rfl segments kept
  exact sound.quiet follows
    (traffic_update (fun _ => Traffic.calls) fun _ => rfl)
    (traffic_update (fun _ => Traffic.origins) fun _ => rfl)

theorem Sound.deliver
    (sound : Sound tables net)
    {k : Nat}
    (allowed : net.Allowed (.deliver s k port)) :
    Sound tables (net.step (.deliver s k port)) := by
  obtain ⟨packet, onWire, other, unseen⟩ := allowed
  obtain ⟨interface, found, here⟩ := sound.interface_at port
  obtain ⟨performs, queues⟩ :=
    Router.performs_recvFrame found packet.frame
  have atK : (net.traffic s).wire[k]? = some packet := onWire
  have stepped :
      net.step (.deliver s k port) =
        net.update port
          ((net.routers port.1.1).step
            (.recvFrame port.1.2 packet.frame))
          fun traffic =>
            { traffic with
              delivered := traffic.delivered ++ [(k, port)]
              receipts :=
                traffic.receipts ++
                  (returned
                    ((net.interface port).recvFrame
                      packet.frame)).join.toList.map
                        (Receipt.mk port) } := by
    simp only [step, atK]
  have segments : (net.step (.deliver s k port)).SegmentsSound := by
    rw [stepped]
    refine sound.segments_update performs rfl ?_
    obtain ⟨_, _, _, segment⟩ := sound.segments s
    have next := segment.deliver ⟨packet, onWire, other, unseen⟩
    simp only [EthernetSegment.step, Option.mem_def.mp onWire] at next
    exact next
  have kept : (net.step (.deliver s k port)).QueuesKept := by
    rw [stepped]
    refine sound.kept_of_receive
      ((queue_update_self rfl rfl).trans ((queues _).trans (if_pos rfl))) ?_
      ?_ ?_ rfl
    · intro t query elsewhere
      refine queue_update_of_ne rfl rfl (fun j different => ?_) elsewhere
      rw [queues, if_neg different]
    · exact traffic_update_self.elim fun _ self =>
        (congrArg Traffic.receipts self).trans (by rw [here])
    · intro t elsewhere
      rw [traffic_update_of_ne elsewhere]
  have follows : Follows net (net.step (.deliver s k port)) := by
    refine follows_update (congrArg routers stepped)
      (congrArg traffic stepped) ?_ ?_ performs.routerTable
      performs.length (List.prefix_append _ _) segments kept
    · rw [stepped]
      exact List.prefix_rfl
    · rw [stepped]
      exact fun _ => Nat.le_refl _
  refine sound.quiet follows ?_ ?_
  · rw [stepped]
    exact traffic_update (fun _ => Traffic.calls) fun _ => rfl
  · rw [stepped]
    exact traffic_update (fun _ => Traffic.origins) fun _ => rfl

omit [DecidableEq σ] in
theorem taken_le_pop
    (port query : ν × Nat) :
    net.taken query ≤ (net.pop port).taken query := by
  change
    net.taken query ≤
      Function.update net.taken port (net.taken port + 1) query
  by_cases here : query = port
  · rw [here, Function.update_self]
    exact Nat.le_succ _
  · rw [Function.update_of_ne here]

/-- The front of a queue is dropped or taken by the owner of the node. -/
theorem Sound.pop
    (sound : Sound tables net)
    {dgram : InternetDatagram}
    {rest : List InternetDatagram}
    (front : net.queue port = dgram :: rest) :
    Sound tables
      ((net.update port
        ((net.routers port.1.1).setDatagramsOut port.1.2 rest) id).pop
          port.1) := by
  have queues :=
    Router.datagramsOut_setDatagramsOut (sound.inside port) rest
  have popped :
      ((net.update port
        ((net.routers port.1.1).setDatagramsOut port.1.2 rest) id).pop
          port.1).queue port = rest :=
    (queue_update_self rfl rfl).trans ((queues _).trans (if_pos rfl))
  have segments :
      ((net.update port
        ((net.routers port.1.1).setDatagramsOut port.1.2 rest) id).pop
          port.1).SegmentsSound := by
    intro t
    have same :=
      segment_update_of_same
        (Router.networkInterface_setDatagramsOut (net.routers port.1.1)
          port.1.2 rest) t
    obtain ⟨tags, pending, origins, segment⟩ := sound.segments t
    exact ⟨tags, pending, origins, same.symm ▸ segment⟩
  refine sound.quiet
    (follows_update rfl rfl List.prefix_rfl ?_ rfl
      (List.length_modify _ _ _) List.prefix_rfl segments ?_)
    (traffic_update (fun _ => Traffic.calls) fun _ => rfl)
    (traffic_update (fun _ => Traffic.origins) fun _ => rfl)
  · exact taken_le_pop port.1
  · refine sound.kept_of_pop
      (front.trans (congrArg (dgram :: ·) popped.symm)) ?_
      (traffic_update (fun _ => Traffic.receipts) fun _ => rfl) rfl
    intro t query elsewhere
    refine queue_update_of_ne rfl rfl (fun j different => ?_) elsewhere
    rw [queues, if_neg different]

/-- The front of a queue is sent on, out of a port of the same node. -/
theorem Sound.relay
    (sound : Sound tables net)
    {dgram : InternetDatagram}
    {rest : List InternetDatagram}
    {route : Route}
    {t : σ}
    {out : Port topology.attached t}
    (front : net.queue port = dgram :: rest)
    (alive : ¬ dgram.header.ttl ≤ 1)
    (chosen :
      Router.chosen (net.routers port.1.1).routerTable
        dgram.header.dst = some route)
    (outAt : out.1 = (port.1.1, route.interfaceNum)) :
    let nextHop := route.nextHop.getD { ipv4Numeric := dgram.header.dst }
    Sound tables
      (net.relay port
        (finalState ((net.routers port.1.1).forward port.1.2))
        ⟨out, nextHop.ipv4Numeric, Router.hopped dgram⟩) := by
  intro nextHop
  obtain ⟨⟨_, _⟩, attached⟩ := out
  cases outAt
  let call : SendCall (Port topology.attached t) :=
    ⟨⟨_, attached⟩, nextHop.ipv4Numeric, Router.hopped dgram⟩
  have received := sound.received_of_front front
  have valid : (Router.hopped dgram).WellFormed :=
    Router.hopped_wellFormed
      (sound.wellFormed_of_received (List.mem_of_getElem? received))
  obtain ⟨interface, found, _⟩ := sound.interface_at call.sender
  obtain ⟨router, forwarded, performs, queues⟩ :=
    Router.forward_sends front alive chosen found valid.serializable
  rw [forwarded]
  change Sound tables (net.relay port router call)
  have receipts :
      ∀ u,
        ((net.relay port router call).traffic u).receipts =
          (net.traffic u).receipts :=
    traffic_update (fun _ => Traffic.receipts) fun _ => rfl
  have segments : (net.relay port router call).SegmentsSound := by
    refine sound.segments_update performs rfl ?_
    obtain ⟨_, _, _, segment⟩ := sound.segments t
    exact segment.send valid nextHop
  have popped : (net.relay port router call).queue port = rest :=
    (queue_update_self rfl rfl).trans ((queues _).trans (if_pos rfl))
  have kept : (net.relay port router call).QueuesKept := by
    refine sound.kept_of_pop
      (front.trans (congrArg (dgram :: ·) popped.symm)) ?_ receipts rfl
    intro u query elsewhere
    refine queue_update_of_ne rfl rfl (fun j different => ?_) elsewhere
    rw [queues, if_neg different]
  have follows : Follows net (net.relay port router call) :=
    @follows_update _ _ _ _ _ net _ t call.sender router _ rfl rfl
      List.prefix_rfl (taken_le_pop port.1) performs.routerTable
      performs.length List.prefix_rfl segments kept
  refine sound.record_asked follows rfl (Nat.le_refl _) ⟨?_, ?_⟩
  · change _ < Function.update net.taken port.1 _ port.1
    rw [Function.update_self]
    exact Nat.lt_succ_self _
  · refine ⟨s, port, dgram, rfl, ?_, alive, ⟨route, ?_, rfl, rfl⟩, rfl⟩
    · rw [receivedAt, receipts]
      exact received
    · rw [← sound.table]
      exact chosen

end Steps

section Runs

variable {tables : ν → List Route} {net : Internetwork topology}

omit [DecidableEq ν] in
/-- Routes lead out of interfaces that the nodes have. -/
def ValidRoutes
    (topology : Topology ν σ)
    (tables : ν → List Route) : Prop :=
  ∀ node,
    ∀ route ∈ tables node,
      route.interfaceNum < (topology.attached node).length

theorem Sound.forward
    (sound : Sound tables net)
    (valid : ValidRoutes topology tables)
    {s : σ}
    (port : Port topology.attached s) :
    Sound tables (net.step (.forward port)) := by
  cases front : net.queue port with
  | nil =>
      have nothing : net.step (.forward port) = net := by
        rw [queue] at front
        simp only [Internetwork.step, front]
      rw [nothing]
      exact sound
  | cons dgram rest =>
      have atFront :
          (net.routers port.1.1).datagramsOut port.1.2 =
            dgram :: rest :=
        front
      by_cases expired : dgram.header.ttl ≤ 1
      · have dropped := Router.forward_drops atFront (.inl expired)
        simp only [Internetwork.step, atFront, if_pos expired, dropped]
        exact sound.pop front
      cases chosen :
          Router.chosen (net.routers port.1.1).routerTable
            dgram.header.dst with
      | none =>
          have dropped := Router.forward_drops atFront (.inr chosen)
          simp only [Internetwork.step, atFront, if_neg expired, chosen,
            dropped]
          exact sound.pop front
      | some route =>
          have member := (Router.bestRoute_of_chosen chosen).mem
          rw [sound.table] at member
          let out : Port topology.attached _ :=
            ⟨(port.1.1, route.interfaceNum),
              List.getElem?_eq_getElem (valid _ route member)⟩
          have found :
              topology.portAt port.1.1 route.interfaceNum =
                some ⟨_, out⟩ :=
            Topology.portAt_self out
          simp only [Internetwork.step, atFront, if_neg expired, chosen,
            found]
          exact @Sound.relay _ _ _ _ _ _ _ _ _ sound _ _ _ _ out front
            expired chosen rfl

theorem Sound.step
    (sound : Sound tables net)
    (valid : ValidRoutes topology tables)
    {op : Op topology}
    (allowed : net.Allowed op) :
    Sound tables (net.step op) := by
  cases op with
  | send port dgram nextHop => exact sound.send port allowed nextHop
  | deliver s k port => exact sound.deliver allowed
  | tick port ms => exact sound.tick port ms
  | forward port => exact sound.forward valid port
  | take port =>
      cases front : (net.routers port.1.1).datagramsOut port.1.2 with
      | nil =>
          have nothing : net.step (.take port) = net := by
            simp only [Internetwork.step, front]
          rw [nothing]
          exact sound
      | cons dgram rest =>
          have popped := sound.pop front
          simp only [Internetwork.step, front]
          exact popped

omit [DecidableEq σ] in
theorem sound_start
    (topology : Topology ν σ)
    (tables : ν → List Route) :
    Sound tables (start topology tables) where
  table _ := rfl
  length _ := List.length_ofFn
  segments s := by
    rw [segment_start]
    exact ⟨_, _, _, EthernetSegment.sound_start (topology.hosts s)⟩
  kept s port := by
    refine ⟨[], ?_, rfl⟩
    rw [queue, Router.datagramsOut, start_interface]
    rfl
  explained _ := .nil
  distinct first := by cases first

end Runs

end Internetwork

end Sponge
