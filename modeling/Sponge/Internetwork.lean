import Sponge.EthernetDelivery
import Sponge.RouterPrefixMatch
import Sponge.RouterRun

namespace Sponge

/-!
# Internetworks

Nodes have interfaces on Ethernet segments.  A node may send datagrams of its
own, route what its interfaces receive and take what it receives for itself, so
hosts and routers are nodes that do some of this.  Seen from one segment, every
step of an internetwork is a step of that segment or nothing.
-/

/-! ## One datagram at a time -/

namespace Router

/-- The owner of a node sends a datagram on one of its interfaces. -/
def send
    (i : Nat)
    (dgram : InternetDatagram)
    (nextHop : Address)
    (router : Router) : EStateM.Result StdException Router Unit :=
  match router.interfaces[i]? with
  | none => .error (.outOfRange "vector::at") router
  | some interface =>
      match interface.toNetworkInterface.sendDatagram dgram nextHop with
      | .error thrown after =>
          .error thrown
            (router.setInterface i
              { interface with toNetworkInterface := after })
      | .ok _ after =>
          .ok ()
            (router.setInterface i
              { interface with toNetworkInterface := after })

/-- One round of the inner loop of `route`, after which other nodes may act. -/
def forward
    (i : Nat)
    (router : Router) : EStateM.Result StdException Router Unit :=
  Execution.iterate (drainRound i) (.ok ()) 1 router

/-- The route for a destination. -/
def chosen
    (routerTable : List Route)
    (dst : UInt32) : Option Route :=
  (longestPrefix dst routerTable).bind fun index => routerTable[index]?

/--
The route by which a datagram for a destination leaves: the last of the longest
that match.  If no prefix is longer than an address, those are the routes whose
leading bits agree with the destination.
-/
structure BestRoute
    (routerTable : List Route)
    (dst : UInt32)
    (route : Route) : Prop where
  matching :
    LastMaximal (Route.Matches · dst)
      (fun route => route.prefixLength.toNat) routerTable route
  agreeing :
    (∀ other ∈ routerTable, other.prefixLength ≤ 32) →
    LastMaximal (Route.Agrees · dst)
      (fun route => route.prefixLength.toNat) routerTable route

/-- The search finds the best route. -/
theorem bestRoute_of_chosen
    {routerTable : List Route}
    {dst : UInt32}
    {route : Route}
    (found : chosen routerTable dst = some route) :
    BestRoute routerTable dst route := by
  obtain ⟨index, search, entry⟩ := Option.bind_eq_some_iff.mp found
  obtain ⟨known, atIndex, agrees⟩ := longestPrefix_eq_some search
  obtain ⟨position, best, again, atPosition, maximal⟩ :=
    longestPrefix_of_match ⟨known, List.mem_of_getElem? atIndex, agrees⟩
  obtain rfl := Option.some.inj (search.symm.trans again)
  obtain rfl := Option.some.inj (entry.symm.trans atPosition)
  exact ⟨maximal, fun short =>
    maximal.congr fun other member =>
      Route.matches_iff_agrees (short other member) dst⟩

/-- The best route is in the table. -/
theorem BestRoute.mem
    {routerTable : List Route}
    {dst : UInt32}
    {route : Route}
    (best : BestRoute routerTable dst route) :
    route ∈ routerTable :=
  LastMaximal.mem best.matching

/-- The interface with a number, without what it keeps for its owner. -/
def networkInterface
    (router : Router)
    (i : Nat) : Option NetworkInterface :=
  router.interfaces[i]?.map AsyncNetworkInterface.toNetworkInterface

section Interfaces

variable {router : Router} {i : Nat}

theorem networkInterface_setInterface
    (inside : i < router.interfaces.length)
    (new : AsyncNetworkInterface)
    (j : Nat) :
    (router.setInterface i new).networkInterface j =
      if j = i then
        some new.toNetworkInterface
      else
        router.networkInterface j := by
  rw [networkInterface, setInterface, List.getElem?_set]
  by_cases here : i = j
  · rw [if_pos here, if_pos inside, if_pos here.symm]
    rfl
  · rw [if_neg here, if_neg (Ne.symm here)]
    rfl

theorem networkInterface_setDatagramsOut
    (router : Router)
    (i : Nat)
    (datagrams : List InternetDatagram)
    (j : Nat) :
    (router.setDatagramsOut i datagrams).networkInterface j =
      router.networkInterface j := by
  rw [networkInterface, networkInterface, setDatagramsOut,
    List.getElem?_modify]
  cases router.interfaces[j]? with
  | none =>
      rfl
  | some interface =>
      by_cases here : i = j
      · simp [here]
      · simp [here]

/-- One interface performs a call; the others and the table stay. -/
structure Performs
    (i : Nat)
    (op : NetworkInterface.Op)
    (before after : Router) : Prop where
  routerTable : after.routerTable = before.routerTable
  length : after.interfaces.length = before.interfaces.length
  self :
    after.networkInterface i =
      (before.networkInterface i).map (·.perform op)
  others : ∀ j, j ≠ i → after.networkInterface j = before.networkInterface j

theorem performs_setInterface
    {interface changed : AsyncNetworkInterface}
    {op : NetworkInterface.Op}
    (found : router.interfaces[i]? = some interface)
    (performed :
      changed.toNetworkInterface =
        interface.toNetworkInterface.perform op) :
    Performs i op router (router.setInterface i changed) := by
  have inside := (List.getElem?_eq_some_iff.mp found).1
  refine ⟨rfl, List.length_set, ?_, ?_⟩
  · rw [networkInterface_setInterface inside, if_pos rfl, performed,
      networkInterface, found]
    rfl
  · intro j other
    rw [networkInterface_setInterface inside, if_neg other]

theorem Performs.setDatagramsOut
    {op : NetworkInterface.Op}
    {before after : Router}
    (performs : Performs i op before after)
    (j : Nat)
    (datagrams : List InternetDatagram) :
    Performs i op before (after.setDatagramsOut j datagrams) where
  routerTable := performs.routerTable
  length := (List.length_modify _ _ _).trans performs.length
  self := by
    rw [networkInterface_setDatagramsOut]
    exact performs.self
  others k other := by
    rw [networkInterface_setDatagramsOut]
    exact performs.others k other

theorem exists_interface
    (inside : i < router.interfaces.length) :
    ∃ interface, router.interfaces[i]? = some interface :=
  ⟨_, List.getElem?_eq_getElem inside⟩

theorem performs_send
    (inside : i < router.interfaces.length)
    (dgram : InternetDatagram)
    (nextHop : Address) :
    let after := finalState (router.send i dgram nextHop)
    Performs i (.send dgram nextHop) router after ∧
      ∀ j, after.datagramsOut j = router.datagramsOut j := by
  obtain ⟨interface, found⟩ := exists_interface inside
  have sent :
      finalState (router.send i dgram nextHop) =
        router.setInterface i
          { interface with
            toNetworkInterface :=
              interface.toNetworkInterface.perform
                (.send dgram nextHop) } := by
    simp only [send, found, NetworkInterface.perform]
    cases interface.toNetworkInterface.sendDatagram dgram nextHop <;> rfl
  rw [sent]
  exact ⟨performs_setInterface found rfl,
    datagramsOut_setInterface found rfl⟩

theorem performs_recvFrame
    {interface : AsyncNetworkInterface}
    (found : router.interfaces[i]? = some interface)
    (frame : EthernetFrame) :
    Performs i (.recv frame) router (router.step (.recvFrame i frame)) ∧
      ∀ j,
        (router.step (.recvFrame i frame)).datagramsOut j =
          if j = i then
            router.datagramsOut i ++
              (returned
                (interface.toNetworkInterface.recvFrame
                  frame)).join.toList
          else
            router.datagramsOut j := by
  have stepped :
      router.step (.recvFrame i frame) =
        router.setInterface i
          { toNetworkInterface :=
              interface.toNetworkInterface.perform (.recv frame)
            datagramsOut :=
              interface.datagramsOut ++
                (returned
                  (interface.toNetworkInterface.recvFrame
                    frame)).join.toList } := by
    simp only [step, call, found, AsyncNetworkInterface.recvFrame,
      NetworkInterface.perform]
    cases interface.toNetworkInterface.recvFrame frame with
    | error thrown after =>
        simp [finalState, returned]
    | ok dgram after =>
        simp [finalState, returned]
  rw [stepped]
  refine ⟨performs_setInterface found rfl, fun j => ?_⟩
  have inside := (List.getElem?_eq_some_iff.mp found).1
  rw [datagramsOut, setInterface, List.getElem?_set]
  by_cases here : j = i
  · rw [if_pos here, if_pos here.symm, if_pos (here ▸ inside),
      datagramsOut, found]
    rfl
  · rw [if_neg here, if_neg (Ne.symm here)]
    rfl

theorem performs_tick
    {interface : AsyncNetworkInterface}
    (found : router.interfaces[i]? = some interface)
    (ms : Nat) :
    Performs i (.tick ms) router (router.step (.tick i ms)) ∧
      ∀ j,
        (router.step (.tick i ms)).datagramsOut j =
          router.datagramsOut j := by
  have stepped :
      router.step (.tick i ms) =
        router.setInterface i
          { interface with
            toNetworkInterface :=
              interface.toNetworkInterface.tick ms } := by
    simp only [step, call, found]
    rfl
  rw [stepped]
  exact ⟨performs_setInterface found rfl,
    datagramsOut_setInterface found rfl⟩

section Forward

variable {dgram : InternetDatagram} {rest : List InternetDatagram}

/-- A datagram that may not live on, or has no route, is dropped. -/
theorem forward_drops
    (front : router.datagramsOut i = dgram :: rest)
    (dropped :
      dgram.header.ttl ≤ 1 ∨
        chosen router.routerTable dgram.header.dst = none) :
    router.forward i = .ok () (router.setDatagramsOut i rest) := by
  have routed :
      ∃ passed,
        router.routeOneDatagram dgram = .ok () (passed, router) := by
    by_cases expired : dgram.header.ttl ≤ 1
    · exact ⟨_, routeOneDatagram_of_expired expired⟩
    · refine ⟨_, routeOneDatagram_of_no_route expired ?_⟩
      have missing := dropped.resolve_left expired
      cases found : longestPrefix dgram.header.dst router.routerTable with
      | none => rfl
      | some index =>
          obtain ⟨route, entry, _⟩ := longestPrefix_eq_some found
          rw [chosen, found, Option.bind_some, entry] at missing
          cases missing
  obtain ⟨passed, same⟩ := routed
  simp only [forward, Execution.iterate, drainRound, front, same]

/-- Any other one is sent, one hop older. -/
theorem forward_sends
    {route : Route}
    {interface : AsyncNetworkInterface}
    (front : router.datagramsOut i = dgram :: rest)
    (alive : ¬ dgram.header.ttl ≤ 1)
    (found : chosen router.routerTable dgram.header.dst = some route)
    (out : router.interfaces[route.interfaceNum]? = some interface)
    (valid : (hopped dgram).Serializable) :
    let nextHop := route.nextHop.getD { ipv4Numeric := dgram.header.dst }
    ∃ after,
      router.forward i = .ok () after ∧
        Performs route.interfaceNum (.send (hopped dgram) nextHop) router
          after ∧
        ∀ j,
          after.datagramsOut j =
            if j = i then rest else router.datagramsOut j := by
  intro nextHop
  obtain ⟨index, search, entry⟩ := Option.bind_eq_some_iff.mp found
  have sent :=
    eq_ok_of_returned
      (NetworkInterface.sendDatagram_returns valid nextHop
        interface.toNetworkInterface)
  have routed := routeOneDatagram_of_route alive search entry out sent
  have performs :
      Performs route.interfaceNum (.send (hopped dgram) nextHop) router
        (router.setInterface route.interfaceNum
          { interface with
            toNetworkInterface :=
              finalState
                (interface.toNetworkInterface.sendDatagram (hopped dgram)
                  nextHop) }) :=
    performs_setInterface out rfl
  have inside := performs.length ▸ inside_of_kept front
  refine ⟨_, ?_, performs.setDatagramsOut i rest, fun j => ?_⟩
  · simp only [forward, Execution.iterate, drainRound, front, routed]
  · rw [datagramsOut_setDatagramsOut inside]
    split
    · rfl
    · refine datagramsOut_setInterface out ?_ j
      rfl

end Forward

end Interfaces

end Router

/-! ## Internetworks -/

/-- An interface of a node, attached to a segment. -/
abbrev Port
    {ν σ : Type}
    (attached : ν → List σ)
    (s : σ) : Type :=
  { port : ν × Nat // (attached port.1)[port.2]? = some s }

/--
The segments that the interfaces of the nodes are attached to.  The interfaces
on a segment have addresses of their own.
-/
structure Topology (ν σ : Type) where
  attached : ν → List σ
  hosts : (s : σ) → Hosts (Port attached s)

namespace Topology

variable {ν σ : Type} (topology : Topology ν σ)

/-- The interface of a node with a number. -/
def portAt
    (node : ν)
    (number : Nat) :
    Option (Σ s, Port topology.attached s) :=
  match attached : (topology.attached node)[number]? with
  | none => none
  | some s => some ⟨s, (node, number), attached⟩

variable {topology}

theorem portAt_self
    {s : σ}
    (port : Port topology.attached s) :
    topology.portAt port.1.1 port.1.2 = some ⟨s, port⟩ := by
  obtain ⟨⟨node, number⟩, attached⟩ := port
  unfold portAt
  split
  · rename_i missing
    rw [attached] at missing
    cases missing
  · rename_i found
    cases found.symm.trans attached
    rfl

end Topology

/-- Where a datagram that is sent comes from. -/
inductive Origin (ν : Type) where
  /-- The owner of a node sends it, by the call with this number. -/
  | sent (number : Nat)
  /-- A node forwards it, as the one with this number that a port received. -/
  | received (port : ν × Nat) (number : Nat)
  deriving DecidableEq

/-- What has happened on a segment. -/
structure Traffic (ν ι : Type) where
  calls : List (SendCall ι) := []
  /-- The origin of each call. -/
  origins : List (Origin ν) := []
  wire : List (Packet ι) := []
  delivered : List (Nat × ι) := []
  receipts : List (Receipt ι) := []

variable {ν σ : Type}

/-- The nodes, with a record of what has happened. -/
structure Internetwork (topology : Topology ν σ) where
  routers : ν → Router
  traffic : (s : σ) → Traffic ν (Port topology.attached s) := fun _ => {}
  /-- What the owners of nodes have sent. -/
  sent : List (Σ s, SendCall (Port topology.attached s)) := []
  /-- How many datagrams have left the queue of what a port received. -/
  taken : ν × Nat → Nat := fun _ => 0

namespace Internetwork

variable {topology : Topology ν σ}

/-- What may happen in an internetwork. -/
inductive Op (topology : Topology ν σ) where
  | send {s : σ} (port : Port topology.attached s)
      (dgram : InternetDatagram) (nextHop : Address)
  | deliver (s : σ) (packet : Nat) (port : Port topology.attached s)
  | tick {s : σ} (port : Port topology.attached s) (ms : Nat)
  | forward {s : σ} (port : Port topology.attached s)
  | take {s : σ} (port : Port topology.attached s)

/-- The interface at a port. -/
def interface
    (net : Internetwork topology)
    {s : σ}
    (port : Port topology.attached s) : NetworkInterface :=
  ((net.routers port.1.1).networkInterface port.1.2).getD {
    ethernetAddress := (topology.hosts s).ethernetAddress port
    ipAddress := (topology.hosts s).ipAddress port
  }

variable [DecidableEq ν] [DecidableEq σ]

/-- Change a node whose other ports stay silent, and what is recorded. -/
def update
    {s : σ}
    (port : Port topology.attached s)
    (router : Router)
    (record :
      Traffic ν (Port topology.attached s) →
      Traffic ν (Port topology.attached s))
    (net : Internetwork topology) : Internetwork topology :=
  let changed :=
    { net with routers := Function.update net.routers port.1.1 router }
  let frames :=
    NetworkInterface.emitted (net.interface port) (changed.interface port)
  let traffic := record (net.traffic s)
  { changed with
    traffic :=
      Function.update net.traffic s
        { traffic with
          wire := traffic.wire ++ frames.map (Packet.mk port) } }

/-- A datagram leaves the queue of what a port received. -/
def pop
    (port : ν × Nat)
    (net : Internetwork topology) : Internetwork topology :=
  { net with
    taken := Function.update net.taken port (net.taken port + 1) }

/-- A call to send is recorded. -/
def asked
    {ι : Type}
    (call : SendCall ι)
    (origin : Origin ν)
    (traffic : Traffic ν ι) : Traffic ν ι :=
  { traffic with
    calls := traffic.calls ++ [call]
    origins := traffic.origins ++ [origin] }

/-- The front of what a port received is sent on, out of another port. -/
def relay
    {s t : σ}
    (port : Port topology.attached s)
    (router : Router)
    (call : SendCall (Port topology.attached t))
    (net : Internetwork topology) : Internetwork topology :=
  (net.update call.sender router
    (asked call (.received port.1 (net.taken port.1)))).pop port.1

/-- Perform what happens at its port, and record it. -/
def step
    (net : Internetwork topology) :
    Op topology → Internetwork topology
  | .send (s := s) port dgram nextHop =>
      let call : SendCall (Port topology.attached s) :=
        ⟨port, nextHop.ipv4Numeric, dgram⟩
      let router :=
        finalState
          ((net.routers port.1.1).send port.1.2 dgram nextHop)
      { net.update port router (asked call (.sent net.sent.length)) with
        sent := net.sent ++ [⟨s, call⟩] }
  | .deliver s k port =>
      match (net.traffic s).wire[k]? with
      | none => net
      | some packet =>
          let result :=
            returned ((net.interface port).recvFrame packet.frame)
          net.update port
            ((net.routers port.1.1).step
              (.recvFrame port.1.2 packet.frame))
            fun traffic =>
              { traffic with
                delivered := traffic.delivered ++ [(k, port)]
                receipts :=
                  traffic.receipts ++
                    result.join.toList.map (Receipt.mk port) }
  | .tick port ms =>
      net.update port
        ((net.routers port.1.1).step (.tick port.1.2 ms)) id
  | .forward port =>
      let router := net.routers port.1.1
      match router.datagramsOut port.1.2 with
      | [] => net
      | dgram :: _ =>
          let after := finalState (router.forward port.1.2)
          let out :=
            if dgram.header.ttl ≤ 1 then
              none
            else
              Router.chosen router.routerTable dgram.header.dst
          match out with
          | none => (net.update port after id).pop port.1
          | some route =>
              match topology.portAt port.1.1 route.interfaceNum with
              -- there is no such interface, which throws
              | none => net.update port after id
              | some ⟨_, outPort⟩ =>
                  let nextHop :=
                    route.nextHop.getD
                      { ipv4Numeric := dgram.header.dst }
                  net.relay port after
                    ⟨outPort, nextHop.ipv4Numeric, Router.hopped dgram⟩
  | .take port =>
      let router := net.routers port.1.1
      match router.datagramsOut port.1.2 with
      | [] => net
      | _ :: rest =>
          (net.update port (router.setDatagramsOut port.1.2 rest)
            id).pop port.1

/-! ## One segment of an internetwork -/

omit [DecidableEq ν] [DecidableEq σ] in
/-- What a segment sees of an internetwork. -/
def segment
    (net : Internetwork topology)
    (s : σ) : EthernetSegment (Port topology.attached s) where
  interfaces := net.interface
  calls := (net.traffic s).calls
  wire := (net.traffic s).wire
  delivered := (net.traffic s).delivered
  receipts := (net.traffic s).receipts

section Views

variable {net : Internetwork topology} {s : σ}
variable {port : Port topology.attached s} {router : Router}
variable {op : NetworkInterface.Op}
variable {record :
  Traffic ν (Port topology.attached s) →
  Traffic ν (Port topology.attached s)}

/-- The interface at another port than the one that performs a call. -/
theorem interface_update_of_ne
    (others :
      ∀ j,
        j ≠ port.1.2 →
        router.networkInterface j =
          (net.routers port.1.1).networkInterface j)
    {t : σ}
    {query : Port topology.attached t}
    (elsewhere : query.1 ≠ port.1) :
    (net.update port router record).interface query =
      net.interface query := by
  unfold interface update
  dsimp only
  by_cases sameNode : query.1.1 = port.1.1
  · have otherNumber : query.1.2 ≠ port.1.2 := fun same =>
      elsewhere (Prod.ext sameNode same)
    rw [sameNode, Function.update_self, others _ otherNumber]
  · rw [Function.update_of_ne sameNode]

/-- The interface that performs a call. -/
theorem interface_update_self
    (performs :
      Router.Performs port.1.2 op (net.routers port.1.1) router)
    (exists_ :
      (net.routers port.1.1).networkInterface port.1.2 =
        some (net.interface port)) :
    (net.update port router record).interface port =
      (net.interface port).perform op := by
  have changed := performs.self
  rw [exists_] at changed
  change
    ((Function.update net.routers port.1.1 router
      port.1.1).networkInterface port.1.2).getD _ = _
  rw [Function.update_self, changed]
  rfl

theorem segment_update_of_ne
    (others :
      ∀ j,
        j ≠ port.1.2 →
        router.networkInterface j =
          (net.routers port.1.1).networkInterface j)
    {t : σ}
    (elsewhere : t ≠ s) :
    (net.update port router record).segment t = net.segment t := by
  have apart :
      ∀ query : Port topology.attached t, query.1 ≠ port.1 := by
    intro query same
    have attached := query.2
    rw [same] at attached
    exact elsewhere (Option.some.inj (attached.symm.trans port.2))
  have interfaces :
      ((net.update port router record).segment t).interfaces =
        (net.segment t).interfaces :=
    funext fun query => interface_update_of_ne others (apart query)
  have traffic :
      (net.update port router record).traffic t = net.traffic t :=
    Function.update_of_ne elsewhere _ _
  unfold segment at interfaces ⊢
  dsimp only at interfaces
  rw [interfaces, traffic]

/-- On its own segment, the call is performed. -/
theorem segment_update_self
    (performs :
      Router.Performs port.1.2 op (net.routers port.1.1) router)
    (exists_ :
      (net.routers port.1.1).networkInterface port.1.2 =
        some (net.interface port))
    (silent : (record (net.traffic s)).wire = (net.traffic s).wire) :
    (net.update port router record).segment s =
      { (net.segment s).perform port op with
        calls := (record (net.traffic s)).calls
        delivered := (record (net.traffic s)).delivered
        receipts := (record (net.traffic s)).receipts } := by
  have self :=
    @interface_update_self _ _ _ _ _ net s port router op record performs
      exists_
  have interfaces :
      ((net.update port router record).segment s).interfaces =
        Function.update (net.segment s).interfaces port
          ((net.interface port).perform op) := by
    funext query
    by_cases here : query = port
    · subst here
      rw [Function.update_self]
      exact self
    · rw [Function.update_of_ne here]
      exact interface_update_of_ne performs.others
        fun same => here (Subtype.ext same)
  have traffic :
      (net.update port router record).traffic s = _ :=
    Function.update_self s _ _
  have wire :
      ((net.update port router record).traffic s).wire =
        (net.traffic s).wire ++
          (NetworkInterface.emitted (net.interface port)
            ((net.interface port).perform op)).map (Packet.mk port) := by
    rw [traffic, ← self, ← silent]
    rfl
  unfold segment at interfaces ⊢
  dsimp only at interfaces
  rw [interfaces, wire, traffic]
  rfl

/-- A change that no interface takes part in. -/
theorem segment_update_of_same
    (same :
      ∀ j,
        router.networkInterface j =
          (net.routers port.1.1).networkInterface j)
    (t : σ) :
    (net.update port router id).segment t = net.segment t := by
  by_cases elsewhere : t ≠ s
  · exact segment_update_of_ne (fun j _ => same j) elsewhere
  cases not_not.mp elsewhere
  have interfaces :
      ∀ query : Port topology.attached s,
        (net.update port router id).interface query =
          net.interface query := by
    intro query
    unfold interface update
    dsimp only
    by_cases sameNode : query.1.1 = port.1.1
    · rw [sameNode, Function.update_self, same]
    · rw [Function.update_of_ne sameNode]
  have traffic :
      (net.update port router id).traffic s = net.traffic s := by
    have silent :
        NetworkInterface.emitted (net.interface port)
            ((net.update port router id).interface port) = [] := by
      rw [interfaces]
      exact List.drop_length
    refine (Function.update_self s _ _).trans ?_
    change
      { net.traffic s with
        wire :=
          (net.traffic s).wire ++
            (NetworkInterface.emitted (net.interface port)
              ((net.update port router id).interface port)).map
                (Packet.mk port) } = net.traffic s
    rw [silent, List.map_nil, List.append_nil]
  unfold segment
  rw [traffic, funext interfaces]

end Views

/-! ## Where an internetwork starts -/

omit [DecidableEq ν] [DecidableEq σ] in
/-- New nodes with their routing tables. -/
def start
    (topology : Topology ν σ)
    (tables : ν → List Route) : Internetwork topology where
  routers node := {
    interfaces :=
      List.ofFn fun number : Fin (topology.attached node).length =>
        let s := (topology.attached node).get number
        let port : Port topology.attached s :=
          ⟨(node, number), List.getElem?_eq_getElem number.2⟩
        { ethernetAddress := (topology.hosts s).ethernetAddress port
          ipAddress := (topology.hosts s).ipAddress port }
    routerTable := tables node
  }

/-- Well-formed datagrams are sent, and frames are delivered as on a segment. -/
def Allowed
    (net : Internetwork topology) :
    Op topology → Prop
  | .send _ dgram _ => dgram.WellFormed
  | .deliver s k port => (net.segment s).Allowed (.deliver k port)
  | _ => True

instance (net : Internetwork topology) (op : Op topology) :
    Decidable (net.Allowed op) :=
  match op with
  | .send _ dgram _ => inferInstanceAs (Decidable dgram.WellFormed)
  | .deliver s k port =>
      inferInstanceAs
        (Decidable ((net.segment s).Allowed (.deliver k port)))
  | .tick _ _ => inferInstanceAs (Decidable True)
  | .forward _ => inferInstanceAs (Decidable True)
  | .take _ => inferInstanceAs (Decidable True)

omit [DecidableEq ν] [DecidableEq σ] in
theorem start_interface
    (topology : Topology ν σ)
    (tables : ν → List Route)
    {s : σ}
    (port : Port topology.attached s) :
    ((start topology tables).routers port.1.1).interfaces[port.1.2]? =
      some {
        ethernetAddress := (topology.hosts s).ethernetAddress port
        ipAddress := (topology.hosts s).ipAddress port
      } := by
  obtain ⟨⟨node, number⟩, attached⟩ := port
  obtain ⟨inside, rfl⟩ := List.getElem?_eq_some_iff.mp attached
  simp only [start, List.getElem?_ofFn]
  rw [dif_pos inside]
  rfl

omit [DecidableEq ν] [DecidableEq σ] in
/-- Every segment starts empty. -/
theorem segment_start
    (topology : Topology ν σ)
    (tables : ν → List Route)
    (s : σ) :
    (start topology tables).segment s =
      EthernetSegment.start (topology.hosts s) := by
  have interfaces :
      ∀ port : Port topology.attached s,
        (start topology tables).interface port =
          (EthernetSegment.start (topology.hosts s)).interfaces port := by
    intro port
    rw [interface, Router.networkInterface, start_interface]
    rfl
  unfold segment
  rw [funext interfaces]
  rfl

end Internetwork

end Sponge
