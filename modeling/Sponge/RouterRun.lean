import Sponge.Execution
import Sponge.Router

namespace Sponge

open Reading NetParser

/-!
# Runs of a router

The datagram parser accepts packets whose header cannot be serialised again.
Forwarding one of them throws, in the router if the next hop is known and later
in the interface if it is not, and what waits behind it waits for ever.  As long
as no such packet is to be forwarded, no call throws and routing empties every
queue.
-/

/-- What the datagram parser takes from a packet it accepts. -/
structure IPv4Datagram.ReadFrom
    (dgram : IPv4Datagram)
    (bytes : Bytes) : Prop where
  long : IPv4Header.length ≤ bytes.length
  header : dgram.header = IPv4Header.ofBytes bytes
  sized : dgram.payload.size = dgram.header.payloadLength.toNat
  unframed :
    dgram.header.ver ≠ 4 ∨ dgram.header.hlen < 5 →
    bytes.length - IPv4Header.length =
      dgram.header.payloadLength.toNat

/-- A new datagram is filled in from the packet alone. -/
theorem IPv4Datagram.readFrom_of_parse
    {buffer : Buffer}
    {dgram : IPv4Datagram}
    (accepted :
      ({} : IPv4Datagram).parse buffer = .ok .noError dgram) :
    dgram.ReadFrom buffer.str := by
  have holds := holds_start buffer
  -- the remaining length is the one the header asks for
  have read :
      ∀ {result header next rest},
        ({} : IPv4Datagram).header.parse { buffer } =
            .ok (result, header) next →
        Holds next rest →
        dgram.header = header ∧
          rest.length = header.payloadLength.toNat ∧
          dgram.payload.size = header.payloadLength.toNat := by
    intro result header next rest parsed remains
    rw [parse_eq parsed remains] at accepted
    split at accepted
    · rename_i agree
      cases accepted
      refine ⟨rfl, agree, ?_⟩
      rw [← agree, BufferList.size_eq_length,
        BufferList.concatenate_cons, BufferList.concatenate_nil,
        List.append_nil, remains.left]
    · cases accepted
  by_cases short : buffer.str.length < IPv4Header.length
  · have parsed := IPv4Header.parse_of_short {} holds short
    obtain ⟨_, agree, _⟩ := read parsed holds
    rw [agree] at short
    exact absurd short (by decide)
  have long := Nat.le_of_not_lt short
  by_cases framed :
      (IPv4Header.ofBytes buffer.str).Framed buffer.str.length
  · obtain ⟨next, parsed, remains⟩ :=
      IPv4Header.parse_of_framed {} holds long framed
    obtain ⟨header, agree, sized⟩ := read parsed remains
    refine ⟨long, header, header ▸ sized, ?_⟩
    rw [header]
    rintro (version | short)
    · exact absurd framed.version version
    · exact absurd short framed.minimal
  · obtain ⟨result, next, parsed, _, remains⟩ :=
      IPv4Header.parse_of_not_framed {} holds long framed
    obtain ⟨header, agree, sized⟩ := read parsed remains
    refine ⟨long, header, header ▸ sized, fun _ => ?_⟩
    rw [header, ← agree, List.length_drop]

namespace Router

/-- No datagram that could not be sent waits or is to be sent on. -/
structure Clean
    (routerTable : List Route)
    (interface : AsyncNetworkInterface) : Prop where
  waiting :
    ∀ hop, ∀ dgram ∈ interface.queued hop, dgram.Serializable
  kept :
    ∀ dgram ∈ interface.datagramsOut,
      Forwards routerTable dgram.header →
      dgram.Serializable

/-- The routes of the table name interfaces, with prefixes that exist. -/
def ValidRoutes (router : Router) : Prop :=
  ∀ route ∈ router.routerTable,
    route.interfaceNum < router.interfaces.length ∧
      route.prefixLength ≤ 32

instance (router : Router) : Decidable router.ValidRoutes :=
  inferInstanceAs (Decidable (∀ _ ∈ _, _ ∧ _))

/-- The invariant of a router that is never wedged. -/
structure Sound (router : Router) : Prop where
  routes : router.ValidRoutes
  clean :
    ∀ interface ∈ router.interfaces,
      Clean router.routerTable interface

/-- A step of the router that keeps it sound. -/
structure Keeps (before after : Router) : Prop where
  sound : after.Sound
  routerTable : after.routerTable = before.routerTable
  length : after.interfaces.length = before.interfaces.length

section Sound

variable {router : Router}

theorem Sound.keeps
    (sound : router.Sound) :
    router.Keeps router :=
  ⟨sound, rfl, rfl⟩

theorem Keeps.trans
    {before middle after : Router}
    (first : before.Keeps middle)
    (second : middle.Keeps after) :
    before.Keeps after :=
  ⟨second.sound, second.routerTable.trans first.routerTable,
    second.length.trans first.length⟩

/-- Replacing interfaces by clean ones. -/
theorem Sound.replace
    (sound : router.Sound)
    {interfaces : List AsyncNetworkInterface}
    (length : interfaces.length = router.interfaces.length)
    (clean :
      ∀ interface ∈ interfaces, Clean router.routerTable interface) :
    router.Keeps { router with interfaces } := by
  refine ⟨⟨?_, clean⟩, rfl, length⟩
  intro route member
  change route.interfaceNum < interfaces.length ∧ _
  rw [length]
  exact sound.routes route member

theorem Sound.setInterface
    (sound : router.Sound)
    (i : Nat)
    {interface : AsyncNetworkInterface}
    (clean : Clean router.routerTable interface) :
    router.Keeps (router.setInterface i interface) := by
  refine sound.replace List.length_set fun other member => ?_
  rcases List.mem_or_eq_of_mem_set member with old | new
  · exact sound.clean other old
  · rw [new]
    exact clean

/-- Dropping datagrams from what an interface keeps. -/
theorem Sound.setDatagramsOut
    (sound : router.Sound)
    (i : Nat)
    {datagrams : List InternetDatagram}
    (kept :
      ∀ dgram ∈ datagrams,
        Forwards router.routerTable dgram.header →
        dgram.Serializable) :
    router.Keeps (router.setDatagramsOut i datagrams) := by
  refine sound.replace (List.length_modify _ _ _)
    fun other member => ?_
  obtain ⟨j, found⟩ := List.mem_iff_getElem?.mp member
  rw [List.getElem?_modify] at found
  obtain ⟨old, there, changed⟩ := Option.map_eq_some_iff.mp found
  have clean := sound.clean old (List.mem_of_getElem? there)
  subst changed
  split
  · exact ⟨clean.waiting, kept⟩
  · exact clean

theorem Sound.kept
    (sound : router.Sound)
    {i : Nat}
    {dgram : InternetDatagram}
    (member : dgram ∈ router.datagramsOut i)
    (forwards : Forwards router.routerTable dgram.header) :
    dgram.Serializable := by
  rw [datagramsOut] at member
  cases found : router.interfaces[i]? with
  | none =>
      rw [found] at member
      cases member
  | some interface =>
      rw [found] at member
      exact (sound.clean interface (List.mem_of_getElem? found)).kept
        dgram member forwards

/-- Sending a datagram that can be sent keeps an interface clean. -/
theorem Clean.sendDatagram
    {routerTable : List Route}
    {interface : AsyncNetworkInterface}
    (clean : Clean routerTable interface)
    {dgram : InternetDatagram}
    (valid : dgram.Serializable)
    (nextHop : Address) :
    ∃ after,
      interface.toNetworkInterface.sendDatagram dgram nextHop =
          .ok () after ∧
        Clean routerTable
          { interface with toNetworkInterface := after } := by
  refine ⟨_, eq_ok_of_returned
    (NetworkInterface.sendDatagram_returns valid nextHop _), ?_, ?_⟩
  · intro hop waiting waits
    have outcome :=
      NetworkInterface.sendDatagram_outcome dgram nextHop
        interface.toNetworkInterface
    rcases outcome.mem_queued waits with old | new
    · exact clean.waiting hop waiting old
    · rw [new]
      exact valid
  · exact clean.kept

/-- Forwarding one datagram returns. -/
theorem routeOneDatagram_keeps
    (sound : router.Sound)
    {dgram : InternetDatagram}
    (valid :
      Forwards router.routerTable dgram.header → dgram.Serializable) :
    ∃ passed after,
      router.routeOneDatagram dgram = .ok () (passed, after) ∧
        router.Keeps after := by
  by_cases expired : dgram.header.ttl ≤ 1
  · rw [routeOneDatagram, if_pos expired]
    exact ⟨dgram, router, rfl, sound.keeps⟩
  rw [routeOneDatagram, if_neg expired]
  cases found :
      longestPrefix dgram.header.dst router.routerTable with
  | none =>
      simp only [found, Option.bind_none]
      exact ⟨_, router, rfl, sound.keeps⟩
  | some index =>
      obtain ⟨route, entry, matching⟩ := longestPrefix_eq_some found
      have member := List.mem_of_getElem? entry
      have inside := (sound.routes route member).1
      have atInterface :
          router.interfaces[route.interfaceNum]? =
            some router.interfaces[route.interfaceNum] :=
        List.getElem?_eq_getElem inside
      generalize router.interfaces[route.interfaceNum] = interface
        at atInterface
      have serializable := valid ⟨expired, route, member, matching⟩
      let passed : InternetDatagram := {
        dgram with
        header := { dgram.header with ttl := dgram.header.ttl - 1 }
      }
      -- the time to live is not looked at by the serialiser
      have passedValid : passed.Serializable :=
        ⟨serializable.sized, serializable.version,
          serializable.minimal⟩
      obtain ⟨after, sent, clean⟩ :=
        (sound.clean interface
            (List.mem_of_getElem? atInterface)).sendDatagram passedValid
          (route.nextHop.getD { ipv4Numeric := dgram.header.dst })
      simp only [found, entry, atInterface, Option.bind_some]
      rw [sent]
      exact ⟨passed, _, rfl, sound.setInterface _ clean⟩

/-- One round forwards the front of the queue. -/
theorem drainRound_keeps
    {i : Nat}
    {dgram : InternetDatagram}
    {rest : List InternetDatagram}
    (sound : router.Sound)
    (front : router.datagramsOut i = dgram :: rest) :
    ∃ after,
      router.drainRound i = .inl after ∧
        router.Keeps after ∧
        ∀ j,
          after.datagramsOut j =
            if j = i then rest else router.datagramsOut j := by
  have kept :
      ∀ waiting ∈ dgram :: rest,
        Forwards router.routerTable waiting.header →
        waiting.Serializable :=
    fun waiting member => sound.kept (front ▸ member)
  obtain ⟨passed, middle, routed, keeps⟩ :=
    routeOneDatagram_keeps sound (kept dgram List.mem_cons_self)
  have frame := routeOneDatagram_frame dgram router
  rw [routed] at frame
  have popped : middle.Keeps (middle.setDatagramsOut i rest) := by
    refine keeps.sound.setDatagramsOut i fun waiting member => ?_
    rw [keeps.routerTable]
    exact kept waiting (List.mem_cons_of_mem _ member)
  refine ⟨_, ?_, keeps.trans popped, fun j => ?_⟩
  · simp only [drainRound, front, routed]
  · have inside := inside_of_kept front
    rw [datagramsOut_setDatagramsOut (keeps.length ▸ inside)]
    exact if_congr Iff.rfl rfl (frame.2 j)

/-- The inner loop empties its queue. -/
theorem drain_keeps
    (i : Nat)
    (sound : router.Sound) :
    ∃ after,
      router.drain i = .ok () after ∧
        router.Keeps after ∧
        ∀ j,
          after.datagramsOut j =
            if j = i then [] else router.datagramsOut j := by
  refine (exits_drain i router).invariant
    (fun middle =>
      router.Keeps middle ∧
        ∀ j, j ≠ i → middle.datagramsOut j = router.datagramsOut j)
    (fun result =>
      ∃ after,
        result = .ok () after ∧
          router.Keeps after ∧
          ∀ j,
            after.datagramsOut j =
              if j = i then [] else router.datagramsOut j)
    ?_ ?_ ⟨sound.keeps, fun _ _ => rfl⟩
  · rintro middle next ⟨keeps, others⟩ goesOn
    obtain ⟨dgram, front⟩ := drainRound_pops goesOn
    obtain ⟨after, forwarded, later, outboxes⟩ :=
      drainRound_keeps keeps.sound front
    cases goesOn.symm.trans forwarded
    refine ⟨keeps.trans later, fun j other => ?_⟩
    rw [outboxes, if_neg other]
    exact others j other
  · rintro middle result ⟨keeps, others⟩ left
    cases holds : middle.datagramsOut i with
    | cons dgram rest =>
        obtain ⟨after, forwarded, _⟩ := drainRound_keeps keeps.sound holds
        cases left.symm.trans forwarded
    | nil =>
        rw [drainRound, holds] at left
        cases left
        refine ⟨middle, rfl, keeps, fun j => ?_⟩
        by_cases here : j = i
        · rw [if_pos here, here, holds]
        · rw [if_neg here]
          exact others j here

/-- The outer loop empties the queues it visits. -/
theorem routeLoop_keeps
    (indices : List Nat)
    (sound : router.Sound) :
    ∃ after,
      router.routeLoop indices = .ok () after ∧
        router.Keeps after ∧
        ∀ j,
          after.datagramsOut j =
            if j ∈ indices then [] else router.datagramsOut j := by
  induction indices generalizing router with
  | nil =>
      exact ⟨router, rfl, sound.keeps, fun j => by simp⟩
  | cons i rest inductionHypothesis =>
      obtain ⟨middle, drained, keeps, emptied⟩ :=
        drain_keeps i sound
      obtain ⟨after, routed, later, emptiedLater⟩ :=
        inductionHypothesis keeps.sound
      refine ⟨after, ?_, keeps.trans later, fun j => ?_⟩
      · rw [routeLoop, drained]
        exact routed
      · rw [emptiedLater, emptied]
        by_cases first : j = i
        · simp [first]
        · simp [first]

theorem route_keeps
    (sound : router.Sound) :
    ∃ after,
      router.route = .ok () after ∧
        router.Keeps after ∧
        ∀ interface ∈ after.interfaces,
          interface.datagramsOut = [] := by
  obtain ⟨after, routed, keeps, emptied⟩ :=
    routeLoop_keeps (List.range router.interfaces.length) sound
  refine ⟨after, routed, keeps, fun interface member => ?_⟩
  obtain ⟨j, found⟩ := List.mem_iff_getElem?.mp member
  have visited : j ∈ List.range router.interfaces.length := by
    obtain ⟨inside, _⟩ := List.getElem?_eq_some_iff.mp found
    rw [List.mem_range, ← keeps.length]
    exact inside
  have empty := emptied j
  rw [if_pos visited, datagramsOut, found] at empty
  exact empty

end Sound

/--
A packet to be sent on that the datagram parser accepts although its version or
its header length is wrong.
-/
def Misleading
    (routerTable : List Route)
    (bytes : Bytes) : Prop :=
  let header := IPv4Header.ofBytes bytes
  IPv4Header.length ≤ bytes.length ∧
    bytes.length - IPv4Header.length = header.payloadLength.toNat ∧
    (header.ver ≠ 4 ∨ header.hlen < 5) ∧
    Forwards routerTable header

instance (routerTable : List Route) (bytes : Bytes) :
    Decidable (Misleading routerTable bytes) :=
  inferInstanceAs (Decidable (_ ∧ _ ∧ _ ∧ _))

/-- A datagram that was accepted can be sent, or need not be. -/
theorem serializable_of_ipDatagram
    {routerTable : List Route}
    {frame : EthernetFrame}
    {dgram : InternetDatagram}
    (fit :
      frame.header.type = EthernetHeader.typeIPv4 →
      ¬ Misleading routerTable frame.payload.concatenate)
    (accepted : NetworkInterface.ipDatagram frame = some dgram)
    (forwards : Forwards routerTable dgram.header) :
    dgram.Serializable := by
  unfold NetworkInterface.ipDatagram at accepted
  split at accepted
  case isFalse => cases accepted
  rename_i isIPv4
  split at accepted
  case h_2 => cases accepted
  rename_i parsedDgram parsed
  cases accepted
  have read := IPv4Datagram.readFrom_of_parse parsed
  rw [Buffer.ofString_str] at read
  have sound :
      ¬ (dgram.header.ver ≠ 4 ∨ dgram.header.hlen < 5) := by
    intro wrong
    refine fit isIPv4 ⟨read.long, ?_⟩
    rw [← read.header]
    exact ⟨read.unframed wrong, wrong, forwards⟩
  obtain ⟨version, minimal⟩ := not_or.mp sound
  exact ⟨read.sized, not_not.mp version,
    UInt8.le_iff_toNat_le.mp (UInt8.not_lt.mp minimal)⟩

/-- A frame that is not misleading is processed and keeps things clean. -/
theorem Clean.recvFrame
    {routerTable : List Route}
    {interface : AsyncNetworkInterface}
    (clean : Clean routerTable interface)
    {frame : EthernetFrame}
    (fit :
      interface.ForUs frame →
      frame.header.type = EthernetHeader.typeIPv4 →
      ¬ Misleading routerTable frame.payload.concatenate) :
    ∃ after,
      interface.recvFrame frame = .ok () after ∧
        Clean routerTable after := by
  cases heard : interface.toNetworkInterface.heardIn frame with
  | none =>
      have received := NetworkInterface.recvFrame_of_not_heard heard
      refine ⟨_, AsyncNetworkInterface.recvFrame_of_ok received,
        clean.waiting, ?_⟩
      intro dgram member
      rcases List.mem_append.mp member with old | new
      · exact clean.kept dgram old
      · split at new
        · rename_i forUs
          exact serializable_of_ipDatagram (fit forUs)
            (Option.mem_toList.mp new)
        · cases new
  | some message =>
      obtain ⟨flushed, remaining, frames, replies, learned, returns⟩ :=
        NetworkInterface.learn_learned
          (NetworkInterface.heardIn_supported heard)
          interface.toNetworkInterface
      obtain ⟨state, value⟩ := NetworkInterface.recvFrame_of_heard heard
      rw [returns (learned.remaining_eq_nil (clean.waiting _))] at value
      have received := eq_ok_of_returned value
      refine ⟨_, AsyncNetworkInterface.recvFrame_of_ok received,
        ?_, ?_⟩
      · intro hop dgram waits
        rw [state] at waits
        exact clean.waiting hop dgram (learned.mem_queued waits)
      · intro dgram member
        exact clean.kept dgram (by simpa using member)

theorem Clean.tick
    {routerTable : List Route}
    {interface : AsyncNetworkInterface}
    (clean : Clean routerTable interface)
    (ms : Nat) :
    Clean routerTable
      { interface with
        toNetworkInterface := interface.toNetworkInterface.tick ms } :=
  ⟨clean.waiting, clean.kept⟩

/-- The calls on a router and on its interfaces. -/
inductive Op where
  | recvFrame (i : Nat) (frame : EthernetFrame)
  | route
  | tick (i : Nat) (ms : Nat)

/-- Perform a call; a number that no interface has throws. -/
def call
    (router : Router) :
    Op → EStateM.Result StdException Router Unit
  | .recvFrame i frame =>
      match router.interfaces[i]? with
      | none => .error (.outOfRange "vector::at") router
      | some interface =>
          match interface.recvFrame frame with
          | .error thrown after =>
              .error thrown (router.setInterface i after)
          | .ok _ after => .ok () (router.setInterface i after)
  | .route => router.route
  | .tick i ms =>
      match router.interfaces[i]? with
      | none => .error (.outOfRange "vector::at") router
      | some interface =>
          .ok ()
            (router.setInterface i
              { interface with
                toNetworkInterface :=
                  interface.toNetworkInterface.tick ms })

/-- The router after a call, whether the call returned or threw. -/
def step (router : Router) (op : Op) : Router :=
  finalState (router.call op)

/--
Calls on interfaces that exist, with frames that carry no misleading packet for
the interface.
-/
def Admissible (router : Router) : Op → Prop
  | .recvFrame i frame =>
      ∃ interface ∈ router.interfaces[i]?,
        interface.ForUs frame →
        frame.header.type = EthernetHeader.typeIPv4 →
        ¬ Misleading router.routerTable frame.payload.concatenate
  | .route => True
  | .tick i _ => i < router.interfaces.length

instance (router : Router) (op : Op) :
    Decidable (router.Admissible op) :=
  match op with
  | .recvFrame _ _ => inferInstanceAs (Decidable (∃ _ ∈ _, _ → _))
  | .route => inferInstanceAs (Decidable True)
  | .tick _ _ => inferInstanceAs (Decidable (_ < _))

/-- The call returns, and routing leaves no datagram behind. -/
def Safe (router : Router) (op : Op) : Prop :=
  returned (router.call op) = some () ∧
    match op with
    | .route =>
        ∀ interface ∈ (router.step op).interfaces,
          interface.datagramsOut = []
    | _ => True

instance (router : Router) (op : Op) : Decidable (router.Safe op) :=
  match op with
  | .route => inferInstanceAs (Decidable (_ ∧ ∀ _ ∈ _, _ = _))
  | .recvFrame _ _ => inferInstanceAs (Decidable (_ ∧ True))
  | .tick _ _ => inferInstanceAs (Decidable (_ ∧ True))

/-- One admissible call is safe and keeps the router sound. -/
theorem call_keeps
    {router : Router}
    (sound : router.Sound)
    {op : Op}
    (admissible : router.Admissible op) :
    router.Safe op ∧ router.Keeps (router.step op) := by
  cases op with
  | recvFrame i frame =>
      obtain ⟨interface, found, fit⟩ := admissible
      have clean := sound.clean interface (List.mem_of_getElem? found)
      obtain ⟨after, received, cleanAfter⟩ := clean.recvFrame fit
      have called :
          router.call (.recvFrame i frame) =
            .ok () (router.setInterface i after) := by
        simp only [call, Option.mem_def.mp found, received]
      refine ⟨⟨by rw [called]; rfl, trivial⟩, ?_⟩
      rw [step, called]
      exact sound.setInterface i cleanAfter
  | route =>
      obtain ⟨after, routed, keeps, empty⟩ := route_keeps sound
      have called : router.call .route = .ok () after := routed
      refine ⟨⟨by rw [called]; rfl, ?_⟩, ?_⟩
      · change ∀ interface ∈ (router.step .route).interfaces, _
        rw [step, called]
        exact empty
      · rw [step, called]
        exact keeps
  | tick i ms =>
      have found := List.getElem?_eq_getElem admissible
      generalize router.interfaces[i] = interface at found
      have clean := sound.clean interface (List.mem_of_getElem? found)
      have called :
          router.call (.tick i ms) =
            .ok ()
              (router.setInterface i
                { interface with
                  toNetworkInterface :=
                    interface.toNetworkInterface.tick ms }) := by
        simp only [call, found]
      refine ⟨⟨by rw [called]; rfl, trivial⟩, ?_⟩
      rw [step, called]
      exact sound.setInterface i (clean.tick ms)

/--
As long as no misleading packet is to be forwarded, no call throws and every
call to route leaves all queues empty.
-/
theorem never_wedged
    {router : Router}
    (routes : router.ValidRoutes)
    (clean :
      ∀ interface ∈ router.interfaces,
        Clean router.routerTable interface)
    {ops : List Op}
    (admissible : Execution.EveryStep step Admissible router ops) :
    Execution.EveryStep step Safe router ops :=
  Execution.EveryStep.imp_of_invariant Sound
    (fun _ _ sound permitted => (call_keeps sound permitted).2.sound)
    (fun _ _ sound permitted => (call_keeps sound permitted).1)
    ⟨routes, clean⟩ admissible

/-- A frame to the broadcast address. -/
def broadcast (type : UInt16) (bytes : Bytes) : EthernetFrame where
  header := { dst := ethernetBroadcast, type }
  payload := [Buffer.ofString bytes]

/-- The next hop tells everyone its address. -/
def gatewayFrame : EthernetFrame :=
  broadcast EthernetHeader.typeArp
    ({ opcode := ARPMessage.opcodeReply, senderIpAddress := 7 } :
      ARPMessage).fieldBytes

/-- Twenty bytes of a header that differs only in the version. -/
def packetFrame (version : UInt8) : EthernetFrame :=
  broadcast EthernetHeader.typeIPv4
    ({ ver := version, len := 20 } : IPv4Header).fieldBytes

/-- A router with one interface and a default route. -/
def gatewayRouter : Router :=
  (({} : Router).addInterface {
    ethernetAddress := List.Vector.replicate 6 2
    ipAddress := { ipv4Numeric := 1 }
  }).2.addRoute 0 0 (some { ipv4Numeric := 7 }) 0

theorem gatewayRouter_clean :
    ∀ interface ∈ gatewayRouter.interfaces,
      Clean gatewayRouter.routerTable interface := by
  intro interface member
  rw [List.mem_singleton.mp member]
  exact ⟨fun hop dgram waits => (List.not_mem_nil waits).elim,
    fun dgram kept => (List.not_mem_nil kept).elim⟩

theorem never_wedged_gateway :
    Execution.EveryStep step Safe gatewayRouter
      [.recvFrame 0 gatewayFrame, .recvFrame 0 (packetFrame 4),
        .tick 0 10, .route] :=
  never_wedged (by decide) gatewayRouter_clean (by decide +kernel)

/--
A packet with version 5 wedges the router if its next hop is known, and the
interface if its next hop becomes known later.
-/
theorem version_five_wedges :
    gatewayRouter.ValidRoutes ∧
      (let full :=
        Execution.run step gatewayRouter
          [.recvFrame 0 gatewayFrame, .recvFrame 0 (packetFrame 5)]
      returned (full.call .route) = none ∧
        (full.step .route).datagramsOut 0 ≠ []) ∧
      (let full :=
        Execution.run step gatewayRouter
          [.recvFrame 0 (packetFrame 5), .route]
      returned (full.call (.recvFrame 0 gatewayFrame)) = none) := by
  decide +kernel

end Router

end Sponge
