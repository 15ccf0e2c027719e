import Sponge.Execution
import Sponge.NetworkInterface

namespace Sponge

/-!
# The router

A router owns several interfaces that keep the datagrams they receive until the
router forwards them.  A datagram goes out on the interface of the route whose
prefix matches its destination and is longest, the last of the longest ones.
A method that throws leaves the router as far as it got.
-/

/-- An interface that keeps what it receives for its owner. -/
structure AsyncNetworkInterface extends NetworkInterface where
  datagramsOut : List InternetDatagram := []

namespace AsyncNetworkInterface

/-- Process a frame, and keep the datagram it carries. -/
def recvFrame
    (frame : EthernetFrame)
    (interface : AsyncNetworkInterface) :
    EStateM.Result StdException AsyncNetworkInterface Unit :=
  match interface.toNetworkInterface.recvFrame frame with
  | .error thrown after =>
      .error thrown { interface with toNetworkInterface := after }
  | .ok optionalDgram after =>
      .ok ()
        { toNetworkInterface := after
          datagramsOut :=
            interface.datagramsOut ++ optionalDgram.toList }

theorem recvFrame_of_ok
    {frame : EthernetFrame}
    {interface : AsyncNetworkInterface}
    {optionalDgram : Option InternetDatagram}
    {after : NetworkInterface}
    (received :
      interface.toNetworkInterface.recvFrame frame =
        .ok optionalDgram after) :
    interface.recvFrame frame =
      .ok ()
        { toNetworkInterface := after
          datagramsOut :=
            interface.datagramsOut ++ optionalDgram.toList } := by
  rw [recvFrame, received]

end AsyncNetworkInterface

/-- The number whose first `n` of 32 bits are ones, for `n` up to 32. -/
def constructBinaryWithOnes (n : UInt8) : UInt64 :=
  ((1 <<< n.toUInt64) - 1) <<< (32 - n.toUInt64)

/-- An entry of the routing table. -/
structure Route where
  routePrefix : UInt32
  prefixLength : UInt8
  nextHop : Option Address
  interfaceNum : Nat

namespace Route

/-- The mask of the prefix. -/
def bitMask (route : Route) : UInt32 :=
  (constructBinaryWithOnes route.prefixLength).toUInt32

/-- The masked bits of the prefix and of the destination agree. -/
def Matches (route : Route) (dst : UInt32) : Prop :=
  route.routePrefix &&& route.bitMask = dst &&& route.bitMask

instance (route : Route) (dst : UInt32) :
    Decidable (route.Matches dst) :=
  inferInstanceAs (Decidable (_ = _))

end Route

/-- Interfaces, and the routes that lead out of them. -/
structure Router where
  interfaces : List AsyncNetworkInterface := []
  routerTable : List Route := []

namespace Router

/-- Add an interface and return its number. -/
def addInterface
    (interface : AsyncNetworkInterface)
    (router : Router) : Nat × Router :=
  (router.interfaces.length,
    { router with interfaces := router.interfaces ++ [interface] })

/-- Add a route at the end of the table. -/
def addRoute
    (routePrefix : UInt32)
    (prefixLength : UInt8)
    (nextHop : Option Address)
    (interfaceNum : Nat)
    (router : Router) : Router :=
  { router with
    routerTable :=
      router.routerTable ++
        [{ routePrefix, prefixLength, nextHop, interfaceNum }] }

/-- Replace an interface. -/
def setInterface
    (i : Nat)
    (interface : AsyncNetworkInterface)
    (router : Router) : Router :=
  { router with interfaces := router.interfaces.set i interface }

/-- One turn of the search: the index found so far and its prefix length. -/
def consider
    (dst : UInt32)
    (best : Option Nat × Nat)
    (entry : Route × Nat) : Option Nat × Nat :=
  if ¬ entry.1.Matches dst then
    best
  else if entry.1.prefixLength.toNat ≥ best.2 then
    (some entry.2, entry.1.prefixLength.toNat)
  else
    best

/-- The index of the route for a destination, if there is one. -/
def longestPrefix
    (dst : UInt32)
    (routerTable : List Route) : Option Nat :=
  (routerTable.zipIdx.foldl (consider dst) (none, 0)).1

/--
Forward a datagram, which is passed by reference: the state is the datagram and
the router.
-/
def routeOneDatagram
    (dgram : InternetDatagram)
    (router : Router) :
    EStateM.Result StdException (InternetDatagram × Router) Unit :=
  if dgram.header.ttl ≤ 1 then
    .ok () (dgram, router)
  else
    let dgram := {
      dgram with
      header := { dgram.header with ttl := dgram.header.ttl - 1 }
    }
    let index := longestPrefix dgram.header.dst router.routerTable
    match index.bind fun index => router.routerTable[index]? with
    | none => .ok () (dgram, router)
    | some t =>
        let nextHop := t.nextHop.getD { ipv4Numeric := dgram.header.dst }
        match router.interfaces[t.interfaceNum]? with
        -- an access past the end of the vector, without a defined effect
        | none => .error (.outOfRange "operator[]") (dgram, router)
        | some interface =>
            match interface.toNetworkInterface.sendDatagram dgram
                nextHop with
            | .error thrown after =>
                .error thrown
                  (dgram,
                    router.setInterface t.interfaceNum
                      { interface with toNetworkInterface := after })
            | .ok _ after =>
                .ok ()
                  (dgram,
                    router.setInterface t.interfaceNum
                      { interface with toNetworkInterface := after })

/-- Replace the datagrams an interface keeps. -/
def setDatagramsOut
    (i : Nat)
    (datagramsOut : List InternetDatagram)
    (router : Router) : Router :=
  { router with
    interfaces :=
      router.interfaces.modify i fun interface =>
        { interface with datagramsOut } }

/-- The datagrams an interface keeps. -/
def datagramsOut (router : Router) (i : Nat) : List InternetDatagram :=
  (router.interfaces[i]?.map
    AsyncNetworkInterface.datagramsOut).getD []

/--
One round of the inner loop of `route`: leave if the queue is empty, and
otherwise forward its front and pop it.
-/
def drainRound
    (i : Nat)
    (router : Router) :
    Router ⊕ EStateM.Result StdException Router Unit :=
  match router.datagramsOut i with
  | [] => .inr (.ok () router)
  | dgram :: rest =>
      match router.routeOneDatagram dgram with
      | .error thrown (dgram, router) =>
          .inr (.error thrown (router.setDatagramsOut i (dgram :: rest)))
      | .ok _ (_, router) => .inl (router.setDatagramsOut i rest)

/-- The inner loop of `route`, with enough fuel to empty the queue. -/
def drain
    (i : Nat)
    (router : Router) : EStateM.Result StdException Router Unit :=
  Execution.iterate (drainRound i) (.ok ())
    ((router.datagramsOut i).length + 1) router

/-- Drain the queues of the interfaces, one after the other. -/
def routeLoop :
    List Nat →
    Router →
    EStateM.Result StdException Router Unit
  | [], router => .ok () router
  | i :: later, router =>
      match router.drain i with
      | .error thrown router => .error thrown router
      | .ok _ router => routeLoop later router

/-- Route every datagram the interfaces have received. -/
def route
    (router : Router) : EStateM.Result StdException Router Unit :=
  router.routeLoop (List.range router.interfaces.length)

/-- A datagram with this header is sent on. -/
def Forwards (routerTable : List Route) (header : IPv4Header) : Prop :=
  ¬ header.ttl ≤ 1 ∧
    ∃ route ∈ routerTable, route.Matches header.dst

instance (routerTable : List Route) (header : IPv4Header) :
    Decidable (Forwards routerTable header) :=
  inferInstanceAs (Decidable (_ ∧ _))

/-- The search finds a route that matches. -/
theorem longestPrefix_eq_some
    {dst : UInt32}
    {routerTable : List Route}
    {index : Nat}
    (found : longestPrefix dst routerTable = some index) :
    ∃ route,
      routerTable[index]? = some route ∧ route.Matches dst := by
  let Known (best : Option Nat × Nat) : Prop :=
    ∀ found ∈ best.1,
      ∃ route, routerTable[found]? = some route ∧ route.Matches dst
  have invariant :
      Known (routerTable.zipIdx.foldl (consider dst) (none, 0)) := by
    refine List.foldlRecOn (motive := Known) _ _ ?_ ?_
    · rintro _ ⟨⟩
    · intro best known entry member
      unfold consider
      split
      · exact known
      split
      · rintro _ ⟨⟩
        rename_i matching _
        exact ⟨entry.1, List.mem_zipIdx_iff_getElem?.mp member,
          not_not.mp matching⟩
      · exact known
  exact invariant index found

section Outboxes

variable {router : Router} {i : Nat}

/-- Only a change of its own queue changes what an interface keeps. -/
theorem datagramsOut_setInterface
    {old new : AsyncNetworkInterface}
    (found : router.interfaces[i]? = some old)
    (same : new.datagramsOut = old.datagramsOut)
    (j : Nat) :
    (router.setInterface i new).datagramsOut j =
      router.datagramsOut j := by
  rw [datagramsOut, datagramsOut, setInterface, List.getElem?_set]
  split
  · rename_i here
    obtain ⟨inside, _⟩ := List.getElem?_eq_some_iff.mp found
    rw [if_pos inside, ← here, found]
    exact same
  · rfl

theorem datagramsOut_setDatagramsOut
    (inside : i < router.interfaces.length)
    (datagrams : List InternetDatagram)
    (j : Nat) :
    (router.setDatagramsOut i datagrams).datagramsOut j =
      if j = i then datagrams else router.datagramsOut j := by
  rw [datagramsOut, datagramsOut, setDatagramsOut,
    List.getElem?_modify]
  by_cases here : j = i
  · rw [if_pos here, here, List.getElem?_eq_getElem inside]
    simp
  · simp [here, Ne.symm here]

theorem inside_of_kept
    {dgram : InternetDatagram}
    {rest : List InternetDatagram}
    (kept : router.datagramsOut i = dgram :: rest) :
    i < router.interfaces.length := by
  by_contra outside
  rw [datagramsOut, List.getElem?_eq_none (Nat.le_of_not_lt outside)]
    at kept
  cases kept

/-- Whatever becomes of a datagram, no queue is touched. -/
theorem routeOneDatagram_frame
    (dgram : InternetDatagram)
    (router : Router) :
    let after := (finalState (router.routeOneDatagram dgram)).2
    after.interfaces.length = router.interfaces.length ∧
      ∀ j, after.datagramsOut j = router.datagramsOut j := by
  unfold routeOneDatagram
  split
  · exact ⟨rfl, fun _ => rfl⟩
  dsimp only
  split
  · exact ⟨rfl, fun _ => rfl⟩
  split
  · exact ⟨rfl, fun _ => rfl⟩
  rename_i interface found
  split <;>
  · exact ⟨List.length_set, datagramsOut_setInterface found rfl⟩

/-- A round that goes on has popped the front of the queue. -/
theorem drainRound_pops
    {next : Router}
    (goesOn : router.drainRound i = .inl next) :
    ∃ dgram, router.datagramsOut i = dgram :: next.datagramsOut i := by
  unfold drainRound at goesOn
  split at goesOn
  case h_1 => cases goesOn
  rename_i dgram rest front
  have inside := inside_of_kept front
  have frame := routeOneDatagram_frame dgram router
  cases routed : router.routeOneDatagram dgram with
  | error thrown after =>
      rw [routed] at goesOn
      cases goesOn
  | ok value after =>
      rw [routed] at goesOn frame
      cases goesOn
      refine ⟨dgram, ?_⟩
      rw [datagramsOut_setDatagramsOut (frame.1 ▸ inside), if_pos rfl]
      exact front

/-- The inner loop leaves by itself: the fuel is more than the queue holds. -/
theorem exits_drain
    (i : Nat)
    (router : Router) :
    Execution.Exits (drainRound i) router (router.drain i) := by
  refine Execution.exits_iterate (fun _ => True)
    (fun router => (router.datagramsOut i).length) ?_ trivial
    (Nat.lt_succ_self _)
  intro router next _ goesOn
  obtain ⟨dgram, front⟩ := drainRound_pops goesOn
  rw [front]
  exact ⟨trivial, Nat.lt_succ_self _⟩

end Outboxes

end Router

end Sponge
