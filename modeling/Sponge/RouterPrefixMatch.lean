import Mathlib.Data.List.Induction
import Sponge.LastMaximal
import Sponge.RouterRun

namespace Sponge

/-!
# Longest-prefix match

The search of the router compares masked addresses and keeps an index and a
length.  A mask selects the leading bits of an address, and the scan ends at the
last of the longest prefixes, so a datagram leaves on the interface of the
longest matching route or is dropped.
-/

namespace Route

/-- The first bits of the prefix and of the destination are the same. -/
def Agrees (route : Route) (dst : UInt32) : Prop :=
  ∀ k < route.prefixLength.toNat,
    route.routePrefix.toNat.testBit (31 - k) = dst.toNat.testBit (31 - k)

instance (route : Route) (dst : UInt32) : Decidable (route.Agrees dst) :=
  inferInstanceAs (Decidable (∀ _ < _, _ = _))

/-- The mask has ones in the leading places and nowhere else. -/
theorem bitMask_toNat
    {route : Route}
    (short : route.prefixLength ≤ 32) :
    route.bitMask.toNat =
      (2 ^ route.prefixLength.toNat - 1) <<<
        (32 - route.prefixLength.toNat) := by
  have everyLength :
      ∀ n : Fin 33,
        (constructBinaryWithOnes (UInt8.ofNat n)).toUInt32.toNat =
          (2 ^ n.val - 1) <<< (32 - n.val) := by
    decide +kernel
  have small : route.prefixLength.toNat < 33 :=
    Nat.lt_succ_of_le (UInt8.le_iff_toNat_le.mp short)
  have mask := everyLength ⟨_, small⟩
  rwa [UInt8.ofNat_toNat] at mask

theorem testBit_bitMask
    {route : Route}
    (short : route.prefixLength ≤ 32)
    (i : Nat) :
    route.bitMask.toNat.testBit i =
      decide (32 - route.prefixLength.toNat ≤ i ∧ i < 32) := by
  have bounded : route.prefixLength.toNat ≤ 32 :=
    UInt8.le_iff_toNat_le.mp short
  rw [bitMask_toNat short, Nat.testBit_shiftLeft,
    Nat.testBit_two_pow_sub_one, Bool.decide_and]
  by_cases leading : 32 - route.prefixLength.toNat ≤ i
  · have place :
        i - (32 - route.prefixLength.toNat) <
            route.prefixLength.toNat ↔ i < 32 := by
      omega
    simp only [leading, place]
  · simp [leading]

/-- Comparing masked addresses compares their leading bits. -/
theorem matches_iff_agrees
    {route : Route}
    (short : route.prefixLength ≤ 32)
    (dst : UInt32) :
    route.Matches dst ↔ route.Agrees dst := by
  have bounded : route.prefixLength.toNat ≤ 32 :=
    UInt8.le_iff_toNat_le.mp short
  have mask := testBit_bitMask short
  constructor
  · intro same k leading
    have bits :=
      congrArg (fun word : UInt32 => word.toNat.testBit (31 - k)) same
    simpa [UInt32.toNat_and, mask,
      show 32 - route.prefixLength.toNat ≤ 31 - k by omega,
      show 31 - k < 32 by omega] using bits
  · intro agrees
    apply UInt32.toNat.inj
    refine Nat.eq_of_testBit_eq fun i => ?_
    rw [UInt32.toNat_and, UInt32.toNat_and, Nat.testBit_and,
      Nat.testBit_and, mask]
    by_cases leading : 32 - route.prefixLength.toNat ≤ i ∧ i < 32
    · have bit := agrees (31 - i) (by omega)
      rw [show 31 - (31 - i) = i by omega] at bit
      rw [bit]
    · rw [decide_eq_false leading, Bool.and_false, Bool.and_false]

end Route

namespace Router

/-- What the search has found in the routes it has passed. -/
def Found
    (dst : UInt32)
    (passed : List Route)
    (best : Option Nat × Nat) : Prop :=
  match best.1 with
  | none => best.2 = 0 ∧ ∀ route ∈ passed, ¬ route.Matches dst
  | some index =>
      ∃ route,
        passed[index]? = some route ∧
          best.2 = route.prefixLength.toNat ∧
          LastMaximal (Route.Matches · dst)
            (fun route => route.prefixLength.toNat) passed route

/-- One turn of the search. -/
theorem Found.consider
    {dst : UInt32}
    {passed : List Route}
    {best : Option Nat × Nat}
    (found : Found dst passed best)
    (route : Route) :
    Found dst (passed ++ [route])
      (consider dst best (route, passed.length)) := by
  obtain ⟨index, length⟩ := best
  have here : (passed ++ [route])[passed.length]? = some route := by
    simp
  by_cases agrees : route.Matches dst
  · simp only [Router.consider, agrees, not_true, if_false]
    cases index with
    | none =>
        obtain ⟨zero, others⟩ := found
        have longer : route.prefixLength.toNat ≥ length := by
          change length = 0 at zero
          omega
        rw [if_pos longer]
        exact ⟨route, here, rfl,
          .take agrees fun other member matching =>
            absurd matching (others other member)⟩
    | some index =>
        obtain ⟨kept, entry, same, maximal⟩ := found
        change length = kept.prefixLength.toNat at same
        by_cases longer : route.prefixLength.toNat ≥ length
        · rw [if_pos longer]
          refine ⟨route, here, rfl, .take agrees ?_⟩
          intro other member matching
          exact Nat.le_trans (maximal.rank_le member matching)
            (same ▸ longer)
        · rw [if_neg longer]
          have inside := (List.getElem?_eq_some_iff.mp entry).1
          refine ⟨kept, ?_, same, maximal.skip fun _ => ?_⟩
          · rw [List.getElem?_append_left inside]
            exact entry
          · exact same ▸ Nat.lt_of_not_ge longer
  · simp only [Router.consider, agrees, not_false_eq_true, if_true]
    cases index with
    | none =>
        obtain ⟨zero, others⟩ := found
        refine ⟨zero, fun other member => ?_⟩
        rcases List.mem_append.mp member with earlier | last
        · exact others other earlier
        · rw [List.mem_singleton.mp last]
          exact agrees
    | some index =>
        obtain ⟨kept, entry, same, maximal⟩ := found
        have inside := (List.getElem?_eq_some_iff.mp entry).1
        refine ⟨kept, ?_, same,
          maximal.skip fun matching => absurd matching agrees⟩
        rw [List.getElem?_append_left inside]
        exact entry

/-- The whole search. -/
theorem found_search
    (dst : UInt32)
    (routerTable : List Route) :
    Found dst routerTable
      (routerTable.zipIdx.foldl (consider dst) (none, 0)) := by
  induction routerTable using List.reverseRecOn with
  | nil =>
      exact ⟨rfl, by simp⟩
  | append_singleton passed route inductionHypothesis =>
      rw [List.zipIdx_append, List.foldl_append]
      simpa using inductionHypothesis.consider route

/-- A router whose table was built by `add_route` alone. -/
def withRoutes
    (interfaces : List AsyncNetworkInterface)
    (routes : List Route) : Router :=
  routes.foldl
    (fun router route =>
      router.addRoute route.routePrefix route.prefixLength route.nextHop
        route.interfaceNum)
    { interfaces }

theorem withRoutes_eq
    (interfaces : List AsyncNetworkInterface)
    (routes : List Route) :
    withRoutes interfaces routes =
      { interfaces, routerTable := routes } := by
  induction routes using List.reverseRecOn with
  | nil =>
      rfl
  | append_singleton routes route inductionHypothesis =>
      rw [withRoutes] at inductionHypothesis ⊢
      rw [List.foldl_append, inductionHypothesis]
      rfl

section Choice

variable {dst : UInt32} {routes : List Route}

/-- Without a match the search finds nothing. -/
theorem longestPrefix_of_no_match
    (none : ∀ route ∈ routes, ¬ route.Matches dst) :
    longestPrefix dst routes = .none := by
  have found := found_search dst routes
  rw [longestPrefix]
  generalize routes.zipIdx.foldl (consider dst) (.none, 0) = best at found
  obtain ⟨index, length⟩ := best
  cases index with
  | none =>
      rfl
  | some index =>
      obtain ⟨route, _, _, maximal⟩ := found
      exact absurd maximal.admitted (none route maximal.mem)

/-- With a match it finds the last of the longest ones. -/
theorem longestPrefix_of_match
    (matching : ∃ route ∈ routes, route.Matches dst) :
    ∃ index route,
      longestPrefix dst routes = some index ∧
        routes[index]? = some route ∧
        LastMaximal (Route.Matches · dst)
          (fun route => route.prefixLength.toNat) routes route := by
  have found := found_search dst routes
  rw [longestPrefix]
  generalize routes.zipIdx.foldl (consider dst) (none, 0) = best at found ⊢
  obtain ⟨index, length⟩ := best
  cases index with
  | none =>
      obtain ⟨_, others⟩ := found
      obtain ⟨route, member, agrees⟩ := matching
      exact absurd agrees (others route member)
  | some index =>
      obtain ⟨route, entry, _, maximal⟩ := found
      exact ⟨index, route, rfl, entry, maximal⟩

end Choice

/-- The datagram with one hop less to live. -/
def hopped (dgram : InternetDatagram) : InternetDatagram :=
  { dgram with
    header := { dgram.header with ttl := dgram.header.ttl - 1 } }

section Forward

variable {router : Router} {dgram : InternetDatagram}

theorem routeOneDatagram_of_expired
    (expired : dgram.header.ttl ≤ 1) :
    router.routeOneDatagram dgram = .ok () (dgram, router) := by
  rw [routeOneDatagram, if_pos expired]

theorem routeOneDatagram_of_no_route
    (alive : ¬ dgram.header.ttl ≤ 1)
    (missing :
      longestPrefix dgram.header.dst router.routerTable = none) :
    router.routeOneDatagram dgram = .ok () (hopped dgram, router) := by
  rw [routeOneDatagram, if_neg alive]
  simp only [missing, Option.bind_none]
  rfl

theorem routeOneDatagram_of_route
    {index : Nat}
    {route : Route}
    {interface : AsyncNetworkInterface}
    {after : NetworkInterface}
    (alive : ¬ dgram.header.ttl ≤ 1)
    (found :
      longestPrefix dgram.header.dst router.routerTable = some index)
    (entry : router.routerTable[index]? = some route)
    (atInterface :
      router.interfaces[route.interfaceNum]? = some interface)
    (sent :
      interface.toNetworkInterface.sendDatagram (hopped dgram)
          (route.nextHop.getD { ipv4Numeric := dgram.header.dst }) =
        .ok () after) :
    router.routeOneDatagram dgram =
      .ok ()
        (hopped dgram,
          router.setInterface route.interfaceNum
            { interface with toNetworkInterface := after }) := by
  rw [hopped] at sent ⊢
  rw [routeOneDatagram, if_neg alive]
  simp only [found, entry, atInterface, Option.bind_some]
  rw [sent]

end Forward

/--
Routing is longest-prefix match.  A datagram is dropped if it may not live on or
no route agrees with its destination.  Otherwise the interface of the last of
the longest routes that do is asked once to send it, one hop older and otherwise
as it was, to the next hop of that route or to its destination; no other
interface changes.
-/
theorem routeOneDatagram_longest_match
    (interfaces : List AsyncNetworkInterface)
    (routes : List Route)
    (dgram : InternetDatagram)
    (valid :
      ∀ route ∈ routes,
        route.prefixLength ≤ 32 ∧
          route.interfaceNum < interfaces.length)
    (wellFormed : dgram.WellFormed) :
    let router := withRoutes interfaces routes
    let dst := dgram.header.dst
    (dgram.header.ttl ≤ 1 ∨ (∀ route ∈ routes, ¬ route.Agrees dst) →
      ∃ passed,
        router.routeOneDatagram dgram = .ok () (passed, router)) ∧
    (¬ dgram.header.ttl ≤ 1 →
      (∃ route ∈ routes, route.Agrees dst) →
      ∃ route interface after,
        LastMaximal (Route.Agrees · dst)
            (fun route => route.prefixLength.toNat) routes route ∧
          interfaces[route.interfaceNum]? = some interface ∧
          interface.toNetworkInterface.sendDatagram (hopped dgram)
              (route.nextHop.getD { ipv4Numeric := dst }) =
            .ok () after ∧
          router.routeOneDatagram dgram =
            .ok ()
              (hopped dgram,
                router.setInterface route.interfaceNum
                  { interface with toNetworkInterface := after }) ∧
          (hopped dgram).header.ttl.toNat + 1 =
            dgram.header.ttl.toNat) := by
  intro router dst
  have table : router = { interfaces, routerTable := routes } :=
    withRoutes_eq interfaces routes
  have agree :
      ∀ route ∈ routes, (route.Matches dst ↔ route.Agrees dst) :=
    fun route member => route.matches_iff_agrees (valid route member).1 dst
  constructor
  · intro dropped
    by_cases expired : dgram.header.ttl ≤ 1
    · exact ⟨dgram, routeOneDatagram_of_expired expired⟩
    · have unmatched : ∀ route ∈ routes, ¬ route.Matches dst := by
        intro route member matching
        exact (dropped.resolve_left expired) route member
          ((agree route member).mp matching)
      refine ⟨hopped dgram, routeOneDatagram_of_no_route expired ?_⟩
      rw [table]
      exact longestPrefix_of_no_match unmatched
  · rintro alive ⟨matching, member, agrees⟩
    obtain ⟨index, route, found, entry, maximal⟩ :=
      longestPrefix_of_match
        ⟨matching, member, (agree matching member).mpr agrees⟩
    have inside := (valid route maximal.mem).2
    have atInterface := List.getElem?_eq_getElem inside
    -- the time to live is not looked at by the serialiser
    have serializable : (hopped dgram).Serializable :=
      ⟨wellFormed.serializable.sized, wellFormed.version,
        wellFormed.minimal⟩
    have sent :=
      eq_ok_of_returned
        (NetworkInterface.sendDatagram_returns serializable
          (route.nextHop.getD { ipv4Numeric := dst })
          interfaces[route.interfaceNum].toNetworkInterface)
    have search :
        longestPrefix dst router.routerTable = some index := by
      rw [table]
      exact found
    have chosen : router.routerTable[index]? = some route := by
      rw [table]
      exact entry
    have owned :
        router.interfaces[route.interfaceNum]? =
          some interfaces[route.interfaceNum] := by
      rw [table]
      exact atInterface
    refine ⟨route, _, _, maximal.congr agree, atInterface, sent, ?_, ?_⟩
    · exact routeOneDatagram_of_route alive search chosen owned sent
    · change (dgram.header.ttl - 1).toNat + 1 = _
      have older : 1 ≤ dgram.header.ttl :=
        Std.le_of_lt (UInt8.not_le.mp alive)
      have positive := UInt8.le_iff_toNat_le.mp older
      rw [UInt8.toNat_sub_of_le _ _ older]
      exact Nat.sub_add_cancel positive

/-- Two interfaces, a default route and two routes to the same network. -/
theorem routeOneDatagram_longest_match_nested :
    let interface : AsyncNetworkInterface := {
      ethernetAddress := List.Vector.replicate 6 2
      ipAddress := { ipv4Numeric := 1 }
    }
    let routes : List Route :=
      [⟨0, 0, none, 0⟩, ⟨0x0a000000, 8, none, 0⟩,
        ⟨0x0a0000ff, 8, some { ipv4Numeric := 7 }, 1⟩]
    let dgram : InternetDatagram := {
      header := { len := 20, ttl := 2, dst := 0x0a000001 }
      payload := []
    }
    ∃ route,
      LastMaximal (Route.Agrees · 0x0a000001)
          (fun route => route.prefixLength.toNat) routes route ∧
        ∃ after,
          (withRoutes [interface, interface] routes).routeOneDatagram
              dgram =
            .ok () (hopped dgram, after) := by
  intro interface routes dgram
  obtain ⟨route, _, _, maximal, _, _, routed, _⟩ :=
    (routeOneDatagram_longest_match [interface, interface] routes dgram
      (by decide) (by decide)).2 (by decide) (by decide)
  exact ⟨route, maximal, _, routed⟩

end Router

end Sponge
