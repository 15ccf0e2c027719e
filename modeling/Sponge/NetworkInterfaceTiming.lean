import Sponge.NetworkInterfaceRun

namespace Sponge

namespace NetworkInterface

/-!
# Fresh addresses and throttled requests

Time passes by ticks only.  The cache holds what was heard last from a sender,
for thirty seconds after it was heard; a pending request keeps the next one for
the same address back for five seconds.
-/

/-- The address a frame asks for, if it is a request. -/
def requestIn (frame : EthernetFrame) : Option UInt32 :=
  (arpMessage frame).bind fun message =>
    if message.opcode = ARPMessage.opcodeRequest then
      some message.targetIpAddress
    else
      none

theorem requestIn_of_ipv4
    {frame : EthernetFrame}
    (isIPv4 : frame.header.type = EthernetHeader.typeIPv4) :
    requestIn frame = none := by
  have notArp : ¬ frame.header.type = EthernetHeader.typeArp := by
    rw [isIPv4]
    decide
  rw [requestIn, arpMessage, if_neg notArp]
  rfl

theorem requestIn_arpFrame
    {message : ARPMessage}
    (supported : message.supported = true)
    (interface : NetworkInterface)
    (dst : EthernetAddress) :
    requestIn (interface.arpFrame dst message) =
      if message.opcode = ARPMessage.opcodeRequest then
        some message.targetIpAddress
      else
        none := by
  rw [requestIn, arpMessage_arpFrame supported]
  rfl

/-- A call emits no request, or the one request it has to make. -/
inductive RequestOutcome
    (before after : NetworkInterface) : Op → Prop
  | none
      {op : Op}
      (quiet :
        ∀ frame ∈ emitted before after, requestIn frame = none)
      (same : after.arpRequests = before.arpRequests)
      (timeless : ∀ ms, op ≠ .tick ms) :
      RequestOutcome before after op
  | asked
      {dgram : InternetDatagram}
      {nextHop : Address}
      {frame : EthernetFrame}
      (single : emitted before after = [frame])
      (request : requestIn frame = some nextHop.ipv4Numeric)
      (unasked :
        before.arpRequests.lookup nextHop.ipv4Numeric = Option.none)
      (noted :
        after.arpRequests =
          before.arpRequests.insert nextHop.ipv4Numeric (5 * 1000)) :
      RequestOutcome before after (.send dgram nextHop)
  | aged
      {ms : Nat}
      (quiet : emitted before after = [])
      (ticked : after = before.tick ms) :
      RequestOutcome before after (.tick ms)

theorem Carries.forall₂_dst
    {src dst : EthernetAddress}
    {dgrams : List InternetDatagram}
    {frames : List EthernetFrame}
    (carried : List.Forall₂ (Carries src dst) dgrams frames) :
    ∀ frame ∈ frames,
      frame.header.type = EthernetHeader.typeIPv4 ∧
        frame.header.dst = dst := by
  intro frame member
  induction carried with
  | nil =>
      cases member
  | cons carries _ inductionHypothesis =>
      rcases List.mem_cons.mp member with rfl | later
      · rw [carries.header]
        exact ⟨rfl, rfl⟩
      · exact inductionHypothesis later

/-- The answers to a message are no requests. -/
theorem requestIn_answers
    {message : ARPMessage}
    (supported : message.supported = true)
    (interface : NetworkInterface) :
    ∀ frame ∈ interface.answers message, requestIn frame = none := by
  intro frame member
  rw [answers] at member
  split at member
  · rw [List.mem_singleton.mp member,
      requestIn_arpFrame (arpReply_supported supported interface)]
    rfl
  · cases member

theorem perform_request
    (before : NetworkInterface)
    (op : Op) :
    RequestOutcome before (before.perform op) op := by
  cases op with
  | send dgram nextHop =>
      have outcome := before.perform_send dgram nextHop
      generalize before.perform (.send dgram nextHop) = after
        at outcome ⊢
      cases outcome with
      | carried known carries =>
          refine .none ?_ rfl (by simp)
          rw [emitted_of_append rfl]
          intro frame member
          rw [List.mem_singleton.mp member]
          exact requestIn_of_ipv4
            (congrArg EthernetHeader.type carries.header)
      | rejected known invalid =>
          refine .none ?_ rfl (by simp)
          rw [emitted_of_append (List.append_nil _).symm]
          simp
      | waiting unknown asked =>
          have nothing :
              emitted before
                  (before.enqueue nextHop.ipv4Numeric dgram) = [] :=
            emitted_of_append (List.append_nil _).symm
          refine .none ?_ rfl (by simp)
          rw [nothing]
          simp
      | asking unknown unasked =>
          refine .asked (emitted_of_append rfl) ?_ unasked rfl
          exact requestIn_arpFrame (before.arpRequest_supported _)
            before _
  | recv frame =>
      cases heard : before.heardIn frame with
      | none =>
          rw [perform_recv_of_not_heard heard]
          refine .none ?_ rfl (by simp)
          rw [emitted_of_append (List.append_nil _).symm]
          simp
      | some message =>
          obtain ⟨flushed, remaining, frames, replies, learned⟩ :=
            perform_recv_of_heard heard
          refine .none ?_ learned.arpRequests (by simp)
          rw [emitted_of_append learned.framesOut]
          intro pushed member
          rcases List.mem_append.mp member with flushed | replied
          · exact requestIn_of_ipv4
              (Carries.forall₂_dst learned.carried pushed flushed).1
          · rcases learned.answered with none | answers
            · rw [none] at replied
              cases replied
            · rw [answers] at replied
              exact requestIn_answers (heardIn_supported heard) before
                pushed replied
  | tick ms =>
      exact .aged (emitted_of_append (List.append_nil _).symm) rfl

/-- An IPv4 frame goes to a cached address or to the sender just heard. -/
theorem emitted_ipv4
    {before : NetworkInterface}
    {op : Op}
    {frame : EthernetFrame}
    (pushed : frame ∈ emitted before (before.perform op))
    (isIPv4 : frame.header.type = EthernetHeader.typeIPv4) :
    (∃ dgram nextHop left,
      op = .send dgram nextHop ∧
        before.cacheMap.lookup nextHop.ipv4Numeric =
          some (frame.header.dst, left)) ∨
    ∃ carrier message,
      op = .recv carrier ∧
        before.heardIn carrier = some message ∧
        message.senderEthernetAddress = frame.header.dst := by
  cases op with
  | send dgram nextHop =>
      have outcome := before.perform_send dgram nextHop
      generalize before.perform (.send dgram nextHop) = after
        at outcome pushed
      cases outcome with
      | @carried dst left carrier known carries =>
          rw [emitted_of_append rfl, List.mem_singleton] at pushed
          refine Or.inl ⟨dgram, nextHop, left, rfl, ?_⟩
          rw [known, pushed, carries.header]
      | rejected known invalid =>
          rw [emitted_of_append (List.append_nil _).symm] at pushed
          cases pushed
      | waiting unknown asked =>
          have nothing :
              emitted before
                  (before.enqueue nextHop.ipv4Numeric dgram) = [] :=
            emitted_of_append (List.append_nil _).symm
          rw [nothing] at pushed
          cases pushed
      | asking unknown unasked =>
          rw [emitted_of_append rfl, List.mem_singleton] at pushed
          rw [pushed] at isIPv4
          change EthernetHeader.typeArp = EthernetHeader.typeIPv4
            at isIPv4
          exact absurd isIPv4 (by decide)
  | recv carrier =>
      cases heard : before.heardIn carrier with
      | none =>
          rw [perform_recv_of_not_heard heard,
            emitted_of_append (List.append_nil _).symm] at pushed
          cases pushed
      | some message =>
          obtain ⟨flushed, remaining, frames, replies, learned⟩ :=
            perform_recv_of_heard heard
          have flushedFrame : frame ∈ frames := by
            rw [← learned.ipv4Frames_emitted, Session.ipv4Frames,
              List.mem_filter]
            exact ⟨pushed, by simpa using isIPv4⟩
          exact Or.inr ⟨carrier, message, rfl, heard,
            (Carries.forall₂_dst learned.carried frame
              flushedFrame).2.symm⟩
  | tick ms =>
      have nothing :
          emitted before (before.perform (.tick ms)) = [] :=
        emitted_of_append (List.append_nil _).symm
      rw [nothing] at pushed
      cases pushed

/-- A tick takes no more than its length off a pending request. -/
theorem tick_remaining
    (interface : NetworkInterface)
    (ms : Nat)
    (target : UInt32) :
    (interface.arpRequests.lookup target).getD 0 ≤
      ms + ((interface.tick ms).arpRequests.lookup target).getD 0 := by
  cases pending : interface.arpRequests.lookup target with
  | none =>
      exact Nat.zero_le _
  | some old =>
      rw [Option.getD_some]
      by_cases alive : ms < old
      · rw [tick_arpRequests.mpr ⟨old, pending, alive, rfl⟩,
          Option.getD_some]
        omega
      · omega

namespace Session

/-- The latest valid message with this sender, and when it was heard. -/
def latest
    (session : Session)
    (hop : UInt32) : Option (Nat × ARPMessage) :=
  session.heard.find? fun entry => entry.2.senderIpAddress = hop

/-- The requests for an address, in the order in which they were emitted. -/
def requestsFor
    (session : Session)
    (target : UInt32) : List Emission :=
  session.emissions.filter fun emission =>
    requestIn emission.frame = some target

/-- Every cached address was heard last, and its lifetime still runs. -/
def Fresh (session : Session) : Prop :=
  ∀ hop address left,
    session.interface.cacheMap.lookup hop = some (address, left) →
    0 < left ∧
      ∃ time message,
        session.latest hop = some (time, message) ∧
          message.senderEthernetAddress = address ∧
          session.clock + left = time + 30000

/-- A request is followed by the next not before five seconds are over. -/
structure Throttled (session : Session) : Prop where
  kept :
    ∀ target,
      ∀ emission ∈ session.requestsFor target,
        emission.time + 5000 ≤
          session.clock +
            (session.interface.arpRequests.lookup target).getD 0
  spaced :
    ∀ target,
      (session.requestsFor target).Pairwise fun earlier later =>
        earlier.time + 5000 ≤ later.time

theorem latest_step_of_heard
    {session : Session}
    {frame : EthernetFrame}
    {message : ARPMessage}
    (heard : session.interface.heardIn frame = some message)
    (hop : UInt32) :
    (session.step (.recv frame)).latest hop =
      if hop = message.senderIpAddress then
        some (session.clock, message)
      else
        session.latest hop := by
  simp only [latest, step, heard, List.find?_cons]
  by_cases same : hop = message.senderIpAddress
  · simp [same]
  · simp [same, Ne.symm same]

theorem latest_step_of_not_heard
    {session : Session}
    {frame : EthernetFrame}
    (silent : session.interface.heardIn frame = none)
    (hop : UInt32) :
    (session.step (.recv frame)).latest hop = session.latest hop := by
  simp only [latest, step, silent]

theorem Fresh.step
    {session : Session}
    (fresh : session.Fresh)
    (op : Op) :
    (session.step op).Fresh := by
  intro hop address left cached
  cases op with
  | send dgram nextHop =>
      obtain ⟨_, _, sameCache⟩ :=
        (session.interface.perform_send dgram nextHop).others
      exact fresh hop address left (by rwa [← sameCache])
  | recv frame =>
      cases heard : session.interface.heardIn frame with
      | none =>
          rw [latest_step_of_not_heard heard]
          refine fresh hop address left ?_
          rwa [Session.step, perform_recv_of_not_heard heard] at cached
      | some message =>
          obtain ⟨_, _, _, _, learned⟩ := perform_recv_of_heard heard
          rw [latest_step_of_heard heard]
          rw [Session.step, learned.cacheMap,
            UnorderedMap.lookup_insert_eq_some] at cached
          rcases cached with ⟨sender, entry⟩ | ⟨other, cached⟩
          · cases entry
            rw [if_pos sender]
            exact ⟨by decide, session.clock, message, rfl, rfl, rfl⟩
          · rw [if_neg other]
            exact fresh hop address left cached
  | tick ms =>
      obtain ⟨old, wasCached, alive, aged⟩ := tick_cacheMap.mp cached
      obtain ⟨_, time, message, latest, source, expires⟩ :=
        fresh hop address old wasCached
      refine ⟨by omega, time, message, latest, source, ?_⟩
      change session.clock + ms + left = _
      omega

/-- An IPv4 frame goes to the address heard last, and not too long ago. -/
theorem Fresh.emitted
    {session : Session}
    (fresh : session.Fresh)
    {op : Op}
    {frame : EthernetFrame}
    (pushed :
      frame ∈
        emitted session.interface (session.interface.perform op))
    (isIPv4 : frame.header.type = EthernetHeader.typeIPv4) :
    ∃ hop time message,
      session.interface.hop op = some hop ∧
        (session.step op).latest hop = some (time, message) ∧
        message.senderEthernetAddress = frame.header.dst ∧
        (session.step op).clock < time + 30000 := by
  rcases emitted_ipv4 pushed isIPv4 with
    ⟨dgram, nextHop, left, rfl, known⟩ |
    ⟨carrier, message, rfl, heard, source⟩
  · obtain ⟨alive, time, message, latest, source, expires⟩ :=
      fresh _ _ _ known
    refine ⟨_, time, message, rfl, latest, source, ?_⟩
    change session.clock < _
    omega
  · refine ⟨message.senderIpAddress, session.clock, message, ?_, ?_,
      source, ?_⟩
    · rw [NetworkInterface.hop, heard]
      rfl
    · rw [latest_step_of_heard heard, if_pos rfl]
    · change session.clock < _
      omega

/-- The requests of a session after one more call. -/
theorem requestsFor_step
    (session : Session)
    (op : Op)
    (target : UInt32) :
    (session.step op).requestsFor target =
      session.requestsFor target ++
        ((NetworkInterface.emitted session.interface
              (session.interface.perform op)).filter
            fun frame => requestIn frame = some target).map
          (Emission.mk session.clock (session.interface.hop op)) := by
  simp only [requestsFor, step, List.filter_append, List.filter_map]
  rfl

theorem requestsFor_step_of_quiet
    {session : Session}
    {op : Op}
    (quiet :
      ∀ frame ∈
          NetworkInterface.emitted session.interface
            (session.interface.perform op),
        requestIn frame = none)
    (target : UInt32) :
    (session.step op).requestsFor target =
      session.requestsFor target := by
  have nothing :
      (NetworkInterface.emitted session.interface
          (session.interface.perform op)).filter
        (fun frame => requestIn frame = some target) = [] := by
    rw [List.filter_eq_nil_iff]
    intro frame member
    simp [quiet frame member]
  rw [requestsFor_step, nothing, List.map_nil, List.append_nil]

/-- Without a request, it is enough that the deadlines are not missed. -/
theorem Throttled.of_quiet
    {session next : Session}
    (throttled : session.Throttled)
    (sameRequests :
      ∀ target, next.requestsFor target = session.requestsFor target)
    (deadline :
      ∀ target,
        session.clock +
            (session.interface.arpRequests.lookup target).getD 0 ≤
          next.clock +
            (next.interface.arpRequests.lookup target).getD 0) :
    next.Throttled where
  kept target emission member := by
    rw [sameRequests] at member
    exact (throttled.kept target emission member).trans
      (deadline target)
  spaced target := by
    rw [sameRequests]
    exact throttled.spaced target

/-- A request is made when no earlier one is held against it. -/
theorem Throttled.ask
    {session next : Session}
    (throttled : session.Throttled)
    {asked : UInt32}
    {emission : Emission}
    (requests :
      ∀ target,
        next.requestsFor target =
          session.requestsFor target ++
            if asked = target then [emission] else [])
    (now : emission.time = session.clock)
    (sameClock : next.clock = session.clock)
    (unasked : session.interface.arpRequests.lookup asked = none)
    (noted :
      next.interface.arpRequests =
        session.interface.arpRequests.insert asked (5 * 1000)) :
    next.Throttled := by
  have past :
      ∀ earlier ∈ session.requestsFor asked,
        earlier.time + 5000 ≤ session.clock := by
    intro earlier member
    have kept := throttled.kept asked earlier member
    rwa [unasked, Option.getD_none] at kept
  constructor
  case kept =>
    intro target made member
    rw [requests] at member
    rw [noted, sameClock]
    by_cases same : asked = target
    · subst same
      rw [if_pos rfl] at member
      rw [AList.lookup_insert, Option.getD_some]
      rcases List.mem_append.mp member with earlier | new
      · exact (past made earlier).trans (Nat.le_add_right _ _)
      · rw [List.mem_singleton.mp new, now]
    · rw [if_neg same, List.append_nil] at member
      rw [AList.lookup_insert_ne (Ne.symm same)]
      exact throttled.kept target made member
  case spaced =>
    intro target
    rw [requests]
    by_cases same : asked = target
    · subst same
      rw [if_pos rfl, List.pairwise_append]
      refine ⟨throttled.spaced asked, List.pairwise_singleton _ _, ?_⟩
      intro earlier member later new
      rw [List.mem_singleton.mp new, now]
      exact past earlier member
    · rw [if_neg same, List.append_nil]
      exact throttled.spaced target

theorem Throttled.step
    {session : Session}
    (throttled : session.Throttled)
    (op : Op) :
    (session.step op).Throttled := by
  cases perform_request session.interface op with
  | none quiet same timeless =>
      have sameClock : (session.step op).clock = session.clock := by
        cases op with
        | tick ms => exact absurd rfl (timeless ms)
        | _ => rfl
      refine throttled.of_quiet (requestsFor_step_of_quiet quiet) ?_
      intro target
      change _ ≤ (session.step op).clock + (AList.lookup target
        (session.interface.perform op).arpRequests).getD 0
      rw [sameClock, same]
  | @asked dgram nextHop frame single request unasked noted =>
      have requests :
          ∀ target,
            (session.step (.send dgram nextHop)).requestsFor target =
              session.requestsFor target ++
                if nextHop.ipv4Numeric = target then
                  [⟨session.clock, some nextHop.ipv4Numeric, frame⟩]
                else
                  [] := by
        intro target
        rw [requestsFor_step, single]
        by_cases same : nextHop.ipv4Numeric = target
        · simp [request, same, NetworkInterface.hop]
        · simp [request, same]
      exact throttled.ask requests rfl rfl unasked noted
  | @aged ms quiet ticked =>
      refine throttled.of_quiet
        (requestsFor_step_of_quiet (by rw [quiet]; simp)) ?_
      intro target
      have remaining := session.interface.tick_remaining ms target
      change _ ≤ session.clock + ms + (AList.lookup target
        (session.interface.tick ms).arpRequests).getD 0
      omega

/--
Address resolution is fresh and throttled.  Whenever an IPv4 frame is emitted,
the message heard last from its next hop named the address the frame goes to
and is less than thirty seconds old; and requests for one address are at least
five seconds apart.
-/
theorem resolution_fresh_and_throttled
    (ethernetAddress : EthernetAddress)
    (ipAddress : Address)
    (ops : List Op) :
    (∀ op,
      ∀ frame ∈
          ipv4Frames
            (NetworkInterface.emitted
              (after ethernetAddress ipAddress ops).interface
              ((after ethernetAddress ipAddress ops).step op).interface),
        ∃ hop time message,
          (after ethernetAddress ipAddress ops).interface.hop op =
              some hop ∧
            ((after ethernetAddress ipAddress ops).step op).latest hop =
              some (time, message) ∧
            message.senderEthernetAddress = frame.header.dst ∧
            ((after ethernetAddress ipAddress ops).step op).clock <
              time + 30000) ∧
    ∀ target,
      ((after ethernetAddress ipAddress ops).requestsFor
          target).Pairwise
        fun earlier later => earlier.time + 5000 ≤ later.time := by
  have invariant :
      (after ethernetAddress ipAddress ops).Fresh ∧
        (after ethernetAddress ipAddress ops).Throttled := by
    refine
      Execution.run_invariant
        (fun session : Session => session.Fresh ∧ session.Throttled)
        (fun session op holds => ⟨holds.1.step op, holds.2.step op⟩)
        ⟨?_, ?_⟩ ops
    · intro hop address left cached
      cases cached
    · exact ⟨fun _ _ member => (List.not_mem_nil member).elim,
        fun _ => .nil⟩
  refine ⟨fun op frame member => ?_, invariant.2.spaced⟩
  obtain ⟨pushed, isIPv4⟩ := List.mem_filter.mp member
  exact invariant.1.emitted pushed (by simpa using isIPv4)

theorem resolution_fresh_and_throttled_announced :
    let session :=
      after (List.Vector.replicate 6 2) { ipv4Numeric := 1 } announced
    let op := Op.send { header := { len := 20 } } neighbour.ipAddress
    ∃ frame ∈
        ipv4Frames
          (NetworkInterface.emitted session.interface
            (session.step op).interface),
      ∃ hop time message,
        session.interface.hop op = some hop ∧
          (session.step op).latest hop = some (time, message) ∧
          message.senderEthernetAddress = frame.header.dst ∧
          (session.step op).clock < time + 30000 := by
  intro session op
  obtain ⟨frame, emitted⟩ :=
    List.exists_mem_of_ne_nil _
      (show
        ipv4Frames
          (NetworkInterface.emitted session.interface
            (session.step op).interface) ≠ [] by
        decide +kernel)
  exact ⟨frame, emitted,
    (resolution_fresh_and_throttled _ _ announced).1 op frame emitted⟩

end Session

end NetworkInterface

end Sponge
