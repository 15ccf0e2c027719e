import Sponge.Execution
import Sponge.NetworkInterface

namespace Sponge

namespace NetworkInterface

/-!
# Runs of a network interface

A session records, beside the interface, the datagrams it was asked to send,
the valid messages it heard and every frame it emitted, each with the time and
with the next hop of the call that emitted it.  For every next hop the emitted
frames followed by the queue are the datagrams sent to it, in order.
-/

/-- The calls of the owner of an interface. -/
inductive Op where
  | send (dgram : InternetDatagram) (nextHop : Address)
  | recv (frame : EthernetFrame)
  | tick (ms : Nat)

/-- The interface after a call, whether the call returned or threw. -/
def perform (interface : NetworkInterface) : Op → NetworkInterface
  | .send dgram nextHop =>
      finalState (interface.sendDatagram dgram nextHop)
  | .recv frame => finalState (interface.recvFrame frame)
  | .tick ms => interface.tick ms

theorem perform_send
    (before : NetworkInterface)
    (dgram : InternetDatagram)
    (nextHop : Address) :
    SendOutcome dgram nextHop.ipv4Numeric before
      (before.perform (.send dgram nextHop)) :=
  sendDatagram_outcome dgram nextHop before

theorem perform_recv_of_not_heard
    {before : NetworkInterface}
    {frame : EthernetFrame}
    (silent : before.heardIn frame = none) :
    before.perform (.recv frame) = before := by
  rw [perform, recvFrame_of_not_heard silent]
  rfl

theorem perform_recv_of_heard
    {before : NetworkInterface}
    {frame : EthernetFrame}
    {message : ARPMessage}
    (heard : before.heardIn frame = some message) :
    ∃ flushed remaining frames replies,
      Learned message before (before.perform (.recv frame))
        flushed remaining frames replies := by
  obtain ⟨flushed, remaining, frames, replies, learned, _⟩ :=
    learn_learned (heardIn_supported heard) before
  rw [← (recvFrame_of_heard heard).1] at learned
  exact ⟨flushed, remaining, frames, replies, learned⟩

/-- The next hop a call sends datagrams to. -/
def hop (interface : NetworkInterface) : Op → Option UInt32
  | .send _ nextHop => some nextHop.ipv4Numeric
  | .recv frame =>
      (interface.heardIn frame).map ARPMessage.senderIpAddress
  | .tick _ => none

/-- The datagram a call hands over for a next hop. -/
def Op.offered (query : UInt32) : Op → List InternetDatagram
  | .send dgram nextHop =>
      if nextHop.ipv4Numeric = query then [dgram] else []
  | _ => []

/-- The frames a call pushed. -/
def emitted (before after : NetworkInterface) : List EthernetFrame :=
  after.framesOut.drop before.framesOut.length

theorem emitted_of_append
    {before after : NetworkInterface}
    {frames : List EthernetFrame}
    (pushed : after.framesOut = before.framesOut ++ frames) :
    emitted before after = frames := by
  rw [emitted, pushed, List.drop_left]

/-- A frame, when it was emitted and for which next hop. -/
structure Emission where
  time : Nat
  hop : Option UInt32
  frame : EthernetFrame
  deriving DecidableEq

/-- An interface and the history of its calls. -/
structure Session where
  interface : NetworkInterface
  clock : Nat := 0
  sent : List (UInt32 × InternetDatagram) := []
  -- the newest message first
  heard : List (Nat × ARPMessage) := []
  emissions : List Emission := []

namespace Session

/-- Perform a call, and record its time, what it sends and what it hears. -/
def step (session : Session) (op : Op) : Session where
  interface := session.interface.perform op
  clock :=
    match op with
    | .tick ms => session.clock + ms
    | _ => session.clock
  sent :=
    match op with
    | .send dgram nextHop =>
        session.sent ++ [(nextHop.ipv4Numeric, dgram)]
    | _ => session.sent
  heard :=
    match op with
    | .recv frame =>
        match session.interface.heardIn frame with
        | some message => (session.clock, message) :: session.heard
        | none => session.heard
    | _ => session.heard
  emissions :=
    session.emissions ++
      (emitted session.interface (session.interface.perform op)).map
        (Emission.mk session.clock (session.interface.hop op))

/-- A session with a newly constructed interface. -/
def start
    (ethernetAddress : EthernetAddress)
    (ipAddress : Address) : Session where
  interface := { ethernetAddress, ipAddress }

/-- The session after a list of calls. -/
def after
    (ethernetAddress : EthernetAddress)
    (ipAddress : Address)
    (ops : List Op) : Session :=
  Execution.run step (start ethernetAddress ipAddress) ops

/-- The datagrams sent to a next hop, in call order. -/
def sendsFor
    (session : Session)
    (hop : UInt32) : List InternetDatagram :=
  (session.sent.filter fun call => call.1 = hop).map Prod.snd

/-- The IPv4 frames emitted for a next hop, in order. -/
def framesFor
    (session : Session)
    (hop : UInt32) : List EthernetFrame :=
  (session.emissions.filter fun emission =>
    emission.hop = some hop ∧
      emission.frame.header.type = EthernetHeader.typeIPv4).map
    Emission.frame

/-- The IPv4 frames among some. -/
def ipv4Frames (frames : List EthernetFrame) : List EthernetFrame :=
  frames.filter fun frame =>
    frame.header.type = EthernetHeader.typeIPv4

theorem framesFor_step
    (session : Session)
    (op : Op)
    (hop : UInt32) :
    (session.step op).framesFor hop =
      session.framesFor hop ++
        if session.interface.hop op = some hop then
          ipv4Frames
            (emitted session.interface (session.interface.perform op))
        else
          [] := by
  simp only [framesFor, step, List.filter_append, List.map_append,
    List.append_cancel_left_eq]
  rw [List.filter_map, List.map_map]
  by_cases same : session.interface.hop op = some hop
  · simp [same, Function.comp_def, ipv4Frames]
  · simp [same, Function.comp_def]

theorem sendsFor_step
    (session : Session)
    (op : Op)
    (hop : UInt32) :
    (session.step op).sendsFor hop =
      session.sendsFor hop ++ op.offered hop := by
  cases op with
  | send dgram nextHop =>
      by_cases same : nextHop.ipv4Numeric = hop
      · simp [sendsFor, step, Op.offered, same]
      · simp [sendsFor, step, Op.offered, same]
  | recv frame =>
      simp [sendsFor, step, Op.offered]
  | tick ms =>
      simp [sendsFor, step, Op.offered]

end Session

/-- Only datagrams that can be sent wait, and only for unknown next hops. -/
structure Ordered (interface : NetworkInterface) : Prop where
  valid :
    ∀ hop, ∀ dgram ∈ interface.queued hop, dgram.Serializable
  known :
    ∀ hop,
      interface.cacheMap.lookup hop ≠ none →
      interface.queued hop = []

/-- The datagram is sent as the payload of the frame. -/
def Delivers (dgram : InternetDatagram) (frame : EthernetFrame) : Prop :=
  dgram.serialize = .ok frame.payload

theorem Carries.forall₂_ipv4
    {src dst : EthernetAddress}
    {dgrams : List InternetDatagram}
    {frames : List EthernetFrame}
    (carried : List.Forall₂ (Carries src dst) dgrams frames) :
    List.Forall₂ Delivers dgrams frames ∧
      Session.ipv4Frames frames = frames := by
  induction carried with
  | nil =>
      exact ⟨.nil, rfl⟩
  | cons carries _ inductionHypothesis =>
      have isIPv4 :
          _ = EthernetHeader.typeIPv4 :=
        congrArg EthernetHeader.type carries.header
      refine ⟨.cons carries.payload inductionHypothesis.1, ?_⟩
      rw [Session.ipv4Frames, List.filter_cons_of_pos (by simp [isIPv4])]
      exact congrArg _ inductionHypothesis.2

theorem ipv4Frames_arpFrame
    (interface : NetworkInterface)
    (dst : EthernetAddress)
    (message : ARPMessage) :
    Session.ipv4Frames [interface.arpFrame dst message] = [] :=
  rfl

/--
One call moves datagrams for a next hop from the front of the queue to the
wire, after the datagram it was given has joined the end of the queue.
-/
structure InOrder
    (before after : NetworkInterface)
    (op : Op)
    (query : UInt32)
    (flushed : List InternetDatagram) : Prop where
  fifo :
    before.queued query ++ op.offered query =
      flushed ++ after.queued query
  delivered :
    List.Forall₂ Delivers flushed
      (if before.hop op = some query then
        Session.ipv4Frames (emitted before after)
      else
        [])

/-- Joining the end of the queue, while no IPv4 frame goes out. -/
theorem enqueue_inOrder
    {before changed : NetworkInterface}
    {dgram : InternetDatagram}
    {nextHop : Address}
    (ordered : before.Ordered)
    (valid : dgram.Serializable)
    (unknown : before.cacheMap.lookup nextHop.ipv4Numeric = none)
    (sameQueue : changed.datagramQueue = before.datagramQueue)
    (sameCache : changed.cacheMap = before.cacheMap)
    (quiet :
      Session.ipv4Frames
        (emitted before
          (changed.enqueue nextHop.ipv4Numeric dgram)) = []) :
    (changed.enqueue nextHop.ipv4Numeric dgram).Ordered ∧
      ∀ query,
        ∃ flushed,
          InOrder before (changed.enqueue nextHop.ipv4Numeric dgram)
            (.send dgram nextHop) query flushed := by
  have same : ∀ query, changed.queued query = before.queued query :=
    fun query => by rw [queued, queued, sameQueue]
  have queuedAfter :
      ∀ query,
        (changed.enqueue nextHop.ipv4Numeric dgram).queued query =
          before.queued query ++
            (Op.send dgram nextHop).offered query := by
    intro query
    rw [queued_enqueue, same, same, Op.offered]
    by_cases hop : nextHop.ipv4Numeric = query
    · rw [if_pos hop.symm, if_pos hop, hop]
    · rw [if_neg (Ne.symm hop), if_neg hop, List.append_nil]
  refine ⟨⟨?_, ?_⟩, ?_⟩
  · intro query queuedDgram member
    rw [queuedAfter] at member
    rcases List.mem_append.mp member with early | offered
    · exact ordered.valid query queuedDgram early
    · rw [Op.offered] at offered
      split at offered
      · rw [List.mem_singleton.mp offered]
        exact valid
      · cases offered
  · intro query found
    change changed.cacheMap.lookup query ≠ none at found
    rw [sameCache] at found
    have other : nextHop.ipv4Numeric ≠ query := by
      rintro rfl
      exact found unknown
    rw [queuedAfter, ordered.known query found, Op.offered,
      if_neg other]
    rfl
  · intro query
    refine ⟨[], ?_, ?_⟩
    · rw [queuedAfter, List.nil_append]
    · rw [quiet]
      split <;> exact .nil

/-- Sending a valid datagram keeps the order of its next hop. -/
theorem sendDatagram_inOrder
    {before : NetworkInterface}
    {dgram : InternetDatagram}
    {nextHop : Address}
    (ordered : before.Ordered)
    (valid : dgram.Serializable) :
    (before.perform (.send dgram nextHop)).Ordered ∧
      ∀ query,
        ∃ flushed,
          InOrder before (before.perform (.send dgram nextHop))
            (.send dgram nextHop) query flushed := by
  have outcome := before.perform_send dgram nextHop
  generalize before.perform (.send dgram nextHop) = after at outcome ⊢
  cases outcome with
  | @carried dst left frame known carries =>
      have pushed :
          emitted before
              { before with framesOut := before.framesOut ++ [frame] } =
            [frame] :=
        emitted_of_append rfl
      refine ⟨⟨ordered.valid, ordered.known⟩, fun query => ?_⟩
      by_cases hop : nextHop.ipv4Numeric = query
      · refine ⟨[dgram], ?_, ?_⟩
        · have empty : before.queued query = [] :=
            ordered.known query (by rw [← hop, known]; simp)
          change _ = [dgram] ++ before.queued query
          rw [empty, Op.offered, if_pos hop]
          rfl
        · obtain ⟨delivers, isIPv4⟩ :=
            Carries.forall₂_ipv4 (.cons carries .nil)
          rw [pushed, isIPv4, NetworkInterface.hop,
            if_pos (congrArg some hop)]
          exact delivers
      · refine ⟨[], ?_, ?_⟩
        · rw [Op.offered, if_neg hop, List.append_nil]
          rfl
        · rw [NetworkInterface.hop, if_neg (by simpa using hop)]
          exact .nil
  | rejected known invalid =>
      exact absurd valid invalid
  | waiting unknown asked =>
      have nothing :
          emitted before (before.enqueue nextHop.ipv4Numeric dgram) =
            [] :=
        emitted_of_append (List.append_nil _).symm
      refine enqueue_inOrder ordered valid unknown rfl rfl ?_
      rw [nothing]
      rfl
  | asking unknown unasked =>
      refine enqueue_inOrder ordered valid unknown rfl rfl ?_
      rw [emitted_of_append rfl]
      exact ipv4Frames_arpFrame before _ _

section Learned

variable {message : ARPMessage} {before after : NetworkInterface}
variable {flushed remaining : List InternetDatagram}
variable {frames replies : List EthernetFrame}

/-- The answers to a message are not IPv4 frames. -/
theorem Learned.ipv4Frames_emitted
    (learned :
      Learned message before after flushed remaining frames replies) :
    Session.ipv4Frames (emitted before after) = frames := by
  have noReply : Session.ipv4Frames replies = [] := by
    rcases learned.answered with none | answers
    · rw [none]
      rfl
    · rw [answers, NetworkInterface.answers]
      split
      · exact ipv4Frames_arpFrame before _ _
      · rfl
  rw [emitted_of_append learned.framesOut, Session.ipv4Frames,
    List.filter_append]
  change Session.ipv4Frames frames ++ Session.ipv4Frames replies = _
  rw [(Carries.forall₂_ipv4 learned.carried).2, noReply,
    List.append_nil]

end Learned

/-- A message sends everything that waits for its sender. -/
theorem learn_inOrder
    {before : NetworkInterface}
    {frame : EthernetFrame}
    {message : ARPMessage}
    (ordered : before.Ordered)
    (heard : before.heardIn frame = some message) :
    (before.perform (.recv frame)).Ordered ∧
      ∀ query,
        ∃ flushed,
          InOrder before (before.perform (.recv frame)) (.recv frame)
            query flushed := by
  obtain ⟨flushed, remaining, frames, replies, learned⟩ :=
    perform_recv_of_heard heard
  generalize before.perform (.recv frame) = after at learned ⊢
  have all := learned.remaining_eq_nil (ordered.valid _)
  subst all
  have queuedAfter := learned.left
  refine ⟨⟨?_, ?_⟩, ?_⟩
  · intro query dgram member
    rw [queuedAfter] at member
    split at member
    · cases member
    · exact ordered.valid query dgram member
  · intro query found
    rw [queuedAfter]
    split
    · rfl
    · rename_i other
      rw [learned.cacheMap] at found
      rw [AList.lookup_insert_ne other] at found
      exact ordered.known query found
  · intro query
    by_cases sender : query = message.senderIpAddress
    · refine ⟨flushed, ?_, ?_⟩
      · rw [queuedAfter, if_pos sender, sender, learned.waited]
        exact List.append_nil _
      · have hop : before.hop (.recv frame) = some query := by
          rw [NetworkInterface.hop, heard, sender]
          rfl
        rw [if_pos hop, learned.ipv4Frames_emitted]
        exact (Carries.forall₂_ipv4 learned.carried).1
    · refine ⟨[], ?_, ?_⟩
      · rw [queuedAfter, if_neg sender, List.nil_append]
        exact List.append_nil _
      · have hop : ¬ before.hop (.recv frame) = some query := by
          rw [NetworkInterface.hop, heard]
          exact fun same => sender (Option.some.inj same).symm
        rw [if_neg hop]
        exact .nil

/-- The calls whose datagram can be serialised. -/
def Op.Sendable : Op → Prop
  | .send dgram _ => ∃ out, dgram.serialize = .ok out
  | _ => True

/-- Every call keeps the order of every next hop. -/
theorem perform_inOrder
    {before : NetworkInterface}
    {op : Op}
    (ordered : before.Ordered)
    (sendable : op.Sendable) :
    (before.perform op).Ordered ∧
      ∀ query,
        ∃ flushed,
          InOrder before (before.perform op) op query flushed := by
  cases op with
  | send dgram nextHop =>
      obtain ⟨out, serialized⟩ := sendable
      exact sendDatagram_inOrder ordered
        (IPv4Datagram.serializable_of_serialize serialized)
  | recv frame =>
      cases heard : before.heardIn frame with
      | some message =>
          exact learn_inOrder ordered heard
      | none =>
          rw [perform_recv_of_not_heard heard]
          refine ⟨ordered, fun query => ⟨[], List.append_nil _, ?_⟩⟩
          rw [NetworkInterface.hop, heard]
          exact .nil
  | tick ms =>
      refine ⟨⟨ordered.valid, ?_⟩,
        fun query => ⟨[], List.append_nil _, .nil⟩⟩
      intro query found
      obtain ⟨⟨address, left⟩, stillThere⟩ :=
        Option.ne_none_iff_exists'.mp found
      obtain ⟨old, wasThere, _⟩ := tick_cacheMap.mp stillThere
      exact ordered.known query (by rw [wasThere]; simp)

namespace Session

/-- What a session knows about one next hop at any time. -/
structure InOrder
    (session : Session)
    (query : UInt32)
    (flushed : List InternetDatagram) : Prop where
  fifo :
    flushed ++ session.interface.queued query = session.sendsFor query
  delivered :
    List.Forall₂ Delivers flushed (session.framesFor query)

theorem InOrder.step
    {session : Session}
    {op : Op}
    {query : UInt32}
    {flushed more : List InternetDatagram}
    (inOrder : session.InOrder query flushed)
    (moved :
      NetworkInterface.InOrder session.interface
        (session.interface.perform op) op query more) :
    (session.step op).InOrder query (flushed ++ more) where
  fifo := by
    rw [sendsFor_step, ← inOrder.fifo, List.append_assoc,
      List.append_assoc, moved.fifo]
    rfl
  delivered := by
    rw [framesFor_step]
    exact List.rel_append inOrder.delivered moved.delivered

/--
For every next hop, the frames emitted for it and then the datagrams queued for
it are the datagrams sent to it, in call order; and nothing waits for a next hop
that is known.
-/
theorem frames_then_queue_are_sends
    (ethernetAddress : EthernetAddress)
    (ipAddress : Address)
    {ops : List Op}
    (sendable : ∀ op ∈ ops, op.Sendable)
    (query : UInt32) :
    (∃ flushed,
      flushed ++
          (after ethernetAddress ipAddress ops).interface.queued query =
        (after ethernetAddress ipAddress ops).sendsFor query ∧
      List.Forall₂
        (fun dgram frame => dgram.serialize = .ok frame.payload)
        flushed
        ((after ethernetAddress ipAddress ops).framesFor query)) ∧
    ((after ethernetAddress ipAddress ops).interface.cacheMap.lookup
        query ≠ none →
      (after ethernetAddress ipAddress ops).interface.queued query =
        []) := by
  have invariant :
      (after ethernetAddress ipAddress ops).interface.Ordered ∧
        ∃ flushed,
          (after ethernetAddress ipAddress ops).InOrder query
            flushed := by
    refine
      Execution.EveryStep.invariant
        (fun session : Session =>
          session.interface.Ordered ∧
            ∃ flushed, session.InOrder query flushed)
        ?_ ?_
        (Execution.EveryStep.of_forall_mem sendable _)
    · rintro session op ⟨ordered, flushed, inOrder⟩ valid
      obtain ⟨orderedAfter, moves⟩ := perform_inOrder ordered valid
      obtain ⟨more, moved⟩ := moves query
      exact ⟨orderedAfter, _, inOrder.step moved⟩
    · have empty :
          ∀ hop, (start ethernetAddress ipAddress).interface.queued hop =
            [] :=
        fun _ => rfl
      refine ⟨⟨?_, fun hop _ => empty hop⟩, [], rfl, .nil⟩
      intro hop dgram member
      rw [empty] at member
      cases member
  obtain ⟨ordered, flushed, inOrder⟩ := invariant
  exact ⟨⟨flushed, inOrder.fifo, inOrder.delivered⟩,
    ordered.known query⟩

/-- Another interface on the same network. -/
def neighbour : NetworkInterface where
  ethernetAddress := List.Vector.replicate 6 3
  ipAddress := { ipv4Numeric := 7 }

/-- A datagram waits until its next hop asks for this interface. -/
def announced : List Op :=
  [.send { header := { len := 20 } } neighbour.ipAddress,
    .recv (neighbour.arpFrame ethernetBroadcast
      (neighbour.arpRequest 1))]

theorem announced_sendable :
    ∀ op ∈ announced, op.Sendable := by
  intro op member
  rcases List.mem_cons.mp member with rfl | later
  · obtain ⟨out, serialized, _⟩ :=
      IPv4Datagram.serialize_of_serializable
        (IPv4Datagram.WellFormed.serializable
          (show IPv4Datagram.WellFormed { header := { len := 20 } } by
            decide))
    exact ⟨out, serialized⟩
  · rw [List.mem_singleton.mp later]
    trivial

theorem frames_then_queue_are_sends_announced :
    let session :=
      after (List.Vector.replicate 6 2) { ipv4Numeric := 1 } announced
    (session.framesFor 7).length = 1 ∧
      ∃ flushed,
        flushed ++ session.interface.queued 7 = session.sendsFor 7 ∧
          List.Forall₂
            (fun dgram frame => dgram.serialize = .ok frame.payload)
            flushed (session.framesFor 7) :=
  ⟨by decide +kernel,
    (frames_then_queue_are_sends _ _ announced_sendable 7).1⟩

end Session

end NetworkInterface

end Sponge
