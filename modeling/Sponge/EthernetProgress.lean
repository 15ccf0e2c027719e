import Sponge.EthernetDelivery

namespace Sponge

/-!
# Waiting datagrams are not stranded

Requests and replies may be lost, and an interface that waits for a reply does
not ask again by itself.  From every reachable state of a segment, the next
datagram that is sent to the same next hop once the last request has expired
takes everything that waits for that hop along.
-/

namespace NetworkInterface

/-- If only valid datagrams wait for its sender, a message is dealt with whole. -/
theorem learn_complete
    {message : ARPMessage}
    (supported : message.supported = true)
    {before : NetworkInterface}
    (valid :
      ∀ dgram ∈ before.queued message.senderIpAddress,
        dgram.Serializable) :
    let after := finalState (before.learn message)
    ∃ frames,
      List.Forall₂
          (Carries before.ethernetAddress message.senderEthernetAddress)
          (before.queued message.senderIpAddress) frames ∧
        after.framesOut =
          before.framesOut ++ (frames ++ before.answers message) ∧
        after.queued message.senderIpAddress = [] := by
  intro after
  obtain ⟨flushed, remaining, frames, effect, returns⟩ :=
    flush_flushed message (before.remember message)
  have nothing : remaining = [] := by
    cases remaining with
    | nil => rfl
    | cons first rest =>
        refine absurd (valid first ?_) (effect.stuck first rfl)
        have waited : before.queued message.senderIpAddress = _ :=
          effect.waited
        rw [waited]
        simp
  subst nothing
  have waited : before.queued message.senderIpAddress = flushed :=
    effect.waited.trans (List.append_nil _)
  have flush := eq_ok_of_returned (returns rfl)
  let middle := finalState ((before.remember message).flush message)
  have learned :
      before.learn message =
        .ok ()
          { middle with
            framesOut := middle.framesOut ++ middle.answers message } := by
    simp only [learn]
    rw [flush]
    exact answer_eq supported middle
  have same : after = _ := congrArg finalState learned
  have answers : middle.answers message = before.answers message := by
    rw [show middle = _ from effect.others]
    rfl
  refine ⟨frames, waited ▸ effect.carried, ?_, ?_⟩
  · rw [same]
    change middle.framesOut ++ middle.answers message = _
    rw [show middle.framesOut = _ from effect.framesOut, answers,
      List.append_assoc]
    rfl
  · rw [same]
    have left := effect.left message.senderIpAddress
    rw [if_pos rfl] at left
    exact left

/-- A next hop is not cached, and it has not been asked about lately. -/
def Forgot
    (interface : NetworkInterface)
    (hop : UInt32) : Prop :=
  interface.cacheMap.lookup hop = none ∧
    interface.arpRequests.lookup hop = none

/-- What is cached or asked about a next hop expires. -/
theorem exists_expired
    (before : NetworkInterface)
    (hop : UInt32) :
    ∃ ms, (before.tick ms).Forgot hop := by
  refine ⟨((before.cacheMap.lookup hop).elim 0 Prod.snd) +
    (before.arpRequests.lookup hop).getD 0, ?_, ?_⟩
  · refine Option.eq_none_iff_forall_ne_some.mpr fun entry found => ?_
    obtain ⟨address, left⟩ := entry
    obtain ⟨old, cached, longer, _⟩ := tick_cacheMap.mp found
    rw [cached] at longer
    simp only [Option.elim_some] at longer
    omega
  · refine Option.eq_none_iff_forall_ne_some.mpr fun left found => ?_
    obtain ⟨old, asked, longer, _⟩ := tick_arpRequests.mp found
    rw [asked] at longer
    simp only [Option.getD_some] at longer
    omega

/-- A datagram for a hop that is neither cached nor asked about. -/
theorem perform_send_unknown
    {before : NetworkInterface}
    {nextHop : Address}
    (unknown : before.cacheMap.lookup nextHop.ipv4Numeric = none)
    (unasked : before.arpRequests.lookup nextHop.ipv4Numeric = none)
    (dgram : InternetDatagram) :
    let after := before.perform (.send dgram nextHop)
    after.framesOut =
        before.framesOut ++
          [before.arpFrame ethernetBroadcast
            (before.arpRequest nextHop.ipv4Numeric)] ∧
      after.queued nextHop.ipv4Numeric =
        before.queued nextHop.ipv4Numeric ++ [dgram] := by
  intro after
  have outcome := before.perform_send dgram nextHop
  change SendOutcome dgram nextHop.ipv4Numeric before after at outcome
  generalize after = final at outcome ⊢
  cases outcome with
  | carried known | rejected known =>
      cases unknown.symm.trans known
  | waiting _ asked =>
      cases unasked.symm.trans asked
  | asking =>
      refine ⟨rfl, ?_⟩
      rw [queued_enqueue, if_pos rfl]
      rfl

/-- A message in a frame for an interface is heard. -/
theorem heardIn_arpFrame
    {listener : NetworkInterface}
    {dst : EthernetAddress}
    {message : ARPMessage}
    (forUs : dst = ethernetBroadcast ∨ dst = listener.ethernetAddress)
    (supported : message.supported = true)
    (interface : NetworkInterface) :
    listener.heardIn (interface.arpFrame dst message) = some message := by
  have addressed : listener.ForUs (interface.arpFrame dst message) := forUs
  rw [heardIn, if_pos addressed, arpMessage_arpFrame supported]

end NetworkInterface

namespace EthernetSegment

open NetworkInterface (Carries)

variable {ι : Type} [DecidableEq ι]

/-- Only packets that are on the wire have been delivered. -/
def DeliveredOnWire (segment : EthernetSegment ι) : Prop :=
  ∀ entry ∈ segment.delivered, entry.1 < segment.wire.length

omit [DecidableEq ι] in
theorem lt_of_delivered
    {delivered : List (Nat × ι)}
    {k bound : Nat}
    {j : ι}
    (earlier : ∀ entry ∈ delivered, entry.1 < bound)
    (inside : k < bound) :
    ∀ entry ∈ delivered ++ [(k, j)], entry.1 < bound := by
  intro entry member
  rcases List.mem_append.mp member with before | now
  · exact earlier entry before
  · rw [List.mem_singleton.mp now]
    exact inside

section Steps

variable {hosts : Hosts ι} {segment : EthernetSegment ι}
variable {tags : List (Option Nat)} {pending : ι → UInt32 → List Nat}
variable {origins : List Nat}

theorem wire_grows
    (segment : EthernetSegment ι)
    (i : ι)
    (op : NetworkInterface.Op) :
    segment.wire.length ≤ (segment.perform i op).wire.length := by
  simp [perform]

theorem DeliveredOnWire.step
    (onWire : segment.DeliveredOnWire)
    (op : Op ι) :
    (segment.step op).DeliveredOnWire := by
  cases op with
  | send i dgram nextHop =>
      intro entry member
      exact (onWire entry member).trans_le (wire_grows _ _ _)
  | tick i ms =>
      intro entry member
      exact (onWire entry member).trans_le (wire_grows _ _ _)
  | deliver k j =>
      cases found : segment.wire[k]? with
      | none =>
          simp only [EthernetSegment.step, found]
          exact onWire
      | some packet =>
          simp only [EthernetSegment.step, found]
          intro entry member
          have inside := (List.getElem?_eq_some_iff.mp found).1
          exact (lt_of_delivered onWire inside entry member).trans_le
            (wire_grows segment j (.recv packet.frame))

omit [DecidableEq ι] in
/-- Only well-formed datagrams wait. -/
theorem Sound.wellFormed_of_queued
    (sound : Sound hosts segment tags pending origins)
    {i : ι}
    {hop : UInt32}
    {dgram : InternetDatagram}
    (waits : dgram ∈ (segment.interfaces i).queued hop) :
    dgram.WellFormed := by
  have waiting := sound.ledger.waiting i hop
  obtain ⟨m, inQueue, rfl⟩ := List.getElem_of_mem waits
  have inPending : m < (pending i hop).length :=
    waiting.length_eq ▸ inQueue
  have called := waiting.get inPending inQueue
  exact sound.valid _ (List.mem_of_getElem? called)

omit [DecidableEq ι] in
/-- A packet that is new on the wire may be delivered. -/
theorem allowed_of_new
    {base k : Nat}
    {j : ι}
    {packet : Packet ι}
    (earlier : ∀ entry ∈ segment.delivered, entry.1 < base)
    (new : base ≤ k)
    (onWire : segment.wire[k]? = some packet)
    (other : packet.origin ≠ j) :
    segment.Allowed (.deliver k j) := by
  refine ⟨packet, onWire, other, fun member => ?_⟩
  exact absurd (earlier _ member) (Nat.not_lt.mpr new)

/-- A message is delivered, and what waits for its sender goes out. -/
theorem deliver_heard
    {k : Nat}
    {j : ι}
    {packet : Packet ι}
    {message : ARPMessage}
    (onWire : segment.wire[k]? = some packet)
    (heard :
      (segment.interfaces j).heardIn packet.frame = some message)
    (valid :
      ∀ dgram ∈ (segment.interfaces j).queued message.senderIpAddress,
        dgram.Serializable) :
    let before := segment.interfaces j
    let next := segment.step (.deliver k j)
    ∃ frames,
      List.Forall₂
          (Carries before.ethernetAddress message.senderEthernetAddress)
          (before.queued message.senderIpAddress) frames ∧
        next.wire =
          segment.wire ++
            (frames ++ before.answers message).map (Packet.mk j) ∧
        next.receipts = segment.receipts ∧
        next.delivered = segment.delivered ++ [(k, j)] ∧
        next.interfaces =
          Function.update segment.interfaces j
            (before.perform (.recv packet.frame)) ∧
        (before.perform (.recv packet.frame)).queued
          message.senderIpAddress = [] := by
  intro before next
  obtain ⟨frames, carried, pushed, emptied⟩ :=
    NetworkInterface.learn_complete
      (NetworkInterface.heardIn_supported heard) valid
  obtain ⟨learned, returns⟩ := NetworkInterface.recvFrame_of_heard heard
  rw [← learned] at pushed emptied
  have emitted :
      NetworkInterface.emitted before
          (before.perform (.recv packet.frame)) =
        frames ++ before.answers message :=
    NetworkInterface.emitted_of_append pushed
  have nothing :
      (returned (before.recvFrame packet.frame)).join = none := by
    rw [returns]
    cases returned (before.learn message) <;> rfl
  have stepped :
      next =
        { segment.perform j (.recv packet.frame) with
          delivered := segment.delivered ++ [(k, j)]
          receipts :=
            segment.receipts ++
              (returned (before.recvFrame
                packet.frame)).join.toList.map (Receipt.mk j) } := by
    simp only [next, EthernetSegment.step, onWire]
    rfl
  refine ⟨frames, carried, ?_, ?_, ?_, ?_, emptied⟩
  · rw [stepped, ← emitted]
    rfl
  · rw [stepped, nothing]
    exact List.append_nil _
  · rw [stepped]
  · rw [stepped]
    rfl

/-- A frame for an interface is delivered, and its datagram is returned. -/
theorem deliver_carried
    {k : Nat}
    {i j : ι}
    {src : EthernetAddress}
    {dgram : InternetDatagram}
    {frame : EthernetFrame}
    (wellFormed : dgram.WellFormed)
    (carries :
      Carries src (segment.interfaces j).ethernetAddress dgram frame)
    (onWire : segment.wire[k]? = some ⟨i, frame⟩) :
    ∃ received,
      SameDatagram dgram received ∧
        segment.step (.deliver k j) =
          { segment with
            delivered := segment.delivered ++ [(k, j)]
            receipts := segment.receipts ++ [⟨j, received⟩] } := by
  obtain ⟨received, parsed, same⟩ :=
    ipDatagram_of_carries wellFormed carries
  have forUs : (segment.interfaces j).ForUs frame := by
    refine .inr ?_
    rw [carries.header]
  have silent : (segment.interfaces j).heardIn frame = none := by
    rw [NetworkInterface.heardIn, if_pos forUs,
      arpMessage_of_carries carries]
  have unchanged : segment.perform j (.recv frame) = segment := by
    simp only [perform,
      NetworkInterface.perform_recv_of_not_heard silent,
      Function.update_eq_self, NetworkInterface.emitted,
      List.drop_length, List.map_nil, List.append_nil]
  refine ⟨received, same, ?_⟩
  simp only [EthernetSegment.step, onWire, unchanged,
    NetworkInterface.recvFrame_of_not_heard silent, if_pos forUs, parsed]
  rfl

/-- The frames at the end of the wire are delivered in order. -/
theorem deliver_all_carried
    {i j : ι}
    {src : EthernetAddress}
    {dgrams : List InternetDatagram}
    {frames : List EthernetFrame}
    {earlier : List (Packet ι)}
    (distinct : i ≠ j)
    (wellFormed : ∀ dgram ∈ dgrams, dgram.WellFormed)
    (carried :
      List.Forall₂ (Carries src (segment.interfaces j).ethernetAddress)
        dgrams frames)
    (wire : segment.wire = earlier ++ frames.map (Packet.mk i))
    (unseen : ∀ entry ∈ segment.delivered, entry.1 < earlier.length) :
    let ops :=
      (List.range' earlier.length frames.length).map
        fun k => Op.deliver k j
    let final := Execution.run step segment ops
    ∃ received,
      Execution.EveryStep step Allowed segment ops ∧
        List.Forall₂ SameDatagram dgrams received ∧
        final.receipts =
          segment.receipts ++ received.map (Receipt.mk j) ∧
        final.interfaces = segment.interfaces := by
  induction frames generalizing segment dgrams earlier with
  | nil =>
      rw [List.forall₂_nil_right_iff.mp carried]
      exact ⟨[], trivial, .nil, (List.append_nil _).symm, rfl⟩
  | cons frame frames inductionHypothesis =>
      obtain ⟨dgram, dgrams, carries, later, rfl⟩ :=
        List.forall₂_cons_right_iff.mp carried
      have onWire :
          segment.wire[earlier.length]? = some ⟨i, frame⟩ := by
        rw [wire]
        simp
      obtain ⟨first, same, stepped⟩ :=
        deliver_carried (wellFormed dgram (by simp)) carries onWire
      obtain ⟨received, guarded, sameRest, receipts, interfaces⟩ :=
        @inductionHypothesis (segment.step (.deliver earlier.length j))
          dgrams (earlier ++ [⟨i, frame⟩])
          (fun dgram member => wellFormed dgram (by simp [member]))
          (by rw [stepped]; exact later)
          (by rw [stepped, wire]; simp)
          (by
            rw [stepped, List.length_append]
            exact lt_of_delivered
              (fun entry before =>
                (unseen entry before).trans (Nat.lt_succ_self _))
              (Nat.lt_succ_self _))
      rw [List.length_append, List.length_singleton]
        at guarded receipts interfaces
      refine ⟨first :: received,
        ⟨allowed_of_new unseen le_rfl onWire distinct, guarded⟩,
        .cons same sameRest, receipts.trans ?_, interfaces.trans ?_⟩
      · rw [stepped]
        simp
      · rw [stepped]

/-- A datagram for an unknown next hop waits, and a request goes out. -/
theorem send_unknown
    {i : ι}
    {nextHop : Address}
    (unknown :
      (segment.interfaces i).cacheMap.lookup nextHop.ipv4Numeric = none)
    (unasked :
      (segment.interfaces i).arpRequests.lookup nextHop.ipv4Numeric =
        none)
    (dgram : InternetDatagram) :
    let sender := segment.interfaces i
    let next := segment.step (.send i dgram nextHop)
    next.wire =
        segment.wire ++
          [⟨i, sender.arpFrame ethernetBroadcast
            (sender.arpRequest nextHop.ipv4Numeric)⟩] ∧
      (next.interfaces i).queued nextHop.ipv4Numeric =
        sender.queued nextHop.ipv4Numeric ++ [dgram] := by
  intro sender next
  obtain ⟨pushed, queue⟩ :=
    NetworkInterface.perform_send_unknown unknown unasked dgram
  constructor
  · change segment.wire ++ List.map _ _ = _
    rw [NetworkInterface.emitted_of_append pushed]
    rfl
  · have performed :
        next.interfaces i = sender.perform (.send dgram nextHop) :=
      Function.update_self _ _ _
    rw [performed]
    exact queue

/-- The owner of an address answers a request for it. -/
theorem Sound.deliver_request
    (sound : Sound hosts segment tags pending origins)
    {k : Nat}
    {i j : ι}
    {sender : NetworkInterface}
    (onWire :
      segment.wire[k]? =
        some ⟨i, sender.arpFrame ethernetBroadcast
          (sender.arpRequest (hosts.ipAddress j).ipv4Numeric)⟩) :
    let owner := segment.interfaces j
    let reply :=
      owner.arpReply (sender.arpRequest (hosts.ipAddress j).ipv4Numeric)
    let next := segment.step (.deliver k j)
    ∃ last,
      segment.wire.length ≤ last ∧
        next.wire[last]? =
          some ⟨j, owner.arpFrame sender.ethernetAddress reply⟩ ∧
        next.receipts = segment.receipts ∧
        next.delivered = segment.delivered ++ [(k, j)] ∧
        ∀ other ≠ j, next.interfaces other = segment.interfaces other := by
  intro owner reply next
  obtain ⟨others, _, wire, receipts, delivered, interfaces, _⟩ :=
    deliver_heard onWire
      (NetworkInterface.heardIn_arpFrame (.inl rfl)
        (sender.arpRequest_supported _) sender)
      ((sound.faithful j).ordered.valid _)
  have answers :
      owner.answers
          (sender.arpRequest (hosts.ipAddress j).ipv4Numeric) =
        [owner.arpFrame sender.ethernetAddress reply] := by
    refine if_pos ⟨rfl, ?_⟩
    exact congrArg Address.ipv4Numeric (sound.faithful j).ipAddress.symm
  rw [answers, List.map_append, ← List.append_assoc] at wire
  refine ⟨(segment.wire ++ others.map (Packet.mk j)).length, ?_, ?_,
    receipts, delivered, ?_⟩
  · rw [List.length_append]
    exact Nat.le_add_right _ _
  · rw [wire]
    exact List.getElem?_concat_length
  · intro other distinct
    exact (congrFun interfaces other).trans
      (Function.update_of_ne distinct _ _)

/-- A reply takes everything that waits for its sender along. -/
theorem Sound.deliver_reply
    (sound : Sound hosts segment tags pending origins)
    {k : Nat}
    {i j : ι}
    {sender owner : NetworkInterface}
    {hop : UInt32}
    (asker : Faithful hosts i sender)
    (answerer : Faithful hosts j owner)
    (onWire :
      segment.wire[k]? =
        some ⟨j, owner.arpFrame sender.ethernetAddress
          (owner.arpReply (sender.arpRequest hop))⟩) :
    let next := segment.step (.deliver k i)
    ∃ frames,
      List.Forall₂
          (Carries (segment.interfaces i).ethernetAddress
            (hosts.ethernetAddress j))
          ((segment.interfaces i).queued
            (hosts.ipAddress j).ipv4Numeric) frames ∧
        next.wire = segment.wire ++ frames.map (Packet.mk i) ∧
        next.receipts = segment.receipts ∧
        next.delivered = segment.delivered ++ [(k, i)] ∧
        (next.interfaces i).queued (hosts.ipAddress j).ipv4Numeric =
          [] := by
  intro next
  let reply := owner.arpReply (sender.arpRequest hop)
  have addressed :
      sender.ethernetAddress =
        (segment.interfaces i).ethernetAddress := by
    rw [asker.ethernetAddress, (sound.faithful i).ethernetAddress]
  have isReply : ARPMessage.opcodeReply ≠ ARPMessage.opcodeRequest := by
    decide
  have silence : (segment.interfaces i).answers reply = [] :=
    if_neg fun asks => isReply asks.1
  obtain ⟨frames, carried, wire, receipts, delivered, interfaces,
      emptied⟩ :=
    deliver_heard onWire
      (NetworkInterface.heardIn_arpFrame (.inr addressed)
        (NetworkInterface.arpReply_supported
          (sender.arpRequest_supported hop) owner) owner)
      ((sound.faithful i).ordered.valid _)
  have replyIp :
      reply.senderIpAddress = (hosts.ipAddress j).ipv4Numeric :=
    congrArg Address.ipv4Numeric answerer.ipAddress
  have replyEthernet :
      reply.senderEthernetAddress = hosts.ethernetAddress j :=
    answerer.ethernetAddress
  rw [silence, List.append_nil] at wire
  rw [replyIp] at carried emptied
  rw [replyEthernet] at carried
  refine ⟨frames, carried, wire, receipts, delivered, ?_⟩
  rw [interfaces, Function.update_self]
  exact emptied

/--
A request that is not lost is answered, and the answer takes everything that
waits for the next hop along.
-/
theorem Sound.exchange
    (sound : Sound hosts segment tags pending origins)
    (onWire : segment.DeliveredOnWire)
    {i j : ι}
    (distinct : i ≠ j)
    {dgram : InternetDatagram}
    (wellFormed : dgram.WellFormed)
    (unknown :
      (segment.interfaces i).cacheMap.lookup
        (hosts.ipAddress j).ipv4Numeric = none)
    (unasked :
      (segment.interfaces i).arpRequests.lookup
        (hosts.ipAddress j).ipv4Numeric = none) :
    let hop := (hosts.ipAddress j).ipv4Numeric
    let waiting := (segment.interfaces i).queued hop
    ∃ deliveries received,
      let ops := Op.send i dgram (hosts.ipAddress j) :: deliveries
      let final := Execution.run EthernetSegment.step segment ops
      Execution.EveryStep EthernetSegment.step Allowed segment ops ∧
        (∀ op ∈ deliveries,
          ∃ k receiver,
            op = .deliver k receiver ∧ segment.wire.length ≤ k) ∧
        List.Forall₂ SameDatagram (waiting ++ [dgram]) received ∧
        final.receipts =
          segment.receipts ++ received.map (Receipt.mk j) ∧
        (final.interfaces i).queued hop = [] := by
  intro hop waiting
  -- the request goes on the wire
  let asked := segment.step (.send i dgram (hosts.ipAddress j))
  have permitted :
      segment.Allowed (.send i dgram (hosts.ipAddress j)) := wellFormed
  obtain ⟨_, _, _, soundAsked⟩ := sound.step permitted
  have onWireAsked : asked.DeliveredOnWire := onWire.step _
  obtain ⟨wireAsked, queue⟩ := send_unknown unknown unasked dgram
  have found :
      asked.wire[segment.wire.length]? = some _ :=
    (congrArg (·[segment.wire.length]?) wireAsked).trans
      List.getElem?_concat_length
  have mayHear : asked.Allowed (.deliver segment.wire.length j) :=
    allowed_of_new onWire le_rfl found distinct
  -- the owner of the next hop answers it
  let answered := asked.step (.deliver segment.wire.length j)
  obtain ⟨_, _, _, soundAnswered⟩ := soundAsked.step mayHear
  have onWireAnswered : answered.DeliveredOnWire := onWireAsked.step _
  obtain ⟨last, new, foundReply, receiptsAnswered, deliveredAnswered,
      unchanged⟩ :=
    soundAsked.deliver_request found
  have mayLearn : answered.Allowed (.deliver last i) := by
    refine allowed_of_new ?_ new foundReply distinct.symm
    rw [show answered.delivered = _ from deliveredAnswered]
    exact lt_of_delivered onWireAsked
      (List.getElem?_eq_some_iff.mp found).1
  -- the sender learns the address and empties its queue
  let learned := answered.step (.deliver last i)
  obtain ⟨_, _, _, soundLearned⟩ := soundAnswered.step mayLearn
  obtain ⟨frames, carried, wireLearned, receiptsLearned,
      deliveredLearned, emptied⟩ :=
    soundAnswered.deliver_reply (sound.faithful i)
      (soundAsked.faithful j) foundReply
  rw [unchanged i distinct, queue,
    ← (soundLearned.faithful j).ethernetAddress] at carried
  -- and its frames reach the owner of the next hop
  have everyWellFormed :
      ∀ waits ∈ waiting ++ [dgram], waits.WellFormed := by
    intro waits member
    rcases List.mem_append.mp member with before | now
    · exact sound.wellFormed_of_queued before
    · rw [List.mem_singleton.mp now]
      exact wellFormed
  have unseen :
      ∀ entry ∈ learned.delivered, entry.1 < answered.wire.length := by
    rw [show learned.delivered = _ from deliveredLearned]
    exact lt_of_delivered onWireAnswered
      (List.getElem?_eq_some_iff.mp foundReply).1
  obtain ⟨received, guarded, same, receipts, interfaces⟩ :=
    deliver_all_carried distinct everyWellFormed carried wireLearned
      unseen
  refine ⟨.deliver segment.wire.length j :: .deliver last i :: _,
    received, ⟨permitted, mayHear, mayLearn, guarded⟩, ?_, same, ?_, ?_⟩
  · have longer : segment.wire.length ≤ asked.wire.length :=
      wire_grows _ _ _
    have longest : last < answered.wire.length :=
      (List.getElem?_eq_some_iff.mp foundReply).1
    intro op member
    rcases List.mem_cons.mp member with rfl | member
    · exact ⟨_, _, rfl, le_rfl⟩
    rcases List.mem_cons.mp member with rfl | member
    · exact ⟨_, _, rfl, longer.trans new⟩
    obtain ⟨k, inside, rfl⟩ := List.mem_map.mp member
    exact ⟨k, j, rfl, (longer.trans new).trans
      (longest.le.trans (List.mem_range'_1.mp inside).1)⟩
  · exact receipts.trans
      (congrArg (· ++ received.map (Receipt.mk j))
        (receiptsLearned.trans receiptsAnswered))
  · exact (congrArg (fun all => (all i).queued hop) interfaces).trans
      emptied

end Steps

/--
From every reachable state of a segment, with every frame of the past lost, the
datagrams that wait for an address arrive in order once its entries have expired,
however long that takes, and one more datagram is sent there, if from then on
nothing is lost.
-/
theorem waiting_datagrams_arrive
    (hosts : Hosts ι)
    {ops : List (Op ι)}
    (allowed :
      Execution.EveryStep step Allowed (start hosts) ops)
    {i j : ι}
    (distinct : i ≠ j)
    {dgram : InternetDatagram}
    (wellFormed : dgram.WellFormed) :
    let segment := Execution.run step (start hosts) ops
    let hop := (hosts.ipAddress j).ipv4Numeric
    let waiting := (segment.interfaces i).queued hop
    (∃ ms, ((segment.interfaces i).tick ms).Forgot hop) ∧
    ∀ ms,
      ((segment.interfaces i).tick ms).Forgot hop →
      ∃ deliveries received,
        let retry :=
          Op.tick i ms :: .send i dgram (hosts.ipAddress j) :: deliveries
        let final := Execution.run step segment retry
        Execution.EveryStep step Allowed segment retry ∧
          (∀ op ∈ deliveries,
            ∃ k receiver,
              op = .deliver k receiver ∧ segment.wire.length ≤ k) ∧
          List.Forall₂ SameDatagram (waiting ++ [dgram]) received ∧
          final.receipts =
            segment.receipts ++ received.map (Receipt.mk j) ∧
          (final.interfaces i).queued hop = [] := by
  intro segment hop waiting
  refine ⟨(segment.interfaces i).exists_expired hop, ?_⟩
  rintro ms ⟨unknown, unasked⟩
  obtain ⟨⟨tags, pending, origins, sound⟩, onWire⟩ :
      (∃ tags pending origins,
        Sound hosts segment tags pending origins) ∧
      segment.DeliveredOnWire := by
    refine
      Execution.EveryStep.invariant
        (fun segment =>
          (∃ tags pending origins,
            Sound hosts segment tags pending origins) ∧
          segment.DeliveredOnWire)
        ?_ ⟨⟨_, _, _, sound_start hosts⟩, ?_⟩ allowed
    · rintro state op ⟨⟨_, _, _, sound⟩, onWire⟩ permitted
      exact ⟨sound.step permitted, onWire.step op⟩
    · intro entry member
      cases member
  let expired := segment.step (.tick i ms)
  have permitted : segment.Allowed (.tick i ms) := trivial
  obtain ⟨_, _, _, soundExpired⟩ := sound.step permitted
  have ticked :
      expired.interfaces i = (segment.interfaces i).tick ms :=
    Function.update_self _ _ _
  have wire : segment.wire.length ≤ expired.wire.length :=
    wire_grows _ _ _
  obtain ⟨deliveries, received, guarded, new, same, receipts, emptied⟩ :=
    soundExpired.exchange (onWire.step _) distinct wellFormed
      (ticked ▸ unknown) (ticked ▸ unasked)
  refine ⟨deliveries, received, ⟨permitted, guarded⟩, ?_, ?_,
    receipts, emptied⟩
  · intro op member
    obtain ⟨k, receiver, delivers, later⟩ := new op member
    exact ⟨k, receiver, delivers, wire.trans later⟩
  · have kept : (expired.interfaces i).queued hop = waiting := by
      rw [ticked]
      rfl
    exact kept ▸ same

/-- A datagram whose request is lost. -/
def lostRequest : List (Op Bool) :=
  [.send false { header := { len := 20 } } { ipv4Numeric := 1 }]

theorem waiting_datagrams_arrive_lostRequest :
    let segment := Execution.run step (start twoHosts) lostRequest
    let waiting := (segment.interfaces false).queued 1
    waiting.length = 1 ∧
    ∃ deliveries received,
      let retry :=
        Op.tick false 5000 ::
          .send false { header := { len := 20, id := 1 } }
            (twoHosts.ipAddress true) :: deliveries
      let final := Execution.run step segment retry
      Execution.EveryStep step Allowed segment retry ∧
        List.Forall₂ SameDatagram
          (waiting ++ [{ header := { len := 20, id := 1 } }])
          received ∧
        final.receipts = received.map (Receipt.mk true) := by
  have arrive :=
    waiting_datagrams_arrive twoHosts
      (show Execution.EveryStep step Allowed (start twoHosts)
        lostRequest by decide +kernel)
      (show false ≠ true by decide)
      (show
        ({ header := { len := 20, id := 1 } } :
          InternetDatagram).WellFormed by decide +kernel)
  obtain ⟨deliveries, received, guarded, _, same, receipts, _⟩ :=
    arrive.2 5000 ⟨by decide +kernel, by decide +kernel⟩
  exact ⟨by decide +kernel, deliveries, received, guarded, same, receipts⟩

end EthernetSegment

end Sponge
