import Sponge.Ethernet
import Sponge.IPv4
import Sponge.UnorderedMap

namespace Sponge

/-!
# The network interface

The interface sends datagrams in Ethernet frames.  It keeps the Ethernet
addresses it has learned for thirty seconds, asks for an unknown one at most
every five seconds, and holds datagrams back until their next hop is known.  A
method that throws leaves the interface as far as it got.
-/

/--
The addresses of an interface, the frames it has sent, and what it knows and
asks of others.
-/
structure NetworkInterface where
  ethernetAddress : EthernetAddress
  ipAddress : Address
  framesOut : List EthernetFrame := []
  cacheMap : UnorderedMap UInt32 (EthernetAddress × Nat) := ∅
  arpRequests : UnorderedMap UInt32 Nat := ∅
  datagramQueue : UnorderedMap UInt32 (List InternetDatagram) := ∅

namespace NetworkInterface

/-- Push a frame from this interface to the outbound queue. -/
def pushFrame
    (dst : EthernetAddress)
    (type : UInt16)
    (payload : BufferList)
    (interface : NetworkInterface) : NetworkInterface :=
  let header : EthernetHeader := {
    src := interface.ethernetAddress
    dst
    type
  }
  { interface with
    framesOut := interface.framesOut ++ [{ header, payload }] }

/-- The request for the owner of an IP address. -/
def arpRequest
    (nextHopIp : UInt32)
    (interface : NetworkInterface) : ARPMessage where
  opcode := ARPMessage.opcodeRequest
  senderEthernetAddress := interface.ethernetAddress
  senderIpAddress := interface.ipAddress.ipv4Numeric
  targetIpAddress := nextHopIp

/-- The datagrams waiting for a next hop. -/
def queued
    (interface : NetworkInterface)
    (nextHopIp : UInt32) : List InternetDatagram :=
  interface.datagramQueue.subscript nextHopIp []

/-- Queue a datagram until its next hop is known. -/
def enqueue
    (nextHopIp : UInt32)
    (dgram : InternetDatagram)
    (interface : NetworkInterface) : NetworkInterface :=
  { interface with
    datagramQueue :=
      interface.datagramQueue.insert nextHopIp
        (interface.queued nextHopIp ++ [dgram]) }

/-- Send a datagram to a known next hop, or ask for the next hop and wait. -/
def sendDatagram
    (dgram : InternetDatagram)
    (nextHop : Address)
    (interface : NetworkInterface) :
    EStateM.Result StdException NetworkInterface Unit :=
  let nextHopIp := nextHop.ipv4Numeric
  match interface.cacheMap.lookup nextHopIp with
  | some (macAddr, _) =>
      match dgram.serialize with
      | .error thrown => .error thrown interface
      | .ok payload =>
          .ok () (interface.pushFrame macAddr EthernetHeader.typeIPv4
            payload)
  | none =>
      match interface.arpRequests.lookup nextHopIp with
      | some _ => .ok () (interface.enqueue nextHopIp dgram)
      | none =>
          match (interface.arpRequest nextHopIp).serialize with
          | .error thrown => .error thrown interface
          | .ok bytes =>
              let interface :=
                interface.pushFrame ethernetBroadcast
                  EthernetHeader.typeArp [Buffer.ofString bytes]
              let interface := {
                interface with
                arpRequests :=
                  interface.arpRequests.insert nextHopIp (5 * 1000)
              }
              .ok () (interface.enqueue nextHopIp dgram)

/-- Serialise and push the front of a queue until it is empty. -/
def flushLoop
    (dst : EthernetAddress)
    (senderIp : UInt32)
    (interface : NetworkInterface) :
    List InternetDatagram →
    EStateM.Result StdException NetworkInterface Unit
  | [] => .ok () interface
  | data :: rest =>
      match data.serialize with
      | .error thrown => .error thrown interface
      | .ok payload =>
          let interface :=
            interface.pushFrame dst EthernetHeader.typeIPv4 payload
          let interface := {
            interface with
            datagramQueue := interface.datagramQueue.insert senderIp rest
          }
          flushLoop dst senderIp interface rest

/-- Send what waits for the sender of a message, if anything ever did. -/
def flush
    (arpContent : ARPMessage)
    (interface : NetworkInterface) :
    EStateM.Result StdException NetworkInterface Unit :=
  match interface.datagramQueue.lookup arpContent.senderIpAddress with
  | none => .ok () interface
  | some queue =>
      interface.flushLoop arpContent.senderEthernetAddress
        arpContent.senderIpAddress queue

/-- The reply to a request, in place of the request. -/
def arpReply
    (arpContent : ARPMessage)
    (interface : NetworkInterface) : ARPMessage :=
  { arpContent with
    opcode := ARPMessage.opcodeReply
    targetEthernetAddress := arpContent.senderEthernetAddress
    targetIpAddress := arpContent.senderIpAddress
    senderEthernetAddress := interface.ethernetAddress
    senderIpAddress := interface.ipAddress.ipv4Numeric }

/-- Answer a message if it asks for this interface. -/
def answer
    (arpContent : ARPMessage)
    (interface : NetworkInterface) :
    EStateM.Result StdException NetworkInterface Unit :=
  if arpContent.opcode = ARPMessage.opcodeRequest ∧
      arpContent.targetIpAddress = interface.ipAddress.ipv4Numeric then
    match (interface.arpReply arpContent).serialize with
    | .error thrown => .error thrown interface
    | .ok bytes =>
        .ok () (interface.pushFrame arpContent.senderEthernetAddress
          EthernetHeader.typeArp [Buffer.ofString bytes])
  else
    .ok () interface

/-- Learn the sender of a message for the next thirty seconds. -/
def remember
    (arpContent : ARPMessage)
    (interface : NetworkInterface) : NetworkInterface :=
  { interface with
    cacheMap :=
      interface.cacheMap.insert arpContent.senderIpAddress
        (arpContent.senderEthernetAddress, 30 * 1000) }

/-- Process a valid message: learn, send what waited, answer. -/
def learn
    (arpContent : ARPMessage)
    (interface : NetworkInterface) :
    EStateM.Result StdException NetworkInterface Unit :=
  match (interface.remember arpContent).flush arpContent with
  | .error thrown interface => .error thrown interface
  | .ok _ interface => interface.answer arpContent

/-- Process a frame, and return the datagram it carries if it is for us. -/
def recvFrame
    (frame : EthernetFrame)
    (interface : NetworkInterface) :
    EStateM.Result StdException NetworkInterface
      (Option InternetDatagram) :=
  if frame.header.dst ≠ ethernetBroadcast ∧
      frame.header.dst ≠ interface.ethernetAddress then
    .ok none interface
  else if frame.header.type = EthernetHeader.typeIPv4 then
    match ({} : IPv4Datagram).parse
        (Buffer.ofString frame.payload.concatenate) with
    | .error thrown _ => .error thrown interface
    | .ok result ipDatagram =>
        if result ≠ .noError then
          .ok none interface
        else
          .ok (some ipDatagram) interface
  else if frame.header.type = EthernetHeader.typeArp then
    match ({} : ARPMessage).parse
        (Buffer.ofString frame.payload.concatenate) with
    | .error thrown _ => .error thrown interface
    | .ok result arpContent =>
        if result ≠ .noError then
          .ok none interface
        else
          match interface.learn arpContent with
          | .error thrown interface => .error thrown interface
          | .ok _ interface => .ok none interface
  else
    .ok none interface

/-- What is left of a lifetime, unless it is over. -/
def age (msSinceLastTick left : Nat) : Option Nat :=
  if left > msSinceLastTick then
    some (left - msSinceLastTick)
  else
    none

/-- Age both maps and drop what has expired. -/
def tick
    (msSinceLastTick : Nat)
    (interface : NetworkInterface) : NetworkInterface :=
  { interface with
    arpRequests := interface.arpRequests.sweep (age msSinceLastTick)
    cacheMap :=
      interface.cacheMap.sweep fun (address, left) =>
        (age msSinceLastTick left).map fun left => (address, left) }

/-- A frame that carries a datagram between two addresses. -/
structure Carries
    (src dst : EthernetAddress)
    (dgram : InternetDatagram)
    (frame : EthernetFrame) : Prop where
  header : frame.header = { src, dst, type := EthernetHeader.typeIPv4 }
  payload : dgram.serialize = .ok frame.payload

/-- A frame of this interface that carries a message to an address. -/
def arpFrame
    (interface : NetworkInterface)
    (dst : EthernetAddress)
    (message : ARPMessage) : EthernetFrame where
  header := {
    src := interface.ethernetAddress
    dst
    type := EthernetHeader.typeArp
  }
  payload := [Buffer.ofString message.fieldBytes]

theorem queued_insert
    (interface changed : NetworkInterface)
    {hop : UInt32}
    {queue : List InternetDatagram}
    (stored :
      changed.datagramQueue =
        interface.datagramQueue.insert hop queue)
    (query : UInt32) :
    changed.queued query =
      if query = hop then queue else interface.queued query := by
  rw [queued, stored, UnorderedMap.subscript]
  by_cases same : query = hop
  · rw [if_pos same, same, AList.lookup_insert]
    rfl
  · rw [if_neg same, AList.lookup_insert_ne same]
    rfl

theorem queued_enqueue
    (interface : NetworkInterface)
    (hop : UInt32)
    (dgram : InternetDatagram)
    (query : UInt32) :
    (interface.enqueue hop dgram).queued query =
      if query = hop then
        interface.queued hop ++ [dgram]
      else
        interface.queued query :=
  queued_insert interface _ rfl query

/-- The four things a call to send a datagram can do. -/
inductive SendOutcome
    (dgram : InternetDatagram)
    (hop : UInt32)
    (before : NetworkInterface) :
    NetworkInterface → Prop
  | carried
      {dst : EthernetAddress}
      {left : Nat}
      {frame : EthernetFrame}
      (known : before.cacheMap.lookup hop = some (dst, left))
      (carries : Carries before.ethernetAddress dst dgram frame) :
      SendOutcome dgram hop before
        { before with framesOut := before.framesOut ++ [frame] }
  | rejected
      {dst : EthernetAddress}
      {left : Nat}
      (known : before.cacheMap.lookup hop = some (dst, left))
      (invalid : ¬ dgram.Serializable) :
      SendOutcome dgram hop before before
  | waiting
      {left : Nat}
      (unknown : before.cacheMap.lookup hop = none)
      (asked : before.arpRequests.lookup hop = some left) :
      SendOutcome dgram hop before (before.enqueue hop dgram)
  | asking
      (unknown : before.cacheMap.lookup hop = none)
      (unasked : before.arpRequests.lookup hop = none) :
      SendOutcome dgram hop before
        (({ before with
            framesOut :=
              before.framesOut ++
                [before.arpFrame ethernetBroadcast
                  (before.arpRequest hop)]
            arpRequests :=
              before.arpRequests.insert hop (5 * 1000) } :
          NetworkInterface).enqueue hop dgram)

section SendOutcome

variable {dgram : InternetDatagram} {hop : UInt32}
variable {before after : NetworkInterface}

theorem SendOutcome.others
    (outcome : SendOutcome dgram hop before after) :
    after.ethernetAddress = before.ethernetAddress ∧
      after.ipAddress = before.ipAddress ∧
      after.cacheMap = before.cacheMap := by
  cases outcome <;> exact ⟨rfl, rfl, rfl⟩

theorem SendOutcome.queued
    (outcome : SendOutcome dgram hop before after)
    {query : UInt32}
    (other : query ≠ hop) :
    after.queued query = before.queued query := by
  cases outcome with
  | carried => rfl
  | rejected => rfl
  | waiting => rw [queued_enqueue, if_neg other]
  | asking =>
      rw [queued_enqueue, if_neg other]
      rfl

/-- What waits after a call waited before or was handed over. -/
theorem SendOutcome.mem_queued
    (outcome : SendOutcome dgram hop before after)
    {query : UInt32}
    {waiting : InternetDatagram}
    (waits : waiting ∈ after.queued query) :
    waiting ∈ before.queued query ∨ waiting = dgram := by
  by_cases same : query = hop
  · subst same
    cases outcome with
    | carried => exact Or.inl waits
    | rejected => exact Or.inl waits
    | waiting =>
        rw [queued_enqueue, if_pos rfl, List.mem_append] at waits
        exact waits.imp_right List.mem_singleton.mp
    | asking =>
        rw [queued_enqueue, if_pos rfl, List.mem_append] at waits
        exact waits.imp_right List.mem_singleton.mp
  · rw [outcome.queued same] at waits
    exact Or.inl waits

end SendOutcome

theorem arpRequest_supported
    (interface : NetworkInterface)
    (hop : UInt32) :
    (interface.arpRequest hop).supported = true :=
  rfl

theorem serialize_supported
    {message : ARPMessage}
    (supported : message.supported = true) :
    message.serialize = .ok message.fieldBytes := by
  rw [ARPMessage.serialize, if_neg (by rw [supported]; decide)]

theorem sendDatagram_outcome
    (dgram : InternetDatagram)
    (nextHop : Address)
    (before : NetworkInterface) :
    SendOutcome dgram nextHop.ipv4Numeric before
      (finalState (before.sendDatagram dgram nextHop)) := by
  cases known : before.cacheMap.lookup nextHop.ipv4Numeric with
  | some entry =>
      obtain ⟨dst, left⟩ := entry
      cases serialized : dgram.serialize with
      | ok payload =>
          simp only [sendDatagram, known, serialized]
          exact .carried known ⟨rfl, serialized⟩
      | error thrown =>
          simp only [sendDatagram, known, serialized]
          refine .rejected known fun valid => ?_
          obtain ⟨out, succeeded, _⟩ :=
            IPv4Datagram.serialize_of_serializable valid
          rw [succeeded] at serialized
          cases serialized
  | none =>
      cases asked : before.arpRequests.lookup nextHop.ipv4Numeric with
      | some left =>
          simp only [sendDatagram, known, asked]
          exact .waiting known asked
      | none =>
          simp only [sendDatagram, known, asked, serialize_supported
            (before.arpRequest_supported nextHop.ipv4Numeric)]
          exact .asking known asked

/-- A call to send a valid datagram returns. -/
theorem sendDatagram_returns
    {dgram : InternetDatagram}
    (valid : dgram.Serializable)
    (nextHop : Address)
    (before : NetworkInterface) :
    returned (before.sendDatagram dgram nextHop) = some () := by
  obtain ⟨out, serialized, _⟩ :=
    IPv4Datagram.serialize_of_serializable valid
  have request :=
    serialize_supported
      (before.arpRequest_supported nextHop.ipv4Numeric)
  cases known : before.cacheMap.lookup nextHop.ipv4Numeric with
  | some entry =>
      simp only [sendDatagram, known, serialized]
      rfl
  | none =>
      cases asked : before.arpRequests.lookup nextHop.ipv4Numeric with
      | some left =>
          simp only [sendDatagram, known, asked]
          rfl
      | none =>
          simp only [sendDatagram, known, asked, request]
          rfl

/--
The waiting datagrams `flushed` went out as `frames`, and `remaining` still
wait because the first of them could not be sent.
-/
structure Flushed
    (dst : EthernetAddress)
    (hop : UInt32)
    (before after : NetworkInterface)
    (flushed remaining : List InternetDatagram)
    (frames : List EthernetFrame) : Prop where
  waited : before.queued hop = flushed ++ remaining
  carried : List.Forall₂ (Carries before.ethernetAddress dst)
      flushed frames
  framesOut : after.framesOut = before.framesOut ++ frames
  left :
    ∀ query,
      after.queued query =
        if query = hop then remaining else before.queued query
  others :
    after =
      { before with
        framesOut := after.framesOut
        datagramQueue := after.datagramQueue }
  stuck : ∀ first ∈ remaining.head?, ¬ first.Serializable

theorem Flushed.refl
    {dst : EthernetAddress}
    {hop : UInt32}
    {interface : NetworkInterface}
    (stuck :
      ∀ first ∈ (interface.queued hop).head?, ¬ first.Serializable) :
    Flushed dst hop interface interface [] (interface.queued hop) []
    where
  waited := rfl
  carried := .nil
  framesOut := (List.append_nil _).symm
  left query := by
    by_cases same : query = hop
    · rw [if_pos same, same]
    · rw [if_neg same]
  others := rfl
  stuck := stuck

/-- The loop sends the waiting datagrams in order. -/
theorem flushLoop_flushed
    (dst : EthernetAddress)
    (hop : UInt32)
    (queue : List InternetDatagram)
    {before : NetworkInterface}
    (waits : before.queued hop = queue) :
    ∃ flushed remaining frames,
      Flushed dst hop before
          (finalState (before.flushLoop dst hop queue))
          flushed remaining frames ∧
        (remaining = [] →
          returned (before.flushLoop dst hop queue) = some ()) := by
  induction queue generalizing before with
  | nil =>
      refine ⟨[], _, [], Flushed.refl ?_, fun _ => rfl⟩
      rw [waits]
      simp
  | cons data rest inductionHypothesis =>
      cases serialized : data.serialize with
      | error thrown =>
          refine ⟨[], before.queued hop, [], ?_, ?_⟩
          · simp only [flushLoop, serialized]
            refine Flushed.refl fun first front valid => ?_
            obtain ⟨out, succeeded, _⟩ :=
              IPv4Datagram.serialize_of_serializable valid
            rw [waits, List.head?_cons, Option.mem_some] at front
            rw [← front, serialized] at succeeded
            cases succeeded
          · rw [waits]
            simp
      | ok payload =>
          let next : NetworkInterface := {
            before.pushFrame dst EthernetHeader.typeIPv4 payload with
            datagramQueue := before.datagramQueue.insert hop rest
          }
          have nextQueued := queued_insert before next rfl
          have nextWaits : next.queued hop = rest := by
            rw [nextQueued, if_pos rfl]
          obtain ⟨flushed, remaining, frames, later, returns⟩ :=
            inductionHypothesis nextWaits
          have looped :
              before.flushLoop dst hop (data :: rest) =
                next.flushLoop dst hop rest := by
            simp only [flushLoop, serialized]
            rfl
          rw [looped]
          refine
            ⟨data :: flushed, remaining,
              { header :=
                  { src := before.ethernetAddress
                    dst
                    type := EthernetHeader.typeIPv4 }
                payload } :: frames,
              ?_, returns⟩
          constructor
          case waited =>
            rw [waits, ← nextWaits, later.waited, List.cons_append]
          case carried =>
            exact .cons ⟨rfl, serialized⟩ later.carried
          case framesOut =>
            rw [later.framesOut]
            exact List.append_assoc _ [_] frames
          case left =>
            intro query
            rw [later.left, nextQueued]
            split <;> rfl
          case others =>
            rw [later.others]
            rfl
          case stuck =>
            exact later.stuck

/-- What happens to the datagrams that wait for the sender of a message. -/
theorem flush_flushed
    (message : ARPMessage)
    (before : NetworkInterface) :
    ∃ flushed remaining frames,
      Flushed message.senderEthernetAddress message.senderIpAddress
          before (finalState (before.flush message))
          flushed remaining frames ∧
        (remaining = [] →
          returned (before.flush message) = some ()) := by
  cases found :
      before.datagramQueue.lookup message.senderIpAddress with
  | none =>
      have nothing : before.queued message.senderIpAddress = [] := by
        rw [queued, UnorderedMap.subscript, found]
        rfl
      simp only [flush, found]
      refine ⟨[], _, [], Flushed.refl ?_, fun _ => rfl⟩
      rw [nothing]
      simp
  | some queue =>
      simp only [flush, found]
      exact flushLoop_flushed _ _ queue
        (UnorderedMap.subscript_of_lookup found [])

/-- The frames that answer a message. -/
def answers
    (message : ARPMessage)
    (interface : NetworkInterface) : List EthernetFrame :=
  if message.opcode = ARPMessage.opcodeRequest ∧
      message.targetIpAddress = interface.ipAddress.ipv4Numeric then
    [interface.arpFrame message.senderEthernetAddress
      (interface.arpReply message)]
  else
    []

theorem arpReply_supported
    {message : ARPMessage}
    (supported : message.supported = true)
    (interface : NetworkInterface) :
    (interface.arpReply message).supported = true := by
  simp only [ARPMessage.supported, Bool.and_eq_true] at supported ⊢
  exact ⟨supported.1, rfl⟩

theorem answer_eq
    {message : ARPMessage}
    (supported : message.supported = true)
    (before : NetworkInterface) :
    before.answer message =
      .ok ()
        { before with
          framesOut := before.framesOut ++ before.answers message } := by
  have reply :=
    serialize_supported (arpReply_supported supported before)
  unfold answer answers
  split
  · simp only [reply]
    rfl
  · rw [List.append_nil]

/-- Everything a valid message changes. -/
structure Learned
    (message : ARPMessage)
    (before after : NetworkInterface)
    (flushed remaining : List InternetDatagram)
    (frames replies : List EthernetFrame) : Prop where
  waited :
    before.queued message.senderIpAddress = flushed ++ remaining
  carried :
    List.Forall₂
      (Carries before.ethernetAddress message.senderEthernetAddress)
      flushed frames
  framesOut : after.framesOut = before.framesOut ++ (frames ++ replies)
  left :
    ∀ query,
      after.queued query =
        if query = message.senderIpAddress then
          remaining
        else
          before.queued query
  others :
    after =
      { before with
        framesOut := after.framesOut
        datagramQueue := after.datagramQueue
        cacheMap :=
          before.cacheMap.insert message.senderIpAddress
            (message.senderEthernetAddress, 30 * 1000) }
  answered : replies = [] ∨ replies = before.answers message
  stuck : ∀ first ∈ remaining.head?, ¬ first.Serializable

section Learned

variable {message : ARPMessage} {before after : NetworkInterface}
variable {flushed remaining : List InternetDatagram}
variable {frames replies : List EthernetFrame}

theorem Learned.cacheMap
    (learned :
      Learned message before after flushed remaining frames replies) :
    after.cacheMap =
      before.cacheMap.insert message.senderIpAddress
        (message.senderEthernetAddress, 30 * 1000) := by
  rw [learned.others]

theorem Learned.arpRequests
    (learned :
      Learned message before after flushed remaining frames replies) :
    after.arpRequests = before.arpRequests := by
  rw [learned.others]

theorem Learned.mem_queued
    (learned :
      Learned message before after flushed remaining frames replies)
    {query : UInt32}
    {waiting : InternetDatagram}
    (waits : waiting ∈ after.queued query) :
    waiting ∈ before.queued query := by
  rw [learned.left] at waits
  split at waits
  · rename_i sender
    rw [sender, learned.waited]
    exact List.mem_append_right _ waits
  · exact waits

/-- If only valid datagrams wait, all that wait for a sender are sent. -/
theorem Learned.remaining_eq_nil
    (learned :
      Learned message before after flushed remaining frames replies)
    (valid :
      ∀ dgram ∈ before.queued message.senderIpAddress,
        dgram.Serializable) :
    remaining = [] := by
  cases remaining with
  | nil =>
      rfl
  | cons first rest =>
      refine absurd (valid first ?_) (learned.stuck first rfl)
      rw [learned.waited]
      simp

end Learned

theorem learn_learned
    {message : ARPMessage}
    (supported : message.supported = true)
    (before : NetworkInterface) :
    ∃ flushed remaining frames replies,
      Learned message before (finalState (before.learn message))
          flushed remaining frames replies ∧
        (remaining = [] →
          returned (before.learn message) = some ()) := by
  obtain ⟨flushed, remaining, frames, effect, returns⟩ :=
    flush_flushed message (before.remember message)
  cases result : (before.remember message).flush message with
  | ok value middle =>
      rw [result] at effect
      have learned :
          before.learn message =
            .ok ()
              { middle with
                framesOut :=
                  middle.framesOut ++ middle.answers message } := by
        simp only [learn, result]
        exact answer_eq supported middle
      rw [learned]
      refine
        ⟨flushed, remaining, frames, middle.answers message, ?_,
          fun _ => rfl⟩
      constructor
      case waited => exact effect.waited
      case carried => exact effect.carried
      case framesOut =>
        change middle.framesOut ++ _ = _
        rw [show middle.framesOut = _ from effect.framesOut,
          List.append_assoc]
        rfl
      case left => exact effect.left
      case others =>
        rw [show middle = _ from effect.others]
        rfl
      case answered =>
        refine Or.inr ?_
        rw [show middle = _ from effect.others]
        rfl
      case stuck => exact effect.stuck
  | error thrown middle =>
      rw [result] at effect returns
      have learned : before.learn message = .error thrown middle := by
        simp only [learn, result]
      rw [learned]
      refine ⟨flushed, remaining, frames, [], ?_, ?_⟩
      · constructor
        case waited => exact effect.waited
        case carried => exact effect.carried
        case framesOut =>
          rw [List.append_nil]
          exact effect.framesOut
        case left => exact effect.left
        case others => exact effect.others
        case answered => exact Or.inl rfl
        case stuck => exact effect.stuck
      · intro empty
        exact absurd (returns empty) (by simp [returned])

/-- The valid message in a frame. -/
def arpMessage (frame : EthernetFrame) : Option ARPMessage :=
  if frame.header.type = EthernetHeader.typeArp then
    match ({} : ARPMessage).parse
        (Buffer.ofString frame.payload.concatenate) with
    | .ok .noError message => some message
    | _ => none
  else
    none

/-- The datagram in a frame. -/
def ipDatagram (frame : EthernetFrame) : Option InternetDatagram :=
  if frame.header.type = EthernetHeader.typeIPv4 then
    match ({} : IPv4Datagram).parse
        (Buffer.ofString frame.payload.concatenate) with
    | .ok .noError dgram => some dgram
    | _ => none
  else
    none

/-- Whether a frame is addressed to this interface. -/
def ForUs
    (frame : EthernetFrame)
    (interface : NetworkInterface) : Prop :=
  frame.header.dst = ethernetBroadcast ∨
    frame.header.dst = interface.ethernetAddress

instance
    (frame : EthernetFrame)
    (interface : NetworkInterface) :
    Decidable (interface.ForUs frame) :=
  inferInstanceAs (Decidable (_ ∨ _))

/-- The valid message in a frame for this interface. -/
def heardIn
    (frame : EthernetFrame)
    (interface : NetworkInterface) : Option ARPMessage :=
  if interface.ForUs frame then arpMessage frame else none

theorem arpMessage_supported
    {frame : EthernetFrame}
    {message : ARPMessage}
    (valid : arpMessage frame = some message) :
    message.supported = true := by
  obtain ⟨result, parsed, returned, supported⟩ :=
    ARPMessage.parse_returns
      (Buffer.ofString frame.payload.concatenate) {}
  unfold arpMessage at valid
  rw [returned] at valid
  split at valid
  · cases result <;> cases valid
    exact supported rfl
  · cases valid

theorem heardIn_supported
    {frame : EthernetFrame}
    {interface : NetworkInterface}
    {message : ARPMessage}
    (heard : interface.heardIn frame = some message) :
    message.supported = true := by
  unfold heardIn at heard
  split at heard
  · exact arpMessage_supported heard
  · cases heard

/-- A message sent by an interface is read from the frame that carries it. -/
theorem arpMessage_arpFrame
    {message : ARPMessage}
    (supported : message.supported = true)
    (interface : NetworkInterface)
    (dst : EthernetAddress) :
    arpMessage (interface.arpFrame dst message) = some message := by
  have content :
      (Buffer.ofString
        (BufferList.concatenate [Buffer.ofString message.fieldBytes])).str =
        message.fieldBytes ++ [] := by
    simp
  have parsed :
      ({} : ARPMessage).parse
          (Buffer.ofString
            (interface.arpFrame dst message).payload.concatenate) =
        .ok .noError message :=
    ARPMessage.parse_fieldBytes supported content {}
  unfold arpMessage
  rw [parsed]
  exact if_pos rfl

/-- A frame without a valid message for this interface changes nothing. -/
theorem recvFrame_of_not_heard
    {frame : EthernetFrame}
    {before : NetworkInterface}
    (silent : before.heardIn frame = none) :
    before.recvFrame frame =
      .ok (if before.ForUs frame then ipDatagram frame else none)
        before := by
  obtain ⟨result, dgram, parsed⟩ :=
    IPv4Datagram.parse_returns
      (Buffer.ofString frame.payload.concatenate) {}
  obtain ⟨arpResult, message, arpParsed, _⟩ :=
    ARPMessage.parse_returns
      (Buffer.ofString frame.payload.concatenate) {}
  unfold recvFrame
  by_cases forUs : before.ForUs frame
  · have addressed :
        ¬ (frame.header.dst ≠ ethernetBroadcast ∧
          frame.header.dst ≠ before.ethernetAddress) :=
      not_and_or.mpr (forUs.imp not_not.mpr not_not.mpr)
    rw [heardIn, if_pos forUs, arpMessage, arpParsed] at silent
    rw [if_neg addressed, if_pos forUs, ipDatagram]
    simp only [parsed, arpParsed]
    split
    · cases result <;> rfl
    split
    · rename_i isArp
      rw [if_pos isArp] at silent
      cases arpResult
      case noError => cases silent
      all_goals rfl
    · rfl
  · rw [if_pos (not_or.mp forUs), if_neg forUs]

/-- A valid message is learned. -/
theorem recvFrame_of_heard
    {frame : EthernetFrame}
    {before : NetworkInterface}
    {message : ARPMessage}
    (heard : before.heardIn frame = some message) :
    finalState (before.recvFrame frame) =
        finalState (before.learn message) ∧
      returned (before.recvFrame frame) =
        (returned (before.learn message)).map fun _ => none := by
  obtain ⟨arpResult, parsed, arpParsed, _⟩ :=
    ARPMessage.parse_returns
      (Buffer.ofString frame.payload.concatenate) {}
  unfold heardIn at heard
  split at heard
  case isFalse => cases heard
  rename_i forUs
  have addressed :
      ¬ (frame.header.dst ≠ ethernetBroadcast ∧
        frame.header.dst ≠ before.ethernetAddress) :=
    not_and_or.mpr (forUs.imp not_not.mpr not_not.mpr)
  unfold arpMessage at heard
  rw [arpParsed] at heard
  split at heard
  case isFalse => cases heard
  rename_i isArp
  have notIPv4 : ¬ frame.header.type = EthernetHeader.typeIPv4 := by
    rw [isArp]
    decide
  cases arpResult <;> cases heard
  unfold recvFrame
  rw [if_neg addressed, if_neg notIPv4, if_pos isArp, arpParsed]
  simp only [ne_eq, not_true_eq_false, ↓reduceIte]
  cases before.learn message with
  | ok value after =>
      exact ⟨rfl, rfl⟩
  | error thrown after =>
      exact ⟨rfl, rfl⟩

theorem age_eq_some
    {ms left remaining : Nat} :
    age ms left = some remaining ↔
      ms < left ∧ remaining = left - ms := by
  unfold age
  split
  · simp_all [eq_comm]
  · simp_all

/-- A request outlives a tick if its lifetime does. -/
theorem tick_arpRequests
    {ms left : Nat}
    {hop : UInt32}
    {interface : NetworkInterface} :
    (interface.tick ms).arpRequests.lookup hop = some left ↔
      ∃ old,
        interface.arpRequests.lookup hop = some old ∧
          ms < old ∧ left = old - ms := by
  change (UnorderedMap.sweep _ _).lookup hop = _ ↔ _
  rw [UnorderedMap.lookup_sweep, Option.bind_eq_some_iff]
  simp only [age_eq_some]

theorem tick_cacheMap
    {ms left : Nat}
    {hop : UInt32}
    {address : EthernetAddress}
    {interface : NetworkInterface} :
    (interface.tick ms).cacheMap.lookup hop = some (address, left) ↔
      ∃ old,
        interface.cacheMap.lookup hop = some (address, old) ∧
          ms < old ∧ left = old - ms := by
  change (UnorderedMap.sweep _ _).lookup hop = _ ↔ _
  rw [UnorderedMap.lookup_sweep, Option.bind_eq_some_iff]
  constructor
  · rintro ⟨⟨stored, old⟩, found, kept⟩
    obtain ⟨remaining, aged, same⟩ := Option.map_eq_some_iff.mp kept
    cases same
    exact ⟨old, found, age_eq_some.mp aged⟩
  · rintro ⟨old, found, aged⟩
    exact ⟨(address, old), found,
      Option.map_eq_some_iff.mpr ⟨left, age_eq_some.mpr aged, rfl⟩⟩

end NetworkInterface

end Sponge
