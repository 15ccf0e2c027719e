import Sponge.TCPConnectionOutbound
import Sponge.TCPConnectionShutdown

namespace Sponge.TCPConnection

/-!
# Backing off and giving up

`Backoff` counts, beside a connection, the expiries of its retransmission timer
since the last acknowledgment of new data, and those of them that fell outside
the zero-window probe state.  The sender's own count and timeout follow the two
counters, and the limit on the count bounds them both.
-/

section Lifting

open TCPSender (BackedOff)

/--
A property of the sender that depends neither on its stream nor on its outbound
queue and that filling the window keeps.
-/
structure Robust (holds : TCPSender → Prop) : Prop where
  detached :
    ∀ sender stream segmentsOut,
      holds sender →
      holds { sender with stream := stream, segmentsOut := segmentsOut }
  filled : ∀ sender, holds sender → holds sender.fillWindow

variable {holds : TCPSender → Prop} {connection : TCPConnection}

theorem Robust.pushed
    (robust : Robust holds)
    {sender : TCPSender}
    (held : holds sender)
    (segmentsOut : List TCPSegment) :
    holds { sender with segmentsOut := segmentsOut } :=
  robust.detached sender sender.stream segmentsOut held

theorem Robust.streamed
    (robust : Robust holds)
    {sender : TCPSender}
    (held : holds sender)
    (stream : ByteStream) :
    holds { sender with stream := stream } :=
  robust.detached sender stream sender.segmentsOut held

/-- Calls of the application change the stream and fill the window. -/
theorem Robust.perform_quiet
    (robust : Robust holds)
    {op : Op}
    (notTick : ∀ msSinceLastTick, op ≠ .tick msSinceLastTick)
    (notReceived : ∀ order seg, op ≠ .segmentReceived order seg)
    (held : holds connection.sender) :
    holds (connection.perform op).sender := by
  cases op with
  | connect =>
      exact robust.pushed (robust.filled _ held) []
  | write data =>
      exact robust.pushed (robust.filled _ (robust.streamed held _)) []
  | endInputStream =>
      exact robust.pushed (robust.filled _ (robust.streamed held _)) []
  | readInbound _ | dequeue =>
      exact held
  | tick msSinceLastTick =>
      exact (notTick msSinceLastTick rfl).elim
  | segmentReceived order seg =>
      exact (notReceived order seg rfl).elim

/-- Answering a segment fills the window and pushes empty segments. -/
theorem Robust.reply
    (robust : Robust holds)
    (seg : TCPSegment)
    (held : holds connection.sender) :
    holds ((connection.reply seg).replyKeepAlive seg).sendSegment.sender := by
  have replied : holds (connection.reply seg).sender := by
    have filled := robust.filled _ held
    unfold TCPConnection.reply
    split
    · dsimp only
      split
      · exact robust.pushed filled _
      · exact filled
    · exact held
  have answered :
      holds ((connection.reply seg).replyKeepAlive seg).sender := by
    unfold replyKeepAlive
    split
    · exact replied
    · split
      · exact robust.pushed replied _
      · exact replied
  exact robust.pushed answered []

/-- A segment is answered after its acknowledgment was dealt with. -/
theorem Robust.segmentReceived
    (robust : Robust holds)
    {order : IterationOrder}
    {seg : TCPSegment}
    (heard : holds (connection.heard order seg).sender) :
    holds (connection.segmentReceived seg order).sender :=
  robust.reply seg heard

theorem Robust.tickFill
    (robust : Robust holds)
    (msSinceLastTick : Nat)
    (held : holds connection.sender) :
    holds (connection.tickFill msSinceLastTick).sender := by
  unfold TCPConnection.tickFill
  dsimp only
  split
  · exact robust.pushed (robust.filled _ held) []
  · exact held

/-- After the sender was told the time, only the error flag may change. -/
theorem Robust.tick
    (robust : Robust holds)
    {msSinceLastTick : Nat}
    (ticked :
      holds
        ((connection.tickFill msSinceLastTick).sender.tick
          msSinceLastTick)) :
    holds (connection.tick msSinceLastTick).sender := by
  have sent :
      holds (connection.tickSend msSinceLastTick).sender := by
    unfold tickSend tickRetransmit
    dsimp only
    split
    · exact robust.pushed ticked []
    · exact ticked
  unfold TCPConnection.tick
  rw [tickFinish_sender]
  unfold tickAbort
  split
  · rw [sendRst_of_nil (tickSend_segmentsOut msSinceLastTick _)]
    exact robust.streamed (robust.pushed sent _) _
  · exact sent

theorem robust_backedOff
    (timeout expiries doublings : Nat) :
    Robust (BackedOff timeout expiries doublings) :=
  ⟨fun _ stream segmentsOut backedOff =>
      backedOff.detached stream segmentsOut,
    fun _ backedOff => backedOff.fillWindow⟩

theorem robust_windowProbe
    (probing : Bool) :
    Robust (fun sender => sender.windowProbe = probing) :=
  ⟨fun _ _ _ held => held,
    fun sender held => (TCPSender.fillWindow_keeps sender).2.1.trans held⟩

end Lifting

/-- Does the retransmission timer run out in a call? -/
def expires
    (connection : TCPConnection) :
    Op → Bool
  | .tick msSinceLastTick =>
      (connection.tickFill msSinceLastTick).sender.expires msSinceLastTick
  | _ => false

/-- A call brings an acknowledgment of new data. -/
def Op.AcknowledgesNew
    (connection : TCPConnection) :
    Op → Prop
  | .segmentReceived _ seg =>
      seg.header.ack = true ∧
        connection.sender.AcknowledgesNew seg.header.ackno
  | _ => False

instance (connection : TCPConnection) (op : Op) :
    Decidable (op.AcknowledgesNew connection) :=
  match op with
  | .segmentReceived _ _ => inferInstanceAs (Decidable (_ ∧ _))
  | .connect | .write _ | .endInputStream | .readInbound _ | .tick _
  | .dequeue => isFalse id

/-- Time is only told to a connection that is active. -/
def Op.WhileActive
    (connection : TCPConnection) :
    Op → Prop
  | .tick _ => connection.active = true
  | _ => True

instance (connection : TCPConnection) (op : Op) :
    Decidable (op.WhileActive connection) :=
  match op with
  | .tick _ => inferInstanceAs (Decidable (_ = true))
  | .connect | .write _ | .endInputStream | .readInbound _
  | .segmentReceived _ _ | .dequeue => isTrue trivial

/-- A connection and the expiries since the last acknowledgment of new data. -/
structure Backoff where
  connection : TCPConnection
  expiries : Nat := 0
  doublings : Nat := 0

namespace Backoff

/-- A new connection, without expiries. -/
def start
    (cfg : TCPConfig)
    (random : WrappingInt32) : Backoff where
  connection := TCPConnection.new cfg random

/-- Perform one call and count an expiry, in the probe state or outside it. -/
def step
    (backoff : Backoff)
    (op : Op) : Backoff where
  connection := backoff.connection.perform op
  expiries :=
    if op.AcknowledgesNew backoff.connection then
      0
    else
      backoff.expiries + (backoff.connection.expires op).toNat
  doublings :=
    if op.AcknowledgesNew backoff.connection then
      0
    else
      backoff.doublings +
        (backoff.connection.expires op &&
          !backoff.connection.sender.windowProbe).toNat

/-- The count after these calls on a new connection. -/
def after
    (cfg : TCPConfig)
    (random : WrappingInt32)
    (calls : List Op) : Backoff :=
  Execution.run step (start cfg random) calls

@[simp] theorem step_connection
    (backoff : Backoff)
    (op : Op) :
    (backoff.step op).connection = backoff.connection.perform op :=
  rfl

/-- Counting the expiries does not interfere with the calls. -/
theorem after_connection
    (cfg : TCPConfig)
    (random : WrappingInt32)
    (calls : List Op) :
    (after cfg random calls).connection =
      (Session.after cfg random calls).connection := by
  refine Execution.run_simulation
    (fun (backoff : Backoff) (session : Session) =>
      backoff.connection = session.connection)
    ?_ rfl calls
  intro backoff session op same
  exact congrArg (fun connection => connection.perform op) same

/-- Calls of the application neither expire nor acknowledge. -/
theorem step_quiet
    (backoff : Backoff)
    {op : Op}
    (notTick : ∀ msSinceLastTick, op ≠ .tick msSinceLastTick)
    (notReceived : ∀ order seg, op ≠ .segmentReceived order seg) :
    backoff.step op =
      { backoff with connection := backoff.connection.perform op } := by
  cases op with
  | tick msSinceLastTick =>
      exact (notTick msSinceLastTick rfl).elim
  | segmentReceived order seg =>
      exact (notReceived order seg rfl).elim
  | connect | write _ | endInputStream | readInbound _ | dequeue =>
      simp only [step, Op.AcknowledgesNew, expires, Bool.toNat_false,
        Nat.add_zero, Bool.false_and, ↓reduceIte]

/--
Time is only told to a connection that is active, and the sequence numbers have
not wrapped around.
-/
def Permits
    (backoff : Backoff)
    (op : Op) : Prop :=
  op.WhileActive backoff.connection ∧
    backoff.connection.sender.nextSeqnoAbsolute < 2 ^ 32

instance (backoff : Backoff) (op : Op) :
    Decidable (backoff.Permits op) :=
  inferInstanceAs (Decidable (_ ∧ _))

end Backoff

section Counting

open TCPSender (BackedOff)

variable {timeout expiries doublings : Nat}
variable {connection : TCPConnection}

/-- A received segment resets the account if it acknowledges new data. -/
theorem backedOff_segmentReceived
    (backedOff : BackedOff timeout expiries doublings connection.sender)
    (order : IterationOrder)
    (seg : TCPSegment) :
    let isNew :=
      seg.header.ack && connection.sender.acknowledges seg.header.ackno
    BackedOff timeout (if isNew then 0 else expiries)
      (if isNew then 0 else doublings)
      (connection.segmentReceived seg order).sender := by
  intro isNew
  apply (robust_backedOff timeout _ _).segmentReceived
  obtain ⟨stream, handed⟩ := receivePayload_sender order seg connection
  have noted :
      BackedOff timeout expiries doublings
        ((connection.noted seg).receivePayload seg order).sender := by
    rw [handed]
    exact backedOff.detached stream connection.sender.segmentsOut
  unfold heard receiveAck
  cases acks : seg.header.ack with
  | false =>
      simp only [isNew, acks, Bool.false_and, Bool.false_eq_true,
        ↓reduceIte]
      exact noted
  | true =>
      have same :
          isNew =
            ((connection.noted seg).receivePayload seg
              order).sender.acknowledges seg.header.ackno := by
        rw [handed]
        simp only [isNew, acks, Bool.true_and]
        rfl
      rw [same]
      exact noted.ackReceived seg.header.ackno seg.header.win

/-- A call of `tick` counts the expiry of the timer, if there is one. -/
theorem backedOff_tick
    (backedOff : BackedOff timeout expiries doublings connection.sender)
    (msSinceLastTick : Nat) :
    BackedOff timeout
      (expiries + (connection.expires (.tick msSinceLastTick)).toNat)
      (doublings +
        (connection.expires (.tick msSinceLastTick) &&
          !connection.sender.windowProbe).toNat)
      (connection.tick msSinceLastTick).sender := by
  have filled :=
    (robust_backedOff timeout expiries doublings).tickFill
      msSinceLastTick backedOff
  have probe :
      (connection.tickFill msSinceLastTick).sender.windowProbe =
        connection.sender.windowProbe :=
    (robust_windowProbe connection.sender.windowProbe).tickFill
      msSinceLastTick rfl
  apply (robust_backedOff timeout _ _).tick
  rw [← probe]
  exact filled.tick msSinceLastTick

/-- The counters beside the connection are the account of its sender. -/
theorem backedOff_step
    {backoff : Backoff}
    (backedOff :
      BackedOff timeout backoff.expiries backoff.doublings
        backoff.connection.sender)
    {op : Op}
    (permitted : backoff.Permits op) :
    BackedOff timeout (backoff.step op).expiries
      (backoff.step op).doublings
      (backoff.step op).connection.sender := by
  by_cases isTick : ∃ msSinceLastTick, op = .tick msSinceLastTick
  · obtain ⟨msSinceLastTick, rfl⟩ := isTick
    exact backedOff_tick backedOff msSinceLastTick
  by_cases isReceived : ∃ order seg, op = .segmentReceived order seg
  · obtain ⟨order, seg, rfl⟩ := isReceived
    have received := backedOff_segmentReceived backedOff order seg
    have isNew :
        (seg.header.ack &&
            backoff.connection.sender.acknowledges seg.header.ackno) =
          true ↔
        (Op.segmentReceived order seg).AcknowledgesNew
          backoff.connection := by
      rw [Bool.and_eq_true, TCPSender.acknowledges_iff permitted.2]
      rfl
    simp only [isNew] at received
    exact received
  · rw [backoff.step_quiet (fun ms same => isTick ⟨ms, same⟩)
      (fun order seg same => isReceived ⟨order, seg, same⟩)]
    exact (robust_backedOff timeout _ _).perform_quiet
      (fun ms same => isTick ⟨ms, same⟩)
      (fun order seg same => isReceived ⟨order, seg, same⟩) backedOff

end Counting

section Limit

variable {connection : TCPConnection} {msSinceLastTick : Nat}

theorem tickFinish_close_of_closed
    (closed : connection.close = true) :
    connection.tickFinish.close = true := by
  unfold tickFinish
  dsimp only
  repeat' split
  all_goals first | exact closed | rfl

/-- A call gives up by the count that it leaves behind. -/
theorem exceeded_iff :
    (connection.tickSend msSinceLastTick).retransmissionsExceeded = true ↔
      TCPConfig.maxRetxAttempts <
        (connection.tick msSinceLastTick).sender.consecutiveRetran := by
  have same :
      (connection.tick msSinceLastTick).sender.consecutiveRetran =
        (connection.tickSend
          msSinceLastTick).sender.consecutiveRetran := by
    unfold tick
    rw [tickFinish_sender]
    unfold tickAbort
    split
    · rw [sendRst_of_nil (tickSend_segmentsOut msSinceLastTick _)]
      rfl
    · rfl
  rw [same, retransmissionsExceeded, decide_eq_true_iff]

/-- A connection that is active after `tick` was so before and goes on. -/
theorem active_of_tick
    (active : (connection.tick msSinceLastTick).active = true) :
    connection.active = true ∧
      (connection.tickSend msSinceLastTick).retransmissionsExceeded =
        false := by
  have stillOpen :
      (connection.tickSend msSinceLastTick).tickAbort.close = false := by
    by_contra closed
    have finished :
        (connection.tick msSinceLastTick).close = true :=
      tickFinish_close_of_closed (Bool.of_not_eq_false closed)
    rw [TCPConnection.active, finished] at active
    cases active
  unfold tickAbort at stillOpen
  split at stillOpen
  · rw [sendRst_of_nil (tickSend_segmentsOut msSinceLastTick _)]
      at stillOpen
    cases stillOpen
  · rename_i goesOn
    rw [(tickSend_frame connection msSinceLastTick).2.2.2.1] at stillOpen
    exact ⟨by rw [TCPConnection.active, stillOpen, Bool.not_false],
      Bool.eq_false_iff.mpr goesOn⟩

/-- No call opens a connection again. -/
theorem active_of_perform
    {op : Op}
    (active : (connection.perform op).active = true) :
    connection.active = true := by
  rcases perform_kept connection op with
    kept | ⟨msSinceLastTick, rfl⟩ | ⟨order, seg, rfl⟩
  · rw [TCPConnection.active, kept.close] at active
    exact active
  · exact (active_of_tick active).1
  · have close :=
      (segmentReceived_frame order seg connection).2.2.2
    simp only [perform, TCPConnection.active, close, Bool.not_or,
      Bool.and_eq_true] at active
    exact active.1

/-- An expiry sends the first outstanding segment again, and nothing else. -/
theorem sentAgain_of_expired
    {timeout expiries doublings : Nat}
    (backedOff :
      TCPSender.BackedOff timeout expiries doublings connection.sender)
    (expired : connection.expires (.tick msSinceLastTick) = true) :
    ∃ first rest,
      (connection.tickFill msSinceLastTick).sender.retransmissionQueue =
          first :: rest ∧
        connection.sentAgain msSinceLastTick = [first] := by
  have filled :=
    (robust_backedOff timeout expiries doublings).tickFill
      msSinceLastTick backedOff
  obtain ⟨first, rest, queue⟩ := filled.outstanding expired
  refine ⟨first, rest, queue, ?_⟩
  unfold sentAgain
  dsimp only
  rw [(TCPSender.tick_of_expired expired).2.2,
    TCPSender.retransmit_eq queue filled.windowOpen, List.drop_left]

theorem sentAgain_of_waiting
    (waits : connection.expires (.tick msSinceLastTick) = false) :
    connection.sentAgain msSinceLastTick = [] := by
  obtain ⟨rto, _, waited⟩ := TCPSender.tick_of_waiting waits
  unfold sentAgain
  dsimp only
  rw [waited, List.drop_length]

end Limit

namespace Backoff

/-- The account of the sender, and the limit that giving up puts on it. -/
structure Limited
    (cfg : TCPConfig)
    (backoff : Backoff) : Prop where
  account :
    TCPSender.BackedOff cfg.rtTimeout.toNat backoff.expiries
      backoff.doublings backoff.connection.sender
  bound : backoff.expiries ≤ TCPConfig.maxRetxAttempts + 1
  whileActive :
    backoff.connection.active = true →
    backoff.expiries ≤ TCPConfig.maxRetxAttempts

section Steps

variable {cfg : TCPConfig} {backoff : Backoff} {op : Op}

theorem limited_start
    (cfg : TCPConfig)
    (random : WrappingInt32) :
    (start cfg random).Limited cfg where
  account :=
    .new cfg.sendCapacity cfg.rtTimeout (cfg.fixedIsn.getD random)
  bound := Nat.zero_le _
  whileActive := fun _ => Nat.zero_le _

theorem Limited.count
    (limited : backoff.Limited cfg) :
    backoff.connection.sender.consecutiveRetran = backoff.expiries := by
  have bound := limited.bound
  rw [limited.account.count, Nat.mod_eq_of_lt]
  unfold TCPConfig.maxRetxAttempts at bound
  omega

/-- The limit keeps the timeout within its 32 bits. -/
theorem Limited.timeout_lt
    (limited : backoff.Limited cfg) :
    cfg.rtTimeout.toNat * 2 ^ backoff.doublings < 2 ^ 32 := by
  have few : backoff.doublings ≤ 9 :=
    Nat.le_trans limited.account.bounded limited.bound
  calc
    cfg.rtTimeout.toNat * 2 ^ backoff.doublings
        ≤ cfg.rtTimeout.toNat * 2 ^ 9 :=
      Nat.mul_le_mul_left _ (Nat.pow_le_pow_right (by decide) few)
    _ < 2 ^ 16 * 2 ^ 9 :=
      Nat.mul_lt_mul_of_pos_right cfg.rtTimeout.toNat_lt (by decide)
    _ < 2 ^ 32 := by decide

/-- Only an expiry raises the number of expiries, and by one. -/
theorem step_expiries_le
    (backoff : Backoff)
    (op : Op) :
    (backoff.step op).expiries ≤
      backoff.expiries + (backoff.connection.expires op).toNat := by
  unfold step
  dsimp only
  split
  · exact Nat.zero_le _
  · exact Nat.le_refl _

theorem expires_of_not_tick
    {connection : TCPConnection}
    (notTick : ∀ msSinceLastTick, op ≠ .tick msSinceLastTick) :
    connection.expires op = false := by
  cases op with
  | tick msSinceLastTick =>
      exact (notTick msSinceLastTick rfl).elim
  | connect | write _ | endInputStream | readInbound _
  | segmentReceived _ _ | dequeue => rfl

/-- A connection that counts one expiry too many is closed by it. -/
theorem Limited.step
    (limited : backoff.Limited cfg)
    (permitted : backoff.Permits op) :
    (backoff.step op).Limited cfg := by
  have account := backedOff_step limited.account permitted
  have grows := backoff.step_expiries_le op
  by_cases isTick : ∃ msSinceLastTick, op = .tick msSinceLastTick
  · obtain ⟨msSinceLastTick, rfl⟩ := isTick
    have before := limited.whileActive permitted.1
    have atMost :
        (backoff.connection.expires (.tick msSinceLastTick)).toNat ≤ 1 :=
      Bool.toNat_le _
    have bound :
        (backoff.step (.tick msSinceLastTick)).expiries ≤
          TCPConfig.maxRetxAttempts + 1 := by
      omega
    refine ⟨account, bound, ?_⟩
    intro active
    rw [step_connection, perform] at active
    have goesOn := (active_of_tick active).2
    have count := account.count
    rw [Nat.mod_eq_of_lt (by
      unfold TCPConfig.maxRetxAttempts at bound
      omega), step_connection, perform] at count
    by_contra exceeds
    rw [← count, Nat.not_le] at exceeds
    rw [exceeded_iff.mpr exceeds] at goesOn
    cases goesOn
  · have quiet :=
      @expires_of_not_tick op backoff.connection
        fun ms same => isTick ⟨ms, same⟩
    rw [quiet, Bool.toNat_false, Nat.add_zero] at grows
    refine ⟨account, Nat.le_trans grows limited.bound, ?_⟩
    intro active
    rw [step_connection] at active
    exact Nat.le_trans grows
      (limited.whileActive (active_of_perform active))

theorem limited_after
    {cfg : TCPConfig}
    {random : WrappingInt32}
    {calls : List Op}
    (permitted :
      Execution.EveryStep step Permits (start cfg random) calls) :
    (after cfg random calls).Limited cfg :=
  Execution.EveryStep.invariant (Limited cfg)
    (fun _ _ limited permits => limited.step permits)
    (limited_start cfg random) permitted

/-- A call gives up exactly when it takes the count past the limit. -/
theorem Limited.gives_up_iff
    (limited : backoff.Limited cfg)
    (permitted : backoff.Permits op) :
    (∃ msSinceLastTick,
      op = .tick msSinceLastTick ∧
        (backoff.connection.tickSend
          msSinceLastTick).retransmissionsExceeded = true) ↔
      backoff.connection.sender.consecutiveRetran ≤
          TCPConfig.maxRetxAttempts ∧
        TCPConfig.maxRetxAttempts <
          (backoff.connection.perform op).sender.consecutiveRetran := by
  constructor
  · rintro ⟨msSinceLastTick, rfl, exceeded⟩
    rw [limited.count, perform]
    exact ⟨limited.whileActive permitted.1, exceeded_iff.mp exceeded⟩
  · rintro ⟨below, above⟩
    by_contra goesOn
    have notTick : ∀ msSinceLastTick, op ≠ .tick msSinceLastTick := by
      rintro msSinceLastTick rfl
      rw [perform] at above
      exact goesOn ⟨msSinceLastTick, rfl, exceeded_iff.mpr above⟩
    have grows := backoff.step_expiries_le op
    rw [expires_of_not_tick notTick, Bool.toNat_false, Nat.add_zero]
      at grows
    have count := (limited.step permitted).count
    rw [step_connection] at count
    rw [limited.count] at below
    omega

/-- An acknowledgment of new data undoes the back-off. -/
theorem Limited.acknowledged
    (limited : backoff.Limited cfg)
    (permitted : backoff.Permits op)
    (isNew : op.AcknowledgesNew backoff.connection) :
    (backoff.connection.perform op).sender.rto = cfg.rtTimeout.toNat ∧
      (backoff.connection.perform op).sender.consecutiveRetran = 0 := by
  have account := backedOff_step limited.account permitted
  rw [step_connection, Backoff.step, if_pos isNew, if_pos isNew]
    at account
  refine ⟨account.rto.trans ?_, account.count⟩
  rw [Nat.pow_zero, Nat.mul_one, Nat.mod_eq_of_lt account.small]

end Steps

end Backoff

/--
As long as time is only told to an active connection, the timeout is the first
one doubled once for every expiry outside the probe state since the last
acknowledgment of new data, with nine doublings at most; an expiry sends one
segment again, an acknowledgment of new data undoes the back-off, and a reset is
placed exactly when the count passes the limit, which closes the connection.
-/
theorem backoff_exact
    (cfg : TCPConfig)
    (random : WrappingInt32)
    (calls : List Op)
    (permitted :
      Execution.EveryStep Backoff.step Backoff.Permits
        (Backoff.start cfg random) calls) :
    let backoff := Backoff.after cfg random calls
    let before := backoff.connection
    (before.sender.rto = cfg.rtTimeout.toNat * 2 ^ backoff.doublings ∧
      cfg.rtTimeout.toNat * 2 ^ backoff.doublings < 2 ^ 32 ∧
      backoff.doublings ≤ TCPConfig.maxRetxAttempts + 1) ∧
    (before.sender.consecutiveRetran = backoff.expiries ∧
      (TCPConfig.maxRetxAttempts < before.sender.consecutiveRetran →
        before.active = false)) ∧
    ∀ op,
      backoff.Permits op →
      (∀ msSinceLastTick,
        op = .tick msSinceLastTick →
        if before.expires op then
          ∃ first rest,
            (before.tickFill
                msSinceLastTick).sender.retransmissionQueue =
              first :: rest ∧
            before.sentAgain msSinceLastTick = [first]
        else
          before.sentAgain msSinceLastTick = []) ∧
      (op.AcknowledgesNew before →
        (before.perform op).sender.rto = cfg.rtTimeout.toNat ∧
          (before.perform op).sender.consecutiveRetran = 0) ∧
      ((∃ seg ∈ before.pushed op, seg.header.rst = true) ↔
        before.sender.consecutiveRetran ≤ TCPConfig.maxRetxAttempts ∧
          TCPConfig.maxRetxAttempts <
            (before.perform op).sender.consecutiveRetran) := by
  intro backoff before
  have limited := Backoff.limited_after permitted
  obtain ⟨log, accounted⟩ := Session.accounted_after cfg random calls
  rw [Session.view, ← Backoff.after_connection] at accounted
  have small := limited.timeout_lt
  have rto := limited.account.rto
  rw [Nat.mod_eq_of_lt small] at rto
  refine ⟨⟨rto, small, ?_⟩, ⟨limited.count, ?_⟩, ?_⟩
  · exact Nat.le_trans limited.account.bounded limited.bound
  · intro exceeds
    rw [limited.count] at exceeds
    exact Bool.eq_false_iff.mpr fun active =>
      Nat.not_le_of_lt exceeds (limited.whileActive active)
  · intro op permits
    refine ⟨?_, limited.acknowledged permits, ?_⟩
    · rintro msSinceLastTick rfl
      split
      · rename_i expired
        exact sentAgain_of_expired limited.account expired
      · rename_i waits
        exact sentAgain_of_waiting (Bool.eq_false_iff.mpr waits)
    · rw [pushed_reset_iff accounted]
      exact limited.gives_up_iff permits

/-- A SYN that is never answered: two expiries quadruple the timeout. -/
theorem backoff_exact_unanswered :
    let backoff :=
      Backoff.after {} ⟨0⟩ [.connect, .tick 1000, .tick 2000]
    backoff.doublings = 2 ∧
      backoff.connection.sender.rto = 1000 * 2 ^ 2 := by
  have doublings :
      (Backoff.after {} ⟨0⟩ [.connect, .tick 1000, .tick 2000]).doublings =
        2 := by
    decide +kernel
  have exact :=
    (backoff_exact {} ⟨0⟩ [.connect, .tick 1000, .tick 2000]
      (by decide +kernel)).1.1
  rw [doublings] at exact
  exact ⟨doublings, exact⟩

section Probing

/-- The window that a call brings. -/
def Op.advertises : Op → Option UInt16
  | .segmentReceived _ seg =>
      if seg.header.ack then
        some seg.header.win
      else
        none
  | _ => none

/-- The window of the most recently received acknowledgment. -/
def lastAdvertised (calls : List Op) : Option UInt16 :=
  (calls.filterMap Op.advertises).getLast?

theorem perform_windowProbe
    (connection : TCPConnection)
    (op : Op) :
    (connection.perform op).sender.windowProbe =
      (op.advertises.map
        fun windowSize => decide (windowSize = 0)).getD
          connection.sender.windowProbe := by
  have robust := robust_windowProbe
  cases op with
  | segmentReceived order seg =>
      obtain ⟨stream, handed⟩ := receivePayload_sender order seg connection
      refine (robust _).segmentReceived ?_
      unfold heard receiveAck Op.advertises
      cases acks : seg.header.ack with
      | false =>
          simp only [acks, Bool.false_eq_true, ↓reduceIte, handed]
          rfl
      | true =>
          simp only [acks, ↓reduceIte]
          exact TCPSender.ackReceived_windowProbe _ _ _
  | tick msSinceLastTick =>
      refine (robust _).tick ?_
      rw [TCPSender.tick_windowProbe]
      exact (robust _).tickFill msSinceLastTick rfl
  | connect | write _ | endInputStream | readInbound _ | dequeue =>
      exact (robust _).perform_quiet (by simp) (by simp) rfl

/-- A connection probes exactly when the last advertised window was empty. -/
theorem Session.windowProbe_after
    (cfg : TCPConfig)
    (random : WrappingInt32)
    (calls : List Op) :
    (after cfg random calls).connection.sender.windowProbe =
      ((lastAdvertised calls).map
        fun windowSize => decide (windowSize = 0)).getD false :=
  Execution.run_latest Op.advertises
    (fun session : Session => session.connection.sender.windowProbe) _
    (fun session op => perform_windowProbe session.connection op)
    _ calls

theorem Session.backedOff_after
    (cfg : TCPConfig)
    (random : WrappingInt32)
    (calls : List Op) :
    ∃ expiries doublings,
      TCPSender.BackedOff cfg.rtTimeout.toNat expiries doublings
        (after cfg random calls).connection.sender := by
  refine Execution.run_invariant
    (fun session : Session =>
      ∃ expiries doublings,
        TCPSender.BackedOff cfg.rtTimeout.toNat expiries doublings
          session.connection.sender)
    ?_ ⟨0, 0, .new cfg.sendCapacity cfg.rtTimeout
      (cfg.fixedIsn.getD random)⟩ calls
  rintro session op ⟨expiries, doublings, backedOff⟩
  cases op with
  | segmentReceived order seg =>
      exact ⟨_, _, backedOff_segmentReceived backedOff order seg⟩
  | tick msSinceLastTick =>
      exact ⟨_, _, backedOff_tick backedOff msSinceLastTick⟩
  | connect | write _ | endInputStream | readInbound _ | dequeue =>
      exact ⟨_, _, (robust_backedOff _ _ _).perform_quiet
        (by simp) (by simp) backedOff⟩

/--
A sender whose peer last advertised an empty window keeps its timeout, but it
counts every expiry: the count is what it was exactly when the expiries are a
multiple of `2 ^ 32`.  A connection whose peer keeps its window empty is
therefore reset as soon as the count passes the limit.
-/
theorem probing_uncounted_iff
    (capacity : Nat)
    (retxTimeout : UInt16)
    (isn : WrappingInt32)
    (senderCalls : List TCPSender.Op)
    (intervals : List Nat)
    (senderClosed : TCPSender.lastAdvertised senderCalls = some 0)
    (cfg : TCPConfig)
    (random : WrappingInt32)
    (calls : List Op)
    (msSinceLastTick : Nat)
    (closed : lastAdvertised calls = some 0) :
    let sender :=
      (TCPSender.Session.after capacity retxTimeout isn
        senderCalls).sender
    let ticked := sender.ticks intervals
    let before := (Session.after cfg random calls).connection
    let op : Op := .tick msSinceLastTick
    (ticked.rto = sender.rto ∧
      (ticked.consecutiveRetran = sender.consecutiveRetran ↔
        2 ^ 32 ∣ sender.expiries intervals)) ∧
    (before.perform op).sender.rto = before.sender.rto ∧
    ((∃ seg ∈ before.pushed op, seg.header.rst = true) ↔
      TCPConfig.maxRetxAttempts <
        (before.sender.consecutiveRetran +
          (before.expires op).toNat) % 2 ^ 32) := by
  intro sender ticked before op
  have senderProbing : sender.windowProbe = true := by
    rw [TCPSender.Session.windowProbe_after, senderClosed]
    rfl
  have probing : before.sender.windowProbe = true := by
    rw [Session.windowProbe_after, closed]
    rfl
  obtain ⟨_, _, senderBackedOff⟩ :=
    TCPSender.Session.backedOff_after capacity retxTimeout isn senderCalls
  obtain ⟨expiries, doublings, backedOff⟩ :=
    Session.backedOff_after cfg random calls
  obtain ⟨log, accounted⟩ := Session.accounted_after cfg random calls
  have counted := backedOff_tick backedOff msSinceLastTick
  rw [probing, Bool.not_true, Bool.and_false, Bool.toNat_false,
    Nat.add_zero] at counted
  have performed : before.perform op = before.tick msSinceLastTick := rfl
  refine ⟨TCPSender.ticks_of_probing senderBackedOff senderProbing
    intervals, ?_, ?_⟩
  · rw [performed, counted.rto, backedOff.rto]
  · rw [pushed_reset_iff accounted, backedOff.count, Nat.mod_add_mod,
      ← counted.count, ← exceeded_iff]
    constructor
    · rintro ⟨_, same, exceeded⟩
      rw [Op.tick.inj same]
      exact exceeded
    · intro exceeded
      exact ⟨msSinceLastTick, rfl, exceeded⟩

/-- The peer's SYN and acknowledgment, with an empty window. -/
def closedWindow : TCPSegment where
  header := {
    seqno := ⟨100⟩
    ackno := ⟨1⟩
    syn := true
    ack := true
    win := 0 }

/-- A connection with one byte to send to a peer that takes none. -/
def probingByte : List Op := [
  .connect,
  .segmentReceived .stored closedWindow,
  .write [97]]

/-- The first probe that is not answered changes neither timeout nor state. -/
theorem probing_uncounted_iff_first :
    let senderCalls : List TCPSender.Op := [
      .fillWindow, .ackReceived ⟨1⟩ 0, .write [97], .fillWindow]
    let sender :=
      (TCPSender.Session.after 10 1000 ⟨0⟩ senderCalls).sender
    let before := (Session.after {} ⟨0⟩ probingByte).connection
    (sender.ticks [1000]).rto = sender.rto ∧
      ¬ ∃ seg ∈ before.pushed (.tick 1000), seg.header.rst = true := by
  intro senderCalls sender before
  have probed :=
    probing_uncounted_iff 10 1000 ⟨0⟩ senderCalls [1000] (by decide)
      {} ⟨0⟩ probingByte 1000 (by decide)
  refine ⟨probed.1.1, ?_⟩
  rw [probed.2.2]
  decide +kernel

/--
Every expiry in the probe state is counted, and the ninth probe that the peer
leaves unanswered resets the connection.
-/
theorem probing_resets :
    let calls := probingByte ++ List.replicate 8 (.tick 1000)
    let before := (Session.after {} ⟨0⟩ calls).connection
    lastAdvertised calls = some 0 ∧
      (Session.after {} ⟨0⟩
        probingByte).connection.sender.consecutiveRetran = 0 ∧
      before.sender.consecutiveRetran = 8 ∧
      (before.pushed (.tick 1000)).map (fun seg => seg.header.rst) =
        [false, true] ∧
      (before.perform (.tick 1000)).active = false := by
  decide +kernel

end Probing

end Sponge.TCPConnection
