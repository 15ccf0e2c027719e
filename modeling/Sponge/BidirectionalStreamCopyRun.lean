import Sponge.BidirectionalStreamCopy

namespace Sponge

/-!
# Copying is complete and in order

The rules of the copying loop keep both directions in order whatever the kernel
does.  While no descriptor hangs up, a stream is only ended by the end of its
file, and the rules that are still needed stay in the loop.
-/

namespace BidirectionalStreamCopy

/-! ## In order, whatever happens -/

/-- A rule that reads is called while there is room. -/
def Ready
    (rule : Rule)
    (copy : BidirectionalStreamCopy) : Prop :=
  rule.direction = .In → rule.interest copy = true

theorem mem_rules
    {rule : Rule}
    (member : rule ∈ rules) :
    rule = inputRule ∨ rule = socketOutRule ∨
      rule = socketInRule ∨ rule = outputRule := by
  simpa only [rules, List.mem_cons, List.not_mem_nil, or_false] using
    member

/-- A rule that writes is always ready. -/
theorem undisturbed_of_writes
    {earlier later : Rule}
    (writes : later.direction = .Out)
    (cancelled :
      ∀ copy,
        earlier.interest (later.cancel copy) = earlier.interest copy) :
    EventLoop.Rule.Undisturbed Ready earlier later := by
  have always : ∀ copy, Ready later copy := by
    intro copy reads
    cases writes.symm.trans reads
  refine ⟨fun copy ready reads => ?_, fun _ _ => always _,
    fun _ _ _ => always _⟩
  exact (cancelled copy).trans (ready reads)

/-- A rule that leaves the room for what the socket sends alone. -/
theorem undisturbed_socketInRule
    {earlier : Rule}
    (cancelEarlier :
      ∀ copy,
        socketInRule.interest (earlier.cancel copy) =
          socketInRule.interest copy)
    (cancelLater :
      ∀ copy,
        earlier.interest (endInbound copy) = earlier.interest copy)
    (called :
      ∀ kernel copy,
        socketInRule.interest
            (finalState (earlier.callback kernel copy)) =
          socketInRule.interest copy) :
    EventLoop.Rule.Undisturbed Ready earlier socketInRule := by
  refine ⟨fun copy ready reads => ?_, fun copy ready reads => ?_,
    fun kernel copy ready reads => ?_⟩
  · exact (cancelLater copy).trans (ready reads)
  · exact (cancelEarlier copy).trans (ready reads)
  · exact (called kernel copy).trans (ready reads)

theorem inputRule_undisturbed :
    EventLoop.Rule.Undisturbed Ready inputRule socketInRule := by
  refine undisturbed_socketInRule (fun _ => rfl) (fun _ => rfl) ?_
  intro kernel copy
  have same := readInto_error kernel copy.input copy.outbound
  simp only [inputRule, readInput, finalState_ofPart, socketInRule,
    readable, same]

theorem socketOutRule_undisturbed :
    EventLoop.Rule.Undisturbed Ready socketOutRule socketInRule := by
  refine undisturbed_socketInRule (fun _ => rfl) (fun _ => rfl) ?_
  intro kernel copy
  have same :=
    writeOut_error kernel (·.shutdown .wr kernel.shutdown)
      copy.outbound copy.socket copy.outboundShutdown
  simp only [socketOutRule, writeSocket, finalState_ofPart,
    socketInRule, readable, same]

theorem undisturbed_rules :
    rules.Pairwise (EventLoop.Rule.Undisturbed Ready) := by
  simp only [rules, List.pairwise_cons, List.mem_cons, List.not_mem_nil,
    or_false, forall_eq_or_imp, forall_eq, false_imp_iff, implies_true,
    and_true, List.Pairwise.nil]
  exact ⟨⟨undisturbed_of_writes rfl fun _ => rfl, inputRule_undisturbed,
      undisturbed_of_writes rfl fun _ => rfl⟩,
    ⟨socketOutRule_undisturbed, undisturbed_of_writes rfl fun _ => rfl⟩,
    undisturbed_of_writes rfl fun _ => rfl⟩

/-- What has gone out and what is held came in before, in this order. -/
structure InOrder (copy : BidirectionalStreamCopy) : Prop where
  outbound :
    Copies copy.input.received copy.socket.sent copy.outbound
  inbound :
    Copies copy.socket.received copy.output.sent copy.inbound

theorem room_of_readable
    {stream other : ByteStream}
    (reads : readable stream other = true) :
    stream.remainingCapacity > 0 := by
  simp only [readable, Bool.and_eq_true, decide_eq_true_eq] at reads
  exact reads.1.2

theorem keeps_inOrder
    {rule : Rule}
    (member : rule ∈ rules) :
    rule.Keeps InOrder Ready Kernel.Faithful := by
  rcases mem_rules member with rfl | rfl | rfl | rfl
  · refine ⟨fun _ _ interested _ => interested,
      fun copy held => ⟨held.outbound.endInput, held.inbound⟩, ?_⟩
    intro kernel copy held ready faithful
    have copied :=
      held.outbound.readInto faithful (room_of_readable (ready rfl))
    change InOrder (finalState (readInput kernel copy))
    rw [readInput, finalState_ofPart]
    exact ⟨copied, held.inbound⟩
  · refine ⟨fun _ _ interested _ => interested,
      fun copy held => ⟨held.outbound.endInput, held.inbound⟩, ?_⟩
    intro kernel copy held _ _
    have copied := held.outbound.writeFrom kernel
    obtain ⟨socket, shutdown, left, ⟨sent, received, _⟩, _⟩ :=
      writeSocket_leaves kernel copy
    change InOrder (finalState (writeSocket kernel copy))
    rw [left]
    exact ⟨sent ▸ copied, received ▸ held.inbound⟩
  · refine ⟨fun _ _ interested _ => interested,
      fun copy held => ⟨held.outbound, held.inbound.endInput⟩, ?_⟩
    intro kernel copy held ready faithful
    have room := room_of_readable (ready rfl)
    have copied := held.inbound.readInto faithful room
    change InOrder (finalState (readSocket kernel copy))
    rw [readSocket, finalState_ofPart]
    refine ⟨?_, copied⟩
    dsimp only
    rw [(readInto_fd kernel copy.socket copy.inbound).1]
    exact held.outbound
  · refine ⟨fun _ _ interested _ => interested,
      fun copy held => ⟨held.outbound, held.inbound.endInput⟩, ?_⟩
    intro kernel copy held _ _
    have copied := held.inbound.writeFrom kernel
    obtain ⟨output, shutdown, left, sent, _⟩ :=
      writeOutput_leaves kernel copy
    change InOrder (finalState (writeOutput kernel copy))
    rw [left]
    exact ⟨held.outbound, sent ▸ copied⟩

/-! ## Everything, while nothing hangs up -/

/-- What holds besides while streams are only ended by the end of a file. -/
structure Complete (copy : BidirectionalStreamCopy) : Prop where
  outbound :
    CopiesAll copy.input.received copy.socket.sent copy.outbound
      copy.input.eof
  inbound :
    CopiesAll copy.socket.received copy.output.sent copy.inbound
      copy.socket.eof
  inputOpen : copy.input.closed = false
  socketOpen : copy.socket.closed = false
  socketTold :
    copy.outboundShutdown = true ↔ .wr ∈ copy.socket.shutdowns
  outputClosed :
    copy.inboundShutdown = true ↔ copy.output.closed = true
  outboundDone :
    copy.outboundShutdown = true → copy.outbound.eof = true
  inboundDone :
    copy.inboundShutdown = true → copy.inbound.eof = true

theorem complete_start : Complete {} where
  outbound := copies_new
  inbound := copies_new
  inputOpen := rfl
  socketOpen := rfl
  socketTold := by decide
  outputClosed := by decide
  outboundDone := by decide
  inboundDone := by decide

/-- A stream that has ended stays as it is when its descriptor is read. -/
theorem readInto_ended
    {stream : ByteStream}
    (ended : stream.endFlag = true)
    (kernel : Kernel)
    (fd : FileDescriptor Bytes) :
    (finalState (readInto kernel fd stream)).2 = stream := by
  unfold readInto
  dsimp only
  split
  · rfl
  · rw [write_ended ended]
    split
    · exact endInput_of_ended ended
    · rfl

/-- A stream at its end stays there when it is written from. -/
theorem writeFrom_ended
    {stream : ByteStream}
    (valid : stream.Valid)
    (atEnd : stream.eof = true)
    (kernel : Kernel)
    (fd : FileDescriptor Bytes) :
    (finalState (writeFrom kernel stream fd)).2.eof = true := by
  simp only [ByteStream.eof, Bool.and_eq_true, beq_iff_eq] at atEnd
  rcases writeFrom_cases valid kernel fd with
    ⟨thrown, threw⟩ | ⟨count, popped, left, dropped, endFlag, _, _, wrote⟩
  · rw [threw]
    simp only [finalState, ByteStream.eof, Bool.and_eq_true, beq_iff_eq]
    exact atEnd
  · rw [wrote]
    have size := left.sizeExact
    rw [dropped, List.length_drop, valid.sizeExact] at size
    simp only [finalState, ByteStream.eof, Bool.and_eq_true, beq_iff_eq]
    exact ⟨endFlag.trans atEnd.1, by omega⟩

theorem endFlag_of_eof
    {stream : ByteStream}
    (atEnd : stream.eof = true) :
    stream.endFlag = true := by
  simp only [ByteStream.eof, Bool.and_eq_true] at atEnd
  exact atEnd.1

theorem readInto_eof
    {stream : ByteStream}
    (atEnd : stream.eof = true)
    (kernel : Kernel)
    (fd : FileDescriptor Bytes) :
    (finalState (readInto kernel fd stream)).2.eof = true := by
  rw [readInto_ended (endFlag_of_eof atEnd)]
  exact atEnd

theorem Complete.endOutbound
    {copy : BidirectionalStreamCopy}
    (complete : Complete copy)
    (ended : copy.outbound.endFlag = true) :
    Complete copy.endOutbound := by
  rw [BidirectionalStreamCopy.endOutbound, endInput_of_ended ended]
  exact complete

theorem Complete.endInbound
    {copy : BidirectionalStreamCopy}
    (complete : Complete copy)
    (ended : copy.inbound.endFlag = true) :
    Complete copy.endInbound := by
  rw [BidirectionalStreamCopy.endInbound, endInput_of_ended ended]
  exact complete

section Callbacks

variable {kernel : Kernel} {copy : BidirectionalStreamCopy}

theorem Complete.readInput
    (complete : Complete copy)
    (ready : Ready inputRule copy)
    (faithful : kernel.Faithful) :
    Complete (finalState (readInput kernel copy)) := by
  have copied :=
    complete.outbound.readInto faithful (room_of_readable (ready rfl))
  obtain ⟨_, _, closed, _⟩ := readInto_fd kernel copy.input copy.outbound
  rw [BidirectionalStreamCopy.readInput, finalState_ofPart]
  refine ⟨copied, complete.inbound, closed.trans complete.inputOpen,
    complete.socketOpen, complete.socketTold, complete.outputClosed, ?_,
    complete.inboundDone⟩
  intro told
  exact readInto_eof (complete.outboundDone told) kernel copy.input

theorem Complete.writeSocket
    (complete : Complete copy) :
    Complete (finalState (writeSocket kernel copy)) := by
  have copied := complete.outbound.writeFrom kernel
  obtain ⟨socket, shutdown, left, ⟨sent, received, eof, closed⟩,
    outcome⟩ := writeSocket_leaves kernel copy
  rw [left]
  refine ⟨sent ▸ copied, ?_, complete.inputOpen,
    closed.trans complete.socketOpen, ?_, complete.outputClosed, ?_,
    complete.inboundDone⟩
  · dsimp only
    rw [received, eof]
    exact complete.inbound
  · rcases outcome with ⟨recorded, same⟩ | ⟨_, recorded, done⟩
    · dsimp only
      rw [recorded, same]
      exact complete.socketTold
    · dsimp only
      rw [recorded, done]
      simp
  · intro told
    rcases outcome with ⟨_, same⟩ | ⟨atEnd, _⟩
    · exact writeFrom_ended complete.outbound.valid
        (complete.outboundDone (same.symm.trans told)) kernel copy.socket
    · exact atEnd

theorem Complete.readSocket
    (complete : Complete copy)
    (ready : Ready socketInRule copy)
    (faithful : kernel.Faithful) :
    Complete (finalState (readSocket kernel copy)) := by
  have copied :=
    complete.inbound.readInto faithful (room_of_readable (ready rfl))
  obtain ⟨sent, shutdowns, closed, _⟩ :=
    readInto_fd kernel copy.socket copy.inbound
  rw [BidirectionalStreamCopy.readSocket, finalState_ofPart]
  refine ⟨sent ▸ complete.outbound, copied, complete.inputOpen,
    closed.trans complete.socketOpen, shutdowns ▸ complete.socketTold,
    complete.outputClosed, complete.outboundDone, ?_⟩
  intro finished
  exact readInto_eof (complete.inboundDone finished) kernel copy.socket

theorem Complete.writeOutput
    (complete : Complete copy) :
    Complete (finalState (writeOutput kernel copy)) := by
  have copied := complete.inbound.writeFrom kernel
  obtain ⟨output, shutdown, left, sent, outcome⟩ :=
    writeOutput_leaves kernel copy
  rw [left]
  refine ⟨complete.outbound, sent ▸ copied, complete.inputOpen,
    complete.socketOpen, complete.socketTold, ?_, complete.outboundDone,
    ?_⟩
  · rcases outcome with ⟨unchanged, same⟩ | ⟨_, closed, done⟩
    · dsimp only
      rw [unchanged, same]
      exact complete.outputClosed
    · exact ⟨fun _ => closed, fun _ => done⟩
  · intro finished
    rcases outcome with ⟨_, same⟩ | ⟨atEnd, _⟩
    · exact writeFrom_ended complete.inbound.valid
        (complete.inboundDone (same.symm.trans finished)) kernel
        copy.output
    · exact atEnd

end Callbacks

theorem keeps_complete
    {rule : Rule}
    (member : rule ∈ rules) :
    rule.KeepsConnected Complete Ready Kernel.Faithful := by
  rcases mem_rules member with rfl | rfl | rfl | rfl
  · refine ⟨fun _ _ interested _ => interested, ?_,
      fun _ _ held ready faithful => held.readInput ready faithful⟩
    rintro copy held (⟨_, eof⟩ | closed)
    · exact held.endOutbound (held.outbound.noticed eof)
    · cases held.inputOpen.symm.trans closed
  · refine ⟨fun _ _ interested _ => interested, ?_,
      fun _ _ held _ _ => held.writeSocket⟩
    rintro copy held (⟨reads, _⟩ | closed)
    · cases reads
    · cases held.socketOpen.symm.trans closed
  · refine ⟨fun _ _ interested _ => interested, ?_,
      fun _ _ held ready faithful => held.readSocket ready faithful⟩
    rintro copy held (⟨_, eof⟩ | closed)
    · exact held.endInbound (held.inbound.noticed eof)
    · cases held.socketOpen.symm.trans closed
  · refine ⟨fun _ _ interested _ => interested, ?_,
      fun _ _ held _ _ => held.writeOutput⟩
    rintro copy held (⟨reads, _⟩ | closed)
    · cases reads
    · exact held.endInbound
        (endFlag_of_eof (held.inboundDone (held.outputClosed.mpr closed)))

/-! ## The end of a file stays, and so does a rule that may be needed -/

/-- What has come to its end stays there. -/
structure Later (before after : BidirectionalStreamCopy) : Prop where
  input : before.input.eof = true → after.input.eof = true
  socket : before.socket.eof = true → after.socket.eof = true
  inboundShutdown :
    before.inboundShutdown = true → after.inboundShutdown = true

theorem keeps_later
    (before : BidirectionalStreamCopy)
    {rule : Rule}
    (member : rule ∈ rules) :
    rule.Keeps (Later before) (fun _ _ => True) (fun _ => True) := by
  rcases mem_rules member with rfl | rfl | rfl | rfl
  · refine ⟨fun _ _ _ => trivial,
      fun _ held => ⟨held.input, held.socket, held.inboundShutdown⟩, ?_⟩
    intro kernel copy held _ _
    have eof := (readInto_fd kernel copy.input copy.outbound).2.2.2
    change Later before (finalState (readInput kernel copy))
    rw [readInput, finalState_ofPart]
    exact ⟨fun ended => eof (held.input ended), held.socket,
      held.inboundShutdown⟩
  · refine ⟨fun _ _ _ => trivial,
      fun _ held => ⟨held.input, held.socket, held.inboundShutdown⟩, ?_⟩
    intro kernel copy held _ _
    obtain ⟨socket, shutdown, left, ⟨_, _, eof, _⟩, _⟩ :=
      writeSocket_leaves kernel copy
    change Later before (finalState (writeSocket kernel copy))
    rw [left]
    exact ⟨held.input, fun ended => eof.trans (held.socket ended),
      held.inboundShutdown⟩
  · refine ⟨fun _ _ _ => trivial,
      fun _ held => ⟨held.input, held.socket, held.inboundShutdown⟩, ?_⟩
    intro kernel copy held _ _
    have eof := (readInto_fd kernel copy.socket copy.inbound).2.2.2
    change Later before (finalState (readSocket kernel copy))
    rw [readSocket, finalState_ofPart]
    exact ⟨held.input, fun ended => eof (held.socket ended),
      held.inboundShutdown⟩
  · refine ⟨fun _ _ _ => trivial,
      fun _ held => ⟨held.input, held.socket, held.inboundShutdown⟩, ?_⟩
    intro kernel copy held _ _
    obtain ⟨output, shutdown, left, _, outcome⟩ :=
      writeOutput_leaves kernel copy
    change Later before (finalState (writeOutput kernel copy))
    rw [left]
    refine ⟨held.input, held.socket, fun ended => ?_⟩
    rcases outcome with ⟨_, same⟩ | ⟨_, _, done⟩
    · exact same.trans (held.inboundShutdown ended)
    · exact done

/-- The rules that are still needed are there. -/
structure Attached (loop : Loop) : Prop where
  among : loop.rules.Sublist rules
  input : inputRule ∈ loop.rules ∨ loop.copy.input.eof = true
  socketOut : socketOutRule ∈ loop.rules
  socketIn : socketInRule ∈ loop.rules ∨ loop.copy.socket.eof = true
  output : outputRule ∈ loop.rules ∨ loop.copy.inboundShutdown = true

/-- No signal comes, and no descriptor hangs up. -/
def Undisturbed (poll : EventLoop.Poll Kernel) : Prop :=
  poll ≠ .interrupted ∧
    poll.Reports fun entry => entry.1.pollhup = false

section Turns

variable {loop : Loop} {poll : EventLoop.Poll Kernel}

/-- No cancellation touches a descriptor. -/
theorem cancel_fd
    {rule other : Rule}
    (member : rule ∈ rules)
    (among : other ∈ rules)
    (copy : BidirectionalStreamCopy) :
    rule.fd (other.cancel copy) = rule.fd copy := by
  rcases mem_rules member with rfl | rfl | rfl | rfl <;>
    rcases mem_rules among with rfl | rfl | rfl | rfl <;> rfl

theorem Attached.waitNextEvent
    (attached : Attached loop)
    (complete : Complete loop.copy)
    (undisturbed : Undisturbed poll)
    (phase : Phase) :
    let next :=
      finalState (EventLoop.waitNextEvent poll loop.rules loop.copy)
    Attached { rules := next.1, copy := next.2, phase } := by
  intro next
  have later : Later loop.copy next.2 :=
    EventLoop.waitNextEvent_keeps
      (by cases poll <;> first | trivial | exact fun _ => trivial)
      (fun rule member =>
        keeps_later loop.copy (attached.among.subset member))
      ((undisturbed_rules.sublist attached.among).imp fun _ =>
        ⟨fun _ _ => trivial, fun _ _ => trivial, fun _ _ _ => trivial⟩)
      ⟨id, id, id⟩
  have stays :
      ∀ rule ∈ loop.rules, ¬ rule.AtEnd loop.copy → rule ∈ next.1 :=
    fun rule member =>
      EventLoop.waitNextEvent_retains_of_not_atEnd undisturbed.2
        (fun other among =>
          cancel_fd (attached.among.subset member)
            (attached.among.subset among))
        member
  refine ⟨(EventLoop.waitNextEvent_sublist poll _ _).trans attached.among,
    ?_, ?_, ?_, ?_⟩
  · refine attached.input.elim (fun member => ?_)
      fun ended => .inr (later.input ended)
    by_cases atEnd : inputRule.AtEnd loop.copy
    · rcases atEnd with ⟨_, ended⟩ | closed
      · exact .inr (later.input ended)
      · cases complete.inputOpen.symm.trans closed
    · exact .inl (stays _ member atEnd)
  · refine stays _ attached.socketOut ?_
    rintro (⟨reads, _⟩ | closed)
    · cases reads
    · cases complete.socketOpen.symm.trans closed
  · refine attached.socketIn.elim (fun member => ?_)
      fun ended => .inr (later.socket ended)
    by_cases atEnd : socketInRule.AtEnd loop.copy
    · rcases atEnd with ⟨_, ended⟩ | closed
      · exact .inr (later.socket ended)
      · cases complete.socketOpen.symm.trans closed
    · exact .inl (stays _ member atEnd)
  · refine attached.output.elim (fun member => ?_)
      fun ended => .inr (later.inboundShutdown ended)
    by_cases atEnd : outputRule.AtEnd loop.copy
    · rcases atEnd with ⟨reads, _⟩ | closed
      · cases reads
      · exact .inr (later.inboundShutdown (complete.outputClosed.mpr closed))
    · exact .inl (stays _ member atEnd)

theorem Loop.step_running
    (running : loop.phase = .running) :
    let outcome := EventLoop.waitNextEvent poll loop.rules loop.copy
    (loop.step poll).rules = (finalState outcome).1 ∧
      (loop.step poll).copy = (finalState outcome).2 ∧
      ((loop.step poll).phase = .returned →
        returned outcome = some .exit) ∧
      ∀ thrown,
        (loop.step poll).phase = .failed thrown →
        returned outcome = none := by
  intro outcome
  simp only [Loop.step, running]
  cases same : EventLoop.waitNextEvent poll loop.rules loop.copy with
  | error thrown left =>
      have same : outcome = .error thrown left := same
      rw [same]
      refine ⟨rfl, rfl, fun returns => ?_, fun _ _ => rfl⟩
      cases returns
  | ok result left =>
      have same : outcome = .ok result left := same
      rw [same]
      cases result with
      | exit =>
          refine ⟨rfl, rfl, fun _ => rfl, fun thrown failed => ?_⟩
          cases failed
      | success | timeout =>
          refine ⟨rfl, rfl, fun returns => ?_, fun thrown failed => ?_⟩
          · cases returns
          · cases failed

theorem Loop.step_stopped
    (stopped : loop.phase ≠ .running) :
    loop.step poll = loop := by
  unfold Loop.step
  split
  · rename_i running
    exact absurd running stopped
  · rfl

/-- Both files have been copied to their ends. -/
structure Served (copy : BidirectionalStreamCopy) : Prop where
  input : copy.input.eof = true
  socket : copy.socket.eof = true
  outboundShutdown : copy.outboundShutdown = true
  inboundShutdown : copy.inboundShutdown = true

theorem contents_of_empty
    {stream : ByteStream}
    (valid : stream.Valid)
    (empty : stream.size = 0) :
    stream.contents = [] :=
  List.eq_nil_of_length_eq_zero (valid.sizeExact.trans empty)

/-- There is room in an empty stream. -/
theorem readable_of_empty
    {received sent received' sent' : List Bytes}
    {stream other : ByteStream}
    (copies : Copies received sent stream)
    (others : Copies received' sent' other)
    (empty : stream.size = 0) :
    readable stream other = true := by
  have room : stream.remainingCapacity > 0 := by
    rw [ByteStream.remainingCapacity_of_le copies.valid.withinCapacity,
      copies.capacity, empty]
    decide
  simp [readable, copies.faultless, others.faultless, room]

theorem idle_of_not_writable
    {stream : ByteStream}
    {shutdown : Bool}
    (idle : writable stream shutdown = false) :
    stream.size = 0 ∧ (stream.endFlag = true → shutdown = true) := by
  simp only [writable, Bool.or_eq_false_iff, Bool.not_eq_false',
    ByteStream.bufferEmpty, beq_iff_eq] at idle
  refine ⟨idle.1, fun ended => ?_⟩
  have told := idle.2
  simp only [ByteStream.eof, ended, idle.1] at told
  simpa using told

/-- When no rule is interested, there is nothing left to do. -/
theorem Attached.served
    (attached : Attached loop)
    (complete : Complete loop.copy)
    (idle : ∀ rule ∈ loop.rules, rule.interest loop.copy = false) :
    Served loop.copy := by
  have outbound := complete.outbound
  have inbound := complete.inbound
  obtain ⟨outEmpty, outTold⟩ :=
    idle_of_not_writable (idle socketOutRule attached.socketOut)
  have inputEnded : loop.copy.input.eof = true := by
    refine attached.input.resolve_left fun member => ?_
    have interested :=
      readable_of_empty outbound.toCopies inbound.toCopies outEmpty
    cases (idle inputRule member).symm.trans interested
  have inEmpty :
      loop.copy.inbound.size = 0 ∧
        (loop.copy.inbound.endFlag = true →
          loop.copy.inboundShutdown = true) := by
    rcases attached.output with member | done
    · exact idle_of_not_writable (idle outputRule member)
    · have atEnd := complete.inboundDone done
      simp only [ByteStream.eof, Bool.and_eq_true, beq_iff_eq] at atEnd
      exact ⟨atEnd.2, fun _ => done⟩
  have socketEnded : loop.copy.socket.eof = true := by
    refine attached.socketIn.resolve_left fun member => ?_
    have interested :=
      readable_of_empty inbound.toCopies outbound.toCopies inEmpty.1
    cases (idle socketInRule member).symm.trans interested
  exact ⟨inputEnded, socketEnded,
    outTold (outbound.noticed inputEnded),
    inEmpty.2 (inbound.noticed socketEnded)⟩

/-- No cancellation changes whether an earlier rule is interested. -/
theorem interest_undisturbed :
    rules.Pairwise fun earlier later =>
      ∀ copy,
        earlier.interest (later.cancel copy) = earlier.interest copy := by
  simp only [rules, List.pairwise_cons, List.mem_cons, List.not_mem_nil,
    or_false, forall_eq_or_imp, forall_eq, false_imp_iff, implies_true,
    and_true, List.Pairwise.nil]
  exact ⟨⟨fun _ => rfl, fun _ => rfl, fun _ => rfl⟩,
    ⟨fun _ => rfl, fun _ => rfl⟩, fun _ => rfl⟩

/-- What holds of a loop that nothing disturbs. -/
structure Steady (loop : Loop) : Prop where
  complete : Complete loop.copy
  attached : Attached loop
  served : loop.phase = .returned → Served loop.copy

theorem Steady.step
    (steady : Steady loop)
    (faithful : poll.Reports fun entry => entry.2.Faithful)
    (undisturbed : Undisturbed poll) :
    Steady (loop.step poll) := by
  by_cases running : loop.phase = .running
  · obtain ⟨rules, copy, exits, _⟩ := @Loop.step_running loop poll running
    have attached :=
      steady.attached.waitNextEvent steady.complete undisturbed
        (loop.step poll).phase
    dsimp only at attached
    rw [← rules, ← copy] at attached
    have among := steady.attached.among
    have complete :=
      EventLoop.waitNextEvent_connected faithful
        (fun rule member => keeps_complete (among.subset member))
        (fun rule _ hungUp =>
          absurd hungUp (EventLoop.Poll.not_hangsUp undisturbed.2 _ _ rule))
        (undisturbed_rules.sublist among) steady.complete
    rw [← copy] at complete
    refine ⟨complete, attached, fun returns => ?_⟩
    have idle :=
      EventLoop.waitNextEvent_quiet (interest_undisturbed.sublist among)
        (exits returns) undisturbed.1
    dsimp only at idle
    rw [← rules, ← copy] at idle
    exact attached.served complete idle
  · rw [Loop.step_stopped running]
    exact steady

end Turns

theorem inOrder_step
    {loop : Loop}
    {poll : EventLoop.Poll Kernel}
    (held : InOrder loop.copy ∧ loop.rules.Sublist rules)
    (faithful : poll.Reports fun entry => entry.2.Faithful) :
    InOrder (loop.step poll).copy ∧
      (loop.step poll).rules.Sublist rules := by
  by_cases running : loop.phase = .running
  · obtain ⟨left, copy, _⟩ := @Loop.step_running loop poll running
    rw [left, copy]
    exact ⟨EventLoop.waitNextEvent_keeps faithful
        (fun rule member => keeps_inOrder (held.2.subset member))
        (undisturbed_rules.sublist held.2) held.1,
      (EventLoop.waitNextEvent_sublist poll _ _).trans held.2⟩
  · rw [Loop.step_stopped running]
    exact held

/-- A stream at its end has brought everything before the end of its file. -/
theorem CopiesAll.sent_of_eof
    {received sent : List Bytes}
    {stream : ByteStream}
    {eof : Bool}
    (copies : CopiesAll received sent stream eof)
    (atEnd : stream.eof = true) :
    [] ∈ received ∧ sent.flatten = beforeEnd received := by
  have all := copies.all
  have empty := atEnd
  simp only [ByteStream.eof, Bool.and_eq_true, beq_iff_eq] at empty
  rw [contents_of_empty copies.valid empty.2, List.append_nil] at all
  exact ⟨copies.ended (endFlag_of_eof atEnd), all⟩

/--
Whatever the kernel reports and however it cuts up reads and writes, what goes
out and is held in each direction is what came in there, in order and without
gaps.  While no descriptor hangs up and no signal comes, it is everything before
the end of the file; the socket is only shut down for writing, and the output
only closed, once all of it has gone out there; and when the function returns,
both files have been copied to their ends, the socket has been shut down and the
output closed.
-/
theorem copied_in_order
    {polls : List (EventLoop.Poll Kernel)}
    (faithful :
      ∀ poll ∈ polls, poll.Reports fun entry => entry.2.Faithful) :
    let loop := Execution.run Loop.step {} polls
    let copy := loop.copy
    (copy.socket.sent.flatten ++ copy.outbound.contents <+:
        beforeEnd copy.input.received ∧
      copy.output.sent.flatten ++ copy.inbound.contents <+:
        beforeEnd copy.socket.received) ∧
    ((∀ poll ∈ polls, Undisturbed poll) →
      copy.socket.sent.flatten ++ copy.outbound.contents =
          beforeEnd copy.input.received ∧
        copy.output.sent.flatten ++ copy.inbound.contents =
          beforeEnd copy.socket.received ∧
        (.wr ∈ copy.socket.shutdowns →
          [] ∈ copy.input.received ∧
            copy.socket.sent.flatten = beforeEnd copy.input.received) ∧
        (copy.output.closed = true →
          [] ∈ copy.socket.received ∧
            copy.output.sent.flatten =
              beforeEnd copy.socket.received) ∧
        (loop.phase = .returned →
          copy.input.eof = true ∧
            copy.socket.eof = true ∧
            .wr ∈ copy.socket.shutdowns ∧
            copy.output.closed = true ∧
            copy.outboundShutdown = true ∧
            copy.inboundShutdown = true ∧
            copy.socket.sent.flatten = beforeEnd copy.input.received ∧
            copy.output.sent.flatten =
              beforeEnd copy.socket.received)) := by
  intro loop copy
  have guarded :=
    @Execution.EveryStep.of_forall_mem _ _ Loop.step _ _ faithful {}
  refine ⟨?_, fun undisturbed => ?_⟩
  · have held : InOrder loop.copy ∧ loop.rules.Sublist rules :=
      Execution.EveryStep.invariant
        (fun loop => InOrder loop.copy ∧ loop.rules.Sublist rules)
        (fun _ _ held faithful => inOrder_step held faithful)
        ⟨⟨copies_new.toCopies, copies_new.toCopies⟩, .refl _⟩ guarded
    exact ⟨held.1.outbound.ordered, held.1.inbound.ordered⟩
  · have quietly :=
      @Execution.EveryStep.of_forall_mem _ _ Loop.step _ _ undisturbed {}
    have steady : Steady loop :=
      Execution.EveryStep.invariant Steady
        (fun _ _ steady guards => steady.step guards.1 guards.2)
        ⟨complete_start,
          ⟨.refl _, .inl (by simp [rules]), by simp [rules],
            .inl (by simp [rules]), .inl (by simp [rules])⟩,
          fun returns => by cases returns⟩
        (guarded.and quietly)
    have complete := steady.complete
    have told (recorded : .wr ∈ copy.socket.shutdowns) :=
      complete.outbound.sent_of_eof
        (complete.outboundDone (complete.socketTold.mpr recorded))
    have closed (done : copy.output.closed = true) :=
      complete.inbound.sent_of_eof
        (complete.inboundDone (complete.outputClosed.mpr done))
    refine ⟨complete.outbound.all, complete.inbound.all, told, closed,
      fun returns => ?_⟩
    obtain ⟨input, socket, out, inn⟩ := steady.served returns
    have recorded := complete.socketTold.mp out
    have done := complete.outputClosed.mp inn
    exact ⟨input, socket, recorded, done, out, inn, (told recorded).2,
      (closed done).2⟩

/-- Everything is ready, some bytes can be read and all that is written is taken. -/
def offer (data : Bytes) : EventLoop.Poll Kernel :=
  .events fun _ =>
    ({ pollin := true, pollout := true },
      { read := fun asked => .ok (data.take asked)
        write := fun count => .ok count
        shutdown := .ok ()
        close := .ok () })

theorem faithful_offer
    (data : Bytes) :
    (offer data).Reports fun entry => entry.2.Faithful := by
  intro _ asked read same
  cases same
  exact List.length_take_le asked data

theorem undisturbed_offer
    (data : Bytes) :
    Undisturbed (offer data) :=
  ⟨by simp [offer], fun _ => rfl⟩

/-- Two bytes each way, then the ends of both files. -/
theorem copied_in_order_bothWays :
    let loop :=
      Execution.run Loop.step {}
        [offer [104, 105], offer [], .timeout]
    (loop.phase = .returned ∧
      loop.copy.input.received = [[104, 105], []]) ∧
    loop.copy.input.eof = true ∧
      loop.copy.socket.eof = true ∧
      .wr ∈ loop.copy.socket.shutdowns ∧
      loop.copy.output.closed = true ∧
      loop.copy.outboundShutdown = true ∧
      loop.copy.inboundShutdown = true ∧
      loop.copy.socket.sent.flatten =
        beforeEnd loop.copy.input.received ∧
      loop.copy.output.sent.flatten =
        beforeEnd loop.copy.socket.received := by
  intro loop
  have ran :
      loop.phase = .returned ∧
        loop.copy.input.received = [[104, 105], []] := by
    decide +kernel
  have faithful :
      ∀ poll ∈ [offer [104, 105], offer [], .timeout],
        poll.Reports fun entry => entry.2.Faithful := by
    intro poll member
    simp only [List.mem_cons, List.not_mem_nil, or_false] at member
    rcases member with rfl | rfl | rfl
    · exact faithful_offer _
    · exact faithful_offer _
    · trivial
  have undisturbed :
      ∀ poll ∈ [offer [104, 105], offer [], .timeout],
        Undisturbed poll := by
    intro poll member
    simp only [List.mem_cons, List.not_mem_nil, or_false] at member
    rcases member with rfl | rfl | rfl
    · exact undisturbed_offer _
    · exact undisturbed_offer _
    · exact ⟨by simp, trivial⟩
  exact ⟨ran, ((copied_in_order faithful).2 undisturbed).2.2.2.2 ran.1⟩

end BidirectionalStreamCopy

end Sponge
