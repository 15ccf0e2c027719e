import Sponge.BidirectionalStreamCopyRun

namespace Sponge

/-!
# Copying does not fail

While the system calls succeed, no exception leaves the copying loop: every
callback returns and has read or written its descriptor, so that the event loop
never takes a rule for one that waits busily.
-/

namespace BidirectionalStreamCopy

/-- The calls succeed, and a write of some bytes takes some of them. -/
structure Kernel.Healthy (kernel : Kernel) : Prop where
  reads :
    ∀ asked,
      ∃ data, kernel.read asked = .ok data ∧ data.length ≤ asked
  writes :
    ∀ size,
      ∃ count,
        kernel.write size = .ok count ∧
          count ≤ size ∧ (count = 0 → size = 0)
  shutdown : kernel.shutdown = .ok ()
  close : kernel.close = .ok ()

theorem Kernel.Healthy.faithful
    {kernel : Kernel}
    (healthy : kernel.Healthy) :
    kernel.Faithful := by
  intro asked data read
  obtain ⟨answer, same, bounded⟩ := healthy.reads asked
  cases same.symm.trans read
  exact bounded

section Callbacks

variable {kernel : Kernel} {fd : FileDescriptor Bytes}
variable {stream : ByteStream}

theorem readInto_returns
    (healthy : kernel.Healthy)
    (fd : FileDescriptor Bytes)
    (stream : ByteStream) :
    returned (readInto kernel fd stream) = some () ∧
      (finalState (readInto kernel fd stream)).1.readCount =
        fd.readCount + 1 := by
  obtain ⟨data, answer, fits⟩ :=
    healthy.reads
      (min FileDescriptor.bufferSize stream.remainingCapacity)
  obtain ⟨next, read, _, _, _, counted, _⟩ := fd.read_of_le fits
  simp only [readInto, answer, read]
  split
  · exact ⟨rfl, counted⟩
  · exact ⟨rfl, counted⟩

theorem writeFrom_returns
    (healthy : kernel.Healthy)
    (valid : stream.Valid)
    (fd : FileDescriptor Bytes) :
    returned (writeFrom kernel stream fd) = some () ∧
      (finalState (writeFrom kernel stream fd)).1.writeCount =
        fd.writeCount + 1 := by
  let buffer := stream.peekOutput (min maxCopyLength stream.bufferSize)
  obtain ⟨count, answer, enough, positive⟩ :=
    healthy.writes buffer.length
  have size : (BufferViewList.ofString buffer).size = buffer.length := by
    rw [BufferViewList.size_eq_length, BufferViewList.content_ofString]
  have wrote :=
    FileDescriptor.write_accepted (size ▸ enough)
      (fun none => size.trans (positive none)) fd
  have available : count ≤ stream.size := by
    have within : buffer.length ≤ min maxCopyLength stream.bufferSize :=
      List.length_take_le _ _
    exact enough.trans (within.trans (Nat.min_le_right _ _))
  obtain ⟨buffers, pop, _⟩ := valid.popOutput_ok available
  have answered :
      kernel.write
          (stream.peekOutput
            (min maxCopyLength stream.bufferSize)).length = .ok count :=
    answer
  simp only [writeFrom, answered]
  rw [wrote]
  simp only [pop, ofPart]
  exact ⟨rfl, rfl⟩

/-- The descriptor is written, once or, with what finishes it, twice. -/
theorem writeOut_returns
    {finish :
      FileDescriptor Bytes →
      EStateM.Result StdException (FileDescriptor Bytes) Unit}
    (finishes :
      ∀ fd,
        returned (finish fd) = some () ∧
          ((finalState (finish fd)).writeCount = fd.writeCount ∨
            (finalState (finish fd)).writeCount = fd.writeCount + 1))
    (healthy : kernel.Healthy)
    (valid : stream.Valid)
    (fd : FileDescriptor Bytes)
    (shutdown : Bool) :
    returned (writeOut kernel finish stream fd shutdown) = some () ∧
      (finalState
        (writeOut kernel finish stream fd shutdown)).1.writeCount ≠
          fd.writeCount := by
  obtain ⟨returns, counted⟩ := writeFrom_returns healthy valid fd
  have wrote := eq_ok_of_returned returns
  obtain ⟨finished, finishedCount⟩ :=
    finishes (finalState (writeFrom kernel stream fd)).1
  have closes := eq_ok_of_returned finished
  rw [counted] at finishedCount
  unfold writeOut
  rw [wrote]
  dsimp only
  split
  · rw [closes]
    refine ⟨rfl, ?_⟩
    change (finalState (finish _)).writeCount ≠ _
    rcases finishedCount with once | twice
    · rw [once]
      simp
    · rw [twice, UInt32.add_assoc]
      simp
  · refine ⟨rfl, ?_⟩
    change (finalState (writeFrom kernel stream fd)).1.writeCount ≠ _
    rw [counted]
    simp

theorem shutdown_returns
    (healthy : kernel.Healthy)
    (fd : FileDescriptor Bytes) :
    returned (fd.shutdown .wr kernel.shutdown) = some () ∧
      ((finalState (fd.shutdown .wr kernel.shutdown)).writeCount =
          fd.writeCount ∨
        (finalState (fd.shutdown .wr kernel.shutdown)).writeCount =
          fd.writeCount + 1) := by
  rw [healthy.shutdown]
  exact ⟨rfl, .inr rfl⟩

theorem close_returns
    (healthy : kernel.Healthy)
    (fd : FileDescriptor Bytes) :
    returned (fd.close kernel.close) = some () ∧
      ((finalState (fd.close kernel.close)).writeCount =
          fd.writeCount ∨
        (finalState (fd.close kernel.close)).writeCount =
          fd.writeCount + 1) := by
  rw [healthy.close]
  exact ⟨rfl, .inl rfl⟩

end Callbacks

/-- A rule whose callback returns and has served its descriptor. -/
theorem attentive_of_served
    {rule : Rule}
    (member : rule ∈ rules)
    (serves :
      ∀ kernel copy,
        InOrder copy →
        kernel.Healthy →
        returned (rule.callback kernel copy) = some () ∧
          rule.serviceCount copy ≠
            rule.serviceCount
              (finalState (rule.callback kernel copy))) :
    rule.Attentive InOrder Ready Kernel.Healthy := by
  have keeps := keeps_inOrder member
  refine ⟨⟨keeps.asked, keeps.cancelled, ?_⟩, ?_, ?_⟩
  · intro kernel copy held ready healthy
    exact keeps.called kernel copy held ready healthy.faithful
  · intro kernel copy held _ healthy
    exact (serves kernel copy held healthy).1
  · intro kernel copy held _ healthy next unserved
    exact absurd unserved (serves kernel copy held healthy).2

theorem attentive_rules
    {rule : Rule}
    (member : rule ∈ rules) :
    rule.Attentive InOrder Ready Kernel.Healthy := by
  refine attentive_of_served member fun kernel copy held healthy => ?_
  rcases mem_rules member with rfl | rfl | rfl | rfl
  · obtain ⟨returns, counted⟩ :=
      readInto_returns healthy copy.input copy.outbound
    change
      returned (readInput kernel copy) = some () ∧
        copy.input.readCount ≠
          (finalState (readInput kernel copy)).input.readCount
    rw [readInput, returned_ofPart, finalState_ofPart, returns, counted]
    exact ⟨rfl, by simp⟩
  · obtain ⟨returns, counted⟩ :=
      writeOut_returns (shutdown_returns healthy) healthy
        held.outbound.valid copy.socket copy.outboundShutdown
    change
      returned (writeSocket kernel copy) = some () ∧
        copy.socket.writeCount ≠
          (finalState (writeSocket kernel copy)).socket.writeCount
    rw [writeSocket, returned_ofPart, finalState_ofPart]
    exact ⟨returns, counted.symm⟩
  · obtain ⟨returns, counted⟩ :=
      readInto_returns healthy copy.socket copy.inbound
    change
      returned (readSocket kernel copy) = some () ∧
        copy.socket.readCount ≠
          (finalState (readSocket kernel copy)).socket.readCount
    rw [readSocket, returned_ofPart, finalState_ofPart, returns, counted]
    exact ⟨rfl, by simp⟩
  · obtain ⟨returns, counted⟩ :=
      writeOut_returns (close_returns healthy) healthy
        held.inbound.valid copy.output copy.inboundShutdown
    change
      returned (writeOutput kernel copy) = some () ∧
        copy.output.writeCount ≠
          (finalState (writeOutput kernel copy)).output.writeCount
    rw [writeOutput, returned_ofPart, finalState_ofPart]
    exact ⟨returns, counted.symm⟩

/-- What holds of a loop whose kernel is healthy. -/
structure Works (loop : Loop) : Prop where
  inOrder : InOrder loop.copy
  among : loop.rules.Sublist rules
  unfailed : ∀ thrown, loop.phase ≠ .failed thrown

theorem Works.step
    {loop : Loop}
    {poll : EventLoop.Poll Kernel}
    (works : Works loop)
    (reported :
      poll.Reports fun entry => entry.1.Faultless ∧ entry.2.Healthy) :
    Works (loop.step poll) := by
  have faithful : poll.Reports fun entry => entry.2.Faithful :=
    reported.imp fun _ entry => entry.2.faithful
  obtain ⟨inOrder, among⟩ :=
    inOrder_step ⟨works.inOrder, works.among⟩ faithful
  refine ⟨inOrder, among, fun thrown failed => ?_⟩
  by_cases running : loop.phase = .running
  · obtain ⟨result, returns⟩ :=
      EventLoop.waitNextEvent_returns reported
        (fun rule member => attentive_rules (works.among.subset member))
        (undisturbed_rules.sublist works.among) works.inOrder
    obtain ⟨_, _, _, fails⟩ := @Loop.step_running loop poll running
    cases returns.symm.trans (fails thrown failed)
  · rw [Loop.step_stopped running] at failed
    exact works.unfailed thrown failed

/--
While the system calls succeed and the kernel reports no error on a descriptor,
the copying loop does not throw, whatever is ready, hangs up or comes in and
however little each call moves.
-/
theorem copying_never_fails
    {polls : List (EventLoop.Poll Kernel)}
    (healthy :
      ∀ poll ∈ polls,
        poll.Reports fun entry =>
          entry.1.Faultless ∧ entry.2.Healthy) :
    ∀ thrown,
      (Execution.run Loop.step {} polls).phase ≠ .failed thrown := by
  have works : Works (Execution.run Loop.step {} polls) :=
    Execution.EveryStep.invariant Works
      (fun _ _ works reported => works.step reported)
      ⟨⟨copies_new.toCopies, copies_new.toCopies⟩, .refl _,
        fun thrown failed => by cases failed⟩
      (@Execution.EveryStep.of_forall_mem _ _ Loop.step _ _ healthy {})
  exact works.unfailed

/-- The socket hangs up while there is something to write to it. -/
def hangUp : EventLoop.Poll Kernel :=
  .events fun idx =>
    ({ pollin := true, pollhup := idx == 1 },
      { read := fun asked => .ok (List.take asked [104, 105])
        write := fun count => .ok count
        shutdown := .ok ()
        close := .ok () })

theorem healthy_of_takes
    (data : Bytes) :
    Kernel.Healthy
      { read := fun asked => .ok (data.take asked)
        write := fun count => .ok count
        shutdown := .ok ()
        close := .ok () } := by
  refine ⟨fun asked => ?_, fun size => ?_, rfl, rfl⟩
  · exact ⟨_, rfl, List.length_take_le asked data⟩
  · exact ⟨size, rfl, Nat.le_refl size, id⟩

theorem copying_never_fails_hangUp :
    (Execution.run Loop.step {}
      [offer [104, 105], hangUp]).rules.length = 3 ∧
    ∀ thrown,
      (Execution.run Loop.step {}
        [offer [104, 105], hangUp]).phase ≠ .failed thrown := by
  refine ⟨by decide +kernel, copying_never_fails fun poll member => ?_⟩
  simp only [List.mem_cons, List.not_mem_nil, or_false] at member
  rcases member with rfl | rfl
  · exact fun _ => ⟨⟨rfl, rfl⟩, healthy_of_takes _⟩
  · exact fun _ => ⟨⟨rfl, rfl⟩, healthy_of_takes _⟩

end BidirectionalStreamCopy

end Sponge
