import Sponge.BufferViewList

namespace Sponge

/-!
# File descriptors

The kernel decides how much a read returns and how much of a buffer a write
takes, so a method that makes system calls is given their answers.  What the
calls have moved is kept with the descriptor; no method looks at it.
-/

/-- What a system call returns, or the error its wrapper throws. -/
abbrev SystemCall (α : Type) := Except StdException α

/-- What all duplicates of a descriptor share. -/
structure FDWrapper where
  eof : Bool := false
  closed : Bool := false
  readCount : UInt32 := 0
  writeCount : UInt32 := 0
  deriving DecidableEq

/-- Which directions of a socket to shut down. -/
inductive FileDescriptor.How where
  | rd
  | wr
  | rdwr
  deriving DecidableEq

/--
A descriptor, with what came in and went out at each system call and how it was
shut down.
-/
structure FileDescriptor (Message : Type) extends FDWrapper where
  received : List Message := []
  sent : List Message := []
  shutdowns : List FileDescriptor.How := []

namespace FileDescriptor

variable {Message : Type}

/-- Count a read. -/
def registerRead
    (fd : FileDescriptor Message) : FileDescriptor Message :=
  { fd with readCount := fd.readCount + 1 }

/-- Count a write. -/
def registerWrite
    (fd : FileDescriptor Message) : FileDescriptor Message :=
  { fd with writeCount := fd.writeCount + 1 }

/-- Shut down a socket, which counts as a read, a write or both. -/
def shutdown
    (how : How)
    (answer : SystemCall Unit)
    (fd : FileDescriptor Message) :
    EStateM.Result StdException (FileDescriptor Message) Unit :=
  match answer with
  | .error thrown => .error thrown fd
  | .ok _ =>
      let fd := { fd with shutdowns := fd.shutdowns ++ [how] }
      match how with
      | .rd => .ok () fd.registerRead
      | .wr => .ok () fd.registerWrite
      | .rdwr => .ok () fd.registerRead.registerWrite

/-- Close a descriptor, which is then also at its end. -/
def close
    (answer : SystemCall Unit)
    (fd : FileDescriptor Message) :
    EStateM.Result StdException (FileDescriptor Message) Unit :=
  match answer with
  | .error thrown => .error thrown fd
  | .ok _ => .ok () { fd with eof := true, closed := true }

/-- The maximum size of a read. -/
def bufferSize : Nat := 1024 * 1024

/-- Read up to `limit` bytes. -/
def read
    (limit : Nat)
    (answer : SystemCall Bytes)
    (fd : FileDescriptor Bytes) :
    EStateM.Result StdException (FileDescriptor Bytes) Bytes :=
  let sizeToRead := min bufferSize limit
  match answer with
  | .error thrown => .error thrown fd
  | .ok str =>
      let fd := { fd with received := fd.received ++ [str] }
      let fd :=
        if limit > 0 ∧ str.length = 0 then
          { fd with eof := true }
        else
          fd
      if str.length > sizeToRead then
        .error (.runtimeError "read() read more than requested") fd
      else
        .ok str fd.registerRead

end FileDescriptor

/-- The view of a whole string. -/
def BufferViewList.ofString (str : Bytes) : BufferViewList :=
  [StringView.rest str 0 (Nat.zero_le _)]

namespace FileDescriptor

/-- The variables of the loop of `write`, and the number of rounds so far. -/
structure Writing where
  buffer : BufferViewList
  round : Nat := 0
  totalBytesWritten : Nat := 0
  fd : FileDescriptor Bytes

/-- One round of the loop of `write`. -/
def writeRound
    (writeAll : Bool)
    (answers : Nat → SystemCall Nat)
    (writing : Writing) :
    Writing ⊕ EStateM.Result StdException (FileDescriptor Bytes) Nat :=
  let buffer := writing.buffer
  match answers writing.round with
  | .error thrown => .inr (.error thrown writing.fd)
  | .ok bytesWritten =>
      if bytesWritten = 0 ∧ buffer.size ≠ 0 then
        .inr (.error
          (.runtimeError "write returned 0 given non-empty input buffer")
          writing.fd)
      else if bytesWritten > buffer.size then
        .inr (.error
          (.runtimeError "write wrote more than length of input buffer")
          writing.fd)
      else
        let fd := { writing.fd.registerWrite with
          sent := writing.fd.sent ++ [buffer.content.take bytesWritten] }
        match buffer.removePrefix bytesWritten with
        | .error thrown _ => .inr (.error thrown fd)
        | .ok _ buffer =>
            let totalBytesWritten :=
              writing.totalBytesWritten + bytesWritten
            if writeAll ∧ buffer.size ≠ 0 then
              .inl {
                buffer
                round := writing.round + 1
                totalBytesWritten
                fd
              }
            else
              .inr (.ok totalBytesWritten fd)

/-- The loop of `write`. -/
def writeLoop
    (writeAll : Bool)
    (answers : Nat → SystemCall Nat)
    (fuel : Nat)
    (writing : Writing) :
    EStateM.Result StdException (FileDescriptor Bytes) Nat :=
  Execution.iterate (writeRound writeAll answers)
    (fun writing => .ok writing.totalBytesWritten writing.fd) fuel writing

/-- Write a buffer, going on until all is written if asked to. -/
def write
    (buffer : BufferViewList)
    (writeAll : Bool)
    (answers : Nat → SystemCall Nat)
    (fd : FileDescriptor Bytes) :
    EStateM.Result StdException (FileDescriptor Bytes) Nat :=
  writeLoop writeAll answers (buffer.size + 1) { buffer, fd }

end FileDescriptor

namespace BufferViewList

theorem size_eq_length
    (views : BufferViewList) :
    views.size = views.content.length :=
  (chunked.length_content views).symm

@[simp] theorem content_ofString
    (str : Bytes) :
    (ofString str).content = str := by
  simp [ofString, content, StringView.rest, StringView.bytes]

/-- Removing no more than there is drops exactly those bytes. -/
theorem removePrefix_of_le
    {n : Nat}
    {views : BufferViewList}
    (enough : n ≤ views.size) :
    ∃ remaining,
      views.removePrefix n = .ok () remaining ∧
        remaining.content = views.content.drop n :=
  Chunked.remove_of_le enough

end BufferViewList

namespace FileDescriptor

section Write

variable {writeAll : Bool} {answers : Nat → SystemCall Nat}
variable {writing next : Writing}
variable {result : EStateM.Result StdException (FileDescriptor Bytes) Nat}

/-- The descriptor after the kernel took a chunk. -/
def took
    (fd : FileDescriptor Bytes)
    (chunk : Bytes) : FileDescriptor Bytes :=
  { fd.registerWrite with sent := fd.sent ++ [chunk] }

/-- A round throws before anything is taken, or the kernel takes a chunk. -/
theorem writeRound_cases
    (writeAll : Bool)
    (answers : Nat → SystemCall Nat)
    (writing : Writing) :
    (∃ thrown,
      writeRound writeAll answers writing =
        .inr (.error thrown writing.fd)) ∨
      ∃ count buffer,
        answers writing.round = .ok count ∧
          count ≤ writing.buffer.size ∧
          (count = 0 → writing.buffer.size = 0) ∧
          buffer.content = writing.buffer.content.drop count ∧
          writeRound writeAll answers writing =
            if writeAll ∧ buffer.size ≠ 0 then
              .inl {
                buffer
                round := writing.round + 1
                totalBytesWritten := writing.totalBytesWritten + count
                fd := writing.fd.took (writing.buffer.content.take count)
              }
            else
              .inr (.ok (writing.totalBytesWritten + count)
                (writing.fd.took
                  (writing.buffer.content.take count))) := by
  unfold writeRound
  cases answer : answers writing.round with
  | error thrown =>
      exact .inl ⟨thrown, rfl⟩
  | ok count =>
      dsimp only
      by_cases stuck : count = 0 ∧ writing.buffer.size ≠ 0
      · rw [if_pos stuck]
        exact .inl ⟨_, rfl⟩
      by_cases excessive : count > writing.buffer.size
      · rw [if_neg stuck, if_pos excessive]
        exact .inl ⟨_, rfl⟩
      have enough : count ≤ writing.buffer.size := by omega
      obtain ⟨buffer, removed, dropped⟩ :=
        BufferViewList.removePrefix_of_le enough
      refine .inr ⟨count, buffer, rfl, enough, by omega, dropped, ?_⟩
      rw [if_neg stuck, if_neg excessive, removed]
      rfl

/-- A round that is followed by another one has written something. -/
theorem writeRound_shortens
    (goesOn : writeRound writeAll answers writing = .inl next) :
    next.buffer.size < writing.buffer.size := by
  rcases writeRound_cases writeAll answers writing with
    ⟨thrown, threw⟩ | ⟨count, buffer, _, enough, positive, dropped, round⟩
  · rw [threw] at goesOn
    cases goesOn
  · rw [round] at goesOn
    split at goesOn
    · rename_i more
      cases goesOn
      have shorter := congrArg List.length dropped
      rw [List.length_drop, ← BufferViewList.size_eq_length,
        ← BufferViewList.size_eq_length] at shorter
      change buffer.size < _
      omega
    · cases goesOn

/-- With more rounds than there are bytes the loop leaves by its own test. -/
theorem exits_writeLoop
    (writeAll : Bool)
    (answers : Nat → SystemCall Nat)
    {fuel : Nat}
    (enough : writing.buffer.size < fuel) :
    Execution.Exits (writeRound writeAll answers) writing
      (writeLoop writeAll answers fuel writing) :=
  Execution.exits_iterate (fun _ => True)
    (fun writing => writing.buffer.size)
    (fun _ _ _ goesOn => ⟨trivial, writeRound_shortens goesOn⟩)
    trivial enough

/--
The kernel refuses, or says that it took nothing of a rest that is not empty, or
more than there is.
-/
def Refuses
    (left : Nat) :
    SystemCall Nat → Prop
  | .error _ => True
  | .ok count => (count = 0 ∧ left ≠ 0) ∨ left < count

/--
What a loop that writes everything has done when it stops: the kernel took a
part of the buffer from its front, in chunks, and all of it unless it refused.
-/
structure Wrote
    (answers : Nat → SystemCall Nat)
    (writing : Writing)
    (result : EStateM.Result StdException (FileDescriptor Bytes) Nat)
    (chunks : List Bytes) : Prop where
  sent : (finalState result).sent = writing.fd.sent ++ chunks
  inOrder : chunks.flatten <+: writing.buffer.content
  whole :
    ∀ total,
      returned result = some total →
      total = writing.totalBytesWritten + writing.buffer.size ∧
        chunks.flatten = writing.buffer.content
  refused :
    returned result = none →
    Refuses (writing.buffer.size - chunks.flatten.length)
      (answers (writing.round + chunks.length))

theorem wrote_of_refused
    {thrown : StdException}
    (threw :
      writeRound true answers writing =
        .inr (.error thrown writing.fd)) :
    Wrote answers writing (.error thrown writing.fd) [] where
  sent := (List.append_nil _).symm
  inOrder := List.nil_prefix
  whole := nofun
  refused := by
    intro _
    change Refuses (writing.buffer.size - 0) (answers writing.round)
    cases answer : answers writing.round with
    | error thrown =>
        trivial
    | ok count =>
        by_contra taken
        rw [Refuses, Nat.sub_zero, not_or, Nat.not_lt] at taken
        obtain ⟨buffer, removed, _⟩ :=
          BufferViewList.removePrefix_of_le taken.2
        simp only [writeRound, answer, if_neg taken.1, removed,
          if_false, gt_iff_lt, Nat.not_lt.mpr taken.2] at threw
        split at threw <;> cases threw

theorem wrote_of_done
    (done : writing.buffer.size = 0) :
    Wrote answers writing
      (.ok writing.totalBytesWritten writing.fd) [] where
  sent := (List.append_nil _).symm
  inOrder := List.nil_prefix
  whole := by
    rintro total ⟨⟩
    rw [BufferViewList.size_eq_length] at done
    rw [BufferViewList.size_eq_length, done]
    exact ⟨rfl, (List.eq_nil_of_length_eq_zero done).symm⟩
  refused := nofun

/-- A chunk in front of what the rest of the loop writes. -/
theorem Wrote.cons
    {count : Nat}
    (enough : count ≤ writing.buffer.size)
    (rest : next.buffer.content = writing.buffer.content.drop count)
    (round : next.round = writing.round + 1)
    (total :
      next.totalBytesWritten = writing.totalBytesWritten + count)
    (taken : next.fd = writing.fd.took (writing.buffer.content.take count))
    {chunks : List Bytes}
    (wrote : Wrote answers next result chunks) :
    Wrote answers writing result
      (writing.buffer.content.take count :: chunks) := by
  have split :=
    List.take_append_drop count writing.buffer.content
  have whole := writing.buffer.size_eq_length
  have left := next.buffer.size_eq_length
  have shorter := congrArg List.length rest
  rw [List.length_drop] at shorter
  refine ⟨?_, ?_, ?_, ?_⟩
  · rw [wrote.sent, taken]
    exact List.append_assoc _ [_] chunks
  · have inOrder := wrote.inOrder
    rw [rest] at inOrder
    rw [List.flatten_cons]
    conv_rhs => rw [← split]
    exact (List.prefix_append_right_inj _).mpr inOrder
  · intro sum returns
    obtain ⟨sumEq, all⟩ := wrote.whole sum returns
    refine ⟨by omega, ?_⟩
    rw [List.flatten_cons, all, rest, split]
  · intro threw
    have refused := wrote.refused threw
    have sameRound :
        writing.round + (chunks.length + 1) =
          next.round + chunks.length := by
      omega
    have sameLeft :
        writing.buffer.size -
            (min count writing.buffer.content.length +
              chunks.flatten.length) =
          next.buffer.size - chunks.flatten.length := by
      omega
    rw [List.length_cons, List.flatten_cons, List.length_append,
      List.length_take, sameRound, sameLeft]
    exact refused

theorem wrote_of_exits
    (exits :
      Execution.Exits (writeRound true answers) writing result) :
    ∃ chunks, Wrote answers writing result chunks := by
  induction exits with
  | @leave writing result left =>
      rcases writeRound_cases true answers writing with
        ⟨thrown, threw⟩ |
        ⟨count, buffer, answer, enough, _, dropped, round⟩
      · rw [threw] at left
        cases left
        exact ⟨[], wrote_of_refused threw⟩
      · rw [round] at left
        split at left
        · cases left
        · rename_i done
          cases left
          have all : buffer.size = 0 := by
            simpa using done
          exact ⟨_, @Wrote.cons _ _
            { buffer
              round := writing.round + 1
              totalBytesWritten := writing.totalBytesWritten + count
              fd :=
                writing.fd.took (writing.buffer.content.take count) }
            _ _ enough dropped rfl rfl rfl [] (wrote_of_done all)⟩
  | @again writing next result goesOn _ inductionHypothesis =>
      obtain ⟨chunks, wrote⟩ := inductionHypothesis
      rcases writeRound_cases true answers writing with
        ⟨thrown, threw⟩ |
        ⟨count, buffer, answer, enough, _, dropped, round⟩
      · rw [threw] at goesOn
        cases goesOn
      · rw [round] at goesOn
        split at goesOn
        · cases goesOn
          exact ⟨_, wrote.cons enough dropped rfl rfl rfl⟩
        · cases goesOn

end Write

/--
However the kernel cuts up the writes, a call that writes everything stops, and
what the kernel took is the buffer from its front, each byte once and in order.
It is the whole buffer if the call returns; the call throws only when the kernel
refuses, takes nothing of a rest that is not empty, or claims more than was left.
-/
theorem write_all_exactly_once
    (buffer : BufferViewList)
    (answers : Nat → SystemCall Nat)
    (fd : FileDescriptor Bytes) :
    let result := fd.write buffer true answers
    Execution.Exits (writeRound true answers) { buffer, fd } result ∧
      ∃ chunks,
        (finalState result).sent = fd.sent ++ chunks ∧
          chunks.flatten <+: buffer.content ∧
          (∀ total,
            returned result = some total →
            total = buffer.size ∧ chunks.flatten = buffer.content) ∧
          (returned result = none →
            Refuses (buffer.size - chunks.flatten.length)
              (answers chunks.length)) := by
  intro result
  have exits :
      Execution.Exits (writeRound true answers) { buffer, fd } result :=
    exits_writeLoop true answers (Nat.lt_succ_self _)
  obtain ⟨chunks, wrote⟩ := wrote_of_exits exits
  refine ⟨exits, chunks, wrote.sent, wrote.inOrder, ?_, ?_⟩
  · intro total returns
    obtain ⟨sum, whole⟩ := wrote.whole total returns
    exact ⟨sum.trans (Nat.zero_add _), whole⟩
  · intro threw
    have refused := wrote.refused threw
    rwa [Nat.zero_add] at refused

/-- Three bytes that the kernel takes in two pieces. -/
example :
    (finalState
      (({} : FileDescriptor Bytes).write (.ofString [97, 98, 99]) true
        fun round => .ok (2 - round))).sent = [[97, 98], [99]] := by
  decide

/-- A read that returns no more than it asked for. -/
theorem read_of_le
    {limit : Nat}
    {str : Bytes}
    (fits : str.length ≤ min bufferSize limit)
    (fd : FileDescriptor Bytes) :
    ∃ next,
      fd.read limit (.ok str) = .ok str next ∧
        next.received = fd.received ++ [str] ∧
        next.sent = fd.sent ∧
        next.closed = fd.closed ∧
        next.readCount = fd.readCount + 1 ∧
        next.eof = (fd.eof || (decide (limit > 0) && str.isEmpty)) := by
  simp only [read, gt_iff_lt, Nat.not_lt.mpr fits, if_false]
  refine ⟨_, rfl, ?_⟩
  cases str with
  | nil =>
      by_cases room : 0 < limit
      · simp [registerRead, room]
      · simp [registerRead, room]
  | cons byte rest =>
      simp [registerRead]

/-- A single write throws, or the kernel takes the front of the buffer. -/
theorem write_once
    (buffer : BufferViewList)
    (answer : SystemCall Nat)
    (fd : FileDescriptor Bytes) :
    (∃ thrown,
      fd.write buffer false (fun _ => answer) = .error thrown fd) ∨
      ∃ count,
        answer = .ok count ∧
          count ≤ buffer.size ∧
          fd.write buffer false (fun _ => answer) =
            .ok count (fd.took (buffer.content.take count)) := by
  unfold write writeLoop Execution.iterate
  rcases writeRound_cases false (fun _ => answer) { buffer, fd } with
    ⟨thrown, threw⟩ | ⟨count, left, answered, enough, _, _, round⟩
  · rw [threw]
    exact .inl ⟨thrown, rfl⟩
  · rw [round]
    simp only [Bool.false_eq_true, false_and, if_false, Nat.zero_add]
    exact .inr ⟨count, answered, enough, rfl⟩

/-- What a write takes of a buffer it does not refuse. -/
theorem write_accepted
    {buffer : BufferViewList}
    {count : Nat}
    (enough : count ≤ buffer.size)
    (positive : count = 0 → buffer.size = 0)
    (fd : FileDescriptor Bytes) :
    fd.write buffer false (fun _ => .ok count) =
      .ok count (fd.took (buffer.content.take count)) := by
  obtain ⟨left, removed, _⟩ := BufferViewList.removePrefix_of_le enough
  have moves : ¬(count = 0 ∧ buffer.size ≠ 0) :=
    fun stuck => stuck.2 (positive stuck.1)
  simp [write, writeLoop, Execution.iterate, writeRound, if_neg moves,
    Nat.not_lt.mpr enough, removed, took]

/-- A kernel that takes the whole buffer takes it as one message. -/
theorem write_whole
    (buffer : BufferViewList)
    (accepted : SystemCall Unit)
    (fd : FileDescriptor Bytes) :
    fd.write buffer true (fun _ => accepted.map fun _ => buffer.size) =
      match accepted with
      | .error thrown => .error thrown fd
      | .ok _ => .ok buffer.size (fd.took buffer.content) := by
  unfold write writeLoop Execution.iterate
  cases accepted with
  | error thrown =>
      rfl
  | ok _ =>
      obtain ⟨left, removed, dropped⟩ :=
        @BufferViewList.removePrefix_of_le buffer.size buffer
          (Nat.le_refl _)
      have nothing : left.size = 0 := by
        rw [BufferViewList.size_eq_length, dropped, List.length_drop,
          BufferViewList.size_eq_length, Nat.sub_self]
      have all : buffer.content.take buffer.size = buffer.content :=
        List.take_of_length_le
          (Nat.le_of_eq buffer.size_eq_length.symm)
      simp [writeRound, Except.map, removed, nothing, all, took]

/-! ## What a call leaves -/

/-- A shutdown moves no bytes. -/
theorem shutdown_frame
    (fd : FileDescriptor Message)
    (how : How)
    (answer : SystemCall Unit) :
    let after := finalState (fd.shutdown how answer)
    after.sent = fd.sent ∧
      after.received = fd.received ∧
      after.eof = fd.eof ∧ after.closed = fd.closed := by
  cases answer with
  | error thrown => exact ⟨rfl, rfl, rfl, rfl⟩
  | ok _ => cases how <;> exact ⟨rfl, rfl, rfl, rfl⟩

/-- A shutdown that succeeds is recorded, and one that fails changes nothing. -/
theorem shutdown_cases
    (fd : FileDescriptor Message)
    (how : How)
    (answer : SystemCall Unit) :
    (∃ thrown, fd.shutdown how answer = .error thrown fd) ∨
      ∃ after,
        fd.shutdown how answer = .ok () after ∧
          after.shutdowns = fd.shutdowns ++ [how] := by
  cases answer with
  | error thrown => exact .inl ⟨thrown, rfl⟩
  | ok _ => cases how <;> exact .inr ⟨_, rfl, rfl⟩

/-- Likewise for closing. -/
theorem close_cases
    (fd : FileDescriptor Message)
    (answer : SystemCall Unit) :
    (∃ thrown, fd.close answer = .error thrown fd) ∨
      ∃ after, fd.close answer = .ok () after ∧ after.closed = true := by
  cases answer with
  | error thrown => exact .inl ⟨thrown, rfl⟩
  | ok _ => exact .inr ⟨_, rfl, rfl⟩

theorem close_sent
    (fd : FileDescriptor Message)
    (answer : SystemCall Unit) :
    (finalState (fd.close answer)).sent = fd.sent := by
  cases answer <;> rfl

/-- A read leaves what goes out alone, and no end of a file is undone. -/
theorem read_frame
    (fd : FileDescriptor Bytes)
    (limit : Nat)
    (answer : SystemCall Bytes) :
    let after := finalState (fd.read limit answer)
    after.sent = fd.sent ∧
      after.shutdowns = fd.shutdowns ∧
      after.closed = fd.closed ∧
      (fd.eof = true → after.eof = true) := by
  unfold read
  cases answer with
  | error thrown =>
      exact ⟨rfl, rfl, rfl, id⟩
  | ok str =>
      dsimp only
      split <;> split <;>
      first
        | exact ⟨rfl, rfl, rfl, id⟩
        | exact ⟨rfl, rfl, rfl, fun _ => rfl⟩

/-- A descriptor is only at its end after a read that returned nothing. -/
theorem read_ends
    {fd : FileDescriptor Bytes}
    (ended : fd.eof = true → [] ∈ fd.received)
    (limit : Nat)
    (answer : SystemCall Bytes) :
    let after := finalState (fd.read limit answer)
    after.eof = true → [] ∈ after.received := by
  unfold read
  cases answer with
  | error thrown =>
      exact ended
  | ok str =>
      have came (nothing : str.length = 0) : [] ∈ fd.received ++ [str] := by
        rw [List.eq_nil_of_length_eq_zero nothing]
        exact List.mem_append_right _ (.head _)
      have earlier (atEnd : fd.eof = true) : [] ∈ fd.received ++ [str] :=
        List.mem_append_left _ (ended atEnd)
      dsimp only
      by_cases nothing : limit > 0 ∧ str.length = 0
      · rw [if_pos nothing]
        split <;> exact fun _ => came nothing.2
      · rw [if_neg nothing]
        split <;> exact earlier

end FileDescriptor

end Sponge
