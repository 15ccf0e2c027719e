import Sponge.StreamReassemblerProgress
import Sponge.TCPReceiverCorrectness

namespace Sponge.TCPReceiver

/-!
# The receiver at the end of the sequence space

The receiver expands sequence numbers with checkpoint zero, so it only ever
sees absolute numbers below `2 ^ 32`.  A run that delivers a long stream in
order, one segment and one read at a time, reaches states where the peer's next
numbers lie beyond that.
-/

/--
The payload is handed over at the stream index of its absolute sequence number
exactly when that number has not passed the end of the sequence space.
-/
theorem payload_index_iff
    (receiver : TCPReceiver)
    (isn : WrappingInt32)
    (known : receiver.isn = some isn)
    (seg : TCPSegment)
    (noSyn : seg.header.syn = false)
    (x : Nat)
    (positive : 1 ≤ x)
    (word : x < 2 ^ 64)
    (numbered : seg.header.seqno = wrap x isn) :
    receiver.pushArguments seg =
        some (seg.payload, x - 1, seg.header.fin) ↔
      x < 2 ^ 32 := by
  have handed :
      receiver.pushArguments seg =
        some (seg.payload, sub64 (x % 2 ^ 32) 1, seg.header.fin) := by
    simp [pushArguments, recordSyn, noSyn, known, strIndex, numbered,
      unwrap_zero_wrap]
  rw [handed, Option.some_inj, Prod.mk.injEq, Prod.mk.injEq]
  constructor
  · rintro ⟨_, sameIndex, _⟩
    by_cases multiple : x % 2 ^ 32 = 0
    · rw [multiple, sub64_of_lt (by omega) (by omega)] at sameIndex
      omega
    · rw [sub64_of_le (by omega)] at sameIndex
      omega
  · intro small
    rw [Nat.mod_eq_of_lt small, sub64_of_le positive]
    exact ⟨rfl, rfl, rfl⟩

/-- The first byte of a stream is handed over at index zero. -/
theorem payload_index_first_byte :
    let receiver : TCPReceiver :=
      { TCPReceiver.new 8 with isn := some ⟨7⟩ }
    let seg : TCPSegment :=
      { header := { seqno := ⟨8⟩ }, payload := [97] }
    receiver.pushArguments seg = some ([97], 0, false) := by
  intro receiver seg
  exact (payload_index_iff receiver ⟨7⟩ rfl seg rfl 1 (by decide)
    (by decide) (by decide)).mpr (by decide)

section InOrder

variable {r : StreamReassembler} {data : Bytes}

/-- What writing the next bytes leaves. -/
def written
    (data : Bytes)
    (r : StreamReassembler) : StreamReassembler :=
  { r with
    output := (r.output.write data).2
    willing := r.willing + data.length
    bytesWrited := r.bytesWrited + data.length }

/-- The next bytes are stored as the only fragment. -/
theorem store_next
    (order : ScanOrder Nat Bytes)
    (nothing : r.reassembler = ∅) :
    r.store order data r.willing =
      { r with reassembler := AList.singleton r.willing data } := by
  have untrimmed :
      StreamReassembler.trimAssembled r.willing data r.willing =
        (data, r.willing) := by
    simp [StreamReassembler.trimAssembled]
  rw [StreamReassembler.store_of_empty order data r.willing nothing,
    untrimmed]

/-- Assembling writes the fragment and leaves nothing stored. -/
theorem assemble_next
    (order : ScanOrder Nat Bytes)
    (nothing : r.reassembler = ∅)
    (isOpen : r.output.endFlag = false)
    (nonempty : data ≠ [])
    (fits : r.willing + data.length < 2 ^ 64)
    (room : data.length ≤ r.output.remainingCapacity) :
    StreamReassembler.assemble order
        { r with reassembler := AList.singleton r.willing data } =
      written data r := by
  have positive := List.length_pos_iff.mpr nonempty
  have accepted : r.output.accepted data = data.length := by
    simp [ByteStream.accepted, isOpen, Nat.min_eq_right room]
  rw [StreamReassembler.assemble_singleton order rfl (Nat.le_refl _)]
  rcases StreamReassembler.visit_cases
      { r with reassembler := AList.singleton r.willing data }
      (show StreamReassembler.Bounded r.willing data from
        ⟨by omega, fits⟩) with
    ⟨ahead, _⟩ | ⟨stale, _⟩ | ⟨_, _, visited⟩
  · exact (Nat.lt_irrefl _ ahead).elim
  · exact absurd stale
      (Nat.not_le.mpr (Nat.lt_add_of_pos_right positive))
  · rw [visited]
    simp only [StreamReassembler.writeFragment, Nat.sub_self,
      List.drop_zero, UnorderedMap.erase_singleton, accepted, written,
      nothing]

/-- A push of the next bytes to an empty reassembler writes them all. -/
theorem pushSubstring_next
    (order : IterationOrder)
    (nothing : r.reassembler = ∅)
    (unmarked : r.endFlag = false)
    (isOpen : r.output.endFlag = false)
    (nonempty : data ≠ [])
    (fits : r.willing + data.length < 2 ^ 64)
    (room : data.length ≤ r.output.remainingCapacity) :
    r.pushSubstring order data r.willing false = written data r := by
  have recorded : r.recordEnd data r.willing false = r := rfl
  have incomplete :
      (written data r).endIfComplete = written data r := by
    simp [StreamReassembler.endIfComplete, written, unmarked]
  rw [StreamReassembler.pushSubstring_of_nonempty _ _ _ _ nonempty,
    recorded, store_next _ nothing,
    assemble_next _ nothing isOpen nonempty fits room, incomplete]

end InOrder

section LongRun

/-- Everything received so far was assembled in order and read. -/
structure Drained
    (isn : WrappingInt32)
    (capacity count : Nat)
    (receiver : TCPReceiver) : Prop where
  known : receiver.isn = some isn
  nothing : receiver.reassembler.reassembler = ∅
  unmarked : receiver.reassembler.endFlag = false
  isOpen : receiver.reassembler.output.endFlag = false
  valid : receiver.reassembler.output.Valid
  drained : receiver.reassembler.output.size = 0
  limit : receiver.reassembler.output.mCapacity = capacity
  next : receiver.reassembler.willing = count
  total : receiver.reassembler.output.bytesW = count

/-- A segment whose payload starts at a stream index. -/
def dataSegment
    (isn : WrappingInt32)
    (index : Nat)
    (data : Bytes) : TCPSegment where
  header := { seqno := wrap (index + 1) isn }
  payload := data

variable {isn : WrappingInt32} {capacity count : Nat} {data : Bytes}

/-- Receiving and reading one more segment keeps the receiver drained. -/
theorem Drained.round
    {session : Session}
    (before : Drained isn capacity count session.receiver)
    (nonempty : data ≠ [])
    (room : data.length ≤ capacity)
    (small : count + data.length + 1 < 2 ^ 32) :
    Drained isn capacity (count + data.length)
      (Execution.run Session.step session
        [.segment .stored (dataSegment isn count data),
          .read data.length]).receiver := by
  have numbered : strIndex (dataSegment isn count data).header isn =
      session.receiver.reassembler.willing := by
    rw [before.next]
    exact strIndex_of_numbered rfl (by simp [dataSegment]) (by omega)
  have accepts :
      data.length ≤
        session.receiver.reassembler.output.remainingCapacity := by
    rw [ByteStream.remainingCapacity_of_le
      (by rw [before.drained]; exact Nat.zero_le _),
      before.limit, before.drained]
    exact room
  have pushed :
      session.receiver.segmentReceived .stored
          (dataSegment isn count data) =
        { session.receiver with
          isn := some isn
          reassembler := written data session.receiver.reassembler } := by
    have recorded :
        (session.receiver.recordSyn (dataSegment isn count data)).isn =
          some isn :=
      before.known
    have wrote :
        session.receiver.reassembler.pushSubstring .stored data
            session.receiver.reassembler.willing false =
          written data session.receiver.reassembler :=
      pushSubstring_next .stored before.nothing before.unmarked
        before.isOpen nonempty (by rw [before.next]; omega) accepts
    rw [segmentReceived_of_known recorded, numbered, ← wrote]
    rfl
  have accepted :
      session.receiver.reassembler.output.accepted data =
        data.length := by
    simp [ByteStream.accepted, before.isOpen, Nat.min_eq_right accepts]
  have validWritten := before.valid.write data
  simp only [Execution.run_cons, Execution.run_nil, Session.step, pushed,
    readOut, StreamReassembler.readOut, written]
  exact {
    known := rfl
    nothing := before.nothing
    unmarked := before.unmarked
    isOpen := by simp [before.isOpen]
    valid := validWritten.read _
    drained := by
      rw [validWritten.read_size, ByteStream.write_size, accepted,
        before.drained]
      omega
    limit := by simp [before.limit]
    next := by simp [before.next]
    total := by
      simp [ByteStream.write_bytesW, accepted, before.total]
  }

/-- A SYN, and then the same payload again and again, each read at once. -/
def inOrderCalls
    (isn : WrappingInt32)
    (data : Bytes) :
    Nat → List Op
  | 0 => [.segment .stored { header := { seqno := isn, syn := true } }]
  | rounds + 1 =>
      inOrderCalls isn data rounds ++
        [.segment .stored
            (dataSegment isn (rounds * data.length) data),
          .read data.length]

theorem inOrderCalls_drained
    (nonempty : data ≠ [])
    (room : data.length ≤ capacity)
    {rounds : Nat}
    (small : rounds * data.length + 1 < 2 ^ 32) :
    Drained isn capacity (rounds * data.length)
      (Session.after capacity
        (inOrderCalls isn data rounds)).receiver := by
  induction rounds with
  | zero =>
      rw [Nat.zero_mul]
      exact {
        known := rfl
        nothing := rfl
        unmarked := rfl
        isOpen := rfl
        valid := ByteStream.valid_new capacity
        drained := rfl
        limit := rfl
        next := rfl
        total := rfl
      }
  | succ rounds inductionHypothesis =>
      rw [Nat.succ_mul] at small ⊢
      rw [Session.after, inOrderCalls, Execution.run_append]
      exact Drained.round (inductionHypothesis (by omega)) nonempty room
        small

end LongRun

/--
When more than two gibibytes were drained, the number `2 ^ 32` lies within
`2 ^ 31` of the next expected one, but its payload is handed over at the last
64-bit index.
-/
theorem Drained.misplaces
    {isn : WrappingInt32}
    {capacity count : Nat}
    {receiver : TCPReceiver}
    (drained : Drained isn capacity count receiver)
    (far : 2 ^ 31 ≤ count)
    (inSpace : count < 2 ^ 32)
    (seg : TCPSegment)
    (noSyn : seg.header.syn = false)
    (numbered : seg.header.seqno = wrap (2 ^ 32) isn) :
    receiver.isn = some isn ∧
      2 ^ 32 < receiver.streamOut.bytesWritten + 1 + 2 ^ 31 ∧
      receiver.streamOut.bytesWritten + 1 < 2 ^ 32 + 2 ^ 31 ∧
      receiver.pushArguments seg ≠
        some (seg.payload, 2 ^ 32 - 1, seg.header.fin) := by
  have total : receiver.streamOut.bytesWritten = count := drained.total
  have handed :
      receiver.pushArguments seg =
        some (seg.payload, sub64 0 1, seg.header.fin) := by
    simp [pushArguments, recordSyn, noSyn, drained.known, strIndex,
      numbered, unwrap_zero_wrap]
  refine ⟨drained.known, by omega, by omega, ?_⟩
  rw [handed]
  intro same
  have sameIndex : sub64 0 1 = 2 ^ 32 - 1 :=
    congrArg Prod.fst (congrArg Prod.snd (Option.some.inj same))
  exact absurd sameIndex (by decide)

/--
A peer that sends its stream in order, a thousand bytes at a time, gets there:
the payload numbered `2 ^ 32` is not handed over at index `2 ^ 32 - 1`.
-/
theorem wrapped_payload_misplaced :
    let receiver :=
      (Session.after 1000
        (inOrderCalls ⟨0⟩ (List.replicate 1000 0) 2147484)).receiver
    let seg : TCPSegment :=
      { header := { seqno := wrap (2 ^ 32) ⟨0⟩ }, payload := [97] }
    receiver.isn = some ⟨0⟩ ∧
      2 ^ 32 < receiver.streamOut.bytesWritten + 1 + 2 ^ 31 ∧
      receiver.streamOut.bytesWritten + 1 < 2 ^ 32 + 2 ^ 31 ∧
      receiver.pushArguments seg ≠
        some (seg.payload, 2 ^ 32 - 1, seg.header.fin) := by
  have length : (List.replicate 1000 (0 : UInt8)).length = 1000 :=
    List.length_replicate
  have nonempty : List.replicate 1000 (0 : UInt8) ≠ [] :=
    List.ne_nil_of_length_pos (by omega)
  exact Drained.misplaces
    (inOrderCalls_drained nonempty (by omega) (by omega))
    (by omega) (by omega) _ rfl rfl

end Sponge.TCPReceiver
