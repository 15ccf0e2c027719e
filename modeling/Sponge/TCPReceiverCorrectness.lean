import Sponge.StreamReassemblerIntegrity
import Sponge.TCPReceiver

namespace Sponge.TCPReceiver

/-!
# Correctness of the receiver for any segmentation

A peer numbers its SYN with the initial sequence number, byte `i` of its stream
with the number `i + 1` steps further, and its FIN with the number after the
last byte.  For streams shorter than the sequence space, any segments cut from
such a stream make the receiver assemble a prefix of it and acknowledge exactly
what was assembled.
-/

/-- The segment is part of the numbered stream, or takes up no numbers. -/
def ConsistentSegment
    (isn : WrappingInt32)
    (sequence : Bytes)
    (seg : TCPSegment) : Prop :=
  seg.lengthInSequenceSpace = 0 ∨
    ∃ index,
      seg.header.seqno =
          wrap (if seg.header.syn then 0 else index + 1) isn ∧
        (seg.header.syn = true → index = 0) ∧
        StreamReassembler.ConsistentPush sequence seg.payload index
          seg.header.fin

/-- One call on a receiver. -/
inductive Op where
  | segment
      (order : IterationOrder)
      (seg : TCPSegment)
  | read (len : Nat)

namespace Op

/-- Segments are part of the stream; reads are unrestricted. -/
def Consistent
    (isn : WrappingInt32)
    (sequence : Bytes) :
    Op → Prop
  | .segment _ seg => ConsistentSegment isn sequence seg
  | .read _ => True

/-- The call delivers a SYN. -/
def carriesSyn : Op → Bool
  | .segment _ seg => seg.header.syn
  | .read _ => false

/-- The call delivers a FIN. -/
def carriesFin : Op → Bool
  | .segment _ seg => seg.header.fin
  | .read _ => false

end Op

/-- A receiver and everything read from its output so far. -/
structure Session where
  receiver : TCPReceiver
  taken : Bytes := []

namespace Session

/-- A session on a new receiver. -/
def start (capacity : Nat) : Session where
  receiver := TCPReceiver.new capacity

/-- Perform one call. -/
def step
    (session : Session) :
    Op → Session
  | .segment order seg =>
      { session with
        receiver := session.receiver.segmentReceived order seg }
  | .read len =>
      let result := session.receiver.readOut len
      { receiver := result.2
        taken := session.taken ++ result.1 }

/-- The state after a list of calls on a new receiver. -/
def after
    (capacity : Nat)
    (calls : List Op) : Session :=
  Execution.run step (start capacity) calls

end Session

section BeforeSyn

/-- Without a SYN a receiver that has seen none ignores the segment. -/
theorem segmentReceived_unsynchronized
    {receiver : TCPReceiver}
    (unset : receiver.isn = none)
    {seg : TCPSegment}
    (noSyn : seg.header.syn = false)
    (order : IterationOrder) :
    receiver.segmentReceived order seg = receiver := by
  have recorded : receiver.recordSyn seg = receiver := by
    simp [recordSyn, noSyn]
  simp [segmentReceived, pushArguments, recorded, unset]

/-- Nothing can be read from a new reassembler. -/
theorem readOut_new
    (capacity len : Nat) :
    (StreamReassembler.new capacity).readOut len =
      ([], StreamReassembler.new capacity) := by
  simp [StreamReassembler.readOut, StreamReassembler.new,
    ByteStream.read, ByteStream.new, ByteStream.bufferSize,
    ByteStream.peekOutput, ByteStream.popOutput,
    BufferList.concatenate, BufferList.removePrefix, finalState, sub64]

/-- Until a SYN arrives the receiver stays as it was constructed. -/
theorem run_unsynchronized
    (capacity : Nat)
    {calls : List Op}
    (noSyn : ∀ call ∈ calls, call.carriesSyn = false) :
    Session.after capacity calls = Session.start capacity := by
  refine Execution.EveryStep.invariant
    (fun session => session = Session.start capacity)
    ?_ rfl (Execution.EveryStep.of_forall_mem noSyn _)
  intro session call unchanged quiet
  subst session
  cases call with
  | segment order seg =>
      simp only [Session.step, Session.start]
      rw [segmentReceived_unsynchronized rfl quiet order]
  | read len =>
      simp only [Session.step, Session.start, readOut, new,
        readOut_new, List.append_nil]

end BeforeSyn

section AfterSyn

variable {isn : WrappingInt32} {sequence taken : Bytes}
variable {receiver : TCPReceiver} {seg : TCPSegment}

/-- A SYN of the stream records its initial sequence number. -/
theorem ConsistentSegment.recordSyn_isn
    (consistent : ConsistentSegment isn sequence seg)
    (known : receiver.isn = some isn ∨ seg.header.syn = true) :
    (receiver.recordSyn seg).isn = some isn := by
  by_cases syn : seg.header.syn = true
  · rcases consistent with nothing | ⟨index, numbered, _, _⟩
    · simp [TCPSegment.lengthInSequenceSpace, syn] at nothing
    · simp [recordSyn, syn] at numbered ⊢
      rw [numbered, wrap_zero]
  · simpa [recordSyn, syn] using known

/-- Once the initial sequence number is known every segment is pushed. -/
theorem segmentReceived_of_known
    (known : (receiver.recordSyn seg).isn = some isn)
    (order : IterationOrder) :
    receiver.segmentReceived order seg =
      { receiver with
        isn := some isn
        reassembler :=
          receiver.reassembler.pushSubstring order seg.payload
            (strIndex seg.header isn) seg.header.fin } := by
  simp only [segmentReceived, pushArguments, known, recordSyn_capacity]

/-- The translated index is the one the peer numbered the payload with. -/
theorem strIndex_of_numbered
    {index : Nat}
    (numbered :
      seg.header.seqno =
        wrap (if seg.header.syn then 0 else index + 1) isn)
    (first : seg.header.syn = true → index = 0)
    (small : index + 1 < 2 ^ 32) :
    strIndex seg.header isn = index := by
  unfold strIndex
  split
  · rename_i syn
    exact (first syn).symm
  · rename_i noSyn
    rw [numbered, if_neg noSyn, unwrap_zero_wrap_of_lt small,
      sub64_of_le (by omega), Nat.add_sub_cancel]

/-- A segment of the stream keeps the reassembler sound. -/
theorem ConsistentSegment.push_sound
    (consistent : ConsistentSegment isn sequence seg)
    (short : sequence.length + 1 < 2 ^ 32)
    (sound :
      StreamReassembler.Sound sequence taken receiver.reassembler)
    (order : IterationOrder) :
    StreamReassembler.Sound sequence taken
      (receiver.reassembler.pushSubstring order seg.payload
        (strIndex seg.header isn) seg.header.fin) := by
  rcases consistent with nothing | ⟨index, numbered, first, push⟩
  · obtain ⟨noPayload, _, noFin⟩ :=
      TCPSegment.lengthInSequenceSpace_eq_zero.mp nothing
    rw [noPayload, noFin]
    exact sound.pushNothing order _
  · have inside := push.inside
    rw [strIndex_of_numbered numbered first (by omega)]
    exact sound.pushSubstring (by omega) push order

/-- The receiver knows the peer's numbering and its reassembler is sound. -/
structure Synchronized
    (isn : WrappingInt32)
    (sequence taken : Bytes)
    (receiver : TCPReceiver) : Prop where
  known : receiver.isn = some isn
  sound : StreamReassembler.Sound sequence taken receiver.reassembler

theorem Synchronized.segmentReceived
    (sound :
      StreamReassembler.Sound sequence taken receiver.reassembler)
    (known : receiver.isn = some isn ∨ seg.header.syn = true)
    (short : sequence.length + 1 < 2 ^ 32)
    (consistent : ConsistentSegment isn sequence seg)
    (order : IterationOrder) :
    Synchronized isn sequence taken
      (receiver.segmentReceived order seg) := by
  rw [segmentReceived_of_known (consistent.recordSyn_isn known) order]
  exact ⟨rfl, consistent.push_sound short sound order⟩

theorem Synchronized.readOut
    (synchronized : Synchronized isn sequence taken receiver)
    (len : Nat) :
    Synchronized isn sequence (taken ++ (receiver.readOut len).1)
      (receiver.readOut len).2 :=
  ⟨synchronized.known, synchronized.sound.readOut len⟩

/-- A synchronized receiver acknowledges what it has assembled. -/
theorem Synchronized.ackno_eq
    (synchronized : Synchronized isn sequence taken receiver) :
    receiver.ackno =
      some (wrap
        (1 + receiver.streamOut.bytesWritten +
          receiver.streamOut.inputEnded.toNat)
        isn) := by
  rw [ackno, synchronized.known, Nat.add_comm 1]

/-- From a SYN on, a run keeps the receiver synchronized. -/
theorem run_synchronized
    (short : sequence.length + 2 < 2 ^ 32)
    (session : Session)
    (synchronized :
      Synchronized isn sequence session.taken session.receiver)
    {calls : List Op}
    (consistent : ∀ call ∈ calls, call.Consistent isn sequence) :
    let final := Execution.run Session.step session calls
    Synchronized isn sequence final.taken final.receiver ∧
      final.receiver.reassembler.endFlag =
        (session.receiver.reassembler.endFlag ||
          calls.any Op.carriesFin) := by
  induction calls generalizing session with
  | nil =>
      exact ⟨synchronized, by simp⟩
  | cons call rest inductionHypothesis =>
      have restConsistent :
          ∀ later ∈ rest, later.Consistent isn sequence :=
        fun later member =>
          consistent later (List.mem_cons_of_mem call member)
      have allowed := consistent call List.mem_cons_self
      cases call with
      | segment order seg =>
          obtain ⟨kept, flagged⟩ :=
            inductionHypothesis (session.step (.segment order seg))
              (Synchronized.segmentReceived synchronized.sound
                (Or.inl synchronized.known) (by omega) allowed order)
              restConsistent
          refine ⟨kept, flagged.trans ?_⟩
          have recorded :=
            ConsistentSegment.recordSyn_isn allowed
              (Or.inl synchronized.known)
          simp only [Session.step,
            segmentReceived_of_known recorded,
            StreamReassembler.pushSubstring_endFlag,
            List.any_cons, Op.carriesFin, Bool.or_assoc]
      | read len =>
          obtain ⟨kept, flagged⟩ :=
            inductionHypothesis (session.step (.read len))
              (synchronized.readOut len) restConsistent
          exact ⟨kept, flagged⟩

end AfterSyn

/-- The calls from the first SYN on. -/
def fromSyn (calls : List Op) : List Op :=
  calls.dropWhile fun call => !call.carriesSyn

/-- The first SYN splits the calls. -/
theorem fromSyn_split
    {calls : List Op}
    (heard : ∃ call ∈ calls, call.carriesSyn = true) :
    ∃ quiet first rest,
      calls = quiet ++ first :: rest ∧
        (∀ call ∈ quiet, call.carriesSyn = false) ∧
        first.carriesSyn = true ∧
        fromSyn calls = first :: rest := by
  induction calls with
  | nil =>
      simp at heard
  | cons call rest inductionHypothesis =>
      cases carries : call.carriesSyn with
      | true =>
          exact ⟨[], call, rest, rfl, by simp, carries, by
            simp [fromSyn, carries]⟩
      | false =>
          obtain ⟨later, member, syn⟩ := heard
          have inRest : later ∈ rest := by
            rcases List.mem_cons.mp member with rfl | inRest
            · rw [carries] at syn
              cases syn
            · exact inRest
          obtain ⟨quiet, first, trailing, shape, noSyn, isSyn, split⟩ :=
            inductionHypothesis ⟨later, inRest, syn⟩
          refine ⟨call :: quiet, first, trailing, by simp [shape], ?_,
            isSyn, by simpa [fromSyn, carries] using split⟩
          intro earlier inQuiet
          rcases List.mem_cons.mp inQuiet with rfl | deeper
          · exact carries
          · exact noSyn earlier deeper

/-- After the first SYN the receiver is synchronized and knows of every FIN. -/
theorem synchronized_after
    {isn : WrappingInt32}
    {sequence : Bytes}
    (short : sequence.length + 2 < 2 ^ 32)
    (capacity : Nat)
    {calls : List Op}
    (consistent : ∀ call ∈ calls, call.Consistent isn sequence)
    (heard : ∃ call ∈ calls, call.carriesSyn = true) :
    let session := Session.after capacity calls
    Synchronized isn sequence session.taken session.receiver ∧
      session.receiver.reassembler.endFlag =
        (fromSyn calls).any Op.carriesFin := by
  obtain ⟨quiet, first, rest, shape, quietNoSyn, firstSyn, later⟩ :=
    fromSyn_split heard
  have firstConsistent : first.Consistent isn sequence :=
    consistent first (by simp [shape])
  have restConsistent :
      ∀ call ∈ rest, call.Consistent isn sequence :=
    fun call member => consistent call (by simp [shape, member])
  have split :
      Session.after capacity calls =
        Execution.run Session.step
          ((Session.start capacity).step first) rest := by
    rw [shape, Session.after, Execution.run_append]
    rw [← Session.after, run_unsynchronized capacity quietNoSyn]
    rfl
  cases first with
  | read len =>
      cases firstSyn
  | segment order seg =>
      have fresh :
          StreamReassembler.Sound sequence []
            (new capacity).reassembler :=
        StreamReassembler.sound_new sequence capacity
      have recorded :
          ((new capacity).recordSyn seg).isn = some isn :=
        ConsistentSegment.recordSyn_isn firstConsistent
          (Or.inr firstSyn)
      obtain ⟨synchronized, flagged⟩ :=
        run_synchronized short
          ((Session.start capacity).step (.segment order seg))
          (Synchronized.segmentReceived fresh (Or.inr firstSyn)
            (by omega) firstConsistent order)
          restConsistent
      rw [← split] at synchronized flagged
      refine ⟨synchronized, ?_⟩
      simp only [flagged, later, List.any_cons, Op.carriesFin,
        Session.step, Session.start,
        segmentReceived_of_known recorded,
        StreamReassembler.pushSubstring_endFlag]
      rfl

/--
The receiver is correct for any segmentation of the peer's stream.  Before the
first SYN it acknowledges and stores nothing.  Afterwards it has assembled a
prefix of the stream, acknowledges exactly that, and has ended its output when
a FIN was received since the SYN and the whole stream was assembled.
-/
theorem receives_prefix_of_stream
    (isn : WrappingInt32)
    (sequence : Bytes)
    (short : sequence.length + 2 < 2 ^ 32)
    (capacity : Nat)
    (calls : List Op)
    (consistent : ∀ call ∈ calls, call.Consistent isn sequence) :
    let session := Session.after capacity calls
    let out := session.receiver.streamOut
    ((∀ call ∈ calls, call.carriesSyn = false) →
        session.receiver.ackno = none ∧
          session.receiver.reassembler =
            StreamReassembler.new capacity ∧
          session.taken = []) ∧
      ((∃ call ∈ calls, call.carriesSyn = true) →
        out.bytesWritten ≤ sequence.length ∧
          session.taken ++ out.contents =
            sequence.take out.bytesWritten ∧
          session.receiver.ackno =
            some (wrap
              (1 + out.bytesWritten + out.inputEnded.toNat) isn) ∧
          (out.inputEnded = true ↔
            (∃ call ∈ fromSyn calls, call.carriesFin = true) ∧
              out.bytesWritten = sequence.length)) := by
  dsimp only
  constructor
  · intro noSyn
    rw [run_unsynchronized capacity noSyn]
    exact ⟨rfl, rfl, rfl⟩
  · intro heard
    obtain ⟨synchronized, flagged⟩ :=
      synchronized_after short capacity consistent heard
    have sound := synchronized.sound
    have written := sound.layout.written
    refine ⟨?_, ?_, synchronized.ackno_eq, ?_⟩
    · simp only [streamOut, ByteStream.bytesWritten, written]
      exact sound.intact.inside
    · simp only [streamOut, ByteStream.bytesWritten, written]
      exact sound.intact.delivered
    · simp only [streamOut, ByteStream.bytesWritten,
        ByteStream.inputEnded, written]
      rw [sound.ended_iff, flagged, List.any_eq_true]

/-- The end of a two-byte stream arrives before and after its beginning. -/
theorem receives_prefix_of_stream_ab :
    let isn : WrappingInt32 := ⟨0xffffffff⟩
    let tail : TCPSegment :=
      { header := { seqno := ⟨1⟩, fin := true }
        payload := [98] }
    let head : TCPSegment :=
      { header := { seqno := isn, syn := true }
        payload := [97] }
    let session :=
      Session.after 4
        [.segment .stored tail, .segment .stored head,
          .segment .stored tail]
    session.taken ++ session.receiver.streamOut.contents = [97, 98] ∧
      session.receiver.ackno = some (wrap 4 isn) ∧
      session.receiver.streamOut.inputEnded = true := by
  intro isn tail head session
  have consistent :
      ∀ call ∈
        [Op.segment .stored tail, Op.segment .stored head,
          Op.segment .stored tail],
        call.Consistent isn [97, 98] := by
    intro call member
    simp only [List.mem_cons, List.not_mem_nil, or_false] at member
    rcases member with rfl | rfl | rfl
    · exact Or.inr ⟨1, by decide, by decide, by decide, by decide,
        by decide⟩
    · exact Or.inr ⟨0, by decide, by decide, by decide, by decide,
        by decide⟩
    · exact Or.inr ⟨1, by decide, by decide, by decide, by decide,
        by decide⟩
  obtain ⟨_, received⟩ :=
    receives_prefix_of_stream isn [97, 98] (by decide) 4
      [.segment .stored tail, .segment .stored head,
        .segment .stored tail]
      consistent
  obtain ⟨_, delivered, acknowledged, ended⟩ :=
    received ⟨.segment .stored head, by simp, rfl⟩
  have all : session.receiver.streamOut.bytesWritten = 2 := by
    decide
  have done : session.receiver.streamOut.inputEnded = true :=
    ended.mpr ⟨⟨.segment .stored tail, by
      simp [fromSyn, Op.carriesSyn, tail, head], rfl⟩, all⟩
  refine ⟨delivered.trans ?_, acknowledged.trans ?_, done⟩
  · change List.take session.receiver.streamOut.bytesWritten _ = _
    rw [all]
    rfl
  · change some (wrap
      (1 + session.receiver.streamOut.bytesWritten +
        session.receiver.streamOut.inputEnded.toNat) isn) = _
    rw [all, done]
    rfl

end Sponge.TCPReceiver
