import Sponge.StreamReassemblerLayout

namespace Sponge.StreamReassembler

/-!
# Integrity of the reassembled stream

Pushes that are consistent with one byte string, in any order and with any
overlap, interleaved with reads, never corrupt, reorder or invent bytes.  The
invariant `Sound` links the layout to the byte string; each stage of a push
preserves its part of it.
-/

/-- Delivered and stored bytes are those of the sequence. -/
structure Intact
    (sequence taken : Bytes)
    (r : StreamReassembler) : Prop where
  delivered : taken ++ r.output.contents = sequence.take r.willing
  inside : r.willing ≤ sequence.length
  fragments : AllAgree sequence r.reassembler

section Stages

variable {sequence taken : Bytes} {r : StreamReassembler}

/-- Moving a fragment to the output delivers the next bytes of the sequence. -/
theorem Intact.visit
    (intact : Intact sequence taken r)
    (loose : r.Loose)
    {key : Nat}
    {fragment : Bytes}
    (found : r.reassembler.lookup key = some fragment) :
    Intact sequence taken (r.visit ⟨key, fragment⟩) := by
  have erased := intact.fragments.erase key
  rcases visit_cases r (loose.bounded key fragment found) with
    ⟨_, same⟩ | ⟨_, stale⟩ | ⟨reached, _, wrote⟩
  · rw [same]
    exact intact
  · rw [stale]
    exact ⟨intact.delivered, intact.inside, erased⟩
  · rw [wrote]
    have agrees :
        Agrees sequence r.willing
          (fragment.drop (r.willing - key)) := by
      have dropped :=
        (intact.fragments key fragment found).drop (r.willing - key)
      rwa [Nat.add_sub_cancel' reached] at dropped
    have accepted :=
      ByteStream.accepted_le_length
        (fragment.drop (r.willing - key)) r.output
    have written := agrees.take
      (r.output.accepted (fragment.drop (r.willing - key)))
    refine ⟨?_, ?_, erased⟩
    · simp only [writeFragment, ByteStream.write_contents]
      rw [← List.append_assoc, intact.delivered,
        written.append_take, List.length_take,
        Nat.min_eq_left accepted]
    · simp only [writeFragment]
      by_cases nothing :
          (fragment.drop (r.willing - key)).take
              (r.output.accepted (fragment.drop (r.willing - key))) =
            []
      · have zero :
            r.output.accepted (fragment.drop (r.willing - key)) = 0 := by
          have length := congrArg List.length nothing
          rw [List.length_take, Nat.min_eq_left accepted] at length
          exact length
        rw [zero]
        exact intact.inside
      · have bound := written.end_le nothing
        rwa [List.length_take, Nat.min_eq_left accepted] at bound

theorem Intact.assemble
    (intact : Intact sequence taken r)
    (loose : r.Loose)
    (order : ScanOrder Nat Bytes) :
    Intact sequence taken (r.assemble order) := by
  have both :=
    assemble_invariant
      (fun next => next.Loose ∧ Intact sequence taken next)
      (fun _ _ _ held found =>
        ⟨held.1.visit found, held.2.visit held.1 found⟩)
      order ⟨loose, intact⟩
  exact both.2

/-- Storing a consistent substring stores only bytes of the sequence. -/
theorem Intact.store
    (intact : Intact sequence taken r)
    (loose : r.Loose)
    {data : Bytes}
    {index : Nat}
    (nonempty : data ≠ [])
    (fits : index + data.length < 2 ^ 64)
    (agrees : Agrees sequence index data)
    (order : ScanOrder Nat Bytes) :
    Intact sequence taken (r.store order data index) := by
  have merged : Merged _ _ (r.mergedPending order data index) :=
    loose.merged nonempty fits
  have trimmed :
      Agrees sequence (r.incoming data index).copyIndex
        (r.incoming data index).copyData := by
    rcases trimAssembled_cases r.willing nonempty fits with
      ⟨before, _, cut⟩ | ⟨_, whole⟩
    · have dropped := agrees.drop (r.willing - index)
      simp only [incoming, cut]
      rwa [Nat.add_sub_cancel' (Nat.le_of_lt before)] at dropped
    · simpa only [incoming, whole] using agrees
  have untouched :
      AllAgree sequence
        (r.mergedPending order data index).reassembler := by
    intro key fragment found
    exact intact.fragments key fragment
      (merged.lookup_of_after key fragment found)
  have stored : AllAgree sequence (r.inserted order data index) :=
    untouched.insert
      (merged.agrees sequence trimmed intact.fragments)
  refine ⟨intact.delivered, intact.inside, ?_⟩
  rw [store_eq]
  rcases discardExcess_cases r.capacity r.output.bufferSize
      (order.keys r.reassembler) (r.inserted order data index) with
    same | ⟨key, _, count, shortened⟩
  · rw [same]
    exact stored
  · rw [shortened]
    exact stored.shorten key count

end Stages

/--
The invariant between calls.  The recorded end is that of the sequence, and the
output has ended exactly when the end was pushed and everything was assembled.
-/
structure Sound
    (sequence taken : Bytes)
    (r : StreamReassembler) : Prop where
  layout : r.Layout
  intact : Intact sequence taken r
  endAt : r.endFlag = true → r.totalWrite = sequence.length
  ended_iff :
    r.output.endFlag = true ↔
      r.endFlag = true ∧ r.willing = sequence.length

/-- A new reassembler has delivered the empty prefix of every sequence. -/
theorem sound_new
    (sequence : Bytes)
    (capacity : Nat) :
    Sound sequence [] (new capacity) where
  layout := layout_new capacity
  intact := {
    delivered := rfl
    inside := Nat.zero_le _
    fragments := AllAgree.empty sequence
  }
  endAt := by
    intro ended
    cases ended
  ended_iff := by
    simp [new, ByteStream.new]

/-- A push of part of the sequence, ending it only at its end. -/
structure ConsistentPush
    (sequence data : Bytes)
    (index : Nat)
    (eof : Bool) : Prop where
  inside : index + data.length ≤ sequence.length
  agrees : data = (sequence.drop index).take data.length
  endsAt : eof = true → index + data.length = sequence.length

namespace Sound

variable {sequence taken : Bytes} {r : StreamReassembler}

/-- The last test of a push ends the output exactly when it should. -/
theorem endIfComplete
    (layout : r.Layout)
    (intact : Intact sequence taken r)
    (endAt : r.endFlag = true → r.totalWrite = sequence.length)
    (early :
      r.output.endFlag = true →
      r.endFlag = true ∧ r.willing = sequence.length) :
    Sound sequence taken r.endIfComplete := by
  have counted := layout.counted
  refine {
    layout := layout.endIfComplete
    intact := ?_
    endAt := ?_
    ended_iff := ?_
  }
  · unfold StreamReassembler.endIfComplete
    split
    · exact ⟨intact.delivered, intact.inside, intact.fragments⟩
    · exact intact
  · unfold StreamReassembler.endIfComplete
    split <;> exact endAt
  · unfold StreamReassembler.endIfComplete
    by_cases complete : r.endFlag = true ∧ r.bytesWrited = r.totalWrite
    · rw [if_pos complete]
      refine ⟨fun _ => ⟨complete.1, ?_⟩, fun _ => rfl⟩
      rw [← counted, complete.2, endAt complete.1]
    · rw [if_neg complete]
      refine ⟨early, ?_⟩
      rintro ⟨ended, all⟩
      exact (complete ⟨ended, by
        rw [counted, all, endAt ended]⟩).elim

/-- A consistent push keeps the reassembler sound. -/
theorem pushSubstring
    (sound : Sound sequence taken r)
    {data : Bytes}
    {index : Nat}
    {eof : Bool}
    (fits : index + data.length < 2 ^ 64)
    (consistent : ConsistentPush sequence data index eof)
    (order : IterationOrder) :
    Sound sequence taken (r.pushSubstring order data index eof) := by
  have agrees : Agrees sequence index data := by
    rw [consistent.agrees]
    exact Agrees.of_slice sequence index data.length
  have layout := sound.layout.recordEnd data index eof
  have intact :
      Intact sequence taken (r.recordEnd data index eof) := by
    unfold recordEnd
    split <;> exact
      ⟨sound.intact.delivered, sound.intact.inside,
        sound.intact.fragments⟩
  have endAt :
      (r.recordEnd data index eof).endFlag = true →
      (r.recordEnd data index eof).totalWrite = sequence.length := by
    unfold recordEnd
    split
    · rename_i last
      intro _
      dsimp only
      rw [Nat.mod_eq_of_lt fits, consistent.endsAt last]
    · exact sound.endAt
  have early :
      (r.recordEnd data index eof).output.endFlag = true →
      (r.recordEnd data index eof).endFlag = true ∧
        (r.recordEnd data index eof).willing = sequence.length := by
    unfold recordEnd
    split
    · rename_i last
      intro ended
      exact ⟨last, (sound.ended_iff.mp ended).2⟩
    · exact sound.ended_iff.mp
  by_cases nonempty : data = []
  · rw [pushSubstring_of_empty _ _ _ _ nonempty]
    exact endIfComplete layout intact endAt early
  · rw [pushSubstring_of_nonempty _ _ _ _ nonempty]
    have loose :
        ((r.recordEnd data index eof).store
          order.keyScan data index).Loose :=
      layout.store nonempty fits
    have storedIntact :=
      intact.store layout.toLoose nonempty fits agrees order.keyScan
    have assembled :=
      storedIntact.assemble loose order.assemblyScan
    obtain ⟨_, sameFlag, sameEnd, sameOutput, _, _⟩ :=
      assemble_frame order.assemblyScan
        ((r.recordEnd data index eof).store order.keyScan data index)
    apply endIfComplete (loose.assemble order.assemblyScan) assembled
    · rw [sameFlag, sameEnd]
      exact endAt
    · rw [sameOutput, sameFlag]
      intro ended
      have before := early ended
      refine ⟨before.1, Nat.le_antisymm assembled.inside ?_⟩
      rw [← before.2]
      exact assemble_willing_le order.assemblyScan
        ((r.recordEnd data index eof).store order.keyScan data index)

/-- An empty push that does not carry the end changes nothing that matters. -/
theorem pushNothing
    (sound : Sound sequence taken r)
    (order : IterationOrder)
    (index : Nat) :
    Sound sequence taken (r.pushSubstring order [] index false) :=
  endIfComplete sound.layout sound.intact sound.endAt
    sound.ended_iff.mp

/-- Reading moves bytes from the output to the reader. -/
theorem readOut
    (sound : Sound sequence taken r)
    (len : Nat) :
    Sound sequence (taken ++ (r.readOut len).1) (r.readOut len).2 where
  layout := sound.layout.readOut len
  intact := {
    delivered := by
      simp only [StreamReassembler.readOut,
        sound.layout.outputValid.read_bytes,
        sound.layout.outputValid.read_contents]
      rw [List.append_assoc, List.take_append_drop]
      exact sound.intact.delivered
    inside := sound.intact.inside
    fragments := sound.intact.fragments
  }
  endAt := sound.endAt
  ended_iff := by
    simp only [StreamReassembler.readOut, ByteStream.read_endFlag]
    exact sound.ended_iff

/-- The error flag of the output plays no part. -/
theorem setError
    (sound : Sound sequence taken r) :
    Sound sequence taken { r with output := r.output.setError } where
  layout := {
    outputValid := sound.layout.outputValid.setError
    sameCapacity := sound.layout.sameCapacity
    written := sound.layout.written
    counted := sound.layout.counted
    bounded := sound.layout.bounded
    separated := sound.layout.separated
    settled := sound.layout.settled
  }
  intact := {
    delivered := sound.intact.delivered
    inside := sound.intact.inside
    fragments := sound.intact.fragments
  }
  endAt := sound.endAt
  ended_iff := sound.ended_iff

/-- While no end was pushed the sequence may still grow. -/
theorem extend
    (sound : Sound sequence taken r)
    (unended : r.endFlag = false)
    (later : Bytes) :
    Sound (sequence ++ later) taken r where
  layout := sound.layout
  intact := {
    delivered := by
      rw [List.take_append_of_le_length sound.intact.inside]
      exact sound.intact.delivered
    inside := by
      have bound := sound.intact.inside
      rw [List.length_append]
      omega
    fragments := sound.intact.fragments.extend later
  }
  endAt := by
    intro ended
    rw [unended] at ended
    cases ended
  ended_iff := by
    rw [sound.ended_iff, unended]
    simp

end Sound

/-- One call on a reassembler. -/
inductive Op where
  | push
      (order : IterationOrder)
      (data : Bytes)
      (index : Nat)
      (eof : Bool)
  | read (len : Nat)

/-- A reassembler and everything read from its output so far. -/
structure Session where
  reassembler : StreamReassembler
  taken : Bytes := []

namespace Session

/-- A session on a new reassembler. -/
def start (capacity : Nat) : Session where
  reassembler := new capacity

/-- Perform one call. -/
def step
    (session : Session) :
    Op → Session
  | .push order data index eof =>
      { session with
        reassembler :=
          session.reassembler.pushSubstring order data index eof }
  | .read len =>
      let result := session.reassembler.readOut len
      { reassembler := result.2
        taken := session.taken ++ result.1 }

/-- The state after a list of calls on a new reassembler. -/
def after
    (capacity : Nat)
    (calls : List Op) : Session :=
  Execution.run step (start capacity) calls

end Session

namespace Op

/-- Pushes are parts of the sequence; reads are unrestricted. -/
def Consistent
    (sequence : Bytes) :
    Op → Prop
  | .push _ data index eof => ConsistentPush sequence data index eof
  | .read _ => True

/-- The call pushes the end of the stream. -/
def carriesEof : Op → Bool
  | .push _ _ _ eof => eof
  | .read _ => false

end Op

/-- Soundness holds after every list of consistent calls. -/
theorem sound_after
    {sequence : Bytes}
    (short : sequence.length < 2 ^ 64)
    (capacity : Nat)
    {calls : List Op}
    (consistent : ∀ call ∈ calls, call.Consistent sequence) :
    Sound sequence (Session.after capacity calls).taken
      (Session.after capacity calls).reassembler := by
  refine Execution.EveryStep.invariant
    (fun session : Session =>
      Sound sequence session.taken session.reassembler)
    ?_ (sound_new sequence capacity)
    (Execution.EveryStep.of_forall_mem consistent _)
  intro session call sound allowed
  cases call with
  | push order data index eof =>
      exact sound.pushSubstring
        (Nat.lt_of_le_of_lt allowed.inside short) allowed order
  | read len =>
      exact sound.readOut len

/-- A push remembers that it carried the end. -/
theorem pushSubstring_endFlag
    (order : IterationOrder)
    (data : Bytes)
    (index : Nat)
    (eof : Bool)
    (r : StreamReassembler) :
    (r.pushSubstring order data index eof).endFlag =
      (r.endFlag || eof) := by
  have recorded :
      (r.recordEnd data index eof).endFlag = (r.endFlag || eof) := by
    cases eof <;> simp [recordEnd]
  by_cases nonempty : data = []
  · rw [pushSubstring_of_empty _ _ _ _ nonempty, endIfComplete_endFlag,
      recorded]
  · rw [pushSubstring_of_nonempty _ _ _ _ nonempty,
      endIfComplete_endFlag, (assemble_frame _ _).2.1, ← recorded]
    rfl

/-- A push never takes back what was assembled. -/
theorem pushSubstring_willing_le
    (order : IterationOrder)
    (data : Bytes)
    (index : Nat)
    (eof : Bool)
    (r : StreamReassembler) :
    r.willing ≤ (r.pushSubstring order data index eof).willing := by
  by_cases nonempty : data = []
  · rw [pushSubstring_of_empty _ _ _ _ nonempty, endIfComplete_willing,
      recordEnd_willing]
  · rw [pushSubstring_of_nonempty _ _ _ _ nonempty,
      endIfComplete_willing]
    refine Nat.le_trans ?_ (assemble_willing_le order.assemblyScan _)
    rw [store_willing, recordEnd_willing]

/-- The end flag records whether any push so far carried the end. -/
theorem endFlag_after
    (capacity : Nat)
    (calls : List Op) :
    (Session.after capacity calls).reassembler.endFlag =
      calls.any Op.carriesEof := by
  have general :
      ∀ session : Session,
        (Execution.run Session.step session calls).reassembler.endFlag =
          (session.reassembler.endFlag || calls.any Op.carriesEof) := by
    induction calls with
    | nil =>
        intro session
        simp
    | cons call rest inductionHypothesis =>
        intro session
        rw [Execution.run_cons, inductionHypothesis]
        cases call with
        | push order data index eof =>
            simp [Session.step, pushSubstring_endFlag, Op.carriesEof,
              Bool.or_assoc]
        | read len =>
            simp [Session.step, readOut, Op.carriesEof]
  exact (general (Session.start capacity)).trans (by
    simp [Session.start, new])

/--
The reassembler never corrupts, reorders or invents bytes: what was read and
what is still buffered form the prefix of the sequence that was written, and
the output has ended exactly when the end was pushed and all of it is written.
-/
theorem delivers_prefix_of_sequence
    (sequence : Bytes)
    (short : sequence.length < 2 ^ 64)
    (capacity : Nat)
    (calls : List Op)
    (consistent : ∀ call ∈ calls, call.Consistent sequence) :
    let session := Session.after capacity calls
    session.reassembler.output.bytesWritten ≤ sequence.length ∧
      session.taken ++ session.reassembler.output.contents =
        sequence.take session.reassembler.output.bytesWritten ∧
      (session.reassembler.output.inputEnded = true ↔
        (∃ call ∈ calls, call.carriesEof = true) ∧
          session.reassembler.output.bytesWritten =
            sequence.length) := by
  have sound := sound_after short capacity consistent
  have written := sound.layout.written
  have flagged := endFlag_after capacity calls
  dsimp only
  simp only [ByteStream.bytesWritten, ByteStream.inputEnded, written]
  refine ⟨sound.intact.inside, sound.intact.delivered, ?_⟩
  rw [sound.ended_iff, flagged, List.any_eq_true]

/-- Two overlapping pushes out of order, with a read in between. -/
theorem delivers_prefix_of_sequence_abcd :
    let calls : List Op := [
      .push .stored [99, 100] 2 true,
      .read 1,
      .push .stored [97, 98, 99] 0 false,
      .read 3]
    let session := Session.after 8 calls
    session.taken ++ session.reassembler.output.contents =
        [97, 98, 99, 100] ∧
      session.reassembler.output.inputEnded = true := by
  have general :=
    delivers_prefix_of_sequence [97, 98, 99, 100] (by decide) 8
      [.push .stored [99, 100] 2 true,
        .read 1,
        .push .stored [97, 98, 99] 0 false,
        .read 3]
      (by
        intro call member
        simp only [List.mem_cons, List.not_mem_nil, or_false] at member
        rcases member with rfl | rfl | rfl | rfl
        · exact ⟨by decide, by decide, by decide⟩
        · trivial
        · exact ⟨by decide, by decide, by decide⟩
        · trivial)
  obtain ⟨_, delivered, ended⟩ := general
  have all :
      (Session.after 8
        [.push .stored [99, 100] 2 true,
          .read 1,
          .push .stored [97, 98, 99] 0 false,
          .read 3]).reassembler.output.bytesWritten = 4 := by
    decide
  refine ⟨?_, ?_⟩
  · rw [delivered, all]
    rfl
  · exact ended.mpr ⟨⟨_, List.mem_cons_self, rfl⟩, all⟩

end Sponge.StreamReassembler
