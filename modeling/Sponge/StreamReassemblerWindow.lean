import Sponge.StreamReassemblerExcess
import Sponge.StreamReassemblerProgress

namespace Sponge.StreamReassembler

/-!
# Keeping acceptable bytes

An index is acceptable at a push when it is not yet written and lies within the
capacity counted from the bytes read.  Assembly never drops such a byte: it
only drops what a full or ended output refuses.  Making room does, because the
shortened fragment is chosen by its key alone.  Runs in which every push
shortens a fragment only outside of the window keep every acceptable byte.
-/

/-- The indices a push removes from the examined fragment. -/
def Discards
    (order : ScanOrder Nat Bytes)
    (r : StreamReassembler)
    (data : Bytes)
    (index query : Nat) : Prop :=
  ∃ key,
    r.examinedKey order = some key ∧
      key + (r.examinedLength data index key - r.excess data index) ≤
        query ∧
      query < key + r.examinedLength data index key

/-- The call shortens a fragment, if at all, only outside of the window. -/
def KeepsWindow
    (session : Session) :
    Op → Prop
  | .push order data index _ =>
      let r := session.reassembler
      index + data.length < 2 ^ 64 ∧
        (data = [] ∨
          ∀ query,
            Discards order.keyScan r data index query →
            r.output.bytesRead + r.capacity ≤ query)
  | .read _ => True

/-- The index is assembled or stored. -/
def Retains
    (r : StreamReassembler)
    (query : Nat) : Prop :=
  query < r.willing ∨ Covers r.reassembler query

section Steps

variable {r : StreamReassembler} {query : Nat}

/-- Storing loses only the discarded indices. -/
theorem Layout.store_retains
    (layout : r.Layout)
    (order : ScanOrder Nat Bytes)
    {data : Bytes}
    {index : Nat}
    (nonempty : data ≠ [])
    (fits : index + data.length < 2 ^ 64)
    (kept : ¬ Discards order r data index query)
    (held : r.Retains query ∨ Spans index data query) :
    (r.store order data index).Retains query := by
  by_cases assembled : query < r.willing
  · exact Or.inl assembled
  have covered : Covers (r.inserted order data index) query := by
    apply (layout.inserted_covers_iff nonempty fits).mpr
    rcases held with (before | covers) | spans
    · exact (assembled before).elim
    · exact Or.inr covers
    · exact Or.inl
        ((incoming_holds_iff nonempty fits).mpr
          ⟨spans, Or.inl (Nat.le_of_not_lt assembled)⟩)
  right
  rcases layout.store_cases order nonempty fits with
    ⟨_, same⟩ | ⟨key, examined, member, shortened⟩
  · rw [same]
    exact covered
  · rw [shortened]
    apply covers_shorten covered
    rw [layout.inserted_length nonempty fits member]
    exact fun cut => kept ⟨key, examined, cut⟩

/-- A fragment is dropped only where the output refuses its bytes. -/
theorem Loose.visit_retains
    (loose : r.Loose)
    {key : Nat}
    {fragment : Bytes}
    (found : r.reassembler.lookup key = some fragment)
    (inWindow :
      key ≤ r.willing →
      Spans key fragment query →
      query < r.output.bytesR + r.capacity)
    (unended : r.output.endFlag = true → query < r.willing)
    (held : r.Retains query) :
    (r.visit ⟨key, fragment⟩).Retains query := by
  by_cases assembled : query < r.willing
  · exact Or.inl
      (Nat.lt_of_lt_of_le assembled (visit_willing_le r ⟨key, fragment⟩))
  obtain ⟨holder, bytes, stored, spans⟩ :=
    held.resolve_left assembled
  by_cases same : holder = key
  · subst holder
    have sameBytes : bytes = fragment :=
      Option.some.inj (stored.symm.trans found)
    subst bytes
    rcases visit_cases r (loose.bounded key fragment found) with
      ⟨_, same⟩ | ⟨stale, _⟩ | ⟨reached, _, wrote⟩
    · rw [same]
      exact held
    · exact (assembled (Nat.lt_of_lt_of_le spans.2 stale)).elim
    · left
      rw [wrote]
      have isOpen : r.output.endFlag = false :=
        Bool.eq_false_iff.mpr fun ended => assembled (unended ended)
      have inside := inWindow reached spans
      have accounting := loose.outputValid.accounting
      have written := loose.written
      have capacity := loose.sameCapacity
      simp only [writeFragment, ByteStream.accepted, isOpen,
        Bool.false_eq_true, ↓reduceIte, List.length_drop,
        ByteStream.remainingCapacity_of_le
          loose.outputValid.withinCapacity]
      simp only [Spans] at spans
      omega
  · right
    exact ⟨holder, bytes,
      (visit_lookup r ⟨key, fragment⟩ same).trans stored, spans⟩

theorem Loose.assemble_retains
    (loose : r.Loose)
    (order : ScanOrder Nat Bytes)
    (inWindow : query < r.output.bytesR + r.capacity)
    (unended : r.output.endFlag = true → query < r.willing)
    (held : r.Retains query) :
    (r.assemble order).Retains query := by
  have all :=
    assemble_invariant
      (fun next =>
        next.Loose ∧
          query < next.output.bytesR + next.capacity ∧
          (next.output.endFlag = true → query < next.willing) ∧
          next.Retains query)
      ?_ order ⟨loose, inWindow, unended, held⟩
  · exact all.2.2.2
  · rintro next key fragment ⟨nextLoose, inside, early, kept⟩ found
    obtain ⟨sameCapacity, _, _, sameEnd, _, sameRead⟩ :=
      visit_frame next ⟨key, fragment⟩
    refine ⟨nextLoose.visit found, ?_, ?_,
      nextLoose.visit_retains found (fun _ _ => inside) early kept⟩
    · rw [sameCapacity, sameRead]
      exact inside
    · rw [sameEnd]
      intro ended
      exact Nat.lt_of_lt_of_le (early ended)
        (visit_willing_le next ⟨key, fragment⟩)

theorem endIfComplete_retains_iff :
    r.endIfComplete.Retains query ↔ r.Retains query := by
  unfold endIfComplete
  split <;> exact Iff.rfl

/-- What a push must not discard, it keeps; what it brings, it stores. -/
theorem Sound.push_retains
    {sequence taken data : Bytes}
    {index : Nat}
    {eof : Bool}
    (sound : Sound sequence taken r)
    (fits : index + data.length < 2 ^ 64)
    (order : IterationOrder)
    (kept :
      data = [] ∨ ¬ Discards order.keyScan r data index query)
    (inWindow : query < r.output.bytesR + r.capacity)
    (inSequence : query < sequence.length)
    (held : r.Retains query ∨ Spans index data query) :
    (r.pushSubstring order data index eof).Retains query := by
  have layout := sound.layout.recordEnd data index eof
  by_cases nonempty : data = []
  · rw [pushSubstring_of_empty _ _ _ _ nonempty,
      endIfComplete_retains_iff, recordEnd_shape]
    exact held.resolve_right fun spans => spans.nonempty nonempty
  · rw [pushSubstring_of_nonempty _ _ _ _ nonempty,
      endIfComplete_retains_iff]
    -- the argument reads neither of the fields that describe the end
    rw [recordEnd_shape] at layout ⊢
    apply (layout.store nonempty fits).assemble_retains
      order.assemblyScan inWindow
    · intro ended
      change query < r.willing
      rw [(sound.ended_iff.mp ended).2]
      exact inSequence
    · exact layout.store_retains order.keyScan nonempty fits
        (kept.resolve_left nonempty) held

/-- The fragment that is shortened starts after the next index. -/
theorem Layout.not_discards_willing
    (layout : r.Layout)
    (order : ScanOrder Nat Bytes)
    (data : Bytes)
    (index : Nat) :
    ¬ Discards order r data index r.willing := by
  rintro ⟨key, examined, low, _⟩
  have member : key ∈ order.keys r.reassembler :=
    mem_sortDecreasing.mp (List.mem_of_mem_head? examined)
  obtain ⟨fragment, found⟩ :=
    Option.isSome_iff_exists.mp
      (AList.lookup_isSome.mpr (ScanOrder.mem_keys.mp member))
  have ahead := layout.settled key fragment found
  omega

/-- A substring with the next byte is taken up if the output has room. -/
theorem Sound.push_advances
    {sequence taken data : Bytes}
    {index : Nat}
    {eof : Bool}
    (sound : Sound sequence taken r)
    (fits : index + data.length < 2 ^ 64)
    (consistent : ConsistentPush sequence data index eof)
    (order : IterationOrder)
    (inWindow : r.willing < r.output.bytesR + r.capacity)
    (spans : Spans index data r.willing) :
    r.willing < (r.pushSubstring order data index eof).willing := by
  have inside := consistent.inside
  have retained :
      (r.pushSubstring order data index eof).Retains r.willing :=
    sound.push_retains fits order
      (Or.inr
        (sound.layout.not_discards_willing order.keyScan data index))
      inWindow (Nat.lt_of_lt_of_le spans.2 inside) (Or.inr spans)
  rcases retained with assembled | ⟨key, fragment, found, covers⟩
  · exact assembled
  · -- what is still stored starts after the next index, so that has moved
    have ahead :=
      (sound.pushSubstring fits consistent order).layout.settled key
        fragment found
    have kept := pushSubstring_willing_le order data index eof r
    have starts := covers.1
    omega

end Steps

/-- A retained index of the window stays retained by every guarded call. -/
theorem step_retains
    {sequence : Bytes}
    {session : Session}
    {query : Nat}
    (sound : Sound sequence session.taken session.reassembler)
    (inSequence : query < sequence.length)
    (inWindow :
      query <
        session.reassembler.output.bytesR +
          session.reassembler.capacity)
    (held : session.reassembler.Retains query)
    {call : Op}
    (consistent : call.Consistent sequence)
    (keeps : KeepsWindow session call) :
    Sound sequence (session.step call).taken
        (session.step call).reassembler ∧
      query <
        (session.step call).reassembler.output.bytesR +
          (session.step call).reassembler.capacity ∧
      (session.step call).reassembler.Retains query := by
  cases call with
  | push order data index eof =>
      obtain ⟨fits, kept⟩ := keeps
      obtain ⟨sameCapacity, sameRead⟩ :=
        pushSubstring_limits order data index eof session.reassembler
      refine ⟨sound.pushSubstring fits consistent order, ?_, ?_⟩
      · simp only [Session.step, sameCapacity, sameRead]
        exact inWindow
      · apply sound.push_retains fits order ?_ inWindow inSequence
          (Or.inl held)
        rcases kept with isEmpty | outside
        · exact Or.inl isEmpty
        · right
          intro discarded
          have beyond := outside query discarded
          simp only [ByteStream.bytesRead] at beyond
          omega
  | read len =>
      refine ⟨sound.readOut len, ?_, held⟩
      simp only [Session.step, readOut,
        sound.layout.outputValid.read_bytesR]
      omega

/-- The index is neither written yet nor outside of the window. -/
def Acceptable
    (r : StreamReassembler)
    (query : Nat) : Prop :=
  r.output.bytesWritten ≤ query ∧
    query < r.output.bytesRead + r.capacity

instance
    (r : StreamReassembler)
    (query : Nat) :
    Decidable (r.Acceptable query) :=
  inferInstanceAs (Decidable (_ ∧ _))

/--
In every run whose calls shorten fragments only outside of the window, an index
that was acceptable at a push covering it is assembled or stored ever after.
-/
theorem acceptable_index_retained
    (sequence : Bytes)
    (capacity : Nat)
    (leading trailing : List Op)
    (order : IterationOrder)
    (data : Bytes)
    (index : Nat)
    (eof : Bool)
    (consistent :
      ∀ call ∈ leading ++ .push order data index eof :: trailing,
        call.Consistent sequence)
    (keeps :
      Execution.EveryStep Session.step KeepsWindow
        (Session.start capacity)
        (leading ++ .push order data index eof :: trailing))
    (query : Nat)
    (covered : Spans index data query)
    (acceptable :
      (Session.after capacity leading).reassembler.Acceptable query) :
    let session :=
      Session.after capacity
        (leading ++ .push order data index eof :: trailing)
    query < session.reassembler.output.bytesWritten ∨
      Covers session.reassembler.reassembler query := by
  have guarded :=
    (Execution.EveryStep.of_forall_mem consistent
      (Session.start capacity)).and keeps
  obtain ⟨guardedLeading, ⟨pushConsistent, fits, kept⟩,
    guardedTrailing⟩ :=
    Execution.EveryStep.append_iff.mp guarded
  have sound :
      Sound sequence (Session.after capacity leading).taken
        (Session.after capacity leading).reassembler := by
    refine Execution.EveryStep.invariant
      (fun session : Session =>
        Sound sequence session.taken session.reassembler)
      ?_ (sound_new sequence capacity) guardedLeading
    rintro session call held ⟨callConsistent, callKeeps⟩
    cases call with
    | push order data index eof =>
        exact held.pushSubstring callKeeps.1 callConsistent order
    | read len =>
        exact held.readOut len
  have inSequence : query < sequence.length :=
    Nat.lt_of_lt_of_le covered.2 pushConsistent.inside
  obtain ⟨sameCapacity, sameRead⟩ :=
    pushSubstring_limits order data index eof
      (Session.after capacity leading).reassembler
  have brought :
      ((Session.after capacity leading).reassembler.pushSubstring
        order data index eof).Retains query := by
    apply sound.push_retains fits order ?_ acceptable.2 inSequence
      (Or.inr covered)
    rcases kept with isEmpty | outside
    · exact Or.inl isEmpty
    · exact Or.inr fun discarded =>
        Nat.not_lt.mpr (outside query discarded) acceptable.2
  have inWindow :
      query <
        ((Session.after capacity leading).reassembler.pushSubstring
            order data index eof).output.bytesR +
          ((Session.after capacity leading).reassembler.pushSubstring
            order data index eof).capacity := by
    rw [sameCapacity, sameRead]
    exact acceptable.2
  have final :=
    Execution.EveryStep.invariant
      (fun session : Session =>
        Sound sequence session.taken session.reassembler ∧
          query <
            session.reassembler.output.bytesR +
              session.reassembler.capacity ∧
          session.reassembler.Retains query)
      (fun _ _ held allowed =>
        step_retains held.1 inSequence held.2.1 held.2.2
          allowed.1 allowed.2)
      ⟨sound.pushSubstring fits pushConsistent order,
        inWindow, brought⟩
      guardedTrailing
  dsimp only
  rw [Session.after, Execution.run_append, Execution.run_cons]
  simp only [ByteStream.bytesWritten, final.1.layout.written]
  exact final.2.2

/-- A fragment beyond the window may be shortened without harm. -/
theorem acceptable_index_retained_beyond :
    let calls : List Op := [
      .push .stored [98] 1 false,
      .push .stored [101, 102] 4 false,
      .push .stored [103, 104] 6 true]
    let session := Session.after 4 calls
    1 < session.reassembler.output.bytesWritten ∨
      Covers session.reassembler.reassembler 1 := by
  refine acceptable_index_retained
    [97, 98, 99, 100, 101, 102, 103, 104] 4 []
    [.push .stored [101, 102] 4 false,
      .push .stored [103, 104] 6 true]
    .stored [98] 1 false ?_ ?_ 1 (by decide) (by decide)
  · intro call member
    simp only [List.nil_append, List.mem_cons, List.not_mem_nil,
      or_false] at member
    rcases member with rfl | rfl | rfl <;>
      exact ⟨by decide, by decide, by decide⟩
  · refine ⟨⟨by decide, Or.inr ?_⟩, ⟨by decide, Or.inr ?_⟩,
      ⟨by decide, Or.inr ?_⟩, trivial⟩
    · rintro query ⟨key, examined, _⟩
      cases examined
    · rintro query ⟨key, examined, low, high⟩
      cases examined
      exact (Nat.not_lt.mpr low high).elim
    · rintro query ⟨key, examined, low, high⟩
      cases examined
      exact Nat.le_trans (by decide) low

/--
A duplicate of assembled bytes evicts the last byte of the window: it counts
against the capacity, and the fragment ahead is shortened to make room for it.
-/
theorem duplicate_evicts_acceptable_index :
    let sequence : Bytes := [97, 98, 99, 100, 101, 102, 103, 104]
    let leading : List Op := [.push .stored [97, 98] 0 false]
    let ahead : Op := .push .stored [100, 101, 102, 103, 104] 3 true
    let duplicate : Op := .push .stored [97, 98] 0 false
    let final :=
      Session.after 8 (leading ++ ahead :: [duplicate])
    (∀ call ∈ leading ++ ahead :: [duplicate],
        call.Consistent sequence) ∧
      Spans 3 ([100, 101, 102, 103, 104] : Bytes) 7 ∧
      (Session.after 8 leading).reassembler.Acceptable 7 ∧
      ¬ (7 < final.reassembler.output.bytesWritten ∨
        Covers final.reassembler.reassembler 7) := by
  refine ⟨?_, by decide, by decide, by decide⟩
  intro call member
  simp only [List.cons_append, List.nil_append, List.mem_cons,
    List.not_mem_nil, or_false] at member
  rcases member with rfl | rfl | rfl <;>
    exact ⟨by decide, by decide, by decide⟩

end Sponge.StreamReassembler
