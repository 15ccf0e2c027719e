import Sponge.StreamReassemblerWindow

namespace Sponge.StreamReassembler

/-!
# The memory limit

Buffered and stored bytes together should not exceed the capacity.  Assembly
only moves bytes from the store to the buffer, so the limit is decided when a
push stores its substring: it is kept when the examined fragment is long enough
to give up the excess, when the substring is stale, or when the substring fills
the output, which then refuses the rest.
-/

section Counting

/-- The scan of `unassembled_bytes` counts the distinct positions. -/
theorem countPositions
    (positions : List Nat)
    (counter : Nat × List Nat)
    (counted : counter.1 = counter.2.length)
    (distinct : counter.2.Nodup) :
    (positions.foldl
        (fun (counter : Nat × List Nat) position =>
          if position ∈ counter.2 then
            counter
          else
            (counter.1 + 1, position :: counter.2))
        counter).1 =
      (positions.toFinset ∪ counter.2.toFinset).card := by
  induction positions generalizing counter with
  | nil =>
      simp [counted, List.toFinset_card_of_nodup distinct]
  | cons position rest inductionHypothesis =>
      rw [List.foldl_cons]
      split
      · rename_i seen
        rw [inductionHypothesis counter counted distinct]
        congr 1
        ext query
        simp only [Finset.mem_union, List.mem_toFinset, List.mem_cons]
        constructor
        · rintro (later | before)
          · exact Or.inl (Or.inr later)
          · exact Or.inr before
        · rintro ((rfl | later) | before)
          · exact Or.inr seen
          · exact Or.inl later
          · exact Or.inr before
      · rename_i unseen
        rw [inductionHypothesis _ (by simp [counted])
          (List.nodup_cons.mpr ⟨unseen, distinct⟩)]
        congr 1
        ext query
        simp only [Finset.mem_union, List.mem_toFinset, List.mem_cons]
        tauto

/-- The reported number of unassembled bytes is that of the stored indices. -/
theorem unassembledBytes_eq
    {r : StreamReassembler}
    (bounded : AllBounded r.reassembler) :
    r.unassembledBytes = (storedIndices r.reassembler).card := by
  unfold unassembledBytes
  dsimp only
  rw [countPositions _ _ rfl List.nodup_nil]
  congr 1
  ext query
  simp only [List.toFinset_nil, Finset.union_empty, List.mem_toFinset,
    List.mem_flatMap, List.mem_map, List.mem_range, storedIndices,
    mem_fragmentIndices]
  refine exists_congr fun entry => and_congr_right fun member => ?_
  have below :=
    (bounded entry.1 entry.2 (AList.mem_lookup_iff.mpr member)).2
  constructor
  · rintro ⟨offset, inside, rfl⟩
    rw [Nat.mod_eq_of_lt (by omega)]
    exact ⟨by omega, by omega⟩
  · rintro ⟨low, high⟩
    refine ⟨query - entry.1, by omega, ?_⟩
    rw [Nat.mod_eq_of_lt (by omega)]
    omega

end Counting

section Assembly

/-- The stored indices that are still to be assembled. -/
def waiting (r : StreamReassembler) : Finset Nat :=
  (storedIndices r.reassembler).filter (r.willing ≤ ·)

theorem mem_waiting
    {r : StreamReassembler}
    {query : Nat} :
    query ∈ r.waiting ↔
      Covers r.reassembler query ∧ r.willing ≤ query := by
  rw [waiting, Finset.mem_filter, mem_storedIndices]

/-- Nothing becomes covered by a visit. -/
theorem covers_of_visit
    {r : StreamReassembler}
    {element : Sigma fun _ : Nat => Bytes}
    {query : Nat}
    (covers : Covers (visit r element).reassembler query) :
    Covers r.reassembler query := by
  obtain ⟨key, fragment, found, spans⟩ := covers
  exact ⟨key, fragment, lookup_of_visit r element found, spans⟩

/-- A written byte was waiting before, so the sum does not grow. -/
theorem Loose.visit_held
    {r : StreamReassembler}
    (loose : r.Loose)
    {key : Nat}
    {fragment : Bytes}
    (found : r.reassembler.lookup key = some fragment) :
    (r.visit ⟨key, fragment⟩).output.bufferSize +
        (r.visit ⟨key, fragment⟩).waiting.card ≤
      r.output.bufferSize + r.waiting.card := by
  have fewer :
      ∀ query,
        query ∈ (r.visit ⟨key, fragment⟩).waiting →
        query ∈ r.waiting := by
    intro query member
    obtain ⟨covers, ahead⟩ := mem_waiting.mp member
    exact mem_waiting.mpr ⟨covers_of_visit covers,
      Nat.le_trans (visit_willing_le r ⟨key, fragment⟩) ahead⟩
  rcases visit_cases r (loose.bounded key fragment found) with
    ⟨_, same⟩ | ⟨_, erased⟩ | ⟨reached, _, wrote⟩
  · rw [same]
  · have sameOutput :
        (r.visit ⟨key, fragment⟩).output = r.output := by
      rw [erased]
    rw [sameOutput]
    exact Nat.add_le_add_left (Finset.card_le_card fewer) _
  · have accepted :=
      ByteStream.accepted_le_length
        (fragment.drop (r.willing - key)) r.output
    rw [List.length_drop] at accepted
    have moved :
        (r.visit ⟨key, fragment⟩).willing =
          r.willing +
            r.output.accepted (fragment.drop (r.willing - key)) := by
      rw [wrote]
      rfl
    have grown :
        (r.visit ⟨key, fragment⟩).output.bufferSize =
          r.output.bufferSize +
            r.output.accepted (fragment.drop (r.willing - key)) := by
      rw [wrote]
      exact ByteStream.write_size _ _
    -- the written indices were waiting and are no longer
    have disjoint :
        Disjoint
          (Finset.Ico r.willing (r.visit ⟨key, fragment⟩).willing)
          (r.visit ⟨key, fragment⟩).waiting := by
      rw [Finset.disjoint_left]
      intro query written member
      have ahead := (mem_waiting.mp member).2
      rw [Finset.mem_Ico] at written
      omega
    have included :
        Finset.Ico r.willing (r.visit ⟨key, fragment⟩).willing ∪
            (r.visit ⟨key, fragment⟩).waiting ⊆
          r.waiting := by
      intro query member
      rcases Finset.mem_union.mp member with written | later
      · rw [Finset.mem_Ico] at written
        refine mem_waiting.mpr ⟨⟨key, fragment, found, ?_⟩, written.1⟩
        exact ⟨by omega, by omega⟩
      · exact fewer query later
    have counted := Finset.card_le_card included
    rw [Finset.card_union_of_disjoint disjoint, Nat.card_Ico] at counted
    omega

/-- Assembly does not make the buffered and waiting bytes more. -/
theorem Loose.assemble_held
    {r : StreamReassembler}
    (loose : r.Loose)
    (order : ScanOrder Nat Bytes) :
    (r.assemble order).output.bufferSize +
        (storedIndices (r.assemble order).reassembler).card ≤
      r.output.bufferSize + r.waiting.card := by
  have both :=
    assemble_invariant
      (fun next =>
        next.Loose ∧
          next.output.bufferSize + next.waiting.card ≤
            r.output.bufferSize + r.waiting.card)
      (fun _ _ _ held found =>
        ⟨held.1.visit found,
          Nat.le_trans (held.1.visit_held found) held.2⟩)
      order ⟨loose, Nat.le_refl _⟩
  have settled : (r.assemble order).Settled := assemble_settled order r
  -- what is left is all ahead of the stream
  have all :
      (r.assemble order).waiting =
        storedIndices (r.assemble order).reassembler := by
    ext query
    rw [mem_waiting, mem_storedIndices]
    refine ⟨And.left, fun covers => ⟨covers, ?_⟩⟩
    obtain ⟨key, fragment, found, spans⟩ := covers
    exact Nat.le_trans (Nat.le_of_lt (settled key fragment found)) spans.1
  rw [← all]
  exact both.2

/-- Assembly adds no fragment. -/
theorem lookup_of_assemble
    {r : StreamReassembler}
    {order : ScanOrder Nat Bytes}
    {key : Nat}
    {fragment : Bytes}
    (found : (r.assemble order).reassembler.lookup key = some fragment) :
    r.reassembler.lookup key = some fragment := by
  have within :=
    assemble_invariant
      (fun next => Within next.reassembler r.reassembler)
      (fun next key fragment held _ query bytes left =>
        held query bytes (lookup_of_visit next ⟨key, fragment⟩ left))
      order (fun _ _ same => same)
  exact within key fragment found

end Assembly

section Limits

variable (order : ScanOrder Nat Bytes)
variable (r : StreamReassembler) (data : Bytes) (index : Nat)

/-- The number of bytes the examined fragment can give up. -/
def examinedRoom : Nat :=
  match r.examinedKey order with
  | none => 0
  | some key => r.examinedLength data index key

/-- The substring completes the window and no fragment lies beyond it. -/
structure FillsWindow : Prop where
  unended : r.output.inputEnded = false
  starts :
    (r.incoming data index).copyIndex ≤
      r.output.bytesRead + r.capacity
  complete :
    ∀ query,
      r.willing ≤ query →
      query < r.output.bytesRead + r.capacity →
      ((r.incoming data index).Holds query ∨
          Covers r.reassembler query) ∧
        ¬ Discards order r data index query
  nothingBeyond :
    ∀ key fragment,
      r.reassembler.lookup key = some fragment →
      fragment ≠ [] →
      r.output.bytesRead + r.capacity < key →
      Touches (r.incoming data index) key fragment

/-- The substring is stale, or its excess can be removed or is refused. -/
def ExcessRemoved : Prop :=
  index + data.length ≤ r.output.bytesWritten ∨
    r.excess data index ≤ r.examinedRoom order data index ∨
    FillsWindow order r data index

end Limits

section Push

variable {order : ScanOrder Nat Bytes}
variable {r : StreamReassembler} {data : Bytes} {index : Nat}

/-- An excess the examined fragment can give up is removed. -/
theorem Layout.store_within
    (layout : r.Layout)
    (nonempty : data ≠ [])
    (fits : index + data.length < 2 ^ 64)
    (removable : r.excess data index ≤ r.examinedRoom order data index) :
    r.output.bufferSize +
        (storedIndices (r.store order data index).reassembler).card ≤
      r.capacity := by
  have stored : (r.store order data index).Loose :=
    layout.store nonempty fits
  rw [stored.separated.card_storedIndices]
  have total :
      r.excess data index =
        r.output.bufferSize +
            totalLength (r.inserted order data index) -
          r.capacity := by
    rw [excess, layout.totalLength_inserted nonempty fits]
  rcases layout.store_cases order nonempty fits with
    ⟨nothing, same⟩ | ⟨key, examined, member, shortened⟩
  · rw [same]
    have zero : r.excess data index = 0 := by
      rcases nothing with zero | absent
      · exact zero
      · rw [examinedRoom, absent] at removable
        exact Nat.le_zero.mp removable
    omega
  · rw [shortened]
    rw [examinedRoom, examined] at removable
    dsimp only at removable
    have cut :=
      totalLength_shorten (r.inserted order data index) key
        (r.examinedLength data index key - r.excess data index)
    rw [layout.inserted_length nonempty fits member] at cut
    omega

/-- Only indices that were stored or pushed are stored. -/
theorem Loose.covers_of_store
    (loose : r.Loose)
    (nonempty : data ≠ [])
    (fits : index + data.length < 2 ^ 64)
    {query : Nat}
    (covers : Covers (r.store order data index).reassembler query) :
    (r.incoming data index).Holds query ∨
      Covers r.reassembler query := by
  apply (loose.inserted_covers_iff nonempty fits).mp
  rcases loose.store_cases order nonempty fits with
    ⟨_, same⟩ | ⟨key, _, _, shortened⟩
  · rwa [same] at covers
  · rw [shortened] at covers
    exact covers_of_shorten covers

/-- A stale substring adds nothing that is still to be assembled. -/
theorem Layout.stale_waiting
    (layout : r.Layout)
    (order : ScanOrder Nat Bytes)
    (nonempty : data ≠ [])
    (fits : index + data.length < 2 ^ 64)
    (stale : index + data.length ≤ r.willing) :
    (r.store order data index).waiting ⊆
      storedIndices r.reassembler := by
  intro query member
  obtain ⟨covers, ahead⟩ := mem_waiting.mp member
  rw [mem_storedIndices]
  apply (layout.covers_of_store nonempty fits covers).resolve_left
  intro held
  have inside := ((incoming_holds_iff nonempty fits).mp held).1.2
  rw [store_willing] at ahead
  omega

/-- A fragment that starts beyond the merged substring was stored before. -/
theorem Loose.lookup_of_store
    (loose : r.Loose)
    (nonempty : data ≠ [])
    (fits : index + data.length < 2 ^ 64)
    {key : Nat}
    {fragment : Bytes}
    (found :
      (r.store order data index).reassembler.lookup key =
        some fragment)
    (stored : fragment ≠ [])
    (beyond : (r.incoming data index).copyIndex < key) :
    ∃ original,
      r.reassembler.lookup key = some original ∧
        original ≠ [] ∧
        ¬ Touches (r.incoming data index) key original := by
  obtain ⟨original, inserted, longer⟩ :
      ∃ original,
        (r.inserted order data index).lookup key = some original ∧
          fragment.length ≤ original.length := by
    rcases loose.store_cases order nonempty fits with
      ⟨_, same⟩ | ⟨examined, _, _, shortened⟩
    · exact ⟨fragment, by rw [← same]; exact found, Nat.le_refl _⟩
    · rw [shortened] at found
      exact lookup_of_shorten found stored
  have originalNonempty : original ≠ [] := by
    have positive := List.length_pos_iff.mpr stored
    exact List.length_pos_iff.mp (by omega)
  have start := (loose.mergedPending_range order nonempty fits).1
  have below :=
    (le_hullStart_iff.mp (Nat.le_refl (r.mergedStart data index))).1
  have merged : Merged _ _ (r.mergedPending order data index) :=
    loose.merged nonempty fits
  rcases UnorderedMap.lookup_insert_eq_some.mp inserted with
    ⟨atStart, _⟩ | ⟨_, left⟩
  · omega
  · have before := merged.lookup_of_after key original left
    refine ⟨original, before, originalNonempty, ?_⟩
    intro touches
    have gone :=
      (loose.absorbed_iff order nonempty fits before
        originalNonempty).mpr touches
    rw [gone] at left
    cases left

/-- When the window is filled, the output takes it all and nothing is left. -/
theorem Layout.fills_within
    (layout : r.Layout)
    (nonempty : data ≠ [])
    (fits : index + data.length < 2 ^ 64)
    (fills : FillsWindow order r data index)
    (scan : ScanOrder Nat Bytes) :
    ((r.store order data index).assemble scan).output.bufferSize +
        (storedIndices
          ((r.store order data index).assemble scan).reassembler).card ≤
      r.capacity := by
  have loose : (r.store order data index).Loose :=
    layout.store nonempty fits
  have assembled := loose.assemble scan
  obtain ⟨sameCapacity, _, _, _, _, sameRead⟩ :=
    assemble_frame scan (r.store order data index)
  rw [store_capacity] at sameCapacity
  rw [store_output] at sameRead
  have window :
      r.output.bytesR + r.capacity ≤
        ((r.store order data index).assemble scan).willing := by
    by_contra short
    have progress :=
      assemble_willing_le scan (r.store order data index)
    rw [store_willing] at progress
    obtain ⟨held, kept⟩ :=
      fills.complete _ progress (Nat.lt_of_not_le short)
    have stored :=
      layout.store_retains order nonempty fits kept
        (held.symm.imp Or.inr fun holds =>
          ((incoming_holds_iff nonempty fits).mp holds).1)
    have isOpen := fills.unended
    have retained :=
      loose.assemble_retains scan
        (Nat.lt_of_not_le short)
        (fun ended => by
          rw [store_output] at ended
          rw [ByteStream.inputEnded, ended] at isOpen
          cases isOpen)
        stored
    rcases retained with assembledBefore | ⟨key, fragment, found, spans⟩
    · exact Nat.lt_irrefl _ assembledBefore
    · exact Nat.not_lt.mpr spans.1 (assembled.settled key fragment found)
  have accounting := assembled.outputValid.accounting
  have bound := assembled.outputValid.withinCapacity
  have written := assembled.written
  have sameLimit := assembled.sameCapacity
  have nothing :
      storedIndices
          ((r.store order data index).assemble scan).reassembler =
        ∅ := by
    rw [Finset.eq_empty_iff_forall_notMem]
    intro query member
    obtain ⟨key, fragment, found, spans⟩ := mem_storedIndices.mp member
    have ahead := assembled.settled key fragment found
    have starts := fills.starts
    simp only [ByteStream.bytesRead] at starts
    obtain ⟨original, before, stored, apart⟩ :=
      layout.lookup_of_store nonempty fits
        (lookup_of_assemble found) spans.nonempty (by omega)
    apply apart
    apply fills.nothingBeyond key original before stored
    simp only [ByteStream.bytesRead]
    omega
  rw [nothing, Finset.card_empty]
  simp only [ByteStream.bufferSize]
  omega

/-- Every allowed substring leaves the memory limit intact. -/
theorem Layout.assemble_within
    (layout : r.Layout)
    (nonempty : data ≠ [])
    (fits : index + data.length < 2 ^ 64)
    (removed : ExcessRemoved order r data index)
    (within :
      r.output.bufferSize + (storedIndices r.reassembler).card ≤
        r.capacity)
    (scan : ScanOrder Nat Bytes) :
    ((r.store order data index).assemble scan).output.bufferSize +
        (storedIndices
          ((r.store order data index).assemble scan).reassembler).card ≤
      r.capacity := by
  have loose : (r.store order data index).Loose :=
    layout.store nonempty fits
  have held := loose.assemble_held scan
  rw [store_output] at held
  rcases removed with stale | removable | fills
  · rw [ByteStream.bytesWritten, layout.written] at stale
    have fewer :=
      Finset.card_le_card
        (layout.stale_waiting order nonempty fits stale)
    omega
  · have stored := layout.store_within nonempty fits removable
    have fewer :=
      Finset.card_le_card
        (Finset.filter_subset
          ((r.store order data index).willing ≤ ·)
          (storedIndices (r.store order data index).reassembler))
    change (r.store order data index).waiting.card ≤ _ at fewer
    omega
  · exact layout.fills_within nonempty fits fills scan

/-- The recorded end is read by none of the conditions. -/
theorem ExcessRemoved.withEnd
    (removed : ExcessRemoved order r data index)
    (endFlag : Bool)
    (totalWrite : Nat) :
    ExcessRemoved order
      { r with endFlag := endFlag, totalWrite := totalWrite }
      data index := by
  rcases removed with stale | removable | fills
  · exact Or.inl stale
  · exact Or.inr (Or.inl removable)
  · exact Or.inr (Or.inr
      ⟨fills.unended, fills.starts, fills.complete,
        fills.nothingBeyond⟩)

theorem Layout.push_within
    (layout : r.Layout)
    (fits : index + data.length < 2 ^ 64)
    (scans : IterationOrder)
    (eof : Bool)
    (allowed : data = [] ∨ ExcessRemoved scans.keyScan r data index)
    (within :
      r.output.bufferSize + (storedIndices r.reassembler).card ≤
        r.capacity) :
    (r.pushSubstring scans data index eof).output.bufferSize +
        (storedIndices
          (r.pushSubstring scans data index eof).reassembler).card ≤
      r.capacity := by
  have recorded := layout.recordEnd data index eof
  by_cases nonempty : data = []
  · rw [pushSubstring_of_empty _ _ _ _ nonempty,
      endIfComplete_bufferSize, endIfComplete_reassembler,
      recordEnd_shape]
    exact within
  · rw [pushSubstring_of_nonempty _ _ _ _ nonempty,
      endIfComplete_bufferSize, endIfComplete_reassembler]
    rw [recordEnd_shape] at recorded ⊢
    exact recorded.assemble_within nonempty fits
      ((allowed.resolve_left nonempty).withEnd _ _) within
      scans.assemblyScan

end Push

/-- The push has an excess that is removed or refused; reads are free. -/
def WithinLimit
    (session : Session) :
    Op → Prop
  | .push order data index _ =>
      index + data.length < 2 ^ 64 ∧
        (data = [] ∨
          ExcessRemoved order.keyScan session.reassembler data index)
  | .read _ => True

/-- One call within the limit keeps the limit. -/
theorem step_within
    {capacity : Nat}
    {session : Session}
    (layout : session.reassembler.Layout)
    (limit : session.reassembler.capacity = capacity)
    (within :
      session.reassembler.output.bufferSize +
          (storedIndices session.reassembler.reassembler).card ≤
        capacity)
    {call : Op}
    (allowed : WithinLimit session call) :
    (session.step call).reassembler.Layout ∧
      (session.step call).reassembler.capacity = capacity ∧
      (session.step call).reassembler.output.bufferSize +
          (storedIndices
            (session.step call).reassembler.reassembler).card ≤
        capacity := by
  subst capacity
  cases call with
  | push order data index eof =>
      exact ⟨layout.pushSubstring allowed.1 order eof,
        (pushSubstring_limits order data index eof _).1,
        layout.push_within allowed.1 order eof allowed.2 within⟩
  | read len =>
      refine ⟨layout.readOut len, rfl, ?_⟩
      have shrinks :
          (session.step (.read len)).reassembler.output.bufferSize ≤
            session.reassembler.output.bufferSize := by
        simp only [Session.step, readOut, ByteStream.bufferSize,
          layout.outputValid.read_size]
        exact Nat.sub_le _ _
      exact Nat.le_trans (Nat.add_le_add_right shrinks _) within

/--
In every run whose pushes meet `WithinLimit`, buffered and unassembled bytes
together never exceed the capacity.
-/
theorem held_bytes_within_capacity
    (capacity : Nat)
    (calls : List Op)
    (limited :
      Execution.EveryStep Session.step WithinLimit
        (Session.start capacity) calls) :
    let session := Session.after capacity calls
    session.reassembler.output.bufferSize +
        session.reassembler.unassembledBytes ≤
      capacity := by
  have initially :
      (new capacity).output.bufferSize +
          (storedIndices (new capacity).reassembler).card ≤
        capacity :=
    Nat.zero_le capacity
  obtain ⟨layout, _, within⟩ :=
    Execution.EveryStep.invariant
      (fun session : Session =>
        session.reassembler.Layout ∧
          session.reassembler.capacity = capacity ∧
          session.reassembler.output.bufferSize +
              (storedIndices session.reassembler.reassembler).card ≤
            capacity)
      (fun _ _ held allowed =>
        step_within held.1 held.2.1 held.2.2 allowed)
      ⟨layout_new capacity, rfl, initially⟩
      limited
  dsimp only [Session.after]
  rw [unassembledBytes_eq layout.bounded]
  exact within

/-- A fragment ahead is shortened twice to make room for earlier bytes. -/
theorem held_bytes_within_capacity_shortened :
    let calls : List Op := [
      .push .stored [100, 101] 3 false,
      .push .stored [98, 99] 1 false,
      .push .stored [97] 0 false,
      .read 2]
    let session := Session.after 3 calls
    session.reassembler.output.bufferSize +
        session.reassembler.unassembledBytes ≤
      3 := by
  apply held_bytes_within_capacity
  exact ⟨⟨by decide, Or.inr (Or.inr (Or.inl (by decide)))⟩,
    ⟨by decide, Or.inr (Or.inr (Or.inl (by decide)))⟩,
    ⟨by decide, Or.inr (Or.inr (Or.inl (by decide)))⟩,
    trivial, trivial⟩

/-- A single substring ahead of the stream is stored whatever its length. -/
theorem first_fragment_exceeds_capacity :
    let calls : List Op := [.push .stored [98, 99, 100] 1 false]
    let session := Session.after 2 calls
    ¬ session.reassembler.output.bufferSize +
        session.reassembler.unassembledBytes ≤
      2 := by
  decide

end Sponge.StreamReassembler
