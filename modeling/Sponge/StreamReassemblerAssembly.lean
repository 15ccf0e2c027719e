import Sponge.StreamReassembler

namespace Sponge.StreamReassembler

/-!
# The assembly loop

`visit_cases` says once what visiting a fragment can do.  Properties of the
whole assembly follow from it through `assemble_invariant`.  `assemble_exits`
shows that the loop stops by its own test, and `assemble_settled` that what is
left then starts strictly after the next index to assemble.
-/

/-- Without wraparound the last index is the end minus one. -/
theorem lastIndex_eq
    {index size : Nat}
    (positive : 0 < index + size)
    (fits : index + size < 2 ^ 64) :
    lastIndex index size = index + size - 1 := by
  rw [lastIndex, Nat.mod_eq_of_lt fits, sub64_of_le (by omega)]

/-- The fragment does not run past the last 64-bit index. -/
def Bounded
    (key : Nat)
    (fragment : Bytes) : Prop :=
  0 < key + fragment.length ∧ key + fragment.length < 2 ^ 64

/-- What erasing and writing one fragment leaves. -/
def writeFragment
    (r : StreamReassembler)
    (key : Nat)
    (fragment : Bytes) : StreamReassembler :=
  let tempStr := fragment.drop (r.willing - key)
  { r with
    reassembler := r.reassembler.erase key
    output := (r.output.write tempStr).2
    willing := r.willing + r.output.accepted tempStr
    bytesWrited := r.bytesWrited + r.output.accepted tempStr }

/-- A fragment ahead of the stream is left, a stale one erased, others written. -/
theorem visit_cases
    (r : StreamReassembler)
    {key : Nat}
    {fragment : Bytes}
    (bounded : Bounded key fragment) :
    (r.willing < key ∧ visit r ⟨key, fragment⟩ = r) ∨
      (key + fragment.length ≤ r.willing ∧
        visit r ⟨key, fragment⟩ =
          { r with reassembler := r.reassembler.erase key }) ∨
      (key ≤ r.willing ∧
        r.willing < key + fragment.length ∧
        visit r ⟨key, fragment⟩ = r.writeFragment key fragment) := by
  have last := lastIndex_eq bounded.1 bounded.2
  by_cases ahead : r.willing < key
  · exact Or.inl ⟨ahead, by simp [visit, ahead]⟩
  · by_cases stale : key + fragment.length ≤ r.willing
    · have before : lastIndex key fragment.length < r.willing := by
        have positive := bounded.1
        omega
      exact Or.inr (Or.inl ⟨stale, by simp [visit, ahead, before]⟩)
    · have reaches : ¬ lastIndex key fragment.length < r.willing := by
        omega
      refine Or.inr (Or.inr ⟨by omega, by omega, ?_⟩)
      simp only [visit, gt_iff_lt, ahead, ↓reduceIte, reaches,
        ByteStream.write_fst, writeFragment]

section Frame

variable (r : StreamReassembler) (element : Sigma fun _ : Nat => Bytes)

/-- Visiting changes neither the limits nor the recorded end. -/
theorem visit_frame :
    (visit r element).capacity = r.capacity ∧
      (visit r element).endFlag = r.endFlag ∧
      (visit r element).totalWrite = r.totalWrite ∧
      (visit r element).output.endFlag = r.output.endFlag ∧
      (visit r element).output.mCapacity = r.output.mCapacity ∧
      (visit r element).output.bytesR = r.output.bytesR := by
  unfold visit
  split
  · simp
  · dsimp only
    split <;> simp

theorem visit_willing_le :
    r.willing ≤ (visit r element).willing := by
  unfold visit
  split
  · exact Nat.le_refl _
  · dsimp only
    split
    · exact Nat.le_refl _
    · exact Nat.le_add_right _ _

/-- A visit removes at most the visited key. -/
theorem visit_lookup
    {key : Nat}
    (other : key ≠ element.1) :
    (visit r element).reassembler.lookup key =
      r.reassembler.lookup key := by
  unfold visit
  split
  · rfl
  · dsimp only
    split <;> exact AList.lookup_erase_ne other

/-- A visited fragment that was not ahead of the stream is gone. -/
theorem visit_lookup_self
    (reached : element.1 ≤ r.willing) :
    (visit r element).reassembler.lookup element.1 = none := by
  unfold visit
  rw [if_neg (by omega)]
  dsimp only
  split <;> simp

/-- Nothing is added to the map by a visit. -/
theorem lookup_of_visit
    {key : Nat}
    {fragment : Bytes}
    (found : (visit r element).reassembler.lookup key = some fragment) :
    r.reassembler.lookup key = some fragment := by
  by_cases same : key = element.1
  · subst key
    by_cases reached : element.1 ≤ r.willing
    · rw [visit_lookup_self r element reached] at found
      cases found
    · rw [visit, if_pos (by omega)] at found
      exact found
  · rwa [visit_lookup r element same] at found

end Frame

section Passes

/-- The elements still to be visited are all stored, each under its own key. -/
def Stored
    (r : StreamReassembler)
    (elements : List (Sigma fun _ : Nat => Bytes)) : Prop :=
  (elements.map Sigma.fst).Nodup ∧
    ∀ element ∈ elements,
      r.reassembler.lookup element.1 = some element.2

theorem stored_arrange
    (order : ScanOrder Nat Bytes)
    (r : StreamReassembler) :
    Stored r (order.arrange r.reassembler) :=
  ⟨order.nodup_keys r.reassembler,
    fun _ member => ScanOrder.mem_arrange.mp member⟩

/-- Visiting the first element leaves the others stored. -/
theorem Stored.visit
    {r : StreamReassembler}
    {element : Sigma fun _ : Nat => Bytes}
    {rest : List (Sigma fun _ : Nat => Bytes)}
    (stored : Stored r (element :: rest)) :
    Stored (r.visit element) rest := by
  obtain ⟨distinct, present⟩ := stored
  rw [List.map_cons, List.nodup_cons] at distinct
  refine ⟨distinct.2, ?_⟩
  intro later member
  have different : later.1 ≠ element.1 := by
    intro same
    exact distinct.1
      (same ▸ List.mem_map_of_mem member)
  rw [visit_lookup r element different]
  exact present later (List.mem_cons_of_mem _ member)

/-- A turn that goes on is a pass that wrote. -/
theorem assemblyRound_inl
    {order : ScanOrder Nat Bytes}
    {r next : StreamReassembler}
    (goesOn : assemblyRound order r = .inl next) :
    next = assemblePass order r ∧ r.willing ≠ next.willing := by
  unfold assemblyRound at goesOn
  dsimp only at goesOn
  split at goesOn
  · cases goesOn
  · rename_i wrote
    cases goesOn
    exact ⟨rfl, wrote⟩

/-- A turn that leaves is a pass that wrote nothing. -/
theorem assemblyRound_inr
    {order : ScanOrder Nat Bytes}
    {r result : StreamReassembler}
    (left : assemblyRound order r = .inr result) :
    result = assemblePass order r ∧ r.willing = result.willing := by
  unfold assemblyRound at left
  dsimp only at left
  split at left
  · rename_i idle
    cases left
    exact ⟨rfl, idle⟩
  · cases left

variable (holds : StreamReassembler → Prop)

/-- What every visit of a stored fragment preserves, a pass preserves. -/
theorem visitAll_invariant
    (preserved :
      ∀ r key fragment,
        holds r →
        r.reassembler.lookup key = some fragment →
        holds (visit r ⟨key, fragment⟩))
    {elements : List (Sigma fun _ : Nat => Bytes)}
    {r : StreamReassembler}
    (stored : Stored r elements)
    (initially : holds r) :
    holds (elements.foldl visit r) := by
  induction elements generalizing r with
  | nil =>
      exact initially
  | cons element rest inductionHypothesis =>
      apply inductionHypothesis stored.visit
      exact preserved r element.1 element.2 initially
        (stored.2 element (by simp))

theorem assembleLoop_invariant
    (preserved :
      ∀ r key fragment,
        holds r →
        r.reassembler.lookup key = some fragment →
        holds (visit r ⟨key, fragment⟩))
    (order : ScanOrder Nat Bytes)
    (fuel : Nat)
    {r : StreamReassembler}
    (initially : holds r) :
    holds (assembleLoop order fuel r) := by
  have pass :
      ∀ s, holds s → holds (assemblePass order s) := fun s held =>
    visitAll_invariant holds preserved (stored_arrange order s) held
  refine Execution.iterate_invariant holds holds ?_ ?_
    (fun _ held => held) fuel initially
  · intro s next held goesOn
    rw [(assemblyRound_inl goesOn).1]
    exact pass s held
  · intro s result held left
    rw [(assemblyRound_inr left).1]
    exact pass s held

/-- What every visit of a stored fragment preserves, assembly preserves. -/
theorem assemble_invariant
    (preserved :
      ∀ r key fragment,
        holds r →
        r.reassembler.lookup key = some fragment →
        holds (visit r ⟨key, fragment⟩))
    (order : ScanOrder Nat Bytes)
    {r : StreamReassembler}
    (initially : holds r) :
    holds (assemble order r) :=
  assembleLoop_invariant holds preserved order _ initially

/-- Assembly changes neither the limits nor the recorded end. -/
theorem assemble_frame
    (order : ScanOrder Nat Bytes)
    (r : StreamReassembler) :
    (assemble order r).capacity = r.capacity ∧
      (assemble order r).endFlag = r.endFlag ∧
      (assemble order r).totalWrite = r.totalWrite ∧
      (assemble order r).output.endFlag = r.output.endFlag ∧
      (assemble order r).output.mCapacity = r.output.mCapacity ∧
      (assemble order r).output.bytesR = r.output.bytesR := by
  refine assemble_invariant
    (fun next =>
      next.capacity = r.capacity ∧
        next.endFlag = r.endFlag ∧
        next.totalWrite = r.totalWrite ∧
        next.output.endFlag = r.output.endFlag ∧
        next.output.mCapacity = r.output.mCapacity ∧
        next.output.bytesR = r.output.bytesR)
    ?_ order ⟨rfl, rfl, rfl, rfl, rfl, rfl⟩
  intro next key fragment held _
  have frame := visit_frame next ⟨key, fragment⟩
  exact ⟨frame.1.trans held.1,
    frame.2.1.trans held.2.1,
    frame.2.2.1.trans held.2.2.1,
    frame.2.2.2.1.trans held.2.2.2.1,
    frame.2.2.2.2.1.trans held.2.2.2.2.1,
    frame.2.2.2.2.2.trans held.2.2.2.2.2⟩

/-- The next index to assemble never moves back. -/
theorem assemble_willing_le
    (order : ScanOrder Nat Bytes)
    (r : StreamReassembler) :
    r.willing ≤ (assemble order r).willing := by
  refine assemble_invariant
    (fun next => r.willing ≤ next.willing)
    ?_ order (Nat.le_refl _)
  intro next key fragment held _
  exact Nat.le_trans held (visit_willing_le next ⟨key, fragment⟩)

end Passes

section Termination

/-- Every stored fragment starts after the next index to assemble. -/
def Settled (r : StreamReassembler) : Prop :=
  ∀ key fragment,
    r.reassembler.lookup key = some fragment →
    r.willing < key

theorem lookup_of_visitAll
    {elements : List (Sigma fun _ : Nat => Bytes)}
    {r : StreamReassembler}
    {key : Nat}
    {fragment : Bytes}
    (found :
      (elements.foldl visit r).reassembler.lookup key = some fragment) :
    r.reassembler.lookup key = some fragment := by
  induction elements generalizing r with
  | nil =>
      exact found
  | cons element rest inductionHypothesis =>
      exact lookup_of_visit r element (inductionHypothesis found)

/-- A fragment that survives its visit was ahead of the stream. -/
theorem willing_lt_of_survives
    {elements : List (Sigma fun _ : Nat => Bytes)}
    {r : StreamReassembler}
    {key : Nat}
    {fragment : Bytes}
    (member : key ∈ elements.map Sigma.fst)
    (found :
      (elements.foldl visit r).reassembler.lookup key = some fragment) :
    r.willing < key := by
  induction elements generalizing r with
  | nil =>
      simp at member
  | cons element rest inductionHypothesis =>
      rcases List.mem_cons.mp member with isHead | inRest
      · subst key
        by_contra notAhead
        rw [List.foldl_cons] at found
        have survives := lookup_of_visitAll found
        rw [visit_lookup_self r element (by omega)] at survives
        cases survives
      · exact Nat.lt_of_le_of_lt (visit_willing_le r element)
          (inductionHypothesis inRest found)

/-- A pass that writes nothing leaves only fragments ahead of the stream. -/
theorem assemblePass_settled
    {order : ScanOrder Nat Bytes}
    {r : StreamReassembler}
    (idle : r.willing = (assemblePass order r).willing) :
    (assemblePass order r).Settled := by
  intro key fragment found
  have before : r.reassembler.lookup key = some fragment :=
    lookup_of_visitAll found
  have visited : key ∈ order.keys r.reassembler := by
    rw [ScanOrder.mem_keys, ← AList.lookup_isSome, before]
    rfl
  rw [← idle]
  exact willing_lt_of_survives visited found

/-- Visiting never adds an entry, and writing removes the visited one. -/
theorem visit_entries_length
    {r : StreamReassembler}
    {element : Sigma fun _ : Nat => Bytes}
    (present : r.reassembler.lookup element.1 = some element.2) :
    visit r element = r ∨
      (visit r element).reassembler.entries.length <
        r.reassembler.entries.length := by
  by_cases ahead : element.1 > r.willing
  · exact Or.inl (by rw [visit, if_pos ahead])
  · right
    have shrinks :
        (r.reassembler.erase element.1).entries.length <
          r.reassembler.entries.length := by
      have member : element.1 ∈ r.reassembler.keys := by
        rw [← AList.mem_keys, ← AList.lookup_isSome, present]
        rfl
      have keyCount := List.length_erase_of_mem member
      rw [← AList.keys_erase] at keyCount
      have positive := List.length_pos_of_mem member
      simp only [AList.keys, List.keys, List.length_map] at keyCount positive
      omega
    unfold visit
    rw [if_neg ahead]
    dsimp only
    split <;> exact shrinks

theorem visitAll_entries_length
    {elements : List (Sigma fun _ : Nat => Bytes)}
    {r : StreamReassembler}
    (stored : Stored r elements) :
    elements.foldl visit r = r ∨
      (elements.foldl visit r).reassembler.entries.length <
        r.reassembler.entries.length := by
  induction elements generalizing r with
  | nil =>
      exact Or.inl rfl
  | cons element rest inductionHypothesis =>
      have present := stored.2 element (by simp)
      rcases inductionHypothesis stored.visit with unchanged | fewer
      · rw [List.foldl_cons, unchanged]
        exact visit_entries_length present
      · right
        rcases visit_entries_length present with same | fewerFirst
        · rw [List.foldl_cons]
          rwa [same] at fewer ⊢
        · exact Nat.lt_trans fewer fewerFirst

/-- With more turns than fragments the loop stops by its own test. -/
theorem assembleLoop_exits
    {order : ScanOrder Nat Bytes}
    {fuel : Nat}
    {r : StreamReassembler}
    (enough : r.reassembler.entries.length < fuel) :
    Execution.Exits (assemblyRound order) r
      (assembleLoop order fuel r) := by
  refine Execution.exits_iterate (fun _ => True)
    (fun s => s.reassembler.entries.length) ?_ trivial enough
  intro s next _ goesOn
  obtain ⟨rfl, progressed⟩ := assemblyRound_inl goesOn
  refine ⟨trivial, ?_⟩
  rcases visitAll_entries_length (stored_arrange order s) with
    unchanged | fewer
  · exact absurd
      (congrArg StreamReassembler.willing unchanged).symm progressed
  · exact fewer

theorem assemble_exits
    (order : ScanOrder Nat Bytes)
    (r : StreamReassembler) :
    Execution.Exits (assemblyRound order) r (assemble order r) :=
  assembleLoop_exits (Nat.lt_succ_self _)

/-- The assembly loop reaches a pass that writes nothing, and stops there. -/
theorem assemble_settled
    (order : ScanOrder Nat Bytes)
    (r : StreamReassembler) :
    (assemble order r).Settled := by
  refine (assemble_exits order r).satisfies Settled ?_
  intro state result left
  obtain ⟨rfl, idle⟩ := assemblyRound_inr left
  exact assemblePass_settled idle

end Termination

end Sponge.StreamReassembler
