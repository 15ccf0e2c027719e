import Sponge.StreamReassemblerLayout

namespace Sponge.StreamReassembler

/-!
# Pushes of arbitrary data

Nothing is assumed here about what is pushed: substrings may contradict each
other, carry several ends or run past the last 64-bit index.  The counters
still agree with the output, and what was assembled or ended stays so.
-/

section Rule

variable (holds : StreamReassembler → Prop)

/--
What survives new fragments, a new end, a visit and the end of the output
survives a push of any data.
-/
theorem pushSubstring_invariant
    (recorded :
      ∀ r endFlag totalWrite,
        holds r →
        holds { r with endFlag := endFlag, totalWrite := totalWrite })
    (stored :
      ∀ r fragments,
        holds r →
        holds { r with reassembler := fragments })
    (visited :
      ∀ r element,
        holds r →
        holds (visit r element))
    (ended :
      ∀ r,
        holds r →
        holds { r with output := r.output.endInput })
    (order : IterationOrder)
    (data : Bytes)
    (index : Nat)
    (eof : Bool)
    {r : StreamReassembler}
    (initially : holds r) :
    holds (r.pushSubstring order data index eof) := by
  have finished :
      ∀ s : StreamReassembler, holds s → holds s.endIfComplete := by
    intro s held
    unfold endIfComplete
    split
    · exact ended s held
    · exact held
  have noted : holds (r.recordEnd data index eof) := by
    rw [recordEnd_shape]
    exact recorded r _ _ initially
  by_cases nonempty : data = []
  · rw [pushSubstring_of_empty _ _ _ _ nonempty]
    exact finished _ noted
  · rw [pushSubstring_of_nonempty _ _ _ _ nonempty]
    apply finished
    exact assemble_invariant holds
      (fun s key fragment held _ => visited s ⟨key, fragment⟩ held)
      order.assemblyScan (stored _ _ noted)

end Rule

/-- A push leaves the size of the window and its start alone. -/
theorem pushSubstring_limits
    (order : IterationOrder)
    (data : Bytes)
    (index : Nat)
    (eof : Bool)
    (r : StreamReassembler) :
    (r.pushSubstring order data index eof).capacity = r.capacity ∧
      (r.pushSubstring order data index eof).output.bytesR =
        r.output.bytesR := by
  refine pushSubstring_invariant
    (fun s =>
      s.capacity = r.capacity ∧ s.output.bytesR = r.output.bytesR)
    (fun _ _ _ held => held) (fun _ _ held => held) ?_
    (fun _ held => held) order data index eof ⟨rfl, rfl⟩
  rintro s element ⟨capacity, read⟩
  obtain ⟨sameCapacity, _, _, _, _, sameRead⟩ := visit_frame s element
  exact ⟨sameCapacity.trans capacity, sameRead.trans read⟩

/-- A visit leaves the output alone or writes to it. -/
theorem visit_output
    (r : StreamReassembler)
    (element : Sigma fun _ : Nat => Bytes) :
    ((visit r element).output = r.output ∧
        (visit r element).willing = r.willing ∧
        (visit r element).bytesWrited = r.bytesWrited) ∨
      ∃ data,
        (visit r element).output = (r.output.write data).2 ∧
          (visit r element).willing =
            r.willing + r.output.accepted data ∧
          (visit r element).bytesWrited =
            r.bytesWrited + r.output.accepted data := by
  unfold visit
  split
  · exact Or.inl ⟨rfl, rfl, rfl⟩
  · dsimp only
    split
    · exact Or.inl ⟨rfl, rfl, rfl⟩
    · refine Or.inr ⟨_, rfl, ?_, ?_⟩ <;> rw [ByteStream.write_fst]

/-- The counters agree with the output. -/
structure Counted (r : StreamReassembler) : Prop where
  outputValid : r.output.Valid
  sameCapacity : r.output.mCapacity = r.capacity
  willing : r.willing = r.output.bytesW
  counted : r.bytesWrited = r.output.bytesW

theorem counted_new
    (capacity : Nat) :
    (new capacity).Counted where
  outputValid := ByteStream.valid_new capacity
  sameCapacity := rfl
  willing := rfl
  counted := rfl

section Arbitrary

variable {r : StreamReassembler}

theorem Counted.visit
    (counted : r.Counted)
    (element : Sigma fun _ : Nat => Bytes) :
    (r.visit element).Counted := by
  have capacity := (visit_frame r element).1
  rcases visit_output r element with
    ⟨output, willing, total⟩ | ⟨data, output, willing, total⟩
  · constructor
    · rw [output]
      exact counted.outputValid
    · rw [output, capacity]
      exact counted.sameCapacity
    · rw [output, willing]
      exact counted.willing
    · rw [output, total]
      exact counted.counted
  · constructor
    · rw [output]
      exact counted.outputValid.write data
    · rw [output, capacity, ByteStream.write_mCapacity]
      exact counted.sameCapacity
    · rw [output, willing, ByteStream.write_bytesW, counted.willing]
    · rw [output, total, ByteStream.write_bytesW, counted.counted]

/-- The counters agree after a push of any data. -/
theorem Counted.pushSubstring
    (counted : r.Counted)
    (order : IterationOrder)
    (data : Bytes)
    (index : Nat)
    (eof : Bool) :
    (r.pushSubstring order data index eof).Counted := by
  refine pushSubstring_invariant Counted ?_ ?_ ?_ ?_ order data index eof
    counted
  · intro s _ _ held
    exact ⟨held.outputValid, held.sameCapacity, held.willing,
      held.counted⟩
  · intro s _ held
    exact ⟨held.outputValid, held.sameCapacity, held.willing,
      held.counted⟩
  · intro s element held
    exact held.visit element
  · intro s held
    exact ⟨held.outputValid.endInput, held.sameCapacity, held.willing,
      held.counted⟩

theorem Counted.readOut
    (counted : r.Counted)
    (len : Nat) :
    (r.readOut len).2.Counted where
  outputValid := counted.outputValid.read len
  sameCapacity :=
    (ByteStream.read_mCapacity len r.output).trans counted.sameCapacity
  willing :=
    counted.willing.trans (ByteStream.read_bytesW len r.output).symm
  counted :=
    counted.counted.trans (ByteStream.read_bytesW len r.output).symm

/-- A push of any data takes back neither bytes nor the end of the output. -/
theorem pushSubstring_progress
    (order : IterationOrder)
    (data : Bytes)
    (index : Nat)
    (eof : Bool)
    (r : StreamReassembler) :
    r.output.bytesW ≤
        (r.pushSubstring order data index eof).output.bytesW ∧
      (r.output.endFlag = true →
        (r.pushSubstring order data index eof).output.endFlag =
          true) := by
  refine pushSubstring_invariant
    (fun s =>
      r.output.bytesW ≤ s.output.bytesW ∧
        (r.output.endFlag = true → s.output.endFlag = true))
    ?_ ?_ ?_ ?_ order data index eof ⟨Nat.le_refl _, id⟩
  · intro s _ _ held
    exact held
  · intro s _ held
    exact held
  · intro s element held
    have sameEnd := (visit_frame s element).2.2.2.1
    rw [sameEnd]
    refine ⟨Nat.le_trans held.1 ?_, held.2⟩
    rcases visit_output s element with ⟨output, _⟩ | ⟨data, output, _⟩
    · rw [output]
    · rw [output, ByteStream.write_bytesW]
      exact Nat.le_add_right _ _
  · intro s held
    exact ⟨held.1, fun _ => rfl⟩

/-- A push leaves an output that has ended as it is. -/
theorem pushSubstring_of_ended
    {r : StreamReassembler}
    (ended : r.output.endFlag = true)
    (order : IterationOrder)
    (data : Bytes)
    (index : Nat)
    (eof : Bool) :
    (r.pushSubstring order data index eof).output = r.output := by
  refine pushSubstring_invariant (fun s => s.output = r.output)
    (fun _ _ _ held => held) (fun _ _ held => held) ?_ ?_
    order data index eof rfl
  · intro s element held
    rcases visit_output s element with ⟨output, _⟩ | ⟨data, output, _⟩
    · exact output.trans held
    · rw [output, held, ByteStream.write, if_pos ended]
  · intro s held
    change s.output.endInput = r.output
    rw [held, ByteStream.endInput, ← ended]

end Arbitrary

section InOrder

variable {r : StreamReassembler}

/-- A scan of one entry visits that entry. -/
theorem arrange_singleton
    (order : ScanOrder Nat Bytes)
    (key : Nat)
    (fragment : Bytes) :
    order.arrange (AList.singleton key fragment) =
      [⟨key, fragment⟩] :=
  List.perm_singleton.mp (order.perm _)

theorem arrange_empty
    (order : ScanOrder Nat Bytes) :
    order.arrange ∅ = [] :=
  List.perm_nil.mp (order.perm _)

/-- Assembling nothing changes nothing. -/
theorem assembly_exits_of_empty
    (order : ScanOrder Nat Bytes)
    (nothing : r.reassembler = ∅) :
    Execution.Exits (assemblyRound order) r r := by
  have idle : assemblePass order r = r := by
    rw [assemblePass, nothing, arrange_empty]
    rfl
  refine .leave ?_
  simp only [assemblyRound, idle, if_true]

/-- The only fragment stored is visited once. -/
theorem assemble_singleton
    {key : Nat}
    {fragment : Bytes}
    (order : ScanOrder Nat Bytes)
    (only : r.reassembler = AList.singleton key fragment)
    (reached : key ≤ r.willing) :
    r.assemble order = r.visit ⟨key, fragment⟩ := by
  have pass : assemblePass order r = r.visit ⟨key, fragment⟩ := by
    rw [assemblePass, only, arrange_singleton]
    rfl
  have emptied : (r.visit ⟨key, fragment⟩).reassembler = ∅ := by
    have erased : AList.erase key r.reassembler = ∅ := by
      rw [only]
      exact UnorderedMap.erase_singleton key fragment
    unfold visit
    rw [if_neg (Nat.not_lt.mpr reached)]
    dsimp only
    split <;> exact erased
  -- the second turn, if there is one, finds nothing
  have exits :
      Execution.Exits (assemblyRound order) r
        (r.visit ⟨key, fragment⟩) := by
    by_cases idle : r.willing = (r.visit ⟨key, fragment⟩).willing
    · refine .leave ?_
      simp only [assemblyRound, pass, if_pos idle]
    · refine .again ?_ (assembly_exits_of_empty order emptied)
      simp only [assemblyRound, pass, if_neg idle]
  exact (assemble_exits order r).unique exits

/-- Storing a substring when nothing else is stored. -/
theorem store_of_empty
    (order : ScanOrder Nat Bytes)
    (data : Bytes)
    (index : Nat)
    (nothing : r.reassembler = ∅) :
    r.store order data index =
      { r with
        reassembler :=
          AList.singleton (trimAssembled r.willing data index).2
            (trimAssembled r.willing data index).1 } := by
  have noKeys : order.keys (∅ : FragmentMap UInt8) = [] := by
    rw [ScanOrder.keys, arrange_empty]
    rfl
  have keepsAll :
      ∀ capacity bufferSize (fragments : FragmentMap UInt8),
        discardExcess capacity bufferSize [] fragments = fragments := by
    intro capacity bufferSize fragments
    unfold discardExcess
    dsimp only
    split <;> rfl
  have alone :
      r.inserted order data index =
        AList.singleton (trimAssembled r.willing data index).2
          (trimAssembled r.willing data index).1 := by
    simp only [inserted, mergedPending, incoming, nothing, noKeys,
      List.foldl_nil, AList.insert_empty]
  rw [store_eq, nothing, noKeys, keepsAll, alone]

end InOrder

end Sponge.StreamReassembler
