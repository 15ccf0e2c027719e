import Sponge.StreamReassemblerCapacity

namespace Sponge.StreamReassembler

/-!
# Stored fragments over whole runs

Whatever is pushed, as long as it ends before the last 64-bit index, the layout
of the stored fragments survives every call.  Nothing is assumed about the
bytes: pushes may contradict each other and carry any number of ends.
-/

section Bound

variable {r : StreamReassembler}

/-- A written fragment ends before the last 64-bit index, so the stream does. -/
theorem Loose.visit_willing_lt
    (loose : r.Loose)
    (below : r.willing < 2 ^ 64)
    {key : Nat}
    {fragment : Bytes}
    (found : r.reassembler.lookup key = some fragment) :
    (r.visit ⟨key, fragment⟩).willing < 2 ^ 64 := by
  have bounded := loose.bounded key fragment found
  rcases visit_cases r bounded with
    ⟨_, same⟩ | ⟨_, erased⟩ | ⟨starts, reaches, wrote⟩
  · rw [same]
    exact below
  · rw [erased]
    exact below
  · rw [wrote]
    have accepted :=
      r.output.accepted_le_length (fragment.drop (r.willing - key))
    rw [List.length_drop] at accepted
    have ends := bounded.2
    change r.willing + r.output.accepted _ < 2 ^ 64
    omega

theorem Loose.assemble_willing_lt
    (loose : r.Loose)
    (below : r.willing < 2 ^ 64)
    (order : ScanOrder Nat Bytes) :
    (r.assemble order).willing < 2 ^ 64 := by
  have both :=
    assemble_invariant
      (fun next => next.Loose ∧ next.willing < 2 ^ 64)
      (fun _ _ _ held found =>
        ⟨held.1.visit found, held.1.visit_willing_lt held.2 found⟩)
      order ⟨loose, below⟩
  exact both.2

end Bound

/-- The push ends before the last 64-bit index; reads are free. -/
def Op.InRange : Op → Prop
  | .push _ data index _ => index + data.length < 2 ^ 64
  | .read _ => True

/--
If the call pushes bytes, its assembly loop stops, and the state it stops in is
the one the call leaves, up to the end of the output.
-/
def AssemblyStops
    (session : Session) :
    Op → Prop
  | .push order data index eof =>
      data ≠ [] →
      ∃ assembled,
        Execution.Exits (assemblyRound order.assemblyScan)
            ((session.reassembler.recordEnd data index eof).store
              order.keyScan data index)
            assembled ∧
          (session.step (.push order data index eof)).reassembler =
            assembled.endIfComplete
  | .read _ => True

/-- Every assembly loop stops, whatever was pushed before. -/
theorem assemblyStops
    (session : Session)
    (call : Op) :
    AssemblyStops session call := by
  cases call with
  | push order data index eof =>
      intro nonempty
      refine ⟨_, assemble_exits order.assemblyScan _, ?_⟩
      exact pushSubstring_of_nonempty order index eof
        session.reassembler nonempty
  | read len =>
      trivial

/-- What holds of the fragments between two calls. -/
structure Kept (r : StreamReassembler) : Prop where
  layout : r.Layout
  below : r.willing < 2 ^ 64

theorem Kept.pushSubstring
    {r : StreamReassembler}
    {data : Bytes}
    {index : Nat}
    (kept : r.Kept)
    (fits : index + data.length < 2 ^ 64)
    (order : IterationOrder)
    (eof : Bool) :
    (r.pushSubstring order data index eof).Kept := by
  refine ⟨kept.layout.pushSubstring fits order eof, ?_⟩
  have recorded := kept.layout.recordEnd data index eof
  have below : (r.recordEnd data index eof).willing < 2 ^ 64 := by
    rw [recordEnd_willing]
    exact kept.below
  by_cases nonempty : data = []
  · rw [pushSubstring_of_empty _ _ _ _ nonempty, endIfComplete_willing]
    exact below
  · rw [pushSubstring_of_nonempty _ _ _ _ nonempty,
      endIfComplete_willing]
    exact (recorded.store nonempty fits).assemble_willing_lt below
      order.assemblyScan

theorem kept_after
    (capacity : Nat)
    {calls : List Op}
    (inRange : ∀ call ∈ calls, call.InRange) :
    (Session.after capacity calls).reassembler.Kept := by
  refine Execution.EveryStep.invariant
    (fun session : Session => session.reassembler.Kept)
    ?_ ⟨layout_new capacity, Nat.two_pow_pos 64⟩
    (Execution.EveryStep.of_forall_mem inRange _)
  intro session call kept allowed
  cases call with
  | push order data index eof =>
      exact kept.pushSubstring allowed order eof
  | read len =>
      exact ⟨kept.layout.readOut len, kept.below⟩

/--
After any calls whose pushes end before the last 64-bit index, every assembly
loop has stopped, the next index to assemble is the number of bytes written,
every fragment is stored after it, no two fragments share an index, and
`unassembled_bytes` is the sum of their lengths.
-/
theorem fragments_well_formed
    (capacity : Nat)
    (calls : List Op)
    (inRange : ∀ call ∈ calls, call.InRange) :
    let r := (Session.after capacity calls).reassembler
    Execution.EveryStep Session.step AssemblyStops
        (Session.start capacity) calls ∧
      r.willing = r.output.bytesWritten ∧
      r.willing < 2 ^ 64 ∧
      (∀ key fragment,
        r.reassembler.lookup key = some fragment →
        r.willing < key) ∧
      Separated r.reassembler ∧
      r.unassembledBytes = totalLength r.reassembler := by
  intro r
  have kept := kept_after capacity inRange
  have stops :
      Execution.EveryStep Session.step AssemblyStops
        (Session.start capacity) calls :=
    Execution.EveryStep.of_forall assemblyStops _ _
  refine ⟨stops, kept.layout.written.symm, kept.below,
    kept.layout.settled, kept.layout.separated, ?_⟩
  rw [unassembledBytes_eq kept.layout.bounded,
    kept.layout.separated.card_storedIndices]

/-- Two pushes that contradict each other, merged ahead of the stream. -/
theorem fragments_well_formed_contradicting :
    let calls : List Op := [
      .push .stored [98, 99] 2 false,
      .push .stored [120, 121] 3 true,
      .push .stored [97] 0 false,
      .read 1]
    let r := (Session.after 8 calls).reassembler
    r.reassembler.lookup 2 = some [98, 99, 121] ∧
      r.unassembledBytes = 3 := by
  intro calls r
  obtain ⟨_, _, _, _, _, counted⟩ :=
    fragments_well_formed 8 calls (by
      intro call member
      simp only [calls, List.mem_cons, List.not_mem_nil, or_false]
        at member
      rcases member with rfl | rfl | rfl | rfl
      · exact (by decide : (2 + 2 < 2 ^ 64))
      · exact (by decide : (3 + 2 < 2 ^ 64))
      · exact (by decide : (0 + 1 < 2 ^ 64))
      · trivial)
  exact ⟨by decide, counted.trans (by decide)⟩

end Sponge.StreamReassembler
