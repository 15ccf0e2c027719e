import Sponge.StreamReassemblerProgress
import Sponge.StreamReassemblerTop

namespace Sponge

/-!
# How far a push brings the stream

Assembly writes as far as the stored fragments cover the stream without a gap
and the capacity allows, in whatever order it visits them.  So a substring that
carries the end of the stream ends the output exactly if this is where the
substring ends.
-/

namespace ByteStream

variable {stream : ByteStream}

theorem accepted_of_open
    (isOpen : stream.endFlag = false)
    (data : Bytes) :
    stream.accepted data = min stream.remainingCapacity data.length := by
  rw [accepted, isOpen, if_neg Bool.false_ne_true]

/-- A write takes up as much room as it accepts bytes. -/
theorem Valid.write_remainingCapacity
    (valid : stream.Valid)
    (data : Bytes) :
    stream.accepted data + (stream.write data).2.remainingCapacity =
      stream.remainingCapacity := by
  have before := valid.withinCapacity
  have after := (valid.write data).withinCapacity
  rw [remainingCapacity_of_le after, remainingCapacity_of_le before]
  rw [write_size, write_mCapacity] at after ⊢
  omega

end ByteStream

namespace StreamReassembler

section Assembly

/-- What assembly has done so far, starting from `r`. -/
structure Assembling
    (r next : StreamReassembler) : Prop where
  valid : next.output.Valid
  isOpen : next.output.endFlag = false
  below : next.willing < topIndex
  starts : r.willing ≤ next.willing
  limit :
    next.willing + next.output.remainingCapacity =
      r.willing + r.output.remainingCapacity
  kept : Within next.reassembler r.reassembler
  covered :
    ∀ index,
      r.willing ≤ index →
      index < next.willing →
      Covers r.reassembler index
  used :
    ∀ key fragment,
      r.reassembler.lookup key = some fragment →
      next.reassembler.lookup key = some fragment ∨
        key + fragment.length ≤ next.willing ∨
        next.output.remainingCapacity = 0

variable {r next : StreamReassembler} {key : Nat} {fragment : Bytes}

/-- Erasing a fragment that has been assembled. -/
theorem Assembling.erase
    (assembling : Assembling r next)
    (stale : key + fragment.length ≤ next.willing)
    (found : next.reassembler.lookup key = some fragment) :
    Assembling r
      { next with reassembler := next.reassembler.erase key } := by
  refine { assembling with kept := ?_, used := ?_ }
  · intro query other stays
    exact assembling.kept query other
      (within_erase next.reassembler key query other stays)
  · intro query other stored
    by_cases same : query = key
    · subst same
      cases (assembling.kept query fragment found).symm.trans stored
      exact .inr (.inl stale)
    · refine (assembling.used query other stored).imp_left fun stays => ?_
      exact (AList.lookup_erase_ne same).trans stays

/-- Writing a fragment that starts at or before the next index. -/
theorem Assembling.writeFragment
    (assembling : Assembling r next)
    (found : next.reassembler.lookup key = some fragment)
    (starts : key ≤ next.willing)
    (reaches : next.willing < key + fragment.length)
    (inside : key + fragment.length < topIndex) :
    Assembling r (next.writeFragment key fragment) := by
  let tempStr := fragment.drop (next.willing - key)
  have length :
      tempStr.length = fragment.length - (next.willing - key) :=
    List.length_drop
  have taken := ByteStream.accepted_of_open assembling.isOpen tempStr
  have room := assembling.valid.write_remainingCapacity tempStr
  have limit := assembling.limit
  have notBefore := assembling.starts
  have willing :
      (next.writeFragment key fragment).willing =
        next.willing + next.output.accepted tempStr :=
    rfl
  have output :
      (next.writeFragment key fragment).output =
        (next.output.write tempStr).2 :=
    rfl
  refine {
    valid := assembling.valid.write tempStr
    isOpen := (ByteStream.write_endFlag _ _).trans assembling.isOpen
    below := ?_
    starts := ?_
    limit := ?_
    kept := ?_
    covered := ?_
    used := ?_ }
  · rw [willing]
    omega
  · rw [willing]
    omega
  · rw [willing, output]
    omega
  · intro query other stays
    exact assembling.kept query other
      (within_erase next.reassembler key query other stays)
  · intro index first last
    rw [willing] at last
    by_cases before : index < next.willing
    · exact assembling.covered index first before
    · exact ⟨key, fragment, assembling.kept key fragment found,
        by omega, by omega⟩
  · intro query other stored
    rw [willing, output]
    by_cases same : query = key
    · subst same
      cases (assembling.kept query fragment found).symm.trans stored
      right
      omega
    · rcases assembling.used query other stored with stays | done | full
      · exact .inl ((AList.lookup_erase_ne same).trans stays)
      · exact .inr (.inl (by omega))
      · exact .inr (.inr (by omega))

theorem Assembling.visit
    (assembling : Assembling r next)
    (stored :
      ∀ key fragment,
        r.reassembler.lookup key = some fragment →
        0 < key + fragment.length ∧ Placed key fragment)
    (found : next.reassembler.lookup key = some fragment) :
    Assembling r (next.visit ⟨key, fragment⟩) := by
  have word : topIndex < 2 ^ 64 := by decide
  have below := assembling.below
  obtain ⟨positive, placed⟩ :=
    stored key fragment (assembling.kept key fragment found)
  rcases placed with ⟨atTop, _⟩ | inside
  · have ahead : key > next.willing := by omega
    rw [StreamReassembler.visit, if_pos ahead]
    exact assembling
  · rcases visit_cases next ⟨positive, Nat.lt_trans inside word⟩ with
      ⟨_, same⟩ | ⟨stale, erased⟩ | ⟨starts, reaches, written⟩
    · rw [same]
      exact assembling
    · rw [erased]
      exact assembling.erase stale found
    · rw [written]
      exact assembling.writeFragment found starts reaches inside

end Assembly

section Push

variable {r : StreamReassembler} {data : Bytes} {index : Nat}

/--
The fragments that the assembly of a push finds: the substring is merged with
what was stored, and what exceeds the capacity is discarded.
-/
def held
    (order : ScanOrder Nat Bytes)
    (data : Bytes)
    (index : Nat)
    (r : StreamReassembler) : FragmentMap UInt8 :=
  if data = [] then
    r.reassembler
  else
    (r.store order data index).reassembler

end Push

end StreamReassembler

end Sponge
