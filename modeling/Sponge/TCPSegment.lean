import Sponge.Buffer
import Sponge.WrappingIntegers

namespace Sponge

/-!
# Segments

A segment is a header and a payload.  Senders and receivers exchange segments
as objects; how a segment is laid out as bytes plays no part here.
-/

/-- The header of a segment, without options. -/
structure TCPHeader where
  sport : UInt16 := 0
  dport : UInt16 := 0
  seqno : WrappingInt32 := ⟨0⟩
  ackno : WrappingInt32 := ⟨0⟩
  doff : UInt8 := 5
  urg : Bool := false
  ack : Bool := false
  psh : Bool := false
  rst : Bool := false
  syn : Bool := false
  fin : Bool := false
  win : UInt16 := 0
  cksum : UInt16 := 0
  uptr : UInt16 := 0
  deriving DecidableEq

/-- A segment. -/
structure TCPSegment where
  header : TCPHeader := {}
  payload : Bytes := []
  deriving DecidableEq

namespace TCPSegment

/-- The payload length plus one each for SYN and FIN. -/
def lengthInSequenceSpace (seg : TCPSegment) : Nat :=
  seg.payload.length +
    (if seg.header.syn then 1 else 0) +
    (if seg.header.fin then 1 else 0)

/-- A segment takes up no numbers if it has neither payload, SYN nor FIN. -/
theorem lengthInSequenceSpace_eq_zero
    {seg : TCPSegment} :
    seg.lengthInSequenceSpace = 0 ↔
      seg.payload = [] ∧
        seg.header.syn = false ∧
        seg.header.fin = false := by
  unfold lengthInSequenceSpace
  constructor
  · intro nothing
    refine ⟨List.length_eq_zero_iff.mp (by omega), ?_, ?_⟩
    · cases syn : seg.header.syn with
      | false => rfl
      | true => simp [syn] at nothing
    · cases fin : seg.header.fin with
      | false => rfl
      | true => simp [fin] at nothing
  · rintro ⟨payload, syn, fin⟩
    simp [payload, syn, fin]

end TCPSegment

end Sponge
