import Mathlib.Data.List.Sort
import Sponge.ByteStream
import Sponge.Execution
import Sponge.FragmentMap
import Sponge.MachineWord

namespace Sponge

/-!
# The stream reassembler

`pushSubstring` is the source method cut at its own comments: remember the end
of the stream, trim what is already assembled, merge with stored fragments,
discard what exceeds the capacity, and move contiguous fragments to the output.
Both loops over the hash map take their order from `IterationOrder`.
-/

/-- The last index of a substring, computed as `index + size - 1`. -/
def lastIndex (index size : Nat) : Nat :=
  sub64 ((index + size) % 2 ^ 64) 1

/-- Copy a string over part of a buffer, as `std::copy` does. -/
def overwrite
    (buffer : Bytes)
    (position : Nat)
    (str : Bytes) : Bytes :=
  buffer.take position ++ str ++ buffer.drop (position + str.length)

/-- Combine two overlapping substrings; the second wins where both have bytes. -/
def mergeSubstrings
    (str1 : Bytes)
    (index1 : Nat)
    (str2 : Bytes)
    (index2 : Nat) : Bytes :=
  let start := min index1 index2
  let end1 := (index1 + str1.length) % 2 ^ 64
  let end2 := (index2 + str2.length) % 2 ^ 64
  let combinedLength := sub64 (max end1 end2) start
  let result := List.replicate combinedLength 0
  let result := overwrite result (index1 - start) str1
  overwrite result (index2 - start) str2

/-- The iteration orders one call of `push_substring` meets. -/
structure IterationOrder where
  keyScan : ScanOrder Nat Bytes
  assemblyScan : ScanOrder Nat Bytes

/-- Every loop runs over the entries as they are kept. -/
def IterationOrder.stored : IterationOrder where
  keyScan := ScanOrder.stored
  assemblyScan := ScanOrder.stored

/-- Assembles possibly overlapping, out-of-order substrings into a stream. -/
structure StreamReassembler where
  output : ByteStream
  capacity : Nat
  willing : Nat := 0
  reassembler : FragmentMap UInt8 := ∅
  endFlag : Bool := false
  totalWrite : Nat := 0
  bytesWrited : Nat := 0
  deriving DecidableEq

namespace StreamReassembler

/-- Construct a reassembler that stores up to `capacity` bytes. -/
def new (capacity : Nat) : StreamReassembler where
  output := ByteStream.new capacity
  capacity := capacity

/-- Remove the part of a substring that has already been assembled. -/
def trimAssembled
    (willing : Nat)
    (data : Bytes)
    (index : Nat) : Bytes × Nat :=
  if index < willing ∧ lastIndex index data.length ≥ willing then
    (data.drop (willing - index), willing)
  else
    (data, index)

/-- The substring being pushed and the fragments it has not absorbed. -/
structure Pending where
  copyData : Bytes
  copyIndex : Nat
  reassembler : FragmentMap UInt8

/-- Merge the pending substring with the fragment under `key` if they overlap. -/
def absorb
    (pending : Pending)
    (key : Nat) : Pending :=
  let fragment := UnorderedMap.subscript pending.reassembler key []
  let firstStart := key
  let firstEnd := lastIndex key fragment.length
  let secondStart := pending.copyIndex
  let secondEnd := lastIndex pending.copyIndex pending.copyData.length
  if secondEnd < firstStart ∨ firstEnd < secondStart then
    pending
  else {
    copyData :=
      mergeSubstrings pending.copyData pending.copyIndex fragment key
    copyIndex := min firstStart secondStart
    reassembler := pending.reassembler.erase key
  }

/-- Conversion of a key to `int`, which the comparator `std::greater<int>` makes. -/
def asInt (key : Nat) : Int :=
  (BitVec.ofNat 32 key).toInt

/-- Sort keys with `std::greater<int>`; equal ones stay in scan order. -/
def sortDecreasing (keySet : List Nat) : List Nat :=
  keySet.insertionSort fun first second => asInt first ≥ asInt second

/--
Shorten the fragment under `key` by `remainSize` bytes.  A fragment that is too
short, or whose key is gone, is replaced by an empty one: the subscript on the
right creates the entry that was just erased.
-/
def truncateFragment
    (reassembler : FragmentMap UInt8)
    (key remainSize : Nat) : FragmentMap UInt8 :=
  let fragment := UnorderedMap.subscript reassembler key []
  if fragment.length ≤ remainSize then
    (reassembler.erase key).insert key []
  else
    reassembler.insert key
      (fragment.take (fragment.length - remainSize))

/--
Make room when the stored bytes exceed the capacity.  The loop over the sorted
keys ends with `break`, so it only examines the first of them.
-/
def discardExcess
    (capacity bufferSize : Nat)
    (keySet : List Nat)
    (reassembler : FragmentMap UInt8) : FragmentMap UInt8 :=
  let totalReassemblerSize := totalLength reassembler
  if bufferSize + totalReassemblerSize > capacity then
    let remainSize := bufferSize + totalReassemblerSize - capacity
    match sortDecreasing keySet with
    | [] => reassembler
    | key :: _ => truncateFragment reassembler key remainSize
  else
    reassembler

/-- Remember the length of the stream when a substring carries its end. -/
def recordEnd
    (data : Bytes)
    (index : Nat)
    (eof : Bool)
    (r : StreamReassembler) : StreamReassembler :=
  if eof then
    { r with
      endFlag := eof
      totalWrite := (index + data.length) % 2 ^ 64 }
  else
    r

/-- Store a substring: trim it, merge it, and discard what does not fit. -/
def store
    (order : ScanOrder Nat Bytes)
    (data : Bytes)
    (index : Nat)
    (r : StreamReassembler) : StreamReassembler :=
  let trimmed := trimAssembled r.willing data index
  let keySet := order.keys r.reassembler
  let pending :=
    keySet.foldl absorb {
      copyData := trimmed.1
      copyIndex := trimmed.2
      reassembler := r.reassembler
    }
  let reassembler :=
    pending.reassembler.insert pending.copyIndex pending.copyData
  { r with
    reassembler :=
      discardExcess r.capacity r.output.bufferSize keySet reassembler }

/-- Visit one fragment of an assembly pass. -/
def visit
    (r : StreamReassembler)
    (element : Sigma fun _ : Nat => Bytes) : StreamReassembler :=
  if element.1 > r.willing then
    r
  else
    let elementIndex := element.1
    let elementStr := element.2
    let r := { r with reassembler := r.reassembler.erase elementIndex }
    if lastIndex elementIndex elementStr.length < r.willing then
      r
    else
      let tempStr := elementStr.drop (r.willing - elementIndex)
      let written := r.output.write tempStr
      { r with
        output := written.2
        willing := r.willing + written.1
        bytesWrited := r.bytesWrited + written.1 }

/-- One pass over the stored fragments. -/
def assemblePass
    (order : ScanOrder Nat Bytes)
    (r : StreamReassembler) : StreamReassembler :=
  (order.arrange r.reassembler).foldl visit r

/-- One turn of the assembly loop: a pass, then the test whether it wrote. -/
def assemblyRound
    (order : ScanOrder Nat Bytes)
    (r : StreamReassembler) :
    StreamReassembler ⊕ StreamReassembler :=
  let next := assemblePass order r
  if r.willing = next.willing then
    .inr next
  else
    .inl next

/-- Repeat passes until one of them writes nothing. -/
def assembleLoop
    (order : ScanOrder Nat Bytes)
    (fuel : Nat)
    (r : StreamReassembler) : StreamReassembler :=
  Execution.iterate (assemblyRound order) id fuel r

/--
Move every contiguous fragment to the output.  A pass that writes erases a
fragment, so one pass more than there are fragments always suffices
(`assemble_settled`).
-/
def assemble
    (order : ScanOrder Nat Bytes)
    (r : StreamReassembler) : StreamReassembler :=
  assembleLoop order (r.reassembler.entries.length + 1) r

/-- End the output once everything up to the recorded end was written. -/
def endIfComplete (r : StreamReassembler) : StreamReassembler :=
  if r.endFlag ∧ r.bytesWrited = r.totalWrite then
    { r with output := r.output.endInput }
  else
    r

/-- Receive a substring and write any newly contiguous bytes to the stream. -/
def pushSubstring
    (order : IterationOrder)
    (data : Bytes)
    (index : Nat)
    (eof : Bool)
    (r : StreamReassembler) : StreamReassembler :=
  let r := r.recordEnd data index eof
  if data.isEmpty then
    r.endIfComplete
  else
    ((r.store order.keyScan data index).assemble
      order.assemblyScan).endIfComplete

/-- Read from the reassembled stream. -/
def readOut
    (len : Nat)
    (r : StreamReassembler) : Bytes × StreamReassembler :=
  let taken := r.output.read len
  (taken.1, { r with output := taken.2 })

/-- The number of distinct indices stored but not yet assembled. -/
def unassembledBytes (r : StreamReassembler) : Nat :=
  let positions :=
    r.reassembler.entries.flatMap fun item =>
      (List.range item.2.length).map fun index =>
        (index + item.1) % 2 ^ 64
  let counted :=
    positions.foldl
      (fun (counter : Nat × List Nat) position =>
        if position ∈ counter.2 then
          counter
        else
          (counter.1 + 1, position :: counter.2))
      (0, [])
  counted.1

end StreamReassembler

end Sponge
