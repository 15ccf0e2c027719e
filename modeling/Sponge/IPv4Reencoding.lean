import Mathlib.Data.Nat.Bitwise
import Sponge.PacketParsing

namespace Sponge

open Reading NetParser

/-!
# Received datagrams, serialised again

A header has no fields for the options and for the reserved flag, so a datagram
that is parsed and serialised loses them.  Everything else is written as it was
read; the checksum is computed afresh, and agrees with the one that was received
up to the two representations of zero.
-/

namespace NetParser

theorem u8At_append_left
    {first : Bytes}
    {i : Nat}
    (inside : i < first.length)
    (second : Bytes) :
    u8At (first ++ second) i = u8At first i := by
  rw [u8At, u8At, List.getD_eq_getElem?_getD,
    List.getD_eq_getElem?_getD, List.getElem?_append_left inside]

theorem u8At_append_right
    {first : Bytes}
    {i : Nat}
    (outside : first.length ≤ i)
    (second : Bytes) :
    u8At (first ++ second) i = u8At second (i - first.length) := by
  rw [u8At, u8At, List.getD_eq_getElem?_getD,
    List.getD_eq_getElem?_getD, List.getElem?_append_right outside]

theorem u8At_slice
    {start count i : Nat}
    (inside : i < count)
    (bytes : Bytes) :
    u8At (slice bytes start count) i = u8At bytes (start + i) := by
  rw [u8At, u8At, slice, List.getD_eq_getElem?_getD,
    List.getD_eq_getElem?_getD, List.getElem?_take_of_lt inside,
    List.getElem?_drop]

theorem slice_two
    {bytes : Bytes}
    {start : Nat}
    (inside : start + 2 ≤ bytes.length) :
    slice bytes start 2 = [u8At bytes start, u8At bytes (start + 1)] := by
  rw [← slice_append_slice bytes start 1 1, slice_one (by omega),
    slice_one (by omega)]
  rfl

theorem u16_eq_bytes
    (val : UInt16) :
    NetUnparser.u16 val =
      [UInt8.ofNat (val.toNat / 256), UInt8.ofNat val.toNat] := by
  rw [NetUnparser.u16, NetUnparser.unparseInt_eq_encode]
  simp [BigEndian.encode]

/-- A field is read where it was written. -/
theorem u16At_of_layout
    (before after : Bytes)
    (val : UInt16) :
    u16At (before ++ (NetUnparser.u16 val ++ after)) before.length =
      val := by
  have written :
      slice (before ++ (NetUnparser.u16 val ++ after)) before.length 2 =
        NetUnparser.u16 val := by
    rw [slice, List.drop_left,
      List.take_left' (NetUnparser.length_u16 val)]
  have number : BigEndian.value (NetUnparser.u16 val) = val.toNat := by
    rw [NetUnparser.u16, NetUnparser.unparseInt_eq_encode,
      BigEndian.value_encode_of_lt val.toNat_lt]
  rw [u16At, written, number, UInt16.ofNat_toNat]

end NetParser

namespace IPv4Header

/-- The nibbles of the first byte are put together again. -/
theorem firstByte_nibbles
    (byte : UInt8) :
    ((byte >>> 4) <<< 4) ||| ((byte &&& 0x0f) &&& 0xf) = byte := by
  have everyByte :
      ∀ n : Fin 256,
        ((UInt8.ofNat n >>> 4) <<< 4) |||
            ((UInt8.ofNat n &&& 0x0f) &&& 0xf) =
          UInt8.ofNat n := by
    decide +kernel
  have this := everyByte ⟨byte.toNat, byte.toNat_lt⟩
  rwa [UInt8.ofNat_toNat] at this

/-- A flag is written as the bit it was read from. -/
theorem flag_bit
    (word : UInt16)
    (k : Nat)
    (bit : UInt16)
    (place : bit.toNat = 2 ^ k) :
    (if decide (word &&& bit ≠ 0) then bit else 0) = word &&& bit := by
  by_cases clear : word &&& bit = 0
  · simp [clear]
  · have masked :
        (word &&& bit).toNat = (word.toNat.testBit k).toNat * 2 ^ k := by
      rw [UInt16.toNat_and, place, Nat.and_two_pow]
    have set : word &&& bit = bit := by
      apply UInt16.toNat.inj
      cases tested : word.toNat.testBit k with
      | true =>
          rw [masked, tested, place, Bool.toNat_true, Nat.one_mul]
      | false =>
          refine absurd (UInt16.toNat.inj ?_) clear
          rw [masked, tested, Bool.toNat_false, Nat.zero_mul]
          rfl
    rw [decide_eq_true clear, if_pos rfl, set]

/-- The word of flags and offset loses its reserved bit. -/
theorem foVal_ofBytes
    (bytes : Bytes) :
    (ofBytes bytes).foVal = u16At bytes 6 &&& 0x7fff := by
  have df := flag_bit (u16At bytes 6) 14 0x4000 rfl
  have mf := flag_bit (u16At bytes 6) 13 0x2000 rfl
  have written :
      (ofBytes bytes).foVal =
        (if decide (u16At bytes 6 &&& 0x4000 ≠ 0) then 0x4000 else 0) |||
          (if decide (u16At bytes 6 &&& 0x2000 ≠ 0) then 0x2000 else 0) |||
          (u16At bytes 6 &&& 0x1fff &&& 0x1fff) :=
    rfl
  rw [written, df, mf]
  apply UInt16.toNat.inj
  simp only [UInt16.toNat_or, UInt16.toNat_and, Nat.and_assoc,
    ← Nat.and_or_distrib_left]
  rfl

theorem u16_foVal_ofBytes
    {bytes : Bytes}
    (long : length ≤ bytes.length) :
    NetUnparser.u16 (ofBytes bytes).foVal =
      [u8At bytes 6 &&& 0x7f, u8At bytes 7] := by
  have inside : 20 ≤ bytes.length := long
  have high := (u8At bytes 6).toNat_lt
  have low := (u8At bytes 7).toNat_lt
  have pair : slice bytes 6 2 = [u8At bytes 6, u8At bytes 7] :=
    slice_two (by omega)
  have word :
      (u16At bytes 6 &&& 0x7fff).toNat =
        (u8At bytes 6).toNat % 128 * 256 + (u8At bytes 7).toNat := by
    rw [UInt16.toNat_and, u16At, pair]
    refine (Nat.and_two_pow_sub_one_eq_mod _ 15).trans ?_
    rw [UInt16.toNat_ofNat']
    simp only [BigEndian.value_cons, BigEndian.value_nil,
      List.length_cons, List.length_nil]
    omega
  have masked :
      (u8At bytes 6 &&& 0x7f).toNat = (u8At bytes 6).toNat % 128 := by
    rw [UInt8.toNat_and]
    exact Nat.and_two_pow_sub_one_eq_mod _ 7
  have first :
      UInt8.ofNat ((u16At bytes 6 &&& 0x7fff).toNat / 256) =
        u8At bytes 6 &&& 0x7f := by
    apply UInt8.toNat.inj
    rw [UInt8.toNat_ofNat', word, masked]
    omega
  have second :
      UInt8.ofNat (u16At bytes 6 &&& 0x7fff).toNat = u8At bytes 7 := by
    apply UInt8.toNat.inj
    rw [UInt8.toNat_ofNat', word]
    omega
  rw [foVal_ofBytes, u16_eq_bytes, first, second]

/--
The header a packet is sent on with: its options are zero, the reserved flag is
cleared and the checksum field is filled in.
-/
def reencoded
    (bytes : Bytes)
    (size : Nat)
    (cksum : UInt16) : Bytes :=
  slice bytes 0 6 ++ ([u8At bytes 6 &&& 0x7f, u8At bytes 7] ++
    (slice bytes 8 2 ++ (NetUnparser.u16 cksum ++
      (slice bytes 12 8 ++ List.replicate (size - length) 0))))

/-- Serialising the fields of a packet, with any checksum field. -/
theorem resize_ofBytes
    {bytes : Bytes}
    (long : length ≤ bytes.length)
    {size : Nat}
    (minimal : length ≤ size)
    (cksum : UInt16) :
    NetUnparser.resize size
        ((ofBytes bytes).withCksum cksum).fieldBytes =
      reencoded bytes size cksum := by
  have inside : 20 ≤ bytes.length := long
  have firstByte :
      ((ofBytes bytes).ver <<< 4) ||| ((ofBytes bytes).hlen &&& 0xf) =
        u8At bytes 0 :=
    firstByte_nibbles (u8At bytes 0)
  have flags := u16_foVal_ofBytes long
  have front :
      NetUnparser.u8 (u8At bytes 0) ++
          (NetUnparser.u8 (u8At bytes 1) ++
            (NetUnparser.u16 (u16At bytes 2) ++
              NetUnparser.u16 (u16At bytes 4))) =
        slice bytes 0 6 := by
    rw [u8_u8At (by omega), u8_u8At (by omega), u16_u16At (by omega),
      u16_u16At (by omega), slice_append_slice bytes 2 2 2,
      slice_append_slice bytes 1 1 4, slice_append_slice bytes 0 1 5]
  have middle :
      NetUnparser.u8 (u8At bytes 8) ++ NetUnparser.u8 (u8At bytes 9) =
        slice bytes 8 2 := by
    rw [u8_u8At (by omega), u8_u8At (by omega),
      slice_append_slice bytes 8 1 1]
  have addresses :
      NetUnparser.u32 (u32At bytes 12) ++
          NetUnparser.u32 (u32At bytes 16) =
        slice bytes 12 8 := by
    rw [u32_u32At (by omega), u32_u32At inside,
      slice_append_slice bytes 12 4 4]
  have room :
      ((ofBytes bytes).withCksum cksum).fieldBytes.length ≤ size := by
    rw [length_fieldBytes]
    exact minimal
  rw [NetUnparser.resize_of_le room, length_fieldBytes, reencoded,
    ← front, ← middle, ← addresses, ← flags]
  simp only [fieldBytes, withCksum, List.append_assoc]
  rw [firstByte]
  rfl

theorem length_reencoded
    {bytes : Bytes}
    (long : length ≤ bytes.length)
    {size : Nat}
    (minimal : length ≤ size)
    (cksum : UInt16) :
    (reencoded bytes size cksum).length = size := by
  rw [← resize_ofBytes long minimal cksum, NetUnparser.length_resize]

/-- Outside of its checksum field the header is as it was, but for the two. -/
theorem u8At_reencoded
    {bytes : Bytes}
    (long : length ≤ bytes.length)
    {size i : Nat}
    (inside : i < size)
    (outside : i < 10 ∨ 12 ≤ i)
    (cksum : UInt16) :
    u8At (reencoded bytes size cksum) i =
      if 20 ≤ i then
        0
      else if i = 6 then
        u8At bytes 6 &&& 0x7f
      else
        u8At bytes i := by
  have enough : 20 ≤ bytes.length := long
  have front : (slice bytes 0 6).length = 6 := length_slice (by omega)
  have middle : (slice bytes 8 2).length = 2 := length_slice (by omega)
  have field := NetUnparser.length_u16 cksum
  have addresses : (slice bytes 12 8).length = 8 :=
    length_slice (by omega)
  unfold reencoded
  by_cases inFront : i < 6
  · rw [u8At_append_left (by omega), u8At_slice inFront, Nat.zero_add,
      if_neg (by omega), if_neg (by omega)]
  rw [u8At_append_right (by omega), front]
  by_cases inFlags : i < 8
  · rcases (by omega : i = 6 ∨ i = 7) with rfl | rfl
    · rfl
    · rfl
  rw [u8At_append_right (by change 2 ≤ _; omega)]
  change u8At _ (i - 6 - 2) = _
  by_cases inMiddle : i < 10
  · rw [u8At_append_left (by omega), u8At_slice (by omega),
      if_neg (by omega), if_neg (by omega)]
    congr 1
    omega
  rw [u8At_append_right (by omega), u8At_append_right (by omega), middle,
    field]
  by_cases inAddresses : i < 20
  · rw [u8At_append_left (by omega), u8At_slice (by omega),
      if_neg (by omega), if_neg (by omega)]
    congr 1
    omega
  · rw [u8At_append_right (by omega), if_pos (by omega), u8At,
      List.getD_replicate _ (by rw [addresses]; change _ < _ - 20; omega)]

/-- The checksum field of the new header, and the header without it. -/
theorem reencoded_cksum
    {bytes : Bytes}
    (long : length ≤ bytes.length)
    {size : Nat}
    (minimal : length ≤ size)
    (cksum : UInt16)
    (payload : Bytes) :
    let sent := reencoded bytes size cksum ++ payload
    u16At sent 10 = cksum ∧
      slice sent 0 10 ++
          (NetUnparser.u16 0 ++ slice sent 12 (size - 12)) =
        reencoded bytes size 0 := by
  intro sent
  have enough : 20 ≤ bytes.length := long
  have atLeast : 20 ≤ size := minimal
  let before : Bytes :=
    slice bytes 0 6 ++
      ([u8At bytes 6 &&& 0x7f, u8At bytes 7] ++ slice bytes 8 2)
  let after : Bytes :=
    slice bytes 12 8 ++ List.replicate (size - length) 0
  have layout :
      ∀ field,
        reencoded bytes size field =
          before ++ (NetUnparser.u16 field ++ after) := by
    intro field
    simp only [reencoded, before, after, List.append_assoc]
  have front : before.length = 10 := by
    simp only [before, List.length_append, List.length_cons,
      List.length_nil]
    rw [length_slice (by omega), length_slice (by omega)]
  have back : after.length = size - 12 := by
    simp only [after, List.length_append, List.length_replicate]
    rw [length_slice (by omega)]
    change 8 + (size - 20) = _
    omega
  have shape :
      sent = before ++ (NetUnparser.u16 cksum ++ (after ++ payload)) := by
    simp only [sent, layout, List.append_assoc]
  constructor
  · have read :=
      u16At_of_layout before (after ++ payload) cksum
    rwa [front, ← shape] at read
  · have kept : slice sent 0 10 = before := by
      rw [slice_zero, shape, List.take_left' front]
    have rest : slice sent 12 (size - 12) = after := by
      have field :
          (before ++ NetUnparser.u16 cksum).length = 12 := by
        rw [List.length_append, front, NetUnparser.length_u16]
      rw [slice, shape, ← List.append_assoc, List.drop_left' field,
        List.take_left' back]
    rw [kept, rest, layout]

/-- A header with nothing to lose changes in its checksum field only. -/
theorem reencoded_of_plain
    {bytes : Bytes}
    (long : length ≤ bytes.length)
    {size : Nat}
    (minimal : length ≤ size)
    (present : size ≤ bytes.length)
    (noOptions : ∀ i, 20 ≤ i → i < size → u8At bytes i = 0)
    (reserved : u8At bytes 6 &&& 0x80 = 0)
    (cksum : UInt16) :
    reencoded bytes size cksum =
      slice bytes 0 10 ++
        (NetUnparser.u16 cksum ++ slice bytes 12 (size - 12)) := by
  have enough : 20 ≤ bytes.length := long
  have atLeast : 20 ≤ size := minimal
  have flags :
      [u8At bytes 6 &&& 0x7f, u8At bytes 7] = slice bytes 6 2 := by
    have everyByte :
        ∀ n : Fin 256,
          UInt8.ofNat n &&& 0x80 = 0 →
          UInt8.ofNat n &&& 0x7f = UInt8.ofNat n := by
      decide +kernel
    have kept := everyByte ⟨_, (u8At bytes 6).toNat_lt⟩
    rw [UInt8.ofNat_toNat] at kept
    rw [kept reserved, slice_two (by omega)]
  have options :
      List.replicate (size - length) 0 = slice bytes 20 (size - 20) := by
    refine List.ext_getElem ?_ ?_
    · rw [List.length_replicate, length_slice (by omega)]
      rfl
    · intro i _ within
      rw [length_slice (by omega)] at within
      have zero := noOptions (20 + i) (by omega) (by omega)
      rw [u8At, List.getD_eq_getElem _ _ (by omega)] at zero
      simp [slice, zero]
  have sizes : 8 + (size - 20) = size - 12 := by omega
  rw [reencoded, flags, options, slice_append_slice bytes 12 8, sizes,
    ← slice_append_slice bytes 0 6 4, ← slice_append_slice bytes 6 2 2]
  simp only [List.append_assoc]

end IPv4Header

namespace IPv4Datagram

/-- The datagram that a framed packet is parsed to. -/
theorem parse_of_framed
    (self : IPv4Datagram)
    {buffer : Buffer}
    (long : IPv4Header.length ≤ buffer.str.length)
    (framed :
      (IPv4Header.ofBytes buffer.str).Framed buffer.str.length) :
    ∃ rest : Buffer,
      self.parse buffer =
          .ok .noError
            { header := IPv4Header.ofBytes buffer.str
              payload := [rest] } ∧
        rest.str =
          buffer.str.drop
            (4 * (IPv4Header.ofBytes buffer.str).hlen.toNat) := by
  obtain ⟨next, parsed, holds⟩ :=
    IPv4Header.parse_of_framed self.header (holds_start buffer) long
      framed
  refine ⟨next.buffer, ?_, holds.left⟩
  rw [parse_eq parsed holds, List.length_drop,
    payloadLength_of_framed framed, if_pos rfl]

/-- It is well formed. -/
theorem wellFormed_of_framed
    {bytes : Bytes}
    {rest : Buffer}
    (framed : (IPv4Header.ofBytes bytes).Framed bytes.length)
    (payload :
      rest.str =
        bytes.drop (4 * (IPv4Header.ofBytes bytes).hlen.toNat)) :
    WellFormed
      { header := IPv4Header.ofBytes bytes
        payload := [rest] } := by
  have minimal : 5 ≤ (IPv4Header.ofBytes bytes).hlen.toNat :=
    UInt8.le_iff_toNat_le.mp (UInt8.not_lt.mp framed.minimal)
  have present := framed.present
  have size :
      BufferList.size [rest] =
        bytes.length - 4 * (IPv4Header.ofBytes bytes).hlen.toNat := by
    rw [BufferList.size_eq_length, BufferList.concatenate_cons,
      BufferList.concatenate_nil, List.append_nil, payload,
      List.length_drop]
  refine ⟨framed.version, minimal, ?_, ?_, ?_⟩
  · change (u8At bytes 0 &&& 0x0f).toNat ≤ 15
    rw [UInt8.toNat_and]
    exact Nat.and_le_right
  · change (u16At bytes 6 &&& 0x1fff).toNat < 2 ^ 13
    rw [UInt16.toNat_and]
    exact Nat.lt_of_le_of_lt Nat.and_le_right (by decide)
  · change
      (IPv4Header.ofBytes bytes).len.toNat =
        4 * (IPv4Header.ofBytes bytes).hlen.toNat + BufferList.size [rest]
    rw [size, ← framed.total]
    omega

/-- The checksum it is sent on with. -/
def recomputed (bytes : Bytes) : UInt16 :=
  (({} : InternetChecksum).add
    (IPv4Header.reencoded bytes
      (4 * (IPv4Header.ofBytes bytes).hlen.toNat) 0)).value

section Sent

variable {bytes : Bytes} {rest : Buffer}

theorem headerLength_of_framed
    (framed : (IPv4Header.ofBytes bytes).Framed bytes.length) :
    IPv4Header.length ≤ 4 * (IPv4Header.ofBytes bytes).hlen.toNat := by
  have five : 5 ≤ (IPv4Header.ofBytes bytes).hlen.toNat :=
    UInt8.le_iff_toNat_le.mp (UInt8.not_lt.mp framed.minimal)
  change 20 ≤ _
  omega

/-- The header it is sent on with. -/
theorem headerOut_of_framed
    (long : IPv4Header.length ≤ bytes.length)
    (framed : (IPv4Header.ofBytes bytes).Framed bytes.length) :
    headerOut
        { header := IPv4Header.ofBytes bytes, payload := [rest] } =
      (IPv4Header.ofBytes bytes).withCksum (recomputed bytes) := by
  rw [headerOut, recomputed,
    ← IPv4Header.resize_ofBytes long (headerLength_of_framed framed)]

/-- The bytes it is sent on as. -/
theorem image_of_framed
    (long : IPv4Header.length ≤ bytes.length)
    (framed : (IPv4Header.ofBytes bytes).Framed bytes.length)
    (payload :
      rest.str =
        bytes.drop (4 * (IPv4Header.ofBytes bytes).hlen.toNat)) :
    image { header := IPv4Header.ofBytes bytes, payload := [rest] } =
      IPv4Header.reencoded bytes
          (4 * (IPv4Header.ofBytes bytes).hlen.toNat)
          (recomputed bytes) ++
        bytes.drop (4 * (IPv4Header.ofBytes bytes).hlen.toNat) := by
  rw [image, headerOut_of_framed long framed,
    IPv4Header.resize_ofBytes long (headerLength_of_framed framed),
    BufferList.concatenate_cons, BufferList.concatenate_nil,
    List.append_nil, payload]

end Sent

/-- The checksum field of a packet that verifies, computed again. -/
theorem cksum_of_verified
    {bytes : Bytes}
    {size : Nat}
    (minimal : IPv4Header.length ≤ size)
    (small : size ≤ 60)
    (present : size ≤ bytes.length)
    (verifies :
      (({} : InternetChecksum).add (bytes.take size)).value = 0) :
    let computed :=
      (({} : InternetChecksum).add
        (slice bytes 0 10 ++
          (NetUnparser.u16 0 ++ slice bytes 12 (size - 12)))).value
    computed = u16At bytes 10 ∨
      u16At bytes 10 = 0xffff ∧ computed = 0 := by
  have atLeast : 20 ≤ size := minimal
  have front : (slice bytes 0 10).length = 10 := length_slice (by omega)
  have back : (slice bytes 12 (size - 12)).length = size - 12 :=
    length_slice (by omega)
  have layout :
      bytes.take size =
        slice bytes 0 10 ++
          (NetUnparser.u16 (u16At bytes 10) ++
            slice bytes 12 (size - 12)) := by
    rw [u16_u16At (by omega), slice_append_slice bytes 10 2,
      slice_append_slice bytes 0 10, ← slice_zero]
    congr 1
    omega
  rw [layout] at verifies
  refine InternetChecksum.field_of_value_eq_zero rfl (by rw [front]) ?_
    verifies
  rw [front, back]
  change 0 + _ < _
  omega

/--
The packet `sent` is `received` with a header of `size` bytes written again.  Its
options are zero, the reserved flag is cleared and the checksum is the one of
the new header.  It is the same packet if there were neither options nor the
flag, except that a checksum of all ones becomes zero.
-/
structure Reencodes
    (received sent : Bytes)
    (size : Nat) : Prop where
  length : sent.length = received.length
  kept :
    ∀ i,
      i < received.length →
      i < 10 ∨ 12 ≤ i →
      u8At sent i =
        if 20 ≤ i ∧ i < size then
          0
        else if i = 6 then
          u8At received 6 &&& 0x7f
        else
          u8At received i
  cksum :
    u16At sent 10 =
      (({} : InternetChecksum).add
        (slice sent 0 10 ++
          ([0, 0] ++ slice sent 12 (size - 12)))).value
  plain :
    (∀ i, 20 ≤ i → i < size → u8At received i = 0) →
    u8At received 6 &&& 0x80 = 0 →
    sent = received ∨
      u16At received 10 = 0xffff ∧
        sent = slice received 0 10 ++ ([0, 0] ++ received.drop 12)

theorem reencodes
    {bytes : Bytes}
    {size : Nat}
    (long : IPv4Header.length ≤ bytes.length)
    (minimal : IPv4Header.length ≤ size)
    (small : size ≤ 60)
    (present : size ≤ bytes.length)
    (verifies :
      (({} : InternetChecksum).add (bytes.take size)).value = 0)
    {cksum : UInt16}
    (computed :
      cksum =
        (({} : InternetChecksum).add
          (IPv4Header.reencoded bytes size 0)).value) :
    Reencodes bytes
      (IPv4Header.reencoded bytes size cksum ++ bytes.drop size)
      size := by
  have atLeast : 20 ≤ size := minimal
  have headerLength :
      (IPv4Header.reencoded bytes size cksum).length = size :=
    IPv4Header.length_reencoded long minimal _
  obtain ⟨field, zeroed⟩ :=
    IPv4Header.reencoded_cksum long minimal cksum (bytes.drop size)
  refine ⟨?_, ?_, ?_, ?_⟩
  · rw [List.length_append, headerLength, List.length_drop]
    omega
  · intro i inside outside
    by_cases inHeader : i < size
    · rw [u8At_append_left (by omega),
        IPv4Header.u8At_reencoded long inHeader outside]
      simp only [inHeader, and_true]
    · rw [u8At_append_right (by omega), headerLength, if_neg (by omega),
        if_neg (by omega), u8At, u8At, List.getD_eq_getElem?_getD,
        List.getD_eq_getElem?_getD, List.getElem?_drop,
        Nat.add_sub_cancel' (Nat.le_of_not_lt inHeader)]
  · rw [← zeroed] at computed
    exact field.trans computed
  · intro noOptions reserved
    have header :=
      IPv4Header.reencoded_of_plain long minimal present noOptions
        reserved
    have again := cksum_of_verified minimal small present verifies
    rw [← header] at again
    have sentAs :
        IPv4Header.reencoded bytes size cksum ++ bytes.drop size =
          slice bytes 0 10 ++
            (NetUnparser.u16 cksum ++ bytes.drop 12) := by
      have tail := slice_append_drop bytes 12 (size - 12)
      rw [Nat.add_sub_cancel' (by omega)] at tail
      rw [header, ← tail]
      simp only [List.append_assoc]
    have original :
        slice bytes 0 10 ++
            (NetUnparser.u16 (u16At bytes 10) ++ bytes.drop 12) =
          bytes := by
      rw [u16_u16At (by omega), slice_append_drop bytes 10 2,
        slice_append_drop bytes 0 10, List.drop_zero]
    rw [sentAs, computed]
    rcases again with same | ⟨allOnes, zero⟩
    · exact Or.inl (by rw [same, original])
    · exact Or.inr ⟨allOnes, by rw [zero]; rfl⟩

/--
A packet that the header parser accepts is parsed and serialised to the packet
written again, which the parsers accept too: as the same datagram, up to the
checksum field.
-/
theorem reencoding_faithful
    (self : IPv4Datagram)
    (buffer : Buffer)
    (accepts : self.header.Accepts buffer) :
    ∃ dgram out again,
      self.parse buffer = .ok .noError dgram ∧
      dgram.serialize = .ok out ∧
      Reencodes buffer.str out.concatenate
        (4 * dgram.header.hlen.toNat) ∧
      self.header.Accepts (Buffer.ofString out.concatenate) ∧
      self.parse (Buffer.ofString out.concatenate) =
        .ok .noError again ∧
      again.header =
        dgram.header.withCksum (u16At out.concatenate 10) ∧
      again.payload.concatenate = dgram.payload.concatenate := by
  obtain ⟨long, framed, verifies⟩ :=
    IPv4Header.accepts_iff.mp accepts
  obtain ⟨rest, parsed, payload⟩ := self.parse_of_framed long framed
  have wellFormed := wellFormed_of_framed framed payload
  have minimal := headerLength_of_framed framed
  have small :
      4 * (IPv4Header.ofBytes buffer.str).hlen.toNat ≤ 60 :=
    Nat.mul_le_mul_left 4 wellFormed.maximal
  obtain ⟨out, serialized, image⟩ :=
    serialize_of_serializable wellFormed.serializable
  obtain ⟨next, headerParsed, _⟩ :=
    wellFormed.headerParse_image self.header
  obtain ⟨sentRest, parsedAgain, samePayload⟩ :=
    wellFormed.parse_image self
  have sent := image.trans (image_of_framed long framed payload)
  have field :
      u16At out.concatenate 10 = recomputed buffer.str := by
    rw [sent]
    exact (IPv4Header.reencoded_cksum long minimal _ _).1
  rw [← image] at headerParsed parsedAgain
  refine ⟨_, out, _, parsed, serialized, ?_, ?_, parsedAgain, ?_, ?_⟩
  · rw [sent]
    exact reencodes long minimal small framed.present verifies rfl
  · rw [headerAccepts_iff headerParsed]
  · rw [field]
    exact headerOut_of_framed long framed
  · rw [BufferList.concatenate_cons, BufferList.concatenate_nil,
      List.append_nil]
    exact samePayload

/-- A header with an option and the reserved flag, and one byte behind it. -/
def flaggedPacket : Bytes :=
  [0x46, 0, 0, 25, 0, 0, 0xc0, 0, 64, 17, 0xb8, 0xd3, 0, 0, 0, 0,
    0, 0, 0, 0, 1, 1, 0, 0, 7]

/-- The option and the flag are lost. -/
theorem reencoding_faithful_flagged :
    ({} : IPv4Header).Accepts (Buffer.ofString flaggedPacket) ∧
      ∃ dgram out,
        ({} : IPv4Datagram).parse (Buffer.ofString flaggedPacket) =
            .ok .noError dgram ∧
          dgram.serialize = .ok out ∧
          out.concatenate.length = 25 := by
  have accepts :
      ({} : IPv4Header).Accepts (Buffer.ofString flaggedPacket) := by
    decide +kernel
  obtain ⟨dgram, out, _, parsed, serialized, written, _⟩ :=
    reencoding_faithful {} (Buffer.ofString flaggedPacket) accepts
  refine ⟨accepts, dgram, out, parsed, serialized, ?_⟩
  rw [written.length]
  rfl

end IPv4Datagram

end Sponge
