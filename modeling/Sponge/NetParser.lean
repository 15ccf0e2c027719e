import Mathlib.Data.Vector.Basic
import Sponge.BigEndian
import Sponge.Buffer
import Sponge.Reading

namespace Sponge

open Reading

/-!
# Reading and writing integers in network byte order

A `NetParser` takes integers off the front of a buffer and remembers whether it
ran out of bytes; a read that fails returns zero and takes nothing.  The
unparser appends the bytes of an integer to a string.
-/

/-- The result of parsing a datagram, a segment, a frame or a message. -/
inductive ParseResult where
  | noError
  | badChecksum
  | packetTooShort
  | wrongIPVersion
  | headerTooShort
  | truncatedPacket
  | unsupported
  deriving DecidableEq

/-- What is left to parse, and the error that was met. -/
structure NetParser where
  buffer : Buffer
  error : ParseResult := .noError
  deriving DecidableEq

/-- A computation that reads from a parser and may throw. -/
abbrev Parser := EStateM StdException NetParser

namespace NetParser

/-- Record an error unless enough bytes are left. -/
def checkSize (size : Nat) : Parser Unit :=
  modify fun parser =>
    if parser.buffer.str.length < size then
      { parser with error := .packetTooShort }
    else
      parser

/-- Whether there has been an error. -/
def hasError : Parser Bool :=
  return decide ((← get).error ≠ .noError)

/-- The byte at location `n` of the buffer. -/
def byteAt (n : Nat) : Parser UInt8 := fun parser =>
  match parser.buffer.byteAt n with
  | .ok byte => .ok byte parser
  | .error thrown => .error thrown parser

/-- Discard bytes of the buffer without a check. -/
def discard (n : Nat) : Parser Unit := fun parser =>
  match parser.buffer.removePrefix n with
  | .ok _ buffer => .ok () { parser with buffer }
  | .error thrown buffer => .error thrown { parser with buffer }

/-- Accumulate `remaining` bytes from location `i` in `width` bytes. -/
def parseIntLoop
    (width : Nat) :
    (remaining i ret : Nat) → Parser Nat
  | 0, _, ret => pure ret
  | remaining + 1, i, ret => do
      let byte ← byteAt i
      parseIntLoop width remaining (i + 1)
        ((ret * 256 + byte.toNat) % 256 ^ width)

/-- Take an integer of `len` bytes off the front. -/
def parseInt (len : Nat) : Parser Nat := do
  checkSize len
  if ← hasError then
    return 0
  let ret ← parseIntLoop len len 0 0
  discard len
  return ret

/-- Read a 32-bit number. -/
def u32 : Parser UInt32 :=
  UInt32.ofNat <$> parseInt 4

/-- Read a 16-bit number. -/
def u16 : Parser UInt16 :=
  UInt16.ofNat <$> parseInt 2

/-- Read a byte. -/
def u8 : Parser UInt8 :=
  UInt8.ofNat <$> parseInt 1

/-- Remove `n` bytes from the buffer. -/
def removePrefix (n : Nat) : Parser Unit := do
  checkSize n
  if ← hasError then
    pure ()
  else
    discard n

/-- Read one byte for each place of a fixed array. -/
def byteArray : (n : Nat) → Parser (List.Vector UInt8 n)
  | 0 => pure List.Vector.nil
  | n + 1 => do
      let byte ← u8
      let rest ← byteArray n
      return List.Vector.cons byte rest

end NetParser

namespace NetUnparser

/-- The bytes of `val`, from the most significant of its `len` bytes down. -/
def unparseInt : (len val : Nat) → Bytes
  | 0, _ => []
  | remaining + 1, val =>
      UInt8.ofNat ((val >>> (remaining * 8)) &&& 0xff) ::
        unparseInt remaining val

/-- Write a 32-bit number. -/
def u32 (val : UInt32) : Bytes :=
  unparseInt 4 val.toNat

/-- Write a 16-bit number. -/
def u16 (val : UInt16) : Bytes :=
  unparseInt 2 val.toNat

/-- Write a byte. -/
def u8 (val : UInt8) : Bytes :=
  unparseInt 1 val.toNat

/-- Write the bytes of a fixed array one by one. -/
def byteArray
    {n : Nat}
    (bytes : List.Vector UInt8 n) : Bytes :=
  bytes.toList.flatMap u8

/-- `std::string::resize`: cut off or fill up with zero bytes. -/
def resize
    (length : Nat)
    (bytes : Bytes) : Bytes :=
  bytes.take length ++ List.replicate (length - bytes.length) 0

theorem unparseInt_eq_encode
    (len val : Nat) :
    unparseInt len val = BigEndian.encode len val := by
  induction len with
  | zero =>
      rfl
  | succ remaining inductionHypothesis =>
      have byte :
          UInt8.ofNat ((val >>> (remaining * 8)) &&& 0xff) =
            UInt8.ofNat (val / 256 ^ remaining) := by
        apply UInt8.toNat.inj
        rw [UInt8.toNat_ofNat', UInt8.toNat_ofNat',
          Nat.shiftRight_eq_div_pow, Nat.mul_comm, Nat.pow_mul,
          Nat.and_two_pow_sub_one_eq_mod _ 8, Nat.mod_mod]
      rw [unparseInt, BigEndian.encode, byte, inductionHypothesis]

@[simp] theorem length_u32
    (val : UInt32) :
    (u32 val).length = 4 := by
  rw [u32, unparseInt_eq_encode, BigEndian.length_encode]

@[simp] theorem length_u16
    (val : UInt16) :
    (u16 val).length = 2 := by
  rw [u16, unparseInt_eq_encode, BigEndian.length_encode]

@[simp] theorem u8_eq
    (val : UInt8) :
    u8 val = [val] := by
  have whole : 256 ^ 0 = 1 := rfl
  rw [u8, unparseInt_eq_encode, BigEndian.encode, BigEndian.encode,
    whole, Nat.div_one, UInt8.ofNat_toNat]

@[simp] theorem byteArray_eq
    {n : Nat}
    (bytes : List.Vector UInt8 n) :
    byteArray bytes = bytes.toList := by
  have single : (u8 : UInt8 → Bytes) = fun byte => [byte] :=
    funext u8_eq
  rw [byteArray, single, List.flatMap_singleton']

/-- Filling up appends zero bytes. -/
theorem resize_of_le
    {length : Nat}
    {bytes : Bytes}
    (short : bytes.length ≤ length) :
    resize length bytes =
      bytes ++ List.replicate (length - bytes.length) 0 := by
  rw [resize, List.take_of_length_le short]

@[simp] theorem length_resize
    (length : Nat)
    (bytes : Bytes) :
    (resize length bytes).length = length := by
  rw [resize, List.length_append, List.length_take, List.length_replicate]
  omega

end NetUnparser

namespace NetParser

/-- `count` bytes from location `start`. -/
def slice
    (bytes : Bytes)
    (start count : Nat) : Bytes :=
  (bytes.drop start).take count

theorem length_slice
    {bytes : Bytes}
    {start count : Nat}
    (inside : start + count ≤ bytes.length) :
    (slice bytes start count).length = count := by
  rw [slice, List.length_take, List.length_drop]
  omega

/-- What is left from a location on begins with a slice. -/
theorem slice_append_drop
    (bytes : Bytes)
    (start count : Nat) :
    slice bytes start count ++ bytes.drop (start + count) =
      bytes.drop start := by
  rw [slice, ← List.drop_drop, List.take_append_drop]

theorem slice_one
    {bytes : Bytes}
    {start : Nat}
    (inside : start < bytes.length) :
    slice bytes start 1 = [bytes.getD start 0] := by
  rw [slice, List.drop_eq_getElem_cons inside,
    List.getD_eq_getElem?_getD, List.getElem?_eq_getElem inside]
  rfl

/-- The integers that stand at a location. -/
def u8At
    (bytes : Bytes)
    (start : Nat) : UInt8 :=
  bytes.getD start 0

/-- The 16-bit number at a position. -/
def u16At
    (bytes : Bytes)
    (start : Nat) : UInt16 :=
  UInt16.ofNat (BigEndian.value (slice bytes start 2))

/-- The 32-bit number at a position. -/
def u32At
    (bytes : Bytes)
    (start : Nat) : UInt32 :=
  UInt32.ofNat (BigEndian.value (slice bytes start 4))

theorem slice_append_slice
    (bytes : Bytes)
    (start first second : Nat) :
    slice bytes start first ++ slice bytes (start + first) second =
      slice bytes start (first + second) := by
  rw [slice, slice, slice, ← List.drop_drop, List.take_add]

theorem slice_zero
    (bytes : Bytes)
    (count : Nat) :
    slice bytes 0 count = bytes.take count :=
  rfl

/-- Writing the integer that stands at a location gives its bytes back. -/
theorem u8_u8At
    {bytes : Bytes}
    {start : Nat}
    (inside : start + 1 ≤ bytes.length) :
    NetUnparser.u8 (u8At bytes start) = slice bytes start 1 := by
  rw [NetUnparser.u8_eq, slice_one inside]
  rfl

theorem u16_u16At
    {bytes : Bytes}
    {start : Nat}
    (inside : start + 2 ≤ bytes.length) :
    NetUnparser.u16 (u16At bytes start) = slice bytes start 2 := by
  have length := length_slice inside
  have bounded := BigEndian.value_lt (slice bytes start 2)
  have back := BigEndian.encode_value (slice bytes start 2)
  rw [length] at bounded back
  rw [NetUnparser.u16, NetUnparser.unparseInt_eq_encode, u16At,
    UInt16.toNat_ofNat_of_lt' bounded, back]

theorem u32_u32At
    {bytes : Bytes}
    {start : Nat}
    (inside : start + 4 ≤ bytes.length) :
    NetUnparser.u32 (u32At bytes start) = slice bytes start 4 := by
  have length := length_slice inside
  have bounded := BigEndian.value_lt (slice bytes start 4)
  have back := BigEndian.encode_value (slice bytes start 4)
  rw [length] at bounded back
  rw [NetUnparser.u32, NetUnparser.unparseInt_eq_encode, u32At,
    UInt32.toNat_ofNat_of_lt' bounded, back]

/-- The array of bytes that stands at a location. -/
def byteArrayAt
    (n : Nat)
    (bytes : Bytes)
    (start : Nat) : List.Vector UInt8 n :=
  List.Vector.ofFn fun i => u8At bytes (start + i)

theorem byteArray_byteArrayAt
    {n : Nat}
    {bytes : Bytes}
    {start : Nat}
    (inside : start + n ≤ bytes.length) :
    NetUnparser.byteArray (byteArrayAt n bytes start) =
      slice bytes start n := by
  rw [NetUnparser.byteArray_eq, byteArrayAt, List.Vector.toList_ofFn]
  refine List.ext_getElem ?_ ?_
  · rw [List.length_ofFn, length_slice inside]
  · intro i within _
    rw [List.length_ofFn] at within
    simp [slice, u8At, show start + i < bytes.length by omega]

/-- No error so far, and these bytes are left. -/
structure Holds
    (parser : NetParser)
    (bytes : Bytes) : Prop where
  noError : parser.error = .noError
  left : parser.buffer.str = bytes

/-- The parser ran out of bytes. -/
def Failed (parser : NetParser) : Prop :=
  parser.error = .packetTooShort

/-- The reading rules at the state of a parser. -/
abbrev Reads {α : Type} (reader : Parser α) (bytes : Bytes) (value : α) :
    Prop :=
  Reading.Reads Holds reader bytes value

/-- A reader takes a fixed number of bytes, or fails for want of them. -/
abbrev Consumes {α : Type} (reader : Parser α) (width : Nat) : Prop :=
  Reading.Consumes Holds Failed reader width

theorem holds_start
    (buffer : Buffer) :
    Holds { buffer } buffer.str :=
  ⟨rfl, rfl⟩

/-- A sufficient size check changes nothing. -/
theorem checkSize_of_le
    {parser : NetParser}
    {size : Nat}
    (enough : size ≤ parser.buffer.str.length) :
    checkSize size parser = .ok () parser := by
  change EStateM.Result.ok () (if _ then _ else _) = _
  rw [if_neg (by omega)]

/-- A failed size check is remembered. -/
theorem checkSize_of_lt
    {parser : NetParser}
    {size : Nat}
    (short : parser.buffer.str.length < size) :
    checkSize size parser =
      .ok () { parser with error := .packetTooShort } := by
  change EStateM.Result.ok () (if _ then _ else _) = _
  rw [if_pos short]

/-- A size check keeps a failure. -/
theorem checkSize_of_failed
    {parser : NetParser}
    (size : Nat)
    (failed : Failed parser) :
    checkSize size parser = .ok () parser := by
  rcases parser with ⟨buffer, error⟩
  cases (failed : error = _)
  change EStateM.Result.ok () (if _ then _ else _) = _
  split <;> rfl

theorem hasError_eq
    (parser : NetParser) :
    hasError parser =
      .ok (decide (parser.error ≠ .noError)) parser :=
  rfl

/-- The loop reads the bytes in front of it as one number. -/
theorem parseIntLoop_eq
    {width : Nat}
    {parser : NetParser}
    (front bytes rest : Bytes)
    (ret : Nat)
    (layout : parser.buffer.str = front ++ (bytes ++ rest))
    (fits :
      ret * 256 ^ bytes.length + BigEndian.value bytes < 256 ^ width) :
    parseIntLoop width bytes.length front.length ret parser =
      .ok (ret * 256 ^ bytes.length + BigEndian.value bytes) parser := by
  induction bytes generalizing front ret with
  | nil =>
      simp only [List.length_nil, pow_zero, Nat.mul_one,
        BigEndian.value_nil, Nat.add_zero]
      rfl
  | cons byte more inductionHypothesis =>
      have found : byteAt front.length parser = .ok byte parser := by
        have stored : parser.buffer.str[front.length]? = some byte := by
          rw [layout]
          simp
        rw [byteAt, Buffer.byteAt, stored]
      have regrouped :
          ret * 256 ^ (byte :: more).length +
              BigEndian.value (byte :: more) =
            (ret * 256 + byte.toNat) * 256 ^ more.length +
              BigEndian.value more := by
        rw [List.length_cons, BigEndian.value_cons, pow_succ]
        ring
      rw [regrouped] at fits ⊢
      -- the shifted accumulator still fits, so nothing is shifted out
      have small : ret * 256 + byte.toNat < 256 ^ width :=
        calc
          ret * 256 + byte.toNat
              ≤ (ret * 256 + byte.toNat) * 256 ^ more.length :=
            Nat.le_mul_of_pos_right _ (Nat.pow_pos (by decide))
          _ ≤ _ := Nat.le_add_right _ _
          _ < 256 ^ width := fits
      have next :=
        inductionHypothesis (front ++ [byte]) (ret * 256 + byte.toNat)
          (by rw [layout, List.append_assoc]; rfl)
          fits
      rw [List.length_append, List.length_singleton] at next
      rw [List.length_cons, parseIntLoop, bind_of_ok found,
        Nat.mod_eq_of_lt small, next]

/-- Discarding bytes that are there. -/
theorem Holds.discard
    {parser : NetParser}
    {bytes : Bytes}
    (n : Nat)
    (holds : Holds parser bytes)
    (enough : n ≤ bytes.length) :
    ∃ next,
      NetParser.discard n parser = .ok () next ∧
        Holds next (bytes.drop n) := by
  have stored : n ≤ parser.buffer.str.length := by
    rw [holds.left]
    exact enough
  obtain ⟨remaining, removed, dropped⟩ := Buffer.removePrefix_str stored
  refine ⟨{ parser with buffer := remaining }, ?_, holds.noError, ?_⟩
  · rw [NetParser.discard, removed]
  · rw [dropped, holds.left]

/-- Reading an integer whose bytes are there. -/
theorem Holds.parseInt
    {parser : NetParser}
    {bytes : Bytes}
    (len : Nat)
    (holds : Holds parser bytes)
    (enough : len ≤ bytes.length) :
    ∃ next,
      NetParser.parseInt len parser =
          .ok (BigEndian.value (bytes.take len)) next ∧
        Holds next (bytes.drop len) := by
  have length : (bytes.take len).length = len := by
    rw [List.length_take, Nat.min_eq_left enough]
  have fits := BigEndian.value_lt (bytes.take len)
  rw [length] at fits
  have looped :=
    parseIntLoop_eq [] (bytes.take len) (bytes.drop len) 0
      (by rw [holds.left, List.nil_append, List.take_append_drop])
      (by rw [Nat.zero_mul, Nat.zero_add]; exact fits)
  rw [length, Nat.zero_mul, Nat.zero_add, List.length_nil] at looped
  obtain ⟨next, discarded, nextHolds⟩ := holds.discard _ enough
  have checked : checkSize len parser = .ok () parser :=
    checkSize_of_le (by rw [holds.left]; exact enough)
  have noError : hasError parser = .ok false parser := by
    rw [hasError_eq, holds.noError]
    rfl
  refine ⟨next, ?_, nextHolds⟩
  rw [NetParser.parseInt, bind_of_ok checked, bind_of_ok noError,
    if_neg (by decide), bind_of_ok looped, bind_of_ok discarded]
  rfl

theorem reads_parseInt
    (bytes : Bytes) :
    Reads (parseInt bytes.length) bytes (BigEndian.value bytes) := by
  intro parser rest holds
  have read := holds.parseInt bytes.length (by simp)
  rwa [List.take_left, List.drop_left] at read

/-- After an error an integer is read as zero and nothing is taken. -/
theorem parseInt_of_checked_error
    {parser checked : NetParser}
    {len : Nat}
    (sizeChecked : checkSize len parser = .ok () checked)
    (failed : Failed checked) :
    parseInt len parser = .ok 0 checked := by
  have hasFailed : hasError checked = .ok true checked := by
    rw [hasError_eq, (failed : checked.error = _)]
    rfl
  rw [parseInt, bind_of_ok sizeChecked, bind_of_ok hasFailed,
    if_pos rfl]
  rfl

theorem consumes_parseInt
    (len : Nat) :
    Consumes (parseInt len) len where
  enough parser bytes holds long := by
    obtain ⟨next, read, nextHolds⟩ := holds.parseInt _ long
    exact ⟨_, next, read, nextHolds⟩
  short parser bytes holds tooShort :=
    ⟨0, _,
      parseInt_of_checked_error
        (checkSize_of_lt (by rw [holds.left]; exact tooShort)) rfl,
      rfl⟩
  failed parser failed :=
    ⟨0, parser,
      parseInt_of_checked_error (checkSize_of_failed len failed) failed,
      failed⟩

/-- Removing bytes that are there. -/
theorem Holds.removePrefix
    {parser : NetParser}
    {bytes : Bytes}
    (n : Nat)
    (holds : Holds parser bytes)
    (enough : n ≤ bytes.length) :
    ∃ next,
      NetParser.removePrefix n parser = .ok () next ∧
        Holds next (bytes.drop n) := by
  obtain ⟨next, discarded, nextHolds⟩ := holds.discard _ enough
  have checked : checkSize n parser = .ok () parser :=
    checkSize_of_le (by rw [holds.left]; exact enough)
  have noError : hasError parser = .ok false parser := by
    rw [hasError_eq, holds.noError]
    rfl
  refine ⟨next, ?_, nextHolds⟩
  rw [NetParser.removePrefix, bind_of_ok checked, bind_of_ok noError,
    if_neg (by decide), discarded]

theorem removePrefix_of_checked_error
    {parser checked : NetParser}
    {n : Nat}
    (sizeChecked : checkSize n parser = .ok () checked)
    (failed : Failed checked) :
    removePrefix n parser = .ok () checked := by
  have hasFailed : hasError checked = .ok true checked := by
    rw [hasError_eq, (failed : checked.error = _)]
    rfl
  rw [removePrefix, bind_of_ok sizeChecked, bind_of_ok hasFailed,
    if_pos rfl]
  rfl

theorem consumes_removePrefix
    (n : Nat) :
    Consumes (removePrefix n) n where
  enough parser bytes holds long := by
    obtain ⟨next, removed, nextHolds⟩ := holds.removePrefix _ long
    exact ⟨(), next, removed, nextHolds⟩
  short parser bytes holds tooShort :=
    ⟨(), _,
      removePrefix_of_checked_error
        (checkSize_of_lt (by rw [holds.left]; exact tooShort)) rfl,
      rfl⟩
  failed parser failed :=
    ⟨(), parser,
      removePrefix_of_checked_error (checkSize_of_failed n failed) failed,
      failed⟩

theorem consumes_u32 : Consumes u32 4 :=
  (consumes_parseInt 4).map _

theorem consumes_u16 : Consumes u16 2 :=
  (consumes_parseInt 2).map _

theorem consumes_u8 : Consumes u8 1 :=
  (consumes_parseInt 1).map _

/-- Any four bytes are read as the number they stand for. -/
theorem reads_u32_bytes
    {bytes : Bytes}
    (four : bytes.length = 4) :
    Reads u32 bytes (UInt32.ofNat (BigEndian.value bytes)) := by
  have read := (reads_parseInt bytes).map UInt32.ofNat
  rwa [four] at read

theorem reads_u16_bytes
    {bytes : Bytes}
    (two : bytes.length = 2) :
    Reads u16 bytes (UInt16.ofNat (BigEndian.value bytes)) := by
  have read := (reads_parseInt bytes).map UInt16.ofNat
  rwa [two] at read

theorem reads_u32At
    (bytes : Bytes)
    (start : Nat)
    (inside : start + 4 ≤ bytes.length) :
    Reads u32 (slice bytes start 4) (u32At bytes start) :=
  reads_u32_bytes (length_slice inside)

theorem reads_u16At
    (bytes : Bytes)
    (start : Nat)
    (inside : start + 2 ≤ bytes.length) :
    Reads u16 (slice bytes start 2) (u16At bytes start) :=
  reads_u16_bytes (length_slice inside)

/-- What the unparser writes is read back. -/
theorem reads_u32
    (val : UInt32) :
    Reads u32 (NetUnparser.u32 val) val := by
  have number :
      BigEndian.value (NetUnparser.u32 val) = val.toNat := by
    rw [NetUnparser.u32, NetUnparser.unparseInt_eq_encode,
      BigEndian.value_encode_of_lt val.toNat_lt]
  have read := reads_u32_bytes (NetUnparser.length_u32 val)
  rwa [number, UInt32.ofNat_toNat] at read

theorem reads_u16
    (val : UInt16) :
    Reads u16 (NetUnparser.u16 val) val := by
  have number :
      BigEndian.value (NetUnparser.u16 val) = val.toNat := by
    rw [NetUnparser.u16, NetUnparser.unparseInt_eq_encode,
      BigEndian.value_encode_of_lt val.toNat_lt]
  have read := reads_u16_bytes (NetUnparser.length_u16 val)
  rwa [number, UInt16.ofNat_toNat] at read

theorem reads_u8
    (val : UInt8) :
    Reads u8 [val] val := by
  have read := (reads_parseInt [val]).map UInt8.ofNat
  rwa [BigEndian.value_cons, List.length_nil, pow_zero, Nat.mul_one,
    BigEndian.value_nil, Nat.add_zero, UInt8.ofNat_toNat] at read

theorem reads_u8At
    (bytes : Bytes)
    (start : Nat)
    (inside : start + 1 ≤ bytes.length) :
    Reads u8 (slice bytes start 1) (u8At bytes start) := by
  rw [slice_one inside]
  exact reads_u8 _

theorem reads_byteArray
    {n : Nat}
    (bytes : List.Vector UInt8 n) :
    Reads (byteArray n) bytes.toList bytes := by
  induction n with
  | zero =>
      rw [bytes.eq_nil]
      exact Reading.Reads.pure _
  | succ n inductionHypothesis =>
      obtain ⟨byte, rest, rfl⟩ := bytes.exists_eq_cons
      have tail :
          Reads
            (byteArray n >>= fun rest =>
              pure (List.Vector.cons byte rest))
            (rest.toList ++ []) (List.Vector.cons byte rest) :=
        (inductionHypothesis rest).bind (Reading.Reads.pure _)
      rw [List.append_nil] at tail
      exact (reads_u8 byte).bind tail

theorem consumes_byteArray
    (n : Nat) :
    Consumes (byteArray n) n := by
  induction n with
  | zero =>
      exact Reading.Consumes.pure _
  | succ n inductionHypothesis =>
      have sequence : Consumes (byteArray (n + 1)) (1 + (n + 0)) :=
        consumes_u8.bind fun byte =>
          inductionHypothesis.bind fun rest =>
            Reading.Consumes.pure (List.Vector.cons byte rest)
      rwa [Nat.add_zero, Nat.add_comm 1] at sequence

end NetParser

end Sponge
