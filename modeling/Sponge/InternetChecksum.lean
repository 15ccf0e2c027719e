import Sponge.Execution
import Sponge.NetParser
import Sponge.OnesComplement

namespace Sponge

open OnesComplement (normal carry)

/-!
# The Internet checksum

The checksum accumulates the bytes of several strings as 16-bit words, in a
32-bit counter, and folds the carries back when its value is asked for.  A
string whose checksum field holds the value computed with an empty field has
value zero.
-/

/-- The running sum, and whether the next byte is the low one of its word. -/
structure InternetChecksum where
  sum : UInt32 := 0
  parity : Bool := false
  deriving DecidableEq

namespace InternetChecksum

/-- Add one byte to the running sum. -/
def addByte
    (check : InternetChecksum)
    (byte : UInt8) : InternetChecksum :=
  let val := byte.toUInt16
  let val := if check.parity then val else val <<< 8
  { sum := check.sum + val.toUInt32
    parity := !check.parity }

/-- Add the bytes of a string. -/
def add
    (check : InternetChecksum)
    (data : Bytes) : InternetChecksum :=
  data.foldl addByte check

/-- One round of the loop `while (ret > 0xffff)`. -/
def foldRound (ret : UInt32) : UInt32 ⊕ UInt32 :=
  if ret > 0xffff then
    .inl ((ret >>> 16) + (ret &&& 0xffff))
  else
    .inr ret

/-- Fold the carries back until the sum fits in 16 bits. -/
def foldLoop (fuel : Nat) (ret : UInt32) : UInt32 :=
  Execution.iterate foldRound id fuel ret

/-- The complement of the folded sum; two rounds fold every sum. -/
def value (check : InternetChecksum) : UInt16 :=
  (~~~ foldLoop 2 check.sum).toUInt16

/-- The sum of the words of a string, before any carry is lost. -/
def wordSum : (parity : Bool) → Bytes → Nat
  | _, [] => 0
  | parity, byte :: rest =>
      (if parity then byte.toNat else byte.toNat * 256) +
        wordSum (!parity) rest

@[simp] theorem add_nil
    (check : InternetChecksum) :
    check.add [] = check :=
  rfl

theorem add_append
    (check : InternetChecksum)
    (first second : Bytes) :
    check.add (first ++ second) = (check.add first).add second :=
  List.foldl_append

theorem addByte_sum
    (check : InternetChecksum)
    (byte : UInt8) :
    (check.addByte byte).sum.toNat =
      (check.sum.toNat +
        if check.parity then byte.toNat else byte.toNat * 256) %
        2 ^ 32 := by
  have small := byte.toNat_lt
  rw [addByte, UInt32.toNat_add]
  cases check.parity with
  | true =>
      rfl
  | false =>
      have shifted :
          (byte.toUInt16 <<< 8).toUInt32.toNat = byte.toNat * 256 := by
        rw [UInt16.toNat_toUInt32, UInt16.toNat_shiftLeft,
          UInt8.toNat_toUInt16]
        change byte.toNat <<< 8 % 2 ^ 16 = _
        rw [Nat.shiftLeft_eq]
        omega
      simp only [Bool.false_eq_true, ↓reduceIte]
      rw [shifted]

/-- The counter holds the sum of the words, modulo its size. -/
theorem add_sum
    (check : InternetChecksum)
    (data : Bytes) :
    (check.add data).sum.toNat =
      (check.sum.toNat + wordSum check.parity data) % 2 ^ 32 := by
  induction data generalizing check with
  | nil =>
      rw [add_nil, wordSum, Nat.add_zero,
        Nat.mod_eq_of_lt check.sum.toNat_lt]
  | cons byte rest inductionHypothesis =>
      have next := inductionHypothesis (check.addByte byte)
      rw [addByte_sum, Nat.mod_add_mod, Nat.add_assoc] at next
      exact next

theorem wordSum_append
    (parity : Bool)
    (first second : Bytes) :
    wordSum parity (first ++ second) =
      wordSum parity first +
        wordSum (parity ^^ decide (first.length % 2 = 1)) second := by
  induction first generalizing parity with
  | nil =>
      simp [wordSum]
  | cons byte rest inductionHypothesis =>
      have flipped :
          (!parity ^^ decide (rest.length % 2 = 1)) =
            (parity ^^ decide ((rest.length + 1) % 2 = 1)) := by
        rcases Nat.mod_two_eq_zero_or_one rest.length with even | odd
        · simp [Nat.add_mod, even]
        · simp [Nat.add_mod, odd]
      rw [List.cons_append, wordSum, wordSum, inductionHypothesis,
        List.length_cons, flipped, Nat.add_assoc]

/-- After an even number of bytes the next word starts afresh. -/
theorem wordSum_append_of_even
    {first : Bytes}
    (even : first.length % 2 = 0)
    (second : Bytes) :
    wordSum false (first ++ second) =
      wordSum false first + wordSum false second := by
  rw [wordSum_append, even]
  rfl

theorem wordSum_le
    (parity : Bool)
    (data : Bytes) :
    wordSum parity data ≤ 65280 * data.length := by
  induction data generalizing parity with
  | nil =>
      exact Nat.le_refl 0
  | cons byte rest inductionHypothesis =>
      have small := byte.toNat_lt
      have remaining := inductionHypothesis (!parity)
      rw [wordSum, List.length_cons]
      split <;> omega

/-- A 16-bit number written at a word boundary adds its own value. -/
theorem wordSum_u16
    (val : UInt16) :
    wordSum false (NetUnparser.u16 val) = val.toNat := by
  have number :
      BigEndian.value (NetUnparser.u16 val) = val.toNat := by
    rw [NetUnparser.u16, NetUnparser.unparseInt_eq_encode,
      BigEndian.value_encode_of_lt val.toNat_lt]
  rw [← number]
  simp [NetUnparser.u16, NetUnparser.unparseInt, wordSum]

/-- One round of the loop is one round of end-around carry. -/
theorem folded_toNat
    (ret : UInt32) :
    ((ret >>> 16) + (ret &&& 0xffff)).toNat =
      carry 65535 ret.toNat := by
  have bounded := ret.toNat_lt
  have high : (ret >>> 16).toNat = ret.toNat / 65536 := by
    rw [UInt32.toNat_shiftRight]
    exact Nat.shiftRight_eq_div_pow ret.toNat 16
  have low : (ret &&& 0xffff).toNat = ret.toNat % 65536 := by
    rw [UInt32.toNat_and]
    exact Nat.and_two_pow_sub_one_eq_mod ret.toNat 16
  rw [UInt32.toNat_add, high, low, carry]
  omega

/-- A round that goes on carries, and one that leaves finds a word. -/
theorem foldRound_inl
    {ret next : UInt32}
    (goesOn : foldRound ret = .inl next) :
    65535 < ret.toNat ∧ next.toNat = carry 65535 ret.toNat := by
  unfold foldRound at goesOn
  split at goesOn
  · rename_i exceeds
    cases goesOn
    exact ⟨UInt32.lt_iff_toNat_lt.mp exceeds, folded_toNat ret⟩
  · cases goesOn

theorem foldRound_inr
    {ret result : UInt32}
    (left : foldRound ret = .inr result) :
    result = ret ∧ ret.toNat ≤ 65535 := by
  unfold foldRound at left
  split at left
  · cases left
  · rename_i fits
    cases left
    exact ⟨rfl, UInt32.le_iff_toNat_le.mp (UInt32.not_lt.mp fits)⟩

/-- How many more times the sum has to be folded. -/
def foldsLeft (ret : UInt32) : Nat :=
  if ret.toNat ≤ 65535 then
    0
  else if carry 65535 ret.toNat ≤ 65535 then
    1
  else
    2

/-- A second carry is at most one, so the third test of the loop fails. -/
theorem foldLoop_exits
    (ret : UInt32)
    {fuel : Nat}
    (enough : 3 ≤ fuel) :
    Execution.Exits foldRound ret (foldLoop fuel ret) := by
  refine Execution.exits_iterate (fun _ => True) foldsLeft ?_ trivial
    (Nat.lt_of_lt_of_le ?_ enough)
  · intro ret next _ goesOn
    obtain ⟨exceeds, carried⟩ := foldRound_inl goesOn
    have bounded := ret.toNat_lt
    refine ⟨trivial, ?_⟩
    rw [foldsLeft, foldsLeft, carried, if_neg (Nat.not_le.mpr exceeds)]
    by_cases once : carry 65535 ret.toNat ≤ 65535
    · rw [if_pos once, if_pos once]
      decide
    · have twice : carry 65535 (carry 65535 ret.toNat) ≤ 65535 := by
        unfold carry
        omega
      rw [if_neg once, if_pos twice, if_neg once]
      decide
  · unfold foldsLeft
    split
    · decide
    · split <;> decide

/-- The loop leaves the word the sum folds to. -/
theorem normal_of_exits
    {ret result : UInt32}
    (exits : Execution.Exits foldRound ret result) :
    result.toNat = normal 65535 ret.toNat ∧ result.toNat ≤ 65535 := by
  refine exits.invariant
    (fun word => normal 65535 word.toNat = normal 65535 ret.toNat)
    (fun word =>
      word.toNat = normal 65535 ret.toNat ∧ word.toNat ≤ 65535)
    ?_ ?_ rfl
  · intro word next same goesOn
    rw [(foldRound_inl goesOn).2, OnesComplement.normal_carry]
    exact same
  · intro word result same left
    obtain ⟨rfl, within⟩ := foldRound_inr left
    exact ⟨(OnesComplement.normal_of_le within).symm.trans same, within⟩

/-- Two rounds fold every sum, and the third only tests it. -/
theorem foldLoop_two
    (ret : UInt32) :
    foldLoop 3 ret = foldLoop 2 ret := by
  simp only [foldLoop, Execution.iterate]
  cases first : foldRound ret with
  | inr result =>
      rfl
  | inl once =>
      dsimp only
      cases second : foldRound once with
      | inr result =>
          rfl
      | inl twice =>
          have bounded := ret.toNat_lt
          have fits : twice.toNat ≤ 65535 := by
            have carriedOnce := (foldRound_inl first).2
            have carriedTwice := (foldRound_inl second).2
            unfold carry at carriedOnce carriedTwice
            omega
          have left : foldRound twice = .inr twice :=
            if_neg (UInt32.not_lt.mpr (UInt32.le_iff_toNat_le.mpr fits))
          simp only [left]
          rfl

theorem foldLoop_toNat
    (ret : UInt32) :
    (foldLoop 2 ret).toNat = normal 65535 ret.toNat := by
  rw [← foldLoop_two]
  exact (normal_of_exits (foldLoop_exits ret (Nat.le_refl 3))).1

theorem value_toNat
    (check : InternetChecksum) :
    check.value.toNat = 65535 - normal 65535 check.sum.toNat := by
  have bounded : normal 65535 check.sum.toNat ≤ 65535 :=
    OnesComplement.normal_le (by decide)
  have size : UInt32.size = 2 ^ 32 := rfl
  rw [value, UInt32.toNat_toUInt16, UInt32.toNat_not, foldLoop_toNat,
    size]
  omega

/-- A sum verifies exactly if it folds to the word of all ones. -/
theorem value_eq_zero_iff
    (check : InternetChecksum) :
    check.value = 0 ↔ normal 65535 check.sum.toNat = 65535 := by
  have bounded : normal 65535 check.sum.toNat ≤ 65535 :=
    OnesComplement.normal_le (by decide)
  have complement := value_toNat check
  rw [← UInt16.toNat_inj, complement]
  change 65535 - _ = 0 ↔ _
  omega

section Field

variable {check : InternetChecksum} {before after : Bytes}

/-- A 16-bit field at a word boundary adds its value to the rest. -/
theorem sum_field
    (fresh : check.parity = false)
    (even : before.length % 2 = 0)
    (fits :
      check.sum.toNat +
        65280 * (before.length + 2 + after.length) < 2 ^ 32 - 2 ^ 16)
    (val : UInt16) :
    (check.add (before ++ (NetUnparser.u16 val ++ after))).sum.toNat =
      check.sum.toNat + wordSum false before + wordSum false after +
        val.toNat := by
  have leading := wordSum_le false before
  have trailing := wordSum_le false after
  have small := val.toNat_lt
  have evenField : (NetUnparser.u16 val).length % 2 = 0 := by
    rw [NetUnparser.length_u16]
  rw [add_sum, fresh, wordSum_append_of_even even,
    wordSum_append_of_even evenField, wordSum_u16,
    Nat.mod_eq_of_lt (by omega)]
  omega

theorem sum_zeroField
    (fresh : check.parity = false)
    (even : before.length % 2 = 0)
    (fits :
      check.sum.toNat +
        65280 * (before.length + 2 + after.length) < 2 ^ 32 - 2 ^ 16) :
    (check.add (before ++ (NetUnparser.u16 0 ++ after))).sum.toNat =
      check.sum.toNat + wordSum false before + wordSum false after :=
  sum_field fresh even fits 0

/--
A string whose checksum field is filled with the value computed while the field
was zero verifies, as long as the counter does not overflow.
-/
theorem value_filled
    (fresh : check.parity = false)
    (even : before.length % 2 = 0)
    (fits :
      check.sum.toNat +
        65280 * (before.length + 2 + after.length) < 2 ^ 32 - 2 ^ 16) :
    (check.add
      (before ++
        (NetUnparser.u16
            (check.add (before ++ (NetUnparser.u16 0 ++ after))).value ++
          after))).value = 0 := by
  rw [value_eq_zero_iff, sum_field fresh even fits, value_toNat,
    sum_zeroField fresh even fits]
  exact OnesComplement.normal_add_complement (by decide)

/--
The field of a string that verifies is the value computed while it is zero,
except that a field of all ones may stand for zero.
-/
theorem field_of_value_eq_zero
    (fresh : check.parity = false)
    (even : before.length % 2 = 0)
    (fits :
      check.sum.toNat +
        65280 * (before.length + 2 + after.length) < 2 ^ 32 - 2 ^ 16)
    {val : UInt16}
    (verifies :
      (check.add
        (before ++ (NetUnparser.u16 val ++ after))).value = 0) :
    (check.add (before ++ (NetUnparser.u16 0 ++ after))).value = val ∨
      val = 0xffff ∧
        (check.add (before ++ (NetUnparser.u16 0 ++ after))).value =
          0 := by
  have small : val.toNat ≤ 65535 := Nat.le_of_lt_succ val.toNat_lt
  rw [value_eq_zero_iff, sum_field fresh even fits] at verifies
  have computed := value_toNat
    (check.add (before ++ (NetUnparser.u16 0 ++ after)))
  rw [sum_zeroField fresh even fits] at computed
  rcases OnesComplement.complement_of_normal_add small verifies with
    complement | ⟨allOnes, folded⟩
  · refine Or.inl (UInt16.toNat.inj ?_)
    rw [computed, complement]
  · refine Or.inr ⟨UInt16.toNat.inj allOnes, UInt16.toNat.inj ?_⟩
    rw [computed, folded]
    rfl

end Field

/-- The 16-bit words of a string; an odd last byte is padded with a zero. -/
def words : Bytes → List Nat
  | [] => []
  | [high] => [BigEndian.value [high, 0]]
  | high :: low :: rest => BigEndian.value [high, low] :: words rest

/-- The sum of the words of a string with a carry added back at every word. -/
def onesComplementSum
    (initial : Nat)
    (data : Bytes) : Nat :=
  (words data).foldl (OnesComplement.endAround 65535)
    (normal 65535 initial)

theorem words_le
    {data : Bytes}
    {word : Nat}
    (member : word ∈ words data) :
    word ≤ 65535 := by
  have twoBytes :
      ∀ high low : UInt8, BigEndian.value [high, low] ≤ 65535 := by
    intro high low
    have bounded := BigEndian.value_lt [high, low]
    simp only [List.length_cons, List.length_nil] at bounded
    omega
  fun_induction words data with
  | case1 =>
      cases member
  | case2 high =>
      rw [List.mem_singleton.mp member]
      exact twoBytes high 0
  | case3 high low rest inductionHypothesis =>
      rcases List.mem_cons.mp member with first | later
      · rw [first]
        exact twoBytes high low
      · exact inductionHypothesis later

/-- Adding byte by byte adds up the words. -/
theorem wordSum_eq_sum_words
    (data : Bytes) :
    wordSum false data = (words data).sum := by
  fun_induction words data with
  | case1 =>
      rfl
  | case2 high =>
      simp [wordSum]
  | case3 high low rest inductionHypothesis =>
      simp [wordSum, ← inductionHypothesis, Nat.add_assoc]

theorem normal_sum_words
    (initial : Nat)
    (data : Bytes) :
    normal 65535 (initial + (words data).sum) =
      onesComplementSum initial data :=
  OnesComplement.normal_sum fun _ member => words_le member

/-- Adding strings one after the other adds their concatenation. -/
theorem foldl_add
    (check : InternetChecksum)
    (chunks : List Bytes) :
    chunks.foldl add check = check.add chunks.flatten := by
  induction chunks generalizing check with
  | nil =>
      rfl
  | cons chunk rest inductionHypothesis =>
      rw [List.foldl_cons, inductionHypothesis, List.flatten_cons,
        add_append]

/-- Once the carries are folded the loop does nothing more. -/
theorem foldLoop_add
    (more : Nat)
    (ret : UInt32) :
    foldLoop (2 + more) ret = foldLoop 2 ret := by
  cases more with
  | zero =>
      rfl
  | succ more =>
      rw [← foldLoop_two]
      have enough : 3 ≤ 2 + (more + 1) := by omega
      exact (foldLoop_exits ret enough).unique
        (foldLoop_exits ret (Nat.le_refl 3))

/-- Two rounds leave no carry. -/
theorem foldLoop_folded
    (ret : UInt32) :
    ¬ foldLoop 2 ret > 0xffff := by
  have bounded : normal 65535 ret.toNat ≤ 65535 :=
    OnesComplement.normal_le (by decide)
  rw [← foldLoop_toNat] at bounded
  exact UInt32.not_lt.mpr (UInt32.le_iff_toNat_le.mpr bounded)

/-- The counter is exact as long as the words fit in it. -/
theorem add_sum_of_short
    {initial : UInt32}
    {data : Bytes}
    (small : initial.toNat < 2 ^ 20)
    (short : data.length ≤ 65535) :
    (({ sum := initial } : InternetChecksum).add data).sum.toNat =
      initial.toNat + (words data).sum := by
  have limited := wordSum_le false data
  rw [← wordSum_eq_sum_words, add_sum]
  exact Nat.mod_eq_of_lt
    (show initial.toNat + wordSum false data < 2 ^ 32 by omega)

/--
However a string is split, its checksum is the complement of the one's
complement sum of its words: the folding loop leaves by its own test, the
counter is exact at every byte, and a zero word replaced by the checksum makes
the sum verify.
-/
theorem value_of_chunks
    (initial : UInt32)
    (chunks : List Bytes)
    (small : initial.toNat < 2 ^ 20)
    (short : chunks.flatten.length ≤ 65535) :
    let fresh : InternetChecksum := { sum := initial }
    let check := chunks.foldl add fresh
    check.value =
        ~~~ UInt16.ofNat
          (onesComplementSum initial.toNat chunks.flatten) ∧
      Execution.Exits foldRound check.sum (foldLoop 2 check.sum) ∧
      ¬ foldLoop 2 check.sum > 0xffff ∧
      (∀ more, foldLoop (2 + more) check.sum = foldLoop 2 check.sum) ∧
      (∀ front,
        front <+: chunks.flatten →
        (fresh.add front).sum.toNat =
          initial.toNat + (words front).sum) ∧
      ∀ (before after : Bytes) (filled : List Bytes),
        chunks.flatten = before ++ ([0, 0] ++ after) →
        before.length % 2 = 0 →
        filled.flatten =
          before ++ (NetUnparser.u16 check.value ++ after) →
        (filled.foldl add fresh).value = 0 := by
  intro fresh check
  have whole : check = fresh.add chunks.flatten := foldl_add fresh chunks
  refine ⟨?_, foldLoop_two check.sum ▸
      foldLoop_exits check.sum (Nat.le_refl 3),
    foldLoop_folded _, fun more => foldLoop_add more _, ?_, ?_⟩
  · have total := add_sum_of_short small short
    have bounded :
        onesComplementSum initial.toNat chunks.flatten ≤ 65535 := by
      rw [← normal_sum_words]
      exact OnesComplement.normal_le (by decide)
    apply UInt16.toNat.inj
    rw [value_toNat, whole, total, normal_sum_words, UInt16.toNat_not,
      UInt16.toNat_ofNat', Nat.mod_eq_of_lt (by omega)]
    rfl
  · intro front leading
    exact add_sum_of_short small
      (Nat.le_trans leading.length_le short)
  · intro before after filled layout even replaced
    have zeroWord : [0, 0] = NetUnparser.u16 0 := rfl
    have length := congrArg List.length layout
    rw [List.length_append, List.length_append] at length
    change _ = _ + (2 + _) at length
    rw [zeroWord] at layout
    rw [foldl_add, replaced, whole, layout]
    exact value_filled rfl even
      (show initial.toNat + _ < _ by omega)

/-- Five bytes in odd pieces, one of them empty, with a zero word in front. -/
theorem value_of_chunks_odd :
    let chunks : List Bytes := [[0], [], [0, 0x12, 0x34], [0x56]]
    (chunks.foldl add { sum := 0x1ffff }).value =
        ~~~ UInt16.ofNat (onesComplementSum 0x1ffff chunks.flatten) ∧
      (chunks.foldl add { sum := 0x1ffff }).value = 0x97ca :=
  ⟨(value_of_chunks 0x1ffff [[0], [], [0, 0x12, 0x34], [0x56]]
    (by decide) (by decide)).1, by decide⟩

end InternetChecksum

end Sponge
