import Sponge.IPv4Reencoding
import Sponge.PacketParsing

namespace Sponge

/-!
# What the checksum detects

A packet that verified no longer does so once one of its aligned 16-bit words is
changed.  The one exception is inherent to one's complement: a word of zeros and
a word of ones count the same.
-/

open InternetChecksum (wordSum)

/--
A change within one aligned word of a string, other than an exchange of the two
zeros.  A word at the end of a string of odd length has one byte.
-/
structure WordChange where
  leading : Bytes
  old : Bytes
  new : Bytes
  trailing : Bytes
  aligned : leading.length % 2 = 0
  sameLength : new.length = old.length
  oneWord : old.length ≤ 2
  changed : new ≠ old
  notZeros :
    ¬ (old = [0, 0] ∧ new = [255, 255] ∨
      old = [255, 255] ∧ new = [0, 0])

namespace WordChange

/-- The string before the change. -/
def before (change : WordChange) : Bytes :=
  change.leading ++ (change.old ++ change.trailing)

/-- The string after the change. -/
def after (change : WordChange) : Bytes :=
  change.leading ++ (change.new ++ change.trailing)

variable (change : WordChange)

theorem length_after :
    change.after.length = change.before.length := by
  simp [before, after, change.sameLength]

/-- The words outside the change. -/
def elsewhere : Nat :=
  wordSum false change.leading +
    wordSum (decide (change.old.length % 2 = 1)) change.trailing

theorem wordSum_before :
    wordSum false change.before =
      change.elsewhere + wordSum false change.old := by
  rw [before, InternetChecksum.wordSum_append_of_even change.aligned,
    InternetChecksum.wordSum_append, elsewhere, Bool.false_xor]
  omega

theorem wordSum_after :
    wordSum false change.after =
      change.elsewhere + wordSum false change.new := by
  rw [after, InternetChecksum.wordSum_append_of_even change.aligned,
    InternetChecksum.wordSum_append, elsewhere, Bool.false_xor,
    change.sameLength]
  omega

/-- A string of one length up to a word is empty, one byte or two. -/
theorem word_cases
    {word : Bytes}
    (oneWord : word.length ≤ 2) :
    word = [] ∨ (∃ high, word = [high]) ∨ ∃ high low, word = [high, low] := by
  match word, oneWord with
  | [], _ => exact Or.inl rfl
  | [high], _ => exact Or.inr (Or.inl ⟨high, rfl⟩)
  | [high, low], _ => exact Or.inr (Or.inr ⟨high, low, rfl⟩)

/-- The change replaces one value by another, and not zero by zero. -/
theorem replaces :
    wordSum false change.old ≤ 65535 ∧
      wordSum false change.new ≤ 65535 ∧
      wordSum false change.new ≠ wordSum false change.old ∧
      ¬ (wordSum false change.old = 0 ∧
            wordSum false change.new = 65535 ∨
          wordSum false change.old = 65535 ∧
            wordSum false change.new = 0) := by
  have sameLength := change.sameLength
  have changed := change.changed
  have notZeros := change.notZeros
  have zero : (0 : UInt8).toNat = 0 := rfl
  have ones : (255 : UInt8).toNat = 255 := rfl
  have newWord := word_cases (Nat.le_trans sameLength.le change.oneWord)
  rcases word_cases change.oneWord with
    old | ⟨high, old⟩ | ⟨high, low, old⟩
  · rw [old] at sameLength changed
    exact (changed (List.length_eq_zero_iff.mp sameLength)).elim
  · rcases newWord with new | ⟨other, new⟩ | ⟨other, next, new⟩
    · rw [old, new] at sameLength
      cases sameLength
    · have highBound := high.toNat_lt
      have otherBound := other.toNat_lt
      simp only [old, new, ne_eq, List.cons.injEq, and_true,
        ← UInt8.toNat_inj] at changed
      simp only [old, new, wordSum, Bool.false_eq_true, ↓reduceIte]
      omega
    · rw [old, new] at sameLength
      cases sameLength
  · rcases newWord with new | ⟨other, new⟩ | ⟨other, next, new⟩
    · rw [old, new] at sameLength
      cases sameLength
    · rw [old, new] at sameLength
      cases sameLength
    · have highBound := high.toNat_lt
      have lowBound := low.toNat_lt
      have otherBound := other.toNat_lt
      have nextBound := next.toNat_lt
      simp only [old, new, ne_eq, List.cons.injEq, and_true,
        ← UInt8.toNat_inj, zero, ones] at changed notZeros
      simp only [old, new, wordSum, Bool.false_eq_true, ↓reduceIte,
        Bool.not_false]
      omega

/-- A total that verified with the old word does not with the new one. -/
theorem detected
    {total : Nat}
    (verifies :
      OnesComplement.normal 65535
        (total + wordSum false change.before) = 65535) :
    OnesComplement.normal 65535
      (total + wordSum false change.after) ≠ 65535 := by
  obtain ⟨oldFits, newFits, replaced, notZeros⟩ := change.replaces
  rw [wordSum_before, ← Nat.add_assoc] at verifies
  rw [wordSum_after, ← Nat.add_assoc]
  exact OnesComplement.normal_add_ne_of_replaced oldFits newFits verifies
    replaced notZeros

end WordChange

namespace InternetChecksum

/-- When a string of moderate length verifies. -/
theorem verifies_iff
    {initial : UInt32}
    {data : Bytes}
    (fits : initial.toNat + 65280 * data.length < 2 ^ 32) :
    (({ sum := initial } : InternetChecksum).add data).value = 0 ↔
      OnesComplement.normal 65535
        (initial.toNat + wordSum false data) = 65535 := by
  have limited := wordSum_le false data
  have exact :
      (({ sum := initial } : InternetChecksum).add data).sum.toNat =
        initial.toNat + wordSum false data := by
    rw [add_sum]
    exact Nat.mod_eq_of_lt
      (show initial.toNat + wordSum false data < 2 ^ 32 by omega)
  rw [value_eq_zero_iff, exact]

theorem value_after_change
    {initial : UInt32}
    (change : WordChange)
    (fits : initial.toNat + 65280 * change.before.length < 2 ^ 32)
    (verifies :
      (({ sum := initial } : InternetChecksum).add
        change.before).value = 0) :
    (({ sum := initial } : InternetChecksum).add
      change.after).value ≠ 0 := by
  intro verifiesToo
  refine change.detected ((verifies_iff fits).mp verifies)
    ((verifies_iff ?_).mp verifiesToo)
  rw [change.length_after]
  exact fits

end InternetChecksum

namespace WordChange

open NetParser

variable (change : WordChange)

/-- A change leaves alone what lies before or after it. -/
theorem slice_after
    {start count : Nat}
    (apart :
      start + count ≤ change.leading.length ∨
        change.leading.length + change.old.length ≤ start) :
    slice change.after start count = slice change.before start count := by
  unfold slice before after
  rcases apart with front | back
  · rw [List.drop_append_of_le_length (by omega),
      List.drop_append_of_le_length (by omega),
      List.take_append_of_le_length (by rw [List.length_drop]; omega),
      List.take_append_of_le_length (by rw [List.length_drop]; omega)]
  · have oldGone :
        change.old.drop (start - change.leading.length) = [] :=
      List.drop_eq_nil_of_le (by omega)
    have newGone :
        change.new.drop (start - change.leading.length) = [] :=
      List.drop_eq_nil_of_le (by rw [change.sameLength]; omega)
    rw [List.drop_append, List.drop_append, List.drop_append,
      List.drop_append, change.sameLength, oldGone, newGone]

/-- The change as one of a front part of the string that contains it. -/
def front
    (count : Nat) : WordChange :=
  { change with
    trailing :=
      change.trailing.take
        (count - (change.leading.length + change.old.length)) }

theorem front_before
    {count : Nat}
    (inside : change.leading.length + change.old.length ≤ count) :
    (change.front count).before = change.before.take count := by
  have rest :
      count - change.leading.length - change.old.length =
        count - (change.leading.length + change.old.length) := by
    omega
  rw [before, before, List.take_append, List.take_append,
    List.take_of_length_le (by omega), List.take_of_length_le (by omega),
    rest]
  rfl

theorem front_after
    {count : Nat}
    (inside : change.leading.length + change.old.length ≤ count) :
    (change.front count).after = change.after.take count := by
  have rest :
      count - change.leading.length - change.new.length =
        count - (change.leading.length + change.old.length) := by
    rw [change.sameLength]
    omega
  have word : change.new.length ≤ count - change.leading.length := by
    rw [change.sameLength]
    omega
  rw [after, after, List.take_append, List.take_append,
    List.take_of_length_le (by omega), List.take_of_length_le word,
    rest]
  rfl

theorem u8At_after
    {start : Nat}
    (apart :
      start + 1 ≤ change.leading.length ∨
        change.leading.length + change.old.length ≤ start) :
    u8At change.after start = u8At change.before start := by
  have single :
      ∀ bytes : Bytes, u8At bytes start = u8At (slice bytes start 1) 0 :=
    fun bytes => (u8At_slice Nat.zero_lt_one bytes).symm
  rw [single, single change.before, change.slice_after apart]

/-- The first byte says how long the header is. -/
theorem hlen_after
    (spared : 2 ≤ change.leading.length) :
    (IPv4Header.ofBytes change.after).hlen =
      (IPv4Header.ofBytes change.before).hlen := by
  simp only [IPv4Header.ofBytes, IPv4Header.ofWords,
    change.u8At_after (Or.inl (by omega : 0 + 1 ≤ _))]

end WordChange

/--
A change within one aligned word is detected wherever the checksum looks: a
segment that was accepted fails with a bad checksum, and a header that was
accepted is rejected.  In a header the first word is left out, since it says how
far the header goes.
-/
theorem changed_word_detected
    (change : WordChange)
    (short : change.before.length ≤ 65535) :
    (∀ (pseudo : UInt32) (seg other : TCPSegment),
      pseudo.toNat < 2 ^ 20 →
      seg.Accepts (Buffer.ofString change.before) pseudo →
      other.parse (Buffer.ofString change.after) pseudo =
        .ok .badChecksum other) ∧
      ∀ header other : IPv4Header,
        header.Accepts (Buffer.ofString change.before) →
        2 ≤ change.leading.length →
        change.leading.length + change.old.length ≤
          4 * (IPv4Header.ofBytes change.before).hlen.toNat →
        ¬ other.Accepts (Buffer.ofString change.after) := by
  constructor
  · intro pseudo seg other small accepted
    have verifies :
        (({ sum := pseudo } : InternetChecksum).add
          change.before).value = 0 := by
      by_contra fails
      simp [TCPSegment.Accepts, TCPSegment.parse, returned, fails]
        at accepted
    have fails :=
      InternetChecksum.value_after_change change (by omega) verifies
    simp only [TCPSegment.parse, Buffer.ofString_str, fails, ne_eq,
      not_false_eq_true, ↓reduceIte]
  · intro header other accepted spared inside acceptedAfter
    obtain ⟨_, framed, verifies⟩ := IPv4Header.accepts_iff.mp accepted
    obtain ⟨_, _, verifiesAfter⟩ :=
      IPv4Header.accepts_iff.mp acceptedAfter
    rw [Buffer.ofString_str] at framed verifies verifiesAfter
    rw [← change.front_before inside] at verifies
    rw [change.hlen_after spared, ← change.front_after inside]
      at verifiesAfter
    refine InternetChecksum.value_after_change _ ?_ verifies verifiesAfter
    rw [change.front_before inside, List.length_take]
    change 0 + _ < _
    omega

/-- A header whose time to live is changed from 128 to 127. -/
def agedHeader : WordChange where
  leading := [0x45, 0, 0, 20, 0, 0, 0x40, 0]
  old := [128, 6]
  new := [127, 6]
  trailing := [0xfa, 0xe4, 0, 0, 0, 0, 0, 0, 0, 0]
  aligned := rfl
  sameLength := rfl
  oneWord := Nat.le_refl 2
  changed := by decide
  notZeros := by decide

theorem changed_word_detected_aged :
    ({} : IPv4Header).Accepts (Buffer.ofString agedHeader.before) ∧
      ¬ ({} : IPv4Header).Accepts (Buffer.ofString agedHeader.after) := by
  have accepted :
      ({} : IPv4Header).Accepts (Buffer.ofString agedHeader.before) := by
    decide +kernel
  exact ⟨accepted,
    (changed_word_detected agedHeader (by decide)).2 {} {} accepted
      (by decide) (by decide +kernel)⟩

end Sponge
