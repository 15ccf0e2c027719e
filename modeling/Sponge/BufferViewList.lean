import Sponge.Buffer

namespace Sponge

/-!
# Views of buffers

A `BufferViewList` is a queue of string views, ranges of strings that the
buffers own.  Its `remove_prefix` is written separately from that of
`BufferList`, but both loops treat their chunks alike: they are compared with
dropping the bytes of one string, and with each other over whole sequences of
removals.
-/

/-- A `std::string_view`: a range of a string that something else owns. -/
structure StringView where
  storage : Bytes
  first : Nat
  size : Nat
  within : first + size ≤ storage.length
  deriving DecidableEq

namespace StringView

/-- The view that a default constructor makes. -/
def empty : StringView where
  storage := []
  first := 0
  size := 0
  within := Nat.le_refl 0

/-- The bytes of a string from a position on. -/
def rest
    (storage : Bytes)
    (first : Nat)
    (inside : first ≤ storage.length) : StringView where
  storage := storage
  first := first
  size := storage.length - first
  within := Nat.le_of_eq (Nat.add_sub_cancel' inside)

/-- The bytes in the range. -/
def bytes (view : StringView) : Bytes :=
  (view.storage.drop view.first).take view.size

/--
Move the start of the range by `n`.  Callers must not ask for more than the
range holds, and a range that is asked for more becomes empty here.
-/
def removePrefix
    (n : Nat)
    (view : StringView) : StringView where
  storage := view.storage
  first := view.first + min n view.size
  size := view.size - n
  within := by
    have within := view.within
    omega

theorem length_bytes
    (view : StringView) :
    view.bytes.length = view.size := by
  have within := view.within
  rw [bytes, List.length_take, List.length_drop]
  omega

theorem removePrefix_bytes
    {n : Nat}
    {view : StringView}
    (enough : n ≤ view.size) :
    (view.removePrefix n).bytes = view.bytes.drop n := by
  have start : (view.removePrefix n).first = view.first + n :=
    congrArg _ (Nat.min_eq_left enough)
  rw [bytes, bytes, start, List.drop_take, List.drop_drop]
  rfl

end StringView

namespace Buffer

/--
The conversion to `std::string_view`.  The class never moves the offset past the
end of the storage; a buffer that started there would show nothing.
-/
def toStringView (buffer : Buffer) : StringView :=
  match buffer.storage with
  | none => .empty
  | some storage =>
      if inside : buffer.startingOffset ≤ storage.length then
        .rest storage buffer.startingOffset inside
      else
        .empty

/--
The view shows the bytes of the buffer, and if there are any, it lies in the
string that the buffer still holds.
-/
structure ShownBy
    (buffer : Buffer)
    (view : StringView) : Prop where
  bytes : view.bytes = buffer.str
  held : view.size ≠ 0 → buffer.storage = some view.storage

theorem shownBy_toStringView
    (buffer : Buffer) :
    buffer.ShownBy buffer.toStringView := by
  rcases buffer with ⟨storage, startingOffset⟩
  cases storage with
  | none =>
      exact ⟨rfl, fun shows => absurd rfl shows⟩
  | some storage =>
      by_cases inside : startingOffset ≤ storage.length
      · simp only [toStringView, inside, dif_pos]
        refine ⟨?_, fun _ => rfl⟩
        rw [StringView.bytes, str]
        exact List.take_of_length_le (Nat.le_of_eq List.length_drop)
      · simp only [toStringView, inside, dif_neg, not_false_eq_true]
        refine ⟨?_, fun shows => absurd rfl shows⟩
        exact (List.drop_eq_nil_of_le (Nat.le_of_not_le inside)).symm

theorem ShownBy.size_eq
    {buffer : Buffer}
    {view : StringView}
    (shows : buffer.ShownBy view) :
    buffer.str.length = view.size := by
  rw [← shows.bytes, view.length_bytes]

/-- Cutting a buffer and its view in the same place keeps them together. -/
theorem ShownBy.cut
    {n : Nat}
    {buffer shorter : Buffer}
    {view : StringView}
    (shows : buffer.ShownBy view)
    (inside : n < buffer.str.length)
    (removed : buffer.removePrefix n = .ok () shorter) :
    shorter.ShownBy (view.removePrefix n) := by
  have enough : n ≤ view.size := by
    rw [← shows.size_eq]
    exact Nat.le_of_lt inside
  constructor
  · obtain ⟨remaining, sameRemoved, dropped⟩ :=
      removePrefix_str (Nat.le_of_lt inside)
    rw [removed] at sameRemoved
    cases sameRemoved
    rw [StringView.removePrefix_bytes enough, dropped, shows.bytes]
  · intro _
    rw [removePrefix_of_lt inside] at removed
    cases removed
    apply shows.held
    rw [← shows.size_eq]
    exact Nat.ne_of_gt (Nat.zero_lt_of_lt inside)

end Buffer

namespace BufferList

/-- One round of the loop of `remove_prefix`. -/
def removeRound :
    Nat × BufferList →
      (Nat × BufferList) ⊕ EStateM.Result StdException BufferList Unit :=
  chunked.removeRound

/-- What a removal leaves, whether it returned or threw. -/
def removed
    (buffers : BufferList)
    (n : Nat) : BufferList :=
  finalState (buffers.removePrefix n)

end BufferList

/-- A discontiguous string that is owned elsewhere: a queue of views. -/
abbrev BufferViewList := List StringView

namespace BufferViewList

/-- The views of all buffers of a list. -/
def ofBufferList (buffers : BufferList) : BufferViewList :=
  buffers.map Buffer.toStringView

/-- The number of bytes in all views, as a number that does not wrap. -/
def size (views : BufferViewList) : Nat :=
  (views.map StringView.size).sum

/-- The bytes in all views, in order. -/
def content (views : BufferViewList) : Bytes :=
  views.flatMap StringView.bytes

/-- Views as chunks, with the exception of `remove_prefix`. -/
def chunked : Chunked StringView UInt8 StdException where
  size := StringView.size
  bytes := StringView.bytes
  discard n view := .ok () (view.removePrefix n)
  exhausted := .outOfRange "BufferListView::remove_prefix"
  length_bytes := StringView.length_bytes
  discard_of_le enough :=
    ⟨_, rfl, StringView.removePrefix_bytes enough⟩

/-- One round of the loop of `remove_prefix`. -/
def removeRound :
    Nat × BufferViewList →
      (Nat × BufferViewList) ⊕
        EStateM.Result StdException BufferViewList Unit :=
  chunked.removeRound

/-- Discard the first `n` bytes, popping every view that is used up. -/
def removePrefix
    (n : Nat)
    (views : BufferViewList) :
    EStateM.Result StdException BufferViewList Unit :=
  chunked.remove n views

/-- What a removal leaves, whether it returned or threw. -/
def removed
    (views : BufferViewList)
    (n : Nat) : BufferViewList :=
  finalState (views.removePrefix n)

section Lockstep

variable {buffers : BufferList} {views : BufferViewList}

/-- One removal keeps the buffers and their views together. -/
theorem shown_removed
    (shown : List.Forall₂ Buffer.ShownBy buffers views)
    (n : Nat) :
    List.Forall₂ Buffer.ShownBy (buffers.removed n) (views.removed n) := by
  have alike :=
    BufferList.chunked.remove_related chunked Buffer.ShownBy
      (fun shows => shows.size_eq)
      (fun shows inside cutBuffer cutView => by
        cases cutView
        exact shows.cut inside cutBuffer)
      n shown
  rw [BufferList.removed, removed, removePrefix,
    BufferList.removePrefix_eq]
  rcases alike with ⟨left, shownLeft, buffersLeft, viewsLeft, together⟩ |
    ⟨buffersThrow, viewsThrow⟩
  · rw [buffersLeft, viewsLeft]
    exact together
  · rw [buffersThrow, viewsThrow]
    exact .nil

theorem shown_run
    (buffers : BufferList)
    (removals : List Nat) :
    List.Forall₂ Buffer.ShownBy
      (Execution.run BufferList.removed buffers removals)
      (Execution.run removed (ofBufferList buffers) removals) := by
  refine Execution.run_simulation (List.Forall₂ Buffer.ShownBy)
    (fun _ _ n shown => shown_removed shown n) ?_ removals
  rw [ofBufferList, List.forall₂_map_right_iff, List.forall₂_same]
  intro buffer _
  exact buffer.shownBy_toStringView

theorem content_of_shown
    (shown : List.Forall₂ Buffer.ShownBy buffers views) :
    views.content = buffers.concatenate := by
  induction shown with
  | nil =>
      rfl
  | cons shows _ inductionHypothesis =>
      rw [BufferList.concatenate_cons, ← inductionHypothesis,
        ← shows.bytes]
      rfl

end Lockstep

end BufferViewList

/--
Both removals are plain removals of leading bytes: the loops stop, throw exactly
when more is to be removed than there is, and otherwise drop `n` bytes.  Views
taken of a list keep showing it, chunk for chunk, whatever is removed from both.
-/
theorem chunked_removal_is_plain :
    (∀ (n : Nat) (buffers : BufferList),
      Execution.Exits BufferList.removeRound (n, buffers)
          (buffers.removePrefix n) ∧
        ((∃ thrown left,
            buffers.removePrefix n = .error thrown left) ↔
          buffers.size < n) ∧
        ∀ left,
          buffers.removePrefix n = .ok () left →
          left.concatenate = buffers.concatenate.drop n ∧
            left.size + n = buffers.size) ∧
      (∀ (n : Nat) (views : BufferViewList),
        Execution.Exits BufferViewList.removeRound (n, views)
            (views.removePrefix n) ∧
          ((∃ thrown left,
              views.removePrefix n = .error thrown left) ↔
            views.size < n) ∧
          ∀ left,
            views.removePrefix n = .ok () left →
            left.content = views.content.drop n ∧
              left.size + n = views.size) ∧
      ∀ (buffers : BufferList) (removals : List Nat),
        let list := Execution.run BufferList.removed buffers removals
        let views :=
          Execution.run BufferViewList.removed
            (BufferViewList.ofBufferList buffers) removals
        views.content = list.concatenate ∧
          views.size = list.size ∧
          List.Forall₂ Buffer.ShownBy list views := by
  refine ⟨?_, ?_, ?_⟩
  · intro n buffers
    rw [BufferList.removePrefix_eq]
    exact ⟨BufferList.chunked.exits_remove n buffers,
      Chunked.remove_throws_iff,
      fun _ returns => Chunked.remove_returns returns⟩
  · intro n views
    exact ⟨BufferViewList.chunked.exits_remove n views,
      Chunked.remove_throws_iff,
      fun _ returns => Chunked.remove_returns returns⟩
  · intro buffers removals list views
    have shown := BufferViewList.shown_run buffers removals
    have sameContent := BufferViewList.content_of_shown shown
    refine ⟨sameContent, ?_, shown⟩
    rw [list.size_eq_length, ← sameContent]
    exact (BufferViewList.chunked.length_content views).symm

end Sponge
