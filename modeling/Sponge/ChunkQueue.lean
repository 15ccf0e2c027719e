import Mathlib.Algebra.GroupWithZero.Nat
import Mathlib.Data.List.Forall2
import Sponge.Execution

namespace Sponge

/-!
# Queues of chunks

A string kept as a queue of chunks is shortened from the front: the loop pops
every chunk that is used up and cuts the one in which the removal ends.  An
empty chunk brings the count no closer to zero, but the queue gets shorter.  The
module is generic in the chunks and in the exceptions of the loop.
-/

/-- Chunks whose leading bytes can be discarded, and the exception of the loop. -/
structure Chunked (Chunk Byte Error : Type) where
  size : Chunk → Nat
  bytes : Chunk → List Byte
  discard : Nat → Chunk → EStateM.Result Error Chunk Unit
  exhausted : Error
  length_bytes : ∀ chunk, (bytes chunk).length = size chunk
  discard_of_le :
    ∀ {n : Nat} {chunk : Chunk},
      n ≤ size chunk →
      ∃ remaining,
        discard n chunk = .ok () remaining ∧
          bytes remaining = (bytes chunk).drop n

namespace Chunked

variable {Chunk Byte Error : Type} (kind : Chunked Chunk Byte Error)

/-- The bytes of all chunks in order. -/
def content (chunks : List Chunk) : List Byte :=
  chunks.flatMap kind.bytes

/-- The number of bytes in all chunks. -/
def total (chunks : List Chunk) : Nat :=
  (chunks.map kind.size).sum

/-- One round of the loop `while (n > 0)`. -/
def removeRound :
    Nat × List Chunk →
      (Nat × List Chunk) ⊕ EStateM.Result Error (List Chunk) Unit
  | (n, chunks) =>
      if n > 0 then
        match chunks with
        | [] => .inr (.error kind.exhausted [])
        | front :: rest =>
            if n < kind.size front then
              match kind.discard n front with
              | .ok _ front => .inl (0, front :: rest)
              | .error thrown front => .inr (.error thrown (front :: rest))
            else
              .inl (n - kind.size front, rest)
      else
        .inr (.ok () chunks)

/-- What the loop comes to, by recursion on the queue. -/
def remove
    (n : Nat) :
    List Chunk → EStateM.Result Error (List Chunk) Unit
  | [] =>
      if n = 0 then
        .ok () []
      else
        .error kind.exhausted []
  | front :: rest =>
      if n = 0 then
        .ok () (front :: rest)
      else if n < kind.size front then
        match kind.discard n front with
        | .ok _ front => .ok () (front :: rest)
        | .error thrown front => .error thrown (front :: rest)
      else
        remove (n - kind.size front) rest

theorem content_cons
    (front : Chunk)
    (rest : List Chunk) :
    kind.content (front :: rest) =
      kind.bytes front ++ kind.content rest :=
  rfl

theorem length_content
    (chunks : List Chunk) :
    (kind.content chunks).length = kind.total chunks := by
  simp only [content, total, List.length_flatMap, kind.length_bytes]

theorem total_cons
    (front : Chunk)
    (rest : List Chunk) :
    kind.total (front :: rest) = kind.size front + kind.total rest :=
  List.sum_cons

/-- The loop stops, with the result of the recursion. -/
theorem exits_remove
    (n : Nat)
    (chunks : List Chunk) :
    Execution.Exits kind.removeRound (n, chunks)
      (kind.remove n chunks) := by
  -- a count of zero leaves at once, whatever is queued
  have stops :
      ∀ queue,
        Execution.Exits kind.removeRound (0, queue) (.ok () queue) :=
    fun _ => .leave rfl
  induction chunks generalizing n with
  | nil =>
      apply Execution.Exits.leave
      by_cases nothing : n = 0
      · subst nothing
        rfl
      · rw [removeRound, if_pos (Nat.pos_of_ne_zero nothing), remove,
          if_neg nothing]
  | cons front rest inductionHypothesis =>
      by_cases nothing : n = 0
      · subst nothing
        exact stops _
      · have positive : n > 0 := Nat.pos_of_ne_zero nothing
        rw [remove, if_neg nothing]
        by_cases inFront : n < kind.size front
        · obtain ⟨shorter, discarded, _⟩ :=
            kind.discard_of_le (Nat.le_of_lt inFront)
          rw [if_pos inFront, discarded]
          refine .again ?_ (stops (shorter :: rest))
          rw [removeRound, if_pos positive]
          simp only [inFront, if_true, discarded]
        · rw [if_neg inFront]
          refine .again ?_ (inductionHypothesis (n - kind.size front))
          rw [removeRound, if_pos positive]
          simp only [inFront, if_false]

variable {kind}

/-- With enough bytes the removal returns and drops exactly `n` of them. -/
theorem remove_of_le
    {n : Nat}
    {chunks : List Chunk}
    (enough : n ≤ kind.total chunks) :
    ∃ remaining,
      kind.remove n chunks = .ok () remaining ∧
        kind.content remaining = (kind.content chunks).drop n := by
  induction chunks generalizing n with
  | nil =>
      have nothing : n = 0 := Nat.le_zero.mp enough
      subst nothing
      exact ⟨[], rfl, rfl⟩
  | cons front rest inductionHypothesis =>
      rw [total_cons] at enough
      by_cases nothing : n = 0
      · subst nothing
        exact ⟨front :: rest, rfl, rfl⟩
      · rw [remove, if_neg nothing]
        by_cases inFront : n < kind.size front
        · obtain ⟨shorter, discarded, dropped⟩ :=
            kind.discard_of_le (Nat.le_of_lt inFront)
          refine ⟨shorter :: rest, by rw [if_pos inFront, discarded], ?_⟩
          have inside : n ≤ (kind.bytes front).length := by
            rw [kind.length_bytes]
            exact Nat.le_of_lt inFront
          rw [content_cons, content_cons, dropped,
            List.drop_append_of_le_length inside]
        · have covered : kind.size front ≤ n := Nat.le_of_not_lt inFront
          obtain ⟨remaining, removed, dropped⟩ :=
            inductionHypothesis
              (show n - kind.size front ≤ kind.total rest by omega)
          refine ⟨remaining, by rw [if_neg inFront, removed], ?_⟩
          have used : (kind.bytes front).drop n = [] := by
            apply List.drop_eq_nil_of_le
            rw [kind.length_bytes]
            exact covered
          rw [dropped, content_cons, List.drop_append, used,
            List.nil_append, kind.length_bytes]

/-- With too few bytes every chunk is popped before the exception. -/
theorem remove_of_lt
    {n : Nat}
    {chunks : List Chunk}
    (short : kind.total chunks < n) :
    kind.remove n chunks = .error kind.exhausted [] := by
  induction chunks generalizing n with
  | nil =>
      rw [remove, if_neg (Nat.ne_of_gt (Nat.zero_lt_of_lt short))]
  | cons front rest inductionHypothesis =>
      rw [total_cons] at short
      rw [remove, if_neg (by omega), if_neg (by omega)]
      apply inductionHypothesis
      omega

/-- The removal throws exactly when more is to be removed than there is. -/
theorem remove_throws_iff
    {n : Nat}
    {chunks : List Chunk} :
    (∃ thrown left, kind.remove n chunks = .error thrown left) ↔
      kind.total chunks < n := by
  constructor
  · rintro ⟨thrown, left, threw⟩
    by_contra enough
    obtain ⟨remaining, removed, _⟩ :=
      remove_of_le (Nat.le_of_not_lt enough)
    rw [removed] at threw
    cases threw
  · intro short
    exact ⟨_, _, remove_of_lt short⟩

/-- A removal that returns drops exactly `n` bytes. -/
theorem remove_returns
    {n : Nat}
    {chunks left : List Chunk}
    (returns : kind.remove n chunks = .ok () left) :
    kind.content left = (kind.content chunks).drop n ∧
      kind.total left + n = kind.total chunks := by
  have enough : n ≤ kind.total chunks := by
    by_contra short
    rw [remove_of_lt (Nat.lt_of_not_le short)] at returns
    cases returns
  obtain ⟨remaining, removed, dropped⟩ := remove_of_le enough
  rw [removed] at returns
  cases returns
  refine ⟨dropped, ?_⟩
  rw [← kind.length_content, ← kind.length_content, dropped,
    List.length_drop, kind.length_content]
  exact Nat.sub_add_cancel enough

section Lockstep

variable {Other OtherError : Type}
variable (kind) (other : Chunked Other Byte OtherError)
variable (related : Chunk → Other → Prop)

/--
Two queues of chunks of the same sizes are shortened alike: both removals return
with queues related again, or both throw and leave nothing.
-/
theorem remove_related
    (sizes :
      ∀ {chunk view},
        related chunk view →
        kind.size chunk = other.size view)
    (cut :
      ∀ {n chunk view shorter shown},
        related chunk view →
        n < kind.size chunk →
        kind.discard n chunk = .ok () shorter →
        other.discard n view = .ok () shown →
        related shorter shown)
    (n : Nat)
    {chunks : List Chunk}
    {views : List Other}
    (alike : List.Forall₂ related chunks views) :
    (∃ left shown,
      kind.remove n chunks = .ok () left ∧
        other.remove n views = .ok () shown ∧
        List.Forall₂ related left shown) ∨
      kind.remove n chunks = .error kind.exhausted [] ∧
        other.remove n views = .error other.exhausted [] := by
  induction alike generalizing n with
  | nil =>
      by_cases nothing : n = 0
      · subst nothing
        exact Or.inl ⟨[], [], rfl, rfl, .nil⟩
      · exact Or.inr ⟨if_neg nothing, if_neg nothing⟩
  | @cons chunk view chunks views shows alike inductionHypothesis =>
      by_cases nothing : n = 0
      · subst nothing
        exact Or.inl ⟨_, _, rfl, rfl, .cons shows alike⟩
      · rw [remove, remove, if_neg nothing, if_neg nothing, ← sizes shows]
        by_cases inFront : n < kind.size chunk
        · have inView : n < other.size view := by
            rw [← sizes shows]
            exact inFront
          obtain ⟨shorter, discarded, _⟩ :=
            kind.discard_of_le (Nat.le_of_lt inFront)
          obtain ⟨shown, discardedView, _⟩ :=
            other.discard_of_le (Nat.le_of_lt inView)
          rw [if_pos inFront, if_pos inFront, discarded, discardedView]
          exact Or.inl ⟨_, _, rfl, rfl,
            .cons (cut shows inFront discarded discardedView) alike⟩
        · rw [if_neg inFront, if_neg inFront]
          exact inductionHypothesis (n - kind.size chunk)

end Lockstep

end Chunked

end Sponge
