import Mathlib.Data.List.Basic

namespace Sponge.Reading

/-!
# Readers that take tokens off an input

A reader is a state computation that takes a leading part off its input.
`Holds state input` says that a state still has the given input before it and
has met no error; it is a parameter, so that the rules apply to any reader
state.  `Reads` is about one leading part and the value it stands for,
`Consumes` about how much is taken and what happens when too little is left,
`Shortens` about all states at once.
The module is independent of any particular program.
-/

variable {ε σ τ α β : Type}

/-- A computation that returned is followed by its continuation. -/
theorem bind_of_ok
    {reader : EStateM ε σ α}
    {continuation : α → EStateM ε σ β}
    {state next : σ}
    {value : α}
    (returned : reader state = .ok value next) :
    (reader >>= continuation) state = continuation value next := by
  change EStateM.bind reader continuation state = _
  rw [EStateM.bind, returned]

theorem map_of_ok
    {reader : EStateM ε σ α}
    {transform : α → β}
    {state next : σ}
    {value : α}
    (returned : reader state = .ok value next) :
    (transform <$> reader) state = .ok (transform value) next := by
  change EStateM.map transform reader state = _
  rw [EStateM.map, returned]

/--
In front of any further input, the reader takes exactly `tokens` and returns
`value`.
-/
def Reads
    (Holds : σ → List τ → Prop)
    (reader : EStateM ε σ α)
    (tokens : List τ)
    (value : α) : Prop :=
  ∀ state rest,
    Holds state (tokens ++ rest) →
    ∃ next, reader state = .ok value next ∧ Holds next rest

section Reads

variable {Holds : σ → List τ → Prop}

theorem Reads.pure
    (value : α) :
    Reads Holds (pure value : EStateM ε σ α) [] value :=
  fun state _ holds => ⟨state, rfl, holds⟩

theorem Reads.bind
    {reader : EStateM ε σ α}
    {continuation : α → EStateM ε σ β}
    {leading trailing : List τ}
    {value : α}
    {result : β}
    (first : Reads Holds reader leading value)
    (second : Reads Holds (continuation value) trailing result) :
    Reads Holds (reader >>= continuation) (leading ++ trailing) result := by
  intro state rest holds
  rw [List.append_assoc] at holds
  obtain ⟨middle, readLeading, middleHolds⟩ :=
    first state (trailing ++ rest) holds
  obtain ⟨next, readTrailing, nextHolds⟩ := second middle rest middleHolds
  exact ⟨next, (bind_of_ok readLeading).trans readTrailing, nextHolds⟩

/-- A reader followed by a function of what it read. -/
theorem Reads.map
    {reader : EStateM ε σ α}
    {tokens : List τ}
    {value : α}
    (reads : Reads Holds reader tokens value)
    (transform : α → β) :
    Reads Holds (transform <$> reader) tokens (transform value) := by
  intro state rest holds
  obtain ⟨next, read, nextHolds⟩ := reads state rest holds
  exact ⟨next, map_of_ok read, nextHolds⟩

end Reads

/--
The reader returns whatever the input.  It takes `width` tokens if there are so
many, fails if there are fewer, and never recovers from a failure.
-/
structure Consumes
    (Holds : σ → List τ → Prop)
    (Failed : σ → Prop)
    (reader : EStateM ε σ α)
    (width : Nat) : Prop where
  enough :
    ∀ state input,
      Holds state input →
      width ≤ input.length →
      ∃ value next,
        reader state = .ok value next ∧ Holds next (input.drop width)
  short :
    ∀ state input,
      Holds state input →
      input.length < width →
      ∃ value next, reader state = .ok value next ∧ Failed next
  failed :
    ∀ state,
      Failed state →
      ∃ value next, reader state = .ok value next ∧ Failed next

section Consumes

variable {Holds : σ → List τ → Prop} {Failed : σ → Prop}

theorem Consumes.pure
    (value : α) :
    Consumes Holds Failed (pure value : EStateM ε σ α) 0 where
  enough state _ holds _ := ⟨value, state, rfl, holds⟩
  short _ _ _ impossible := absurd impossible (Nat.not_lt_zero _)
  failed state failed := ⟨value, state, rfl, failed⟩

theorem Consumes.bind
    {reader : EStateM ε σ α}
    {continuation : α → EStateM ε σ β}
    {leading trailing : Nat}
    (first : Consumes Holds Failed reader leading)
    (second :
      ∀ value, Consumes Holds Failed (continuation value) trailing) :
    Consumes Holds Failed (reader >>= continuation)
      (leading + trailing) := by
  constructor
  case enough =>
    intro state input holds long
    obtain ⟨value, middle, read, middleHolds⟩ :=
      first.enough state input holds (by omega)
    rw [bind_of_ok read, ← List.drop_drop]
    exact (second value).enough middle _ middleHolds
      (by rw [List.length_drop]; omega)
  case short =>
    intro state input holds tooShort
    by_cases long : leading ≤ input.length
    · obtain ⟨value, middle, read, middleHolds⟩ :=
        first.enough state input holds long
      rw [bind_of_ok read]
      exact (second value).short middle _ middleHolds
        (by rw [List.length_drop]; omega)
    · obtain ⟨value, middle, read, middleFailed⟩ :=
        first.short state input holds (Nat.lt_of_not_le long)
      rw [bind_of_ok read]
      exact (second value).failed middle middleFailed
  case failed =>
    intro state failed
    obtain ⟨value, middle, read, middleFailed⟩ := first.failed state failed
    rw [bind_of_ok read]
    exact (second value).failed middle middleFailed

theorem Consumes.map
    {reader : EStateM ε σ α}
    {width : Nat}
    (consumes : Consumes Holds Failed reader width)
    (transform : α → β) :
    Consumes Holds Failed (transform <$> reader) width := by
  constructor
  case enough =>
    intro state input holds long
    obtain ⟨value, next, read, nextHolds⟩ :=
      consumes.enough state input holds long
    exact ⟨_, next, map_of_ok read, nextHolds⟩
  case short =>
    intro state input holds tooShort
    obtain ⟨value, next, read, nextFailed⟩ :=
      consumes.short state input holds tooShort
    exact ⟨_, next, map_of_ok read, nextFailed⟩
  case failed =>
    intro state failed
    obtain ⟨value, next, read, nextFailed⟩ := consumes.failed state failed
    exact ⟨_, next, map_of_ok read, nextFailed⟩

end Consumes

/--
The reader returns from every state and takes nothing but a leading part off
what remains.
-/
def Shortens
    (remaining : σ → List τ)
    (reader : EStateM ε σ α) : Prop :=
  ∀ state,
    ∃ value next,
      reader state = .ok value next ∧ remaining next <:+ remaining state

section Shortens

variable {remaining : σ → List τ}

theorem Shortens.pure
    (value : α) :
    Shortens remaining (pure value : EStateM ε σ α) :=
  fun state => ⟨value, state, rfl, List.suffix_refl _⟩

theorem Shortens.get :
    Shortens remaining (get : EStateM ε σ σ) :=
  fun state => ⟨state, state, rfl, List.suffix_refl _⟩

theorem Shortens.bind
    {reader : EStateM ε σ α}
    {continuation : α → EStateM ε σ β}
    (first : Shortens remaining reader)
    (second : ∀ value, Shortens remaining (continuation value)) :
    Shortens remaining (reader >>= continuation) := by
  intro state
  obtain ⟨value, middle, read, shorter⟩ := first state
  obtain ⟨result, next, continued, shortest⟩ := second value middle
  exact ⟨result, next, (bind_of_ok read).trans continued,
    shortest.trans shorter⟩

theorem Shortens.map
    {reader : EStateM ε σ α}
    (shortens : Shortens remaining reader)
    (transform : α → β) :
    Shortens remaining (transform <$> reader) := by
  intro state
  obtain ⟨value, next, read, shorter⟩ := shortens state
  exact ⟨transform value, next, map_of_ok read, shorter⟩

/-- A reader that stops early on a condition. -/
theorem Shortens.ite
    {condition : Prop}
    [Decidable condition]
    {first second : EStateM ε σ α}
    (stopped : Shortens remaining first)
    (continued : ¬ condition → Shortens remaining second) :
    Shortens remaining (if condition then first else second) := by
  by_cases stops : condition
  · rw [if_pos stops]
    exact stopped
  · rw [if_neg stops]
    exact continued stops

end Shortens

end Sponge.Reading
