import Sponge.ChunkQueue

namespace Sponge

/-!
# Reference-counted buffers

`Buffer` is a shared string with a read offset and `BufferList` a queue of
buffers.  A method that may throw returns `EStateM.Result`, whose error case
keeps the object as the exception leaves it.
-/

/-- A `std::string`, as the bytes it holds. -/
abbrev Bytes := List UInt8

/-- The standard exceptions raised by the library, with their texts. -/
inductive StdException where
  | outOfRange (what : String)
  | runtimeError (what : String)
  deriving DecidableEq

/-- The object left behind by a method, whether it returned or threw. -/
def finalState {ε σ α : Type} : EStateM.Result ε σ α → σ
  | .ok _ state => state
  | .error _ state => state

/-- What a method returned, if it returned. -/
def returned {ε σ α : Type} : EStateM.Result ε σ α → Option α
  | .ok value _ => some value
  | .error _ _ => none

theorem eq_ok_of_returned
    {ε σ α : Type}
    {result : EStateM.Result ε σ α}
    {value : α}
    (returns : returned result = some value) :
    result = .ok value (finalState result) := by
  cases result with
  | ok value state =>
      cases returns
      rfl
  | error thrown state =>
      cases returns

/-- A shared string, released once every byte has been discarded. -/
structure Buffer where
  storage : Option Bytes := none
  startingOffset : Nat := 0
  deriving DecidableEq

namespace Buffer

/-- Construct by taking ownership of a string. -/
def ofString (str : Bytes) : Buffer where
  storage := some str

/-- The bytes not yet discarded. -/
def str (buffer : Buffer) : Bytes :=
  match buffer.storage with
  | none => []
  | some storage => storage.drop buffer.startingOffset

/-- The byte at location `n`. -/
def byteAt
    (n : Nat)
    (buffer : Buffer) : Except StdException UInt8 :=
  match buffer.str[n]? with
  | some byte => .ok byte
  | none => .error (.outOfRange "basic_string_view::at")

/-- Discard the first `n` bytes. -/
def removePrefix
    (n : Nat)
    (buffer : Buffer) :
    EStateM.Result StdException Buffer Unit :=
  if buffer.str.length < n then
    .error (.outOfRange "Buffer::remove_prefix") buffer
  else
    let startingOffset := buffer.startingOffset + n
    .ok () {
      startingOffset
      storage :=
        match buffer.storage with
        | none => none
        | some storage =>
            if startingOffset = storage.length then
              none
            else
              some storage
    }

@[simp] theorem ofString_str
    (bytes : Bytes) :
    (ofString bytes).str = bytes := by
  simp [ofString, str]

/-- Discarding no more than the buffer holds drops exactly those bytes. -/
theorem removePrefix_str
    {n : Nat}
    {buffer : Buffer}
    (enough : n ≤ buffer.str.length) :
    ∃ remaining,
      buffer.removePrefix n = .ok () remaining ∧
        remaining.str = buffer.str.drop n := by
  rcases buffer with ⟨storage, startingOffset⟩
  refine ⟨_, by rw [removePrefix, if_neg (by omega)], ?_⟩
  cases storage with
  | none =>
      simp [str]
  | some bytes =>
      -- a fully consumed buffer gives its storage back
      by_cases consumed : startingOffset + n = bytes.length
      · simp [str, consumed]
      · simp [str, consumed]

/-- A buffer that keeps some of its bytes keeps its storage. -/
theorem removePrefix_of_lt
    {n : Nat}
    {buffer : Buffer}
    (inside : n < buffer.str.length) :
    buffer.removePrefix n =
      .ok () { buffer with
        startingOffset := buffer.startingOffset + n } := by
  rcases buffer with ⟨storage, startingOffset⟩
  rw [removePrefix, if_neg (Nat.lt_asymm inside)]
  cases storage with
  | none =>
      rfl
  | some bytes =>
      simp only [str, List.length_drop] at inside
      dsimp only
      rw [if_neg (by omega)]

end Buffer

/-- A discontiguous string: a queue of buffers. -/
abbrev BufferList := List Buffer

namespace BufferList

/-- Append one buffer, as the converting `append` call does. -/
def append
    (buffers : BufferList)
    (buffer : Buffer) : BufferList :=
  buffers ++ [buffer]

/-- Append every buffer of another list. -/
def appendList
    (buffers other : BufferList) : BufferList :=
  buffers ++ other

/-- The number of bytes in all buffers. -/
def size (buffers : BufferList) : Nat :=
  (buffers.map fun buffer => buffer.str.length).sum

/-- The one buffer of a list that has at most one. -/
def toBuffer : BufferList → Except StdException Buffer
  | [] => .ok {}
  | [buffer] => .ok buffer
  | _ =>
      .error (.runtimeError
        ("BufferList: please use concatenate() to combine a " ++
          "multi-Buffer BufferList into one Buffer"))

/-- Copy the whole content to one string. -/
def concatenate (buffers : BufferList) : Bytes :=
  buffers.flatMap Buffer.str

/-- Discard the first `n` bytes, popping every buffer that is used up. -/
def removePrefix
    (n : Nat) :
    BufferList → EStateM.Result StdException BufferList Unit
  | [] =>
      if n = 0 then
        .ok () []
      else
        .error (.outOfRange "BufferList::remove_prefix") []
  | front :: rest =>
      if n = 0 then
        .ok () (front :: rest)
      else if n < front.str.length then
        match front.removePrefix n with
        | .ok _ front => .ok () (front :: rest)
        | .error thrown front => .error thrown (front :: rest)
      else
        removePrefix (n - front.str.length) rest

@[simp] theorem concatenate_nil :
    concatenate [] = [] :=
  rfl

@[simp] theorem concatenate_cons
    (front : Buffer)
    (rest : BufferList) :
    concatenate (front :: rest) =
      front.str ++ concatenate rest :=
  rfl

@[simp] theorem concatenate_append
    (buffers : BufferList)
    (buffer : Buffer) :
    (append buffers buffer).concatenate =
      buffers.concatenate ++ buffer.str := by
  simp [concatenate, append]

theorem size_eq_length
    (buffers : BufferList) :
    buffers.size = buffers.concatenate.length := by
  rw [size, concatenate, List.length_flatMap]

/-- Buffers as chunks, with the exception of `remove_prefix`. -/
def chunked : Chunked Buffer UInt8 StdException where
  size buffer := buffer.str.length
  bytes := Buffer.str
  discard := Buffer.removePrefix
  exhausted := .outOfRange "BufferList::remove_prefix"
  length_bytes _ := rfl
  discard_of_le := Buffer.removePrefix_str

theorem length_concatenate
    (buffers : BufferList) :
    buffers.concatenate.length = chunked.total buffers :=
  chunked.length_content buffers

theorem removePrefix_eq
    (n : Nat)
    (buffers : BufferList) :
    buffers.removePrefix n = chunked.remove n buffers := by
  induction buffers generalizing n with
  | nil =>
      rfl
  | cons front rest inductionHypothesis =>
      have discarded :
          chunked.discard n front = front.removePrefix n :=
        rfl
      rw [removePrefix, Chunked.remove, inductionHypothesis, discarded]
      cases front.removePrefix n <;> rfl

/-- Removal returns when there are enough bytes and drops exactly those. -/
theorem removePrefix_concatenate
    {n : Nat}
    {buffers : BufferList}
    (enough : n ≤ buffers.concatenate.length) :
    ∃ remaining,
      buffers.removePrefix n = .ok () remaining ∧
        remaining.concatenate = buffers.concatenate.drop n := by
  rw [length_concatenate] at enough
  rw [removePrefix_eq]
  exact Chunked.remove_of_le enough

/-- With too few bytes every buffer is popped before the exception. -/
theorem removePrefix_of_short
    {n : Nat}
    {buffers : BufferList}
    (short : buffers.concatenate.length < n) :
    buffers.removePrefix n =
      .error (.outOfRange "BufferList::remove_prefix") [] := by
  rw [length_concatenate] at short
  rw [removePrefix_eq]
  exact Chunked.remove_of_lt short

end BufferList

end Sponge
