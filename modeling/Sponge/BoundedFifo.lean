import Sponge.Execution

namespace Sponge

/-!
# Bounded queues

A bounded queue takes as much of an offer as it has space for and gives its
items back in the order they came, until its writer closes it.  The bound is
part of the type.  `History` remembers what entered and what left; the module is
independent of any particular program.
-/

/-- A first-in first-out queue of at most `capacity` items. -/
structure BoundedFifo (Item : Type*) where
  capacity : Nat
  items : List Item
  closed : Bool
  bounded : items.length ≤ capacity

namespace BoundedFifo

variable {Item : Type*}

/-- The queue with nothing in it. -/
def empty (capacity : Nat) : BoundedFifo Item where
  capacity := capacity
  items := []
  closed := false
  bounded := Nat.zero_le capacity

/-- The number of items there is still place for. -/
def space (fifo : BoundedFifo Item) : Nat :=
  fifo.capacity - fifo.items.length

/-- The part of an offer that is let in. -/
def admitted
    (offer : List Item)
    (fifo : BoundedFifo Item) : List Item :=
  if fifo.closed then
    []
  else
    offer.take fifo.space

theorem length_admitted_le
    (offer : List Item)
    (fifo : BoundedFifo Item) :
    (fifo.admitted offer).length ≤ fifo.space := by
  unfold admitted
  split
  · exact Nat.zero_le _
  · exact List.length_take_le _ _

/-- Put the admitted part of an offer behind the items. -/
def push
    (offer : List Item)
    (fifo : BoundedFifo Item) : BoundedFifo Item :=
  { fifo with
    items := fifo.items ++ fifo.admitted offer
    bounded := by
      have room := fifo.length_admitted_le offer
      have before := fifo.bounded
      rw [space] at room
      rw [List.length_append]
      omega }

/-- Remove items from the front. -/
def discard
    (count : Nat)
    (fifo : BoundedFifo Item) : BoundedFifo Item :=
  { fifo with
    items := fifo.items.drop count
    bounded := by
      have before := fifo.bounded
      rw [List.length_drop]
      omega }

/-- Let nothing in any more. -/
def close (fifo : BoundedFifo Item) : BoundedFifo Item :=
  { fifo with closed := true }

/-- What a client may ask of a queue. -/
inductive Request (Item : Type*) where
  | push (offer : List Item)
  | take (count : Nat)
  | look (count : Nat)
  | discard (count : Nat)
  | close

/-- What a queue answers. -/
inductive Answer (Item : Type*) where
  | accepted (count : Nat)
  | items (front : List Item)
  | done
  deriving DecidableEq

/-- The answer to a request. -/
def answer
    (fifo : BoundedFifo Item) :
    Request Item → Answer Item
  | .push offer => .accepted (fifo.admitted offer).length
  | .take count => .items (fifo.items.take count)
  | .look count => .items (fifo.items.take count)
  | .discard _ => .done
  | .close => .done

/-- The queue after a request. -/
def next
    (fifo : BoundedFifo Item) :
    Request Item → BoundedFifo Item
  | .push offer => fifo.push offer
  | .take count => fifo.discard count
  | .look _ => fifo
  | .discard count => fifo.discard count
  | .close => fifo.close

/-- The items a request lets in. -/
def entering
    (fifo : BoundedFifo Item) :
    Request Item → List Item
  | .push offer => fifo.admitted offer
  | _ => []

/-- The items a request removes. -/
def leaving
    (fifo : BoundedFifo Item) :
    Request Item → List Item
  | .take count => fifo.items.take count
  | .discard count => fifo.items.take count
  | _ => []

/-- A queue, what went in and out of it, and what it answered. -/
structure History (Item : Type*) where
  fifo : BoundedFifo Item
  entered : List Item := []
  left : List Item := []
  answers : List (Answer Item) := []

namespace History

/-- The history of a new queue. -/
def start (capacity : Nat) : History Item where
  fifo := empty capacity

/-- Serve a request and record what it moves and answers. -/
def step
    (history : History Item)
    (request : Request Item) : History Item where
  fifo := history.fifo.next request
  entered := history.entered ++ history.fifo.entering request
  left := history.left ++ history.fifo.leaving request
  answers := history.answers ++ [history.fifo.answer request]

/-- What left, and after it what is still there, is what entered. -/
def Conserved (history : History Item) : Prop :=
  history.left ++ history.fifo.items = history.entered

theorem Conserved.step
    {history : History Item}
    (conserved : history.Conserved)
    (request : Request Item) :
    (history.step request).Conserved := by
  unfold Conserved at conserved
  cases request with
  | push offer =>
      simp only [Conserved, History.step, next, push, entering, leaving,
        List.append_nil]
      rw [← List.append_assoc, conserved]
  | take count | discard count =>
      simp only [Conserved, History.step, next, discard, entering, leaving,
        List.append_nil, List.append_assoc, List.take_append_drop]
      exact conserved
  | look _ | close =>
      simpa [Conserved, History.step, next, close, entering, leaving]
        using conserved

/-- The items keep their order and none is lost, whatever the requests. -/
theorem conserved_run
    (capacity : Nat)
    (requests : List (Request Item)) :
    (Execution.run step (start capacity) requests).Conserved := by
  have initially : (start capacity : History Item).Conserved := rfl
  exact Execution.run_invariant Conserved
    (fun _ request conserved => conserved.step request)
    initially requests

theorem capacity_run
    (capacity : Nat)
    (requests : List (Request Item)) :
    (Execution.run step (start capacity) requests).fifo.capacity =
      capacity := by
  refine Execution.run_invariant
    (fun history : History Item => history.fifo.capacity = capacity)
    ?_ rfl requests
  intro history request kept
  cases request with
  | push _ | take _ | look _ | discard _ | close => exact kept

/-- A queue is closed by a request and never opened again. -/
theorem closed_run
    (history : History Item)
    (requests : List (Request Item)) :
    (Execution.run step history requests).fifo.closed = true ↔
      history.fifo.closed = true ∨ .close ∈ requests := by
  induction requests generalizing history with
  | nil =>
      simp
  | cons request rest inductionHypothesis =>
      rw [Execution.run_cons, inductionHypothesis]
      cases request with
      | push _ | take _ | look _ | discard _ =>
          simp [step, next, push, discard]
      | close =>
          simp [step, next, close]

end History

end BoundedFifo

end Sponge
