import Mathlib.Data.List.Basic

/-!
# Bounded queues

The first-in first-out queue of bounded length as a list, with the answers of its
calls.  It says what a ring buffer is for, without slots and indices.
-/

namespace BoundedQueue

/-- A call.  The output of a `pop` holds a value before it. -/
inductive Call (α : Type u)
  | push (value : α)
  | pop (held : α)
  | clear

/-- What a call answers; a `pop` also leaves a value in its output. -/
inductive Answer (α : Type u)
  | pushed (stored : Bool)
  | popped (found : Bool) (value : α)
  | cleared

variable {α : Type u} (capacity : Nat)

/-- The queue after a call. -/
def step (queue : List α) : Call α → List α
  | .push value => if queue.length < capacity then queue ++ [value] else queue
  | .pop _ => queue.tail
  | .clear => []

/-- The answer of a call. -/
def answer (queue : List α) : Call α → Answer α
  | .push _ => .pushed (decide (queue.length < capacity))
  | .pop held => .popped (!queue.isEmpty) (queue.headD held)
  | .clear => .cleared

end BoundedQueue
