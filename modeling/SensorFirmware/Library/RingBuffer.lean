import Mathlib.Data.Nat.ModEq
import SensorFirmware.Library.FixedArray

/-!
# Ring buffers

A ring buffer keeps a queue in an array of fixed size.  The queued values lie in
the slots from `tail` on and wrap around at the end of the array; `head` is the
first slot behind them, and slots outside the queue keep stale values.  Each
operation comes with the lemma that says what it does to the list of queued
values.
-/

/-- A queue in a wrapped array. -/
structure RingBuffer (α : Type u) (size : Nat) where
  slots : Vector α size
  head : Nat
  tail : Nat
  count : Nat
  tailInside : tail < size
  countFits : count ≤ size
  headBehind : head = (tail + count) % size

namespace RingBuffer

/-- The slot that follows, with the wrap-around at the end of the array. -/
def next (size index : Nat) : Nat :=
  if size ≤ index + 1 then 0 else index + 1

theorem next_eq_mod
    {size index : Nat}
    (inside : index < size) :
    next size index = (index + 1) % size := by
  rw [next]
  split
  · have last : index + 1 = size := by omega
    rw [last, Nat.mod_self]
  · exact (Nat.mod_eq_of_lt (by omega)).symm

/-- Two offsets below the size address different slots. -/
theorem slot_injective
    {size tail first second : Nat}
    (firstInside : first < size)
    (secondInside : second < size)
    (same : (tail + first) % size = (tail + second) % size) :
    first = second := by
  have cancelled : first % size = second % size :=
    Nat.ModEq.add_left_cancel' tail same
  rwa [Nat.mod_eq_of_lt firstInside, Nat.mod_eq_of_lt secondInside] at cancelled

variable (buffer : RingBuffer α size)

theorem headInside : buffer.head < size := by
  have inside := buffer.tailInside
  rw [buffer.headBehind]
  exact Nat.mod_lt _ (by omega)

/-- Append a value behind the queued ones. -/
def push (value : α) (room : buffer.count < size) : RingBuffer α size where
  slots := FixedArray.write buffer.slots buffer.head value
  head := next size buffer.head
  tail := buffer.tail
  count := buffer.count + 1
  tailInside := buffer.tailInside
  countFits := room
  headBehind := by
    rw [next_eq_mod buffer.headInside, buffer.headBehind, Nat.mod_add_mod, Nat.add_assoc]

/-- Remove the oldest value. -/
def pop (nonempty : 0 < buffer.count) : RingBuffer α size where
  slots := buffer.slots
  head := buffer.head
  tail := next size buffer.tail
  count := buffer.count - 1
  tailInside := by
    rw [next_eq_mod buffer.tailInside]
    exact Nat.mod_lt _ (Nat.lt_of_le_of_lt (Nat.zero_le _) buffer.tailInside)
  countFits := Nat.le_trans (Nat.sub_le _ _) buffer.countFits
  headBehind := by
    have shifted : buffer.tail + 1 + (buffer.count - 1) = buffer.tail + buffer.count := by
      omega
    rw [buffer.headBehind, next_eq_mod buffer.tailInside, Nat.mod_add_mod, shifted]

/-- Forget all values. -/
def clear : RingBuffer α size where
  slots := buffer.slots
  head := 0
  tail := 0
  count := 0
  tailInside := Nat.lt_of_le_of_lt (Nat.zero_le _) buffer.tailInside
  countFits := Nat.zero_le _
  headBehind := (Nat.zero_mod size).symm

/-! ## The list of queued values -/

variable [Inhabited α]

/-- The queued values, the oldest one first. -/
def contents : List α :=
  (List.range buffer.count).map fun offset =>
    FixedArray.read buffer.slots ((buffer.tail + offset) % size)

@[simp] theorem length_contents : buffer.contents.length = buffer.count := by
  simp [contents]

/-- A pushed value comes last, and the values before it stay. -/
theorem contents_push
    (value : α)
    (room : buffer.count < size) :
    (buffer.push value room).contents = buffer.contents ++ [value] := by
  have last : FixedArray.read (FixedArray.write buffer.slots buffer.head value)
      ((buffer.tail + buffer.count) % size) = value := by
    rw [← buffer.headBehind, FixedArray.read_write, if_pos ⟨rfl, buffer.headInside⟩]
  have earlier (offset : Nat) (inside : offset ∈ List.range buffer.count) :
      FixedArray.read (FixedArray.write buffer.slots buffer.head value)
          ((buffer.tail + offset) % size) =
        FixedArray.read buffer.slots ((buffer.tail + offset) % size) := by
    have below := List.mem_range.mp inside
    rw [FixedArray.read_write, if_neg]
    rintro ⟨same, _⟩
    rw [buffer.headBehind] at same
    have equal := slot_injective (by omega) room same
    omega
  simp only [contents, push, List.range_succ, List.map_append, List.map_cons,
    List.map_nil, last, List.map_congr_left earlier]

/-- The oldest value lies in the tail slot; removing it leaves the others. -/
theorem contents_eq_cons (nonempty : 0 < buffer.count) :
    buffer.contents =
      FixedArray.read buffer.slots buffer.tail :: (buffer.pop nonempty).contents := by
  have oneMore : buffer.count = buffer.count - 1 + 1 := by omega
  have first : (buffer.tail + 0) % size = buffer.tail :=
    Nat.mod_eq_of_lt buffer.tailInside
  have later (offset : Nat) :
      (buffer.tail + (offset + 1)) % size = (next size buffer.tail + offset) % size := by
    rw [next_eq_mod buffer.tailInside, Nat.mod_add_mod, Nat.add_assoc, Nat.add_comm offset]
  rw [contents, oneMore, List.range_succ_eq_map, List.map_cons, List.map_map, first]
  simp only [contents, pop, Function.comp_def, Nat.succ_eq_add_one, later]

theorem contents_clear : buffer.clear.contents = [] := rfl

end RingBuffer
