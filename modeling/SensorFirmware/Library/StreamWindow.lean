import Mathlib.Data.List.DropRight
import Mathlib.Data.List.Rotate
import Mathlib.Data.Nat.ModEq
import SensorFirmware.Library.FixedArray

/-!
# A window on a stream

A producer that writes a stream into an array and wraps around at its end keeps
the last values of the stream there: the value at a position of the stream lies
in the slot with that position modulo the size.  A consumer that is less than one
turn behind reads the stream in order, and the slots in use hold the last values
in some order.
-/

namespace StreamWindow

variable {α : Type u} [Inhabited α] {size : Nat}

/-- The slots hold the last `size` values of the stream. -/
def Holds (slots : Vector α size) (stream : List α) : Prop :=
  ∀ position (_ : position < stream.length), stream.length ≤ position + size →
    FixedArray.read slots (position % size) = stream[position]

theorem holds_nil (slots : Vector α size) : Holds slots [] :=
  fun _ inside => absurd inside (Nat.not_lt_zero _)

/-- The next value of the stream goes into the next slot. -/
theorem Holds.append_singleton
    {slots : Vector α size}
    {stream : List α}
    (holds : Holds slots stream)
    (value : α)
    (nonempty : 0 < size) :
    Holds (FixedArray.write slots (stream.length % size) value) (stream ++ [value]) := by
  intro position inside recent
  rw [List.length_append, List.length_singleton] at inside recent
  have slotInside : stream.length % size < size := Nat.mod_lt _ nonempty
  rw [FixedArray.read_write]
  by_cases last : position = stream.length
  · subst last
    rw [if_pos ⟨rfl, slotInside⟩, List.getElem_concat_length rfl]
  · have earlier : position < stream.length := by omega
    have otherSlot : position % size ≠ stream.length % size := by
      intro same
      -- two positions less than one turn apart do not share a slot
      have turns : size ∣ stream.length - position :=
        (Nat.modEq_iff_dvd' earlier.le).mp same
      have short := Nat.le_of_dvd (by omega) turns
      omega
    rw [if_neg fun both => otherSlot both.1, List.getElem_append_left earlier]
    exact holds position earlier (by omega)

/-- The slots from a recent position on hold the stream from there on. -/
theorem Holds.map_read
    {slots : Vector α size}
    {stream : List α}
    (holds : Holds slots stream)
    {start count : Nat}
    (inside : start + count ≤ stream.length)
    (recent : stream.length ≤ start + size) :
    (List.range count).map (fun offset => FixedArray.read slots ((start + offset) % size)) =
      (stream.drop start).take count := by
  apply List.ext_getElem
  · simp only [List.length_map, List.length_range, List.length_take, List.length_drop]
    omega
  · intro offset left right
    rw [List.length_map, List.length_range] at left
    rw [List.getElem_map, List.getElem_range, List.getElem_take, List.getElem_drop]
    exact holds (start + offset) (by omega) (by omega)

/-- A constant array holds a constant stream of its size. -/
theorem holds_replicate (value : α) :
    Holds (Vector.replicate size value) (List.replicate size value) := by
  intro position inside _
  rw [List.length_replicate] at inside
  rw [List.getElem_replicate, Nat.mod_eq_of_lt inside,
    FixedArray.read_eq_getElem _ _ inside, Vector.getElem_replicate]

/-- One turn through the slots is a rotation of the array. -/
theorem map_read_turn
    (slots : Vector α size)
    (start : Nat) :
    (List.range size).map
        (fun offset => FixedArray.read slots ((start + offset) % size)) =
      (FixedArray.front slots size).rotate start := by
  have full : (FixedArray.front slots size).length = size := by simp
  apply List.ext_getElem
  · rw [List.length_map, List.length_range, List.length_rotate, full]
  · intro offset _ _
    rw [List.getElem_map, List.getElem_range, List.getElem_rotate,
      FixedArray.getElem_front, full, Nat.add_comm]

/-- The slots in use hold the last values of the stream, in some order. -/
theorem Holds.front_perm
    {slots : Vector α size}
    {stream : List α}
    (holds : Holds slots stream) :
    (FixedArray.front slots (min size stream.length)).Perm (stream.rtake size) := by
  by_cases filled : size ≤ stream.length
  · have turn := holds.map_read
      (show stream.length - size + size ≤ stream.length by omega) (by omega)
    have whole : (stream.drop (stream.length - size)).take size = stream.rtake size := by
      rw [List.rtake, List.take_of_length_le]
      rw [List.length_drop]
      omega
    rw [map_read_turn, whole] at turn
    rw [Nat.min_eq_left filled, ← turn]
    exact (List.rotate_perm _ _).symm
  · -- before the first turn ends the slots hold the stream itself
    have short : stream.length ≤ size := by omega
    have inOrder := holds.map_read (show 0 + stream.length ≤ stream.length by omega)
      (show stream.length ≤ 0 + size by omega)
    have unwrapped (offset : Nat) (inside : offset ∈ List.range stream.length) :
        FixedArray.read slots ((0 + offset) % size) = FixedArray.read slots offset := by
      have below := List.mem_range.mp inside
      rw [Nat.zero_add, Nat.mod_eq_of_lt (by omega)]
    rw [List.map_congr_left unwrapped, FixedArray.map_read_range _ _ short] at inOrder
    rw [Nat.min_eq_right short, inOrder, List.rtake, Nat.sub_eq_zero_of_le short,
      List.drop_zero, List.take_length]

end StreamWindow
