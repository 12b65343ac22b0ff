import SensorFirmware.Library.FixedArray

/-!
# Median filter

A ring of the latest samples and a buffer in which they are sorted.
-/

namespace SensorFirmware

/-- State of `MedianFilter`. -/
structure MedianFilter where
  index : UInt8
  count : UInt8
  samples : Vector Int 18
  sortBuffer : Vector Int 18
  deriving DecidableEq

namespace MedianFilter

/-- Capacity of the ring. -/
@[reducible] def size : UInt8 := 18

/-- The constructor, and `MedianFilter::reset`. -/
def reset : MedianFilter where
  index := 0
  count := 0
  samples := Vector.replicate 18 0
  sortBuffer := Vector.replicate 18 0

/-- `MedianFilter::seed`. -/
def seed (value : Int) : MedianFilter where
  index := 0
  count := size
  samples := Vector.replicate 18 value
  sortBuffer := Vector.replicate 18 value

/-- `MedianFilter::initialized`. -/
def initialized (filter : MedianFilter) : Bool := size ≤ filter.count

/-- The inner loop of the insertion sort: shift larger samples up from `j` down
and put the key into the gap. -/
def insertKey (key : Int) : Nat → Vector Int 18 → Vector Int 18
  | 0, buffer => FixedArray.write buffer 0 key
  | j + 1, buffer =>
      if key < FixedArray.read buffer j then
        insertKey key j (FixedArray.write buffer (j + 1) (FixedArray.read buffer j))
      else FixedArray.write buffer (j + 1) key

/-- The insertion sort of the first `count` samples. -/
def insertionSort (count : Nat) (buffer : Vector Int 18) : Vector Int 18 :=
  countedLoop
    (fun i buffer => insertKey (FixedArray.read buffer (i + 1)) (i + 1) buffer)
    (count - 1) buffer

/-- `MedianFilter::apply`. -/
def apply (filter : MedianFilter) (value : Int) : Int × MedianFilter :=
  let samples := FixedArray.write filter.samples filter.index.toNat value
  let count := if filter.count < size then filter.count + 1 else filter.count
  let index := if size ≤ filter.index + 1 then 0 else filter.index + 1
  let copied :=
    countedLoop
      (fun i buffer => FixedArray.write buffer i (FixedArray.read samples i))
      count.toNat filter.sortBuffer
  let sortBuffer := insertionSort count.toNat copied
  (if 0 < count then FixedArray.read sortBuffer (count / 2).toNat else value,
    { index := index
      count := count
      samples := samples
      sortBuffer := sortBuffer })

/-! ## Conditions on the samples -/

/-- Every sample in the filter meets a condition. -/
structure All (holds : Int → Prop) (filter : MedianFilter) : Prop where
  samples : FixedArray.All holds filter.samples
  sortBuffer : FixedArray.All holds filter.sortBuffer

section

variable {holds : Int → Prop}

theorem All.reset (zero : holds 0) : MedianFilter.reset.All holds where
  samples := .replicate zero zero
  sortBuffer := .replicate zero zero

theorem All.seed
    {value : Int}
    (zero : holds 0)
    (seeded : holds value) :
    (MedianFilter.seed value).All holds where
  samples := .replicate zero seeded
  sortBuffer := .replicate zero seeded

/-- Sorting moves samples only. -/
theorem insertKey_all
    {key : Int}
    (holdsKey : holds key)
    (position : Nat)
    {buffer : Vector Int 18}
    (all : FixedArray.All holds buffer) :
    FixedArray.All holds (insertKey key position buffer) := by
  induction position generalizing buffer with
  | zero => exact all.write 0 holdsKey
  | succ position inductionHypothesis =>
      rw [insertKey]
      split
      · exact inductionHypothesis (all.write (position + 1) (all position))
      · exact all.write (position + 1) holdsKey

theorem insertionSort_all
    (count : Nat)
    {buffer : Vector Int 18}
    (all : FixedArray.All holds buffer) :
    FixedArray.All holds (insertionSort count buffer) :=
  countedLoop_invariant (FixedArray.All holds)
    (fun index _ kept => insertKey_all (kept (index + 1)) (index + 1) kept) (count - 1) all

/-- The result of the filter is one of its samples, and it keeps no others. -/
theorem All.apply
    {filter : MedianFilter}
    (all : filter.All holds)
    {value : Int}
    (applied : holds value) :
    holds (filter.apply value).1 ∧ (filter.apply value).2.All holds := by
  have samples := all.samples.write filter.index.toNat applied
  have copied (count : Nat) := countedLoop_invariant (FixedArray.All holds)
    (fun index _ kept => kept.write index (samples index)) count all.sortBuffer
  have sorted (count : Nat) := insertionSort_all count (copied count)
  refine ⟨?_, samples, sorted _⟩
  let count := if filter.count < size then filter.count + 1 else filter.count
  show holds (if 0 < count then FixedArray.read _ (count / 2).toNat else value)
  split
  · exact sorted count.toNat (count / 2).toNat
  · exact applied

end

end MedianFilter

end SensorFirmware
