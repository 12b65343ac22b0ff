import Mathlib.Data.Multiset.Sort
import SensorFirmware.Library.StreamWindow
import SensorFirmware.Library.Transition
import SensorFirmware.Sensor.MedianFilter

/-!
# The median of the last samples

The sample ring holds the last values of the stream of samples, and the sort
buffer is sorted by insertion.  Over every run of calls the filter returns the
middle element of the last eighteen samples in ascending order.
-/

namespace SensorFirmware

open FixedArray (read write front)

namespace MedianFilter

/-! ## The insertion sort -/

/-- An insertion leaves the cells above its position alone. -/
theorem read_insertKey_above
    (key : Int)
    {position index : Nat}
    (above : position < index)
    (buffer : Vector Int 18) :
    read (insertKey key position buffer) index = read buffer index := by
  induction position generalizing buffer with
  | zero =>
      have other : ¬ (index = 0 ∧ 0 < 18) := by omega
      rw [insertKey, FixedArray.read_write, if_neg other]
  | succ position inductionHypothesis =>
      have other : ¬ (index = position + 1 ∧ position + 1 < 18) := by omega
      rw [insertKey]
      split
      · rw [inductionHypothesis (by omega), FixedArray.read_write, if_neg other]
      · rw [FixedArray.read_write, if_neg other]

/-- A larger sample moves up, and the key goes below it. -/
theorem front_insertKey_of_lt
    {key : Int}
    {position : Nat}
    (inside : position + 1 < 18)
    {buffer : Vector Int 18}
    (larger : key < read buffer position) :
    front (insertKey key (position + 1) buffer) (position + 2) =
      front (insertKey key position (write buffer (position + 1) (read buffer position)))
          (position + 1) ++
        [read buffer position] := by
  rw [insertKey, if_pos larger, FixedArray.front_succ _ inside,
    read_insertKey_above key (Nat.lt_succ_self position), FixedArray.read_write,
    if_pos ⟨rfl, inside⟩]

/-- A key that is not smaller goes last. -/
theorem front_insertKey_of_le
    {key : Int}
    {position : Nat}
    (inside : position + 1 < 18)
    {buffer : Vector Int 18}
    (atLeast : read buffer position ≤ key) :
    front (insertKey key (position + 1) buffer) (position + 2) =
      front buffer (position + 1) ++ [key] := by
  rw [insertKey, if_neg (Int.not_lt.mpr atLeast), FixedArray.front_succ _ inside,
    FixedArray.front_write _ (Nat.le_refl _), FixedArray.read_write,
    if_pos ⟨rfl, inside⟩]

/-- Moving a sample up leaves the cells below it alone. -/
theorem front_moveUp
    (position : Nat)
    (buffer : Vector Int 18) :
    front (write buffer (position + 1) (read buffer position)) position =
      front buffer position :=
  FixedArray.front_write _ (Nat.le_succ position) _

/-- An insertion adds the key to the cells below its position. -/
theorem front_insertKey_perm
    (key : Int)
    {position : Nat}
    (inside : position < 18)
    (buffer : Vector Int 18) :
    (front (insertKey key position buffer) (position + 1)).Perm
      (key :: front buffer position) := by
  induction position generalizing buffer with
  | zero =>
      rw [insertKey, FixedArray.front_succ _ inside,
        FixedArray.front_write _ (Nat.le_refl 0), FixedArray.read_write,
        if_pos ⟨rfl, inside⟩]
      simp [front]
  | succ position inductionHypothesis =>
      have below : position < 18 := by omega
      by_cases larger : key < read buffer position
      · have inserted := inductionHypothesis below
          (write buffer (position + 1) (read buffer position))
        rw [front_moveUp] at inserted
        rw [front_insertKey_of_lt inside larger, FixedArray.front_succ buffer below]
        exact inserted.append_right [read buffer position]
      · rw [front_insertKey_of_le inside (Int.not_lt.mp larger)]
        exact List.perm_append_singleton key _

/-- A value behind sorted values that do not exceed it. -/
theorem pairwise_append_singleton
    {values : List Int}
    {last : Int}
    (sorted : values.Pairwise (· ≤ ·))
    (atMost : ∀ value ∈ values, value ≤ last) :
    (values ++ [last]).Pairwise (· ≤ ·) := by
  rw [List.pairwise_append]
  refine ⟨sorted, List.pairwise_singleton _ _, ?_⟩
  intro value member other atLast
  rw [List.mem_singleton.mp atLast]
  exact atMost value member

/-- An insertion into sorted cells leaves them sorted. -/
theorem front_insertKey_sorted
    (key : Int)
    {position : Nat}
    (inside : position < 18)
    {buffer : Vector Int 18}
    (sorted : (front buffer position).Pairwise (· ≤ ·)) :
    (front (insertKey key position buffer) (position + 1)).Pairwise (· ≤ ·) := by
  induction position generalizing buffer with
  | zero =>
      rw [FixedArray.front_succ _ inside]
      simp [front]
  | succ position inductionHypothesis =>
      have below : position < 18 := by omega
      have parts := sorted
      rw [FixedArray.front_succ _ below, List.pairwise_append] at parts
      obtain ⟨lowerSorted, -, lower⟩ := parts
      have atMost (sample : Int) (member : sample ∈ front buffer position) :
          sample ≤ read buffer position :=
        lower sample member _ (List.mem_singleton.mpr rfl)
      by_cases larger : key < read buffer position
      · have inserted := front_insertKey_perm key below
          (write buffer (position + 1) (read buffer position))
        rw [front_moveUp] at inserted
        rw [front_insertKey_of_lt inside larger]
        refine pairwise_append_singleton (inductionHypothesis below ?_) ?_
        · rwa [front_moveUp]
        · intro sample member
          rcases List.mem_cons.mp (inserted.mem_iff.mp member) with rfl | earlier
          · exact larger.le
          · exact atMost sample earlier
      · have atLeast : read buffer position ≤ key := Int.not_lt.mp larger
        rw [front_insertKey_of_le inside atLeast]
        refine pairwise_append_singleton sorted ?_
        intro sample member
        rw [FixedArray.front_succ _ below, List.mem_append, List.mem_singleton] at member
        rcases member with earlier | rfl
        · exact (atMost sample earlier).trans atLeast
        · exact atLeast

/-- After each iteration of the outer loop the cells that it has reached are
sorted, they are the same samples as before, and the others are untouched. -/
structure SortedUpTo (original : Vector Int 18) (position : Nat) (buffer : Vector Int 18) :
    Prop where
  perm : (front buffer (position + 1)).Perm (front original (position + 1))
  sorted : (front buffer (position + 1)).Pairwise (· ≤ ·)
  above : ∀ index, position < index → read buffer index = read original index

theorem SortedUpTo.start (buffer : Vector Int 18) : SortedUpTo buffer 0 buffer where
  perm := .refl _
  sorted := by
    rw [FixedArray.front_succ _ (by omega)]
    simp [front]
  above := fun _ _ => rfl

theorem SortedUpTo.step
    {original buffer : Vector Int 18}
    {position : Nat}
    (upTo : SortedUpTo original position buffer)
    (inside : position + 1 < 18) :
    SortedUpTo original (position + 1)
      (insertKey (read buffer (position + 1)) (position + 1) buffer) where
  perm := by
    have key : read buffer (position + 1) = read original (position + 1) :=
      upTo.above (position + 1) (Nat.lt_succ_self position)
    have inserted := front_insertKey_perm (read buffer (position + 1)) inside buffer
    rw [FixedArray.front_succ original inside, ← key]
    exact inserted.trans
      ((upTo.perm.cons _).trans (List.perm_append_singleton _ _).symm)
  sorted := front_insertKey_sorted _ inside upTo.sorted
  above := by
    intro index beyond
    rw [read_insertKey_above _ beyond]
    exact upTo.above index (by omega)

/-- The outer loop sorts the cells that it has reached. -/
theorem sortedUpTo_insertionSort
    (buffer : Vector Int 18)
    {position : Nat}
    (inside : position < 18) :
    SortedUpTo buffer position (insertionSort (position + 1) buffer) := by
  rw [insertionSort, Nat.add_sub_cancel]
  induction position with
  | zero => exact .start buffer
  | succ position inductionHypothesis =>
      rw [countedLoop_succ]
      exact (inductionHypothesis (by omega)).step inside

/-- Samples in ascending order. -/
def ascending (samples : List Int) : List Int := Multiset.sort (samples : Multiset Int)

/-- The order of the samples does not depend on the order before. -/
theorem ascending_congr
    {left right : List Int}
    (same : left.Perm right) :
    ascending left = ascending right := by
  rw [ascending, Multiset.coe_eq_coe.mpr same, ascending]

/-- Insertion sort puts the first `count` cells in ascending order. -/
theorem front_insertionSort
    (buffer : Vector Int 18)
    {count : Nat}
    (fits : count ≤ 18) :
    front (insertionSort count buffer) count = ascending (front buffer count) := by
  cases count with
  | zero => simp [front, ascending]
  | succ position =>
      have upTo := sortedUpTo_insertionSort buffer (show position < 18 by omega)
      have sameSamples : (front (insertionSort (position + 1) buffer) (position + 1)).Perm
          (ascending (front buffer (position + 1))) :=
        upTo.perm.trans (Multiset.coe_eq_coe.mp (Multiset.sort_eq _ _)).symm
      exact sameSamples.eq_of_pairwise' upTo.sorted (Multiset.pairwise_sort _ _)

/-! ## The sample ring -/

/-- The calls that change a filter. -/
inductive Call
  | reset
  | seed (value : Int)
  | apply (value : Int)

/-- The filter after one call. -/
def step (filter : MedianFilter) : Call → MedianFilter
  | .reset => reset
  | .seed value => seed value
  | .apply value => (filter.apply value).2

/-- The filter after the constructor and a list of calls. -/
def after (calls : List Call) : MedianFilter :=
  Transition.run step reset calls

/-- The samples since the last reset after one more call; a seed counts as
eighteen equal samples. -/
def record (history : List Int) : Call → List Int
  | .reset => []
  | .seed value => List.replicate 18 value
  | .apply value => history ++ [value]

/-- The samples since the last reset or the construction, the oldest first. -/
def history (calls : List Call) : List Int :=
  Transition.run record [] calls

/-- The element of rank `n / 2` of `n` samples in ascending order. -/
def IsMedian (median : Int) (samples : List Int) : Prop :=
  (ascending samples)[samples.length / 2]? = some median

/-- The ring holds the last samples of a stream. -/
structure Follows (filter : MedianFilter) (stream : List Int) : Prop where
  holds : StreamWindow.Holds filter.samples stream
  index : filter.index.toNat = stream.length % 18
  count : filter.count.toNat = min 18 stream.length

theorem Follows.reset : MedianFilter.reset.Follows [] where
  holds := StreamWindow.holds_nil _
  index := rfl
  count := rfl

theorem Follows.seed (value : Int) :
    (MedianFilter.seed value).Follows (List.replicate 18 value) where
  holds := StreamWindow.holds_replicate value
  index := by
    rw [List.length_replicate]
    rfl
  count := by
    rw [List.length_replicate]
    rfl

section

variable {filter : MedianFilter} {stream : List Int}

/-- The number of samples in use after one more. -/
theorem Follows.nextCount
    (follows : filter.Follows stream)
    (value : Int) :
    (filter.apply value).2.count.toNat = min 18 (stream.length + 1) := by
  have counted := follows.count
  have capacity : size.toNat = 18 := rfl
  have one : (1 : UInt8).toNat = 1 := rfl
  show (if filter.count < size then filter.count + 1 else filter.count).toNat = _
  split
  case isTrue room =>
    rw [UInt8.lt_iff_toNat_lt, capacity] at room
    rw [UInt8.toNat_add, one]
    omega
  case isFalse full =>
    rw [UInt8.lt_iff_toNat_lt, capacity] at full
    omega

theorem Follows.apply
    (follows : filter.Follows stream)
    (value : Int) :
    (filter.apply value).2.Follows (stream ++ [value]) where
  holds := by
    have written := follows.holds.append_singleton value (by omega)
    rwa [← follows.index] at written
  index := by
    have indexed := follows.index
    have capacity : size.toNat = 18 := rfl
    have one : (1 : UInt8).toNat = 1 := rfl
    have zero : (0 : UInt8).toNat = 0 := rfl
    rw [List.length_append, List.length_singleton]
    show (if size ≤ filter.index + 1 then 0 else filter.index + 1).toNat = _
    split
    case isTrue wraps =>
      rw [UInt8.le_iff_toNat_le, UInt8.toNat_add, capacity, one] at wraps
      omega
    case isFalse within =>
      rw [UInt8.le_iff_toNat_le, UInt8.toNat_add, capacity, one] at within
      rw [UInt8.toNat_add, one]
      omega
  count := by
    rw [List.length_append, List.length_singleton]
    exact follows.nextCount value

/-- What the filter returns is the median of the last samples, the new one
included. -/
theorem Follows.apply_isMedian
    (follows : filter.Follows stream)
    (value : Int) :
    IsMedian (filter.apply value).1 ((stream ++ [value]).rtake 18) := by
  have next := follows.apply value
  let count := (filter.apply value).2.count
  let samples := (filter.apply value).2.samples
  let copied := FixedArray.copy filter.sortBuffer (read samples) count.toNat
  have counted : count.toNat = min 18 (stream ++ [value]).length := next.count
  have positive : 0 < count.toNat := by
    rw [counted, List.length_append, List.length_singleton]
    omega
  have fits : count.toNat ≤ 18 := by omega
  have result : (filter.apply value).1 =
      read (insertionSort count.toNat copied) (count / 2).toNat := by
    have nonempty : 0 < count := by
      rw [UInt8.lt_iff_toNat_lt]
      exact positive
    exact if_pos nonempty
  have half : (count / 2).toNat = count.toNat / 2 := UInt8.toNat_div _ _
  have lastSamples : (front samples count.toNat).Perm ((stream ++ [value]).rtake 18) := by
    rw [counted]
    exact next.holds.front_perm
  have inOrder : front (insertionSort count.toNat copied) count.toNat =
      ascending ((stream ++ [value]).rtake 18) := by
    rw [front_insertionSort copied fits, FixedArray.front_copy_read,
      ascending_congr lastSamples]
  have length : ((stream ++ [value]).rtake 18).length = count.toNat := by
    rw [← lastSamples.length_eq, FixedArray.length_front, Nat.min_eq_left fits]
  have middle : count.toNat / 2 <
      (front (insertionSort count.toNat copied) count.toNat).length := by
    rw [FixedArray.length_front]
    omega
  rw [IsMedian, length, ← inOrder, List.getElem?_eq_getElem middle,
    FixedArray.getElem_front, result, half]

end

@[simp] theorem after_append_singleton
    (calls : List Call)
    (call : Call) :
    after (calls ++ [call]) = (after calls).step call := by
  rw [after, Transition.run_append, Transition.run_cons, Transition.run_nil, after]

@[simp] theorem history_append_singleton
    (calls : List Call)
    (call : Call) :
    history (calls ++ [call]) = record (history calls) call := by
  rw [history, Transition.run_append, Transition.run_cons, Transition.run_nil, history]

/-- Along every run the ring holds the last samples. -/
theorem after_follows (calls : List Call) : (after calls).Follows (history calls) := by
  induction calls using List.reverseRecOn with
  | nil => exact .reset
  | append_singleton calls call inductionHypothesis =>
      rw [after_append_singleton, history_append_singleton]
      cases call with
      | reset => exact .reset
      | seed value => exact .seed value
      | apply value => exact inductionHypothesis.apply value

/-- After every run of calls the filter returns the median of the last eighteen
samples, and it counts as initialized once there are eighteen. -/
theorem apply_after_isMedian (calls : List Call) (value : Int) :
    IsMedian ((after calls).apply value).1 ((history calls ++ [value]).rtake 18) ∧
      ((after calls).initialized = true ↔ 18 ≤ (history calls).length) := by
  have follows := after_follows calls
  refine ⟨follows.apply_isMedian value, ?_⟩
  have capacity : size.toNat = 18 := rfl
  have counted := follows.count
  rw [initialized, decide_eq_true_eq, UInt8.le_iff_toNat_le, capacity]
  omega

end MedianFilter

end SensorFirmware
