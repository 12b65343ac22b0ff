import Mathlib.Data.Nat.Basic

/-!
# Fixed-size arrays and counted loops

A C array of fixed size is a `Vector`.  Reads and writes take a plain index:
a read past the end yields the default value and a write past the end changes
nothing, so every operation is total.  Counted loops and block writes come with
the lemma that says what each cell holds afterwards.
-/

/-- The loop `for (i = 0; i < count; ++i)` with body `body i`. -/
def countedLoop (body : Nat → σ → σ) : Nat → σ → σ
  | 0, state => state
  | count + 1, state => body count (countedLoop body count state)

@[simp] theorem countedLoop_zero
    (body : Nat → σ → σ)
    (state : σ) :
    countedLoop body 0 state = state := rfl

theorem countedLoop_succ
    (body : Nat → σ → σ)
    (count : Nat)
    (state : σ) :
    countedLoop body (count + 1) state =
      body count (countedLoop body count state) := rfl

/-- A property that every iteration keeps survives the whole loop. -/
theorem countedLoop_invariant
    {body : Nat → σ → σ}
    (holds : σ → Prop)
    (kept : ∀ index state, holds state → holds (body index state))
    (count : Nat)
    {state : σ}
    (initially : holds state) :
    holds (countedLoop body count state) := by
  induction count with
  | zero => exact initially
  | succ count inductionHypothesis =>
      exact kept count _ inductionHypothesis

/-- Loops whose iterations agree have the same result. -/
theorem countedLoop_congr
    {body other : Nat → σ → σ}
    {count : Nat}
    (agree : ∀ index, index < count → body index = other index)
    (state : σ) :
    countedLoop body count state = countedLoop other count state := by
  induction count with
  | zero => rfl
  | succ count inductionHypothesis =>
      rw [countedLoop_succ, countedLoop_succ, agree count (by omega),
        inductionHypothesis fun index inside => agree index (by omega)]

/-- A loop seen through a projection that every iteration respects. -/
theorem countedLoop_project
    {body : Nat → σ → σ}
    (image : Nat → τ → τ)
    (project : σ → τ)
    (respects : ∀ index state,
      project (body index state) = image index (project state))
    (count : Nat)
    (state : σ) :
    project (countedLoop body count state) =
      countedLoop image count (project state) := by
  induction count with
  | zero => rfl
  | succ count inductionHypothesis =>
      rw [countedLoop_succ, countedLoop_succ, respects, inductionHypothesis]

namespace FixedArray

/-- Read one cell. -/
def read [Inhabited α] (array : Vector α n) (index : Nat) : α :=
  array.getD index default

/-- Overwrite one cell. -/
def write (array : Vector α n) (index : Nat) (value : α) : Vector α n :=
  array.setIfInBounds index value

/-- Overwrite consecutive cells from `start` on. -/
def writeAll (array : Vector α n) (start : Nat) : List α → Vector α n
  | [] => array
  | value :: values => writeAll (write array start value) (start + 1) values

/-- Overwrite the first `count` cells with those of a source. -/
def copy (array : Vector α n) (source : Nat → α) (count : Nat) : Vector α n :=
  countedLoop (fun i a => write a i (source i)) count array

/-- The first `length` cells, as a buffer-and-length pair denotes them. -/
def front (array : Vector α n) (length : Nat) : List α :=
  array.toList.take length

theorem read_eq_getElem [Inhabited α]
    (array : Vector α n)
    (index : Nat)
    (inside : index < n) :
    read array index = array[index] := by
  simp [read, Vector.getD, inside]

/-- Outside the array a read yields the default value. -/
theorem read_of_outside [Inhabited α]
    (array : Vector α n)
    {index : Nat}
    (outside : ¬ index < n) :
    read array index = default := by
  simp [read, Vector.getD, outside]

/-- Reading after a write sees the written value at its index and the old
contents everywhere else. -/
@[simp] theorem read_write [Inhabited α]
    (array : Vector α n)
    (index other : Nat)
    (value : α) :
    read (write array index value) other =
      if other = index ∧ index < n then value else read array other := by
  by_cases inside : other < n
  · rw [read_eq_getElem _ _ inside, read_eq_getElem _ _ inside]
    simp only [write, Vector.getElem_setIfInBounds inside]
    by_cases same : index = other
    · subst same
      simp [inside]
    · simp [same, Ne.symm same]
  · have outside : ¬ (other = index ∧ index < n) := by omega
    rw [if_neg outside]
    simp [read, Vector.getD, inside]

/-- Two arrays with the same cells are equal. -/
theorem ext_read [Inhabited α]
    {left right : Vector α n}
    (agree : ∀ index, index < n → read left index = read right index) :
    left = right := by
  apply Vector.ext
  intro index inside
  rw [← read_eq_getElem left index inside, ← read_eq_getElem right index inside]
  exact agree index inside

/-- Writing back the stored value changes nothing. -/
theorem write_eq_self_iff [Inhabited α]
    (array : Vector α n)
    (index : Nat)
    (value : α)
    (inside : index < n) :
    write array index value = array ↔ value = read array index := by
  constructor
  · intro same
    have cell := congrArg (read · index) same
    simpa [inside] using cell
  · intro same
    apply ext_read
    intro other _
    by_cases equal : other = index
    · subst equal
      simp [inside, same]
    · simp [equal]

/-- A block write stores its values at the indices it covers. -/
theorem read_writeAll [Inhabited α]
    (array : Vector α n)
    (start : Nat)
    (values : List α)
    (fits : start + values.length ≤ n)
    (index : Nat) :
    read (writeAll array start values) index =
      if start ≤ index ∧ index < start + values.length
      then values.getD (index - start) default
      else read array index := by
  induction values generalizing array start with
  | nil =>
      have uncovered : ¬ (start ≤ index ∧ index < start + ([] : List α).length) := by
        simp
      rw [if_neg uncovered]
      rfl
  | cons value values inductionHypothesis =>
      simp only [List.length_cons] at fits
      rw [writeAll, inductionHypothesis _ _ (by omega), read_write]
      by_cases first : index = start
      · subst first
        have inside : index < n := by omega
        have notLater : ¬ (index + 1 ≤ index ∧
            index < index + 1 + values.length) := by omega
        rw [if_neg notLater]
        simp [inside]
      · by_cases later : start + 1 ≤ index ∧ index < start + 1 + values.length
        · obtain ⟨offset, rfl⟩ : ∃ offset, index = start + 1 + offset :=
            ⟨index - (start + 1), by omega⟩
          have covered : start ≤ start + 1 + offset ∧
              start + 1 + offset < start + (value :: values).length := by
            simp only [List.length_cons]
            omega
          have shifted : start + 1 + offset - start = offset + 1 := by omega
          rw [if_pos later, if_pos covered, shifted]
          simp
        · have uncovered : ¬ (start ≤ index ∧
              index < start + (value :: values).length) := by
            simp only [List.length_cons]
            omega
          rw [if_neg later, if_neg uncovered]
          simp [first]

/-- A loop that fills consecutive cells leaves in each the value computed for
it. -/
theorem read_fillLoop [Inhabited α]
    (start : Nat)
    (value : Nat → α)
    (count : Nat)
    (array : Vector α n)
    (fits : start + count ≤ n)
    (index : Nat) :
    read (countedLoop (fun i a => write a (start + i) (value i)) count array) index =
      if start ≤ index ∧ index < start + count then value (index - start)
      else read array index := by
  induction count with
  | zero =>
      have uncovered : ¬ (start ≤ index ∧ index < start + 0) := by omega
      rw [if_neg uncovered, countedLoop_zero]
  | succ count inductionHypothesis =>
      rw [countedLoop_succ, read_write, inductionHypothesis (by omega)]
      by_cases last : index = start + count
      · subst last
        have inside : start + count < n := by omega
        simp [inside]
      · by_cases covered : start ≤ index ∧ index < start + count
        · have stillCovered : start ≤ index ∧ index < start + (count + 1) := by omega
          simp [last, covered, stillCovered]
        · have stillUncovered : ¬ (start ≤ index ∧ index < start + (count + 1)) := by
            omega
          simp only [last, covered, stillUncovered, false_and, if_false]

/-- The same for a loop that starts at the first cell. -/
theorem read_fillFront [Inhabited α]
    (value : Nat → α)
    (count : Nat)
    (array : Vector α n)
    (fits : count ≤ n)
    (index : Nat) :
    read (countedLoop (fun i a => write a i (value i)) count array) index =
      if index < count then value index else read array index := by
  have cell := read_fillLoop 0 value count array (by omega) index
  simpa only [Nat.zero_add, Nat.zero_le, true_and, Nat.sub_zero] using cell

/-- A fill loop changes nothing exactly when the cells already hold the values. -/
theorem fillLoop_eq_self_iff [Inhabited α]
    (value : Nat → α)
    (count : Nat)
    (array : Vector α n)
    (fits : count ≤ n) :
    countedLoop (fun i a => write a i (value i)) count array = array ↔
      ∀ index, index < count → read array index = value index := by
  have cells := read_fillFront value count array fits
  constructor
  · intro same index inside
    have cell := cells index
    rw [same, if_pos inside] at cell
    exact cell
  · intro stored
    apply ext_read
    intro index _
    rw [cells]
    split
    · rename_i inside
      exact (stored index inside).symm
    · rfl

/-- A loop that updates consecutive cells one by one applies to each its own
update. -/
theorem read_updateLoop [Inhabited α]
    (start : Nat)
    (update : Nat → α → α)
    (count : Nat)
    (array : Vector α n)
    (fits : start + count ≤ n)
    (index : Nat) :
    read (countedLoop
        (fun i a => write a (start + i) (update i (read a (start + i)))) count array)
        index =
      if start ≤ index ∧ index < start + count
      then update (index - start) (read array index)
      else read array index := by
  induction count generalizing index with
  | zero =>
      have uncovered : ¬ (start ≤ index ∧ index < start + 0) := by omega
      rw [if_neg uncovered, countedLoop_zero]
  | succ count inductionHypothesis =>
      have notYet : ¬ (start ≤ start + count ∧ start + count < start + count) := by
        omega
      rw [countedLoop_succ, read_write, inductionHypothesis (by omega),
        inductionHypothesis (by omega), if_neg notYet]
      by_cases last : index = start + count
      · subst last
        have inside : start + count < n := by omega
        simp [inside]
      · have extended : (start ≤ index ∧ index < start + (count + 1)) ↔
            (start ≤ index ∧ index < start + count) := by omega
        simp only [last, extended, false_and, if_false]

@[simp] theorem length_front
    (array : Vector α n)
    (length : Nat) :
    (front array length).length = min length n := by
  simp [front]

/-- The cells of a prefix are the cells of the array. -/
theorem getElem_front [Inhabited α]
    (array : Vector α n)
    (length index : Nat)
    (inside : index < (front array length).length) :
    (front array length)[index] = read array index := by
  rw [length_front] at inside
  rw [read_eq_getElem array index (by omega)]
  simp [front]

/-- Prefixes agree when the cells they cover agree. -/
theorem front_congr [Inhabited α]
    {left right : Vector α n}
    {length : Nat}
    (agree : ∀ index, index < length → read left index = read right index) :
    front left length = front right length := by
  apply List.ext_getElem
  · simp
  · intro index insideLeft insideRight
    rw [getElem_front, getElem_front]
    rw [length_front] at insideLeft
    exact agree index (by omega)

/-- A longer prefix has one more cell. -/
theorem front_succ [Inhabited α]
    (array : Vector α n)
    {length : Nat}
    (inside : length < n) :
    front array (length + 1) = front array length ++ [read array length] := by
  have covered : length < array.toList.length := by simpa using inside
  rw [front, front, read_eq_getElem array length inside,
    List.take_succ_eq_append_getElem covered]
  simp

/-- A write behind a prefix leaves it alone. -/
theorem front_write [Inhabited α]
    (array : Vector α n)
    {length index : Nat}
    (behind : length ≤ index)
    (value : α) :
    front (write array index value) length = front array length := by
  apply front_congr
  intro other inside
  have different : ¬ (other = index ∧ index < n) := by omega
  rw [read_write, if_neg different]

/-- A copy starts with the values of its source and keeps the rest. -/
theorem read_copy [Inhabited α]
    (array : Vector α n)
    (source : Nat → α)
    (count index : Nat) :
    read (copy array source count) index =
      if index < count ∧ index < n then source index else read array index := by
  induction count with
  | zero => simp [copy]
  | succ count inductionHypothesis =>
      rw [copy] at inductionHypothesis
      rw [copy, countedLoop_succ, read_write, inductionHypothesis]
      by_cases last : index = count
      · subst last
        simp
      · have extended : index < count + 1 ↔ index < count := by omega
        simp only [last, extended, false_and, if_false]

/-- The copied prefix lists the values of the source. -/
theorem front_copy [Inhabited α]
    (array : Vector α n)
    (source : Nat → α)
    (count : Nat)
    (fits : count ≤ n) :
    front (copy array source count) count = (List.range count).map source := by
  apply List.ext_getElem
  · simp [fits]
  · intro index _ inside
    have below : index < count := by simpa using inside
    rw [getElem_front, read_copy, if_pos ⟨below, by omega⟩, List.getElem_map,
      List.getElem_range]

/-- A copied prefix is the prefix of the copied array. -/
theorem front_copy_read [Inhabited α]
    (array source : Vector α n)
    (count : Nat) :
    front (copy array (read source) count) count = front source count := by
  apply List.ext_getElem
  · simp
  · intro index inside _
    rw [length_front] at inside
    rw [getElem_front, getElem_front, read_copy, if_pos (by omega)]

/-- A prefix lists the cells that it covers. -/
theorem map_read_range [Inhabited α]
    (array : Vector α n)
    (count : Nat)
    (fits : count ≤ n) :
    (List.range count).map (read array) = front array count :=
  (front_copy array (read array) count fits).symm.trans (front_copy_read array array count)

/-- A prefix written in one block is that block. -/
theorem front_writeAll [Inhabited α]
    (array : Vector α n)
    (values : List α)
    (fits : values.length ≤ n) :
    front (writeAll array 0 values) values.length = values := by
  apply List.ext_getElem
  · simp [fits]
  · intro index _ inside
    rw [getElem_front, read_writeAll array 0 values (by omega)]
    simp [inside]

/-- Two adjacent block writes are one block write. -/
theorem writeAll_append
    (array : Vector α n)
    (start : Nat)
    (first second : List α) :
    writeAll array start (first ++ second) =
      writeAll (writeAll array start first) (start + first.length) second := by
  induction first generalizing array start with
  | nil => simp [writeAll]
  | cons value values inductionHypothesis =>
      simp only [List.cons_append, writeAll, List.length_cons]
      rw [inductionHypothesis, Nat.add_right_comm, Nat.add_assoc]

/-! ## Conditions on all cells -/

/-- Every cell meets a condition, and so does the value read outside the array. -/
def All [Inhabited α] (holds : α → Prop) (array : Vector α n) : Prop :=
  ∀ index, holds (read array index)

theorem All.replicate [Inhabited α]
    {holds : α → Prop}
    {value : α}
    (outside : holds default)
    (inside : holds value) :
    All holds (Vector.replicate n value) := by
  intro index
  by_cases covered : index < n
  · rw [read_eq_getElem _ _ covered, Vector.getElem_replicate]
    exact inside
  · rw [read_of_outside _ covered]
    exact outside

theorem All.write [Inhabited α]
    {holds : α → Prop}
    {array : Vector α n}
    (all : All holds array)
    (index : Nat)
    {value : α}
    (written : holds value) :
    All holds (write array index value) := by
  intro other
  rw [read_write]
  split
  · exact written
  · exact all other

end FixedArray
