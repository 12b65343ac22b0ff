import SensorFirmware.Library.Words

/-!
# Checked array accesses

The array operations again, with a bounds check at every access: they yield
`none` at an index outside the array.  `fetch` reads a list of cells into an
otherwise blank array, so that what runs on the fetched cells can use nothing
else.  Each operation comes with the lemma that it succeeds inside the bounds,
with the result of the unchecked operation.
-/

/-- A loop whose iterations may fail. -/
def countedLoop? (body : Nat → σ → Option σ) : Nat → σ → Option σ
  | 0, state => some state
  | count + 1, state => do
      let before ← countedLoop? body count state
      body count before

theorem countedLoop?_eq_some
    {body : Nat → σ → Option σ}
    {plain : Nat → σ → σ}
    {count : Nat}
    (succeeds : ∀ index, index < count →
      ∀ state, body index state = some (plain index state))
    (state : σ) :
    countedLoop? body count state = some (countedLoop plain count state) := by
  induction count with
  | zero => rfl
  | succ count inductionHypothesis =>
      have earlier := inductionHypothesis fun index inside =>
        succeeds index (by omega)
      rw [countedLoop?, earlier, countedLoop_succ]
      exact succeeds count (by omega) _

namespace FixedArray

/-! ## Single cells and blocks -/

/-- Read one cell. -/
def read? (array : Vector α n) (index : Nat) : Option α :=
  array[index]?

/-- Overwrite one cell. -/
def write? (array : Vector α n) (index : Nat) (value : α) : Option (Vector α n) :=
  if index < n then some (write array index value) else none

/-- Overwrite consecutive cells from `start` on. -/
def writeAll? (array : Vector α n) (start : Nat) : List α → Option (Vector α n)
  | [] => some array
  | value :: values => do
      let written ← write? array start value
      writeAll? written (start + 1) values

/-- Overwrite the first `count` cells. -/
def fill? (array : Vector α n) (value : Nat → α) (count : Nat) : Option (Vector α n) :=
  countedLoop? (fun i cells => write? cells i (value i)) count array

/-- Read the first `length` cells. -/
def front? (array : Vector α n) (length : Nat) : Option (List α) :=
  (List.range length).mapM (read? array)

theorem read?_eq_some [Inhabited α]
    (array : Vector α n)
    (index : Nat)
    (inside : index < n) :
    read? array index = some (read array index) := by
  rw [read_eq_getElem array index inside, read?]
  exact Vector.getElem?_eq_getElem inside

theorem write?_eq_some
    (array : Vector α n)
    (index : Nat)
    (value : α)
    (inside : index < n) :
    write? array index value = some (write array index value) :=
  if_pos inside

theorem writeAll?_eq_some
    (array : Vector α n)
    (start : Nat)
    (values : List α)
    (fits : start + values.length ≤ n) :
    writeAll? array start values = some (writeAll array start values) := by
  induction values generalizing array start with
  | nil => rfl
  | cons value values inductionHypothesis =>
      rw [List.length_cons] at fits
      rw [writeAll?, write?_eq_some _ _ _ (by omega), writeAll]
      exact inductionHypothesis _ _ (by omega)

theorem fill?_eq_some
    (array : Vector α n)
    (value : Nat → α)
    (count : Nat)
    (fits : count ≤ n) :
    fill? array value count =
      some (countedLoop (fun i cells => write cells i (value i)) count array) :=
  countedLoop?_eq_some (fun i inside cells => write?_eq_some cells i _ (by omega)) array

/-- Checked reads of a list of cells that all succeed. -/
theorem mapM_eq_some
    {items : List ι}
    {checked : ι → Option α}
    {plain : ι → α}
    (succeeds : ∀ item ∈ items, checked item = some (plain item)) :
    items.mapM checked = some (items.map plain) := by
  induction items with
  | nil => rfl
  | cons item items inductionHypothesis =>
      rw [List.forall_mem_cons] at succeeds
      rw [List.mapM_cons, succeeds.1, inductionHypothesis succeeds.2]
      rfl

theorem front?_eq_some [Inhabited α]
    (array : Vector α n)
    (length : Nat)
    (fits : length ≤ n) :
    front? array length = some (front array length) := by
  rw [← map_read_range array length fits]
  refine mapM_eq_some fun index inside => read?_eq_some array index ?_
  have below := List.mem_range.mp inside
  omega

/-! ## Fetched cells -/

section

variable [Inhabited α] (array : Vector α n)

/-- Read a list of cells into a blank array. -/
def fetch : List Nat → Option (Vector α n)
  | [] => some (Vector.replicate n default)
  | index :: indices => do
      let value ← read? array index
      let fetched ← fetch indices
      write? fetched index value

/-- The array with the listed cells and nothing else. -/
def keepOnly : List Nat → Vector α n
  | [] => Vector.replicate n default
  | index :: indices => write (keepOnly indices) index (read array index)

variable {indices : List Nat}

theorem fetch_eq_some
    (inside : ∀ index ∈ indices, index < n) :
    fetch array indices = some (keepOnly array indices) := by
  induction indices with
  | nil => rfl
  | cons index indices inductionHypothesis =>
      rw [List.forall_mem_cons] at inside
      rw [fetch, read?_eq_some array index inside.1, inductionHypothesis inside.2]
      exact write?_eq_some _ _ _ inside.1

/-- The fetched cells are those of the array. -/
theorem read_keepOnly
    (inside : ∀ index ∈ indices, index < n)
    {index : Nat}
    (fetched : index ∈ indices) :
    read (keepOnly array indices) index = read array index := by
  induction indices with
  | nil => exact absurd fetched (List.not_mem_nil)
  | cons first indices inductionHypothesis =>
      rw [List.forall_mem_cons] at inside
      rw [keepOnly, read_write]
      by_cases same : index = first
      · rw [if_pos ⟨same, inside.1⟩, same]
      · rw [if_neg (fun both => same both.1)]
        rcases List.mem_cons.mp fetched with equal | later
        · exact absurd equal same
        · exact inductionHypothesis inside.2 later

/-- What follows a fetch inside the bounds sees the fetched cells. -/
theorem fetch_bind_eq
    {rest : Vector α n → Option β}
    {result : Option β}
    (inside : ∀ index ∈ indices, index < n)
    (uses : ∀ cells, (∀ index ∈ indices, read cells index = read array index) →
      rest cells = result) :
    fetch array indices >>= rest = result := by
  rw [fetch_eq_some array inside, Option.bind_eq_bind, Option.bind_some]
  exact uses _ fun index fetched => read_keepOnly array inside fetched

/-- Compute on the listed cells alone. -/
def onCells (indices : List Nat) (compute : Vector α n → β) : Option β :=
  (fetch array indices).map compute

/-- A computation on cells inside the bounds succeeds, with the result on the
whole array when it uses no other cell. -/
theorem onCells_eq_some
    {compute : Vector α n → β}
    (inside : ∀ index ∈ indices, index < n)
    (uses : ∀ cells, (∀ index ∈ indices, read cells index = read array index) →
      compute cells = compute array) :
    onCells array indices compute = some (compute array) := by
  rw [onCells, fetch_eq_some array inside, Option.map_some,
    uses _ fun index fetched => read_keepOnly array inside fetched]

end

end FixedArray

namespace BigEndian

/-- Store `count` words from the start of a byte array on. -/
def storeWords? (array : Vector UInt8 n) (words : Nat → UInt16) (count : Nat) :
    Option (Vector UInt8 n) :=
  countedLoop?
    (fun i array => do
      let high ← FixedArray.write? array (i * 2) (highByte (words i))
      FixedArray.write? high (i * 2 + 1) (lowByte (words i)))
    count array

theorem storeWords?_eq_some
    (array : Vector UInt8 n)
    (words : Nat → UInt16)
    (count : Nat)
    (fits : count * 2 ≤ n) :
    storeWords? array words count = some (storeWords array words count) := by
  refine countedLoop?_eq_some (fun i inside array => ?_) array
  rw [FixedArray.write?_eq_some _ _ _ (by omega)]
  exact FixedArray.write?_eq_some _ _ _ (by omega)

end BigEndian
