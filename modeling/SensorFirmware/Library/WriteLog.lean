import Mathlib.Data.List.Basic

/-!
# Write logs

A memory of cells, block writes to consecutive cells, and the log of a run.
After a run each cell holds the value of the last write that covers it.
-/

/-- A write of values to consecutive cells. -/
structure BlockWrite (α : Type u) where
  start : Nat
  values : List α

namespace BlockWrite

variable {α : Type u}

/-- The write reaches a cell. -/
def Covers (write : BlockWrite α) (cell : Nat) : Prop :=
  write.start ≤ cell ∧ cell < write.start + write.values.length

instance (write : BlockWrite α) (cell : Nat) : Decidable (write.Covers cell) :=
  inferInstanceAs (Decidable (_ ∧ _))

/-- The value that a write leaves in a cell it covers. -/
def value [Inhabited α] (write : BlockWrite α) (cell : Nat) : α :=
  write.values.getD (cell - write.start) default

/-- The memory after a write. -/
def store [Inhabited α] (memory : Nat → α) (write : BlockWrite α) (cell : Nat) : α :=
  if write.Covers cell then write.value cell else memory cell

/-- Storing a single value. -/
theorem store_single [Inhabited α]
    (memory : Nat → α)
    (cell other : Nat)
    (value : α) :
    store memory ⟨cell, [value]⟩ other =
      if other = cell then value else memory other := by
  have covers : Covers ⟨cell, [value]⟩ other ↔ other = cell := by
    show cell ≤ other ∧ other < cell + 1 ↔ other = cell
    omega
  by_cases same : other = cell
  · subst same
    rw [store, if_pos (covers.mpr rfl), if_pos rfl]
    simp [BlockWrite.value]
  · rw [store, if_neg (fun covered => same (covers.mp covered)), if_neg same]

/-- Storing single values in the first cells, one after the other. -/
theorem foldl_store_range [Inhabited α]
    (memory value : Nat → α)
    (count cell : Nat) :
    ((List.range count).map fun index => ⟨index, [value index]⟩).foldl store memory cell =
      if cell < count then value cell else memory cell := by
  induction count with
  | zero => rfl
  | succ count inductionHypothesis =>
      rw [List.range_succ, List.map_append, List.foldl_append, List.map_singleton,
        List.foldl_cons, List.foldl_nil, store_single, inductionHypothesis]
      by_cases last : cell = count
      · rw [if_pos last, if_pos (by omega), last]
      · rw [if_neg last]
        exact if_congr (by omega) rfl rfl

/-- What the writes of a log leave in a cell depends on no other cell. -/
theorem foldl_store_congr [Inhabited α]
    {first second : Nat → α}
    {cell : Nat}
    (agree : first cell = second cell)
    (log : List (BlockWrite α)) :
    log.foldl store first cell = log.foldl store second cell := by
  induction log generalizing first second with
  | nil => exact agree
  | cons write log inductionHypothesis =>
      apply inductionHypothesis
      rw [store, store, agree]

/-- A value is the one of the last write of a log that covers a cell, or the
initial one where no write does. -/
def LastWritten [Inhabited α] (memory : Nat → α) (log : List (BlockWrite α))
    (cell : Nat) (value : α) : Prop :=
  (∃ earlier write later, log = earlier ++ write :: later ∧ write.Covers cell ∧
      (∀ next ∈ later, ¬ next.Covers cell) ∧ value = write.value cell) ∨
    ((∀ write ∈ log, ¬ write.Covers cell) ∧ value = memory cell)

/-- After all writes of a log every cell holds what was last written to it. -/
theorem lastWritten_foldl_store [Inhabited α]
    (memory : Nat → α)
    (log : List (BlockWrite α))
    (cell : Nat) :
    LastWritten memory log cell (log.foldl store memory cell) := by
  induction log generalizing memory with
  | nil => exact Or.inr ⟨fun _ absent => absurd absent List.not_mem_nil, rfl⟩
  | cons write log inductionHypothesis =>
      rcases inductionHypothesis (store memory write) with
        ⟨earlier, found, later, split, covers, unwritten, same⟩ | ⟨unwritten, same⟩
      · exact Or.inl ⟨write :: earlier, found, later, congrArg (write :: ·) split,
          covers, unwritten, same⟩
      · by_cases covers : write.Covers cell
        · exact Or.inl ⟨[], write, log, rfl, covers, unwritten,
            same.trans (if_pos covers)⟩
        · exact Or.inr ⟨List.forall_mem_cons.mpr ⟨covers, unwritten⟩,
            same.trans (if_neg covers)⟩

end BlockWrite
