import Mathlib.Data.Nat.Basic

/-!
# Flags in a register

Single bits of a `UInt16`, how the bitwise operations act on them, and the
register update that sets a flag when a condition holds.  Masks of a `UInt32`, and
what setting and clearing one of them does to the others.
-/

/-- Set a bit when a condition holds. -/
def setBitIf [OrOp α] (condition : Prop) [Decidable condition] (bit reg : α) : α :=
  if condition then reg ||| bit else reg

namespace Flags

/-- Bit `index` of a register. -/
def bit (reg : UInt16) (index : Nat) : Bool := reg.toBitVec.getLsbD index

section

variable (left right : UInt16) (index : Nat)

@[simp] theorem bit_or :
    bit (left ||| right) index = (bit left index || bit right index) := by
  simp [bit]

@[simp] theorem bit_and :
    bit (left &&& right) index = (bit left index && bit right index) := by
  simp [bit]

theorem bit_not (inside : index < 16) :
    bit (~~~left) index = !bit left index := by
  simp [bit, inside]

@[simp] theorem bit_zero : bit 0 index = false := by
  simp [bit]

theorem bit_setBitIf (condition : Prop) [Decidable condition] :
    bit (setBitIf condition right left) index =
      (bit left index || (decide condition && bit right index)) := by
  by_cases holds : condition <;> simp [setBitIf, holds]

variable {left right}

/-- Registers with the same bits are equal. -/
theorem ext_bit
    (agree : ∀ index, index < 16 → bit left index = bit right index) :
    left = right := by
  apply UInt16.toBitVec_inj.mp
  apply BitVec.eq_of_getLsbD_eq
  exact agree

theorem eq_iff_bit :
    left = right ↔ ∀ index, index < 16 → bit left index = bit right index :=
  ⟨fun same _ _ => by rw [same], ext_bit⟩

/-- The mask of a single bit finds that bit. -/
theorem mask_ne_zero_iff
    (mask reg : UInt16)
    (index : Nat)
    (inside : index < 16)
    (single : ∀ other, other < 16 → bit mask other = decide (other = index)) :
    reg &&& mask ≠ 0 ↔ bit reg index = true := by
  rw [ne_eq, eq_iff_bit]
  constructor
  · intro found
    by_contra clear
    apply found
    intro other bound
    rw [bit_and, single other bound, bit_zero]
    by_cases same : other = index
    · rw [same, Bool.eq_false_iff.mpr clear, Bool.false_and]
    · simp [same]
  · intro set clear
    have cell := clear index inside
    rw [bit_and, single index inside, set] at cell
    simp at cell

end

/-! ## Updates bit by bit -/

/-- A bit of an update: its position, whether the update reaches it, and the
value that it then gets. -/
structure BitWrite where
  index : Nat
  present : Bool
  value : Bool

/-- The bits after an update. -/
def bitAfter (old : Nat → Bool) : List BitWrite → Nat → Bool
  | [], index => old index
  | write :: writes, index =>
      if write.present ∧ index = write.index then write.value
      else bitAfter old writes index

section

variable (old : Nat → Bool)

/-- A bit that the update does not name is kept. -/
theorem bitAfter_of_not_mem
    {writes : List BitWrite}
    {index : Nat}
    (other : index ∉ writes.map BitWrite.index) :
    bitAfter old writes index = old index := by
  induction writes with
  | nil => rfl
  | cons write writes inductionHypothesis =>
      simp only [List.map_cons, List.mem_cons, not_or] at other
      simp only [bitAfter, other.1, and_false, if_false]
      exact inductionHypothesis other.2

/-- A bit that an update of distinct bits names gets its value when the update
reaches it. -/
theorem bitAfter_of_mem
    {writes : List BitWrite}
    (distinct : (writes.map BitWrite.index).Nodup)
    {write : BitWrite}
    (named : write ∈ writes) :
    bitAfter old writes write.index =
      if write.present then write.value else old write.index := by
  induction writes with
  | nil => exact absurd named List.not_mem_nil
  | cons first writes inductionHypothesis =>
      obtain ⟨fresh, distinctRest⟩ := List.nodup_cons.mp distinct
      rw [bitAfter]
      rcases List.mem_cons.mp named with rfl | later
      · simp only [and_true, bitAfter_of_not_mem old fresh]
      · have other : write.index ≠ first.index := fun same =>
          fresh (same ▸ List.mem_map_of_mem later)
        rw [if_neg fun written => other written.2]
        exact inductionHypothesis distinctRest later

/-- An update of distinct bits keeps all bits below a bound exactly when each
bit that it reaches already has its value. -/
theorem bitAfter_eq_self_iff
    (writes : List BitWrite)
    (bound : Nat)
    (distinct : (writes.map BitWrite.index).Nodup)
    (below : ∀ write ∈ writes, write.index < bound) :
    (∀ index, index < bound → bitAfter old writes index = old index) ↔
      ∀ write ∈ writes, write.present → write.value = old write.index := by
  constructor
  · intro kept write named present
    have cell := kept write.index (below write named)
    rwa [bitAfter_of_mem old distinct named, if_pos present] at cell
  · intro repeated index bounded
    by_cases named : index ∈ writes.map BitWrite.index
    · obtain ⟨write, listed, rfl⟩ := List.mem_map.mp named
      rw [bitAfter_of_mem old distinct listed]
      split
      · rename_i present
        exact repeated write listed present
      · rfl
    · exact bitAfter_of_not_mem old named

end

end Flags

/-! ## Masks of a thirty-two-bit register -/

namespace Mask

/-- The register shows a bit of the mask. -/
def IsSet (mask reg : UInt32) : Prop := reg &&& mask ≠ 0

instance (mask reg : UInt32) : Decidable (IsSet mask reg) :=
  inferInstanceAs (Decidable (_ ≠ _))

theorem or_and_distrib (left right mask : UInt32) :
    (left ||| right) &&& mask = (left &&& mask) ||| (right &&& mask) := by
  apply UInt32.toBitVec_inj.mp
  ext index
  simp [Bool.and_or_distrib_right]

section

variable {mask other reg : UInt32}

theorem isSet_or_self (nonzero : mask ≠ 0) : IsSet mask (reg ||| mask) := by
  rw [IsSet, or_and_distrib, UInt32.and_self, ne_eq, UInt32.or_eq_zero_iff]
  exact fun zero => nonzero zero.2

theorem not_isSet_clear_self : ¬ IsSet mask (reg &&& ~~~mask) := by
  rw [IsSet, UInt32.and_assoc, UInt32.not_and_self, UInt32.and_zero]
  exact not_not.mpr rfl

/-- Setting other bits leaves the mask alone. -/
theorem isSet_or_other (disjoint : other &&& mask = 0) :
    IsSet mask (reg ||| other) ↔ IsSet mask reg := by
  rw [IsSet, or_and_distrib, disjoint, UInt32.or_zero, IsSet]

/-- Clearing other bits leaves the mask alone. -/
theorem isSet_clear_other (disjoint : other &&& mask = 0) :
    IsSet mask (reg &&& ~~~other) ↔ IsSet mask reg := by
  have kept : ~~~other &&& mask = mask := by
    have parts : (other ||| ~~~other) &&& mask = mask := by
      rw [UInt32.or_not_self, UInt32.neg_one_and]
    rwa [or_and_distrib, disjoint, UInt32.zero_or] at parts
  rw [IsSet, UInt32.and_assoc, kept, IsSet]

end

end Mask
