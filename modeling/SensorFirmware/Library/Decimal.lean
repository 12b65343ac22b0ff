import Mathlib.Algebra.Order.Field.Rat
import Mathlib.Data.Nat.Digits.Lemmas
import Mathlib.Tactic.FieldSimp
import Mathlib.Tactic.Positivity

/-!
# Decimal digits

Lists of decimal digits, the most significant one first, and the numbers that they
denote: the digits of an integer without leading zeros, and a fixed number of digits
of a fraction.
-/

namespace Decimal

/-- The number that some digits denote. -/
def value (digits : List Nat) : Nat := Nat.ofDigits 10 digits.reverse

/-- The digits are decimal, and there is no leading zero except for a lone one. -/
structure IsNumeral (digits : List Nat) : Prop where
  nonempty : digits ≠ []
  decimal : ∀ digit ∈ digits, digit < 10
  noLeadingZero : digits.head? = some 0 → digits = [0]

/-- The digits of an integer. -/
def integerDigits (number : Nat) : List Nat :=
  if number = 0 then [0] else (Nat.digits 10 number).reverse

/-- The last `count` digits of a number, zeros included. -/
def fractionDigits : Nat → Nat → List Nat
  | 0, _ => []
  | count + 1, number =>
      number / 10 ^ count :: fractionDigits count (number % 10 ^ count)

/-- The number that some digits before and after a point denote. -/
def fixedValue (integer fraction : List Nat) : Rat :=
  value integer + value fraction / 10 ^ fraction.length

theorem value_cons (digit : Nat) (digits : List Nat) :
    value (digit :: digits) = digit * 10 ^ digits.length + value digits := by
  rw [value, List.reverse_cons, Nat.ofDigits_append, Nat.ofDigits_singleton,
    List.length_reverse, ← value, Nat.add_comm, Nat.mul_comm]

/-! ## Integers -/

theorem value_integerDigits (number : Nat) : value (integerDigits number) = number := by
  rw [integerDigits]
  split
  case isTrue zero =>
    rw [zero]
    rfl
  case isFalse => rw [value, List.reverse_reverse, Nat.ofDigits_digits]

theorem isNumeral_integerDigits (number : Nat) : IsNumeral (integerDigits number) := by
  rw [integerDigits]
  split
  case isTrue => exact ⟨by simp, by simp, fun _ => rfl⟩
  case isFalse nonzero =>
    have nonempty : Nat.digits 10 number ≠ [] := Nat.digits_ne_nil_iff_ne_zero.mpr nonzero
    refine ⟨fun empty => nonempty (List.reverse_eq_nil_iff.mp empty), ?_, ?_⟩
    · intro digit member
      exact Nat.digits_lt_base (by decide) (List.mem_reverse.mp member)
    · intro leading
      rw [List.head?_reverse, List.getLast?_eq_some_getLast nonempty, Option.some_inj]
        at leading
      exact absurd leading (Nat.getLast_digit_ne_zero 10 nonzero)

/-- A number below a power of ten has no more digits than the exponent. -/
theorem length_integerDigits_le
    {number count : Nat}
    (positive : 1 ≤ count)
    (small : number < 10 ^ count) :
    (integerDigits number).length ≤ count := by
  rw [integerDigits]
  split
  case isTrue => exact positive
  case isFalse =>
    rw [List.length_reverse]
    exact (Nat.digits_length_le_iff (by decide) number).mpr small

/-! ## Fractions -/

@[simp] theorem length_fractionDigits (count number : Nat) :
    (fractionDigits count number).length = count := by
  induction count generalizing number with
  | zero => rfl
  | succ count inductionHypothesis =>
      rw [fractionDigits, List.length_cons, inductionHypothesis]

theorem fractionDigits_decimal
    {count number : Nat}
    (small : number < 10 ^ count) :
    ∀ digit ∈ fractionDigits count number, digit < 10 := by
  induction count generalizing number with
  | zero => simp [fractionDigits]
  | succ count inductionHypothesis =>
      have positive : 0 < 10 ^ count := Nat.pow_pos (by decide)
      rw [fractionDigits, List.forall_mem_cons]
      refine ⟨?_, inductionHypothesis (Nat.mod_lt _ positive)⟩
      rw [Nat.div_lt_iff_lt_mul positive, ← Nat.pow_succ']
      exact small

theorem value_fractionDigits
    {count number : Nat}
    (small : number < 10 ^ count) :
    value (fractionDigits count number) = number := by
  induction count generalizing number with
  | zero =>
      have zero : number = 0 := by simpa using small
      rw [zero]
      rfl
  | succ count inductionHypothesis =>
      have positive : 0 < 10 ^ count := Nat.pow_pos (by decide)
      rw [fractionDigits, value_cons, length_fractionDigits,
        inductionHypothesis (Nat.mod_lt _ positive), Nat.mul_comm]
      exact Nat.div_add_mod number (10 ^ count)

/-- The digits of the quotient and of the remainder by a power of ten denote the
number divided by that power. -/
theorem fixedValue_div_mod (number count : Nat) :
    fixedValue (integerDigits (number / 10 ^ count))
        (fractionDigits count (number % 10 ^ count)) =
      number / 10 ^ count := by
  have positive : 0 < 10 ^ count := Nat.pow_pos (by decide)
  have split : ((number / 10 ^ count : Nat) * 10 ^ count + (number % 10 ^ count : Nat) : Rat) =
      number := by
    exact_mod_cast Nat.div_add_mod' number (10 ^ count)
  rw [fixedValue, value_integerDigits, value_fractionDigits (Nat.mod_lt _ positive),
    length_fractionDigits, ← split]
  field_simp

end Decimal
