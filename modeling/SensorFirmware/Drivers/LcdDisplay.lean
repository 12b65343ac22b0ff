import Mathlib.Tactic.Ring
import SensorFirmware.Library.Decimal
import SensorFirmware.Library.FixedArray

/-!
# Fixed-point numbers on the display

`LcdDisplay::writeFixed` writes a number with a decimal point into a buffer of
twenty bytes and sends the buffer to the display.  The digits of the integer part
come out of a division loop in reverse, those of the fraction in order, and every
write is guarded by the room that is left.
-/

namespace SensorFirmware

open FixedArray (read write front)

/-- `finalBuffer_`. -/
structure LcdDisplay where
  finalBuffer : Vector UInt8 20
  deriving DecidableEq

namespace LcdDisplay

/-! ## The code -/

/-- `kBufferSize`. -/
def kBufferSize : Nat := 20

/-- `LcdDisplay::pow10`. -/
def pow10 (exp : UInt8) : UInt32 :=
  countedLoop (fun _ result => result * 10) exp.toNat 1

/-- The absolute value that `writeFixed` computes without overflow. -/
def absValue (value : Int32) : UInt32 :=
  if value < 0 then (-(value + 1)).toUInt32 + 1 else value.toUInt32

/-- The character of a digit. -/
def digitChar (digit : UInt32) : UInt8 := (digit + '0'.val).toUInt8

/-- The buffer and the local `index` behind its last character. -/
structure Line extends LcdDisplay where
  index : Nat

namespace Line

/-- `finalBuffer_[index++] = c`. -/
def append (line : Line) (c : UInt8) : Line :=
  { finalBuffer := write line.finalBuffer line.index c
    index := line.index + 1 }

/-- The guard of every write. -/
def HasRoom (line : Line) : Prop := line.index < kBufferSize - 1

instance (line : Line) : Decidable line.HasRoom :=
  inferInstanceAs (Decidable (_ < _))

end Line

/-- The loop that fills `integerDigits` from the last digit on. -/
def collectDigits
    (integerPart : UInt32)
    (integerDigits : Vector UInt8 12)
    (integerIndex : Nat) : Vector UInt8 12 × Nat :=
  if 0 < integerPart ∧ integerIndex < 12 then
    collectDigits (integerPart / 10)
      (write integerDigits integerIndex (digitChar (integerPart % 10)))
      (integerIndex + 1)
  else (integerDigits, integerIndex)
termination_by 12 - integerIndex

/-- The digits of the integer part, the last one first. -/
def integerDigits (integerPart : UInt32) (garbage : Vector UInt8 12) : Vector UInt8 12 × Nat :=
  if integerPart = 0 then (write garbage 0 '0'.toUInt8, 1)
  else collectDigits integerPart garbage 0

/-- The loop that copies the digits of the integer part back to front. -/
def copyDigits (digits : Vector UInt8 12) : Nat → Line → Line
  | 0, line => line
  | integerIndex + 1, line =>
      if line.HasRoom then
        copyDigits digits integerIndex (line.append (read digits integerIndex))
      else line

/-- The loop over the digits of the fraction. -/
def writeFraction (fractionalPart tempDiv : UInt32) (line : Line) : Line :=
  if 0 < tempDiv ∧ line.HasRoom then
    writeFraction (fractionalPart % tempDiv) (tempDiv / 10)
      (line.append (digitChar (fractionalPart / tempDiv)))
  else line
termination_by kBufferSize - line.index
decreasing_by
  rename_i guard
  have room : line.index < kBufferSize - 1 := guard.2
  simp only [Line.append]
  omega

/-- The minus sign of a negative value. -/
def writeSign (value : Int32) (line : Line) : Line :=
  if value < 0 then
    if line.HasRoom then line.append '-'.toUInt8 else line
  else line

/-- The digits of the integer part. -/
def writeInteger (integerPart : UInt32) (garbage : Vector UInt8 12) (line : Line) : Line :=
  let digits := integerDigits integerPart garbage
  copyDigits digits.1 digits.2 line

/-- The point and the digits of the fraction. -/
def writePoint
    (fracDigits : UInt8)
    (fractionalPart divisor : UInt32)
    (line : Line) : Line :=
  if fracDigits > 0 ∧ line.HasRoom then
    writeFraction fractionalPart (divisor / 10) (line.append '.'.toUInt8)
  else line

/-- The bytes that `writeString` sends: those before the first NUL. -/
def writeString (text : List UInt8) : List UInt8 := text.takeWhile (· ≠ 0)

/-- The part of `writeFixed` that fills the buffer, up to the NUL.  The local
array `integerDigits` starts with arbitrary contents. -/
def formatFixed
    (display : LcdDisplay)
    (garbage : Vector UInt8 12)
    (value : Int32)
    (fracDigits : UInt8) : Line :=
  let fracDigits := if fracDigits > 9 then 9 else fracDigits
  let signed := writeSign value { display with index := 0 }
  let divisor := pow10 fracDigits
  let integerPart := absValue value / divisor
  let fractionalPart := absValue value % divisor
  writePoint fracDigits fractionalPart divisor (writeInteger integerPart garbage signed)

/-- `LcdDisplay::writeFixed`: the display afterwards and the bytes sent to it. -/
def writeFixed
    (display : LcdDisplay)
    (garbage : Vector UInt8 12)
    (value : Int32)
    (fracDigits : UInt8) : LcdDisplay × List UInt8 :=
  let line := formatFixed display garbage value fracDigits
  let finalBuffer := write line.finalBuffer line.index 0
  ({ finalBuffer := finalBuffer }, writeString finalBuffer.toList)

/-! ## What a text denotes -/

/-- The characters of some digits. -/
def characters (digits : List Nat) : List UInt8 :=
  digits.map fun digit => (Nat.digitChar digit).toUInt8

/-- The minus sign of a negative number. -/
def sign (number : Int) : List UInt8 :=
  if number < 0 then ['-'.toUInt8] else []

/-- The point and the digits of a fraction, when there are any. -/
def pointed (fraction : List Nat) : List UInt8 :=
  if fraction = [] then [] else '.'.toUInt8 :: characters fraction

/-- The text is the decimal representation of `number / 10 ^ count` with exactly
`count` digits behind the point. -/
def DenotesFixed (text : List UInt8) (number : Int) (count : Nat) : Prop :=
  ∃ integer fraction : List Nat,
    text = sign number ++ characters integer ++ pointed fraction ∧
      Decimal.IsNumeral integer ∧
      fraction.length = count ∧
      (∀ digit ∈ fraction, digit < 10) ∧
      (number : Rat) / 10 ^ count =
        (if number < 0 then -1 else 1) * Decimal.fixedValue integer fraction

/-! ## Numbers -/

/-- The absolute value is right for the smallest number too. -/
theorem toNat_absValue (value : Int32) :
    (absValue value).toNat = value.toInt.natAbs := by
  have reading : value.toInt =
      if 2 * value.toUInt32.toNat < 2 ^ 32 then (value.toUInt32.toNat : Int)
      else (value.toUInt32.toNat : Int) - (2 ^ 32 : Nat) :=
    BitVec.toInt_eq_toNat_cond value.toBitVec
  have bound : value.toUInt32.toNat < 2 ^ 32 := value.toUInt32.toNat_lt
  rw [absValue]
  split
  case isTrue negative =>
    have below : value.toInt < 0 := Int32.lt_iff_toInt_lt.mp negative
    have complement : (-(value + 1)).toUInt32 = -(value.toUInt32 + 1) := by
      rw [Int32.toUInt32_neg, Int32.toUInt32_add]
      rfl
    rw [complement, UInt32.toNat_add, UInt32.toNat_neg, UInt32.toNat_add,
      show (1 : UInt32).toNat = 1 from rfl, show UInt32.size = 2 ^ 32 from rfl]
    split at reading <;> omega
  case isFalse nonnegative =>
    have atLeast : ¬ value.toInt < 0 := fun below =>
      nonnegative (Int32.lt_iff_toInt_lt.mpr below)
    split at reading <;> omega

theorem toNat_pow10 {exp : UInt8} (small : exp.toNat ≤ 9) :
    (pow10 exp).toNat = 10 ^ exp.toNat := by
  rw [pow10]
  generalize exp.toNat = count at small ⊢
  induction count with
  | zero => rfl
  | succ count inductionHypothesis =>
      have bound : 10 ^ count ≤ 10 ^ 8 := Nat.pow_le_pow_right (by decide) (by omega)
      rw [countedLoop_succ, UInt32.toNat_mul, inductionHypothesis (by omega),
        show (10 : UInt32).toNat = 10 from rfl, ← Nat.pow_succ]
      exact Nat.mod_eq_of_lt (by omega)

theorem digitChar_eq
    {digit : UInt32}
    (small : digit.toNat < 10) :
    digitChar digit = (Nat.digitChar digit.toNat).toUInt8 := by
  have table : ∀ number < 10,
      digitChar (UInt32.ofNat number) = (Nat.digitChar number).toUInt8 := by decide
  simpa only [UInt32.ofNat_toNat] using table digit.toNat small

/-! ## The loops -/

namespace Line

/-- The line holds a text: the characters before its index. -/
structure Holds (line : Line) (text : List UInt8) : Prop where
  index_eq : line.index = text.length
  front_eq : front line.finalBuffer line.index = text

theorem Holds.hasRoom_iff
    {line : Line}
    {text : List UInt8}
    (holds : line.Holds text) :
    line.HasRoom ↔ text.length < 19 := by
  rw [HasRoom, holds.index_eq]
  rfl

/-- An appended character comes behind the text. -/
theorem Holds.append
    {line : Line}
    {text : List UInt8}
    (holds : line.Holds text)
    (room : text.length < 19)
    (c : UInt8) :
    (line.append c).Holds (text ++ [c]) := by
  have inside : line.index < 20 := by
    rw [holds.index_eq]
    omega
  constructor
  · rw [Line.append, holds.index_eq, List.length_append, List.length_singleton]
  · rw [Line.append, FixedArray.front_succ _ inside,
      FixedArray.front_write _ (Nat.le_refl _), holds.front_eq, FixedArray.read_write,
      if_pos ⟨rfl, inside⟩]

end Line

/-- The division loop appends the digits of the integer part, the last one first. -/
theorem collectDigits_spec
    {integerPart : UInt32}
    (digits : Vector UInt8 12)
    {integerIndex : Nat}
    (fits : integerPart.toNat < 10 ^ (12 - integerIndex)) :
    let collected := collectDigits integerPart digits integerIndex
    let lowFirst := Nat.digits 10 integerPart.toNat
    collected.2 = integerIndex + lowFirst.length ∧
      front collected.1 collected.2 =
        front digits integerIndex ++ characters lowFirst := by
  fun_induction collectDigits integerPart digits integerIndex with
  | case1 integerPart digits integerIndex guard inductionHypothesis =>
      obtain ⟨nonzero, inside⟩ := guard
      have positive : 0 < integerPart.toNat := UInt32.lt_iff_toNat_lt.mp nonzero
      have quotient : (integerPart / 10).toNat = integerPart.toNat / 10 :=
        UInt32.toNat_div _ _
      have lastDigit : digitChar (integerPart % 10) =
          (Nat.digitChar (integerPart.toNat % 10)).toUInt8 :=
        digitChar_eq (Nat.mod_lt _ (by decide))
      have fitsNext : (integerPart / 10).toNat < 10 ^ (12 - (integerIndex + 1)) := by
        rw [quotient, Nat.div_lt_iff_lt_mul (by decide), ← Nat.pow_succ]
        exact fits.trans_eq (congrArg (10 ^ ·) (by omega))
      obtain ⟨count, cells⟩ := inductionHypothesis fitsNext
      rw [quotient] at count cells
      rw [Nat.digits_def' (by decide) positive]
      constructor
      · rw [count, List.length_cons]
        omega
      · rw [cells, FixedArray.front_succ _ inside, FixedArray.front_write _ (Nat.le_refl _),
          FixedArray.read_write, if_pos ⟨rfl, inside⟩, lastDigit, List.append_assoc]
        rfl
  | case2 integerPart digits integerIndex finished =>
      have zero : integerPart.toNat = 0 := by
        by_contra nonzero
        have positive : 0 < integerPart :=
          UInt32.lt_iff_toNat_lt.mpr (Nat.pos_of_ne_zero nonzero)
        have outside : ¬ integerIndex < 12 := fun inside => finished ⟨positive, inside⟩
        rw [Nat.sub_eq_zero_of_le (by omega)] at fits
        omega
      simp [zero, characters]

theorem integerDigits_spec (integerPart : UInt32) (garbage : Vector UInt8 12) :
    let collected := integerDigits integerPart garbage
    let integer := Decimal.integerDigits integerPart.toNat
    collected.2 = integer.length ∧
      (front collected.1 collected.2).reverse = characters integer := by
  rw [integerDigits]
  split
  case isTrue zero =>
    rw [zero]
    refine ⟨rfl, ?_⟩
    rw [FixedArray.front_succ _ (by decide), FixedArray.front_write _ (Nat.le_refl _),
      FixedArray.read_write]
    rfl
  case isFalse nonzero =>
    have positive : integerPart.toNat ≠ 0 :=
      fun zero => nonzero (UInt32.toNat_inj.mp zero)
    have fits : integerPart.toNat < 10 ^ (12 - 0) :=
      integerPart.toNat_lt.trans (by decide)
    obtain ⟨count, cells⟩ := collectDigits_spec garbage fits
    simp only [Decimal.integerDigits, if_neg positive]
    constructor
    · rw [count, List.length_reverse, Nat.zero_add]
    · rw [cells, characters, characters, List.map_reverse]
      rfl

/-- The copying loop appends the digits in reverse. -/
theorem copyDigits_spec
    {digits : Vector UInt8 12}
    {integerIndex : Nat}
    {line : Line}
    {text : List UInt8}
    (holds : line.Holds text)
    (inside : integerIndex ≤ 12)
    (room : text.length + integerIndex ≤ 19) :
    (copyDigits digits integerIndex line).Holds
      (text ++ (front digits integerIndex).reverse) := by
  induction integerIndex generalizing line text with
  | zero => simpa [copyDigits, front] using holds
  | succ integerIndex inductionHypothesis =>
      have hasRoom : text.length < 19 := by omega
      have next := holds.append hasRoom (read digits integerIndex)
      rw [copyDigits, if_pos (holds.hasRoom_iff.mpr hasRoom),
        FixedArray.front_succ _ (by omega), List.reverse_append]
      have copied := inductionHypothesis next (by omega) (by
        rw [List.length_append, List.length_singleton]
        omega)
      rwa [List.append_assoc] at copied

/-- The fraction loop appends the digits of the fraction. -/
theorem writeFraction_spec
    {count : Nat}
    {fractionalPart tempDiv : UInt32}
    {line : Line}
    {text : List UInt8}
    (holds : line.Holds text)
    (divisor : tempDiv.toNat = 10 ^ count / 10)
    (small : fractionalPart.toNat < 10 ^ count)
    (room : text.length + count ≤ 19) :
    (writeFraction fractionalPart tempDiv line).Holds
      (text ++ characters (Decimal.fractionDigits count fractionalPart.toNat)) := by
  induction count generalizing fractionalPart tempDiv line text with
  | zero =>
      have finished : ¬ (0 < tempDiv ∧ line.HasRoom) := fun guard =>
        absurd (UInt32.lt_iff_toNat_lt.mp guard.1) (by rw [divisor]; decide)
      rw [writeFraction, if_neg finished]
      simpa [Decimal.fractionDigits, characters] using holds
  | succ count inductionHypothesis =>
      have power : tempDiv.toNat = 10 ^ count := by
        rw [divisor, Nat.pow_succ, Nat.mul_div_cancel _ (by decide)]
      have positive : 0 < 10 ^ count := Nat.pow_pos (by decide)
      have hasRoom : text.length < 19 := by omega
      have guard : 0 < tempDiv ∧ line.HasRoom :=
        ⟨UInt32.lt_iff_toNat_lt.mpr (power ▸ positive), holds.hasRoom_iff.mpr hasRoom⟩
      have quotient : (fractionalPart / tempDiv).toNat =
          fractionalPart.toNat / 10 ^ count := by
        rw [UInt32.toNat_div, power]
      have remainder : (fractionalPart % tempDiv).toNat =
          fractionalPart.toNat % 10 ^ count := by
        rw [UInt32.toNat_mod, power]
      have digit : digitChar (fractionalPart / tempDiv) =
          (Nat.digitChar (fractionalPart.toNat / 10 ^ count)).toUInt8 := by
        rw [digitChar_eq, quotient]
        rw [quotient, Nat.div_lt_iff_lt_mul positive, ← Nat.pow_succ']
        exact small
      have nextDivisor : (tempDiv / 10).toNat = 10 ^ count / 10 := by
        rw [UInt32.toNat_div, power]
        rfl
      have nextSmall : (fractionalPart % tempDiv).toNat < 10 ^ count := by
        rw [remainder]
        exact Nat.mod_lt _ positive
      have nextHolds := holds.append hasRoom (digitChar (fractionalPart / tempDiv))
      have written := inductionHypothesis nextHolds nextDivisor nextSmall (by
        rw [List.length_append, List.length_singleton]
        omega)
      rw [remainder, List.append_assoc] at written
      rw [writeFraction, if_pos guard, Decimal.fractionDigits, characters, List.map_cons,
        ← digit]
      exact written

/-! ## The three parts of the text -/

theorem writeSign_holds
    {line : Line}
    {text : List UInt8}
    (holds : line.Holds text)
    (room : text.length < 19)
    (value : Int32) :
    (writeSign value line).Holds (text ++ sign value.toInt) := by
  have negative : value < 0 ↔ value.toInt < 0 := Int32.lt_iff_toInt_lt
  rw [writeSign, if_pos (holds.hasRoom_iff.mpr room), sign]
  simp only [negative]
  split
  · exact holds.append room '-'.toUInt8
  · rwa [List.append_nil]

theorem writeInteger_holds
    {line : Line}
    {text : List UInt8}
    (holds : line.Holds text)
    (integerPart : UInt32)
    (room : text.length + (Decimal.integerDigits integerPart.toNat).length ≤ 19)
    (garbage : Vector UInt8 12) :
    (writeInteger integerPart garbage line).Holds
      (text ++ characters (Decimal.integerDigits integerPart.toNat)) := by
  obtain ⟨count, cells⟩ := integerDigits_spec integerPart garbage
  have small : (Decimal.integerDigits integerPart.toNat).length ≤ 12 :=
    Decimal.length_integerDigits_le (by decide)
      (integerPart.toNat_lt.trans (by decide))
  rw [← count] at room small
  rw [← cells]
  exact copyDigits_spec holds small room

theorem writePoint_holds
    {line : Line}
    {text : List UInt8}
    (holds : line.Holds text)
    {fracDigits : UInt8}
    {fractionalPart divisor : UInt32}
    (power : divisor.toNat = 10 ^ fracDigits.toNat)
    (small : fractionalPart.toNat < divisor.toNat)
    (room : text.length + 1 + fracDigits.toNat ≤ 19) :
    (writePoint fracDigits fractionalPart divisor line).Holds
      (text ++ pointed (Decimal.fractionDigits fracDigits.toNat fractionalPart.toNat)) := by
  have hasRoom : text.length < 19 := by omega
  have positive : fracDigits > 0 ↔ 0 < fracDigits.toNat := UInt8.lt_iff_toNat_lt
  have present : Decimal.fractionDigits fracDigits.toNat fractionalPart.toNat = [] ↔
      fracDigits.toNat = 0 := by
    rw [← List.length_eq_zero_iff, Decimal.length_fractionDigits]
  simp only [writePoint, pointed, present, positive, holds.hasRoom_iff.mpr hasRoom, and_true]
  split
  case isTrue digitsPresent =>
    have firstDivisor : (divisor / 10).toNat = 10 ^ fracDigits.toNat / 10 := by
      rw [UInt32.toNat_div, power]
      rfl
    have written := writeFraction_spec (holds.append hasRoom '.'.toUInt8) firstDivisor
      (power ▸ small) (by
        rw [List.length_append, List.length_singleton]
        exact room)
    rw [if_neg digitsPresent.ne']
    rwa [List.append_assoc] at written
  case isFalse noDigits =>
    rwa [if_pos (Nat.eq_zero_of_not_pos noDigits), List.append_nil]

/-! ## The written text -/

/-- The text of a number with `count` digits behind the point. -/
def fixedText (number : Int) (count : Nat) : List UInt8 :=
  sign number ++ characters (Decimal.integerDigits (number.natAbs / 10 ^ count)) ++
    pointed (Decimal.fractionDigits count (number.natAbs % 10 ^ count))

theorem fixedText_denotes (number : Int) (count : Nat) :
    DenotesFixed (fixedText number count) number count := by
  have remainder : number.natAbs % 10 ^ count < 10 ^ count :=
    Nat.mod_lt _ (Nat.pow_pos (by decide))
  refine ⟨_, _, rfl, Decimal.isNumeral_integerDigits _, Decimal.length_fractionDigits _ _,
    Decimal.fractionDigits_decimal remainder, ?_⟩
  rw [Decimal.fixedValue_div_mod]
  split
  case isTrue negative =>
    rw [Nat.cast_natAbs, abs_of_neg negative, Int.cast_neg]
    ring
  case isFalse nonnegative =>
    rw [Nat.cast_natAbs, abs_of_nonneg (Int.not_lt.mp nonnegative), one_mul]

theorem length_characters (digits : List Nat) :
    (characters digits).length = digits.length :=
  List.length_map _

theorem length_sign_le (number : Int) : (sign number).length ≤ 1 := by
  rw [sign]
  split <;> simp

theorem length_pointed_le (fraction : List Nat) :
    (pointed fraction).length ≤ fraction.length + 1 := by
  rw [pointed]
  split
  · exact Nat.zero_le _
  · rw [List.length_cons, length_characters]

/-- A number of thirty-two bits has at most ten digits in all. -/
theorem length_integer_le
    {number : Int}
    {count : Nat}
    (small : number.natAbs < 10 ^ 10)
    (capped : count ≤ 9) :
    (Decimal.integerDigits (number.natAbs / 10 ^ count)).length ≤ 10 - count := by
  apply Decimal.length_integerDigits_le (by omega)
  rw [Nat.div_lt_iff_lt_mul (Nat.pow_pos (by decide)), ← Nat.pow_add,
    Nat.sub_add_cancel (by omega)]
  exact small

/-- The text is never truncated. -/
theorem length_fixedText_le
    {number : Int}
    {count : Nat}
    (small : number.natAbs < 10 ^ 10)
    (capped : count ≤ 9) :
    (fixedText number count).length ≤ 12 := by
  have signLength := length_sign_le number
  have integerLength := length_integer_le small capped
  have fractionLength :=
    length_pointed_le (Decimal.fractionDigits count (number.natAbs % 10 ^ count))
  rw [Decimal.length_fractionDigits] at fractionLength
  simp only [fixedText, List.length_append, length_characters]
  omega

theorem character_ne_zero
    {digits : List Nat}
    (decimal : ∀ digit ∈ digits, digit < 10) :
    (0 : UInt8) ∉ characters digits := by
  have table : ∀ digit < 10, (Nat.digitChar digit).toUInt8 ≠ 0 := by decide
  intro member
  obtain ⟨digit, listed, zero⟩ := List.mem_map.mp member
  exact table digit (decimal digit listed) zero

/-- The text holds no NUL. -/
theorem zero_not_mem_fixedText (number : Int) (count : Nat) :
    (0 : UInt8) ∉ fixedText number count := by
  have integer := character_ne_zero
    (Decimal.isNumeral_integerDigits (number.natAbs / 10 ^ count)).decimal
  have fraction := character_ne_zero (Decimal.fractionDigits_decimal
    (Nat.mod_lt number.natAbs (Nat.pow_pos (n := count) (by decide : 0 < 10))))
  rw [fixedText, List.mem_append, List.mem_append, not_or, not_or]
  refine ⟨⟨?_, integer⟩, ?_⟩
  · rw [sign]
    split <;> decide
  · rw [pointed]
    split
    · exact List.not_mem_nil
    · rw [List.mem_cons, not_or]
      exact ⟨by decide, fraction⟩

/-- The cap on the digits of the fraction. -/
theorem toNat_capped (fracDigits : UInt8) :
    (if fracDigits > 9 then 9 else fracDigits).toNat = min fracDigits.toNat 9 := by
  have compare : fracDigits > 9 ↔ 9 < fracDigits.toNat := UInt8.lt_iff_toNat_lt
  split
  case isTrue above => exact (Nat.min_eq_right (compare.mp above).le).symm
  case isFalse atMost =>
    exact (Nat.min_eq_left (Nat.not_lt.mp fun above => atMost (compare.mpr above))).symm

/-- The buffer is filled with the text of the number. -/
theorem formatFixed_holds
    (display : LcdDisplay)
    (garbage : Vector UInt8 12)
    (value : Int32)
    (fracDigits : UInt8) :
    (formatFixed display garbage value fracDigits).Holds
      (fixedText value.toInt (min fracDigits.toNat 9)) := by
  have capped := toNat_capped fracDigits
  rw [formatFixed]
  generalize (if fracDigits > 9 then 9 else fracDigits) = digits at capped ⊢
  have small : digits.toNat ≤ 9 := capped ▸ Nat.min_le_right _ _
  have power : (pow10 digits).toNat = 10 ^ digits.toNat := toNat_pow10 small
  have lowerBound : -2 ^ 31 ≤ value.toInt := value.le_toInt
  have upperBound : value.toInt < 2 ^ 31 := value.toInt_lt
  have bounded : value.toInt.natAbs < 10 ^ 10 := by omega
  have quotient : (absValue value / pow10 digits).toNat =
      value.toInt.natAbs / 10 ^ digits.toNat := by
    rw [UInt32.toNat_div, toNat_absValue, power]
  have remainder : (absValue value % pow10 digits).toNat =
      value.toInt.natAbs % 10 ^ digits.toNat := by
    rw [UInt32.toNat_mod, toNat_absValue, power]
  have signLength := length_sign_le value.toInt
  have integerLength := length_integer_le bounded small
  rw [← capped, fixedText, ← quotient, ← remainder]
  rw [← quotient] at integerLength
  have start : Line.Holds { display with index := 0 } [] := ⟨rfl, rfl⟩
  have signed := writeSign_holds start (by decide) value
  rw [List.nil_append] at signed
  have whole := writeInteger_holds signed (absValue value / pow10 digits)
    (by omega) garbage
  apply writePoint_holds whole power
  · rw [remainder, power]
    exact Nat.mod_lt _ (Nat.pow_pos (by decide))
  · rw [List.length_append, length_characters]
    omega

/-- What `writeString` sends of a buffer that holds a text and then a NUL. -/
theorem writeString_eq
    {buffer : Vector UInt8 20}
    {text : List UInt8}
    (inside : text.length < 20)
    (stored : front buffer text.length = text)
    (terminated : read buffer text.length = 0)
    (noNul : (0 : UInt8) ∉ text) :
    writeString buffer.toList = text := by
  have covered : text.length < buffer.toList.length := by simpa using inside
  have split : buffer.toList = text ++ 0 :: buffer.toList.drop (text.length + 1) := by
    conv_lhs => rw [← List.take_append_drop text.length buffer.toList,
      List.drop_eq_getElem_cons covered]
    rw [FixedArray.read_eq_getElem _ _ inside] at terminated
    rw [Vector.getElem_toList, terminated]
    exact congrArg (· ++ _) stored
  rw [writeString, split, List.takeWhile_append_of_pos]
  · simp
  · intro byte member
    have nonzero : byte ≠ 0 := fun zero => noNul (zero ▸ member)
    simpa using nonzero

/-- For every value and every number of digits the buffer ends up with a whole text and
a NUL at its last index, inside the buffer.  The text goes to the display, and it
denotes the value divided by the power of ten. -/
theorem writeFixed_denotes
    (display : LcdDisplay)
    (garbage : Vector UInt8 12)
    (value : Int32)
    (fracDigits : UInt8) :
    let result := writeFixed display garbage value fracDigits
    ∃ text : List UInt8,
      DenotesFixed text value.toInt (min fracDigits.toNat 9) ∧
        text.length < kBufferSize ∧
        (0 : UInt8) ∉ text ∧
        (formatFixed display garbage value fracDigits).index = text.length ∧
        front result.1.finalBuffer text.length = text ∧
        read result.1.finalBuffer text.length = 0 ∧
        result.2 = text := by
  have holds := formatFixed_holds display garbage value fracDigits
  have lowerBound : -2 ^ 31 ≤ value.toInt := value.le_toInt
  have upperBound : value.toInt < 2 ^ 31 := value.toInt_lt
  have bounded : value.toInt.natAbs < 10 ^ 10 := by omega
  have length := length_fixedText_le bounded (Nat.min_le_right fracDigits.toNat 9)
  generalize textEq : fixedText value.toInt (min fracDigits.toNat 9) = text at holds length
  have inside : text.length < 20 := by omega
  have noNul : (0 : UInt8) ∉ text := textEq ▸ zero_not_mem_fixedText _ _
  have stored : front (writeFixed display garbage value fracDigits).1.finalBuffer text.length =
      text := by
    rw [writeFixed, ← holds.index_eq, FixedArray.front_write _ (Nat.le_refl _),
      holds.front_eq]
  have terminated :
      read (writeFixed display garbage value fracDigits).1.finalBuffer text.length = 0 := by
    rw [writeFixed, ← holds.index_eq, FixedArray.read_write,
      if_pos ⟨rfl, holds.index_eq ▸ inside⟩]
  exact ⟨text, textEq ▸ fixedText_denotes _ _, inside, noNul, holds.index_eq, stored,
    terminated, writeString_eq inside stored terminated noNul⟩

end LcdDisplay

end SensorFirmware
