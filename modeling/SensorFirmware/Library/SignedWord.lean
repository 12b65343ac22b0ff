import Mathlib.Data.Nat.Basic

/-!
# Words read as signed numbers

A sixteen-bit word denotes a number in two ways.  Comparisons of the two readings
agree exactly when both words have the same sign.
-/

namespace SignedWord

/-- The signed reading of a word. -/
def signed (word : UInt16) : Int := word.toInt16.toInt

theorem signed_eq (word : UInt16) :
    signed word =
      if word.toNat < 32768 then (word.toNat : Int) else (word.toNat : Int) - 65536 := by
  have reading : signed word =
      if 2 * word.toNat < 2 ^ 16 then (word.toNat : Int)
      else (word.toNat : Int) - (2 ^ 16 : Nat) :=
    BitVec.toInt_eq_toNat_cond word.toBitVec
  rw [reading]
  split <;> split <;> omega

/-- A word below half of its range denotes the same number in both ways. -/
theorem signed_of_lt
    {word : UInt16}
    (small : word < 0x8000) :
    signed word = word.toNat := by
  have bound : word.toNat < 32768 := UInt16.lt_iff_toNat_lt.mp small
  rw [signed_eq, if_pos bound]

/-- So comparisons of two such words agree. -/
theorem toInt16_lt_iff
    {left right : UInt16}
    (leftSmall : left < 0x8000)
    (rightSmall : right < 0x8000) :
    left.toInt16 < right.toInt16 ↔ left < right := by
  have leftReading : left.toInt16.toInt = left.toNat := signed_of_lt leftSmall
  have rightReading : right.toInt16.toInt = right.toNat := signed_of_lt rightSmall
  rw [Int16.lt_iff_toInt_lt, leftReading, rightReading, UInt16.lt_iff_toNat_lt]
  omega

/-- A number in the signed range survives the conversion to a word. -/
theorem signed_ofInt
    {value : Int}
    (lower : -32768 ≤ value)
    (upper : value < 32768) :
    signed (UInt16.ofInt value) = value := by
  have image : (UInt16.ofInt value).toNat = (value % 65536).toNat := by
    have remainder : (value % 65536).toNat < 65536 := by omega
    exact Nat.mod_eq_of_lt remainder
  rw [signed_eq, image]
  omega

/-- Comparing two words and comparing their signed readings is the same exactly when
the words have the same sign. -/
theorem lt_iff_signed_lt_iff (left right : UInt16) :
    (left < right ↔ signed left < signed right) ↔
      (signed left < 0 ↔ signed right < 0) := by
  have leftBound := left.toNat_lt
  have rightBound := right.toNat_lt
  rw [UInt16.lt_iff_toNat_lt, signed_eq, signed_eq]
  split <;> split <;> omega

end SignedWord
