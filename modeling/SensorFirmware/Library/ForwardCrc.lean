import Mathlib.Data.Nat.Bitwise
import SensorFirmware.Library.FixedArray

/-!
# Forward eight-bit CRC

The bitwise, most-significant-bit-first CRC of a byte sequence, for any
polynomial and initial value.  When the constant coefficient of the polynomial is
set no step loses information, so a change of one byte always changes the
checksum.
-/

namespace ForwardCrc

/-- Shift out one bit. -/
def bitStep (polynomial crc : UInt8) : UInt8 :=
  if crc &&& 0x80 ≠ 0 then (crc <<< 1) ^^^ polynomial else crc <<< 1

/-- Absorb one byte. -/
def byteStep (polynomial crc byte : UInt8) : UInt8 :=
  countedLoop (fun _ crc => bitStep polynomial crc) 8 (crc ^^^ byte)

/-- CRC of a byte sequence. -/
def checksum (polynomial initial : UInt8) (bytes : List UInt8) : UInt8 :=
  bytes.foldl (byteStep polynomial) initial

theorem doubled_toNat (value : UInt8) :
    (value <<< 1).toNat = 2 * value.toNat % 256 := by
  rw [UInt8.toNat_shiftLeft, show (1 : UInt8).toNat % 8 = 1 from rfl,
    Nat.shiftLeft_eq, Nat.mul_comm]

/-- The highest bit of a register is set when it is at least 128. -/
theorem highBit_ne_zero_iff (value : UInt8) :
    value &&& 0x80 ≠ 0 ↔ 128 ≤ value.toNat := by
  have bound := value.toNat_lt
  have masked : (value &&& 0x80).toNat = (value.toNat.testBit 7).toNat * 128 := by
    rw [UInt8.toNat_and]
    exact Nat.and_two_pow value.toNat 7
  have highest : value.toNat.testBit 7 = decide (128 ≤ value.toNat) := by
    rw [Nat.testBit_eq_decide_div_mod_eq]
    apply decide_eq_decide.mpr
    omega
  have zero : (0 : UInt8).toNat = 0 := rfl
  rw [Ne, ← UInt8.toNat_inj, masked, highest, zero]
  by_cases high : 128 ≤ value.toNat <;> simp [high]

/-- Doubled registers with the same highest bit are equal only when the registers
are. -/
theorem eq_of_doubled_eq
    {left right : UInt8}
    (sameBit : 128 ≤ left.toNat ↔ 128 ≤ right.toNat)
    (same : left <<< 1 = right <<< 1) :
    left = right := by
  have doubled := congrArg UInt8.toNat same
  have leftBound := left.toNat_lt
  have rightBound := right.toNat_lt
  rw [doubled_toNat, doubled_toNat] at doubled
  apply UInt8.toNat.inj
  omega

section

variable {polynomial : UInt8} (odd : polynomial.toNat % 2 = 1)

include odd

/-- A doubled register never differs from another one by the polynomial. -/
theorem doubled_xor_ne (left right : UInt8) :
    left <<< 1 ^^^ polynomial ≠ right <<< 1 := by
  intro same
  have difference : polynomial = (left ^^^ right) <<< 1 := by
    rw [UInt8.shiftLeft_xor, ← same, ← UInt8.xor_assoc, UInt8.xor_self, UInt8.zero_xor]
  rw [difference, doubled_toNat] at odd
  omega

/-- The register before a shift can be recovered from the one after it. -/
theorem bitStep_injective : Function.Injective (bitStep polynomial) := by
  intro left right same
  simp only [bitStep, highBit_ne_zero_iff] at same
  split at same
  case isTrue leftHigh =>
    split at same
    case isTrue rightHigh =>
      exact eq_of_doubled_eq (by omega) ((UInt8.xor_left_inj _).mp same)
    case isFalse rightLow => exact absurd same (doubled_xor_ne odd left right)
  case isFalse leftLow =>
    split at same
    case isTrue rightHigh => exact absurd same.symm (doubled_xor_ne odd right left)
    case isFalse rightLow => exact eq_of_doubled_eq (by omega) same

theorem shiftByte_injective :
    Function.Injective (countedLoop (fun _ crc => bitStep polynomial crc) 8) := by
  induction 8 with
  | zero => exact fun _ _ same => same
  | succ count inductionHypothesis =>
      exact fun _ _ same => inductionHypothesis (bitStep_injective odd same)

/-- The register before a byte can be recovered from the one after it. -/
theorem byteStep_injective (byte : UInt8) :
    Function.Injective (byteStep polynomial · byte) := by
  intro left right same
  exact (UInt8.xor_left_inj _).mp (shiftByte_injective odd same)

/-- So can the byte. -/
theorem byteStep_injective_byte (crc : UInt8) :
    Function.Injective (byteStep polynomial crc) := by
  intro left right same
  exact (UInt8.xor_right_inj _).mp (shiftByte_injective odd same)

/-- The register before a byte sequence can be recovered from its checksum. -/
theorem checksum_injective (bytes : List UInt8) :
    Function.Injective (checksum polynomial · bytes) := by
  induction bytes with
  | nil => exact fun _ _ same => same
  | cons byte bytes inductionHypothesis =>
      exact fun _ _ same => byteStep_injective odd byte (inductionHypothesis same)

/-- A change of one byte changes the checksum. -/
theorem checksum_change_iff
    (initial : UInt8)
    (first last : List UInt8)
    (byte other : UInt8) :
    checksum polynomial initial (first ++ byte :: last) =
        checksum polynomial initial (first ++ other :: last) ↔
      byte = other := by
  rw [checksum, checksum, List.foldl_append, List.foldl_append, List.foldl_cons,
    List.foldl_cons]
  exact (checksum_injective odd last).eq_iff.trans
    (byteStep_injective_byte odd _).eq_iff

end

end ForwardCrc
