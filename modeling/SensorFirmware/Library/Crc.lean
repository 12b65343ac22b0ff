import SensorFirmware.Library.Words

/-!
# Reflected sixteen-bit CRC

The bitwise, least-significant-bit-first CRC of a byte sequence, for any
polynomial and initial value.  The register is linear over exclusive or, and no
step loses information when the highest coefficient of the polynomial is set: two
adjacent bytes are then absorbed like one word, so a change of both is always
seen.
-/

namespace ReflectedCrc

/-- Shift out one bit. -/
def bitStep (polynomial crc : UInt16) : UInt16 :=
  if crc &&& 1 ≠ 0 then (crc >>> 1) ^^^ polynomial else crc >>> 1

/-- Absorb one byte. -/
def byteStep (polynomial crc : UInt16) (byte : UInt8) : UInt16 :=
  countedLoop (fun _ crc => bitStep polynomial crc) 8 (crc ^^^ byte.toUInt16)

/-- CRC of a byte sequence. -/
def checksum (polynomial initial : UInt16) (bytes : List UInt8) : UInt16 :=
  bytes.foldl (byteStep polynomial) initial

/-! ## The register is linear -/

private theorem lowBit_toNat (value : UInt16) :
    (value &&& 1).toNat = value.toNat % 2 := by
  rw [UInt16.toNat_and]
  exact Nat.and_one_is_mod value.toNat

/-- The lowest bit of a register is clear or set. -/
private theorem lowBit_cases (value : UInt16) :
    value &&& 1 = 0 ∨ value &&& 1 = 1 := by
  rcases Nat.mod_two_eq_zero_or_one value.toNat with even | odd
  · exact Or.inl (UInt16.toNat.inj ((lowBit_toNat value).trans even))
  · exact Or.inr (UInt16.toNat.inj ((lowBit_toNat value).trans odd))

private theorem halved_toNat (value : UInt16) :
    (value >>> 1).toNat = value.toNat / 2 := by
  rw [UInt16.toNat_shiftRight]
  exact Nat.shiftRight_eq_div_pow value.toNat 1

private theorem xor_lowBit (left right : UInt16) :
    (left ^^^ right) &&& 1 = (left &&& 1) ^^^ (right &&& 1) := by
  apply UInt16.toNat.inj
  simp only [UInt16.toNat_and, UInt16.toNat_xor]
  exact Nat.and_xor_distrib_right

section

variable (polynomial : UInt16)

/-- A register step is linear. -/
theorem bitStep_xor (left right : UInt16) :
    bitStep polynomial (left ^^^ right) =
      bitStep polynomial left ^^^ bitStep polynomial right := by
  have cancel (first second : UInt16) :
      (first ^^^ polynomial) ^^^ (second ^^^ polynomial) = first ^^^ second := by
    rw [UInt16.xor_assoc, UInt16.xor_comm second, ← UInt16.xor_assoc polynomial,
      UInt16.xor_self, UInt16.zero_xor]
  simp only [bitStep, xor_lowBit, UInt16.shiftRight_xor]
  rcases lowBit_cases left with leftBit | leftBit
  · rcases lowBit_cases right with rightBit | rightBit
    · simp [leftBit, rightBit]
    · simp [leftBit, rightBit, UInt16.xor_assoc]
  · rcases lowBit_cases right with rightBit | rightBit
    · simp only [leftBit, rightBit]
      simp
      ac_rfl
    · simp [leftBit, rightBit, cancel]

/-- Eight register steps. -/
def shiftByte (crc : UInt16) : UInt16 :=
  countedLoop (fun _ crc => bitStep polynomial crc) 8 crc

theorem byteStep_eq (crc : UInt16) (byte : UInt8) :
    byteStep polynomial crc byte = shiftByte polynomial (crc ^^^ byte.toUInt16) := rfl

theorem shiftByte_xor (left right : UInt16) :
    shiftByte polynomial (left ^^^ right) =
      shiftByte polynomial left ^^^ shiftByte polynomial right := by
  simp only [shiftByte]
  induction 8 with
  | zero => rfl
  | succ count inductionHypothesis =>
      rw [countedLoop_succ, inductionHypothesis, bitStep_xor]
      rfl

theorem shiftByte_zero : shiftByte polynomial 0 = 0 := by
  have same := shiftByte_xor polynomial 0 0
  rwa [UInt16.xor_self, UInt16.xor_self] at same

/-- An even register is only halved. -/
theorem bitStep_even
    {crc : UInt16}
    (even : crc.toNat % 2 = 0) :
    (bitStep polynomial crc).toNat = crc.toNat / 2 := by
  have clear : crc &&& 1 = 0 := UInt16.toNat.inj ((lowBit_toNat crc).trans even)
  rw [bitStep, if_neg (not_not_intro clear), halved_toNat]

/-- A byte in the high half of the register moves down to the low half. -/
theorem shiftByte_high (byte : UInt8) :
    shiftByte polynomial (byte.toUInt16 <<< 8) = byte.toUInt16 := by
  have bound := byte.toNat_lt
  have placed : (byte.toUInt16 <<< 8).toNat = byte.toNat * 2 ^ 8 := by
    rw [BigEndian.highHalf_toNat, Nat.shiftLeft_eq]
  have moved (count : Nat) (few : count ≤ 8) :
      (countedLoop (fun _ crc => bitStep polynomial crc) count
        (byte.toUInt16 <<< 8)).toNat = byte.toNat * 2 ^ (8 - count) := by
    induction count with
    | zero => exact placed
    | succ count inductionHypothesis =>
        have power : 2 ^ (8 - count) = 2 * 2 ^ (8 - (count + 1)) := by
          rw [← Nat.pow_succ']
          congr 1
          omega
        have before := inductionHypothesis (by omega)
        rw [power, ← Nat.mul_assoc, Nat.mul_right_comm] at before
        rw [countedLoop_succ, bitStep_even polynomial (by omega), before]
        omega
  apply UInt16.toNat.inj
  rw [shiftByte, moved 8 (Nat.le_refl 8), UInt8.toNat_toUInt16]
  exact Nat.mul_one byte.toNat

/-- Two bytes are absorbed like the word with the second one on top. -/
theorem byteStep_byteStep (crc : UInt16) (low high : UInt8) :
    byteStep polynomial (byteStep polynomial crc low) high =
      shiftByte polynomial (shiftByte polynomial (crc ^^^ BigEndian.word high low)) := by
  have moved : shiftByte polynomial (crc ^^^ low.toUInt16) ^^^ high.toUInt16 =
      shiftByte polynomial ((crc ^^^ low.toUInt16) ^^^ (high.toUInt16 <<< 8)) := by
    rw [shiftByte_xor _ _ (high.toUInt16 <<< 8), shiftByte_high]
  rw [byteStep_eq, byteStep_eq, moved, BigEndian.word_eq_xor, UInt16.xor_assoc,
    UInt16.xor_comm low.toUInt16]

/-- So are two bytes inside a byte sequence. -/
theorem checksum_append_pair
    (initial : UInt16)
    (first last : List UInt8)
    (low high : UInt8) :
    checksum polynomial initial (first ++ low :: high :: last) =
      checksum polynomial
        (shiftByte polynomial
          (shiftByte polynomial
            (checksum polynomial initial first ^^^ BigEndian.word high low))) last := by
  rw [← byteStep_byteStep]
  exact List.foldl_append

end

/-! ## No information is lost -/

section

variable {polynomial : UInt16} (monic : 0x8000 ≤ polynomial)

include monic

/-- With the highest coefficient set, only the zero register steps to zero. -/
theorem bitStep_eq_zero
    {crc : UInt16}
    (vanishes : bitStep polynomial crc = 0) :
    crc = 0 := by
  have bound := crc.toNat_lt
  unfold bitStep at vanishes
  split at vanishes
  · have large : 0x8000 ≤ polynomial.toNat := UInt16.le_iff_toNat_le.mp monic
    rw [← UInt16.xor_eq_zero_iff.mp vanishes, halved_toNat] at large
    omega
  · rename_i clear
    have even : crc.toNat % 2 = 0 :=
      (lowBit_toNat crc).symm.trans (congrArg UInt16.toNat (not_not.mp clear))
    have half := congrArg UInt16.toNat vanishes
    rw [halved_toNat] at half
    apply UInt16.toNat.inj
    show crc.toNat = 0
    change crc.toNat / 2 = 0 at half
    omega

theorem shiftByte_eq_zero
    {crc : UInt16}
    (vanishes : shiftByte polynomial crc = 0) :
    crc = 0 := by
  have steps (count : Nat)
      (zero : countedLoop (fun _ crc => bitStep polynomial crc) count crc = 0) :
      crc = 0 := by
    induction count with
    | zero => exact zero
    | succ count inductionHypothesis =>
        exact inductionHypothesis (bitStep_eq_zero monic zero)
  exact steps 8 vanishes

theorem shiftByte_injective : Function.Injective (shiftByte polynomial) := by
  intro left right same
  apply UInt16.xor_eq_zero_iff.mp
  apply shiftByte_eq_zero monic
  rw [shiftByte_xor, same, UInt16.xor_self]

/-- The register before a byte can be recovered from the one after it. -/
theorem byteStep_injective (byte : UInt8) :
    Function.Injective (byteStep polynomial · byte) := by
  intro left right same
  exact (UInt16.xor_left_inj _).mp (shiftByte_injective monic same)

/-- So can the register before a byte sequence. -/
theorem checksum_injective (bytes : List UInt8) :
    Function.Injective (checksum polynomial · bytes) := by
  induction bytes with
  | nil => exact fun _ _ same => same
  | cons byte bytes inductionHypothesis =>
      exact fun _ _ same => byteStep_injective monic byte (inductionHypothesis same)

/-- Two adjacent bytes decide the register behind them. -/
theorem checksum_pair_iff
    (initial : UInt16)
    (first last : List UInt8)
    (left right otherLeft otherRight : UInt8) :
    checksum polynomial initial (first ++ left :: right :: last) =
        checksum polynomial initial (first ++ otherLeft :: otherRight :: last) ↔
      left = otherLeft ∧ right = otherRight := by
  rw [checksum_append_pair, checksum_append_pair, (checksum_injective monic last).eq_iff,
    (shiftByte_injective monic).eq_iff, (shiftByte_injective monic).eq_iff,
    UInt16.xor_right_inj, BigEndian.eq_iff_bytes]
  simp only [BigEndian.highByte_word, BigEndian.lowByte_word]
  exact And.comm

/-- A sequence that ends with its checksum, low byte first, leaves zero. -/
theorem checksum_append_eq_zero_iff
    (initial : UInt16)
    (bytes : List UInt8)
    (low high : UInt8) :
    checksum polynomial initial (bytes ++ [low, high]) = 0 ↔
      checksum polynomial initial bytes = BigEndian.word high low := by
  have absorbed : checksum polynomial initial (bytes ++ [low, high]) =
      shiftByte polynomial
        (shiftByte polynomial
          (checksum polynomial initial bytes ^^^ BigEndian.word high low)) :=
    checksum_append_pair polynomial initial bytes [] low high
  rw [absorbed, ← UInt16.xor_eq_zero_iff (b := BigEndian.word high low)]
  constructor
  · exact fun zero => shiftByte_eq_zero monic (shiftByte_eq_zero monic zero)
  · intro zero
    rw [zero, shiftByte_zero, shiftByte_zero]

end

end ReflectedCrc
