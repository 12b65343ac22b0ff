import SensorFirmware.Library.FixedArray

/-!
# Big-endian words

Sixteen-bit words and the pair of bytes that carries them, with the two round
trips between the views, and byte arrays that hold a sequence of words.
-/

namespace BigEndian

/-- The word whose high byte comes first. -/
def word (high low : UInt8) : UInt16 :=
  (high.toUInt16 <<< 8) ||| low.toUInt16

/-- High byte of a word. -/
def highByte (value : UInt16) : UInt8 :=
  (value >>> 8).toUInt8

/-- Low byte of a word. -/
def lowByte (value : UInt16) : UInt8 :=
  (value &&& 0xFF).toUInt8

/-- A byte in the high half of a word. -/
theorem highHalf_toNat (byte : UInt8) :
    (byte.toUInt16 <<< 8).toNat = byte.toNat <<< 8 := by
  have bound := byte.toNat_lt
  have unshifted : byte.toNat <<< 8 % 2 ^ 16 = byte.toNat <<< 8 := by
    rw [Nat.shiftLeft_eq]
    omega
  rw [UInt16.toNat_shiftLeft, UInt8.toNat_toUInt16]
  exact unshifted

theorem word_toNat (high low : UInt8) :
    (word high low).toNat = high.toNat * 256 + low.toNat := by
  have lowBound := low.toNat_lt
  rw [word, UInt16.toNat_or, highHalf_toNat, UInt8.toNat_toUInt16,
    ← Nat.shiftLeft_add_eq_or_of_lt (by omega), Nat.shiftLeft_eq]

/-- The two bytes of a word do not overlap. -/
theorem word_eq_xor (high low : UInt8) :
    word high low = (high.toUInt16 <<< 8) ^^^ low.toUInt16 := by
  have lowBound : low.toNat < 2 ^ 8 := low.toNat_lt
  apply UInt16.toNat.inj
  rw [word, UInt16.toNat_or, UInt16.toNat_xor, highHalf_toNat, UInt8.toNat_toUInt16]
  apply Nat.eq_of_testBit_eq
  intro index
  rw [Nat.testBit_or, Nat.testBit_xor, Nat.testBit_shiftLeft]
  by_cases small : index < 8
  · have unshifted : ¬ 8 ≤ index := by omega
    simp [unshifted]
  · have power : 2 ^ 8 ≤ 2 ^ index := Nat.pow_le_pow_right (by decide) (by omega)
    have above : low.toNat.testBit index = false :=
      Nat.testBit_lt_two_pow (Nat.lt_of_lt_of_le lowBound power)
    simp [above]

theorem highByte_toNat (value : UInt16) :
    (highByte value).toNat = value.toNat / 256 := by
  have bound := value.toNat_lt
  simp only [highByte, UInt16.toNat_toUInt8, UInt16.toNat_shiftRight]
  have shifted : value.toNat >>> ((8 : UInt16).toNat % 16) = value.toNat / 256 :=
    Nat.shiftRight_eq_div_pow _ 8
  rw [shifted]
  omega

theorem lowByte_eq_toUInt8 (value : UInt16) :
    lowByte value = value.toUInt8 := by
  apply UInt8.toNat.inj
  simp only [lowByte, UInt16.toNat_toUInt8, UInt16.toNat_and]
  have masked : value.toNat &&& (0xFF : UInt16).toNat = value.toNat % 2 ^ 8 :=
    Nat.and_two_pow_sub_one_eq_mod _ 8
  rw [masked]
  omega

theorem lowByte_toNat (value : UInt16) :
    (lowByte value).toNat = value.toNat % 256 := by
  rw [lowByte_eq_toUInt8, UInt16.toNat_toUInt8]

@[simp] theorem highByte_word (high low : UInt8) :
    highByte (word high low) = high := by
  have lowBound := low.toNat_lt
  apply UInt8.toNat.inj
  rw [highByte_toNat, word_toNat]
  omega

@[simp] theorem lowByte_word (high low : UInt8) :
    lowByte (word high low) = low := by
  have lowBound := low.toNat_lt
  apply UInt8.toNat.inj
  rw [lowByte_toNat, word_toNat]
  omega

@[simp] theorem word_highByte_lowByte (value : UInt16) :
    word (highByte value) (lowByte value) = value := by
  apply UInt16.toNat.inj
  rw [word_toNat, highByte_toNat, lowByte_toNat]
  omega

/-- A word is its two bytes. -/
theorem eq_iff_bytes (first second : UInt16) :
    first = second ↔
      highByte first = highByte second ∧ lowByte first = lowByte second := by
  constructor
  · rintro rfl
    exact ⟨rfl, rfl⟩
  · rintro ⟨high, low⟩
    rw [← word_highByte_lowByte first, high, low, word_highByte_lowByte]

/-- The mask of the high byte keeps the multiples of 256. -/
private theorem and_highMask (value : Nat) (bound : value < 65536) :
    value &&& 0xFF00 = value / 256 * 256 := by
  rw [← Nat.shiftRight_eq_div_pow _ 8, ← Nat.shiftLeft_eq _ 8]
  apply Nat.eq_of_testBit_eq
  intro index
  rw [Nat.testBit_and, Nat.testBit_shiftLeft, Nat.testBit_shiftRight]
  by_cases small : index < 8
  · have unmasked : Nat.testBit 0xFF00 index = false := by
      revert index
      decide
    have notShifted : ¬ 8 ≤ index := by omega
    simp [unmasked, notShifted]
  · have shifted : 8 + (index - 8) = index := by omega
    have large : 8 ≤ index := by omega
    rw [shifted]
    by_cases inside : index < 16
    · have maskBit : Nat.testBit 0xFF00 index = true := by
        obtain ⟨offset, rfl⟩ : ∃ offset, index = 8 + offset := ⟨index - 8, by omega⟩
        have offsetBound : offset < 8 := by omega
        clear small inside shifted large
        revert offset
        decide
      simp [maskBit, large]
    · have high : Nat.testBit value index = false := by
        apply Nat.testBit_lt_two_pow
        calc value < 2 ^ 16 := bound
          _ ≤ 2 ^ index := Nat.pow_le_pow_right (by decide) (by omega)
      simp [high]

/-- The high byte is zero exactly when its mask finds nothing. -/
theorem highMask_eq_zero_iff (value : UInt16) :
    value &&& 0xFF00 = 0 ↔ highByte value = 0 := by
  have mask : (0xFF00 : UInt16).toNat = 0xFF00 := by decide
  rw [← UInt16.toNat_inj, ← UInt8.toNat_inj, UInt16.toNat_and, highByte_toNat, mask,
    and_highMask value.toNat value.toNat_lt]
  show value.toNat / 256 * 256 = 0 ↔ value.toNat / 256 = 0
  omega

/-- The low byte is zero exactly when its mask finds nothing. -/
theorem lowMask_eq_zero_iff (value : UInt16) :
    value &&& 0x00FF = 0 ↔ lowByte value = 0 := by
  have masked : value.toNat &&& (0xFF : UInt16).toNat = value.toNat % 2 ^ 8 :=
    Nat.and_two_pow_sub_one_eq_mod _ 8
  rw [← UInt16.toNat_inj, ← UInt8.toNat_inj, UInt16.toNat_and, lowByte_toNat, masked]
  rfl

/-- The bytes of a sequence of words, each high byte first. -/
def bytes (words : List UInt16) : List UInt8 :=
  words.flatMap fun value => [highByte value, lowByte value]

@[simp] theorem length_bytes (words : List UInt16) :
    (bytes words).length = 2 * words.length := by
  induction words with
  | nil => rfl
  | cons value words inductionHypothesis =>
      simp only [bytes, List.flatMap_cons, List.length_append] at *
      rw [inductionHypothesis]
      simp only [List.length_cons, List.length_nil]
      omega

/-- Byte `i * 2` of the sequence is the high byte of word `i`, and the next one
is its low byte. -/
theorem getD_bytes
    (words : List UInt16)
    (i : Nat)
    (inside : i < words.length) :
    (bytes words).getD (i * 2) 0 = highByte (words.getD i 0) ∧
      (bytes words).getD (i * 2 + 1) 0 = lowByte (words.getD i 0) := by
  induction words generalizing i with
  | nil => simp at inside
  | cons value words inductionHypothesis =>
      cases i with
      | zero => exact ⟨rfl, rfl⟩
      | succ i =>
          have rest := inductionHypothesis i (by simpa using inside)
          have position : (i + 1) * 2 = i * 2 + 2 := by omega
          rw [position]
          exact rest

/-- Store `count` words from the start of a byte array on. -/
def storeWords (array : Vector UInt8 n) (words : Nat → UInt16)
    (count : Nat) : Vector UInt8 n :=
  countedLoop
    (fun i array =>
      FixedArray.write (FixedArray.write array (i * 2) (highByte (words i)))
        (i * 2 + 1) (lowByte (words i)))
    count array

/-- Only the stored words matter. -/
theorem storeWords_congr
    {words other : Nat → UInt16}
    {count : Nat}
    (agree : ∀ i, i < count → words i = other i)
    (array : Vector UInt8 n) :
    storeWords array words count = storeWords array other count :=
  countedLoop_congr (fun i inside => by rw [agree i inside]) array

/-- A byte behind the stored words keeps its value; the others are the bytes
of the words. -/
theorem read_storeWords
    (array : Vector UInt8 n)
    (words : Nat → UInt16)
    (count : Nat)
    (fits : count * 2 ≤ n)
    (index : Nat) :
    FixedArray.read (storeWords array words count) index =
      if index < count * 2 then
        if index % 2 = 0 then highByte (words (index / 2))
        else lowByte (words (index / 2))
      else FixedArray.read array index := by
  induction count with
  | zero => simp [storeWords]
  | succ count inductionHypothesis =>
      have previous := inductionHypothesis (by omega)
      simp only [storeWords] at previous ⊢
      rw [countedLoop_succ, FixedArray.read_write, FixedArray.read_write, previous]
      by_cases low : index = count * 2 + 1
      · have half : index / 2 = count := by omega
        have odd : ¬ index % 2 = 0 := by omega
        have inside : count * 2 + 1 < n := by omega
        have covered : index < (count + 1) * 2 := by omega
        rw [if_pos ⟨low, inside⟩, if_pos covered, if_neg odd, half]
      · rw [if_neg (fun both => low both.1)]
        by_cases high : index = count * 2
        · have half : index / 2 = count := by omega
          have even : index % 2 = 0 := by omega
          have inside : count * 2 < n := by omega
          have covered : index < (count + 1) * 2 := by omega
          rw [if_pos ⟨high, inside⟩, if_pos covered, if_pos even, half]
        · rw [if_neg (fun both => high both.1)]
          by_cases covered : index < count * 2
          · have stillCovered : index < (count + 1) * 2 := by omega
            rw [if_pos covered, if_pos stillCovered]
          · have stillUncovered : ¬ index < (count + 1) * 2 := by omega
            rw [if_neg covered, if_neg stillUncovered]

/-- Storing words changes nothing exactly when they are already there. -/
theorem storeWords_eq_self_iff
    (array : Vector UInt8 n)
    (words : Nat → UInt16)
    (count : Nat)
    (fits : count * 2 ≤ n) :
    storeWords array words count = array ↔
      ∀ i, i < count → FixedArray.read array (i * 2) = highByte (words i) ∧
        FixedArray.read array (i * 2 + 1) = lowByte (words i) := by
  have cells (index : Nat) := read_storeWords array words count fits index
  constructor
  · intro same i below
    rw [same] at cells
    have odd : ¬ (i * 2 + 1) % 2 = 0 := by omega
    have half : (i * 2 + 1) / 2 = i := by omega
    have high := cells (i * 2)
    have low := cells (i * 2 + 1)
    rw [if_pos (by omega), if_pos (by omega), Nat.mul_div_cancel _ (by decide)] at high
    rw [if_pos (by omega), if_neg odd, half] at low
    exact ⟨high, low⟩
  · intro stored
    apply FixedArray.ext_read
    intro index _
    rw [cells]
    split
    · rename_i covered
      have pair := stored (index / 2) (by omega)
      split
      · rename_i even
        have position : index / 2 * 2 = index := by omega
        rw [← pair.1, position]
      · rename_i odd
        have position : index / 2 * 2 + 1 = index := by omega
        rw [← pair.2, position]
    · rfl

/-- The same with a byte written behind the words. -/
theorem write_storeWords_eq_self_iff
    (array : Vector UInt8 n)
    (words : Nat → UInt16)
    (count last : Nat)
    (value : UInt8)
    (behind : count * 2 ≤ last)
    (inside : last < n) :
    FixedArray.write (storeWords array words count) last value = array ↔
      (∀ i, i < count → FixedArray.read array (i * 2) = highByte (words i) ∧
          FixedArray.read array (i * 2 + 1) = lowByte (words i)) ∧
        value = FixedArray.read array last := by
  rw [← storeWords_eq_self_iff array words count (by omega)]
  constructor
  · intro same
    have stored : storeWords array words count = array := by
      apply FixedArray.ext_read
      intro index _
      by_cases covered : index < count * 2
      · have notLast : ¬ (index = last ∧ last < n) := by omega
        have cell := congrArg (FixedArray.read · index) same
        simp only [FixedArray.read_write, if_neg notLast] at cell
        exact cell
      · rw [read_storeWords _ _ _ (by omega), if_neg covered]
    rw [stored] at same
    exact ⟨stored, (FixedArray.write_eq_self_iff array last value inside).mp same⟩
  · rintro ⟨stored, lastStored⟩
    rw [stored]
    exact (FixedArray.write_eq_self_iff array last value inside).mpr lastStored

/-- Reading a stored word back yields it. -/
theorem word_storeWords
    (array : Vector UInt8 n)
    (words : Nat → UInt16)
    (count : Nat)
    (fits : count * 2 ≤ n)
    (index : Nat)
    (inside : index < count) :
    word (FixedArray.read (storeWords array words count) (index * 2))
        (FixedArray.read (storeWords array words count) (index * 2 + 1)) =
      words index := by
  have highCovered : index * 2 < count * 2 := by omega
  have lowCovered : index * 2 + 1 < count * 2 := by omega
  have even : index * 2 % 2 = 0 := by omega
  have odd : ¬ (index * 2 + 1) % 2 = 0 := by omega
  have highHalf : index * 2 / 2 = index := by omega
  have lowHalf : (index * 2 + 1) / 2 = index := by omega
  rw [read_storeWords _ _ _ fits, read_storeWords _ _ _ fits, if_pos highCovered,
    if_pos lowCovered, if_pos even, if_neg odd, highHalf, lowHalf,
    word_highByte_lowByte]

end BigEndian
