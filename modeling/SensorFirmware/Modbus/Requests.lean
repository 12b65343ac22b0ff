import SensorFirmware.Modbus.Runs

/-!
# Requests of a master

Well-formed requests, built from their fields the way a Modbus master builds
them, and what the device reads out of them.
-/

namespace SensorFirmware

open BigEndian ModbusService

/-! ## Requests of two words -/

/-- Body of a read or of a single write. -/
def twoWordBody (id function : UInt8) (addr value : UInt16) : List UInt8 :=
  [id, function, highByte addr, lowByte addr, highByte value, lowByte value]

/-- A read of `value` registers, or a write of `value` to one register. -/
def twoWordRequest (id function : UInt8) (addr value : UInt16) : FrameItem :=
  makeFrame (twoWordBody id function addr value)

section

variable (id function : UInt8) (addr value : UInt16)

private theorem fits_twoWordBody :
    (twoWordBody id function addr value).length ≤ 254 := by
  simp [twoWordBody]

theorem twoWordRequest_len : (twoWordRequest id function addr value).len.toNat = 8 :=
  makeFrame_len (fits_twoWordBody id function addr value)

theorem twoWordRequest_crcMatches : (twoWordRequest id function addr value).CrcMatches :=
  makeFrame_crcMatches (fits_twoWordBody id function addr value)

theorem twoWordRequest_byte
    (index : Nat)
    (inside : index < 6) :
    (twoWordRequest id function addr value).byte index =
      (twoWordBody id function addr value).getD index 0 :=
  makeFrame_bodyByte (fits_twoWordBody id function addr value) index inside

theorem twoWordRequest_addr : (twoWordRequest id function addr value).addr = addr := by
  rw [FrameItem.addr, FrameItem.wordAt, twoWordRequest_byte _ _ _ _ 2 (by decide),
    twoWordRequest_byte _ _ _ _ 3 (by decide)]
  exact word_highByte_lowByte addr

theorem twoWordRequest_qty : (twoWordRequest id function addr value).qty = value := by
  rw [FrameItem.qty, FrameItem.wordAt, twoWordRequest_byte _ _ _ _ 4 (by decide),
    twoWordRequest_byte _ _ _ _ 5 (by decide)]
  exact word_highByte_lowByte value

theorem twoWordRequest_unicast
    (own : id ≠ 0) :
    ¬ (twoWordRequest id function addr value).IsBroadcast := by
  rw [FrameItem.IsBroadcast, twoWordRequest_byte _ _ _ _ 0 (by decide)]
  exact own

end

/-! ## Multiple writes -/

/-- Body of a multiple write. -/
def writeMultipleBody (id : UInt8) (addr : UInt16) (words : List UInt16) : List UInt8 :=
  [id, fcWriteMultipleRegs, highByte addr, lowByte addr, 0, words.length.toUInt8,
    (words.length * 2).toUInt8] ++ bytes words

/-- A multiple write of consecutive registers. -/
def writeMultipleRequest (id : UInt8) (addr : UInt16) (words : List UInt16) : FrameItem :=
  makeFrame (writeMultipleBody id addr words)

theorem length_writeMultipleBody
    (id : UInt8)
    (addr : UInt16)
    (words : List UInt16) :
    (writeMultipleBody id addr words).length = 7 + 2 * words.length := by
  simp [writeMultipleBody]
  omega

section

variable (id : UInt8) (addr : UInt16) (words : List UInt16)
variable (few : words.length ≤ 123)

include few

theorem writeMultipleRequest_len :
    (writeMultipleRequest id addr words).len.toNat = 9 + 2 * words.length := by
  have length := length_writeMultipleBody id addr words
  rw [writeMultipleRequest, makeFrame_len (by omega), length]
  omega

theorem writeMultipleRequest_crcMatches :
    (writeMultipleRequest id addr words).CrcMatches := by
  have length := length_writeMultipleBody id addr words
  exact makeFrame_crcMatches (by omega)

/-- The seven bytes in front of the payload. -/
theorem writeMultipleRequest_header
    (index : Nat)
    (inside : index < 7) :
    (writeMultipleRequest id addr words).byte index =
      [id, fcWriteMultipleRegs, highByte addr, lowByte addr, 0, words.length.toUInt8,
        (words.length * 2).toUInt8].getD index 0 := by
  have length := length_writeMultipleBody id addr words
  rw [writeMultipleRequest, makeFrame_bodyByte (by omega) _ (by omega),
    writeMultipleBody, List.getD_append _ _ _ _ inside]

theorem writeMultipleRequest_addr :
    (writeMultipleRequest id addr words).addr = addr := by
  rw [FrameItem.addr, FrameItem.wordAt,
    writeMultipleRequest_header id addr words few 2 (by decide),
    writeMultipleRequest_header id addr words few 3 (by decide)]
  exact word_highByte_lowByte addr

theorem writeMultipleRequest_qty :
    (writeMultipleRequest id addr words).qty.toNat = words.length := by
  rw [FrameItem.qty, FrameItem.wordAt,
    writeMultipleRequest_header id addr words few 4 (by decide),
    writeMultipleRequest_header id addr words few 5 (by decide), word_toNat]
  show (0 : UInt8).toNat * 256 + words.length.toUInt8.toNat = words.length
  have narrow : words.length.toUInt8.toNat = words.length := by
    exact Nat.mod_eq_of_lt (by omega)
  rw [narrow]
  exact Nat.zero_add _

/-- The payload words. -/
theorem writeMultipleRequest_payload
    (i : Nat)
    (inside : i < words.length) :
    (writeMultipleRequest id addr words).wordAt (7 + i * 2) = words.getD i 0 := by
  have length := length_writeMultipleBody id addr words
  have pair := getD_bytes words i inside
  have header : [id, fcWriteMultipleRegs, highByte addr, lowByte addr, 0,
      words.length.toUInt8, (words.length * 2).toUInt8].length = 7 := rfl
  rw [writeMultipleRequest, makeFrame_bodyWord (by omega) _ (by omega),
    writeMultipleBody, List.getD_append_right _ _ _ _ (by omega),
    List.getD_append_right _ _ _ _ (by omega), header]
  have high : 7 + i * 2 - 7 = i * 2 := by omega
  have low : 7 + i * 2 + 1 - 7 = i * 2 + 1 := by omega
  rw [high, low, pair.1, pair.2, word_highByte_lowByte]

/-- The device accepts such a request when its registers exist. -/
theorem writeMultipleRequest_valid
    (some_ : words ≠ [])
    (fits : addr.toNat + words.length ≤ holdingRegSize) :
    (writeMultipleRequest id addr words).WriteMultipleValid := by
  have qty := writeMultipleRequest_qty id addr words few
  have len := writeMultipleRequest_len id addr words few
  have positive : words.length ≠ 0 := fun none => some_ (List.eq_nil_of_length_eq_zero none)
  have byteCount : (writeMultipleRequest id addr words).byte 6 =
      (words.length * 2).toUInt8 :=
    writeMultipleRequest_header id addr words few 6 (by decide)
  have count : (words.length * 2).toUInt8.toNat = words.length * 2 :=
    Nat.mod_eq_of_lt (by omega)
  have two : (2 : UInt16).toNat = 2 := rfl
  have nine : (9 : UInt16).toNat = 9 := rfl
  refine ⟨?_, ?_, ?_, ?_, ?_⟩
  · intro zero
    rw [zero] at qty
    exact positive qty.symm
  · apply UInt16.le_iff_toNat_le.mpr
    rw [qty]
    exact few
  · rw [byteCount]
    apply UInt8.toNat.inj
    rw [count, UInt16.toNat_toUInt8, UInt16.toNat_mul, qty, two]
    omega
  · rw [writeMultipleRequest_addr id addr words few, qty]
    exact fits
  · apply UInt16.le_iff_toNat_le.mpr
    rw [len, byteCount, UInt16.toNat_add, UInt8.toNat_toUInt16, count, nine]
    omega

end

namespace Device

/-- A request with the slave id in force reaches the function code switch. -/
theorem reaches_twoWordRequest
    {dev : Device D}
    {id : UInt8}
    (idValid : dev.IdValid)
    (own : dev.deviceConfig.id.toUInt8 = id)
    (function : UInt8)
    (addr value : UInt16) :
    dev.Reaches (twoWordRequest id function addr value) := by
  refine ⟨?_, twoWordRequest_crcMatches _ _ _ _, Or.inr ?_⟩
  · apply UInt16.le_iff_toNat_le.mpr
    rw [twoWordRequest_len]
    decide
  · rw [noteValidFrame_slaveAddress idValid, own]
    exact twoWordRequest_byte _ _ _ _ 0 (by decide)

section

variable {dev : Device D} {id : UInt8} (idValid : dev.IdValid)
variable (own : dev.deviceConfig.id.toUInt8 = id)
variable (addr : UInt16) (words : List UInt16) (few : words.length ≤ 123)

include idValid own few

/-- A request with the slave id in force reaches the function code switch. -/
theorem reaches_writeMultipleRequest :
    dev.Reaches (writeMultipleRequest id addr words) := by
  refine ⟨?_, writeMultipleRequest_crcMatches _ addr words few, Or.inr ?_⟩
  · apply UInt16.le_iff_toNat_le.mpr
    rw [writeMultipleRequest_len _ addr words few]
    show 4 ≤ 9 + 2 * words.length
    omega
  · rw [noteValidFrame_slaveAddress idValid, own]
    exact writeMultipleRequest_header _ addr words few 0 (by decide)

/-- It is carried out, and runs the command where it covers the command
register. -/
theorem runsCommand_writeMultipleRequest
    (covers : addr.toNat ≤ commandCode ∧ commandCode < addr.toNat + words.length)
    (fits : addr.toNat + words.length ≤ holdingRegSize) :
    dev.RunsCommand (writeMultipleRequest id addr words) := by
  have some_ : words ≠ [] := by
    rintro rfl
    simp only [List.length_nil] at covers
    omega
  refine ⟨reaches_writeMultipleRequest idValid own addr words few,
    writeMultipleRequest_header _ addr words few 1 (by decide), ?_,
    writeMultipleRequest_valid _ addr words few some_ fits, ?_⟩
  · apply UInt16.le_iff_toNat_le.mpr
    rw [writeMultipleRequest_len _ addr words few]
    show 9 ≤ 9 + 2 * words.length
    omega
  · rw [CoversCommand, writeMultipleRequest_addr _ addr words few,
      writeMultipleRequest_qty _ addr words few]
    exact covers

end

/-- The registers once its words are stored. -/
theorem requestWord_writeMultipleRequest
    (dev : Device D)
    (id : UInt8)
    (addr : UInt16)
    (words : List UInt16)
    (few : words.length ≤ 123)
    (reg : Nat) :
    dev.requestWord (writeMultipleRequest id addr words) reg =
      if addr.toNat ≤ reg ∧ reg < addr.toNat + words.length then
        words.getD (reg - addr.toNat) 0
      else dev.holding reg := by
  rw [requestWord, writeMultipleRequest_addr id addr words few,
    writeMultipleRequest_qty id addr words few]
  split
  · rename_i covered
    exact writeMultipleRequest_payload id addr words few _ (by omega)
  · rfl

/-- The words of a package that starts at the first register. -/
theorem requestWord_package
    (dev : Device D)
    (id : UInt8)
    (words : List UInt16)
    (few : words.length ≤ 123)
    (reg : Nat)
    (written : reg < words.length) :
    dev.requestWord (writeMultipleRequest id 0 words) reg = words.getD reg 0 := by
  have covered : (0 : UInt16).toNat ≤ reg ∧ reg < (0 : UInt16).toNat + words.length :=
    ⟨Nat.zero_le reg, Nat.lt_of_lt_of_eq written (Nat.zero_add _).symm⟩
  exact (requestWord_writeMultipleRequest dev id 0 words few reg).trans (if_pos covered)

end Device

end SensorFirmware
