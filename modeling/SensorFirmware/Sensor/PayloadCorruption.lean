import SensorFirmware.Library.ForwardCrc
import SensorFirmware.Sensor.Sht3xSensor

/-!
# Corrupted measurement payloads

A payload carries two words, each followed by its checksum.  The checksum sees
every change of a single byte of its group, the checksum byte included, so such a
payload is refused and the outputs keep what they held.
-/

namespace SensorFirmware

open FixedArray (read)

namespace Sht3xSensor

/-- `Sht3xSensor::readMeasurement` with its output references: the status, and the
raw temperature and humidity that they hold afterwards. -/
def readMeasurementInto
    (reply : I2cReply)
    (outputs : UInt16 × UInt16) : I2cStatus × (UInt16 × UInt16) :=
  let byte := read reply.frame
  if reply.readStatus ≠ I2cStatus.ok then (reply.readStatus, outputs)
  else if crc8 [byte 0, byte 1] ≠ byte 2 ∨ crc8 [byte 3, byte 4] ≠ byte 5 then
    (I2cStatus.busError, outputs)
  else
    (I2cStatus.ok,
      BigEndian.word (byte 0) (byte 1), BigEndian.word (byte 3) (byte 4))

/-- The outputs are written exactly when a measurement is returned. -/
theorem readMeasurementInto_eq
    (reply : I2cReply)
    (outputs : UInt16 × UInt16) :
    readMeasurementInto reply outputs =
      match readMeasurement reply with
      | .ok raw => (I2cStatus.ok, raw)
      | .error status => (status, outputs) := by
  simp only [readMeasurementInto, readMeasurement]
  split
  · rfl
  · split <;> rfl

/-- The checksum of the sensor has the polynomial 0x31 and starts from 0xFF. -/
theorem crc8_eq_checksum (data : List UInt8) :
    crc8 data = ForwardCrc.checksum 0x31 0xFF data := rfl

/-- A change of one byte changes the checksum. -/
theorem crc8_change_iff
    (first last : List UInt8)
    (byte other : UInt8) :
    crc8 (first ++ byte :: last) = crc8 (first ++ other :: last) ↔ byte = other := by
  rw [crc8_eq_checksum, crc8_eq_checksum]
  exact ForwardCrc.checksum_change_iff (by decide) 0xFF first last byte other

/-- The bytes from `start` on are a word and its checksum. -/
def GroupValid (frame : Vector UInt8 6) (start : Nat) : Prop :=
  crc8 [read frame start, read frame (start + 1)] = read frame (start + 2)

/-- Exactly one of the three bytes from `start` on differs. -/
def OneByteChanged (original changed : Vector UInt8 6) (start : Nat) : Prop :=
  ∃ position, position < 3 ∧ ∀ offset, offset < 3 →
    (read changed (start + offset) ≠ read original (start + offset) ↔
      offset = position)

/-- A payload is accepted when the bus delivers it and both groups are valid. -/
theorem readMeasurementInto_ok_iff
    (reply : I2cReply)
    (outputs : UInt16 × UInt16) :
    (readMeasurementInto reply outputs).1 = I2cStatus.ok ↔
      reply.readStatus = I2cStatus.ok ∧ GroupValid reply.frame 0 ∧
        GroupValid reply.frame 3 := by
  simp only [readMeasurementInto, GroupValid]
  split
  case isTrue failed => simp [failed]
  case isFalse delivered =>
    split
    case isTrue wrong =>
      simp only [reduceCtorEq, false_iff]
      rintro ⟨-, firstValid, secondValid⟩
      rcases wrong with firstWrong | secondWrong
      · exact firstWrong firstValid
      · exact secondWrong secondValid
    case isFalse right =>
      rw [not_or, not_not, not_not] at right
      simp only [true_iff]
      exact ⟨not_not.mp delivered, right⟩

/-- A delivered payload with an invalid group is refused. -/
theorem readMeasurementInto_of_not_valid
    (reply : I2cReply)
    (delivered : reply.readStatus = I2cStatus.ok)
    (invalid : ¬ GroupValid reply.frame 0 ∨ ¬ GroupValid reply.frame 3)
    (outputs : UInt16 × UInt16) :
    readMeasurementInto reply outputs = (I2cStatus.busError, outputs) := by
  have wrong : crc8 [read reply.frame 0, read reply.frame 1] ≠ read reply.frame 2 ∨
      crc8 [read reply.frame 3, read reply.frame 4] ≠ read reply.frame 5 := invalid
  simp only [readMeasurementInto]
  rw [if_neg (not_not_intro delivered), if_pos wrong]

/-- A group with one changed byte is not valid any more. -/
theorem not_groupValid_of_oneByteChanged
    {original changed : Vector UInt8 6}
    {start : Nat}
    (valid : GroupValid original start)
    (oneByte : OneByteChanged original changed start) :
    ¬ GroupValid changed start := by
  obtain ⟨position, inside, differs⟩ := oneByte
  have same (offset : Nat) (small : offset < 3) (other : offset ≠ position) :
      read changed (start + offset) = read original (start + offset) := by
    by_contra different
    exact other ((differs offset small).mp different)
  have different : read changed (start + position) ≠ read original (start + position) :=
    (differs position inside).mpr rfl
  unfold GroupValid at valid ⊢
  intro stillValid
  obtain rfl | rfl | rfl : position = 0 ∨ position = 1 ∨ position = 2 := by omega
  · rw [same 1 (by decide) (by decide), same 2 (by decide) (by decide), ← valid]
      at stillValid
    exact different ((crc8_change_iff [] _ _ _).mp stillValid)
  · rw [← Nat.add_zero start, same 0 (by decide) (by decide), Nat.add_zero,
      same 2 (by decide) (by decide), ← valid] at stillValid
    exact different ((crc8_change_iff [_] [] _ _).mp stillValid)
  · rw [← Nat.add_zero start, same 0 (by decide) (by decide), Nat.add_zero,
      same 1 (by decide) (by decide), valid] at stillValid
    exact different stillValid.symm

/-- An accepted payload with one changed byte in either group, delivered without
an error of the bus, is refused as a bus error, and the outputs keep what they
held. -/
theorem readMeasurementInto_corrupted
    (reply : I2cReply)
    (changed : Vector UInt8 6)
    (outputs : UInt16 × UInt16)
    (accepted : (readMeasurementInto reply outputs).1 = I2cStatus.ok)
    (corrupted : OneByteChanged reply.frame changed 0 ∨
      OneByteChanged reply.frame changed 3) :
    readMeasurementInto { reply with frame := changed } outputs =
      (I2cStatus.busError, outputs) := by
  obtain ⟨delivered, firstValid, secondValid⟩ :=
    (readMeasurementInto_ok_iff reply outputs).mp accepted
  have invalid : ¬ GroupValid changed 0 ∨ ¬ GroupValid changed 3 :=
    corrupted.imp (not_groupValid_of_oneByteChanged firstValid)
      (not_groupValid_of_oneByteChanged secondValid)
  exact readMeasurementInto_of_not_valid { reply with frame := changed } delivered
    invalid outputs

/-- The sensor's example word 0xBEEF and its checksum 0x92, in both groups. -/
def examplePayload : Vector UInt8 6 := #v[0xBE, 0xEF, 0x92, 0xBE, 0xEF, 0x92]

/-- A flipped bit in the second data byte is seen. -/
theorem readMeasurementInto_corrupted_example :
    readMeasurementInto
        { triggerStatus := I2cStatus.ok
          readStatus := I2cStatus.ok
          frame := #v[0xBE, 0xEE, 0x92, 0xBE, 0xEF, 0x92] } (1, 2) =
      (I2cStatus.busError, (1, 2)) :=
  readMeasurementInto_corrupted
    { triggerStatus := I2cStatus.ok
      readStatus := I2cStatus.ok
      frame := examplePayload }
    #v[0xBE, 0xEE, 0x92, 0xBE, 0xEF, 0x92] (1, 2) (by decide +kernel)
    (.inl ⟨1, by decide, by decide +kernel⟩)

end Sht3xSensor

end SensorFirmware
