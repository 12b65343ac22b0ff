import SensorFirmware.Sensor.Accesses

/-!
# Outcomes of a read

A reading reaches the registers, the filters and the display only when the bus
delivers it, both checksums fit and neither raw word is at an end of its range.
Any other read leaves them alone, counts one more failed read and goes back to
the trigger.
-/

namespace SensorFirmware

open BigEndian

/-- The read succeeds, both checksums fit and neither raw word is at an end of
its range. -/
def I2cReply.ValidReading (reply : I2cReply) : Prop :=
  let byte := FixedArray.read reply.frame
  reply.readStatus = .ok ∧
    Sht3xSensor.crc8 [byte 0, byte 1] = byte 2 ∧
    Sht3xSensor.crc8 [byte 3, byte 4] = byte 5 ∧
    word (byte 0) (byte 1) ≠ 0x0000 ∧ word (byte 0) (byte 1) ≠ 0xFFFF ∧
    word (byte 3) (byte 4) ≠ 0x0000 ∧ word (byte 3) (byte 4) ≠ 0xFFFF

/-- A valid reading is one that the driver delivers and the service accepts. -/
theorem validReading_of_inRange
    {reply : I2cReply}
    {rawTemperature rawHumidity : UInt16}
    (reading : Sht3xSensor.readMeasurement reply = .ok (rawTemperature, rawHumidity))
    (inRange : ¬ SensorService.OutOfRange rawTemperature rawHumidity) :
    reply.ValidReading := by
  simp only [Sht3xSensor.readMeasurement] at reading
  split at reading
  case isTrue failed => exact absurd reading (by simp)
  case isFalse ok =>
      split at reading
      case isTrue mismatch => exact absurd reading (by simp)
      case isFalse fits =>
          rw [Except.ok.injEq, Prod.mk.injEq] at reading
          obtain ⟨rfl, rfl⟩ := reading
          simp only [SensorService.OutOfRange, not_or] at fits inRange
          obtain ⟨humidityHigh, humidityLow, temperatureHigh, temperatureLow⟩ := inRange
          exact ⟨not_not.mp ok, not_not.mp fits.1, not_not.mp fits.2, temperatureLow,
            temperatureHigh, humidityLow, humidityHigh⟩

namespace System

/-- The call reads the sensor. -/
def Reads (sys : System D) (nowMs : UInt32) : Prop :=
  sys.service.state = .read ∧
    ¬ nowMs - sys.service.measurementStartMs < measureDelayMs

/-- Nothing is published: the registers, the filters, the values and the calls of
the display are those of before. -/
structure Unpublished (before after : System D) : Prop where
  registers : after.device.modbus.bank = before.device.modbus.bank
  temperatureFilter : after.service.temperatureFilter = before.service.temperatureFilter
  humidityFilter : after.service.humidityFilter = before.service.humidityFilter
  temperatureX100 : after.service.temperatureX100 = before.service.temperatureX100
  humidityX100 : after.service.humidityX100 = before.service.humidityX100
  lcd : after.lcd = before.lcd

section

variable (sys : System D) (nowMs : UInt32) (reply : I2cReply)

/-- A call publishes only an accepted reading. -/
theorem process_unpublished
    (invalid : ¬ (sys.Reads nowMs ∧ reply.ValidReading)) :
    Unpublished sys (sys.process nowMs reply) := by
  have cycle := sys.process_cycle nowMs reply
  generalize sys.access nowMs reply = access, sys.process nowMs reply = after at cycle ⊢
  cases cycle with
  | earlyTrigger | triggered | triggerFailed | earlyRead | readFailed | rejected =>
      constructor <;> simp only [failRead, rejectReading, withErrors, SensorService.retry]
  | accepted _ _ accepts =>
      obtain ⟨state, waited, reading, inRange⟩ := accepts
      exact absurd ⟨⟨state, waited⟩, validReading_of_inRange reading inRange⟩ invalid

/-- A read that is not accepted counts as one more failed read in a row. -/
theorem consecutiveSensorReadFailCount_of_invalid
    (reads : sys.Reads nowMs)
    (invalid : ¬ reply.ValidReading) :
    (sys.process nowMs reply).device.errors.consecutiveSensorReadFailCount =
        incrementSaturated sys.device.errors.consecutiveSensorReadFailCount ∧
      (sys.process nowMs reply).service.state = .trigger := by
  obtain ⟨reading, waited⟩ := reads
  have cycle := sys.process_cycle nowMs reply
  generalize sys.access nowMs reply = access, sys.process nowMs reply = after at cycle ⊢
  cases cycle with
  | earlyTrigger state | triggered state | triggerFailed state =>
      rw [reading] at state
      exact absurd state (by decide)
  | earlyRead _ early => exact absurd early waited
  | readFailed _ _ status =>
      have kept : (sys.device.errors.reportI2cError status).consecutiveSensorReadFailCount =
          sys.device.errors.consecutiveSensorReadFailCount := by
        rw [ErrorManager.reportI2cError_eq, ErrorManager.process_eq]
      constructor
      · simp only [failRead, withErrors, ErrorManager.reportSensorReadFailure,
          ErrorManager.process_eq, kept]
      · simp only [failRead, SensorService.retry]
  | rejected =>
      constructor
      · simp only [rejectReading, withErrors, ErrorManager.reportSensorReadFailure,
          ErrorManager.process_eq, ErrorManager.reportI2cSuccess]
      · simp only [rejectReading, SensorService.retry]
  | accepted _ _ accepts =>
      exact absurd (validReading_of_inRange accepts.2.2.1 accepts.2.2.2) invalid

/-- A call publishes nothing unless it reads a valid reading.  A read of anything
else counts as one more failed read in a row and goes back to the trigger. -/
theorem process_publishes_validReading :
    (¬ (sys.Reads nowMs ∧ reply.ValidReading) →
        Unpublished sys (sys.process nowMs reply)) ∧
      (sys.Reads nowMs → ¬ reply.ValidReading →
        (sys.process nowMs reply).device.errors.consecutiveSensorReadFailCount =
            incrementSaturated sys.device.errors.consecutiveSensorReadFailCount ∧
          (sys.process nowMs reply).service.state = .trigger) :=
  ⟨process_unpublished sys nowMs reply,
    consecutiveSensorReadFailCount_of_invalid sys nowMs reply⟩

end

end System

end SensorFirmware
