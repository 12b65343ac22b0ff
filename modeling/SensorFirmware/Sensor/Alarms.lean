import SensorFirmware.Library.SignedWord
import SensorFirmware.Sensor.Accesses
import SensorFirmware.Sensor.PublishedValues

/-!
# Two evaluations of the alarms

The measurement cycle compares words, and knows two temperature alarms.
`ModbusService::sensorUpdate` compares signed numbers and knows an alarm of the
humidity as well, but nothing calls it.  Both read the thresholds from the same
registers.
-/

namespace SensorFirmware

open ModbusService SignedWord

namespace Device

/-- The fixed temperature is outside the thresholds, compared as signed numbers. -/
def SignedOutside (dev : Device D) : Prop :=
  (dev.holdingRegister regTempHighAlarm).toInt16 < dev.modbus.tempVal ∨
    dev.modbus.tempVal < (dev.holdingRegister regTempLowAlarm).toInt16

/-- The fixed humidity is above its threshold. -/
def SignedHumid (dev : Device D) : Prop :=
  (dev.holdingRegister regHumHighAlarm).toInt16 < dev.modbus.humVal

instance (dev : Device D) : Decidable dev.SignedOutside :=
  inferInstanceAs (Decidable (_ ∨ _))

instance (dev : Device D) : Decidable dev.SignedHumid :=
  inferInstanceAs (Decidable (_ < _))

/-- `ModbusService::sensorUpdate`. -/
def sensorUpdate (dev : Device D) : Device D :=
  let tempVal := dev.modbus.tempVal
  let dev := dev.setInputRegister regTempValue tempVal.toUInt16
  let dev := dev.setInputRegister 0x20 dev.modbus.humVal.toUInt16
  let tempHigh := (dev.holdingRegister regTempHighAlarm).toInt16
  let tempLow := (dev.holdingRegister regTempLowAlarm).toInt16
  let status :=
    0
      |> setBitIf dev.SignedOutside 0x01
      |> setBitIf dev.SignedHumid 0x02
  let alarms :=
    (if dev.SignedOutside then
      0
        |> setBitIf (tempHigh < tempVal) 0x01
        |> setBitIf (tempVal < tempLow) 0x02
    else 0)
      |> setBitIf dev.SignedHumid 0x04
  let dev := dev.setInputRegister regSensorStatus status
  dev.setInputRegister regAlarmFlags alarms

variable (dev : Device D)

/-! ## The words that are stored -/

/-- The status and the alarm flags that `sensorUpdate` stores. -/
theorem sensorUpdate_stored :
    dev.sensorUpdate.inputRegister regSensorStatus =
        setBitIf dev.SignedHumid 0x02 (setBitIf dev.SignedOutside 0x01 0) ∧
      dev.sensorUpdate.inputRegister regAlarmFlags =
        setBitIf dev.SignedHumid 0x04
          (if dev.SignedOutside then
            setBitIf
              (dev.modbus.tempVal < (dev.holdingRegister regTempLowAlarm).toInt16) 0x02
              (setBitIf
                ((dev.holdingRegister regTempHighAlarm).toInt16 < dev.modbus.tempVal) 0x01 0)
          else 0) := by
  have separate : ¬ (regSensorStatus = regAlarmFlags ∧ regAlarmFlags < holdingRegSize) := by
    decide
  simp only [sensorUpdate]
  rw [setInputRegister_inputRegister, if_neg separate, setInputRegister_inputRegister,
    if_pos (by decide), setInputRegister_inputRegister, if_pos (by decide)]
  exact ⟨rfl, rfl⟩

/-- The alarm flags that `updateModbus` stores. -/
theorem updateModbus_alarms (temperature humidity : UInt16) :
    (dev.updateModbus temperature humidity).inputRegister regAlarmFlags =
      dev.alarmWord temperature :=
  (if_pos (by decide)).trans (dev.updateModbus_published temperature humidity).2.2

/-! ## Temperatures and humidities that are not negative -/

/-- For words of one sign the two evaluations agree, and raise the alarm of the
humidity when it is due, exactly when the humidity is not above its threshold. -/
theorem updateModbus_agrees_sensorUpdate_iff
    (temperature humidity : UInt16)
    (temperatureHeld : dev.modbus.tempVal = temperature.toInt16)
    (humidityHeld : dev.modbus.humVal = humidity.toInt16)
    (temperatureSmall : temperature < 0x8000)
    (humiditySmall : humidity < 0x8000)
    (highSmall : dev.holdingRegister regTempHighAlarm < 0x8000)
    (lowSmall : dev.holdingRegister regTempLowAlarm < 0x8000)
    (humidSmall : dev.holdingRegister regHumHighAlarm < 0x8000) :
    let published := dev.updateModbus temperature humidity
    let humHigh := dev.holdingRegister regHumHighAlarm
    (published.inputRegister regSensorStatus =
          dev.sensorUpdate.inputRegister regSensorStatus ∧
        published.inputRegister regAlarmFlags =
          dev.sensorUpdate.inputRegister regAlarmFlags ∧
        (published.inputRegister regSensorStatus &&& 0x02 ≠ 0 ↔ humHigh < humidity) ∧
        (published.inputRegister regAlarmFlags &&& 0x04 ≠ 0 ↔ humHigh < humidity)) ↔
      humidity ≤ humHigh := by
  intro published humHigh
  have above := toInt16_lt_iff highSmall temperatureSmall
  have below := toInt16_lt_iff temperatureSmall lowSmall
  have outside : dev.SignedOutside ↔ dev.OutsideThresholds temperature := by
    rw [SignedOutside, temperatureHeld, above, below]
    rfl
  have humid : dev.SignedHumid ↔ humHigh < humidity := by
    rw [SignedHumid, humidityHeld]
    exact toInt16_lt_iff humidSmall humiditySmall
  rw [dev.sensorUpdate_stored.1, dev.sensorUpdate_stored.2, updateModbus_status,
    updateModbus_alarms, ← UInt16.not_lt]
  simp only [temperatureHeld, above, below, outside, humid, alarmWord, OutsideThresholds]
  -- The three comparisons decide all words.
  by_cases hot : dev.holdingRegister regTempHighAlarm < temperature <;>
    by_cases cold : temperature < dev.holdingRegister regTempLowAlarm <;>
    by_cases wet : humHigh < humidity <;>
    simp only [setBitIf, hot, cold, wet, or_true, or_false, if_true, if_false] <;>
    decide

/-- The device after its boot, with 50 percent written to the threshold of the
humidity. -/
def humidDevice : Device ℚ :=
  (firstBoot BuildInfo.unitTest).setHoldingRegister regHumHighAlarm 500

theorem humidDevice_thresholds :
    humidDevice.holdingRegister regTempHighAlarm = 500 ∧
      humidDevice.holdingRegister regTempLowAlarm = 100 ∧
        humidDevice.holdingRegister regHumHighAlarm = 500 := by
  have mirrored := firstBoot_thresholdsMirrored (D := ℚ) BuildInfo.unitTest
  rw [ThresholdsMirrored, firstBoot_deviceConfig] at mirrored
  have inArray : regHumHighAlarm < holdingRegSize := by decide
  have register (reg : Nat) (small : reg < holdingRegSize) (other : reg ≠ regBaudRate) :
      humidDevice.holdingRegister reg =
        if reg = regHumHighAlarm then 500
        else (firstBoot BuildInfo.unitTest : Device ℚ).holding reg := by
    rw [holdingRegister, if_pos small, if_neg other, humidDevice, setHoldingRegister,
      updateBank_holding, if_pos inArray, RegisterBank.holding_setHolding]
    simp only [inArray, and_true]
    rfl
  refine ⟨?_, ?_, ?_⟩
  · exact (register _ (by decide) (by decide)).trans (mirrored 0 (by decide))
  · exact (register _ (by decide) (by decide)).trans (mirrored 1 (by decide))
  · exact register _ (by decide) (by decide)

theorem humidDevice_tempVal : humidDevice.modbus.tempVal = (250 : UInt16).toInt16 := rfl

theorem humidDevice_humVal : humidDevice.modbus.humVal = (600 : UInt16).toInt16 := rfl

theorem updateModbus_agrees_sensorUpdate_iff_humid :
    let published := humidDevice.updateModbus 250 600
    let humHigh := humidDevice.holdingRegister regHumHighAlarm
    (published.inputRegister regSensorStatus =
          humidDevice.sensorUpdate.inputRegister regSensorStatus ∧
        published.inputRegister regAlarmFlags =
          humidDevice.sensorUpdate.inputRegister regAlarmFlags ∧
        (published.inputRegister regSensorStatus &&& 0x02 ≠ 0 ↔ humHigh < 600) ∧
        (published.inputRegister regAlarmFlags &&& 0x04 ≠ 0 ↔ humHigh < 600)) ↔
      600 ≤ humHigh := by
  obtain ⟨high, low, humHigh⟩ := humidDevice_thresholds
  exact updateModbus_agrees_sensorUpdate_iff humidDevice 250 600 humidDevice_tempVal
    humidDevice_humVal (by decide) (by decide) (by rw [high]; decide) (by rw [low]; decide)
    (by rw [humHigh]; decide)

/-- At 60 percent `updateModbus` stores no alarm, where `sensorUpdate` stores the one
of the humidity. -/
theorem updateModbus_misses_humidity :
    humidDevice.modbus.tempVal = 250 ∧ humidDevice.modbus.humVal = 600 ∧
      (humidDevice.holdingRegister regTempHighAlarm = 500 ∧
        humidDevice.holdingRegister regTempLowAlarm = 100 ∧
          humidDevice.holdingRegister regHumHighAlarm = 500) ∧
      (humidDevice.updateModbus 250 600).inputRegister regAlarmFlags = 0 ∧
      humidDevice.sensorUpdate.inputRegister regAlarmFlags = 0x04 := by
  obtain ⟨high, low, humHigh⟩ := humidDevice_thresholds
  have temperature : humidDevice.modbus.tempVal = 250 := rfl
  have humidity : humidDevice.modbus.humVal = 600 := rfl
  refine ⟨temperature, humidity, humidDevice_thresholds, ?_, ?_⟩
  · rw [updateModbus_alarms]
    simp only [alarmWord, OutsideThresholds, high, low]
    decide
  · rw [humidDevice.sensorUpdate_stored.2]
    simp only [SignedOutside, SignedHumid, high, low, humHigh, temperature, humidity]
    decide

/-! ## Temperatures below zero -/

/-- The alarm flags and the status are those of a temperature and two thresholds
that are signed numbers. -/
def ShowsSignedAlarms (dev : Device D) (temperature high low : Int) : Prop :=
  (dev.inputRegister regAlarmFlags &&& 0x01 ≠ 0 ↔ high < temperature) ∧
    (dev.inputRegister regAlarmFlags &&& 0x02 ≠ 0 ↔ temperature < low) ∧
      (dev.inputRegister regSensorStatus &&& 0x01 ≠ 0 ↔
        high < temperature ∨ temperature < low)

/-- What the bits of `updateModbus` say. -/
theorem updateModbus_bits (temperature humidity : UInt16) :
    let published := dev.updateModbus temperature humidity
    (published.inputRegister regAlarmFlags &&& 0x01 ≠ 0 ↔
        dev.holdingRegister regTempHighAlarm < temperature) ∧
      (published.inputRegister regAlarmFlags &&& 0x02 ≠ 0 ↔
        temperature < dev.holdingRegister regTempLowAlarm) ∧
      (published.inputRegister regSensorStatus &&& 0x01 ≠ 0 ↔
        dev.OutsideThresholds temperature) := by
  simp only [updateModbus_status, updateModbus_alarms, alarmWord, OutsideThresholds]
  by_cases hot : dev.holdingRegister regTempHighAlarm < temperature <;>
    by_cases cold : temperature < dev.holdingRegister regTempLowAlarm <;>
    simp only [setBitIf, hot, cold, or_true, or_false, if_true, if_false] <;>
    decide

/-- The alarms of a published temperature are those of the signed numbers exactly
when the temperature and both thresholds have the same sign. -/
theorem updateModbus_showsSignedAlarms_iff (temperature humidity : UInt16) :
    let high := signed (dev.holdingRegister regTempHighAlarm)
    let low := signed (dev.holdingRegister regTempLowAlarm)
    (dev.updateModbus temperature humidity).ShowsSignedAlarms (signed temperature) high
        low ↔
      (signed temperature < 0 ↔ high < 0) ∧ (signed temperature < 0 ↔ low < 0) := by
  intro high low
  obtain ⟨hot, cold, outside⟩ := dev.updateModbus_bits temperature humidity
  have above := lt_iff_signed_lt_iff (dev.holdingRegister regTempHighAlarm) temperature
  have below := lt_iff_signed_lt_iff temperature (dev.holdingRegister regTempLowAlarm)
  rw [ShowsSignedAlarms, hot, cold, outside, OutsideThresholds, ← below,
    Iff.comm (a := signed temperature < 0) (b := high < 0), ← above]
  constructor
  · rintro ⟨highAgrees, lowAgrees, _⟩
    exact ⟨highAgrees, lowAgrees⟩
  · rintro ⟨highAgrees, lowAgrees⟩
    exact ⟨highAgrees, lowAgrees, or_congr highAgrees lowAgrees⟩

end Device

/-! ## The range of the temperature -/

/-- The range of `temperatureX100`. -/
def TemperatureInRange (value : Int) : Prop := -4500 ≤ value ∧ value ≤ 13000

theorem zero_inRange : TemperatureInRange 0 := ⟨by decide, by decide⟩

theorem temperatureX100_inRange (raw : UInt16) :
    TemperatureInRange (Sht3xSensor.temperatureX100 raw) := by
  have bound := raw.toNat_lt
  have quotient : Int.tdiv (17500 * raw.toNat) 65535 = 17500 * raw.toNat / 65535 :=
    Int.tdiv_eq_ediv_of_nonneg (by omega)
  rw [TemperatureInRange, Sht3xSensor.temperatureX100, quotient]
  omega

namespace SensorService

/-- Filtering keeps the temperatures in their range. -/
theorem filtered_inRange
    {service : SensorService}
    (inRange : service.temperatureFilter.All TemperatureInRange)
    (rawTemperature rawHumidity : UInt16) :
    let after := service.filtered rawTemperature rawHumidity
    TemperatureInRange after.temperatureX100 ∧
      after.temperatureFilter.All TemperatureInRange := by
  have measured := temperatureX100_inRange rawTemperature
  have applied := inRange.apply measured
  rw [filtered]
  split
  · exact ⟨measured, .seed zero_inRange measured⟩
  · exact applied

/-- A published temperature in its range is the signed reading of its word. -/
theorem signed_publishedTemperature
    {service : SensorService}
    (inRange : TemperatureInRange service.temperatureX100) :
    signed service.publishedTemperature = service.temperatureX100.tdiv 10 := by
  obtain ⟨lower, upper⟩ := inRange
  have least : -450 ≤ service.temperatureX100.tdiv 10 :=
    Int.tdiv_le_tdiv (by decide) lower
  have greatest : service.temperatureX100.tdiv 10 ≤ 1300 :=
    Int.tdiv_le_tdiv (by decide) upper
  exact signed_ofInt (by omega) (by omega)

end SensorService

namespace System

/-- The system around another device. -/
def withDevice (sys : System D) (dev : Device D) : System D :=
  { sys with device := dev }

/-- All temperatures in the filter are in the range of the sensor. -/
def FilterInRange (sys : System D) : Prop :=
  sys.service.temperatureFilter.All TemperatureInRange

/-- An accepted reading leaves a temperature in range. -/
theorem acceptReading_inRange
    {sys : System D}
    (inRange : sys.FilterInRange)
    (nowMs : UInt32)
    (rawTemperature rawHumidity : UInt16) :
    let after := sys.acceptReading nowMs rawTemperature rawHumidity
    TemperatureInRange after.service.temperatureX100 ∧ after.FilterInRange := by
  let service : SensorService :=
    { sys.service with rawTemperature := rawTemperature, rawHumidity := rawHumidity }
  have before : service.temperatureFilter.All TemperatureInRange := inRange
  simp only [FilterInRange, acceptReading_service, SensorService.retry]
  exact SensorService.filtered_inRange before rawTemperature rawHumidity

/-- An accepted reading publishes the values of the service after it. -/
theorem process_device_of_accepts
    {sys : System D}
    {nowMs : UInt32}
    {reply : I2cReply}
    {rawTemperature rawHumidity : UInt16}
    (accepts : sys.Accepts nowMs reply rawTemperature rawHumidity) :
    (sys.process nowMs reply).device = (sys.withErrors
      sys.device.errors.reportI2cSuccess.reportSensorReadSuccess).device.updateModbus
        (sys.process nowMs reply).service.publishedTemperature
        (sys.process nowMs reply).service.publishedHumidity := by
  rw [process_of_accepts accepts, acceptReading_service]
  rfl

variable [DoubleArith D]

theorem step_filterInRange
    {sys : System D}
    {event : SystemEvent}
    (inRange : sys.FilterInRange) :
    (sys.step event).FilterInRange := by
  cases event with
  | frame frame => exact inRange
  | cycle nowMs reply =>
      show (sys.process nowMs reply).FilterInRange
      have cycle := sys.process_cycle nowMs reply
      generalize sys.access nowMs reply = access, sys.process nowMs reply = after at cycle ⊢
      cases cycle with
      | earlyTrigger | earlyRead => exact inRange
      | triggered | triggerFailed | readFailed | rejected =>
          simpa only [FilterInRange, failRead, rejectReading, SensorService.retry] using
            inRange
      | accepted rawTemperature rawHumidity =>
          exact (acceptReading_inRange inRange nowMs rawTemperature rawHumidity).2

theorem run_filterInRange
    (imageBytes : SettingsStruct → SensorStruct D → List UInt8)
    (flashData : Option (FlashConfig D))
    (build : BuildInfo)
    (events : List SystemEvent) :
    ((initialized imageBytes flashData build).run events).FilterInRange := by
  have initially : (initialized imageBytes flashData build).FilterInRange :=
    MedianFilter.All.reset zero_inRange
  exact Transition.run_invariant FilterInRange (fun _ _ => step_filterInRange) initially
    events

/-- After every run and with every contents of the registers, an accepted reading
raises the alarms of its signed temperature exactly when the temperature and both
thresholds have the same sign. -/
theorem run_showsSignedAlarms_iff
    (imageBytes : SettingsStruct → SensorStruct D → List UInt8)
    (flashData : Option (FlashConfig D))
    (build : BuildInfo)
    (events : List SystemEvent)
    (dev : Device D)
    (nowMs : UInt32)
    (reply : I2cReply)
    (rawTemperature rawHumidity : UInt16)
    (accepts : (((initialized imageBytes flashData build).run events).withDevice
      dev).Accepts nowMs reply rawTemperature rawHumidity) :
    let start := ((initialized imageBytes flashData build).run events).withDevice dev
    let after := start.process nowMs reply
    let temperature := after.service.temperatureX100.tdiv 10
    let high := signed (dev.holdingRegister regTempHighAlarm)
    let low := signed (dev.holdingRegister regTempLowAlarm)
    after.device.ShowsSignedAlarms temperature high low ↔
      (temperature < 0 ↔ high < 0) ∧ (temperature < 0 ↔ low < 0) := by
  intro start after temperature high low
  have inRange : start.FilterInRange := run_filterInRange imageBytes flashData build events
  have published : after = start.acceptReading nowMs rawTemperature rawHumidity :=
    process_of_accepts accepts
  have measured : TemperatureInRange after.service.temperatureX100 := by
    rw [published]
    exact (acceptReading_inRange inRange nowMs rawTemperature rawHumidity).1
  have reading : signed after.service.publishedTemperature = temperature :=
    SensorService.signed_publishedTemperature measured
  rw [process_device_of_accepts accepts, ← reading]
  exact Device.updateModbus_showsSignedAlarms_iff _ _ _

/-! ## Ten degrees below zero -/

/-- A bus that acknowledges, with a payload of -10.00 degrees. -/
def coldReply : I2cReply where
  triggerStatus := .ok
  readStatus := .ok
  frame := #v[0x33, 0x33, 0x88, 0x80, 0x00, 0xA2]

/-- The system that waits for this payload. -/
def waiting : System ℚ := fresh.run [.cycle 0 coldReply]

theorem waiting_eq :
    waiting = { fresh.withErrors fresh.device.errors.reportI2cSuccess with
      service := { SensorService.initialize with state := .read } } := by
  rw [waiting, run_cycle, run_nil, process_first_triggers fresh_service rfl]

theorem waiting_accepts : waiting.Accepts 20 coldReply 0x3333 0x8000 := by
  rw [Accepts, waiting_eq]
  decide +kernel

theorem waiting_showsSignedAlarms_iff :
    let start := ((initialized (fun _ _ => []) none BuildInfo.unitTest : System ℚ).run
      [.cycle 0 coldReply]).withDevice waiting.device
    let after := start.process 20 coldReply
    let temperature := after.service.temperatureX100.tdiv 10
    let high := signed (waiting.device.holdingRegister regTempHighAlarm)
    let low := signed (waiting.device.holdingRegister regTempLowAlarm)
    after.device.ShowsSignedAlarms temperature high low ↔
      (temperature < 0 ↔ high < 0) ∧ (temperature < 0 ↔ low < 0) :=
  run_showsSignedAlarms_iff _ _ _ _ _ _ _ _ _
    (show (waiting.withDevice waiting.device).Accepts 20 coldReply 0x3333 0x8000 from
      waiting_accepts)

/-- The first reading of -10 degrees raises the alarm of a temperature above 50
degrees. -/
theorem cold_raises_highAlarm :
    let after := waiting.process 20 coldReply
    waiting.Accepts 20 coldReply 0x3333 0x8000 ∧
      after.service.temperatureX100.tdiv 10 = -100 ∧
      signed (waiting.device.holdingRegister regTempHighAlarm) = 500 ∧
      after.device.inputRegister regAlarmFlags &&& 0x01 ≠ 0 := by
  intro after
  have published : after = waiting.acceptReading 20 0x3333 0x8000 :=
    process_of_accepts waiting_accepts
  have service : after.service = ({ SensorService.initialize with
      state := .read
      rawTemperature := 0x3333
      rawHumidity := 0x8000 }.filtered 0x3333 0x8000).retry 20 measurePeriodMs := by
    rw [published, acceptReading_service, waiting_eq]
  have threshold : waiting.device.holdingRegister regTempHighAlarm = 500 := by
    have register : waiting.device.holding regTempHighAlarm = 500 := by
      rw [waiting_eq]
      exact fresh_threshold
    exact (if_pos (by decide)).trans ((if_neg (by decide)).trans register)
  refine ⟨waiting_accepts, ?_, ?_, ?_⟩
  · rw [service]
    decide +kernel
  · rw [threshold]
    decide
  · rw [process_device_of_accepts waiting_accepts]
    refine (Device.updateModbus_bits _ _ _).1.mpr ?_
    show waiting.device.holdingRegister regTempHighAlarm < after.service.publishedTemperature
    rw [threshold, service]
    decide +kernel

end System

end SensorFirmware
