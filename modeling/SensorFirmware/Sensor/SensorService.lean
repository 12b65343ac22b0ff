import SensorFirmware.Modbus.Runs
import SensorFirmware.Sensor.MedianFilter
import SensorFirmware.Sensor.Sht3xSensor

/-!
# Sensor service

The measurement cycle: trigger, wait, read, check, filter and publish.  The
service writes its results into the input registers of the Modbus service and
onto the display.
-/

namespace SensorFirmware

/-- `SensorService::State`. -/
inductive SensorState
  | trigger
  | read
  deriving DecidableEq

/-- Members of `SensorService`. -/
structure SensorService where
  state : SensorState
  lastSensorTimeMs : UInt32
  nextTriggerTimeMs : UInt32
  measurementStartMs : UInt32
  rawTemperature : UInt16
  rawHumidity : UInt16
  temperatureX100 : Int
  humidityX100 : Int
  temperatureFilter : MedianFilter
  humidityFilter : MedianFilter
  deriving DecidableEq

/-- Calls of the display driver. -/
inductive LcdCall
  | setCursor (row column : UInt8)
  | writeString (text : String)
  | writeFixed (value : Int) (fracDigits : UInt8)
  deriving DecidableEq

/-- `SensorService::initialize`. -/
def SensorService.initialize : SensorService where
  state := .trigger
  lastSensorTimeMs := 0
  nextTriggerTimeMs := 0
  measurementStartMs := 0
  rawTemperature := 0
  rawHumidity := 0
  temperatureX100 := 0
  humidityX100 := 0
  temperatureFilter := MedianFilter.reset
  humidityFilter := MedianFilter.reset

/-- The sensor service with the parts of the firmware that it writes to. -/
structure System (D : Type) where
  device : Device D
  service : SensorService
  /-- Calls of the display driver, oldest first. -/
  lcd : List LcdCall
  deriving DecidableEq

def measurePeriodMs : UInt32 := 1000
def measureDelayMs : UInt32 := 20

/-! ## Publishing -/

/-- The temperature is outside the thresholds in the holding registers. -/
def Device.OutsideThresholds (dev : Device D) (currentTemp : UInt16) : Prop :=
  dev.holdingRegister regTempHighAlarm < currentTemp ∨
    currentTemp < dev.holdingRegister regTempLowAlarm

instance (dev : Device D) (currentTemp : UInt16) :
    Decidable (dev.OutsideThresholds currentTemp) :=
  inferInstanceAs (Decidable (_ ∨ _))

/-- `SensorService::updateModbus`. -/
def Device.updateModbus (dev : Device D) (currentTemp currentHumidity : UInt16) :
    Device D :=
  let dev := dev.setInputRegister regTempValue currentTemp
  let dev := dev.setInputRegister regGasConctValue currentHumidity
  let tempHigh := dev.holdingRegister regTempHighAlarm
  let tempLow := dev.holdingRegister regTempLowAlarm
  let status := if dev.OutsideThresholds currentTemp then 0x01 else 0
  let alarms :=
    if dev.OutsideThresholds currentTemp then
      0
        |> setBitIf (tempHigh < currentTemp) 0x01
        |> setBitIf (currentTemp < tempLow) 0x02
    else 0
  let dev := dev.setInputRegister regSensorStatus status
  dev.setInputRegister regAlarmFlags alarms

namespace Device

/-- Publishing only changes the register arrays. -/
theorem updateModbus_project
    (dev : Device D)
    (currentTemp currentHumidity : UInt16)
    (project : Device D → β)
    (bankless : ∀ (dev : Device D) change, project (dev.updateBank change) = project dev) :
    project (dev.updateModbus currentTemp currentHumidity) = project dev := by
  simp only [updateModbus, setInputRegister, bankless]

/-- It writes no holding register. -/
@[simp] theorem updateModbus_holding
    (dev : Device D)
    (currentTemp currentHumidity : UInt16)
    (reg : Nat) :
    (dev.updateModbus currentTemp currentHumidity).holding reg = dev.holding reg := by
  simp only [updateModbus, setInputRegister_holding]

end Device

namespace SensorService

/-- A raw word at either end of its range rejects the reading. -/
def OutOfRange (rawTemperature rawHumidity : UInt16) : Prop :=
  rawHumidity = 0xFFFF ∨ rawHumidity = 0x0000 ∨ rawTemperature = 0xFFFF ∨
    rawTemperature = 0x0000

instance (rawTemperature rawHumidity : UInt16) :
    Decidable (OutOfRange rawTemperature rawHumidity) :=
  inferInstanceAs (Decidable (_ ∨ _))

/-- Wait for `delay` milliseconds before the next trigger. -/
def retry (service : SensorService) (nowMs delay : UInt32) : SensorService :=
  { service with nextTriggerTimeMs := nowMs + delay, state := .trigger }

/-- Filter an accepted reading: the first one seeds the filters. -/
def filtered (service : SensorService) (rawTemperature rawHumidity : UInt16) :
    SensorService :=
  let tempInput := Sht3xSensor.temperatureX100 rawTemperature
  let humidityInput := Sht3xSensor.humidityX100 rawHumidity
  let humidityInput := if humidityInput < 0 then 0 else humidityInput
  let humidityInput := if 10000 < humidityInput then 10000 else humidityInput
  if !service.temperatureFilter.initialized || !service.humidityFilter.initialized then
    { service with
      temperatureFilter := MedianFilter.seed tempInput
      humidityFilter := MedianFilter.seed humidityInput
      temperatureX100 := tempInput
      humidityX100 := humidityInput }
  else
    let temperature := service.temperatureFilter.apply tempInput
    let humidity := service.humidityFilter.apply humidityInput
    { service with
      temperatureFilter := temperature.2
      humidityFilter := humidity.2
      temperatureX100 := temperature.1
      humidityX100 := humidity.1 }

/-- `static_cast<uint16_t>(temperatureX100_ / 10)`. -/
def publishedTemperature (service : SensorService) : UInt16 :=
  UInt16.ofInt (service.temperatureX100.tdiv 10)

/-- `static_cast<uint16_t>(humidityX100_ / 10)`. -/
def publishedHumidity (service : SensorService) : UInt16 :=
  UInt16.ofInt (service.humidityX100.tdiv 10)

/-- The calls of `SensorService::updateLcd`. -/
def lcdCalls (service : SensorService) : List LcdCall :=
  [.setCursor 0 0, .writeString "T:", .writeFixed service.temperatureX100 2,
    .writeString "C   ", .setCursor 1 0, .writeString "H:",
    .writeFixed service.humidityX100 2, .writeString "%   "]

end SensorService

namespace System

/-- The system with other contents of the error manager. -/
def withErrors (sys : System D) (errors : ErrorManager) : System D :=
  { sys with device := { sys.device with errors := errors } }

/-- `SensorService::handleTriggerState`. -/
def handleTriggerState (sys : System D) (nowMs : UInt32) (status : I2cStatus) :
    System D :=
  if (nowMs - sys.service.nextTriggerTimeMs).toInt32 < 0 then sys
  else if status = .ok then
    { sys.withErrors sys.device.errors.reportI2cSuccess with
      service := { sys.service with measurementStartMs := nowMs, state := .read } }
  else
    { sys.withErrors (sys.device.errors.reportI2cError status) with
      service := sys.service.retry nowMs (if status = .busError then 50 else 100) }

/-- The end of `handleReadState` for a failed read. -/
def failRead (sys : System D) (nowMs : UInt32) (status : I2cStatus) : System D :=
  { sys.withErrors
      ((sys.device.errors.reportI2cError status).reportSensorReadFailure) with
    service := sys.service.retry nowMs 100 }

/-- The end of `handleReadState` for a reading that is out of range. -/
def rejectReading (sys : System D) (nowMs : UInt32)
    (rawTemperature rawHumidity : UInt16) : System D :=
  { sys.withErrors (sys.device.errors.reportI2cSuccess.reportSensorReadFailure) with
    service :=
      { sys.service with rawTemperature := rawTemperature, rawHumidity := rawHumidity }
        |>.retry nowMs 100 }

/-- The end of `handleReadState` for an accepted reading. -/
def acceptReading (sys : System D) (nowMs : UInt32)
    (rawTemperature rawHumidity : UInt16) : System D :=
  let errors := sys.device.errors.reportI2cSuccess.reportSensorReadSuccess
  let service :=
    { sys.service with rawTemperature := rawTemperature, rawHumidity := rawHumidity }
      |>.filtered rawTemperature rawHumidity
  { device :=
      (sys.withErrors errors).device.updateModbus service.publishedTemperature
        service.publishedHumidity
    service := service.retry nowMs measurePeriodMs
    lcd := sys.lcd ++ service.lcdCalls }

@[simp] theorem acceptReading_service
    (sys : System D)
    (nowMs : UInt32)
    (rawTemperature rawHumidity : UInt16) :
    (sys.acceptReading nowMs rawTemperature rawHumidity).service =
      ({ sys.service with
          rawTemperature := rawTemperature
          rawHumidity := rawHumidity }.filtered rawTemperature rawHumidity).retry
        nowMs measurePeriodMs := rfl

@[simp] theorem acceptReading_holding
    (sys : System D)
    (nowMs : UInt32)
    (rawTemperature rawHumidity : UInt16)
    (reg : Nat) :
    (sys.acceptReading nowMs rawTemperature rawHumidity).device.holding reg =
      sys.device.holding reg := by
  rw [acceptReading, Device.updateModbus_holding]
  rfl

@[simp] theorem acceptReading_deviceConfig
    (sys : System D)
    (nowMs : UInt32)
    (rawTemperature rawHumidity : UInt16) :
    (sys.acceptReading nowMs rawTemperature rawHumidity).device.deviceConfig =
      sys.device.deviceConfig := by
  rw [acceptReading, Device.updateModbus_project _ _ _ (·.deviceConfig) fun _ _ => rfl]
  rfl

/-- `SensorService::handleReadState`. -/
def handleReadState (sys : System D) (nowMs : UInt32) (reply : I2cReply) : System D :=
  if nowMs - sys.service.measurementStartMs < measureDelayMs then sys
  else
    match Sht3xSensor.readMeasurement reply with
    | .error status => sys.failRead nowMs status
    | .ok (rawTemperature, rawHumidity) =>
        if SensorService.OutOfRange rawTemperature rawHumidity then
          sys.rejectReading nowMs rawTemperature rawHumidity
        else sys.acceptReading nowMs rawTemperature rawHumidity

/-- `SensorService::process`. -/
def process (sys : System D) (nowMs : UInt32) (reply : I2cReply) : System D :=
  match sys.service.state with
  | .trigger => sys.handleTriggerState nowMs reply.triggerStatus
  | .read => sys.handleReadState nowMs reply

/-- The processing cycle accepts a reading with the given raw words. -/
def Accepts (sys : System D) (nowMs : UInt32) (reply : I2cReply)
    (rawTemperature rawHumidity : UInt16) : Prop :=
  sys.service.state = .read ∧
    ¬ nowMs - sys.service.measurementStartMs < measureDelayMs ∧
      Sht3xSensor.readMeasurement reply = .ok (rawTemperature, rawHumidity) ∧
        ¬ SensorService.OutOfRange rawTemperature rawHumidity

/-! ## What a cycle can do -/

section

variable {sys : System D} {nowMs : UInt32} {reply : I2cReply}

/-- A due and acknowledged trigger starts a measurement. -/
theorem process_of_triggers
    (state : sys.service.state = .trigger)
    (due : ¬ (nowMs - sys.service.nextTriggerTimeMs).toInt32 < 0)
    (ok : reply.triggerStatus = .ok) :
    sys.process nowMs reply =
      { sys.withErrors sys.device.errors.reportI2cSuccess with
        service := { sys.service with measurementStartMs := nowMs, state := .read } } := by
  simp only [process, state, handleTriggerState, if_neg due, if_pos ok]

/-- A cycle that accepts a reading publishes it. -/
theorem process_of_accepts
    {rawTemperature rawHumidity : UInt16}
    (accepts : sys.Accepts nowMs reply rawTemperature rawHumidity) :
    sys.process nowMs reply = sys.acceptReading nowMs rawTemperature rawHumidity := by
  obtain ⟨state, waited, reading, inRange⟩ := accepts
  simp only [process, state, handleReadState, if_neg waited, reading, if_neg inRange]

/-- Any other cycle changes nothing in the device but its error manager. -/
theorem process_device_of_not_accepts
    (rejects : ∀ rawTemperature rawHumidity,
      ¬ sys.Accepts nowMs reply rawTemperature rawHumidity) :
    ∃ errors, (sys.process nowMs reply).device =
      { sys.device with errors := errors } := by
  cases state : sys.service.state with
  | trigger =>
      simp only [process, state, handleTriggerState]
      split
      · exact ⟨_, rfl⟩
      split
      · exact ⟨_, rfl⟩
      · exact ⟨_, rfl⟩
  | read =>
      simp only [process, state, handleReadState]
      split
      · exact ⟨_, rfl⟩
      rename_i waited
      cases reading : Sht3xSensor.readMeasurement reply with
      | error status => exact ⟨_, rfl⟩
      | ok raw =>
          obtain ⟨rawTemperature, rawHumidity⟩ := raw
          by_cases outOfRange : SensorService.OutOfRange rawTemperature rawHumidity
          · simp only [if_pos outOfRange]
            exact ⟨_, rfl⟩
          · exact absurd ⟨state, waited, reading, outOfRange⟩
              (rejects rawTemperature rawHumidity)

end

end System

end SensorFirmware
