import SensorFirmware.Modbus.Diagnostics
import SensorFirmware.Sensor.SensorService

/-!
# What the main loop does to the device

`Application::run` lets several components work on the Modbus service and on the
error manager.  Each of their actions is an event here, and a run is any
sequence of events after `Application::initialize`.
-/

namespace SensorFirmware

/-- An action on the state that the components share. -/
inductive DeviceEvent
  /-- A call of the error manager. -/
  | report (operation : ErrorOp)
  /-- A frame for `processFrame`. -/
  | frame (frame : FrameItem)
  /-- `SensorService::updateModbus`. -/
  | publish (temperature humidity : UInt16)
  /-- The supply voltage that `AdcService::process` stores. -/
  | supplyVoltage (value : UInt16)
  /-- A successful flash save, which clears both save flags. -/
  | settingsSaved

/-- The error manager calls of an event. -/
def DeviceEvent.reports : DeviceEvent → List ErrorOp
  | .report operation => [operation]
  | .frame received => received.reports
  | _ => []

/-- The error manager calls of a run, the first one first. -/
def errorHistory (events : List DeviceEvent) : List ErrorOp :=
  events.flatMap DeviceEvent.reports

namespace Device

variable [DoubleArith D]

/-- `Application::initialize`, with the reset cause that the hardware reports. -/
def started (imageBytes : SettingsStruct → SensorStruct D → List UInt8)
    (flashData : Option (FlashConfig D)) (watchdogReset : Bool) (dev : Device D) :
    Device D :=
  let loaded := loadOrDefaults imageBytes flashData
  let errors := ErrorManager.initialized
  let dev :=
    { dev with
      deviceConfig := loaded.1
      sensor := loaded.2
      errors := if watchdogReset then errors.reportWatchdogReset else errors }
  dev.initialized dev.deviceConfig.id.toUInt8

/-- The device after one event. -/
def eventStep (dev : Device D) : DeviceEvent → Device D
  | .report operation => { dev with errors := dev.errors.apply operation }
  | .frame frame => dev.frameStep frame
  | .publish temperature humidity => dev.updateModbus temperature humidity
  | .supplyVoltage value => dev.setHoldingRegister regInVolValue value
  | .settingsSaved => { dev with saveDevSettings := 0, saveSensorInfo := 0 }

/-- The device after a list of events. -/
def runEvents (dev : Device D) (events : List DeviceEvent) : Device D :=
  Transition.run eventStep dev events

/-- A started device has a legal slave id. -/
theorem started_idValid
    (imageBytes : SettingsStruct → SensorStruct D → List UInt8)
    (flashData : Option (FlashConfig D))
    (watchdogReset : Bool)
    (dev : Device D) :
    (started imageBytes flashData watchdogReset dev).IdValid := by
  have valid := loadOrDefaults_isValidRuntimeConfig imageBytes flashData
  have legal := not_or.mp valid.id
  rw [IdValid, started, initialized_deviceConfig _ valid.verifyKey]
  exact ⟨UInt16.pos_iff_ne_zero.mpr legal.1, UInt16.not_lt.mp legal.2⟩

/-- No event makes a legal slave id illegal. -/
theorem eventStep_idValid
    {dev : Device D}
    (event : DeviceEvent)
    (valid : dev.IdValid) :
    (dev.eventStep event).IdValid := by
  cases event with
  | frame frame => exact frameStep_idValid valid
  | publish temperature humidity =>
      rw [IdValid, eventStep,
        updateModbus_project _ _ _ (·.deviceConfig) fun _ _ => rfl]
      exact valid
  | report | supplyVoltage | settingsSaved => exact valid

/-- The error manager has seen the calls of the run. -/
theorem runEvents_errors
    (dev : Device D)
    (events : List DeviceEvent) :
    (dev.runEvents events).errors = dev.errors.applyAll (errorHistory events) := by
  induction events generalizing dev with
  | nil => rfl
  | cons event events inductionHypothesis =>
      have step : (dev.eventStep event).errors = dev.errors.applyAll event.reports := by
        cases event with
        | frame frame => exact frameStep_errors dev frame
        | publish temperature humidity =>
            exact updateModbus_project _ _ _ (·.errors) fun _ _ => rfl
        | report | supplyVoltage | settingsSaved => rfl
      rw [errorHistory, List.flatMap_cons, ErrorManager.applyAll_append, ← step]
      exact inductionHypothesis (dev.eventStep event)

end Device

end SensorFirmware
