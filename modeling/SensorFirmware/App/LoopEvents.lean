import SensorFirmware.App.Events
import SensorFirmware.Errors.Recovery
import SensorFirmware.Sensor.Accesses

/-!
# Runs of the main loop

The actions of `Application::run` as events on the system: the cycles of the
sensor service, the handling of recovery requests, and what the other components
do to the shared device.  Only the cycles touch the sensor service, and each
event changes the error manager by its reports.
-/

namespace SensorFirmware

/-- An action of the main loop. -/
inductive LoopEvent
  /-- `SensorService::process`. -/
  | cycle (nowMs : UInt32) (reply : I2cReply)
  /-- The handling of a recovery request, by whether the bus recovered. -/
  | recovery (success : Bool)
  /-- A frame for `processFrame`. -/
  | frame (frame : FrameItem)
  /-- A frame that finds the frame queue full. -/
  | uartOverflow
  /-- A flash save, by whether it succeeded. -/
  | save (success : Bool)
  /-- `ErrorManager::process`. -/
  | check
  /-- The supply voltage that `AdcService::process` stores. -/
  | supplyVoltage (value : UInt16)

namespace System

variable [DoubleArith D]

/-- The system after `Application::initialize`. -/
def started (imageBytes : SettingsStruct → SensorStruct D → List UInt8)
    (flashData : Option (FlashConfig D)) (watchdogReset : Bool) (dev : Device D) :
    System D where
  device := Device.started imageBytes flashData watchdogReset dev
  service := SensorService.initialize
  lcd := []

/-- The system after one action. -/
def loopStep (sys : System D) : LoopEvent → System D
  | .cycle nowMs reply => sys.process nowMs reply
  | .recovery success =>
      let errors := sys.device.errors.reportI2cRecovery success
      sys.withErrors (if success then errors.markRecoveryDone else errors)
  | .frame frame => { sys with device := sys.device.frameStep frame }
  | .uartOverflow => sys.withErrors sys.device.errors.reportUartOverflow
  | .save true =>
      { sys with
        device :=
          { sys.device with
            saveDevSettings := 0
            saveSensorInfo := 0
            errors := sys.device.errors.reportFlashSaveSuccess } }
  | .save false => sys.withErrors sys.device.errors.reportFlashSaveFailure
  | .check => sys.withErrors sys.device.errors.process
  | .supplyVoltage value =>
      { sys with device := sys.device.setHoldingRegister regInVolValue value }

/-- The system after a list of actions. -/
def runLoop (sys : System D) (events : List LoopEvent) : System D :=
  Transition.run loopStep sys events

omit [DoubleArith D] in
/-- The access of an action: only a cycle accesses the sensor. -/
def loopAccess (sys : System D) : LoopEvent → Access
  | .cycle nowMs reply => sys.access nowMs reply
  | _ => .idle

/-- The accesses of a run, in order. -/
def accesses (sys : System D) (events : List LoopEvent) : List Access :=
  Transition.outputs loopStep loopAccess sys events

omit [DoubleArith D] in
/-- The reports of an action to the error manager, in order. -/
def loopReports (sys : System D) : LoopEvent → List ErrorOp
  | .cycle nowMs reply => (sys.access nowMs reply).reports
  | .recovery true => [.i2cRecovery true, .markRecoveryDone]
  | .recovery false => [.i2cRecovery false]
  | .frame frame => frame.reports
  | .uartOverflow => [.uartOverflow]
  | .save true => [.flashSaveSuccess]
  | .save false => [.flashSaveFailure]
  | .check => [.process]
  | .supplyVoltage _ => []

@[simp] theorem runLoop_nil (sys : System D) : sys.runLoop [] = sys := rfl

@[simp] theorem runLoop_cons
    (sys : System D)
    (event : LoopEvent)
    (events : List LoopEvent) :
    sys.runLoop (event :: events) = (sys.loopStep event).runLoop events := rfl

@[simp] theorem accesses_nil (sys : System D) : sys.accesses [] = [] := rfl

@[simp] theorem accesses_cons
    (sys : System D)
    (event : LoopEvent)
    (events : List LoopEvent) :
    sys.accesses (event :: events) =
      sys.loopAccess event :: (sys.loopStep event).accesses events := rfl

theorem runLoop_append
    (sys : System D)
    (first second : List LoopEvent) :
    sys.runLoop (first ++ second) = (sys.runLoop first).runLoop second :=
  Transition.run_append loopStep sys first second

theorem accesses_append
    (sys : System D)
    (first second : List LoopEvent) :
    sys.accesses (first ++ second) =
      sys.accesses first ++ (sys.runLoop first).accesses second :=
  Transition.outputs_append loopStep loopAccess sys first second

/-- Every action changes the error manager by its reports. -/
theorem loopStep_errors
    (sys : System D)
    (event : LoopEvent) :
    (sys.loopStep event).device.errors =
      sys.device.errors.applyAll (sys.loopReports event) := by
  cases event with
  | cycle nowMs reply => exact sys.process_errors nowMs reply
  | frame frame => exact Device.frameStep_errors sys.device frame
  | recovery success | save success =>
      cases success <;>
        simp [loopStep, loopReports, withErrors, ErrorManager.apply]
  | uartOverflow | check =>
      simp [loopStep, loopReports, withErrors, ErrorManager.apply]
  | supplyVoltage value => rfl

/-- Only an access moves the sensor service. -/
theorem loopStep_state
    (sys : System D)
    (event : LoopEvent) :
    (sys.loopStep event).service.state =
      (sys.loopAccess event).nextState sys.service.state := by
  cases event with
  | cycle nowMs reply => exact sys.process_state nowMs reply
  | save success => cases success <;> rfl
  | recovery | frame | uartOverflow | check | supplyVoltage => rfl

@[simp] theorem loopStep_recovery_service
    (sys : System D)
    (success : Bool) :
    (sys.loopStep (.recovery success)).service = sys.service := rfl

omit [DoubleArith D] in
theorem state_of_loopAccess_isTrigger
    {sys : System D}
    {event : LoopEvent}
    (isTrigger : (sys.loopAccess event).isTrigger = true) :
    sys.service.state = .trigger := by
  cases event with
  | cycle nowMs reply => exact state_of_isTrigger isTrigger
  | recovery | frame | uartOverflow | save | check | supplyVoltage =>
      exact absurd isTrigger (by simp [loopAccess, Access.isTrigger])

/-- The error manager after `Application::initialize`. -/
theorem started_errors
    (imageBytes : SettingsStruct → SensorStruct D → List UInt8)
    (flashData : Option (FlashConfig D))
    (watchdogReset : Bool)
    (dev : Device D) :
    (started imageBytes flashData watchdogReset dev).device.errors =
      ErrorManager.initialized.applyAll
        (if watchdogReset then [.watchdogReset] else []) := by
  rw [started, Device.started, Device.initialized_errors]
  cases watchdogReset <;> rfl

end System

end SensorFirmware
