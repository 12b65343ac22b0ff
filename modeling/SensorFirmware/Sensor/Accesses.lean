import SensorFirmware.Modbus.Diagnostics
import SensorFirmware.Sensor.SensorService

/-!
# Sensor accesses

One call of `SensorService::process` accesses the sensor at most once.  The
access says how the service goes on and what it reports to the error manager.
The other actions of the main loop leave the service alone, so the error manager
of a run is determined by the accesses and by the reports of those actions.
-/

namespace SensorFirmware

/-- How one call of `process` uses the sensor. -/
inductive Access
  /-- Neither a trigger nor a read is due. -/
  | idle
  | triggered
  | triggerFailed (status : I2cStatus)
  | readFailed (status : I2cStatus)
  /-- The read succeeded with a raw word that is out of range. -/
  | rejected
  | accepted
  deriving DecidableEq

namespace Access

/-- The reports of an access to the error manager, in order. -/
def reports : Access → List ErrorOp
  | .idle => []
  | .triggered => [.i2cSuccess]
  | .triggerFailed status => [.i2cError status]
  | .readFailed status => [.i2cError status, .sensorReadFailure]
  | .rejected => [.i2cSuccess, .sensorReadFailure]
  | .accepted => [.i2cSuccess, .sensorReadSuccess]

/-- The access is a call of `triggerMeasurement`. -/
def isTrigger : Access → Bool
  | .triggered | .triggerFailed _ => true
  | _ => false

/-- The access is a call of `readMeasurement`. -/
def isRead : Access → Bool
  | .readFailed _ | .rejected | .accepted => true
  | _ => false

/-- The state of the service after an access. -/
def nextState (state : SensorState) : Access → SensorState
  | .idle => state
  | .triggered => .read
  | _ => .trigger

end Access

namespace System

/-- The access of a call of `process`. -/
def access (sys : System D) (nowMs : UInt32) (reply : I2cReply) : Access :=
  match sys.service.state with
  | .trigger =>
      if (nowMs - sys.service.nextTriggerTimeMs).toInt32 < 0 then .idle
      else if reply.triggerStatus = .ok then .triggered
      else .triggerFailed reply.triggerStatus
  | .read =>
      if nowMs - sys.service.measurementStartMs < measureDelayMs then .idle
      else
        match Sht3xSensor.readMeasurement reply with
        | .error status => .readFailed status
        | .ok (rawTemperature, rawHumidity) =>
            if SensorService.OutOfRange rawTemperature rawHumidity then .rejected
            else .accepted

/-- The possible calls of `process`: the guards, the access and the system
afterwards. -/
inductive Cycle (sys : System D) (nowMs : UInt32) (reply : I2cReply) :
    Access → System D → Prop
  | earlyTrigger
      (state : sys.service.state = .trigger)
      (early : (nowMs - sys.service.nextTriggerTimeMs).toInt32 < 0) :
      Cycle sys nowMs reply .idle sys
  | triggered
      (state : sys.service.state = .trigger)
      (due : ¬ (nowMs - sys.service.nextTriggerTimeMs).toInt32 < 0)
      (ok : reply.triggerStatus = .ok) :
      Cycle sys nowMs reply .triggered
        { sys.withErrors sys.device.errors.reportI2cSuccess with
          service := { sys.service with measurementStartMs := nowMs, state := .read } }
  | triggerFailed
      (state : sys.service.state = .trigger)
      (due : ¬ (nowMs - sys.service.nextTriggerTimeMs).toInt32 < 0)
      (failed : reply.triggerStatus ≠ .ok) :
      Cycle sys nowMs reply (.triggerFailed reply.triggerStatus)
        { sys.withErrors (sys.device.errors.reportI2cError reply.triggerStatus) with
          service :=
            sys.service.retry nowMs (if reply.triggerStatus = .busError then 50 else 100) }
  | earlyRead
      (state : sys.service.state = .read)
      (early : nowMs - sys.service.measurementStartMs < measureDelayMs) :
      Cycle sys nowMs reply .idle sys
  | readFailed
      (state : sys.service.state = .read)
      (waited : ¬ nowMs - sys.service.measurementStartMs < measureDelayMs)
      (status : I2cStatus)
      (failed : Sht3xSensor.readMeasurement reply = .error status) :
      Cycle sys nowMs reply (.readFailed status) (sys.failRead nowMs status)
  | rejected
      (state : sys.service.state = .read)
      (waited : ¬ nowMs - sys.service.measurementStartMs < measureDelayMs)
      (rawTemperature rawHumidity : UInt16)
      (reading : Sht3xSensor.readMeasurement reply = .ok (rawTemperature, rawHumidity))
      (outOfRange : SensorService.OutOfRange rawTemperature rawHumidity) :
      Cycle sys nowMs reply .rejected (sys.rejectReading nowMs rawTemperature rawHumidity)
  | accepted
      (rawTemperature rawHumidity : UInt16)
      (accepts : sys.Accepts nowMs reply rawTemperature rawHumidity) :
      Cycle sys nowMs reply .accepted (sys.acceptReading nowMs rawTemperature rawHumidity)

/-- Every call is one of the possible calls. -/
theorem process_cycle
    (sys : System D)
    (nowMs : UInt32)
    (reply : I2cReply) :
    sys.Cycle nowMs reply (sys.access nowMs reply) (sys.process nowMs reply) := by
  cases state : sys.service.state with
  | trigger =>
      simp only [access, process, state, handleTriggerState]
      split
      case isTrue early => exact .earlyTrigger state early
      case isFalse due =>
          split
          case isTrue ok => exact .triggered state due ok
          case isFalse failed => exact .triggerFailed state due failed
  | read =>
      simp only [access, process, state, handleReadState]
      split
      case isTrue early => exact .earlyRead state early
      case isFalse waited =>
          cases reading : Sht3xSensor.readMeasurement reply with
          | error status => exact .readFailed state waited status reading
          | ok raw =>
              obtain ⟨rawTemperature, rawHumidity⟩ := raw
              by_cases outOfRange : SensorService.OutOfRange rawTemperature rawHumidity
              · simp only [if_pos outOfRange]
                exact .rejected state waited _ _ reading outOfRange
              · simp only [if_neg outOfRange]
                exact .accepted _ _ ⟨state, waited, reading, outOfRange⟩

/-- The error manager sees the reports of the access. -/
theorem process_errors
    (sys : System D)
    (nowMs : UInt32)
    (reply : I2cReply) :
    (sys.process nowMs reply).device.errors =
      sys.device.errors.applyAll (sys.access nowMs reply).reports := by
  have cycle := sys.process_cycle nowMs reply
  generalize sys.access nowMs reply = access, sys.process nowMs reply = after at cycle ⊢
  cases cycle with
  | accepted rawTemperature rawHumidity =>
      rw [acceptReading, Device.updateModbus_project _ _ _ (·.errors) fun _ _ => rfl]
      simp only [Access.reports, ErrorManager.applyAll_cons, ErrorManager.applyAll_nil,
        ErrorManager.apply, withErrors]
  | earlyTrigger | triggered | triggerFailed | earlyRead | readFailed | rejected =>
      simp only [Access.reports, ErrorManager.applyAll_cons, ErrorManager.applyAll_nil,
        ErrorManager.apply, failRead, rejectReading, withErrors]

/-- A trigger leads to a read, and every other access back to a trigger. -/
theorem process_state
    (sys : System D)
    (nowMs : UInt32)
    (reply : I2cReply) :
    (sys.process nowMs reply).service.state =
      (sys.access nowMs reply).nextState sys.service.state := by
  have cycle := sys.process_cycle nowMs reply
  generalize sys.access nowMs reply = access, sys.process nowMs reply = after at cycle ⊢
  cases cycle with
  | earlyTrigger | triggered | triggerFailed | earlyRead | readFailed | rejected => rfl
  | accepted => rw [acceptReading_service]; rfl

/-- The sensor is triggered in the trigger state only. -/
theorem state_of_isTrigger
    {sys : System D}
    {nowMs : UInt32}
    {reply : I2cReply}
    (isTrigger : (sys.access nowMs reply).isTrigger = true) :
    sys.service.state = .trigger := by
  have cycle := sys.process_cycle nowMs reply
  generalize sys.access nowMs reply = access, sys.process nowMs reply = after
    at cycle isTrigger
  cases cycle with
  | earlyTrigger state | triggered state | triggerFailed state => exact state
  | earlyRead | readFailed | rejected | accepted =>
      exact absurd isTrigger Bool.false_ne_true

/-- The sensor is read in the read state only. -/
theorem state_of_isRead
    {sys : System D}
    {nowMs : UInt32}
    {reply : I2cReply}
    (isRead : (sys.access nowMs reply).isRead = true) :
    sys.service.state = .read := by
  have cycle := sys.process_cycle nowMs reply
  generalize sys.access nowMs reply = access, sys.process nowMs reply = after
    at cycle isRead
  cases cycle with
  | earlyTrigger | triggered | triggerFailed => exact absurd isRead Bool.false_ne_true
  | earlyRead state | readFailed state | rejected state => exact state
  | accepted _ _ accepts => exact accepts.1

end System

end SensorFirmware
