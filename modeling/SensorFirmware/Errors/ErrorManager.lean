/-!
# Error manager

Counters of bus, sensor, UART and flash failures, the recovery request and the
latched fatal fault.
-/

namespace SensorFirmware

/-- Result of an I2C transaction. -/
inductive I2cStatus
  | ok
  | timeout
  | nack
  | busError
  | invalidArgument
  deriving DecidableEq

/-- Increment a byte counter that stops at its largest value. -/
def incrementSaturated (value : UInt8) : UInt8 :=
  if value < 255 then value + 1 else value

/-- State of the error manager. -/
structure ErrorManager where
  timeoutCount : UInt8
  nackCount : UInt8
  busErrorCount : UInt8
  crcCount : UInt8
  sensorReadFailCount : UInt8
  uartOverflowCount : UInt8
  i2cRecoveryCount : UInt8
  watchdogResetCount : UInt8
  flashSaveFailCount : UInt8
  consecutiveSensorReadFailCount : UInt8
  consecutiveUartOverflowCount : UInt8
  consecutiveI2cRecoveryFailCount : UInt8
  consecutiveFlashSaveFailCount : UInt8
  recoveryRequested : Bool
  recoveryDone : Bool
  fatalFault : Bool
  deriving DecidableEq

namespace ErrorManager

def i2cRecoveryThreshold : UInt8 := 3
def sensorFailThreshold : UInt8 := 3
def uartOverflowThreshold : UInt8 := 5
def i2cRecoveryFailThreshold : UInt8 := 2
def flashSaveFailThreshold : UInt8 := 3

/-- The state that the constructor and `initialize` leave. -/
def initialized : ErrorManager where
  timeoutCount := 0
  nackCount := 0
  busErrorCount := 0
  crcCount := 0
  sensorReadFailCount := 0
  uartOverflowCount := 0
  i2cRecoveryCount := 0
  watchdogResetCount := 0
  flashSaveFailCount := 0
  consecutiveSensorReadFailCount := 0
  consecutiveUartOverflowCount := 0
  consecutiveI2cRecoveryFailCount := 0
  consecutiveFlashSaveFailCount := 0
  recoveryRequested := false
  recoveryDone := false
  fatalFault := false

/-- Raise the recovery request and the fatal fault from the counters. -/
def process (errors : ErrorManager) : ErrorManager :=
  -- the sum is narrowed to `uint8_t` before it is compared
  let severeI2cCount := errors.timeoutCount + errors.busErrorCount
  let errors :=
    if i2cRecoveryThreshold ≤ severeI2cCount then
      { errors with recoveryRequested := true }
    else errors
  let errors :=
    if sensorFailThreshold ≤ errors.consecutiveSensorReadFailCount then
      { errors with recoveryRequested := true }
    else errors
  let errors :=
    if i2cRecoveryFailThreshold ≤ errors.consecutiveI2cRecoveryFailCount then
      { errors with fatalFault := true }
    else errors
  let errors :=
    if uartOverflowThreshold ≤ errors.consecutiveUartOverflowCount then
      { errors with fatalFault := true }
    else errors
  if flashSaveFailThreshold ≤ errors.consecutiveFlashSaveFailCount then
    { errors with fatalFault := true }
  else errors

def reportI2cSuccess (errors : ErrorManager) : ErrorManager :=
  { errors with
    timeoutCount := 0
    nackCount := 0
    busErrorCount := 0
    consecutiveI2cRecoveryFailCount := 0 }

def reportI2cError (errors : ErrorManager) (status : I2cStatus) : ErrorManager :=
  let errors :=
    match status with
    | .timeout =>
        { errors with timeoutCount := incrementSaturated errors.timeoutCount }
    | .nack =>
        { errors with nackCount := incrementSaturated errors.nackCount }
    | .busError =>
        { errors with busErrorCount := incrementSaturated errors.busErrorCount }
    | _ => errors
  errors.process

def reportSensorReadFailure (errors : ErrorManager) : ErrorManager :=
  process
    { errors with
      sensorReadFailCount := incrementSaturated errors.sensorReadFailCount
      consecutiveSensorReadFailCount :=
        incrementSaturated errors.consecutiveSensorReadFailCount }

def reportSensorReadSuccess (errors : ErrorManager) : ErrorManager :=
  { errors with consecutiveSensorReadFailCount := 0 }

def reportCrcError (errors : ErrorManager) : ErrorManager :=
  { errors with crcCount := incrementSaturated errors.crcCount }

def reportValidModbusFrame (errors : ErrorManager) : ErrorManager :=
  { errors with consecutiveUartOverflowCount := 0 }

def reportUartOverflow (errors : ErrorManager) : ErrorManager :=
  process
    { errors with
      uartOverflowCount := incrementSaturated errors.uartOverflowCount
      consecutiveUartOverflowCount :=
        incrementSaturated errors.consecutiveUartOverflowCount }

def reportI2cRecovery (errors : ErrorManager) (success : Bool) : ErrorManager :=
  let errors :=
    { errors with i2cRecoveryCount := incrementSaturated errors.i2cRecoveryCount }
  let errors :=
    if success then
      { errors with
        timeoutCount := 0
        busErrorCount := 0
        consecutiveI2cRecoveryFailCount := 0
        recoveryRequested := false
        recoveryDone := true }
    else
      { errors with
        consecutiveI2cRecoveryFailCount :=
          incrementSaturated errors.consecutiveI2cRecoveryFailCount }
  errors.process

def reportWatchdogReset (errors : ErrorManager) : ErrorManager :=
  { errors with watchdogResetCount := incrementSaturated errors.watchdogResetCount }

def reportFlashSaveFailure (errors : ErrorManager) : ErrorManager :=
  process
    { errors with
      flashSaveFailCount := incrementSaturated errors.flashSaveFailCount
      consecutiveFlashSaveFailCount :=
        incrementSaturated errors.consecutiveFlashSaveFailCount }

def reportFlashSaveSuccess (errors : ErrorManager) : ErrorManager :=
  { errors with consecutiveFlashSaveFailCount := 0 }

def clearRecoveryRequest (errors : ErrorManager) : ErrorManager :=
  { errors with recoveryRequested := false }

def markRecoveryDone (errors : ErrorManager) : ErrorManager :=
  { errors with recoveryDone := true, recoveryRequested := false }

def systemHealthy (errors : ErrorManager) : Bool := !errors.fatalFault

def shouldFeedWatchdog (errors : ErrorManager) : Bool := errors.systemHealthy

end ErrorManager

end SensorFirmware
