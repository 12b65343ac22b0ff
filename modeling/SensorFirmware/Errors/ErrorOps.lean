import SensorFirmware.Errors.ErrorManager
import SensorFirmware.Library.Streak
import SensorFirmware.Library.Transition

/-!
# Runs of error manager operations

The calls that change an error manager form a step function.  Over a run from
the initial state each counter is the number of its reports, stopped at 255, and
each consecutive counter is the streak of its reports since the calls that clear
it.
-/

namespace SensorFirmware

/-- The calls that change an error manager, `initialize` apart. -/
inductive ErrorOp
  | process
  | i2cSuccess
  | i2cError (status : I2cStatus)
  | sensorReadFailure
  | sensorReadSuccess
  | crcError
  | validModbusFrame
  | uartOverflow
  | i2cRecovery (success : Bool)
  | watchdogReset
  | flashSaveFailure
  | flashSaveSuccess
  | clearRecoveryRequest
  | markRecoveryDone
  deriving DecidableEq

theorem incrementSaturated_toNat (value : UInt8) :
    (incrementSaturated value).toNat = min 255 (value.toNat + 1) := by
  have small := value.toNat_lt
  unfold incrementSaturated
  split
  case isTrue room =>
    have below : value.toNat < 255 := room
    rw [UInt8.toNat_add]
    have one : (1 : UInt8).toNat = 1 := rfl
    omega
  case isFalse full =>
    have top : ¬ value.toNat < 255 := full
    omega

namespace ErrorManager

/-- The state after one call. -/
def apply (errors : ErrorManager) : ErrorOp → ErrorManager
  | .process => errors.process
  | .i2cSuccess => errors.reportI2cSuccess
  | .i2cError status => errors.reportI2cError status
  | .sensorReadFailure => errors.reportSensorReadFailure
  | .sensorReadSuccess => errors.reportSensorReadSuccess
  | .crcError => errors.reportCrcError
  | .validModbusFrame => errors.reportValidModbusFrame
  | .uartOverflow => errors.reportUartOverflow
  | .i2cRecovery success => errors.reportI2cRecovery success
  | .watchdogReset => errors.reportWatchdogReset
  | .flashSaveFailure => errors.reportFlashSaveFailure
  | .flashSaveSuccess => errors.reportFlashSaveSuccess
  | .clearRecoveryRequest => errors.clearRecoveryRequest
  | .markRecoveryDone => errors.markRecoveryDone

/-- The state after a list of calls, the first one first. -/
def applyAll (errors : ErrorManager) (operations : List ErrorOp) : ErrorManager :=
  Transition.run apply errors operations

@[simp] theorem applyAll_nil (errors : ErrorManager) :
    errors.applyAll [] = errors := rfl

@[simp] theorem applyAll_cons
    (errors : ErrorManager)
    (operation : ErrorOp)
    (operations : List ErrorOp) :
    errors.applyAll (operation :: operations) =
      (errors.apply operation).applyAll operations := rfl

theorem applyAll_singleton
    (errors : ErrorManager)
    (operation : ErrorOp) :
    errors.applyAll [operation] = errors.apply operation := rfl

theorem applyAll_append
    (errors : ErrorManager)
    (earlier later : List ErrorOp) :
    errors.applyAll (earlier ++ later) =
      (errors.applyAll earlier).applyAll later :=
  Transition.run_append apply errors earlier later

/-- A conditional request for recovery as a disjunction. -/
theorem requestIf_eq
    (errors : ErrorManager)
    (condition : Prop)
    [Decidable condition] :
    (if condition then { errors with recoveryRequested := true } else errors) =
      { errors with
        recoveryRequested := errors.recoveryRequested || decide condition } := by
  split <;> simp_all

/-- A conditional fatal fault as a disjunction. -/
theorem faultIf_eq
    (errors : ErrorManager)
    (condition : Prop)
    [Decidable condition] :
    (if condition then { errors with fatalFault := true } else errors) =
      { errors with fatalFault := errors.fatalFault || decide condition } := by
  split <;> simp_all

/-- Some counter has reached the threshold of a recovery request. -/
def needsRecovery (errors : ErrorManager) : Bool :=
  decide (i2cRecoveryThreshold ≤ errors.timeoutCount + errors.busErrorCount) ||
    decide (sensorFailThreshold ≤ errors.consecutiveSensorReadFailCount)

/-- Some counter has reached the threshold of a fatal fault. -/
def overThreshold (errors : ErrorManager) : Bool :=
  decide (i2cRecoveryFailThreshold ≤ errors.consecutiveI2cRecoveryFailCount) ||
    decide (uartOverflowThreshold ≤ errors.consecutiveUartOverflowCount) ||
    decide (flashSaveFailThreshold ≤ errors.consecutiveFlashSaveFailCount)

/-- `process` writes the recovery request and the fatal fault only. -/
theorem process_eq (errors : ErrorManager) :
    errors.process =
      { errors with
        recoveryRequested := errors.recoveryRequested || errors.needsRecovery
        fatalFault := errors.fatalFault || errors.overThreshold } := by
  unfold process
  -- the intermediate states stay named, so that each update is rewritten alone
  simp -zeta only [requestIf_eq, faultIf_eq]
  simp only [needsRecovery, overThreshold, Bool.or_assoc]

/-- A counter after a call that increments it, clears it or leaves it alone. -/
def counted (value : UInt8) (hit reset : Bool) : UInt8 :=
  if reset then 0 else if hit then incrementSaturated value else value

/-- What a call does to the counters of an error manager. -/
structure Counts
    (errors : ErrorManager)
    (operation : ErrorOp)
    (after : ErrorManager) : Prop where
  crc : after.crcCount = counted errors.crcCount (operation == .crcError) false
  sensorReadFail : after.sensorReadFailCount =
    counted errors.sensorReadFailCount (operation == .sensorReadFailure) false
  uartOverflow : after.uartOverflowCount =
    counted errors.uartOverflowCount (operation == .uartOverflow) false
  i2cRecovery : after.i2cRecoveryCount =
    counted errors.i2cRecoveryCount
      (operation == .i2cRecovery true || operation == .i2cRecovery false) false
  watchdogReset : after.watchdogResetCount =
    counted errors.watchdogResetCount (operation == .watchdogReset) false
  flashSaveFail : after.flashSaveFailCount =
    counted errors.flashSaveFailCount (operation == .flashSaveFailure) false
  consecutiveSensorReadFail : after.consecutiveSensorReadFailCount =
    counted errors.consecutiveSensorReadFailCount
      (operation == .sensorReadFailure) (operation == .sensorReadSuccess)
  consecutiveUartOverflow : after.consecutiveUartOverflowCount =
    counted errors.consecutiveUartOverflowCount
      (operation == .uartOverflow) (operation == .validModbusFrame)
  consecutiveI2cRecoveryFail : after.consecutiveI2cRecoveryFailCount =
    counted errors.consecutiveI2cRecoveryFailCount
      (operation == .i2cRecovery false)
      (operation == .i2cSuccess || operation == .i2cRecovery true)
  consecutiveFlashSaveFail : after.consecutiveFlashSaveFailCount =
    counted errors.consecutiveFlashSaveFailCount
      (operation == .flashSaveFailure) (operation == .flashSaveSuccess)

/-- An error report adds to the counter of its status. -/
theorem reportI2cError_eq
    (errors : ErrorManager)
    (status : I2cStatus) :
    errors.reportI2cError status =
      process
        { errors with
          timeoutCount := counted errors.timeoutCount (status == .timeout) false
          nackCount := counted errors.nackCount (status == .nack) false
          busErrorCount := counted errors.busErrorCount (status == .busError) false } := by
  cases status <;> rfl

/-- A recovery report clears the bus errors on success and counts the failure
otherwise. -/
theorem reportI2cRecovery_eq
    (errors : ErrorManager)
    (success : Bool) :
    errors.reportI2cRecovery success =
      process
        { errors with
          i2cRecoveryCount := incrementSaturated errors.i2cRecoveryCount
          timeoutCount := counted errors.timeoutCount false success
          busErrorCount := counted errors.busErrorCount false success
          consecutiveI2cRecoveryFailCount :=
            counted errors.consecutiveI2cRecoveryFailCount (!success) success
          recoveryRequested := !success && errors.recoveryRequested
          recoveryDone := success || errors.recoveryDone } := by
  cases success <;> rfl

/-- Each call increments the counters of its own failure and clears those that
its success ends. -/
theorem apply_counts
    (errors : ErrorManager)
    (operation : ErrorOp) :
    Counts errors operation (errors.apply operation) := by
  cases operation with
  | i2cError status =>
      constructor <;> simp [apply, reportI2cError_eq, process_eq, counted]
  | i2cRecovery success =>
      cases success <;> constructor <;>
        simp [apply, reportI2cRecovery_eq, process_eq, counted]
  | process | sensorReadFailure | uartOverflow | flashSaveFailure =>
      constructor <;>
        simp [apply, reportSensorReadFailure, reportUartOverflow,
          reportFlashSaveFailure, process_eq, counted]
  | i2cSuccess | sensorReadSuccess | crcError | validModbusFrame
  | watchdogReset | flashSaveSuccess | clearRecoveryRequest
  | markRecoveryDone =>
      constructor <;>
        simp [apply, reportI2cSuccess, reportSensorReadSuccess, reportCrcError,
          reportValidModbusFrame, reportWatchdogReset, reportFlashSaveSuccess,
          clearRecoveryRequest, markRecoveryDone, counted]

section

variable (counter : ErrorManager → UInt8) {hit reset : ErrorOp → Bool}

/-- A counter that some calls increment and some calls clear holds the streak of
the first since the last of the second, stopped at 255. -/
theorem counter_applyAll
    (empty : counter initialized = 0)
    (step : ∀ errors operation, counter (errors.apply operation) =
      counted (counter errors) (hit operation) (reset operation))
    (operations : List ErrorOp) :
    (counter (initialized.applyAll operations)).toNat =
      min 255 (Streak.streak hit reset operations) := by
  induction operations using List.reverseRecOn with
  | nil =>
      rw [applyAll_nil, empty, Streak.streak_nil]
      rfl
  | append_singleton operations operation inductionHypothesis =>
      rw [applyAll_append, applyAll_singleton, step,
        Streak.streak_append_singleton, Streak.next, counted]
      cases resets : reset operation with
      | true => simp
      | false =>
          cases hits : hit operation with
          | false => simpa using inductionHypothesis
          | true =>
              simp only [Bool.false_eq_true, if_false, if_true,
                incrementSaturated_toNat, inductionHypothesis]
              omega

/-- A counter that no call clears holds the number of its calls, stopped at
255. -/
theorem counter_applyAll_total
    (empty : counter initialized = 0)
    (step : ∀ errors operation, counter (errors.apply operation) =
      counted (counter errors) (hit operation) false)
    (operations : List ErrorOp) :
    (counter (initialized.applyAll operations)).toNat =
      min 255 (operations.countP hit) := by
  rw [counter_applyAll counter empty step operations,
    Streak.streak_of_no_reset operations fun _ _ => rfl]

end

/-- The counters that a history of calls leaves. -/
structure HistoryCounts (history : List ErrorOp) (errors : ErrorManager) : Prop where
  crc : errors.crcCount.toNat = min 255 (history.countP (· == .crcError))
  sensorReadFail : errors.sensorReadFailCount.toNat =
    min 255 (history.countP (· == .sensorReadFailure))
  uartOverflow : errors.uartOverflowCount.toNat =
    min 255 (history.countP (· == .uartOverflow))
  i2cRecovery : errors.i2cRecoveryCount.toNat =
    min 255 (history.countP fun operation =>
      operation == .i2cRecovery true || operation == .i2cRecovery false)
  watchdogReset : errors.watchdogResetCount.toNat =
    min 255 (history.countP (· == .watchdogReset))
  flashSaveFail : errors.flashSaveFailCount.toNat =
    min 255 (history.countP (· == .flashSaveFailure))
  consecutiveSensorReadFail : errors.consecutiveSensorReadFailCount.toNat =
    min 255 (Streak.streak (· == .sensorReadFailure) (· == .sensorReadSuccess) history)
  consecutiveUartOverflow : errors.consecutiveUartOverflowCount.toNat =
    min 255 (Streak.streak (· == .uartOverflow) (· == .validModbusFrame) history)
  consecutiveI2cRecoveryFail : errors.consecutiveI2cRecoveryFailCount.toNat =
    min 255
      (Streak.streak (· == .i2cRecovery false)
        (fun operation => operation == .i2cSuccess || operation == .i2cRecovery true)
        history)
  consecutiveFlashSaveFail : errors.consecutiveFlashSaveFailCount.toNat =
    min 255 (Streak.streak (· == .flashSaveFailure) (· == .flashSaveSuccess) history)

/-- After every run from the initial state the counters are those of its
history. -/
theorem applyAll_counts (history : List ErrorOp) :
    HistoryCounts history (initialized.applyAll history) where
  crc := counter_applyAll_total crcCount rfl
    (fun errors operation => (apply_counts errors operation).crc) history
  sensorReadFail := counter_applyAll_total sensorReadFailCount rfl
    (fun errors operation => (apply_counts errors operation).sensorReadFail) history
  uartOverflow := counter_applyAll_total uartOverflowCount rfl
    (fun errors operation => (apply_counts errors operation).uartOverflow) history
  i2cRecovery := counter_applyAll_total i2cRecoveryCount rfl
    (fun errors operation => (apply_counts errors operation).i2cRecovery) history
  watchdogReset := counter_applyAll_total watchdogResetCount rfl
    (fun errors operation => (apply_counts errors operation).watchdogReset) history
  flashSaveFail := counter_applyAll_total flashSaveFailCount rfl
    (fun errors operation => (apply_counts errors operation).flashSaveFail) history
  consecutiveSensorReadFail := counter_applyAll consecutiveSensorReadFailCount rfl
    (fun errors operation => (apply_counts errors operation).consecutiveSensorReadFail)
    history
  consecutiveUartOverflow := counter_applyAll consecutiveUartOverflowCount rfl
    (fun errors operation => (apply_counts errors operation).consecutiveUartOverflow)
    history
  consecutiveI2cRecoveryFail := counter_applyAll consecutiveI2cRecoveryFailCount rfl
    (fun errors operation => (apply_counts errors operation).consecutiveI2cRecoveryFail)
    history
  consecutiveFlashSaveFail := counter_applyAll consecutiveFlashSaveFailCount rfl
    (fun errors operation => (apply_counts errors operation).consecutiveFlashSaveFail)
    history

end ErrorManager

end SensorFirmware
