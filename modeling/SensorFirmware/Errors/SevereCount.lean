import SensorFirmware.Errors.ErrorOps

/-!
# The severe bus error count

`process` adds the timeouts and the bus errors and narrows the sum to a byte.
Both counters stop at 255, so the sum can pass 255 and come back below the
recovery threshold.  Over every run the request is up after `process` whenever
enough errors are counted, except where the sum lies from 256 to 258 and nothing
else raises the request.
-/

namespace SensorFirmware

open Streak

/-- The calls that change an error manager, `initialize` included. -/
inductive ErrorCall
  | initializeManager
  | call (operation : ErrorOp)
  deriving DecidableEq

namespace ErrorOp

/-- The call clears the timeouts and the bus errors. -/
def clearsBusErrors (operation : ErrorOp) : Bool :=
  operation == .i2cSuccess || operation == .i2cRecovery true

end ErrorOp

namespace ErrorManager

/-- Timeouts and bus errors since the counters were cleared. -/
def severeCount (errors : ErrorManager) : Nat :=
  errors.timeoutCount.toNat + errors.busErrorCount.toNat

/-- The state after one call. -/
def applyCall (errors : ErrorManager) : ErrorCall → ErrorManager
  | .initializeManager => initialized
  | .call operation => errors.apply operation

/-- The state that the constructor and a list of calls leave. -/
def reached (calls : List ErrorCall) : ErrorManager :=
  Transition.run applyCall initialized calls

/-- The operations that still matter after one more call. -/
def remember (operations : List ErrorOp) : ErrorCall → List ErrorOp
  | .initializeManager => []
  | .call operation => operations ++ [operation]

/-- The operations since the last `initialize`, the oldest first. -/
def sinceInitialize (calls : List ErrorCall) : List ErrorOp :=
  Transition.run remember [] calls

@[simp] theorem reached_append_singleton
    (calls : List ErrorCall)
    (call : ErrorCall) :
    reached (calls ++ [call]) = (reached calls).applyCall call := by
  rw [reached, Transition.run_append, Transition.run_cons, Transition.run_nil, reached]

@[simp] theorem sinceInitialize_append_singleton
    (calls : List ErrorCall)
    (call : ErrorCall) :
    sinceInitialize (calls ++ [call]) = remember (sinceInitialize calls) call := by
  rw [sinceInitialize, Transition.run_append, Transition.run_cons,
    Transition.run_nil, sinceInitialize]

/-- Only the operations since the last `initialize` matter. -/
theorem reached_eq (calls : List ErrorCall) :
    reached calls = initialized.applyAll (sinceInitialize calls) := by
  induction calls using List.reverseRecOn with
  | nil => rfl
  | append_singleton calls call inductionHypothesis =>
      rw [reached_append_singleton, sinceInitialize_append_singleton]
      cases call with
      | initializeManager => rfl
      | call operation =>
          rw [remember, applyAll_append, applyAll_singleton, applyCall,
            inductionHypothesis]

/-- A call counts its own bus error and clears both counts on success. -/
theorem apply_busErrorCounts
    (errors : ErrorManager)
    (operation : ErrorOp) :
    (errors.apply operation).timeoutCount =
        counted errors.timeoutCount
          (operation == .i2cError .timeout) operation.clearsBusErrors ∧
      (errors.apply operation).busErrorCount =
        counted errors.busErrorCount
          (operation == .i2cError .busError) operation.clearsBusErrors := by
  cases operation with
  | i2cError status =>
      constructor <;>
        simp [apply, reportI2cError_eq, process_eq, counted, ErrorOp.clearsBusErrors]
  | i2cRecovery success =>
      cases success <;> constructor <;>
        simp [apply, reportI2cRecovery_eq, process_eq, counted,
          ErrorOp.clearsBusErrors]
  | process | sensorReadFailure | uartOverflow | flashSaveFailure =>
      constructor <;>
        simp [apply, reportSensorReadFailure, reportUartOverflow,
          reportFlashSaveFailure, process_eq, counted, ErrorOp.clearsBusErrors]
  | i2cSuccess | sensorReadSuccess | crcError | validModbusFrame
  | watchdogReset | flashSaveSuccess | clearRecoveryRequest
  | markRecoveryDone =>
      constructor <;>
        simp [apply, reportI2cSuccess, reportSensorReadSuccess, reportCrcError,
          reportValidModbusFrame, reportWatchdogReset, reportFlashSaveSuccess,
          clearRecoveryRequest, markRecoveryDone, counted,
          ErrorOp.clearsBusErrors]

/-- The two counts are the reports since the last success of the bus, each
stopped at 255. -/
theorem severeCount_reached (calls : List ErrorCall) :
    (reached calls).severeCount =
      min 255 (streak (· == .i2cError .timeout) ErrorOp.clearsBusErrors
          (sinceInitialize calls)) +
        min 255 (streak (· == .i2cError .busError) ErrorOp.clearsBusErrors
          (sinceInitialize calls)) := by
  rw [severeCount, reached_eq,
    counter_applyAll timeoutCount rfl
      (fun errors operation => (apply_busErrorCounts errors operation).1),
    counter_applyAll busErrorCount rfl
      (fun errors operation => (apply_busErrorCounts errors operation).2)]

/-- With enough errors counted, `process` leaves a recovery request. -/
def RequestsWhenSevere (errors : ErrorManager) : Prop :=
  i2cRecoveryThreshold.toNat ≤ errors.severeCount →
    errors.process.recoveryRequested = true

/-- The narrowed sum misses the threshold exactly below it and just above 255. -/
theorem narrowedSum_iff (errors : ErrorManager) :
    i2cRecoveryThreshold ≤ errors.timeoutCount + errors.busErrorCount ↔
      3 ≤ errors.severeCount ∧
        ¬ (256 ≤ errors.severeCount ∧ errors.severeCount ≤ 258) := by
  have threshold : i2cRecoveryThreshold.toNat = 3 := rfl
  have timeouts := errors.timeoutCount.toNat_lt
  have busErrors := errors.busErrorCount.toNat_lt
  rw [UInt8.le_iff_toNat_le, UInt8.toNat_add, threshold, severeCount]
  omega

theorem process_recoveryRequested_iff (errors : ErrorManager) :
    errors.process.recoveryRequested = true ↔
      errors.recoveryRequested = true ∨
        3 ≤ errors.severeCount ∧
          ¬ (256 ≤ errors.severeCount ∧ errors.severeCount ≤ 258) ∨
        sensorFailThreshold ≤ errors.consecutiveSensorReadFailCount := by
  rw [process_eq, Bool.or_eq_true, needsRecovery, Bool.or_eq_true,
    decide_eq_true_eq, decide_eq_true_eq, narrowedSum_iff]

/-- The request is up after `process` whenever enough errors are counted exactly
when the sum does not lie from 256 to 258 or something else raises it. -/
theorem requestsWhenSevere_iff (errors : ErrorManager) :
    errors.RequestsWhenSevere ↔
      ¬ (256 ≤ errors.severeCount ∧ errors.severeCount ≤ 258) ∨
        errors.recoveryRequested = true ∨
        sensorFailThreshold ≤ errors.consecutiveSensorReadFailCount := by
  have threshold : i2cRecoveryThreshold.toNat = 3 := rfl
  rw [RequestsWhenSevere, process_recoveryRequested_iff, threshold]
  constructor
  · intro requests
    by_contra none
    rw [not_or, not_or, not_not] at none
    obtain ⟨between, noRequest, fewFailures⟩ := none
    have severe : 3 ≤ errors.severeCount := by omega
    rcases requests severe with request | ⟨-, outside⟩ | failures
    · exact noRequest request
    · exact outside between
    · exact fewFailures failures
  · rintro (outside | request | failures) severe
    · exact .inr (.inl ⟨severe, outside⟩)
    · exact .inl request
    · exact .inr (.inr failures)

/-- Every state that a run reaches keeps the request with enough errors counted
exactly when the sum does not lie from 256 to 258 or something else raises it. -/
theorem reached_requestsWhenSevere_iff (calls : List ErrorCall) :
    (reached calls).RequestsWhenSevere ↔
      ¬ (256 ≤ (reached calls).severeCount ∧ (reached calls).severeCount ≤ 258) ∨
        (reached calls).recoveryRequested = true ∨
        sensorFailThreshold ≤ (reached calls).consecutiveSensorReadFailCount :=
  requestsWhenSevere_iff (reached calls)

/-- 128 timeouts and 128 bus errors, then the request is cleared. -/
def manyErrors : List ErrorCall :=
  List.replicate 128 (.call (.i2cError .timeout)) ++
    List.replicate 128 (.call (.i2cError .busError)) ++
    [.call .clearRecoveryRequest]

/-- Here `process` does not raise the request again. -/
theorem process_forgets_request : ¬ (reached manyErrors).RequestsWhenSevere := by
  have count : (reached manyErrors).severeCount = 256 := by
    rw [severeCount_reached]
    decide +kernel
  have noRequest : (reached manyErrors).recoveryRequested = false := by
    rw [manyErrors, reached_append_singleton]
    rfl
  have noFailure : (reached manyErrors).consecutiveSensorReadFailCount.toNat = 0 := by
    rw [reached_eq, (applyAll_counts _).consecutiveSensorReadFail]
    decide +kernel
  have threshold : sensorFailThreshold.toNat = 3 := rfl
  rw [requestsWhenSevere_iff, count, noRequest, UInt8.le_iff_toNat_le, noFailure,
    threshold]
  decide

/-- A run that reports fewer than 256 timeouts and bus errors since the last
success of the bus never loses the request. -/
theorem reached_requestsWhenSevere_of_few
    (calls : List ErrorCall)
    (few : streak (· == .i2cError .timeout) ErrorOp.clearsBusErrors
          (sinceInitialize calls) +
        streak (· == .i2cError .busError) ErrorOp.clearsBusErrors
          (sinceInitialize calls) < 256) :
    (reached calls).RequestsWhenSevere := by
  rw [requestsWhenSevere_iff, severeCount_reached]
  left
  omega

end ErrorManager

end SensorFirmware
