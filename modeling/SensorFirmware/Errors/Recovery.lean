import SensorFirmware.Errors.ErrorOps

/-!
# After a successful bus recovery

A successful recovery clears the bus error counters but not the count of
consecutive sensor read failures, and `process` recomputes the request from both.
The request stays down exactly when fewer than three sensor reads have failed in
a row.
-/

namespace SensorFirmware

open Streak

namespace ErrorOp

/-- The call reports a failure. -/
def reportsFailure : ErrorOp → Bool
  | .i2cError _ => true
  | .sensorReadFailure => true
  | .crcError => true
  | .uartOverflow => true
  | .i2cRecovery success => !success
  | .watchdogReset => true
  | .flashSaveFailure => true
  | _ => false

end ErrorOp

namespace ErrorManager

/-- What the main loop does after a bus recovery that succeeded. -/
def recovered (errors : ErrorManager) : ErrorManager :=
  (errors.reportI2cRecovery true).markRecoveryDone

/-- No request is up, and no counter asks for one. -/
structure Quiet (errors : ErrorManager) : Prop where
  noRequest : errors.recoveryRequested = false
  noTimeout : errors.timeoutCount = 0
  noBusError : errors.busErrorCount = 0
  fewReadFailures : errors.consecutiveSensorReadFailCount < sensorFailThreshold

/-- A call that reports no failure raises no request. -/
theorem Quiet.apply
    {errors : ErrorManager}
    (quiet : errors.Quiet)
    {operation : ErrorOp}
    (noFailure : operation.reportsFailure = false) :
    (errors.apply operation).Quiet := by
  obtain ⟨noRequest, noTimeout, noBusError, fewReadFailures⟩ := quiet
  have noNeed : errors.needsRecovery = false := by
    simp [needsRecovery, noTimeout, noBusError, fewReadFailures,
      i2cRecoveryThreshold]
  cases operation with
  | process =>
      constructor <;>
        simp [ErrorManager.apply, process_eq, noRequest, noTimeout, noBusError,
          fewReadFailures, noNeed]
  | i2cRecovery success =>
      have succeeded : success = true := by
        simpa [ErrorOp.reportsFailure] using noFailure
      subst succeeded
      constructor <;>
        simp [ErrorManager.apply, reportI2cRecovery_eq, process_eq, counted,
          needsRecovery, i2cRecoveryThreshold, fewReadFailures]
  | i2cSuccess | validModbusFrame | flashSaveSuccess | clearRecoveryRequest
  | markRecoveryDone =>
      constructor <;>
        simp [ErrorManager.apply, reportI2cSuccess, reportValidModbusFrame,
          reportFlashSaveSuccess, clearRecoveryRequest, markRecoveryDone,
          noRequest, noTimeout, noBusError, fewReadFailures]
  | sensorReadSuccess =>
      have cleared : (0 : UInt8) < sensorFailThreshold := by decide
      exact ⟨noRequest, noTimeout, noBusError, cleared⟩
  | i2cError | sensorReadFailure | crcError | uartOverflow | watchdogReset
  | flashSaveFailure => exact absurd noFailure (by simp [ErrorOp.reportsFailure])

/-- Any number of calls that report no failure raises no request. -/
theorem Quiet.applyAll
    {errors : ErrorManager}
    (quiet : errors.Quiet)
    (later : List ErrorOp)
    (noFailure : ∀ operation ∈ later, operation.reportsFailure = false) :
    (errors.applyAll later).Quiet := by
  induction later generalizing errors with
  | nil => exact quiet
  | cons operation later inductionHypothesis =>
      rw [List.forall_mem_cons] at noFailure
      rw [applyAll_cons]
      exact inductionHypothesis (quiet.apply noFailure.1) noFailure.2

/-- The main loop's handling takes the request down and clears the bus error
counters, but keeps the count of failed sensor reads. -/
theorem recovered_eq (errors : ErrorManager) :
    errors.recovered.recoveryRequested = false ∧
      errors.recovered.timeoutCount = 0 ∧
      errors.recovered.busErrorCount = 0 ∧
      errors.recovered.consecutiveSensorReadFailCount =
        errors.consecutiveSensorReadFailCount := by
  simp [recovered, reportI2cRecovery_eq, markRecoveryDone, process_eq, counted]

/-- The next `process` repeats the request exactly when three sensor reads have
failed since the last one that succeeded. -/
theorem process_recovered_iff (operations : List ErrorOp) :
    (initialized.applyAll operations).recovered.process.recoveryRequested = true ↔
      3 ≤ streak (· == .sensorReadFailure) (· == .sensorReadSuccess) operations := by
  have counted := (applyAll_counts operations).consecutiveSensorReadFail
  have threshold : sensorFailThreshold.toNat = 3 := rfl
  obtain ⟨noRequest, noTimeout, noBusError, sameCount⟩ :=
    recovered_eq (initialized.applyAll operations)
  have noBus : ¬ i2cRecoveryThreshold ≤ (0 : UInt8) + 0 := by decide
  simp only [process_eq, needsRecovery, noRequest, noTimeout, noBusError, noBus,
    sameCount, Bool.false_or, decide_false, decide_eq_true_eq,
    UInt8.le_iff_toNat_le, counted, threshold]
  omega

/-- After the handling of a successful recovery no call that reports no failure
raises the request again exactly when fewer than three sensor reads have failed
since the last one that succeeded. -/
theorem recovered_stays_quiet_iff (operations : List ErrorOp) :
    (∀ later, (∀ operation ∈ later, operation.reportsFailure = false) →
        ((initialized.applyAll operations).recovered.applyAll
          later).recoveryRequested = false) ↔
      streak (· == .sensorReadFailure) (· == .sensorReadSuccess) operations < 3 := by
  have repeats := process_recovered_iff operations
  constructor
  · intro quiet
    have after := quiet [.process] (by simp [ErrorOp.reportsFailure])
    have notRepeated :
        ¬ (initialized.applyAll operations).recovered.process.recoveryRequested =
          true := by
      simpa [apply] using after
    rw [repeats] at notRepeated
    omega
  · intro few later noFailure
    obtain ⟨noRequest, noTimeout, noBusError, sameCount⟩ :=
      recovered_eq (initialized.applyAll operations)
    have counted := (applyAll_counts operations).consecutiveSensorReadFail
    have start : (initialized.applyAll operations).recovered.Quiet := by
      refine ⟨noRequest, noTimeout, noBusError, ?_⟩
      have threshold : sensorFailThreshold.toNat = 3 := rfl
      rw [sameCount, UInt8.lt_iff_toNat_lt, counted, threshold]
      omega
    exact (start.applyAll later noFailure).noRequest

/-- Three failed sensor reads and a recovery that succeeded: the next `process`
asks for another recovery. -/
theorem recovery_requested_again :
    ((initialized.applyAll
        [.sensorReadFailure, .sensorReadFailure, .sensorReadFailure]).recovered.applyAll
      [.process]).recoveryRequested = true := by
  have again := (process_recovered_iff
    [.sensorReadFailure, .sensorReadFailure, .sensorReadFailure]).mpr (by decide)
  rwa [applyAll_singleton, apply]

end ErrorManager

end SensorFirmware
