import SensorFirmware.Errors.ErrorOps

/-!
# Fatal fault and history

The fatal fault is latched.  It is raised when a consecutive counter reaches its
threshold, and a consecutive counter is the streak of its reports, so the fault
says that the history holds a burst of one of three kinds.
-/

namespace SensorFirmware

open Streak

namespace ErrorManager

/-- A call raises the fault exactly when it leaves a counter at its threshold. -/
theorem apply_fatalFault
    (errors : ErrorManager)
    (operation : ErrorOp)
    (latched : errors.overThreshold = true → errors.fatalFault = true) :
    (errors.apply operation).fatalFault =
      (errors.fatalFault || (errors.apply operation).overThreshold) := by
  -- a call that leaves the fault alone and no counter higher keeps the equation
  have quiet
      (after : ErrorManager)
      (sameFault : after.fatalFault = errors.fatalFault)
      (noHigher : after.overThreshold = true → errors.overThreshold = true) :
      after.fatalFault = (errors.fatalFault || after.overThreshold) := by
    rw [sameFault]
    cases reached : after.overThreshold with
    | false => simp
    | true => simp [latched (noHigher reached)]
  cases operation with
  | process | sensorReadFailure | uartOverflow | flashSaveFailure =>
      simp [apply, reportSensorReadFailure, reportUartOverflow,
        reportFlashSaveFailure, process_eq, overThreshold]
  | i2cError status => simp [apply, reportI2cError_eq, process_eq, overThreshold]
  | i2cRecovery success =>
      simp [apply, reportI2cRecovery_eq, process_eq, overThreshold]
  | sensorReadSuccess | crcError | watchdogReset | clearRecoveryRequest
  | markRecoveryDone => exact quiet _ rfl id
  | i2cSuccess | validModbusFrame | flashSaveSuccess =>
      apply quiet (errors.apply _) rfl
      simp only [apply, reportI2cSuccess, reportValidModbusFrame,
        reportFlashSaveSuccess, overThreshold, i2cRecoveryFailThreshold,
        uartOverflowThreshold, flashSaveFailThreshold]
      grind

/-- Along every run a counter at its threshold means that the fault is
latched. -/
theorem latched_applyAll (operations : List ErrorOp) :
    (initialized.applyAll operations).overThreshold = true →
      (initialized.applyAll operations).fatalFault = true := by
  refine Transition.run_invariant
    (fun errors : ErrorManager =>
      errors.overThreshold = true → errors.fatalFault = true)
    ?_ ?_ operations
  · intro errors operation latched reached
    rw [apply_fatalFault errors operation latched, reached, Bool.or_true]
  · intro reached
    exact absurd reached (by decide)

/-- A latched fault survives every call. -/
theorem fatalFault_applyAll
    (errors : ErrorManager)
    (fault : errors.fatalFault = true)
    (operations : List ErrorOp) :
    (errors.applyAll operations).fatalFault = true := by
  refine Transition.run_invariant
    (fun errors : ErrorManager => errors.fatalFault = true) ?_ fault operations
  intro errors operation fault
  rw [← fault]
  cases operation <;>
    simp [fault, apply, reportI2cSuccess, reportI2cError_eq,
      reportSensorReadFailure, reportSensorReadSuccess, reportCrcError,
      reportValidModbusFrame, reportUartOverflow, reportI2cRecovery_eq,
      reportWatchdogReset, reportFlashSaveFailure, reportFlashSaveSuccess,
      clearRecoveryRequest, markRecoveryDone, process_eq]

/-- Over a run from the initial state, a counter is at its threshold exactly when
one of the three streaks is. -/
theorem overThreshold_applyAll_iff (operations : List ErrorOp) :
    (initialized.applyAll operations).overThreshold = true ↔
      5 ≤ streak (· == .uartOverflow) (· == .validModbusFrame) operations ∨
        3 ≤ streak (· == .flashSaveFailure) (· == .flashSaveSuccess) operations ∨
        2 ≤ streak (· == .i2cRecovery false)
          (fun operation =>
            operation == .i2cSuccess || operation == .i2cRecovery true)
          operations := by
  have counts := applyAll_counts operations
  simp only [overThreshold, Bool.or_eq_true, decide_eq_true_eq,
    UInt8.le_iff_toNat_le, counts.consecutiveUartOverflow,
    counts.consecutiveFlashSaveFail, counts.consecutiveI2cRecoveryFail]
  have thresholds : uartOverflowThreshold.toNat = 5 ∧
      flashSaveFailThreshold.toNat = 3 ∧ i2cRecoveryFailThreshold.toNat = 2 :=
    ⟨rfl, rfl, rfl⟩
  omega

/-- The fault is latched exactly when the history holds five UART overflows with
no valid frame between them, three flash failures with no save between them, or
two failed recoveries with no bus success between them.  From then on the
watchdog is never fed again. -/
theorem fatalFault_iff_hasBurst (operations : List ErrorOp) :
    ((initialized.applyAll operations).fatalFault = true ↔
      HasBurst (· == .uartOverflow) (· == .validModbusFrame) 5 operations ∨
        HasBurst (· == .flashSaveFailure) (· == .flashSaveSuccess) 3 operations ∨
        HasBurst (· == .i2cRecovery false)
          (fun operation =>
            operation == .i2cSuccess || operation == .i2cRecovery true)
          2 operations) ∧
      ((initialized.applyAll operations).fatalFault = true →
        ∀ later,
          (initialized.applyAll (operations ++ later)).shouldFeedWatchdog = false) := by
  constructor
  · induction operations using List.reverseRecOn with
    | nil =>
        simp only [applyAll_nil, hasBurst_nil_iff]
        decide
    | append_singleton operations operation inductionHypothesis =>
        have reached := overThreshold_applyAll_iff (operations ++ [operation])
        have latched := latched_applyAll operations
        rw [applyAll_append, applyAll_singleton] at reached ⊢
        rw [apply_fatalFault _ operation latched, Bool.or_eq_true,
          inductionHypothesis, reached, hasBurst_append_singleton_iff,
          hasBurst_append_singleton_iff, hasBurst_append_singleton_iff,
          or_or_or_comm]
        exact or_congr Iff.rfl or_or_or_comm
  · intro fault later
    have still : (initialized.applyAll (operations ++ later)).fatalFault = true := by
      rw [applyAll_append]
      exact fatalFault_applyAll _ fault later
    rw [shouldFeedWatchdog, systemHealthy, still, Bool.not_true]

end ErrorManager

end SensorFirmware
