import SensorFirmware.App.Escalation
import SensorFirmware.Errors.FaultHistory

/-!
# What a successful trigger clears

`handleTriggerState` reports a bus success as soon as the sensor acknowledges a
trigger, before any reading is known.  The report clears the timeouts, the bus
errors and the failed recoveries.  Between two reads these counters therefore
never decrease exactly when every successful trigger finds all three at zero.
-/

namespace SensorFirmware

namespace ErrorManager

/-- No timeout, no bus error and no failed recovery is counted. -/
structure NoFailures (errors : ErrorManager) : Prop where
  timeout : errors.timeoutCount = 0
  busError : errors.busErrorCount = 0
  recoveryFail : errors.consecutiveI2cRecoveryFailCount = 0

/-- The counts of timeouts, bus errors and failed recoveries do not decrease. -/
structure FailuresLe (before after : ErrorManager) : Prop where
  timeout : before.timeoutCount ≤ after.timeoutCount
  busError : before.busErrorCount ≤ after.busErrorCount
  recoveryFail :
    before.consecutiveI2cRecoveryFailCount ≤ after.consecutiveI2cRecoveryFailCount

theorem FailuresLe.refl (errors : ErrorManager) : errors.FailuresLe errors :=
  ⟨UInt8.le_refl _, UInt8.le_refl _, UInt8.le_refl _⟩

theorem FailuresLe.trans
    {first second third : ErrorManager}
    (earlier : first.FailuresLe second)
    (later : second.FailuresLe third) :
    first.FailuresLe third :=
  ⟨UInt8.le_trans earlier.timeout later.timeout,
    UInt8.le_trans earlier.busError later.busError,
    UInt8.le_trans earlier.recoveryFail later.recoveryFail⟩

/-- With no failures counted the counters cannot decrease. -/
theorem NoFailures.failuresLe
    {errors : ErrorManager}
    (none : errors.NoFailures)
    (after : ErrorManager) :
    errors.FailuresLe after := by
  constructor
  · rw [none.timeout]
    exact UInt8.zero_le
  · rw [none.busError]
    exact UInt8.zero_le
  · rw [none.recoveryFail]
    exact UInt8.zero_le

/-- Only a bus success makes the cleared counters an upper bound. -/
theorem noFailures_of_reportI2cSuccess
    {errors : ErrorManager}
    (kept : errors.FailuresLe errors.reportI2cSuccess) :
    errors.NoFailures :=
  ⟨UInt8.le_zero_iff.mp kept.timeout, UInt8.le_zero_iff.mp kept.busError,
    UInt8.le_zero_iff.mp kept.recoveryFail⟩

theorem le_incrementSaturated (value : UInt8) : value ≤ incrementSaturated value := by
  rw [UInt8.le_iff_toNat_le, incrementSaturated_toNat]
  have small := value.toNat_lt
  omega

theorem le_counted (value : UInt8) (hit : Bool) : value ≤ counted value hit false := by
  cases hit
  · exact UInt8.le_refl value
  · exact le_incrementSaturated value

end ErrorManager

/-- The call clears the count of failed recoveries. -/
def ErrorOp.clearsFailures : ErrorOp → Bool
  | .i2cSuccess => true
  | .i2cRecovery success => success
  | _ => false

namespace ErrorManager

/-- Every other call keeps the counts. -/
theorem failuresLe_apply
    (errors : ErrorManager)
    {operation : ErrorOp}
    (keeps : operation.clearsFailures = false) :
    errors.FailuresLe (errors.apply operation) := by
  cases operation with
  | i2cError status =>
      simp only [apply, reportI2cError_eq, process_eq]
      exact ⟨le_counted _ _, le_counted _ _, UInt8.le_refl _⟩
  | i2cRecovery success =>
      have failed : success = false := by simpa [ErrorOp.clearsFailures] using keeps
      simp only [apply, reportI2cRecovery_eq, process_eq, failed]
      exact ⟨UInt8.le_refl _, UInt8.le_refl _, le_counted _ _⟩
  | process | sensorReadFailure | uartOverflow | flashSaveFailure =>
      simp only [apply, reportSensorReadFailure, reportUartOverflow, reportFlashSaveFailure,
        process_eq]
      exact ⟨UInt8.le_refl _, UInt8.le_refl _, UInt8.le_refl _⟩
  | sensorReadSuccess | crcError | validModbusFrame | watchdogReset | flashSaveSuccess
  | clearRecoveryRequest | markRecoveryDone =>
      exact ⟨UInt8.le_refl _, UInt8.le_refl _, UInt8.le_refl _⟩
  | i2cSuccess => exact absurd keeps (by simp [ErrorOp.clearsFailures])

theorem failuresLe_applyAll
    (errors : ErrorManager)
    {operations : List ErrorOp}
    (keep : ∀ operation ∈ operations, operation.clearsFailures = false) :
    errors.FailuresLe (errors.applyAll operations) := by
  induction operations generalizing errors with
  | nil => exact FailuresLe.refl errors
  | cons operation operations inductionHypothesis =>
      rw [List.forall_mem_cons] at keep
      exact (errors.failuresLe_apply keep.1).trans (inductionHypothesis _ keep.2)

/-- A failed recovery raises the fatal fault or is the first in a row. -/
theorem reportI2cRecovery_faults (errors : ErrorManager) :
    (errors.reportI2cRecovery false).fatalFault = true ∨
      (errors.reportI2cRecovery false).consecutiveI2cRecoveryFailCount.toNat =
          errors.consecutiveI2cRecoveryFailCount.toNat + 1 ∧
        (errors.reportI2cRecovery false).consecutiveI2cRecoveryFailCount.toNat < 2 := by
  have incremented := incrementSaturated_toNat errors.consecutiveI2cRecoveryFailCount
  by_cases enough : 2 ≤ (incrementSaturated errors.consecutiveI2cRecoveryFailCount).toNat
  · left
    have reached :
        i2cRecoveryFailThreshold ≤
          incrementSaturated errors.consecutiveI2cRecoveryFailCount := by
      rw [UInt8.le_iff_toNat_le]
      exact enough
    simp [reportI2cRecovery_eq, process_eq, counted, overThreshold, reached]
  · right
    simp only [reportI2cRecovery_eq, process_eq, counted, Bool.not_false, if_true,
      Bool.false_eq_true, if_false]
    omega

end ErrorManager

/-- The access is a read with the status `Ok`. -/
def Access.readsOk : Access → Bool
  | .rejected | .accepted => true
  | _ => false

namespace LoopEvent

/-- The bus has recovered. -/
def isRecovered : LoopEvent → Bool
  | .recovery success => success
  | _ => false

/-- The bus has not recovered. -/
def isFailedRecovery : LoopEvent → Bool
  | .recovery success => !success
  | _ => false

end LoopEvent

namespace System

variable [DoubleArith D]

/-- Over every stretch of the run with no successful read and no successful
recovery the failure counts do not decrease, and two failed recoveries in it lead
to a fatal fault. -/
def KeepsFailures (start : System D) (events : List LoopEvent) : Prop :=
  ∀ before stretch after, events = before ++ stretch ++ after →
    (∀ access ∈ (start.runLoop before).accesses stretch, access.readsOk = false) →
    (∀ event ∈ stretch, event.isRecovered = false) →
    let reached := (start.runLoop before).runLoop stretch
    (start.runLoop before).device.errors.FailuresLe reached.device.errors ∧
      (2 ≤ stretch.countP LoopEvent.isFailedRecovery →
        reached.device.errors.fatalFault = true)

/-- A successful trigger finds no failures counted. -/
def TriggersUnfailed (sys : System D) (event : LoopEvent) : Prop :=
  sys.loopAccess event = .triggered → sys.device.errors.NoFailures

section

variable {sys : System D} {event : LoopEvent}

/-- One action of a stretch keeps the failure counts. -/
theorem failuresLe_loopStep
    (noRead : (sys.loopAccess event).readsOk = false)
    (notRecovered : event.isRecovered = false)
    (unfailed : sys.TriggersUnfailed event) :
    sys.device.errors.FailuresLe (sys.loopStep event).device.errors := by
  by_cases triggered : sys.loopAccess event = .triggered
  · exact (unfailed triggered).failuresLe _
  rw [loopStep_errors]
  apply ErrorManager.failuresLe_applyAll
  cases event with
  | cycle nowMs reply =>
      simp only [loopAccess] at noRead triggered
      simp only [loopReports]
      cases access : sys.access nowMs reply with
      | triggered => exact absurd access triggered
      | rejected | accepted => exact absurd noRead (by simp [access, Access.readsOk])
      | idle | triggerFailed | readFailed =>
          simp [Access.reports, ErrorOp.clearsFailures]
  | recovery success =>
      have failed : success = false := notRecovered
      simp [failed, loopReports, ErrorOp.clearsFailures]
  | frame frame => exact frame.forall_mem_reports _ rfl rfl
  | save success => cases success <;> simp [loopReports, ErrorOp.clearsFailures]
  | uartOverflow | check | supplyVoltage => simp [loopReports, ErrorOp.clearsFailures]

omit [DoubleArith D] in
/-- A successful trigger is reported as a success of the bus. -/
theorem loopReports_of_triggered
    (triggered : sys.loopAccess event = .triggered) :
    sys.loopReports event = [.i2cSuccess] := by
  cases event with
  | cycle nowMs reply =>
      have access : sys.access nowMs reply = .triggered := triggered
      rw [loopReports, access, Access.reports]
  | recovery | frame | uartOverflow | save | check | supplyVoltage =>
      exact absurd triggered (by simp [loopAccess])

/-- A fatal fault is never taken back. -/
theorem fatalFault_runLoop
    (fault : sys.device.errors.fatalFault = true)
    (events : List LoopEvent) :
    (sys.runLoop events).device.errors.fatalFault = true := by
  refine Transition.run_invariant
    (fun sys : System D => sys.device.errors.fatalFault = true) ?_ fault events
  intro sys event fault
  rw [loopStep_errors]
  exact ErrorManager.fatalFault_applyAll _ fault _

/-- A stretch whose triggers find no failures keeps the failure counts. -/
theorem failuresLe_runLoop
    {stretch : List LoopEvent}
    (noRead : ∀ access ∈ sys.accesses stretch, access.readsOk = false)
    (notRecovered : ∀ event ∈ stretch, event.isRecovered = false)
    (unfailed : Transition.AllSteps loopStep TriggersUnfailed sys stretch) :
    sys.device.errors.FailuresLe (sys.runLoop stretch).device.errors := by
  induction stretch generalizing sys with
  | nil => exact ErrorManager.FailuresLe.refl _
  | cons event stretch inductionHypothesis =>
      rw [accesses_cons, List.forall_mem_cons] at noRead
      rw [List.forall_mem_cons] at notRecovered
      exact (failuresLe_loopStep noRead.1 notRecovered.1 unfailed.1).trans
        (inductionHypothesis noRead.2 notRecovered.2 unfailed.2)

/-- In such a stretch the second failed recovery in a row raises the fault: the
counted failures and those to come never add up to less than two before it. -/
theorem fatalFault_of_failedRecoveries
    {stretch : List LoopEvent}
    (noRead : ∀ access ∈ sys.accesses stretch, access.readsOk = false)
    (notRecovered : ∀ event ∈ stretch, event.isRecovered = false)
    (unfailed : Transition.AllSteps loopStep TriggersUnfailed sys stretch)
    (some : 1 ≤ stretch.countP LoopEvent.isFailedRecovery)
    (enough : 2 ≤ sys.device.errors.consecutiveI2cRecoveryFailCount.toNat +
      stretch.countP LoopEvent.isFailedRecovery) :
    (sys.runLoop stretch).device.errors.fatalFault = true := by
  induction stretch generalizing sys with
  | nil => exact absurd some (by simp)
  | cons event stretch inductionHypothesis =>
      rw [accesses_cons, List.forall_mem_cons] at noRead
      rw [List.forall_mem_cons] at notRecovered
      rw [List.countP_cons] at some enough
      rw [runLoop_cons]
      have next := inductionHypothesis noRead.2 notRecovered.2 unfailed.2
      cases failed : event.isFailedRecovery with
      | true =>
          cases event with
          | recovery success =>
              have failure : success = false := notRecovered.1
              subst failure
              have faults := sys.device.errors.reportI2cRecovery_faults
              have report : (sys.loopStep (.recovery false)).device.errors =
                  sys.device.errors.reportI2cRecovery false := by
                rw [loopStep_errors, loopReports, ErrorManager.applyAll_singleton,
                  ErrorManager.apply]
              rw [← report] at faults
              obtain fault | ⟨counted, few⟩ := faults
              · exact fatalFault_runLoop fault stretch
              · simp only [failed, if_true] at enough
                exact next (by omega) (by omega)
          | cycle | frame | uartOverflow | save | check | supplyVoltage =>
              exact absurd failed (by simp [LoopEvent.isFailedRecovery])
      | false =>
          have kept := (failuresLe_loopStep noRead.1 notRecovered.1 unfailed.1).recoveryFail
          rw [UInt8.le_iff_toNat_le] at kept
          simp only [failed, Bool.false_eq_true, if_false, Nat.add_zero] at some enough
          exact next some (by omega)

end

/-- From any state, the failure counts of a run are kept between successful reads
and successful recoveries, and two failed recoveries between them are fatal,
exactly when every successful trigger of the run finds all three counts at
zero. -/
theorem keepsFailures_iff
    (start : System D)
    (events : List LoopEvent) :
    start.KeepsFailures events ↔
      Transition.AllSteps loopStep TriggersUnfailed start events := by
  constructor
  · intro keeps
    rw [Transition.allSteps_iff_forall_cut]
    intro before event after split
    show (start.runLoop before).TriggersUnfailed event
    intro triggered
    have notRecovered : event.isRecovered = false := by
      cases event with
      | recovery => exact absurd triggered (by simp [loopAccess])
      | cycle | frame | uartOverflow | save | check | supplyVoltage => rfl
    have kept := (keeps before [event] after (by simpa using split)
      (by simp [triggered, Access.readsOk]) (by simpa using notRecovered)).1
    rw [runLoop_cons, runLoop_nil, loopStep_errors, loopReports_of_triggered triggered,
      ErrorManager.applyAll_singleton] at kept
    exact ErrorManager.noFailures_of_reportI2cSuccess kept
  · rintro unfailed before stretch after rfl noRead notRecovered reached
    rw [Transition.allSteps_append, Transition.allSteps_append] at unfailed
    exact ⟨failuresLe_runLoop noRead notRecovered unfailed.1.2, fun two =>
      fatalFault_of_failedRecoveries noRead notRecovered unfailed.1.2 (by omega) (by omega)⟩

/-! ## A trigger between two failed recoveries -/

/-- The bus acknowledges a trigger. -/
def triggeringReply : I2cReply := ⟨.ok, .ok, Vector.replicate 6 0⟩

/-- Three timeouts and two failed recoveries with a successful trigger between
them. -/
def triggerBetweenRecoveries : List LoopEvent :=
  threeTriggers .timeout ++
    [.recovery false, .cycle 300 triggeringReply, .recovery false]

/-- The trigger clears the timeouts and the first failed recovery. -/
theorem run_triggerBetweenRecoveries :
    unitTestStart.accesses triggerBetweenRecoveries =
        [.triggerFailed .timeout, .triggerFailed .timeout, .triggerFailed .timeout, .idle,
          .triggered, .idle] ∧
      (unitTestStart.runLoop triggerBetweenRecoveries).device.errors =
        ErrorManager.initialized.applyAll
          [.i2cError .timeout, .i2cError .timeout, .i2cError .timeout, .i2cRecovery false,
            .i2cSuccess, .i2cRecovery false] := by
  obtain ⟨accesses, errors, service⟩ :=
    run_threeTriggers unitTestStart_service (by decide : I2cStatus.timeout ≠ .ok)
  rw [triggerBetweenRecoveries, accesses_append, runLoop_append, accesses]
  generalize unitTestStart.runLoop (threeTriggers .timeout) = failed at errors service ⊢
  rw [unitTestStart_errors] at errors
  rw [unitTestStart_service] at service
  have triggers :
      (failed.loopStep (.recovery false)).access 300 triggeringReply = .triggered := by
    rw [access, loopStep_recovery_service, service]
    decide
  constructor
  · simp only [accesses_cons, accesses_nil, loopAccess]
    rw [triggers]
    rfl
  · simp only [runLoop_cons, runLoop_nil, loopStep_errors, loopReports]
    rw [triggers, errors]
    simp only [Access.reports, ErrorManager.applyAll_cons, ErrorManager.applyAll_nil]

/-- Two failed recoveries with no read between them need not be fatal. -/
theorem triggerBetweenRecoveries_loses_failures :
    ¬ unitTestStart.KeepsFailures triggerBetweenRecoveries := by
  intro keeps
  obtain ⟨accesses, errors⟩ := run_triggerBetweenRecoveries
  have fault := (keeps [] triggerBetweenRecoveries [] (by simp)
    (by rw [runLoop_nil, accesses]; decide)
    (by simp [triggerBetweenRecoveries, threeTriggers, LoopEvent.isRecovered])).2
    (by decide)
  rw [runLoop_nil, errors] at fault
  exact absurd fault (by decide +kernel)

end System

end SensorFirmware
