import SensorFirmware.App.LoopEvents
import SensorFirmware.Errors.SevereCount

/-!
# Escalation of sensor failures

Failed accesses are counted in two ways.  A failure while reading adds to the
consecutive read failures, which only an accepted measurement clears.  A timeout
or a bus error adds to the severe bus errors, which every successful access
clears.  Three failures of one kind with nothing between them that clears it
raise the recovery request, and the request stays up until a recovery is handled.
-/

namespace SensorFirmware

namespace ErrorOp

/-- The call never takes a recovery request down. -/
def keepsRequest : ErrorOp → Bool
  | .i2cRecovery success => !success
  | .clearRecoveryRequest | .markRecoveryDone => false
  | _ => true

end ErrorOp

/-- The call reports the result of a bus transaction or of a recovery. -/
def ErrorOp.onBus : ErrorOp → Bool
  | .i2cSuccess | .i2cError _ | .i2cRecovery _ => true
  | _ => false

/-- The call reports the result of a measurement. -/
def ErrorOp.onReading : ErrorOp → Bool
  | .sensorReadFailure | .sensorReadSuccess => true
  | _ => false

/-- A status that counts as a severe bus error. -/
def I2cStatus.severe : I2cStatus → Bool
  | .timeout | .busError => true
  | _ => false

namespace ErrorManager

/-- A request is up where the severe bus errors reach the threshold. -/
def Settled (errors : ErrorManager) : Prop :=
  errors.severeCount < 3 ∨ errors.recoveryRequested = true

/-- Three severe bus errors need a recovery while their sum fits in a byte. -/
theorem needsRecovery_of_severeCount
    {errors : ErrorManager}
    (enough : 3 ≤ errors.severeCount)
    (fits : errors.severeCount < 256) :
    errors.needsRecovery = true := by
  have reached : i2cRecoveryThreshold ≤ errors.timeoutCount + errors.busErrorCount :=
    (narrowedSum_iff errors).mpr ⟨enough, by omega⟩
  rw [needsRecovery, decide_eq_true reached, Bool.true_or]

/-- Three failed reads in a row need a recovery. -/
theorem needsRecovery_of_readFailures
    {errors : ErrorManager}
    (enough : 3 ≤ errors.consecutiveSensorReadFailCount.toNat) :
    errors.needsRecovery = true := by
  have reached : sensorFailThreshold ≤ errors.consecutiveSensorReadFailCount := by
    rw [UInt8.le_iff_toNat_le]
    exact enough
  rw [needsRecovery, decide_eq_true reached, Bool.or_true]

/-- A request stays up under every call but those that take it down. -/
theorem recoveryRequested_apply
    {errors : ErrorManager}
    {operation : ErrorOp}
    (keeps : operation.keepsRequest = true)
    (requested : errors.recoveryRequested = true) :
    (errors.apply operation).recoveryRequested = true := by
  cases operation with
  | i2cError status => simp [apply, reportI2cError_eq, process_eq, requested]
  | i2cRecovery success =>
      have failed : success = false := by simpa [ErrorOp.keepsRequest] using keeps
      simp [apply, reportI2cRecovery_eq, process_eq, requested, failed]
  | process | sensorReadFailure | uartOverflow | flashSaveFailure =>
      simp [apply, reportSensorReadFailure, reportUartOverflow, reportFlashSaveFailure,
        process_eq, requested]
  | i2cSuccess | sensorReadSuccess | crcError | validModbusFrame | watchdogReset
  | flashSaveSuccess => exact requested
  | clearRecoveryRequest | markRecoveryDone =>
      exact absurd keeps (by simp [ErrorOp.keepsRequest])

/-- A severe error adds one to the severe bus errors while they are few. -/
theorem severeCount_reportI2cError
    {errors : ErrorManager}
    {status : I2cStatus}
    (few : errors.severeCount < 3)
    (severe : status.severe = true) :
    (errors.reportI2cError status).severeCount = errors.severeCount + 1 := by
  unfold severeCount at few ⊢
  have timeout := incrementSaturated_toNat errors.timeoutCount
  have busError := incrementSaturated_toNat errors.busErrorCount
  cases status with
  | timeout =>
      simp only [reportI2cError_eq, process_eq, counted, beq_self_eq_true,
        Bool.false_eq_true, if_true, if_false, reduceCtorEq, beq_iff_eq]
      omega
  | busError =>
      simp only [reportI2cError_eq, process_eq, counted, beq_self_eq_true,
        Bool.false_eq_true, if_true, if_false, reduceCtorEq, beq_iff_eq]
      omega
  | ok | nack | invalidArgument => exact absurd severe (by decide)

/-- The severe bus errors stay counted or reach the request. -/
theorem settled_apply
    {errors : ErrorManager}
    {operation : ErrorOp}
    (keeps : operation.keepsRequest = true)
    (settled : errors.Settled) :
    (errors.apply operation).Settled := by
  obtain few | requested := settled
  swap
  · exact Or.inr (recoveryRequested_apply keeps requested)
  cases operation with
  | i2cError status =>
      cases severe : status.severe with
      | true =>
          have counted := severeCount_reportI2cError few severe
          by_cases still : (errors.reportI2cError status).severeCount < 3
          · exact Or.inl still
          · have needed := needsRecovery_of_severeCount
              (Nat.not_lt.mp still) (by omega)
            -- `process` has just looked at the counters that the report leaves
            refine Or.inr ?_
            rw [reportI2cError_eq, process_eq] at needed
            rw [apply, reportI2cError_eq, process_eq]
            exact Bool.or_eq_true_iff.mpr (Or.inr needed)
      | false =>
          left
          cases status with
          | timeout | busError => exact absurd severe (by decide)
          | ok | nack | invalidArgument =>
              simpa [severeCount, apply, reportI2cError_eq, process_eq, counted] using few
  | i2cRecovery success =>
      have failed : success = false := by simpa [ErrorOp.keepsRequest] using keeps
      left
      simpa [severeCount, apply, reportI2cRecovery_eq, process_eq, counted, failed] using few
  | process | sensorReadFailure | uartOverflow | flashSaveFailure =>
      left
      simpa [severeCount, apply, reportSensorReadFailure, reportUartOverflow,
        reportFlashSaveFailure, process_eq] using few
  | i2cSuccess => exact Or.inl (by decide : (0 : UInt8).toNat + (0 : UInt8).toNat < 3)
  | sensorReadSuccess | crcError | validModbusFrame | watchdogReset
  | flashSaveSuccess => exact Or.inl few
  | clearRecoveryRequest | markRecoveryDone =>
      exact absurd keeps (by simp [ErrorOp.keepsRequest])

section

variable {errors : ErrorManager} {operations : List ErrorOp}

theorem recoveryRequested_applyAll
    (keep : ∀ operation ∈ operations, operation.keepsRequest = true)
    (requested : errors.recoveryRequested = true) :
    (errors.applyAll operations).recoveryRequested = true := by
  induction operations generalizing errors with
  | nil => exact requested
  | cons operation operations inductionHypothesis =>
      rw [List.forall_mem_cons] at keep
      exact inductionHypothesis keep.2 (recoveryRequested_apply keep.1 requested)

theorem settled_applyAll
    (keep : ∀ operation ∈ operations, operation.keepsRequest = true)
    (settled : errors.Settled) :
    (errors.applyAll operations).Settled := by
  induction operations generalizing errors with
  | nil => exact settled
  | cons operation operations inductionHypothesis =>
      rw [List.forall_mem_cons] at keep
      exact inductionHypothesis keep.2 (settled_apply keep.1 settled)

/-- The calls that report nothing of the bus leave its counters alone. -/
theorem severeCount_applyAll
    (offBus : ∀ operation ∈ operations, operation.onBus = false) :
    (errors.applyAll operations).severeCount = errors.severeCount := by
  induction operations generalizing errors with
  | nil => rfl
  | cons operation operations inductionHypothesis =>
      rw [List.forall_mem_cons] at offBus
      rw [applyAll_cons, inductionHypothesis offBus.2]
      cases operation with
      | process | sensorReadFailure | uartOverflow | flashSaveFailure =>
          simp only [severeCount, apply, reportSensorReadFailure, reportUartOverflow,
            reportFlashSaveFailure, process_eq]
      | sensorReadSuccess | crcError | validModbusFrame | watchdogReset
      | flashSaveSuccess | clearRecoveryRequest | markRecoveryDone => rfl
      | i2cSuccess | i2cError | i2cRecovery =>
          exact absurd offBus.1 (by simp [ErrorOp.onBus])

/-- The calls that report no reading leave the count of failed reads alone. -/
theorem consecutiveSensorReadFailCount_applyAll
    (offReading : ∀ operation ∈ operations, operation.onReading = false) :
    (errors.applyAll operations).consecutiveSensorReadFailCount =
      errors.consecutiveSensorReadFailCount := by
  induction operations generalizing errors with
  | nil => rfl
  | cons operation operations inductionHypothesis =>
      rw [List.forall_mem_cons] at offReading
      have failure : (operation == .sensorReadFailure) = false := by
        apply beq_false_of_ne
        rintro rfl
        exact absurd offReading.1 (by decide)
      have success : (operation == .sensorReadSuccess) = false := by
        apply beq_false_of_ne
        rintro rfl
        exact absurd offReading.1 (by decide)
      rw [applyAll_cons, inductionHypothesis offReading.2,
        (apply_counts errors operation).consecutiveSensorReadFail, failure, success]
      rfl

end

/-- A failed read raises the request or is one of at most two in a row. -/
theorem reportSensorReadFailure_requests (errors : ErrorManager) :
    errors.reportSensorReadFailure.recoveryRequested = true ∨
      errors.reportSensorReadFailure.consecutiveSensorReadFailCount.toNat =
          errors.consecutiveSensorReadFailCount.toNat + 1 ∧
        errors.reportSensorReadFailure.consecutiveSensorReadFailCount.toNat < 3 := by
  have incremented := incrementSaturated_toNat errors.consecutiveSensorReadFailCount
  by_cases enough :
      3 ≤ (incrementSaturated errors.consecutiveSensorReadFailCount).toNat
  · left
    rw [reportSensorReadFailure, process_eq]
    exact Bool.or_eq_true_iff.mpr (Or.inr (needsRecovery_of_readFailures enough))
  · right
    simp only [reportSensorReadFailure, process_eq]
    omega

end ErrorManager

namespace Access

/-- The access ends an attempt to measure. -/
def endsAttempt : Access → Bool
  | .idle | .triggered => false
  | _ => true

/-- The access fails, or the reading is rejected. -/
def failed : Access → Bool
  | .triggerFailed _ | .readFailed _ | .rejected => true
  | _ => false

/-- The access fails while reading. -/
def failsReading : Access → Bool
  | .readFailed _ | .rejected => true
  | _ => false

/-- The access fails with a severe bus error. -/
def severe : Access → Bool
  | .triggerFailed status | .readFailed status => status.severe
  | _ => false

theorem reports_keepRequest (access : Access) :
    ∀ operation ∈ access.reports, operation.keepsRequest = true := by
  cases access <;> simp [reports, ErrorOp.keepsRequest]

end Access

/-- The action handles a recovery request. -/
def LoopEvent.isRecovery : LoopEvent → Bool
  | .recovery _ => true
  | _ => false

namespace System

section

variable {sys : System D} {event : LoopEvent}

/-- Only the handling of a recovery takes a request down. -/
theorem loopReports_keepRequest
    (noRecovery : event.isRecovery = false) :
    ∀ operation ∈ sys.loopReports event, operation.keepsRequest = true := by
  cases event with
  | cycle nowMs reply => exact Access.reports_keepRequest _
  | recovery success => exact absurd noRecovery (by simp [LoopEvent.isRecovery])
  | frame frame => exact frame.forall_mem_reports _ rfl rfl
  | save success => cases success <;> simp [loopReports, ErrorOp.keepsRequest]
  | uartOverflow | check | supplyVoltage => simp [loopReports, ErrorOp.keepsRequest]

variable [DoubleArith D]

theorem recoveryRequested_loopStep
    (noRecovery : event.isRecovery = false)
    (requested : sys.device.errors.recoveryRequested = true) :
    (sys.loopStep event).device.errors.recoveryRequested = true := by
  rw [loopStep_errors]
  exact ErrorManager.recoveryRequested_applyAll (loopReports_keepRequest noRecovery) requested

/-- No action unsettles the error manager. -/
theorem settled_loopStep
    (settled : sys.device.errors.Settled) :
    (sys.loopStep event).device.errors.Settled := by
  cases handled : event.isRecovery with
  | false =>
      rw [loopStep_errors]
      exact ErrorManager.settled_applyAll (loopReports_keepRequest handled) settled
  | true =>
      cases event with
      | recovery success =>
          rw [loopStep_errors]
          cases success with
          | false =>
              rw [loopReports, ErrorManager.applyAll_singleton]
              exact ErrorManager.settled_apply rfl settled
          | true =>
              obtain ⟨_, noTimeout, noBusError, _⟩ :=
                ErrorManager.recovered_eq sys.device.errors
              simp only [ErrorManager.recovered] at noTimeout noBusError
              left
              simp only [loopReports, ErrorManager.applyAll_cons, ErrorManager.applyAll_nil,
                ErrorManager.apply, ErrorManager.severeCount, noTimeout, noBusError]
              decide
      | cycle | frame | uartOverflow | save | check | supplyVoltage =>
          exact absurd handled (by simp [LoopEvent.isRecovery])

/-- An access that fails while reading raises the request or is one of at most
two in a row. -/
theorem requests_of_failsReading
    (failsReading : (sys.loopAccess event).failsReading = true) :
    (sys.loopStep event).device.errors.recoveryRequested = true ∨
      (sys.loopStep event).device.errors.consecutiveSensorReadFailCount.toNat =
          sys.device.errors.consecutiveSensorReadFailCount.toNat + 1 ∧
        (sys.loopStep event).device.errors.consecutiveSensorReadFailCount.toNat < 3 := by
  rw [loopStep_errors]
  cases event with
  | cycle nowMs reply =>
      simp only [loopAccess] at failsReading
      simp only [loopReports]
      cases access : sys.access nowMs reply with
      | readFailed status =>
          have requests := ErrorManager.reportSensorReadFailure_requests
            (sys.device.errors.reportI2cError status)
          have kept := (ErrorManager.apply_counts sys.device.errors
            (.i2cError status)).consecutiveSensorReadFail
          simp only [ErrorManager.apply, ErrorManager.counted] at kept
          simp only [reduceCtorEq, beq_iff_eq, if_false] at kept
          rw [kept] at requests
          simpa only [Access.reports, ErrorManager.applyAll_cons, ErrorManager.applyAll_nil,
            ErrorManager.apply] using requests
      | rejected =>
          have requests := ErrorManager.reportSensorReadFailure_requests
            sys.device.errors.reportI2cSuccess
          have kept : sys.device.errors.reportI2cSuccess.consecutiveSensorReadFailCount =
              sys.device.errors.consecutiveSensorReadFailCount := rfl
          rw [kept] at requests
          simpa only [Access.reports, ErrorManager.applyAll_cons, ErrorManager.applyAll_nil,
            ErrorManager.apply] using requests
      | idle | triggered | triggerFailed | accepted =>
          rw [access] at failsReading
          exact absurd failsReading (by simp [Access.failsReading])
  | recovery | frame | uartOverflow | save | check | supplyVoltage =>
      exact absurd failsReading (by simp [loopAccess, Access.failsReading])

/-- Any other action but an accepted measurement keeps the count of failed
reads. -/
theorem consecutiveSensorReadFailCount_loopStep
    (reads : (sys.loopAccess event).failsReading = false)
    (notAccepted : sys.loopAccess event ≠ .accepted) :
    (sys.loopStep event).device.errors.consecutiveSensorReadFailCount =
      sys.device.errors.consecutiveSensorReadFailCount := by
  rw [loopStep_errors]
  apply ErrorManager.consecutiveSensorReadFailCount_applyAll
  cases event with
  | cycle nowMs reply =>
      simp only [loopAccess] at reads notAccepted
      simp only [loopReports]
      cases access : sys.access nowMs reply with
      | readFailed | rejected => exact absurd reads (by simp [access, Access.failsReading])
      | accepted => exact absurd access notAccepted
      | idle | triggered | triggerFailed =>
          simp [Access.reports, ErrorOp.onReading]
  | frame frame => exact frame.forall_mem_reports _ rfl rfl
  | recovery success | save success =>
      cases success <;> simp [loopReports, ErrorOp.onReading]
  | uartOverflow | check | supplyVoltage => simp [loopReports, ErrorOp.onReading]

/-- Between the accesses only the handling of a recovery changes the severe bus
errors. -/
theorem severeCount_loopStep_of_idle
    (noRecovery : event.isRecovery = false)
    (idle : sys.loopAccess event = .idle) :
    (sys.loopStep event).device.errors.severeCount = sys.device.errors.severeCount := by
  rw [loopStep_errors]
  apply ErrorManager.severeCount_applyAll
  cases event with
  | cycle nowMs reply =>
      simp only [loopAccess] at idle
      simp [loopReports, idle, Access.reports]
  | frame frame => exact frame.forall_mem_reports _ rfl rfl
  | recovery success => exact absurd noRecovery (by simp [LoopEvent.isRecovery])
  | save success => cases success <;> simp [loopReports, ErrorOp.onBus]
  | uartOverflow | check | supplyVoltage => simp [loopReports, ErrorOp.onBus]

/-- A severe failure adds to the severe bus errors, unless the request is up. -/
theorem severeCount_loopStep_of_severe
    (settled : sys.device.errors.Settled)
    (severe : (sys.loopAccess event).severe = true) :
    (sys.loopStep event).device.errors.recoveryRequested = true ∨
      (sys.loopStep event).device.errors.severeCount =
        sys.device.errors.severeCount + 1 := by
  obtain few | requested := settled
  swap
  · have noRecovery : event.isRecovery = false := by
      cases event with
      | recovery => exact absurd severe (by simp [loopAccess, Access.severe])
      | cycle | frame | uartOverflow | save | check | supplyVoltage => rfl
    exact Or.inl (recoveryRequested_loopStep noRecovery requested)
  right
  rw [loopStep_errors]
  cases event with
  | cycle nowMs reply =>
      simp only [loopAccess] at severe
      simp only [loopReports]
      cases access : sys.access nowMs reply with
      | triggerFailed status =>
          rw [access] at severe
          rw [Access.reports, ErrorManager.applyAll_singleton, ErrorManager.apply]
          exact ErrorManager.severeCount_reportI2cError few severe
      | readFailed status =>
          rw [access] at severe
          rw [Access.reports, ErrorManager.applyAll_cons,
            ErrorManager.severeCount_applyAll (by simp [ErrorOp.onBus]), ErrorManager.apply]
          exact ErrorManager.severeCount_reportI2cError few severe
      | idle | triggered | rejected | accepted =>
          exact absurd severe (by simp [access, Access.severe])
  | recovery | frame | uartOverflow | save | check | supplyVoltage =>
      exact absurd severe (by simp [loopAccess, Access.severe])

/-! ## Runs -/

/-- The accesses of a run that end an attempt to measure, in order. -/
def attempts (sys : System D) (events : List LoopEvent) : List Access :=
  (sys.accesses events).filter Access.endsAttempt

@[simp] theorem attempts_nil (sys : System D) : sys.attempts [] = [] := rfl

theorem attempts_cons
    (sys : System D)
    (event : LoopEvent)
    (events : List LoopEvent) :
    sys.attempts (event :: events) =
      if (sys.loopAccess event).endsAttempt then
        sys.loopAccess event :: (sys.loopStep event).attempts events
      else (sys.loopStep event).attempts events :=
  List.filter_cons

/-- A started measurement ends with a read. -/
theorem attempts_of_read
    {sys : System D}
    (state : sys.service.state = .read)
    {events : List LoopEvent}
    {attempt : Access}
    {attempts : List Access}
    (first : sys.attempts events = attempt :: attempts) :
    attempt.isTrigger = false := by
  induction events generalizing sys with
  | nil => exact absurd first (by simp)
  | cons event events inductionHypothesis =>
      have noTrigger : (sys.loopAccess event).isTrigger ≠ true := by
        intro isTrigger
        have other := state_of_loopAccess_isTrigger isTrigger
        rw [state] at other
        exact absurd other (by decide)
      have next := sys.loopStep_state event
      rw [attempts_cons] at first
      cases access : sys.loopAccess event with
      | idle =>
          rw [access, state] at next
          rw [access] at first
          exact inductionHypothesis next first
      | triggered | triggerFailed =>
          rw [access] at noTrigger
          exact absurd rfl noTrigger
      | readFailed | rejected | accepted =>
          simp only [access, Access.endsAttempt, if_true, List.cons.injEq] at first
          rw [← first.1]
          rfl

/-- A request stays up until a recovery is handled. -/
theorem recoveryRequested_runLoop
    {sys : System D}
    {events : List LoopEvent}
    (noRecovery : ∀ event ∈ events, event.isRecovery = false)
    (requested : sys.device.errors.recoveryRequested = true) :
    (sys.runLoop events).device.errors.recoveryRequested = true := by
  induction events generalizing sys with
  | nil => exact requested
  | cons event events inductionHypothesis =>
      rw [List.forall_mem_cons] at noRecovery
      exact inductionHypothesis noRecovery.2
        (recoveryRequested_loopStep noRecovery.1 requested)

/-- Every run leaves the error manager settled. -/
theorem settled_runLoop
    {sys : System D}
    (settled : sys.device.errors.Settled)
    (events : List LoopEvent) :
    (sys.runLoop events).device.errors.Settled :=
  Transition.run_invariant (fun sys : System D => sys.device.errors.Settled)
    (fun _ _ => settled_loopStep) settled events

/-- Enough failures while reading raise the request: the count of failed reads
and the failures to come never add up to less than the threshold before it. -/
theorem recoveryRequested_of_readFailures
    {sys : System D}
    {events : List LoopEvent}
    (noRecovery : ∀ event ∈ events, event.isRecovery = false)
    (noneAccepted : .accepted ∉ sys.accesses events)
    (some : 1 ≤ (sys.accesses events).countP Access.failsReading)
    (enough : 3 ≤ sys.device.errors.consecutiveSensorReadFailCount.toNat +
      (sys.accesses events).countP Access.failsReading) :
    (sys.runLoop events).device.errors.recoveryRequested = true := by
  induction events generalizing sys with
  | nil => exact absurd some (by simp)
  | cons event events inductionHypothesis =>
      rw [List.forall_mem_cons] at noRecovery
      rw [accesses_cons, List.mem_cons, not_or] at noneAccepted
      rw [accesses_cons, List.countP_cons] at some enough
      rw [runLoop_cons]
      cases failsReading : (sys.loopAccess event).failsReading with
      | true =>
          obtain requested | ⟨counted, few⟩ := requests_of_failsReading failsReading
          · exact recoveryRequested_runLoop noRecovery.2 requested
          · simp only [failsReading, if_true] at enough
            exact inductionHypothesis noRecovery.2 noneAccepted.2 (by omega) (by omega)
      | false =>
          have kept := consecutiveSensorReadFailCount_loopStep failsReading
            (Ne.symm noneAccepted.1)
          simp only [failsReading, Bool.false_eq_true, if_false, Nat.add_zero] at some enough
          exact inductionHypothesis noRecovery.2 noneAccepted.2 some (by rwa [kept])

/-- Enough failed triggers with a severe bus error raise the request: no trigger
succeeds before the last of them, so nothing clears the severe bus errors. -/
theorem recoveryRequested_of_severeTriggers
    {sys : System D}
    {events : List LoopEvent}
    (noRecovery : ∀ event ∈ events, event.isRecovery = false)
    (settled : sys.device.errors.Settled)
    (some : sys.attempts events ≠ [])
    (severeTriggers : ∀ attempt ∈ sys.attempts events,
      attempt.severe = true ∧ attempt.isTrigger = true)
    (enough : sys.device.errors.recoveryRequested = true ∨
      3 ≤ sys.device.errors.severeCount + (sys.attempts events).length) :
    (sys.runLoop events).device.errors.recoveryRequested = true := by
  induction events generalizing sys with
  | nil => exact absurd rfl some
  | cons event events inductionHypothesis =>
      rw [List.forall_mem_cons] at noRecovery
      have stays (requested : sys.device.errors.recoveryRequested = true) :=
        recoveryRequested_loopStep noRecovery.1 requested
      have settledNext : (sys.loopStep event).device.errors.Settled :=
        settled_loopStep settled
      have next := sys.loopStep_state event
      rw [attempts_cons] at some severeTriggers enough
      rw [runLoop_cons]
      cases access : sys.loopAccess event with
      | idle =>
          rw [access] at some severeTriggers enough
          have kept := severeCount_loopStep_of_idle noRecovery.1 access
          exact inductionHypothesis noRecovery.2 settledNext some severeTriggers
            (enough.imp stays fun counted => by rw [kept]; exact counted)
      | triggered =>
          rw [access] at next
          simp only [access, Access.endsAttempt, Bool.false_eq_true, if_false]
            at some severeTriggers
          obtain ⟨first, rest, attempts⟩ := List.exists_cons_of_ne_nil some
          have noTrigger := attempts_of_read next attempts
          rw [attempts, List.forall_mem_cons] at severeTriggers
          rw [severeTriggers.1.2] at noTrigger
          exact absurd noTrigger Bool.false_ne_true.symm
      | triggerFailed status =>
          simp only [access, Access.endsAttempt, if_true, List.forall_mem_cons,
            List.length_cons] at severeTriggers enough
          obtain ⟨⟨severe, _⟩, restSevere⟩ := severeTriggers
          have counted := severeCount_loopStep_of_severe settled (by rwa [access])
          by_cases last : (sys.loopStep event).attempts events = []
          · -- the count is complete, so the settled error manager has the request up
            refine recoveryRequested_runLoop noRecovery.2 ?_
            rw [last, List.length_nil] at enough
            obtain few | requested := settledNext
            · obtain requested | counted := counted
              · exact requested
              · obtain requested | reached := enough
                · exact stays requested
                · omega
            · exact requested
          · refine inductionHypothesis noRecovery.2 settledNext last restSevere ?_
            obtain requested | counted := counted
            · exact Or.inl requested
            · exact enough.imp stays fun reached => by omega
      | readFailed | rejected | accepted =>
          simp only [access, Access.endsAttempt, if_true,
            List.forall_mem_cons] at severeTriggers
          exact absurd severeTriggers.1.2 Bool.false_ne_true

/-- A severe failure and two or more failed triggers with a severe bus error
raise the request. -/
theorem recoveryRequested_of_severe
    {sys : System D}
    {events : List LoopEvent}
    (noRecovery : ∀ event ∈ events, event.isRecovery = false)
    (settled : sys.device.errors.Settled)
    {first : Access}
    {rest : List Access}
    (attempts : sys.attempts events = first :: rest)
    (severe : first.severe = true)
    (restSevere : ∀ attempt ∈ rest, attempt.severe = true ∧ attempt.isTrigger = true)
    (enough : 2 ≤ rest.length) :
    (sys.runLoop events).device.errors.recoveryRequested = true := by
  induction events generalizing sys with
  | nil => exact absurd attempts (by simp)
  | cons event events inductionHypothesis =>
      rw [List.forall_mem_cons] at noRecovery
      have settledNext : (sys.loopStep event).device.errors.Settled :=
        settled_loopStep settled
      rw [attempts_cons] at attempts
      rw [runLoop_cons]
      cases ends : (sys.loopAccess event).endsAttempt with
      | false =>
          rw [ends] at attempts
          exact inductionHypothesis noRecovery.2 settledNext attempts
      | true =>
          simp only [ends, if_true, List.cons.injEq] at attempts
          obtain ⟨access, attempts⟩ := attempts
          have counted := severeCount_loopStep_of_severe settled (by rwa [access])
          refine recoveryRequested_of_severeTriggers noRecovery.2 settledNext ?_ ?_ ?_
          · intro none
            rw [attempts] at none
            rw [none, List.length_nil] at enough
            omega
          · rwa [attempts]
          · rw [attempts]
            exact counted.imp_right fun counted => by omega

/-- Once three attempts in a row have failed, with no recovery handled since the
first of them, the request is up if all of them failed while reading, or if all
of them failed with a timeout or a bus error and the last two were triggers. -/
theorem recoveryRequested_of_three_failures
    (imageBytes : SettingsStruct → SensorStruct D → List UInt8)
    (flashData : Option (FlashConfig D))
    (watchdogReset : Bool)
    (dev : Device D)
    (earlier later : List LoopEvent)
    (first second third : Access)
    (attempts : ((started imageBytes flashData watchdogReset dev).runLoop earlier).attempts
      later = [first, second, third])
    (noRecovery : ∀ event ∈ later, event.isRecovery = false)
    (alike :
      (∀ attempt ∈ [first, second, third], attempt.failsReading = true) ∨
        (∀ attempt ∈ [first, second, third], attempt.severe = true) ∧
          second.isTrigger = true ∧ third.isTrigger = true) :
    (((started imageBytes flashData watchdogReset dev).runLoop earlier).runLoop
      later).device.errors.recoveryRequested = true := by
  generalize reached : (started imageBytes flashData watchdogReset dev).runLoop earlier = sys
    at attempts
  obtain failReading | ⟨severe, secondTriggers, thirdTriggers⟩ := alike
  · have noneAccepted : .accepted ∉ sys.accesses later := by
      intro accepted
      have attempt : .accepted ∈ sys.attempts later := List.mem_filter.mpr ⟨accepted, rfl⟩
      rw [attempts] at attempt
      exact absurd (failReading _ attempt) Bool.false_ne_true
    have three : (sys.accesses later).countP Access.failsReading = 3 := by
      have inAttempts : (sys.accesses later).countP Access.failsReading =
          (sys.attempts later).countP Access.failsReading := by
        rw [System.attempts, List.countP_filter]
        apply List.countP_congr
        intro access _
        cases access <;> simp [Access.failsReading, Access.endsAttempt]
      rw [inAttempts, attempts, List.countP_eq_length.mpr failReading]
      rfl
    exact recoveryRequested_of_readFailures noRecovery noneAccepted (by omega) (by omega)
  · have settled : sys.device.errors.Settled := by
      rw [← reached]
      refine settled_runLoop ?_ earlier
      rw [started_errors]
      refine ErrorManager.settled_applyAll ?_ (Or.inl (by decide))
      cases watchdogReset <;> simp [ErrorOp.keepsRequest]
    simp only [List.forall_mem_cons] at severe
    obtain ⟨firstSevere, secondSevere, thirdSevere, -⟩ := severe
    refine recoveryRequested_of_severe noRecovery settled attempts firstSevere ?_ le_rfl
    intro attempt member
    rw [List.mem_pair] at member
    obtain rfl | rfl := member
    · exact ⟨secondSevere, secondTriggers⟩
    · exact ⟨thirdSevere, thirdTriggers⟩

omit [DoubleArith D] in
/-- A due trigger that the bus answers with an error. -/
theorem access_of_failedTrigger
    {nowMs : UInt32}
    {reply : I2cReply}
    (state : sys.service.state = .trigger)
    (due : ¬ (nowMs - sys.service.nextTriggerTimeMs).toInt32 < 0)
    (failed : reply.triggerStatus ≠ .ok) :
    sys.access nowMs reply = .triggerFailed reply.triggerStatus ∧
      (sys.process nowMs reply).service =
        sys.service.retry nowMs (if reply.triggerStatus = .busError then 50 else 100) := by
  rw [access, state, process, state]
  simp only [if_neg due, if_neg failed, handleTriggerState, and_self]

end

/-- The bus answers every transaction with the same error. -/
def failingReply (status : I2cStatus) : I2cReply :=
  ⟨status, status, Vector.replicate 6 0⟩

/-- Three triggers, each as soon as it is due after an error of the bus. -/
def threeTriggers (status : I2cStatus) : List LoopEvent :=
  [.cycle 0 (failingReply status), .cycle 100 (failingReply status),
    .cycle 200 (failingReply status)]

section

variable [DoubleArith D]

/-- The wait after a failed trigger. -/
def triggerWaitMs (status : I2cStatus) : UInt32 :=
  if status = .busError then 50 else 100

/-- Three triggers that fail after the initialization. -/
theorem run_threeTriggers
    {sys : System D}
    (initially : sys.service = SensorService.initialize)
    {status : I2cStatus}
    (failed : status ≠ .ok) :
    sys.accesses (threeTriggers status) =
        [.triggerFailed status, .triggerFailed status, .triggerFailed status] ∧
      (sys.runLoop (threeTriggers status)).device.errors =
        sys.device.errors.applyAll [.i2cError status, .i2cError status, .i2cError status] ∧
      (sys.runLoop (threeTriggers status)).service =
        sys.service.retry 200 (triggerWaitMs status) := by
  have due (nowMs : UInt32) (early : nowMs = 100 ∨ nowMs = 0) :
      ¬ (nowMs + 100 - (nowMs + triggerWaitMs status)).toInt32 < 0 := by
    obtain rfl | rfl := early <;> cases status <;> decide
  let afterFirst := sys.process 0 (failingReply status)
  let afterSecond := afterFirst.process 100 (failingReply status)
  obtain ⟨first, firstService⟩ : sys.access 0 (failingReply status) = .triggerFailed status ∧
      afterFirst.service = sys.service.retry 0 (triggerWaitMs status) :=
    access_of_failedTrigger (by rw [initially]; rfl) (by rw [initially]; decide) failed
  obtain ⟨second, secondService⟩ :
      afterFirst.access 100 (failingReply status) = .triggerFailed status ∧
        afterSecond.service = afterFirst.service.retry 100 (triggerWaitMs status) :=
    access_of_failedTrigger (by rw [firstService]; rfl)
      (by rw [firstService]; exact due 0 (Or.inr rfl)) failed
  obtain ⟨third, thirdService⟩ :
      afterSecond.access 200 (failingReply status) = .triggerFailed status ∧
        (afterSecond.process 200 (failingReply status)).service =
          afterSecond.service.retry 200 (triggerWaitMs status) :=
    access_of_failedTrigger (by rw [secondService]; rfl)
      (by rw [secondService]; exact due 100 (Or.inl rfl)) failed
  refine ⟨?_, ?_, ?_⟩
  · simp only [threeTriggers, accesses_cons, accesses_nil, loopAccess, loopStep]
    rw [first, second, third]
  · simp only [threeTriggers, runLoop_cons, runLoop_nil, loopStep, process_errors]
    rw [first, second, third]
    simp only [Access.reports, ErrorManager.applyAll_cons, ErrorManager.applyAll_nil]
  · refine Eq.trans thirdService ?_
    rw [secondService, firstService]
    rfl

theorem attempts_threeTriggers
    {sys : System D}
    (initially : sys.service = SensorService.initialize)
    {status : I2cStatus}
    (failed : status ≠ .ok) :
    sys.attempts (threeTriggers status) =
      [.triggerFailed status, .triggerFailed status, .triggerFailed status] := by
  rw [attempts, (run_threeTriggers initially failed).1]
  rfl

/-- A start of the unit test image with an empty configuration sector. -/
def unitTestStart : System ℚ :=
  started (fun _ _ => []) none false (Device.powerOn BuildInfo.unitTest)

theorem unitTestStart_service : unitTestStart.service = SensorService.initialize := rfl

theorem unitTestStart_errors :
    unitTestStart.device.errors = ErrorManager.initialized :=
  started_errors _ _ _ _

/-- Three triggers that fail with a timeout raise the request. -/
theorem recoveryRequested_after_three_timeouts :
    unitTestStart.attempts (threeTriggers .timeout) =
        [.triggerFailed .timeout, .triggerFailed .timeout, .triggerFailed .timeout] ∧
      (unitTestStart.runLoop (threeTriggers .timeout)).device.errors.recoveryRequested =
        true := by
  have attempts := attempts_threeTriggers unitTestStart_service
    (by decide : I2cStatus.timeout ≠ .ok)
  exact ⟨attempts, recoveryRequested_of_three_failures (fun _ _ => []) none false
    (Device.powerOn BuildInfo.unitTest) [] (threeTriggers .timeout) _ _ _ attempts
    (by simp [threeTriggers, LoopEvent.isRecovery])
    (Or.inr (by simp [Access.severe, Access.isTrigger, I2cStatus.severe]))⟩

/-- Three attempts can fail with no request: triggers that are not acknowledged
count neither as read failures nor as severe bus errors. -/
theorem three_nacks_raise_no_request :
    ¬ ∀ (imageBytes : SettingsStruct → SensorStruct ℚ → List UInt8)
        (flashData : Option (FlashConfig ℚ)) (watchdogReset : Bool) (dev : Device ℚ)
        (earlier later : List LoopEvent) (first second third : Access),
      ((started imageBytes flashData watchdogReset dev).runLoop earlier).attempts later =
          [first, second, third] →
        (∀ attempt ∈ [first, second, third], attempt.failed = true) →
          (∀ event ∈ later, event.isRecovery = false) →
            (((started imageBytes flashData watchdogReset dev).runLoop earlier).runLoop
              later).device.errors.recoveryRequested = true := by
  intro requests
  have unacknowledged : I2cStatus.nack ≠ .ok := by decide
  have requested := requests (fun _ _ => []) none false (Device.powerOn BuildInfo.unitTest) []
    (threeTriggers .nack) _ _ _ (attempts_threeTriggers unitTestStart_service unacknowledged)
    (by simp [Access.failed]) (by simp [threeTriggers, LoopEvent.isRecovery])
  rw [runLoop_nil, ← unitTestStart,
    (run_threeTriggers unitTestStart_service unacknowledged).2.1, unitTestStart_errors]
    at requested
  exact absurd requested (by decide)

end

end System

end SensorFirmware
