import SensorFirmware.App.Firmware
import SensorFirmware.Errors.FaultHistory

/-!
# When the watchdog is fed

An iteration feeds the watchdog unless a fatal fault is latched.  Of the three kinds of
burst that raise the fault only one can happen in the main loop: the queue of frames is
empty whenever a frame arrives, and a recovery of the bus always succeeds, so what is left
are saves that fail.
-/

namespace SensorFirmware

open Streak (HasBurst)

/-- The result of a save that a call reports. -/
def ErrorOp.saved : ErrorOp → Option Bool
  | .flashSaveFailure => some false
  | .flashSaveSuccess => some true
  | _ => none

/-- Reports without an overflow and without a failed recovery, that tell of some saves. -/
structure ReportsSaves (saves : List Bool) (reports : List ErrorOp) : Prop where
  noOverflow : .uartOverflow ∉ reports
  recovered : .i2cRecovery false ∉ reports
  saves : reports.filterMap ErrorOp.saved = saves

namespace ReportsSaves

theorem append
    {earlier later : List Bool}
    {first second : List ErrorOp}
    (reportsFirst : ReportsSaves earlier first)
    (reportsSecond : ReportsSaves later second) :
    ReportsSaves (earlier ++ later) (first ++ second) where
  noOverflow reported :=
    (List.mem_append.mp reported).elim reportsFirst.noOverflow reportsSecond.noOverflow
  recovered reported :=
    (List.mem_append.mp reported).elim reportsFirst.recovered reportsSecond.recovered
  saves := by rw [List.filterMap_append, reportsFirst.saves, reportsSecond.saves]

/-- Calls of other kinds report no save. -/
theorem of_others
    {reports : List ErrorOp}
    (others : ∀ operation ∈ reports, operation ≠ .uartOverflow ∧
      operation ≠ .i2cRecovery false ∧ operation.saved = none) :
    ReportsSaves [] reports where
  noOverflow reported := (others _ reported).1 rfl
  recovered reported := (others _ reported).2.1 rfl
  saves := List.filterMap_eq_nil_iff.mpr fun operation reported =>
    (others operation reported).2.2

/-- A frame is no save. -/
theorem of_process
    {calls : ProcessCalls}
    (queued : calls.queued ≠ some 0) :
    ReportsSaves [] calls.reports := by
  rw [ProcessCalls.reports, if_neg queued, List.nil_append]
  cases calls.processed with
  | none => exact of_others fun _ reported => absurd reported List.not_mem_nil
  | some frame => exact of_others (frame.forall_mem_reports _ (by decide) (by decide))

/-- An access to the sensor is no save. -/
theorem of_access (access : Access) : ReportsSaves [] access.reports := by
  cases access with
  | idle | triggered | rejected | accepted => exact ⟨by decide, by decide, by decide⟩
  | triggerFailed status | readFailed status =>
      exact ⟨by simp [Access.reports], by simp [Access.reports], rfl⟩

end ReportsSaves

/-- The result of a save. -/
def LoopEvent.saved : LoopEvent → List Bool
  | .save success => [success]
  | _ => []

/-- What an action of the main loop reports. -/
theorem ReportsSaves.of_event
    (sys : System D)
    (event : LoopEvent)
    (room : event ≠ .uartOverflow)
    (recovers : event ≠ .recovery false) :
    ReportsSaves event.saved (sys.loopReports event) := by
  cases event with
  | cycle nowMs reply => exact .of_access (sys.access nowMs reply)
  | frame frame => exact .of_others (frame.forall_mem_reports _ (by decide) (by decide))
  | uartOverflow => exact absurd rfl room
  | recovery success =>
      cases success with
      | true => exact ⟨by simp [System.loopReports], by simp [System.loopReports], rfl⟩
      | false => exact absurd rfl recovers
  | save success =>
      cases success <;>
        exact ⟨by simp [System.loopReports], by simp [System.loopReports], rfl⟩
  | check | supplyVoltage =>
      exact ⟨by simp [System.loopReports], by simp [System.loopReports], rfl⟩

/-- Without an overflow and without a failed recovery, only failed saves raise the
fault. -/
theorem ErrorManager.fatalFault_iff_of_saves
    {history : List ErrorOp}
    (noOverflow : .uartOverflow ∉ history)
    (recovered : .i2cRecovery false ∉ history) :
    (initialized.applyAll history).fatalFault = true ↔
      HasBurst (· == .flashSaveFailure) (· == .flashSaveSuccess) 3 history := by
  induction history using List.reverseRecOn with
  | nil =>
      rw [Streak.hasBurst_nil_iff]
      decide
  | append_singleton history operation inductionHypothesis =>
      have earlier := inductionHypothesis
        (fun reported => noOverflow (List.mem_append_left _ reported))
        (fun reported => recovered (List.mem_append_left _ reported))
      have noStreak {hit reset : ErrorOp → Bool} {size : Nat} (positive : 0 < size)
          (noHit : ∀ event ∈ history ++ [operation], hit event = false) :
          ¬ size ≤ Streak.streak hit reset (history ++ [operation]) := fun reached =>
        Streak.not_hasBurst_of_no_hit positive noHit (Streak.hasBurst_of_le_streak reached)
      have overflows := @noStreak (· == .uartOverflow) (· == .validModbusFrame) 5
        (by decide) fun event listed => beq_false_of_ne fun same => noOverflow (same ▸ listed)
      have failures := @noStreak (· == .i2cRecovery false)
        (fun operation => operation == .i2cSuccess || operation == .i2cRecovery true) 2
        (by decide) fun event listed => beq_false_of_ne fun same => recovered (same ▸ listed)
      have reached := overThreshold_applyAll_iff (history ++ [operation])
      rw [or_iff_right overflows, or_iff_left failures] at reached
      rw [applyAll_append, applyAll_singleton] at reached ⊢
      rw [apply_fatalFault _ operation (latched_applyAll history), Bool.or_eq_true, earlier,
        reached, Streak.hasBurst_append_singleton_iff]

/-- The fault tells of three failed saves in a row. -/
theorem ReportsSaves.fatalFault_iff
    {saves : List Bool}
    {history : List ErrorOp}
    (reports : ReportsSaves saves history) :
    (ErrorManager.initialized.applyAll history).fatalFault = true ↔
      HasBurst not id 3 saves := by
  have failures (operation : ErrorOp) :
      (operation == .flashSaveFailure) = operation.saved.any not := by
    cases operation <;> rfl
  have successes (operation : ErrorOp) :
      (operation == .flashSaveSuccess) = operation.saved.any id := by
    cases operation <;> rfl
  have picked := Streak.hasBurst_filterMap_iff ErrorOp.saved failures successes 3 history
  rw [reports.saves] at picked
  rw [ErrorManager.fatalFault_iff_of_saves reports.noOverflow reports.recovered, picked]

/-! ## The reports of an iteration -/

/-- From an empty queue of frames the device went on to an empty queue, and what was
reported meanwhile tells of some saves. -/
def Device.ContinuesWith (saves : List Bool) (dev after : Device D) : Prop :=
  dev.QueueEmpty → after.QueueEmpty ∧
    ∃ reports, after.errors = dev.errors.applyAll reports ∧ ReportsSaves saves reports

namespace Device.ContinuesWith

theorem trans
    {earlier later : List Bool}
    {dev middle after : Device D}
    (first : ContinuesWith earlier dev middle)
    (second : ContinuesWith later middle after) :
    ContinuesWith (earlier ++ later) dev after := by
  intro empty
  obtain ⟨middleEmpty, firstReports, reported, tells⟩ := first empty
  obtain ⟨afterEmpty, secondReports, reportedAfter, tellsAfter⟩ := second middleEmpty
  refine ⟨afterEmpty, firstReports ++ secondReports, ?_, tells.append tellsAfter⟩
  rw [ErrorManager.applyAll_append, ← reported, reportedAfter]

theorem of_same
    {dev after : Device D}
    (sameQueue : after.modbus.frameQueue = dev.modbus.frameQueue)
    (sameErrors : after.errors = dev.errors) :
    ContinuesWith [] dev after := by
  intro empty
  refine ⟨?_, [], sameErrors, by decide, by decide, rfl⟩
  rw [QueueEmpty, sameQueue]
  exact empty

/-- A call of `ModbusService::process` saves nothing. -/
theorem of_process [DoubleArith D]
    (dev : Device D)
    (received : Option UartFrame)
    (time : UInt32) :
    ContinuesWith [] dev (dev.process received time).2 := by
  intro empty
  obtain ⟨emptied, queued, -⟩ := empty.process received time
  exact ⟨emptied, _, dev.process_errors received time, .of_process queued⟩

/-- Any other action of the main loop tells of its save. -/
theorem of_loopStep [DoubleArith D]
    (sys : System D)
    (event : LoopEvent)
    (room : event ≠ .uartOverflow)
    (recovers : event ≠ .recovery false) :
    ContinuesWith event.saved sys.device (sys.loopStep event).device := by
  intro empty
  refine ⟨?_, _, sys.loopStep_errors event, .of_event sys event room recovers⟩
  rw [QueueEmpty, Application.loopStep_frameQueue]
  exact empty

end Device.ContinuesWith

namespace Firmware

variable [DoubleArith D] [DoubleLayout D]

/-- The result of the save in an iteration, if one is requested. -/
def saveResult (fw : Firmware D) (input : FirmwareInput) : Option Bool :=
  let app := fw.app.receive input.received input.receivedMs
  if app.settings.SaveRequested then
    some (app.configManager.saveDeviceConfig input.padding input.replies).1
  else none

/-- The results of the saves of a run, in order. -/
def saves (i2c1 : I2c1) (fw : Firmware D) (inputs : List FirmwareInput) : List Bool :=
  (Transition.outputs (iterate i2c1) saveResult fw inputs).filterMap id

/-- What precedes the sensor service in an iteration tells of its save. -/
theorem beforeSensor_continuesWith
    (fw : Firmware D)
    (input : FirmwareInput) :
    Device.ContinuesWith (fw.saveResult input).toList fw.app.system.device
      (fw.beforeSensor input).system.device := by
  have received : Device.ContinuesWith [] fw.app.system.device
      (fw.app.receive input.received input.receivedMs).system.device :=
    .of_process fw.app.system.device input.received input.receivedMs
  have saved : Device.ContinuesWith (fw.saveResult input).toList
      (fw.app.receive input.received input.receivedMs).system.device
      ((fw.app.receive input.received input.receivedMs).saveRequested input.padding
        input.replies).system.device := by
    rw [saveResult, Application.saveRequested]
    generalize fw.app.receive input.received input.receivedMs = app
    split
    · let saved := app.configManager.saveDeviceConfig input.padding input.replies
      let configured := app.withConfigManager saved.2
      have same : Device.ContinuesWith [] app.system.device configured.system.device :=
        .of_same rfl rfl
      exact same.trans (.of_loopStep configured.system (.save saved.1) (by simp) (by simp))
    · exact .of_same rfl rfl
  have measured := (received.trans saved).trans
    (.of_loopStep _ (.supplyVoltage input.supplyVoltage) (by simp) (by simp))
  simp only [LoopEvent.saved, List.nil_append, List.append_nil] at measured
  exact measured

/-- An iteration tells of its save. -/
theorem iterate_continuesWith
    (i2c1 : I2c1)
    (fw : Firmware D)
    (input : FirmwareInput) :
    Device.ContinuesWith (fw.saveResult input).toList fw.app.system.device
      (fw.iterate i2c1 input).app.system.device := by
  have prepared := fw.beforeSensor_continuesWith input
  have recovered (system : System D) (bus : I2cBus) :
      Device.ContinuesWith [] system.device (recoverIfRequested i2c1 system bus).1.device := by
    rw [recoverIfRequested]
    split
    · exact .of_loopStep system (.recovery true) (by simp) (by simp)
    · exact .of_same rfl rfl
  have accessed : Device.ContinuesWith [] (fw.beforeSensor input).system.device
      ((fw.beforeSensor input).system.processOn i2c1 fw.bus input.nowMs).1.device := by
    rw [System.processOn_system]
    exact .of_loopStep _ (.cycle input.nowMs _) (by simp) (by simp)
  have checked := (prepared.trans accessed).trans (.of_loopStep _ .check (by simp) (by simp))
  have served := checked.trans (recovered _
    ((fw.beforeSensor input).system.processOn i2c1 fw.bus input.nowMs).2)
  simp only [LoopEvent.saved, List.append_nil] at served
  simp only [iterate, Application.withSystem]
  exact served

/-- The watchdog is fed unless the fault is latched. -/
theorem iterate_kicks
    (i2c1 : I2c1)
    (fw : Firmware D)
    (input : FirmwareInput) :
    (fw.iterate i2c1 input).kicks =
      if (fw.iterate i2c1 input).app.system.device.errors.fatalFault = true then fw.kicks
      else fw.kicks + 1 := by
  simp only [iterate, Application.withSystem, ErrorManager.shouldFeedWatchdog,
    ErrorManager.systemHealthy, Bool.not_eq_true']
  generalize ErrorManager.fatalFault _ = fault
  cases fault <;> rfl

/-- No frame waits after the start. -/
theorem boot_queueEmpty
    (i2c1 : I2c1)
    (build : BuildInfo)
    (sector : ConfigSector)
    (padding : Vector UInt8 2)
    (replies : SaveReplies)
    (watchdogReset : Bool) :
    (boot i2c1 build sector padding replies watchdogReset : Firmware
      D).app.system.device.QueueEmpty :=
  Application.initialized_queueEmpty _ padding replies watchdogReset

/-- The start tells of no save. -/
theorem boot_errors
    (i2c1 : I2c1)
    (build : BuildInfo)
    (sector : ConfigSector)
    (padding : Vector UInt8 2)
    (replies : SaveReplies)
    (watchdogReset : Bool) :
    ∃ reports, (boot i2c1 build sector padding replies watchdogReset : Firmware
        D).app.system.device.errors = ErrorManager.initialized.applyAll reports ∧
      ReportsSaves [] reports := by
  refine ⟨if watchdogReset then [.watchdogReset] else [], ?_, ?_⟩
  · rw [boot, Application.initialized_system, System.started_errors]
  · cases watchdogReset <;> exact ⟨by decide, by decide, rfl⟩

theorem saves_concat
    (i2c1 : I2c1)
    (fw : Firmware D)
    (inputs : List FirmwareInput)
    (input : FirmwareInput) :
    fw.saves i2c1 (inputs ++ [input]) =
      fw.saves i2c1 inputs ++ ((fw.run i2c1 inputs).saveResult input).toList :=
  Transition.filterMap_outputs_concat (iterate i2c1) saveResult fw inputs input

/-- A run tells of its saves. -/
theorem run_continuesWith
    (i2c1 : I2c1)
    (fw : Firmware D)
    (inputs : List FirmwareInput) :
    Device.ContinuesWith (fw.saves i2c1 inputs) fw.app.system.device
      (fw.run i2c1 inputs).app.system.device := by
  induction inputs using List.reverseRecOn with
  | nil => exact .of_same rfl rfl
  | append_singleton inputs input inductionHypothesis =>
      rw [saves_concat, run_concat]
      exact inductionHypothesis.trans (iterate_continuesWith i2c1 _ input)

/-- In every run from the start, whatever frames arrive and whatever the bus and the
flash do, an iteration feeds the watchdog exactly when no three requested saves in a row
have failed so far.  So nothing else starves it, and after three such failures nothing
feeds it again. -/
theorem run_feedsWatchdog
    (i2c1 : I2c1)
    (build : BuildInfo)
    (sector : ConfigSector)
    (padding : Vector UInt8 2)
    (replies : SaveReplies)
    (watchdogReset : Bool)
    (inputs : List FirmwareInput)
    (input : FirmwareInput) :
    let start : Firmware D := boot i2c1 build sector padding replies watchdogReset
    let before := start.run i2c1 inputs
    let failed := HasBurst not id 3 (start.saves i2c1 (inputs ++ [input]))
    (¬ failed → (before.iterate i2c1 input).kicks = before.kicks + 1) ∧
      (failed → (before.iterate i2c1 input).kicks = before.kicks) := by
  intro start before failed
  have empty := boot_queueEmpty i2c1 build sector padding replies watchdogReset (D := D)
  obtain ⟨-, reports, reported, tells⟩ :=
    start.run_continuesWith i2c1 (inputs ++ [input]) empty
  obtain ⟨booted, bootReports, bootTells⟩ := boot_errors i2c1 build sector padding replies
    watchdogReset (D := D)
  have fault : (before.iterate i2c1 input).app.system.device.errors.fatalFault = true ↔
      failed := by
    have history := bootTells.append tells
    rw [← run_concat, reported, bootReports, ← ErrorManager.applyAll_append]
    exact history.fatalFault_iff
  rw [iterate_kicks]
  constructor
  · intro fine
    rw [if_neg (fine ∘ fault.mp)]
  · intro burst
    rw [if_pos (fault.mpr burst)]

end Firmware

end SensorFirmware
