import SensorFirmware.App.Events

/-!
# Diagnostics over the main loop

A read of input registers shows the whole history of the error manager.  A read
of holding registers shows the same words as long as no event leaves the mirror
behind.
-/

namespace SensorFirmware

open BigEndian ModbusService RegisterBank Streak

/-! ## The words that a history determines -/

/-- The words of the diagnostic registers after a history of calls. -/
def historyWord (history : List ErrorOp) : Nat → UInt16
  | 0x74 => (min 255 (history.countP (· == .crcError))).toUInt16
  | 0x75 => (min 255 (history.countP (· == .uartOverflow))).toUInt16
  | 0x76 => (min 255 (history.countP (· == .sensorReadFailure))).toUInt16
  | 0x77 =>
      (min 255 (history.countP fun operation =>
        operation == .i2cRecovery true || operation == .i2cRecovery false)).toUInt16
  | 0x78 => (min 255 (history.countP (· == .watchdogReset))).toUInt16
  | 0x79 => (min 255 (history.countP (· == .flashSaveFailure))).toUInt16
  | 0x7A => if (ErrorManager.initialized.applyAll history).fatalFault then 0 else 1
  | _ =>
      word
        (min 255
          (streak (· == .sensorReadFailure) (· == .sensorReadSuccess) history)).toUInt8
        0

/-- A saturated counter as a word. -/
theorem toUInt16_of_counter
    {counter : UInt8}
    {total : Nat}
    (counts : counter.toNat = min 255 total) :
    counter.toUInt16 = (min 255 total).toUInt16 := by
  apply UInt16.toNat.inj
  rw [UInt8.toNat_toUInt16, counts]
  exact (Nat.mod_eq_of_lt (by omega)).symm

/-- The diagnostics are a function of the history, and the valid frame that asks
for them ends a streak of overflows. -/
theorem diagnosticWord_history
    (history : List ErrorOp)
    (reg : Nat)
    (diagnostic : reg ∈ diagnosticRegs) :
    diagnosticWord (ErrorManager.initialized.applyAll history).reportValidModbusFrame reg =
      historyWord history reg := by
  have counts := ErrorManager.applyAll_counts history
  simp only [diagnosticRegs, List.mem_cons, List.not_mem_nil, or_false] at diagnostic
  rcases diagnostic with rfl | rfl | rfl | rfl | rfl | rfl | rfl | rfl
  · exact toUInt16_of_counter counts.crc
  · exact toUInt16_of_counter counts.uartOverflow
  · exact toUInt16_of_counter counts.sensorReadFail
  · exact toUInt16_of_counter counts.i2cRecovery
  · exact toUInt16_of_counter counts.watchdogReset
  · exact toUInt16_of_counter counts.flashSaveFail
  · cases fault : (ErrorManager.initialized.applyAll history).fatalFault <;>
      simp [diagnosticWord, historyWord, ErrorManager.systemHealthy,
        ErrorManager.reportValidModbusFrame, fault]
  · have narrowed :
        (ErrorManager.initialized.applyAll history).consecutiveSensorReadFailCount =
          (min 255 (streak (· == .sensorReadFailure) (· == .sensorReadSuccess)
            history)).toUInt8 := by
      apply UInt8.toNat.inj
      rw [counts.consecutiveSensorReadFail]
      exact (Nat.mod_eq_of_lt (by omega)).symm
    exact congrArg (word · 0) narrowed

namespace Device

variable [DoubleArith D]

theorem firstBoot_errors (build : BuildInfo) :
    (firstBoot build : Device D).errors = ErrorManager.initialized := by
  rw [firstBoot, boot, initialized_errors]

/-- In every run since the initialization of the error manager, an accepted read
of a diagnostic input register returns the word that the history of calls
determines. -/
theorem runEvents_reads_history
    (dev : Device D)
    (fresh : dev.errors = ErrorManager.initialized)
    (events : List DeviceEvent)
    (read : FrameItem)
    (reg : Nat)
    (diagnostic : reg ∈ diagnosticRegs)
    (reads : (dev.runEvents events).ReadsRegister fcReadInput read reg) :
    (dev.runEvents events).Returns read reg (historyWord (errorHistory events) reg) := by
  have current := returns_input_diagnostic reads diagnostic
  rwa [runEvents_errors, fresh, diagnosticWord_history _ reg diagnostic] at current

theorem runEvents_idValid
    {dev : Device D}
    (valid : dev.IdValid)
    (events : List DeviceEvent) :
    (dev.runEvents events).IdValid :=
  Transition.run_invariant IdValid (fun _ event => eventStep_idValid event) valid events

/-- A read of the sensor failures after two of them and a success. -/
theorem runEvents_reads_failures :
    let dev : Device ℚ := firstBoot BuildInfo.unitTest
    let events : List DeviceEvent :=
      [.report .sensorReadFailure, .report .sensorReadFailure, .report .sensorReadSuccess]
    let after := dev.runEvents events
    let read := twoWordRequest after.deviceConfig.id.toUInt8 fcReadInput
      (0x76 : Nat).toUInt16 1
    0x76 ∈ diagnosticRegs ∧ after.ReadsRegister fcReadInput read 0x76 ∧
      after.Returns read 0x76 (historyWord (errorHistory events) 0x76) := by
  intro dev events after read
  have idValid : after.IdValid := runEvents_idValid (firstBoot_idValid _) events
  have diagnostic : 0x76 ∈ diagnosticRegs := by decide
  have reads : after.ReadsRegister fcReadInput read 0x76 :=
    readsRegister_twoWordRequest idValid (Or.inr rfl) (by decide)
  exact ⟨diagnostic, reads, runEvents_reads_history dev (firstBoot_errors _) events read
    0x76 diagnostic reads⟩

/-! ## When the holding registers agree -/

/-- The event leaves the diagnostic holding registers current. -/
def EventKeepsDiagnostics (dev : Device D) : DeviceEvent → Prop
  | .report operation => KeepsWords dev.errors operation
  | .frame frame => dev.KeepsDiagnostics frame
  | _ => True

/-- Where the diagnostics are current, they stay so exactly when the event keeps
them. -/
theorem eventStep_mirrors_iff
    {dev : Device D}
    (event : DeviceEvent)
    (mirrors : dev.MirrorsDiagnostics) :
    (dev.eventStep event).MirrorsDiagnostics ↔ dev.EventKeepsDiagnostics event := by
  cases event with
  | frame frame => exact frameStep_mirrors_iff mirrors
  | report operation =>
      refine forall_congr' fun reg => imp_congr_right fun diagnostic => ?_
      have word := mirrors reg diagnostic
      constructor
      · intro current
        exact current.symm.trans word
      · intro same
        exact word.trans same.symm
  | publish temperature humidity =>
      refine iff_of_true (fun reg diagnostic => ?_) trivial
      rw [eventStep, updateModbus_holding,
        updateModbus_project _ _ _ (·.errors) fun _ _ => rfl]
      exact mirrors reg diagnostic
  | supplyVoltage value =>
      refine iff_of_true (fun reg diagnostic => ?_) trivial
      have other : reg ≠ regInVolValue := by
        rintro rfl
        exact absurd diagnostic (by decide)
      have inArray : regInVolValue < holdingRegSize := by decide
      rw [eventStep, setHoldingRegister, updateBank_holding, if_pos inArray,
        RegisterBank.holding_setHolding, if_neg fun same => other same.1]
      exact mirrors reg diagnostic
  | settingsSaved => exact iff_of_true mirrors trivial

/-- It leaves the diagnostics as the error manager has them. -/
theorem initialized_diagnostic
    (dev : Device D)
    (slaveAddress : UInt8)
    (reg : Nat)
    (diagnostic : reg ∈ diagnosticRegs) :
    (dev.initialized slaveAddress).holding reg = diagnosticWord dev.errors reg := by
  have kept := initialized_errors dev slaveAddress
  rw [initialized, syncAll, updateBank_errors] at kept
  rw [initialized, syncAll_diagnostic _ reg diagnostic, kept]

/-- The device starts with current diagnostics. -/
theorem started_mirrors
    (imageBytes : SettingsStruct → SensorStruct D → List UInt8)
    (flashData : Option (FlashConfig D))
    (watchdogReset : Bool)
    (dev : Device D) :
    (started imageBytes flashData watchdogReset dev).MirrorsDiagnostics := by
  intro reg diagnostic
  rw [started, initialized_diagnostic _ _ reg diagnostic, initialized_errors]
  cases watchdogReset with
  | false => rfl
  | true => rfl

/-- In every run after the start, both ways to read the diagnostics agree with
the error manager in every state that the run visits exactly when every event
keeps the holding registers current. -/
theorem run_diagnosticReads_agree_iff
    (imageBytes : SettingsStruct → SensorStruct D → List UInt8)
    (flashData : Option (FlashConfig D))
    (watchdogReset : Bool)
    (dev : Device D)
    (events : List DeviceEvent) :
    let start := started imageBytes flashData watchdogReset dev
    (∀ reached ∈ start :: Transition.visited eventStep start events,
        reached.DiagnosticReadsAgree) ↔
      Transition.AllSteps eventStep EventKeepsDiagnostics start events := by
  intro start
  have startValid : start.IdValid := started_idValid imageBytes flashData _ dev
  have startMirrors : start.MirrorsDiagnostics :=
    started_mirrors imageBytes flashData _ dev
  have visitedValid : ∀ reached ∈ Transition.visited eventStep start events,
      reached.IdValid :=
    Transition.forall_visited_of_kept IdValid (fun _ event => eventStep_idValid event)
      startValid events
  rw [List.forall_mem_cons, diagnosticReadsAgree_iff startValid, and_iff_right startMirrors,
    ← Transition.forall_visited_iff_allSteps MirrorsDiagnostics
      (fun _ event => eventStep_mirrors_iff event) startMirrors events]
  exact forall_congr' fun reached => imp_congr_right fun visited =>
    diagnosticReadsAgree_iff (visitedValid reached visited)

/-! ## A corrupted frame -/

/-- A frame whose last two bytes are no checksum of the first two. -/
def corruptedFrame : FrameItem := .ofBytes [1, 3, 0, 0]

theorem corruptedFrame_long : 4 ≤ corruptedFrame.len := by decide +kernel

theorem corruptedFrame_mismatch : ¬ corruptedFrame.CrcMatches := by decide +kernel

theorem corruptedFrame_reports : corruptedFrame.reports = [.crcError] := by
  rw [FrameItem.reports, if_neg (UInt16.not_lt.mpr corruptedFrame_long),
    if_neg corruptedFrame_mismatch]

/-- After a corrupted frame a read of the CRC failures returns none as a holding
register and one as an input register. -/
theorem corruptedFrame_reads_differ :
    let start : Device ℚ := started (fun _ _ => []) none false (powerOn BuildInfo.unitTest)
    let after := start.runEvents [.frame corruptedFrame]
    let id := after.deviceConfig.id.toUInt8
    let readHolding := twoWordRequest id fcReadHolding (0x74 : Nat).toUInt16 1
    let readInput := twoWordRequest id fcReadInput (0x74 : Nat).toUInt16 1
    after.ReadsRegister fcReadHolding readHolding 0x74 ∧
      after.ReadsRegister fcReadInput readInput 0x74 ∧
        after.Returns readHolding 0x74 0 ∧ after.Returns readInput 0x74 1 := by
  intro start after id readHolding readInput
  have diagnostic : 0x74 ∈ diagnosticRegs := by decide
  have idValid : after.IdValid := runEvents_idValid (started_idValid _ _ _ _) _
  have holding : after.ReadsRegister fcReadHolding readHolding 0x74 :=
    readsRegister_twoWordRequest idValid (Or.inl rfl) (by decide)
  have input : after.ReadsRegister fcReadInput readInput 0x74 :=
    readsRegister_twoWordRequest idValid (Or.inr rfl) (by decide)
  have startErrors : start.errors = ErrorManager.initialized := by
    show (started _ _ _ _).errors = _
    rw [started, initialized_errors]
    rfl
  have stale : after.holding 0x74 = 0 := by
    have unchanged : after = { start with errors := start.errors.reportCrcError } :=
      frameStep_corrupted start corruptedFrame_long corruptedFrame_mismatch
    have initially := started_mirrors (fun _ _ => []) none false
      (powerOn BuildInfo.unitTest : Device ℚ) 0x74 diagnostic
    rw [unchanged]
    refine Eq.trans initially ?_
    rw [startErrors]
    rfl
  have current : diagnosticWord after.errors.reportValidModbusFrame 0x74 = 1 := by
    have history : errorHistory [.frame corruptedFrame] = [.crcError] := by
      rw [errorHistory, List.flatMap_cons, DeviceEvent.reports, corruptedFrame_reports]
      rfl
    rw [runEvents_errors, startErrors, history,
      diagnosticWord_history [.crcError] 0x74 diagnostic]
    decide
  refine ⟨holding, input, (holding.returns_holding_iff (by decide) 0).mpr stale, ?_⟩
  rw [← current]
  exact returns_input_diagnostic input diagnostic

end Device

end SensorFirmware
