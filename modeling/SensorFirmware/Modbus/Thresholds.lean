import SensorFirmware.Modbus.Mirror
import SensorFirmware.Modbus.RegisterFile

/-!
# Alarm thresholds

The holding registers of the alarm thresholds are live: the measurement cycle
compares against them.  They are written by single writes, by the arguments of
commands and by every synchronization with the configuration.
-/

namespace SensorFirmware

open BigEndian ModbusService

namespace Device

/-- The threshold registers show the configured thresholds. -/
def ThresholdsMirrored (dev : Device D) : Prop :=
  ∀ index, index < 3 →
    dev.holding (regTempHighAlarm + index) =
      FixedArray.read dev.deviceConfig.alarmThreshold index

variable [DoubleArith D]

theorem syncAll_thresholdsMirrored (dev : Device D) : dev.syncAll.ThresholdsMirrored := by
  intro index inside
  rw [syncAll_holding]
  exact RegisterBank.syncAll_threshold _ _ _ _ _ index inside

/-! ## Frames that run a command -/

section

variable {dev : Device D} {frame : FrameItem} (runs : dev.RunsCommand frame)

include runs

/-- The command of the frame is accepted exactly when its words are those of an
acceptable command. -/
theorem commandState_accepts_iff :
    CommandAccepted D (dev.commandState frame).holding
        (dev.commandState frame).deviceConfig frame.qty ↔
      CommandAccepted D (dev.requestWord frame) dev.deviceConfig frame.qty := by
  rw [commandState_holding dev runs.2.2.2.1, ignoresTraffic_deviceConfig.commandState]

/-- After an accepted command every register but the command register shows the
configuration records. -/
theorem frameStep_accepted_holding
    (accepted : CommandAccepted D (dev.requestWord frame) dev.deviceConfig frame.qty)
    (reg : Nat)
    (other : reg ≠ commandCode) :
    (dev.frameStep frame).holding reg =
      ((dev.commandState frame).handleCommand frame.qty).2.syncAll.holding reg := by
  rw [frameStep_runsCommand runs]
  exact runCommand_accepted_holding runs.2.2.2.2
    ((commandState_accepts_iff runs).mpr accepted) reg other

/-- A rejected command leaves the words of its request in the registers. -/
theorem frameStep_rejected_holding
    (rejected : ¬ CommandAccepted D (dev.requestWord frame) dev.deviceConfig frame.qty)
    (reg : Nat)
    (other : reg ≠ commandCode) :
    (dev.frameStep frame).holding reg = dev.requestWord frame reg := by
  have refused := (commandState_accepts_iff runs).not.mpr rejected
  rw [frameStep_runsCommand runs,
    runCommand_rejected_holding runs.2.2.2.2 refused reg other,
    commandState_holding dev runs.2.2.2.1]

theorem frameStep_command_deviceConfig :
    (dev.frameStep frame).deviceConfig =
      ((dev.commandState frame).handleCommand frame.qty).2.deviceConfig := by
  rw [frameStep_runsCommand runs]
  exact runCommand_project Device.deviceConfig (fun _ _ => rfl) runs.2.2.2.2

end

/-- Only an accepted sensor package changes the configured thresholds. -/
theorem handleCommand_alarmThreshold
    (dev : Device D)
    (qty : UInt16)
    (kept : dev.holding commandCode = setSensorData →
      ¬ CommandAccepted D dev.holding dev.deviceConfig qty) :
    (dev.handleCommand qty).2.deviceConfig.alarmThreshold =
      dev.deviceConfig.alarmThreshold := by
  have accepts := handleCommand_accepts_iff dev qty
  rcases handleCommand_cases dev qty with
    ⟨code, handled⟩ | ⟨_, handled⟩ | ⟨_, handled⟩ | ⟨_, handled⟩
  · rw [handled] at accepts ⊢
    have rejected := accepts.not.mpr (kept code)
    rw [(saveSensorSettings_rejected dev _ _ rejected).1]
  · rw [handled, saveBaseSettings_alarmThreshold]
  · rw [handled]
  · rw [handled]

/-- An accepted command leaves the thresholds mirrored. -/
theorem frameStep_accepted_mirrored
    {dev : Device D}
    {frame : FrameItem}
    (runs : dev.RunsCommand frame)
    (accepted : CommandAccepted D (dev.requestWord frame) dev.deviceConfig frame.qty) :
    (dev.frameStep frame).ThresholdsMirrored := by
  intro index inside
  have other : regTempHighAlarm + index ≠ commandCode := by simp; omega
  rw [frameStep_accepted_holding runs accepted _ other,
    syncAll_thresholdsMirrored _ index inside, frameStep_command_deviceConfig runs]
  rfl

/-- A multiple write over the command register that runs nothing was refused. -/
theorem frameStep_refused_holding
    {dev : Device D}
    {frame : FrameItem}
    (code : frame.byte 1 = fcWriteMultipleRegs)
    (covers : CoversCommand frame.addr frame.qty)
    (quiet : ¬ dev.RunsCommand frame)
    (reg : Nat) :
    (dev.frameStep frame).holding reg = dev.holding reg := by
  rw [frameStep]
  have processed := processFrame_processed dev (some frame)
  generalize dev.processFrame (some frame) = result at processed ⊢
  cases processed with
  | runt => rfl
  | corrupted => rfl
  | foreign => rfl
  | dispatched _ reaches =>
      have handled := dispatch_handled dev.noteValidFrame frame
      generalize dev.noteValidFrame.dispatch frame = result at handled ⊢
      cases handled with
      | tooShort => rfl
      | refused => exact answerError_holding _ _ _ _ _
      | readHolding other => exact absurd (code.symm.trans other) (by decide)
      | readInput other => exact absurd (code.symm.trans other) (by decide)
      | writeSingle other => exact absurd (code.symm.trans other) (by decide)
      | writeMultiple _ long valid =>
          exact absurd ⟨reaches, code, long, valid, covers⟩ quiet

/-! ## Settings frames -/

/-- A multiple write that carries one of the settings commands. -/
def CarriesSettings (frame : FrameItem) : Prop :=
  frame.byte 1 = fcWriteMultipleRegs ∧ CoversCommand frame.addr frame.qty ∧
    (frame.wordAt (7 + (commandCode - frame.addr.toNat) * 2) = setSensorData ∨
      frame.wordAt (7 + (commandCode - frame.addr.toNat) * 2) = setDetectorData)

/-- The request repeats the configured thresholds where it covers their
registers. -/
def RepeatsThresholds (dev : Device D) (frame : FrameItem) : Prop :=
  ∀ index, index < 3 →
    dev.requestWord frame (regTempHighAlarm + index) =
      FixedArray.read dev.deviceConfig.alarmThreshold index

/-- A rejected command leaves the thresholds mirrored exactly when its words
repeat them. -/
theorem frameStep_rejected_mirrored_iff
    {dev : Device D}
    {frame : FrameItem}
    (runs : dev.RunsCommand frame)
    (rejected : ¬ CommandAccepted D (dev.requestWord frame) dev.deviceConfig frame.qty) :
    (dev.frameStep frame).ThresholdsMirrored ↔ dev.RepeatsThresholds frame := by
  have refused := (commandState_accepts_iff runs).not.mpr rejected
  have config : (dev.frameStep frame).deviceConfig.alarmThreshold =
      dev.deviceConfig.alarmThreshold := by
    rw [frameStep_command_deviceConfig runs,
      handleCommand_alarmThreshold _ _ fun _ => refused,
      ignoresTraffic_deviceConfig.commandState]
  refine forall_congr' fun index => imp_congr_right fun inside => ?_
  have other : regTempHighAlarm + index ≠ commandCode := by simp; omega
  rw [config, frameStep_rejected_holding runs rejected _ other]

/-- A settings frame keeps mirrored thresholds mirrored exactly when it is
refused before it writes, its command is accepted, or its words repeat the
thresholds. -/
theorem frameStep_settings_mirrored_iff
    (dev : Device D)
    (frame : FrameItem)
    (mirrored : dev.ThresholdsMirrored)
    (carries : CarriesSettings frame) :
    (dev.frameStep frame).ThresholdsMirrored ↔
      (dev.RunsCommand frame →
        CommandAccepted D (dev.requestWord frame) dev.deviceConfig frame.qty ∨
          dev.RepeatsThresholds frame) := by
  obtain ⟨code, covers, _⟩ := carries
  by_cases runs : dev.RunsCommand frame
  · by_cases accepted :
      CommandAccepted D (dev.requestWord frame) dev.deviceConfig frame.qty
    · exact iff_of_true (frameStep_accepted_mirrored runs accepted)
        fun _ => Or.inl accepted
    · rw [frameStep_rejected_mirrored_iff runs accepted]
      exact ⟨fun repeats _ => Or.inr repeats,
        fun keeps => (keeps runs).resolve_left accepted⟩
  · refine iff_of_true (fun index inside => ?_) fun ran => absurd ran runs
    rw [frameStep_refused_holding code covers runs,
      ignoresTraffic_deviceConfig.frameStep runs]
    exact mirrored index inside

/-- A first-start device mirrors its thresholds. -/
theorem firstBoot_thresholdsMirrored (build : BuildInfo) :
    (firstBoot build : Device D).ThresholdsMirrored :=
  syncAll_thresholdsMirrored _

/-- Registers 0 to 46 of a base package with slave id 0, which is not legal. -/
def idZeroPackage : List UInt16 := [0, setDetectorData] ++ List.replicate 45 0

/-- This package carries a settings command. -/
private theorem idZeroPackage_carriesSettings :
    CarriesSettings (writeMultipleRequest 1 0 idZeroPackage) := by
  have few : idZeroPackage.length ≤ 123 := by decide
  have code := writeMultipleRequest_header 1 0 idZeroPackage few 1 (by decide)
  have command := writeMultipleRequest_payload 1 0 idZeroPackage few 1 (by decide)
  rw [CarriesSettings, CoversCommand, writeMultipleRequest_addr 1 0 idZeroPackage few,
    writeMultipleRequest_qty 1 0 idZeroPackage few]
  exact ⟨code, by decide, Or.inr command⟩

theorem frameStep_idZero_mirrored_iff :
    let dev : Device ℚ := firstBoot BuildInfo.unitTest
    let frame := writeMultipleRequest 1 0 idZeroPackage
    (dev.frameStep frame).ThresholdsMirrored ↔
      (dev.RunsCommand frame →
        CommandAccepted ℚ (dev.requestWord frame) dev.deviceConfig frame.qty ∨
          dev.RepeatsThresholds frame) :=
  frameStep_settings_mirrored_iff _ _ (firstBoot_thresholdsMirrored _)
    idZeroPackage_carriesSettings

/-- It is rejected, and replaces all three thresholds in the registers. -/
theorem frameStep_idZero_unmirrors :
    let dev : Device ℚ := firstBoot BuildInfo.unitTest
    let frame := writeMultipleRequest 1 0 idZeroPackage
    dev.ThresholdsMirrored ∧ CarriesSettings frame ∧
      ¬ (dev.frameStep frame).ThresholdsMirrored := by
  intro dev frame
  refine ⟨firstBoot_thresholdsMirrored _, idZeroPackage_carriesSettings, ?_⟩
  have register := requestWord_package dev 1 idZeroPackage (by decide)
  have runs : dev.RunsCommand frame :=
    runsCommand_writeMultipleRequest (firstBoot_idValid _) (firstBoot_id _) 0
      idZeroPackage (by decide) (by decide) (by decide)
  have code : dev.requestWord frame commandCode = setDetectorData :=
    register 1 (by decide)
  have id : argumentsIn (dev.requestWord frame) 0 = 0 := register 2 (by decide)
  have rejected :
      ¬ CommandAccepted ℚ (dev.requestWord frame) dev.deviceConfig frame.qty := by
    rw [CommandAccepted, code]
    rintro (⟨other, _⟩ | ⟨_, _, idValid⟩ | other | other)
    · exact absurd other (by decide)
    · rw [BaseIdValid, id] at idValid
      exact absurd idValid.1 (by decide)
    · exact absurd other (by decide)
    · exact absurd other (by decide)
  rw [frameStep_rejected_mirrored_iff runs rejected]
  intro repeats
  have written : dev.requestWord frame regTempHighAlarm = 0 := register 0x26 (by decide)
  have same := repeats 0 (by decide)
  rw [Nat.add_zero, written, firstBoot_deviceConfig] at same
  exact absurd same (by decide)

end Device

end SensorFirmware
