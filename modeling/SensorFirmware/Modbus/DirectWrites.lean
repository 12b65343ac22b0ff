import SensorFirmware.Modbus.Thresholds

/-!
# Direct writes to the thresholds

A single write to a threshold register changes the register and not the
configuration.  It stays in force until the register is written again, or until
an accepted command synchronizes the registers with the configuration.
-/

namespace SensorFirmware

open ModbusService

namespace Device

/-- A register beside the request keeps its word. -/
theorem requestWord_uncovered
    (dev : Device D)
    (frame : FrameItem)
    {reg : Nat}
    (uncovered : ¬ BlockWrite.Covers
      ⟨frame.addr.toNat, frame.payload frame.qty.toNat⟩ reg) :
    dev.requestWord frame reg = dev.holding reg := by
  simp only [BlockWrite.Covers, FrameItem.length_payload] at uncovered
  rw [requestWord, if_neg uncovered]

/-- The words of a multiple write, seen as a block write. -/
theorem requestWord_eq_store
    (dev : Device D)
    {frame : FrameItem}
    (valid : frame.WriteMultipleValid)
    (reg : Nat) :
    dev.requestWord frame reg =
      BlockWrite.store dev.holding
        ⟨frame.addr.toNat, frame.payload frame.qty.toNat⟩ reg := by
  rw [← commandState_holding dev valid, commandState, answer_holding,
    writeRegisters_holding_store _ valid]
  rfl

variable [DoubleArith D]

/-- The frame takes a register over: it is an accepted write to it, or it runs
an accepted sensor package. -/
def Supersedes (dev : Device D) (frame : FrameItem) (reg : Nat) : Prop :=
  (∃ write, dev.acceptedWrite frame = some write ∧ write.Covers reg) ∨
    (dev.RunsCommand frame ∧ dev.requestWord frame commandCode = setSensorData ∧
      CommandAccepted D (dev.requestWord frame) dev.deviceConfig frame.qty)

/-- The frame runs an accepted command while the threshold register differs from
the configured threshold. -/
def RevertsThreshold (dev : Device D) (frame : FrameItem) (index : Nat) : Prop :=
  dev.RunsCommand frame ∧
    CommandAccepted D (dev.requestWord frame) dev.deviceConfig frame.qty ∧
      FixedArray.read dev.deviceConfig.alarmThreshold index ≠
        dev.holding (regTempHighAlarm + index)

/-- The threshold registers are no diagnostic registers. -/
private theorem threshold_not_diagnostic
    {index : Nat}
    (inside : index < 3) :
    regTempHighAlarm + index ∉ RegisterBank.diagnosticRegs := by
  simp [RegisterBank.diagnosticRegs]
  omega

/-- The write of a frame that runs a command is accepted. -/
theorem acceptedWrite_of_runsCommand
    {dev : Device D}
    {frame : FrameItem}
    (runs : dev.RunsCommand frame) :
    dev.acceptedWrite frame =
      some ⟨frame.addr.toNat, frame.payload frame.qty.toNat⟩ := by
  obtain ⟨reaches, code, long, valid, _⟩ := runs
  have notSingle : ¬ fcWriteMultipleRegs = fcWriteSingleReg := by decide
  have acknowledged : ¬ (1 : UInt8) = 0 := by decide
  rw [acceptedWrite, processFrame_writeMultiple reaches code long valid,
    if_neg acknowledged, code, if_neg notSingle, if_pos rfl]

/-- A frame that does not supersede a threshold register keeps it exactly when
it does not revert it. -/
theorem frameStep_threshold_iff
    {dev : Device D}
    {frame : FrameItem}
    {index : Nat}
    (inside : index < 3)
    (unsuperseded : ¬ dev.Supersedes frame (regTempHighAlarm + index)) :
    (dev.frameStep frame).holding (regTempHighAlarm + index) =
        dev.holding (regTempHighAlarm + index) ↔
      ¬ dev.RevertsThreshold frame index := by
  obtain ⟨unwritten, notSensor⟩ := not_or.mp unsuperseded
  by_cases runs : dev.RunsCommand frame
  · by_cases accepted :
      CommandAccepted D (dev.requestWord frame) dev.deviceConfig frame.qty
    · have kept : (dev.frameStep frame).deviceConfig.alarmThreshold =
          dev.deviceConfig.alarmThreshold := by
        rw [frameStep_command_deviceConfig runs, handleCommand_alarmThreshold,
          ignoresTraffic_deviceConfig.commandState]
        intro code
        rw [commandState_holding dev runs.2.2.2.1] at code
        exact absurd ⟨runs, code, accepted⟩ notSensor
      rw [frameStep_accepted_mirrored runs accepted index inside, kept]
      exact ⟨fun same reverts => reverts.2.2 same,
        fun keeps => not_not.mp fun differ => keeps ⟨runs, accepted, differ⟩⟩
    · have other : regTempHighAlarm + index ≠ commandCode := by simp; omega
      have uncovered := fun covers =>
        unwritten ⟨_, acceptedWrite_of_runsCommand runs, covers⟩
      rw [frameStep_rejected_holding runs accepted _ other,
        requestWord_uncovered dev frame uncovered]
      exact iff_of_true rfl fun reverts => accepted reverts.2.1
  · refine iff_of_true ?_ fun reverts => runs reverts.1
    rw [frameStep_holding runs _ (threshold_not_diagnostic inside)]
    cases written : dev.acceptedWrite frame with
    | none => rfl
    | some write => exact if_neg fun covers => unwritten ⟨write, written, covers⟩

/-- An accepted single write puts its value into its register. -/
theorem frameStep_writeSingle
    {dev : Device D}
    {write : FrameItem}
    (accepted : (dev.processFrame (some write)).1 ≠ 0)
    (code : write.byte 1 = fcWriteSingleReg)
    (plain : write.addr.toNat ∉ RegisterBank.diagnosticRegs) :
    (dev.frameStep write).holding write.addr.toNat = write.qty := by
  have quiet : ¬ dev.RunsCommand write :=
    fun runs => absurd (code.symm.trans runs.2.1) (by decide)
  have stored := BlockWrite.store_single dev.holding write.addr.toNat
    write.addr.toNat write.qty
  rw [frameStep_holding quiet _ plain, acceptedWrite, if_neg accepted, if_pos code]
  exact stored.trans (if_pos rfl)

/-- After an accepted single write to a threshold register, and until a frame
supersedes it, the register keeps the written value exactly as long as no frame
reverts it. -/
theorem threshold_inForce_iff
    (dev : Device D)
    (write : FrameItem)
    (frames : List FrameItem)
    (index : Nat)
    (inside : index < 3)
    (accepted : (dev.processFrame (some write)).1 ≠ 0)
    (code : write.byte 1 = fcWriteSingleReg)
    (addr : write.addr.toNat = regTempHighAlarm + index)
    (unsuperseded : Transition.AllSteps frameStep
      (fun dev frame => ¬ dev.Supersedes frame (regTempHighAlarm + index))
      (dev.frameStep write) frames) :
    (dev.frameStep write).holding (regTempHighAlarm + index) = write.qty ∧
      ((∀ reached ∈ Transition.visited frameStep (dev.frameStep write) frames,
          reached.holding (regTempHighAlarm + index) = write.qty) ↔
        Transition.AllSteps frameStep
          (fun dev frame => ¬ dev.RevertsThreshold frame index)
          (dev.frameStep write) frames) := by
  have plain : write.addr.toNat ∉ RegisterBank.diagnosticRegs :=
    addr ▸ threshold_not_diagnostic inside
  have initially := frameStep_writeSingle accepted code plain
  rw [addr] at initially
  refine ⟨initially, Transition.forall_visited_iff_allSteps_of_admitted
    (fun dev : Device D => dev.holding (regTempHighAlarm + index) = write.qty) _
    (fun before frame admitted same => ?_) unsuperseded initially⟩
  rw [← same]
  exact frameStep_threshold_iff inside admitted

/-! ## A reverted write -/

/-- The single write of 700 to the first threshold register. -/
def writeThreshold700 : FrameItem := twoWordRequest 1 fcWriteSingleReg 0x26 700

/-- A time command that covers the two command registers only. -/
def timeDateCommand : FrameItem := writeMultipleRequest 1 0 [0, setTimeDate]

theorem writeThreshold700_code : writeThreshold700.byte 1 = fcWriteSingleReg :=
  twoWordRequest_byte _ _ _ _ 1 (by decide)

theorem writeThreshold700_addr : writeThreshold700.addr.toNat = regTempHighAlarm + 0 :=
  congrArg UInt16.toNat (twoWordRequest_addr 1 fcWriteSingleReg 0x26 700)

theorem writeThreshold700_accepted :
    ((firstBoot BuildInfo.unitTest : Device ℚ).processFrame
      (some writeThreshold700)).1 ≠ 0 := by
  have long : ¬ writeThreshold700.len < 8 := by
    rw [UInt16.not_lt, UInt16.le_iff_toNat_le]
    exact Nat.le_of_eq (twoWordRequest_len 1 fcWriteSingleReg 0x26 700).symm
  have addr : writeThreshold700.addr = 0x26 := twoWordRequest_addr _ _ _ _
  have notReadHolding : ¬ fcWriteSingleReg = fcReadHolding := by decide
  have notReadInput : ¬ fcWriteSingleReg = fcReadInput := by decide
  have writable : ¬ isWritable 0x26 = 0 := by decide
  have reaches : (firstBoot BuildInfo.unitTest : Device ℚ).Reaches writeThreshold700 :=
    reaches_twoWordRequest (firstBoot_idValid _) (firstBoot_id _) _ _ _
  rw [processFrame_of_reaches reaches, dispatch, writeThreshold700_code,
    if_neg notReadHolding, if_neg notReadInput, if_pos rfl, processWriteSingleRegister,
    if_neg long, addr, if_neg writable]
  exact (show (1 : UInt8) ≠ 0 by decide)

theorem writeThreshold700_deviceConfig :
    ((firstBoot BuildInfo.unitTest : Device ℚ).frameStep
      writeThreshold700).deviceConfig = SettingsStruct.defaults := by
  have quiet : ¬ (firstBoot BuildInfo.unitTest : Device ℚ).RunsCommand
      writeThreshold700 :=
    fun runs => absurd (writeThreshold700_code.symm.trans runs.2.1) (by decide)
  rw [ignoresTraffic_deviceConfig.frameStep quiet, firstBoot_deviceConfig]

theorem timeDateCommand_code (dev : Device ℚ) :
    dev.requestWord timeDateCommand commandCode = setTimeDate :=
  requestWord_package dev 1 [0, setTimeDate] (by decide) 1 (by decide)

section

variable {dev : Device ℚ} (config : dev.deviceConfig = SettingsStruct.defaults)

include config

theorem timeDateCommand_runs : dev.RunsCommand timeDateCommand := by
  refine runsCommand_writeMultipleRequest ?_ ?_ 0 _ (by decide) (by decide) (by decide)
  · rw [IdValid, config]
    decide
  · rw [config]
    rfl

theorem timeDateCommand_unsuperseded :
    ¬ dev.Supersedes timeDateCommand (regTempHighAlarm + 0) := by
  rintro (⟨write, accepted, covers⟩ | ⟨_, code, _⟩)
  · rw [acceptedWrite_of_runsCommand (timeDateCommand_runs config)] at accepted
    have two : timeDateCommand.qty.toNat = 2 :=
      writeMultipleRequest_qty 1 0 [0, setTimeDate] (by decide)
    have start : timeDateCommand.addr = 0 :=
      writeMultipleRequest_addr 1 0 [0, setTimeDate] (by decide)
    cases accepted
    simp only [BlockWrite.Covers, FrameItem.length_payload, two, start] at covers
    exact absurd covers (by decide)
  · rw [timeDateCommand_code] at code
    exact absurd code (by decide)

end

theorem threshold700_inForce_iff :
    let dev : Device ℚ := firstBoot BuildInfo.unitTest
    let written := dev.frameStep writeThreshold700
    written.holding (regTempHighAlarm + 0) = writeThreshold700.qty ∧
      ((∀ reached ∈ Transition.visited frameStep written [timeDateCommand],
          reached.holding (regTempHighAlarm + 0) = writeThreshold700.qty) ↔
        Transition.AllSteps frameStep
          (fun dev frame => ¬ dev.RevertsThreshold frame 0) written [timeDateCommand]) :=
  threshold_inForce_iff _ writeThreshold700 [timeDateCommand] 0 (by decide)
    writeThreshold700_accepted writeThreshold700_code writeThreshold700_addr
    ⟨timeDateCommand_unsuperseded writeThreshold700_deviceConfig, trivial⟩

/-- The time command reverts the threshold. -/
theorem frameStep_timeDate_reverts :
    let dev : Device ℚ := firstBoot BuildInfo.unitTest
    let written := dev.frameStep writeThreshold700
    (dev.processFrame (some writeThreshold700)).1 ≠ 0 ∧
      ¬ written.Supersedes timeDateCommand (regTempHighAlarm + 0) ∧
        written.holding (regTempHighAlarm + 0) = 700 ∧
          (written.frameStep timeDateCommand).holding (regTempHighAlarm + 0) ≠ 700 := by
  intro dev written
  have config : written.deviceConfig = SettingsStruct.defaults :=
    writeThreshold700_deviceConfig
  have unsuperseded := timeDateCommand_unsuperseded config
  have stored : written.holding (regTempHighAlarm + 0) = 700 := by
    have value := frameStep_writeSingle writeThreshold700_accepted
      writeThreshold700_code (by rw [writeThreshold700_addr]; decide)
    rw [writeThreshold700_addr] at value
    exact value.trans (twoWordRequest_qty _ _ _ _)
  refine ⟨writeThreshold700_accepted, unsuperseded, stored, fun kept => ?_⟩
  refine (frameStep_threshold_iff (by decide) unsuperseded).mp (kept.trans stored.symm) ?_
  refine ⟨timeDateCommand_runs config, ?_, ?_⟩
  · exact Or.inr (Or.inr (Or.inl (timeDateCommand_code written)))
  · rw [config, stored]
    decide

end Device

end SensorFirmware
