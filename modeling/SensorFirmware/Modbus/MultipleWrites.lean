import SensorFirmware.Modbus.Requests

/-!
# Multiple writes

A multiple write is carried out as a whole or not at all.  Where it covers the
command register it may call a settings handler, with a number of arguments that
is computed from its quantity alone.
-/

namespace SensorFirmware

open BigEndian ModbusService

namespace FrameItem

/-- The header check on the numbers of the header. -/
theorem writeMultipleValid_iff (frame : FrameItem) :
    frame.WriteMultipleValid ↔
      1 ≤ frame.qty.toNat ∧ frame.qty.toNat ≤ 123 ∧
        (frame.byte 6).toNat = 2 * frame.qty.toNat ∧
          frame.addr.toNat + frame.qty.toNat ≤ 128 ∧
            9 + (frame.byte 6).toNat ≤ frame.len.toNat := by
  have byteBound := (frame.byte 6).toNat_lt
  have two : (2 : UInt16).toNat = 2 := rfl
  have nine : (9 : UInt16).toNat = 9 := rfl
  have positive : frame.qty ≠ 0 ↔ 1 ≤ frame.qty.toNat := by
    rw [← UInt16.toNat_inj.ne]
    exact Nat.pos_iff_ne_zero.symm
  have few : frame.qty ≤ 123 ↔ frame.qty.toNat ≤ 123 := UInt16.le_iff_toNat_le
  have whole : 9 + (frame.byte 6).toUInt16 ≤ frame.len ↔
      9 + (frame.byte 6).toNat ≤ frame.len.toNat := by
    rw [UInt16.le_iff_toNat_le, UInt16.toNat_add, UInt8.toNat_toUInt16, nine]
    omega
  rw [WriteMultipleValid, positive, few, whole]
  refine and_congr_right fun _ => and_congr_right fun small => and_congr ?_ Iff.rfl
  rw [← UInt8.toNat_inj, UInt16.toNat_toUInt8, UInt16.toNat_mul, two]
  omega

end FrameItem

namespace Device

/-! ## All or nothing -/

/-- Two devices hold the same registers, configuration records and save flags. -/
structure SameData (before after : Device D) : Prop where
  holding : ∀ reg, after.holding reg = before.holding reg
  input : ∀ reg, after.input reg = before.input reg
  deviceConfig : after.deviceConfig = before.deviceConfig
  sensor : after.sensor = before.sensor
  saveDevSettings : after.saveDevSettings = before.saveDevSettings
  saveSensorInfo : after.saveSensorInfo = before.saveSensorInfo

/-- The statistics of a frame and an exception response leave the data alone. -/
theorem sameData_answerError
    (dev : Device D)
    (frame : FrameItem)
    (function errorCode : UInt8) :
    SameData dev (dev.noteValidFrame.answerError frame function errorCode) where
  holding reg := answerError_keeps _ frame _ _ (·.holding reg) fun _ => rfl
  input reg := answerError_keeps _ frame _ _ (·.input reg) fun _ => rfl
  deviceConfig := answerError_keeps _ frame _ _ (·.deviceConfig) fun _ => rfl
  sensor := answerError_keeps _ frame _ _ (·.sensor) fun _ => rfl
  saveDevSettings := answerError_keeps _ frame _ _ (·.saveDevSettings) fun _ => rfl
  saveSensorInfo := answerError_keeps _ frame _ _ (·.saveSensorInfo) fun _ => rfl

theorem sameData_noteValidFrame (dev : Device D) : SameData dev dev.noteValidFrame :=
  ⟨fun _ => rfl, fun _ => rfl, rfl, rfl, rfl, rfl⟩

section

variable [DoubleArith D] {dev : Device D} {frame : FrameItem}
variable (crc : frame.CrcMatches) (addressed : dev.noteValidFrame.Addressed frame)
variable (code : frame.byte 1 = fcWriteMultipleRegs)

include crc addressed code

/-- A multiple write with an inconsistent header is refused and changes no data. -/
theorem processFrame_writeMultiple_refused
    (invalid : ¬ (9 ≤ frame.len ∧ frame.WriteMultipleValid)) :
    (dev.processFrame (some frame)).1 = 0 ∧
      SameData dev (dev.processFrame (some frame)).2 := by
  by_cases short : frame.len < 4
  · simp only [processFrame, if_pos short]
    exact ⟨trivial, ⟨fun _ => rfl, fun _ => rfl, rfl, rfl, rfl, rfl⟩⟩
  rw [processFrame_of_reaches ⟨UInt16.not_lt.mp short, crc, addressed⟩]
  have handled := dispatch_handled dev.noteValidFrame frame
  generalize dev.noteValidFrame.dispatch frame = result at handled ⊢
  cases handled with
  | tooShort => exact ⟨rfl, sameData_noteValidFrame dev⟩
  | refused errorCode => exact ⟨rfl, sameData_answerError dev frame _ errorCode⟩
  | readHolding other => exact absurd (code.symm.trans other) (by decide)
  | readInput other => exact absurd (code.symm.trans other) (by decide)
  | writeSingle other => exact absurd (code.symm.trans other) (by decide)
  | writeMultiple _ long valid => exact absurd ⟨long, valid⟩ invalid

/-- A consistent one is carried out. -/
theorem processFrame_writeMultiple_accepted
    (valid : frame.WriteMultipleValid) :
    dev.processFrame (some frame) =
      (1, ((dev.commandState frame).runCommand frame.addr frame.qty).2) := by
  have inside := valid.payload_inside
  have long : 9 ≤ frame.len := UInt16.le_iff_toNat_le.mpr (by
    show 9 ≤ frame.len.toNat
    omega)
  have enough : 4 ≤ frame.len := UInt16.le_iff_toNat_le.mpr (by
    show 4 ≤ frame.len.toNat
    omega)
  exact processFrame_writeMultiple ⟨enough, crc, addressed⟩ code long valid

end

/-- A multiple write that passes the CRC and is meant for the device or broadcast
is accepted exactly when its header is consistent.  A rejected one changes no data,
and an accepted one that does not cover the command register stores its payload
words in the registers it names and changes no other. -/
theorem processFrame_writesAllOrNothing [DoubleArith D]
    {dev : Device D}
    {frame : FrameItem}
    (crc : frame.CrcMatches)
    (addressed : dev.noteValidFrame.Addressed frame)
    (code : frame.byte 1 = fcWriteMultipleRegs) :
    let processed := dev.processFrame (some frame)
    (processed.1 = 1 ↔
      1 ≤ frame.qty.toNat ∧ frame.qty.toNat ≤ 123 ∧
        (frame.byte 6).toNat = 2 * frame.qty.toNat ∧
          frame.addr.toNat + frame.qty.toNat ≤ 128 ∧
            9 + (frame.byte 6).toNat ≤ frame.len.toNat) ∧
      (processed.1 ≠ 1 → SameData dev processed.2) ∧
      (processed.1 = 1 → ¬ CoversCommand frame.addr frame.qty → ∀ reg,
        processed.2.holding reg =
            (if frame.addr.toNat ≤ reg ∧ reg < frame.addr.toNat + frame.qty.toNat then
              frame.wordAt (7 + (reg - frame.addr.toNat) * 2)
            else dev.holding reg) ∧
          processed.2.input reg = dev.input reg) := by
  intro processed
  rw [← frame.writeMultipleValid_iff]
  by_cases valid : frame.WriteMultipleValid
  · have result : processed =
        (1, ((dev.commandState frame).runCommand frame.addr frame.qty).2) :=
      processFrame_writeMultiple_accepted crc addressed code valid
    rw [result]
    refine ⟨iff_of_true rfl valid, fun rejected => absurd rfl rejected, ?_⟩
    intro _ uncovered reg
    rw [runCommand_uncovered uncovered]
    refine ⟨congrFun (commandState_holding dev valid) reg, ?_⟩
    rw [commandState, answer_keeps _ frame _ (·.input reg) fun _ => rfl, writeRegisters,
      updateBank_input, RegisterBank.input_fillLoop frame.addr.toNat
        (fun i => frame.wordAt (7 + i * 2))]
    rfl
  · obtain ⟨rejected, same⟩ := processFrame_writeMultiple_refused crc addressed code
      fun both => valid both.2
    have refused : processed.1 = 0 := rejected
    have notOne : processed.1 ≠ 1 := by
      rw [refused]
      decide
    exact ⟨iff_of_false notOne valid, fun _ => same,
      fun accepted => absurd accepted notOne⟩

/-- A write of two registers of the location. -/
theorem processFrame_writesAllOrNothing_location :
    let dev : Device ℚ := firstBoot BuildInfo.unitTest
    let frame := writeMultipleRequest 1 0x40 [0x4142, 0x4344]
    let processed := dev.processFrame (some frame)
    (processed.1 = 1 ↔
      1 ≤ frame.qty.toNat ∧ frame.qty.toNat ≤ 123 ∧
        (frame.byte 6).toNat = 2 * frame.qty.toNat ∧
          frame.addr.toNat + frame.qty.toNat ≤ 128 ∧
            9 + (frame.byte 6).toNat ≤ frame.len.toNat) ∧
      (processed.1 ≠ 1 → SameData dev processed.2) ∧
      (processed.1 = 1 → ¬ CoversCommand frame.addr frame.qty → ∀ reg,
        processed.2.holding reg =
            (if frame.addr.toNat ≤ reg ∧ reg < frame.addr.toNat + frame.qty.toNat then
              frame.wordAt (7 + (reg - frame.addr.toNat) * 2)
            else dev.holding reg) ∧
          processed.2.input reg = dev.input reg) := by
  intro dev frame
  have few : [(0x4142 : UInt16), 0x4344].length ≤ 123 := by decide
  have reaches : dev.Reaches frame :=
    reaches_writeMultipleRequest (firstBoot_idValid _) (firstBoot_id _) 0x40 _ few
  exact processFrame_writesAllOrNothing reaches.2.1 reaches.2.2
    (writeMultipleRequest_header 1 0x40 _ few 1 (by decide))

/-! ## The arguments of a settings command -/

/-- Processing a frame calls a settings handler with `len` arguments. -/
def CallsSettings [DoubleArith D] (dev : Device D) (frame : FrameItem) (len : UInt8) :
    Prop :=
  dev.RunsCommand frame ∧
    ((dev.commandState frame).holding commandCode = setSensorData ∨
      (dev.commandState frame).holding commandCode = setDetectorData) ∧
        len = commandLen frame.qty

/-- Number of argument registers that a multiple write writes, from
`COMMAND_ARG1` on. -/
def argumentsWritten (frame : FrameItem) : Nat :=
  frame.addr.toNat + frame.qty.toNat - commandArg1

section

variable [DoubleArith D] {dev : Device D} {frame : FrameItem} {len : UInt8}

/-- What such a frame does is decided by the handler with these arguments. -/
theorem CallsSettings.handled
    (calls : dev.CallsSettings frame len) :
    (dev.commandState frame).handleCommand frame.qty =
        (dev.commandState frame).saveSensorSettings
          (some (dev.commandState frame).commandArgs) len ∨
      (dev.commandState frame).handleCommand frame.qty =
        (dev.commandState frame).saveBaseSettings
          (some (dev.commandState frame).commandArgs) len := by
  obtain ⟨_, settings, rfl⟩ := calls
  rcases handleCommand_cases (dev.commandState frame) frame.qty with
    ⟨_, handled⟩ | ⟨_, handled⟩ | ⟨other, _⟩ | ⟨⟨notSensor, notDetector, _⟩, _⟩
  · exact Or.inl handled
  · exact Or.inr handled
  · rcases settings with code | code <;> rw [code] at other <;>
      exact absurd other (by decide)
  · exact absurd settings (not_or.mpr ⟨notSensor, notDetector⟩)

/-- A settings handler is given no more arguments than the frame wrote exactly when
the frame writes more than the command register itself. -/
theorem CallsSettings.argumentsWritten_iff
    (calls : dev.CallsSettings frame len) :
    len.toNat ≤ argumentsWritten frame ↔ frame.qty ≠ 1 := by
  obtain ⟨⟨_, _, _, valid, covered⟩, _, rfl⟩ := calls
  obtain ⟨_, few, _⟩ := frame.writeMultipleValid_iff.mp valid
  have one : frame.qty = 1 ↔ frame.qty.toNat = 1 := by
    rw [← UInt16.toNat_inj]
    rfl
  have start : frame.addr.toNat ≤ 1 ∧ 1 < frame.addr.toNat + frame.qty.toNat := covered
  have two : (2 : UInt16).toNat = 2 := rfl
  have count : (commandLen frame.qty).toNat =
      (65536 - 2 + frame.qty.toNat) % 65536 % 256 := by
    rw [commandLen, UInt16.toNat_toUInt8, UInt16.toNat_sub, two]
  rw [ne_eq, one, count, argumentsWritten, commandArg1]
  omega

end

/-- A settings request of a master calls a handler. -/
theorem callsSettings_writeMultipleRequest [DoubleArith D]
    {dev : Device D}
    {id : UInt8}
    (idValid : dev.IdValid)
    (own : dev.deviceConfig.id.toUInt8 = id)
    (addr : UInt16)
    (words : List UInt16)
    (few : words.length ≤ 123)
    (covers : addr.toNat ≤ commandCode ∧ commandCode < addr.toNat + words.length)
    (settings : words.getD (commandCode - addr.toNat) 0 = setSensorData ∨
      words.getD (commandCode - addr.toNat) 0 = setDetectorData) :
    dev.CallsSettings (writeMultipleRequest id addr words)
      (commandLen words.length.toUInt16) := by
  have start : addr.toNat ≤ 1 := covers.1
  have fits : addr.toNat + words.length ≤ holdingRegSize := by
    rw [holdingRegSize]
    omega
  have runs : dev.RunsCommand (writeMultipleRequest id addr words) :=
    runsCommand_writeMultipleRequest idValid own addr words few covers fits
  have qty : (writeMultipleRequest id addr words).qty = words.length.toUInt16 := by
    apply UInt16.toNat.inj
    rw [writeMultipleRequest_qty id addr words few]
    exact (Nat.mod_eq_of_lt (by omega)).symm
  refine ⟨runs, ?_, by rw [qty]⟩
  rwa [commandState_holding dev runs.2.2.2.1,
    requestWord_writeMultipleRequest dev id addr words few, if_pos covers]

/-- A base package that starts at register 0. -/
theorem argumentsWritten_iff_basePackage :
    let frame := writeMultipleRequest 1 0 ([0, setDetectorData] ++ List.replicate 45 0)
    (45 : UInt8).toNat ≤ argumentsWritten frame ↔ frame.qty ≠ 1 := by
  intro frame
  have calls : (firstBoot BuildInfo.unitTest : Device ℚ).CallsSettings frame 45 :=
    callsSettings_writeMultipleRequest (firstBoot_idValid _) (firstBoot_id _) 0
      ([0, setDetectorData] ++ List.replicate 45 0) (by decide) (by decide)
      (Or.inr (by decide))
  exact calls.argumentsWritten_iff

/-- A write of the command register alone passes 255 arguments and writes none. -/
theorem commandAlone_passes_stale_arguments :
    let dev : Device ℚ := firstBoot BuildInfo.unitTest
    let frame := writeMultipleRequest 1 1 [setSensorData]
    dev.CallsSettings frame 255 ∧ ¬ (255 : UInt8).toNat ≤ argumentsWritten frame := by
  intro dev frame
  have few : [setSensorData].length ≤ 123 := by decide
  refine ⟨callsSettings_writeMultipleRequest (firstBoot_idValid _) (firstBoot_id _) 1
    [setSensorData] few (by decide) (Or.inl (by decide)), ?_⟩
  rw [argumentsWritten, writeMultipleRequest_addr 1 1 _ few,
    writeMultipleRequest_qty 1 1 _ few]
  decide

end Device

end SensorFirmware
