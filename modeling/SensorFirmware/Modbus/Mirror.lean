import SensorFirmware.Modbus.Sync

/-!
# What a synchronization leaves in the registers

Each section of `syncAll` has a footprint, the registers it may write.  A
register is looked up after `syncAll` by skipping the sections whose footprint
misses it, back to the section that wrote it last.
-/

namespace SensorFirmware
namespace RegisterBank

/-- A change to the register arrays that writes no holding register outside
`holdingRegs` and no input register outside `inputRegs`. -/
structure Footprint (change : RegisterBank → RegisterBank)
    (holdingRegs inputRegs : List Nat) : Prop where
  /-- Other holding registers keep their value. -/
  holding : ∀ bank reg, reg ∉ holdingRegs →
    (change bank).holding reg = bank.holding reg
  /-- Other input registers keep their value. -/
  input : ∀ bank reg, reg ∉ inputRegs →
    (change bank).input reg = bank.input reg

namespace Footprint

variable {change later earlier : RegisterBank → RegisterBank}
variable {holdingRegs inputRegs moreHolding moreInput : List Nat}

/-- The footprints of consecutive changes add up. -/
theorem comp
    (last : Footprint later moreHolding moreInput)
    (first : Footprint earlier holdingRegs inputRegs) :
    Footprint (fun bank => later (earlier bank))
      (moreHolding ++ holdingRegs) (moreInput ++ inputRegs) where
  holding bank reg outside := by
    rw [List.mem_append, not_or] at outside
    rw [last.holding _ reg outside.1, first.holding _ reg outside.2]
  input bank reg outside := by
    rw [List.mem_append, not_or] at outside
    rw [last.input _ reg outside.1, first.input _ reg outside.2]

/-- A change keeps what lies outside a larger footprint. -/
theorem widen
    (footprint : Footprint change holdingRegs inputRegs)
    (holdingWithin : holdingRegs ⊆ moreHolding)
    (inputWithin : inputRegs ⊆ moreInput) :
    Footprint change moreHolding moreInput where
  holding bank reg outside :=
    footprint.holding bank reg fun written => outside (holdingWithin written)
  input bank reg outside :=
    footprint.input bank reg fun written => outside (inputWithin written)

end Footprint

/-! ## Footprints of the sections -/

section

variable [DoubleArith D] (build : BuildInfo) (config : SettingsStruct)
variable (sensor : SensorStruct D) (errors : ErrorManager)

theorem syncIdentity_footprint :
    Footprint (syncIdentity build)
      [0x00, 0x11, 0x12, 0x2D, 0x2F, 0x30, 0x33]
      [0x00, 0x11, 0x12, 0x2D, 0x2F, 0x30, 0x33] := by
  constructor <;> intro bank reg outside <;> simp_all [syncIdentity]

theorem syncThresholds_footprint :
    Footprint (syncThresholds config) [0x26, 0x27, 0x28] [0x26, 0x27, 0x28] := by
  constructor <;> intro bank reg outside <;> simp_all [syncThresholds]

theorem syncWords_holding
    (bytes : Vector UInt8 n)
    (start count : Nat)
    (bank : RegisterBank)
    (reg : Nat)
    (fits : start + count ≤ holdingRegSize) :
    (syncWords bytes start count bank).holding reg =
      if start ≤ reg ∧ reg < start + count then
        BigEndian.word (FixedArray.read bytes ((reg - start) * 2))
          (FixedArray.read bytes ((reg - start) * 2 + 1))
      else bank.holding reg :=
  holding_mirrorLoop start
    (fun i => BigEndian.word (FixedArray.read bytes (i * 2))
      (FixedArray.read bytes (i * 2 + 1)))
    count bank reg fits

theorem syncWords_footprint
    (bytes : Vector UInt8 n)
    (start count : Nat)
    (fits : start + count ≤ holdingRegSize) :
    Footprint (syncWords bytes start count)
      (List.range' start count) (List.range' start count) := by
  constructor
  · intro bank reg outside
    rw [List.mem_range'_1] at outside
    rw [syncWords_holding bytes start count bank reg fits, if_neg outside]
  · intro bank reg outside
    rw [List.mem_range'_1] at outside
    rw [syncWords, input_mirrorLoop start
      (fun i => BigEndian.word (FixedArray.read bytes (i * 2))
        (FixedArray.read bytes (i * 2 + 1)))
      count bank reg fits, if_neg outside]

theorem syncAlarmConfig_holding
    (bank : RegisterBank)
    (reg : Nat) :
    (syncAlarmConfig config bank).holding reg =
      if 0x1A ≤ reg ∧ reg < 0x1D then
        BigEndian.word (FixedArray.read config.alarmSettings (reg - 0x1A))
          (FixedArray.read config.relayOffDelay (reg - 0x1A))
      else bank.holding reg :=
  holding_mirrorLoop 0x1A
    (fun i => BigEndian.word (FixedArray.read config.alarmSettings i)
      (FixedArray.read config.relayOffDelay i))
    3 bank reg (by decide)

theorem syncAlarmConfig_footprint :
    Footprint (syncAlarmConfig config)
      [0x1A, 0x1B, 0x1C] [0x1A, 0x1B, 0x1C] := by
  constructor
  · intro bank reg outside
    have uncovered : ¬ (0x1A ≤ reg ∧ reg < 0x1D) := by
      simp only [List.mem_cons, List.not_mem_nil] at outside
      omega
    rw [syncAlarmConfig_holding, if_neg uncovered]
  · intro bank reg outside
    have uncovered : ¬ (0x1A ≤ reg ∧ reg < 0x1A + 3) := by
      simp only [List.mem_cons, List.not_mem_nil] at outside
      omega
    rw [syncAlarmConfig, regAlarm1Config, input_mirrorLoop 0x1A
      (fun i => BigEndian.word (FixedArray.read config.alarmSettings i)
        (FixedArray.read config.relayOffDelay i))
      3 bank reg (by decide), if_neg uncovered]

theorem syncHysteresis_footprint :
    Footprint (syncHysteresis config) [0x68, 0x69] [0x68, 0x69] := by
  constructor <;> intro bank reg outside <;> simp_all [syncHysteresis]

theorem syncAnalogOut_footprint :
    Footprint (syncAnalogOut config)
      [0x1D, 0x1E, 0x1F, 0x20, 0x21, 0x22] [] := by
  constructor
  · intro bank reg outside
    have uncovered : ¬ (0x1D ≤ reg ∧ reg < 0x1D + 6) := by
      simp only [List.mem_cons, List.not_mem_nil] at outside
      omega
    rw [syncAnalogOut, regAnalogOutLev1, holding_fillLoop 0x1D
      (fun i => (FixedArray.read config.analogOutLev i).toUInt16)
      6 bank reg (by decide), if_neg uncovered]
  · intro bank reg _
    exact input_fillLoop 0x1D
      (fun i => (FixedArray.read config.analogOutLev i).toUInt16) 6 bank reg

theorem syncBase_footprint :
    Footprint (syncBase build config)
      [0x0F, 0x10, 0x31, 0x32, 0x4D] [0x0F, 0x10, 0x21, 0x29, 0x4D] := by
  constructor <;> intro bank reg outside <;> simp_all [syncBase]

theorem syncSensor_footprint :
    Footprint (syncSensor sensor)
      [0x20, 0x21, 0x22, 0x23, 0x53] [0x20, 0x21, 0x22, 0x23, 0x53] := by
  constructor <;> intro bank reg outside <;> simp_all [syncSensor]

theorem syncCalibration_footprint :
    Footprint (syncCalibration sensor)
      [0x24, 0x25, 0x56, 0x58, 0x59, 0x66, 0x6A, 0x6B, 0x6C, 0x70, 0x71, 0x72]
      [0x24, 0x25, 0x56, 0x58, 0x59, 0x66, 0x6A, 0x6B, 0x6C, 0x70, 0x71, 0x72] := by
  constructor <;> intro bank reg outside <;> simp_all [syncCalibration]

/-- Addresses of the diagnostic registers. -/
def diagnosticRegs : List Nat := [0x74, 0x75, 0x76, 0x77, 0x78, 0x79, 0x7A, 0x7B]

theorem updateDiagnosticRegisters_footprint :
    Footprint (updateDiagnosticRegisters errors) diagnosticRegs diagnosticRegs := by
  constructor <;> intro bank reg outside <;>
    simp_all [updateDiagnosticRegisters, diagnosticRegs]

end

/-! ## Lookups in the two halves -/

section

variable [DoubleArith D] (build : BuildInfo) (config : SettingsStruct)
variable (sensor : SensorStruct D) (errors : ErrorManager) (bank : RegisterBank)

/-- Registers that the sections behind the location may write, in either
array. -/
def settingsMirrorRegs : List Nat :=
  [0x0F, 0x10, 0x21, 0x29, 0x31, 0x32, 0x4D] ++ [0x1D, 0x1E, 0x1F, 0x20, 0x21, 0x22] ++
    [0x68, 0x69] ++ [0x1A, 0x1B, 0x1C] ++ [0x26, 0x27, 0x28]

/-- The sections of the first half behind the location. -/
theorem syncSettings_footprint :
    Footprint
      (fun bank => syncBase build config
        (syncAnalogOut config
          (syncHysteresis config (syncAlarmConfig config (syncThresholds config bank)))))
      settingsMirrorRegs settingsMirrorRegs :=
  have alarms := (syncAlarmConfig_footprint config).comp (syncThresholds_footprint config)
  have outputs := (syncAnalogOut_footprint config).comp
    ((syncHysteresis_footprint config).comp alarms)
  ((syncBase_footprint build config).comp outputs).widen (by decide) (by decide)

/-- Registers of the numbers, of the hysteresis and of the diagnostics. -/
def numberMirrorRegs : List Nat :=
  [0x34, 0x35, 0x36, 0x37, 0x3C, 0x3D, 0x3E, 0x3F, 0x68, 0x69] ++ diagnosticRegs

omit [DoubleArith D] in
/-- The sections of the second half behind the calibration. -/
theorem syncNumbers_footprint :
    Footprint
      (fun bank => updateDiagnosticRegisters errors
        (syncHysteresis config
          (syncWords sensor.manIdNumber regManIdNumb1 4
            (syncWords sensor.serialNumber regSerialNo 4 bank))))
      numberMirrorRegs numberMirrorRegs :=
  have numbers := (syncWords_footprint sensor.manIdNumber regManIdNumb1 4 (by decide)).comp
    (syncWords_footprint sensor.serialNumber regSerialNo 4 (by decide))
  ((updateDiagnosticRegisters_footprint errors).comp
    ((syncHysteresis_footprint config).comp numbers)).widen (by decide) (by decide)

/-- Registers that the second half may write, in either array. -/
def sensorMirrorRegs : List Nat :=
  [0x20, 0x21, 0x22, 0x23, 0x53] ++
    [0x24, 0x25, 0x56, 0x58, 0x59, 0x66, 0x6A, 0x6B, 0x6C, 0x70, 0x71, 0x72] ++
      [0x34, 0x35, 0x36, 0x37, 0x3C, 0x3D, 0x3E, 0x3F, 0x68, 0x69] ++ diagnosticRegs

theorem syncSensorMirror_footprint :
    Footprint (syncSensorMirror config sensor errors)
      sensorMirrorRegs sensorMirrorRegs :=
  have sections := (syncCalibration_footprint sensor).comp (syncSensor_footprint sensor)
  ((syncNumbers_footprint config sensor errors).comp sections).widen (by decide) (by decide)

/-- Input registers that the measurement cycle publishes and no synchronization
writes. -/
def publishedRegs : List Nat := [0x06, 0x0B, 0x19]

/-- A synchronization leaves the published measurement alone. -/
theorem syncAll_published
    (reg : Nat)
    (published : reg ∈ publishedRegs) :
    (syncAll build config sensor errors bank).input reg = bank.input reg := by
  have outside : reg ∉ sensorMirrorRegs := by
    intro mirrored
    revert reg
    decide
  rw [syncAll, (syncSensorMirror_footprint config sensor errors).input _ _ outside]
  have notSetting : reg ∉ settingsMirrorRegs := by
    intro mirrored
    revert reg
    decide
  simp only [publishedRegs, List.mem_cons, List.not_mem_nil, or_false] at published
  refine ((syncSettings_footprint build config).input _ _ notSetting).trans ?_
  rw [(syncWords_footprint config.location _ 16 (by decide)).input _ _ (by
      rw [List.mem_range'_1, regLocStringStart]; omega),
    (syncWords_footprint config.baseSerNum _ 4 (by decide)).input _ _ (by
      rw [List.mem_range'_1, regBaseSerialNo]; omega),
    (syncIdentity_footprint build).input _ _ (by simp; omega)]

/-- Where the second half writes nothing, the first half decides. -/
theorem syncAll_holding_device
    (reg : Nat)
    (outside : reg ∉ sensorMirrorRegs) :
    (syncAll build config sensor errors bank).holding reg =
      (syncDevice build config bank).holding reg :=
  (syncSensorMirror_footprint config sensor errors).holding _ reg outside

/-- Where neither the settings nor the second half write, the words decide. -/
theorem syncAll_words
    (reg : Nat)
    (outside : reg ∉ sensorMirrorRegs)
    (notSetting : reg ∉ settingsMirrorRegs) :
    (syncAll build config sensor errors bank).holding reg =
      (syncWords config.location regLocStringStart 16
        (syncWords config.baseSerNum regBaseSerialNo 4
          (syncIdentity build bank))).holding reg :=
  (syncAll_holding_device build config sensor errors bank reg outside).trans
    ((syncSettings_footprint build config).holding _ reg notSetting)

/-- The location registers carry the location, except the one that the
transmitter configuration overwrites. -/
theorem syncAll_location
    (index : Nat)
    (inside : index < 16)
    (other : index ≠ 13) :
    (syncAll build config sensor errors bank).holding (0x40 + index) =
      BigEndian.word (FixedArray.read config.location (index * 2))
        (FixedArray.read config.location (index * 2 + 1)) := by
  have covered : 0x40 ≤ 0x40 + index ∧ 0x40 + index < 0x40 + 16 := by omega
  have outside : 0x40 + index ∉ sensorMirrorRegs := by
    simp [sensorMirrorRegs, diagnosticRegs]
    omega
  have notSetting : 0x40 + index ∉ settingsMirrorRegs := by
    simp [settingsMirrorRegs]
    omega
  rw [syncAll_words _ _ _ _ _ _ outside notSetting, syncWords_holding _ _ _ _ _ (by decide),
    regLocStringStart, if_pos covered,
    Nat.add_sub_cancel_left]

/-- The base serial number registers carry the serial number. -/
theorem syncAll_baseSerial
    (index : Nat)
    (inside : index < 4) :
    (syncAll build config sensor errors bank).holding (0x38 + index) =
      BigEndian.word (FixedArray.read config.baseSerNum (index * 2))
        (FixedArray.read config.baseSerNum (index * 2 + 1)) := by
  have covered : 0x38 ≤ 0x38 + index ∧ 0x38 + index < 0x38 + 4 := by omega
  have outside : 0x38 + index ∉ sensorMirrorRegs := by
    simp [sensorMirrorRegs, diagnosticRegs]
    omega
  have notSetting : 0x38 + index ∉ settingsMirrorRegs := by
    simp [settingsMirrorRegs]
    omega
  rw [syncAll_words _ _ _ _ _ _ outside notSetting,
    (syncWords_footprint config.location _ 16 (by decide)).holding _ _ (by
      rw [List.mem_range'_1, regLocStringStart]; omega),
    syncWords_holding _ _ _ _ _ (by decide), regBaseSerialNo, if_pos covered,
    Nat.add_sub_cancel_left]

/-- The first three analogue output registers carry their levels. -/
theorem syncAll_analogOut
    (index : Nat)
    (inside : index < 3) :
    (syncAll build config sensor errors bank).holding (0x1D + index) =
      (FixedArray.read config.analogOutLev index).toUInt16 := by
  have covered : 0x1D ≤ 0x1D + index ∧ 0x1D + index < 0x1D + 6 := by omega
  rw [syncAll_holding_device _ _ _ _ _ _ (by
    simp [sensorMirrorRegs, diagnosticRegs]; omega)]
  unfold syncDevice
  rw [(syncBase_footprint build config).holding _ _ (by simp; omega), syncAnalogOut,
    regAnalogOutLev1, holding_fillLoop 0x1D
      (fun i => (FixedArray.read config.analogOutLev i).toUInt16)
      6 _ _ (by decide), if_pos covered, Nat.add_sub_cancel_left]

omit [DoubleArith D] in
theorem syncBase_registers :
    (syncBase build config bank).holding 0x31 = config.display ∧
      (syncBase build config bank).holding 0x4D = config.configReg := by
  constructor <;> simp [syncBase]

/-- Display and transmitter configuration have registers of their own. -/
theorem syncAll_base :
    (syncAll build config sensor errors bank).holding 0x31 = config.display ∧
      (syncAll build config sensor errors bank).holding 0x4D = config.configReg := by
  rw [syncAll_holding_device _ _ _ _ _ _ (by decide),
    syncAll_holding_device _ _ _ _ _ _ (by decide)]
  exact syncBase_registers build config _

theorem syncSensor_registers :
    (syncSensor sensor bank).holding 0x20 = sensor.type ∧
      (syncSensor sensor bank).holding 0x21 = sensor.gas.toUInt16 ∧
        (syncSensor sensor bank).holding 0x22 = sensor.displayUnit.toUInt16 := by
  refine ⟨?_, ?_, ?_⟩ <;> simp [syncSensor]

/-- The sensor section is the last to write the registers it covers. -/
theorem syncAll_sensor
    (reg : Nat)
    (mem : reg ∈ [0x20, 0x21, 0x22, 0x23, 0x53]) :
    (syncAll build config sensor errors bank).holding reg =
        (syncSensor sensor (syncDevice build config bank)).holding reg ∧
      (syncAll build config sensor errors bank).input reg =
        (syncSensor sensor (syncDevice build config bank)).input reg := by
  have notNumber : reg ∉ numberMirrorRegs := by
    intro mirrored
    revert reg
    decide
  have numbers := syncNumbers_footprint config sensor errors
  have calibration := syncCalibration_footprint sensor
  simp only [List.mem_cons, List.not_mem_nil, or_false] at mem
  constructor
  · refine (numbers.holding _ _ notNumber).trans ?_
    rw [calibration.holding _ _ (by simp; omega)]
  · refine (numbers.input _ _ notNumber).trans ?_
    rw [calibration.input _ _ (by simp; omega)]

/-- Type, gas and unit of the sensor are written over the last three analogue
outputs. -/
theorem syncAll_sensorKind :
    (syncAll build config sensor errors bank).holding 0x20 = sensor.type ∧
      (syncAll build config sensor errors bank).holding 0x21 = sensor.gas.toUInt16 ∧
        (syncAll build config sensor errors bank).holding 0x22 =
          sensor.displayUnit.toUInt16 := by
  have last (reg : Nat) (mem : reg ∈ [0x20, 0x21, 0x22, 0x23, 0x53]) :=
    (syncAll_sensor build config sensor errors bank reg mem).1
  rw [last _ (by decide), last _ (by decide), last _ (by decide)]
  exact syncSensor_registers sensor _

theorem syncSensor_concentrations :
    let synced := syncSensor sensor bank
    let scaled (concentration : D) : UInt16 :=
      DoubleArith.toUInt16
        (DoubleArith.mul concentration (DoubleArith.ofWord (scaleFactor sensor)))
    (synced.holding 0x23 = scaled sensor.gasConcRange ∧
        synced.input 0x23 = scaled sensor.gasConcRange) ∧
      synced.holding 0x53 = scaled sensor.calibration.apliedGasConc ∧
        synced.input 0x53 = scaled sensor.calibration.apliedGasConc := by
  refine ⟨⟨?_, ?_⟩, ?_, ?_⟩ <;> simp [syncSensor]

/-- The concentrations are mirrored in both arrays, scaled by the stored factor. -/
theorem syncAll_concentrations :
    let synced := syncAll build config sensor errors bank
    let scaled (concentration : D) : UInt16 :=
      DoubleArith.toUInt16
        (DoubleArith.mul concentration (DoubleArith.ofWord (scaleFactor sensor)))
    (synced.holding 0x23 = scaled sensor.gasConcRange ∧
        synced.input 0x23 = scaled sensor.gasConcRange) ∧
      synced.holding 0x53 = scaled sensor.calibration.apliedGasConc ∧
        synced.input 0x53 = scaled sensor.calibration.apliedGasConc := by
  have range := syncAll_sensor build config sensor errors bank 0x23 (by decide)
  have applied := syncAll_sensor build config sensor errors bank 0x53 (by decide)
  obtain ⟨⟨holdingRange, inputRange⟩, holdingApplied, inputApplied⟩ :=
    syncSensor_concentrations sensor (syncDevice build config bank)
  exact ⟨⟨range.1.trans holdingRange, range.2.trans inputRange⟩,
    applied.1.trans holdingApplied, applied.2.trans inputApplied⟩

/-- Addresses of the alarm configuration and of the alarm thresholds. -/
def alarmRegs : List Nat := [0x1A, 0x1B, 0x1C] ++ [0x26, 0x27, 0x28]

/-- The alarm sections are the last to write the registers they cover. -/
theorem syncAll_alarms
    (reg : Nat)
    (mem : reg ∈ alarmRegs) :
    ∃ earlier,
      (syncAll build config sensor errors bank).holding reg =
          (syncAlarmConfig config (syncThresholds config earlier)).holding reg ∧
        (syncAll build config sensor errors bank).input reg =
          (syncAlarmConfig config (syncThresholds config earlier)).input reg := by
  have apart : reg ∉ sensorMirrorRegs ∧ reg ∉ [0x68, 0x69] ∧
      reg ∉ [0x1D, 0x1E, 0x1F, 0x20, 0x21, 0x22] ∧
        reg ∉ [0x0F, 0x10, 0x31, 0x32, 0x4D] ∧ reg ∉ [0x0F, 0x10, 0x21, 0x29, 0x4D] := by
    revert reg
    decide
  obtain ⟨outside, notHysteresis, notOutput, notBase, notBaseInput⟩ := apart
  have second := syncSensorMirror_footprint config sensor errors
  have base := syncBase_footprint build config
  have outputs := syncAnalogOut_footprint config
  have hysteresis := syncHysteresis_footprint config
  refine ⟨syncWords config.location regLocStringStart 16
    (syncWords config.baseSerNum regBaseSerialNo 4 (syncIdentity build bank)), ?_, ?_⟩
  · rw [syncAll, second.holding _ _ outside, syncDevice, base.holding _ _ notBase,
      outputs.holding _ _ notOutput, hysteresis.holding _ _ notHysteresis]
  · rw [syncAll, second.input _ _ outside, syncDevice, base.input _ _ notBaseInput,
      outputs.input _ _ List.not_mem_nil, hysteresis.input _ _ notHysteresis]

omit [DoubleArith D] in
theorem syncThresholds_registers
    (index : Nat)
    (inside : index < 3) :
    (syncThresholds config bank).holding (0x26 + index) =
        FixedArray.read config.alarmThreshold index ∧
      (syncThresholds config bank).input (0x26 + index) =
        FixedArray.read config.alarmThreshold index := by
  rcases index with _ | _ | _ | index
  · constructor <;> simp [syncThresholds]
  · constructor <;> simp [syncThresholds]
  · constructor <;> simp [syncThresholds]
  · omega

theorem mem_alarmRegs_threshold
    {index : Nat}
    (inside : index < 3) :
    0x26 + index ∈ alarmRegs ∧ 0x26 + index ∉ [0x1A, 0x1B, 0x1C] := by
  revert index
  decide

/-- The alarm threshold registers hold the configured thresholds. -/
theorem syncAll_threshold
    (index : Nat)
    (inside : index < 3) :
    (syncAll build config sensor errors bank).holding (0x26 + index) =
      FixedArray.read config.alarmThreshold index := by
  obtain ⟨mem, notConfig⟩ := mem_alarmRegs_threshold inside
  obtain ⟨earlier, same, -⟩ := syncAll_alarms build config sensor errors bank _ mem
  rw [same, (syncAlarmConfig_footprint config).holding _ _ notConfig]
  exact (syncThresholds_registers config earlier index inside).1

/-- So do the input registers with the same addresses. -/
theorem syncAll_threshold_input
    (index : Nat)
    (inside : index < 3) :
    (syncAll build config sensor errors bank).input (0x26 + index) =
      FixedArray.read config.alarmThreshold index := by
  obtain ⟨mem, notConfig⟩ := mem_alarmRegs_threshold inside
  obtain ⟨earlier, -, same⟩ := syncAll_alarms build config sensor errors bank _ mem
  rw [same, (syncAlarmConfig_footprint config).input _ _ notConfig]
  exact (syncThresholds_registers config earlier index inside).2

/-- The alarm configuration registers pack settings and relay delay. -/
theorem syncAll_alarmConfig
    (index : Nat)
    (inside : index < 3) :
    (syncAll build config sensor errors bank).holding (0x1A + index) =
      BigEndian.word (FixedArray.read config.alarmSettings index)
        (FixedArray.read config.relayOffDelay index) := by
  have covered : 0x1A ≤ 0x1A + index ∧ 0x1A + index < 0x1D := by omega
  have mem : 0x1A + index ∈ alarmRegs := by
    revert index
    decide
  obtain ⟨earlier, same, -⟩ := syncAll_alarms build config sensor errors bank _ mem
  rw [same, syncAlarmConfig_holding, if_pos covered, Nat.add_sub_cancel_left]

/-- The manufacturer-id registers carry the first eight bytes of the id. -/
theorem syncAll_manId
    (index : Nat)
    (inside : index < 4) :
    (syncAll build config sensor errors bank).holding (0x34 + index) =
      BigEndian.word (FixedArray.read sensor.manIdNumber (index * 2))
        (FixedArray.read sensor.manIdNumber (index * 2 + 1)) := by
  have covered : 0x34 ≤ 0x34 + index ∧ 0x34 + index < 0x34 + 4 := by omega
  unfold syncAll syncSensorMirror
  rw [(updateDiagnosticRegisters_footprint errors).holding _ _ (by
      simp [diagnosticRegs]; omega),
    (syncHysteresis_footprint config).holding _ _ (by simp; omega),
    syncWords_holding _ _ _ _ _ (by decide), regManIdNumb1, if_pos covered,
    Nat.add_sub_cancel_left]

/-- The serial-number registers carry the first eight bytes of the number. -/
theorem syncAll_serial
    (index : Nat)
    (inside : index < 4) :
    (syncAll build config sensor errors bank).holding (0x3C + index) =
      BigEndian.word (FixedArray.read sensor.serialNumber (index * 2))
        (FixedArray.read sensor.serialNumber (index * 2 + 1)) := by
  have covered : 0x3C ≤ 0x3C + index ∧ 0x3C + index < 0x3C + 4 := by omega
  unfold syncAll syncSensorMirror
  rw [(updateDiagnosticRegisters_footprint errors).holding _ _ (by
      simp [diagnosticRegs]; omega),
    (syncHysteresis_footprint config).holding _ _ (by simp; omega),
    (syncWords_footprint sensor.manIdNumber _ 4 (by decide)).holding _ _ (by
      rw [List.mem_range'_1, regManIdNumb1]; omega),
    syncWords_holding _ _ _ _ _ (by decide), regSerialNo, if_pos covered,
    Nat.add_sub_cancel_left]

/-- The calibration section is the last to write the registers it covers,
apart from those of the words, the hysteresis and the diagnostics. -/
theorem syncAll_calibration
    (reg : Nat)
    (mem : reg ∈ [0x58, 0x59, 0x71, 0x72]) :
    ∃ earlier, (syncAll build config sensor errors bank).holding reg =
      (syncCalibration sensor earlier).holding reg := by
  refine ⟨syncSensor sensor (syncDevice build config bank), ?_⟩
  have notNumber : reg ∉ numberMirrorRegs := by
    intro mirrored
    revert reg
    decide
  exact (syncNumbers_footprint config sensor errors).holding _ reg notNumber

theorem syncAll_thResistor :
    (syncAll build config sensor errors bank).holding 0x58 = sensor.thResistor := by
  obtain ⟨earlier, same⟩ :=
    syncAll_calibration build config sensor errors bank 0x58 (by decide)
  rw [same]
  simp [syncCalibration]

theorem syncAll_thBeta :
    (syncAll build config sensor errors bank).holding 0x59 = sensor.thBeta := by
  obtain ⟨earlier, same⟩ :=
    syncAll_calibration build config sensor errors bank 0x59 (by decide)
  rw [same]
  simp [syncCalibration]

theorem syncAll_callSpanTime :
    (syncAll build config sensor errors bank).holding 0x71 = sensor.callSpanTime := by
  obtain ⟨earlier, same⟩ :=
    syncAll_calibration build config sensor errors bank 0x71 (by decide)
  rw [same]
  simp [syncCalibration]

theorem syncAll_callZeroTime :
    (syncAll build config sensor errors bank).holding 0x72 = sensor.callZeroTime := by
  obtain ⟨earlier, same⟩ :=
    syncAll_calibration build config sensor errors bank 0x72 (by decide)
  rw [same]
  simp [syncCalibration]

end

end RegisterBank
end SensorFirmware
