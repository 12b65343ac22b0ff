import SensorFirmware.Library.CheckedAccess
import SensorFirmware.Modbus.Sync

/-!
# Checked accesses to the registers

`syncAll` and the refresh of the live values with a bounds check at every access
to `holdingRegs_`, `inputRegs_` and the arrays of the configuration records.
Every check succeeds, and the result is that of the unchecked function.
-/

namespace SensorFirmware

open BigEndian

namespace RegisterBank

/-! ## Single registers -/

section

variable (bank : RegisterBank) (reg : Nat) (value : UInt16)

/-- `holdingRegs_[reg]`. -/
def holding? : Option UInt16 := FixedArray.read? bank.holdingRegs reg

/-- `inputRegs_[reg]`. -/
def input? : Option UInt16 := FixedArray.read? bank.inputRegs reg

/-- `holdingRegs_[reg] = value`. -/
def setHolding? : Option RegisterBank := do
  let cells ← FixedArray.write? bank.holdingRegs reg value
  some { bank with holdingRegs := cells }

/-- `inputRegs_[reg] = value`. -/
def setInput? : Option RegisterBank := do
  let cells ← FixedArray.write? bank.inputRegs reg value
  some { bank with inputRegs := cells }

/-- `inputRegs_[reg] = holdingRegs_[reg]`. -/
def copyToInput? : Option RegisterBank := do
  let value ← bank.holding? reg
  bank.setInput? reg value

/-- `holdingRegs_[reg] = value; inputRegs_[reg] = value`. -/
def setBoth? : Option RegisterBank := do
  let stored ← bank.setHolding? reg value
  stored.setInput? reg value

variable {reg} (inArray : reg < holdingRegSize)

include inArray

@[simp] theorem holding?_eq_some : bank.holding? reg = some (bank.holding reg) :=
  FixedArray.read?_eq_some bank.holdingRegs reg inArray

@[simp] theorem input?_eq_some : bank.input? reg = some (bank.input reg) :=
  FixedArray.read?_eq_some bank.inputRegs reg inArray

@[simp] theorem setHolding?_eq_some :
    bank.setHolding? reg value = some (bank.setHolding reg value) := by
  rw [setHolding?, FixedArray.write?_eq_some _ _ _ inArray]
  rfl

@[simp] theorem setInput?_eq_some :
    bank.setInput? reg value = some (bank.setInput reg value) := by
  rw [setInput?, FixedArray.write?_eq_some _ _ _ inArray]
  rfl

@[simp] theorem copyToInput?_eq_some :
    bank.copyToInput? reg = some (bank.copyToInput reg) := by
  rw [copyToInput?, holding?_eq_some bank inArray]
  exact setInput?_eq_some bank _ inArray

@[simp] theorem setBoth?_eq_some :
    bank.setBoth? reg value = some (bank.setBoth reg value) := by
  rw [setBoth?, setHolding?_eq_some bank value inArray]
  exact setInput?_eq_some _ value inArray

end

/-! ## Sections of `syncAll` -/

/-- Device type, firmware version, build date and build time. -/
def syncIdentity? (build : BuildInfo) (bank : RegisterBank) : Option RegisterBank :=
  bank.setHolding? regTypeReg 0x0021
    >>= (·.setHolding? regDetModel 0x5202)
    >>= (·.setHolding? regFwVersion 0x0103)
    >>= (·.setHolding? regFwDate (((26 : UInt16) <<< 8) ||| 4))
    >>= (·.setHolding? regFwDate (packBuild build.buildYear build.buildMonth))
    >>= (·.setHolding? regFwDate2 ((build.buildDay &&& 0xFF) <<< 8).toUInt16)
    >>= (·.copyToInput? regTypeReg)
    >>= (·.copyToInput? regDetModel)
    >>= (·.copyToInput? regFwVersion)
    >>= (·.copyToInput? regFwDate)
    >>= (·.copyToInput? regFwDate2)
    >>= (·.setHolding? regTimeHourMin (packBuild build.buildHour build.buildMin))
    >>= (·.setHolding? regTimeSec ((build.buildSec &&& 0xFF) <<< 8).toUInt16)
    >>= (·.copyToInput? regTimeHourMin)
    >>= (·.copyToInput? regTimeSec)

theorem syncIdentity?_eq_some (build : BuildInfo) (bank : RegisterBank) :
    syncIdentity? build bank = some (syncIdentity build bank) := by
  simp [syncIdentity?, syncIdentity]

/-- Big-endian words of a byte array, mirrored from `start` on. -/
def syncWords? (bytes : Vector UInt8 n) (start count : Nat)
    (bank : RegisterBank) : Option RegisterBank :=
  countedLoop?
    (fun i bank => do
      let high ← FixedArray.read? bytes (i * 2)
      let low ← FixedArray.read? bytes (i * 2 + 1)
      bank.setBoth? (start + i) (word high low))
    count bank

theorem syncWords?_eq_some
    (bytes : Vector UInt8 n)
    (start count : Nat)
    (bank : RegisterBank)
    (inArray : start + count ≤ holdingRegSize)
    (fits : count * 2 ≤ n) :
    syncWords? bytes start count bank = some (syncWords bytes start count bank) := by
  refine countedLoop?_eq_some (fun i inside bank => ?_) bank
  rw [FixedArray.read?_eq_some bytes _ (by omega),
    FixedArray.read?_eq_some bytes _ (by omega)]
  exact setBoth?_eq_some bank _ (by omega)

/-- Alarm thresholds. -/
def syncThresholds? (config : SettingsStruct) (bank : RegisterBank) :
    Option RegisterBank := do
  let high ← FixedArray.read? config.alarmThreshold 0
  let low ← FixedArray.read? config.alarmThreshold 1
  let humidity ← FixedArray.read? config.alarmThreshold 2
  bank.setHolding? regTempHighAlarm high
    >>= (·.setHolding? regTempLowAlarm low)
    >>= (·.setHolding? regHumHighAlarm humidity)
    >>= (·.setInput? regTempHighAlarm high)
    >>= (·.setInput? regTempLowAlarm low)
    >>= (·.setInput? regHumHighAlarm humidity)

theorem syncThresholds?_eq_some (config : SettingsStruct) (bank : RegisterBank) :
    syncThresholds? config bank = some (syncThresholds config bank) := by
  simp [syncThresholds?, syncThresholds, FixedArray.read?_eq_some]

/-- Alarm settings and relay delays. -/
def syncAlarmConfig? (config : SettingsStruct) (bank : RegisterBank) :
    Option RegisterBank :=
  countedLoop?
    (fun i bank => do
      let settings ← FixedArray.read? config.alarmSettings i
      let delay ← FixedArray.read? config.relayOffDelay i
      bank.setBoth? (regAlarm1Config + i) (word settings delay))
    3 bank

theorem syncAlarmConfig?_eq_some (config : SettingsStruct) (bank : RegisterBank) :
    syncAlarmConfig? config bank = some (syncAlarmConfig config bank) := by
  refine countedLoop?_eq_some (fun i inside bank => ?_) bank
  rw [FixedArray.read?_eq_some _ _ (by omega), FixedArray.read?_eq_some _ _ (by omega)]
  exact setBoth?_eq_some bank _ (by simp; omega)

/-- Alarm hysteresis. -/
def syncHysteresis? (config : SettingsStruct) (bank : RegisterBank) :
    Option RegisterBank := do
  let first ← FixedArray.read? config.alarmOffHysteresis 0
  let second ← FixedArray.read? config.alarmOffHysteresis 1
  let third ← FixedArray.read? config.alarmOffHysteresis 2
  bank.setHolding? regAlrmHysteresis1 (word first second)
    >>= (·.setHolding? regAlrmHysteresis2 third.toUInt16)
    >>= (·.copyToInput? regAlrmHysteresis1)
    >>= (·.copyToInput? regAlrmHysteresis2)

theorem syncHysteresis?_eq_some (config : SettingsStruct) (bank : RegisterBank) :
    syncHysteresis? config bank = some (syncHysteresis config bank) := by
  simp [syncHysteresis?, syncHysteresis, FixedArray.read?_eq_some]

/-- Analogue output levels, holding registers only. -/
def syncAnalogOut? (config : SettingsStruct) (bank : RegisterBank) :
    Option RegisterBank :=
  countedLoop?
    (fun i bank => do
      let level ← FixedArray.read? config.analogOutLev i
      bank.setHolding? (regAnalogOutLev1 + i) level.toUInt16)
    6 bank

theorem syncAnalogOut?_eq_some (config : SettingsStruct) (bank : RegisterBank) :
    syncAnalogOut? config bank = some (syncAnalogOut config bank) := by
  refine countedLoop?_eq_some (fun i inside bank => ?_) bank
  rw [FixedArray.read?_eq_some _ _ (by omega)]
  exact setHolding?_eq_some bank _ (by simp; omega)

/-- Baud rate, display, transmitter configuration and date. -/
def syncBase? (build : BuildInfo) (config : SettingsStruct)
    (bank : RegisterBank) : Option RegisterBank :=
  bank.setHolding? regBaudRate (config.baudrate / 100).toUInt16
    >>= (·.setHolding? regDisplayLanguage config.display)
    >>= (·.setHolding? regBaseConfig config.configReg)
    >>= (·.setHolding? regDateYearMon
      ((config.manDateYear <<< 8) ||| config.manDateMonth))
    >>= (·.setHolding? regDateYearMon (packBuild build.buildYear build.buildMonth))
    >>= (·.setHolding? regDateDay (build.buildDay &&& 0xFF).toUInt16)
    >>= (·.copyToInput? regDateDay)
    >>= (·.setInput? regBaseConfig config.configReg)
    >>= (·.copyToInput? regDateYearMon)
    >>= (·.setInput? regGasType 0x31)
    >>= (·.setInput? regScalingFactor 10)

theorem syncBase?_eq_some
    (build : BuildInfo)
    (config : SettingsStruct)
    (bank : RegisterBank) :
    syncBase? build config bank = some (syncBase build config bank) := by
  simp [syncBase?, syncBase]

section

variable [DoubleArith D] (sensor : SensorStruct D) (bank : RegisterBank)

/-- Sensor type, gas, unit and concentrations. -/
def syncSensor? : Option RegisterBank :=
  bank.setBoth? regSensorType sensor.type
    >>= (·.setBoth? regGasType sensor.gas.toUInt16)
    >>= (·.setBoth? regMeasUnit sensor.displayUnit.toUInt16)
    >>= (·.setHolding? regGasConctRange
      (DoubleArith.toUInt16
        (DoubleArith.mul sensor.gasConcRange (DoubleArith.ofWord (scaleFactor sensor)))))
    >>= (·.copyToInput? regGasConctRange)
    >>= (·.setHolding? regCalbConcVal
      (DoubleArith.toUInt16
        (DoubleArith.mul sensor.calibration.apliedGasConc
          (DoubleArith.ofWord (scaleFactor sensor)))))
    >>= (·.copyToInput? regCalbConcVal)

theorem syncSensor?_eq_some :
    syncSensor? sensor bank = some (syncSensor sensor bank) := by
  simp [syncSensor?, syncSensor]

/-- Calibration, supply, warm-up, thermistor and date fields of the sensor. -/
def syncCalibration? : Option RegisterBank :=
  bank.setBoth? regCalGasType sensor.calibration.appliedGas.toUInt16
    >>= (·.setBoth? regCalbCycle sensor.calibration.cycle.toUInt16)
    >>= (·.setHolding? regGasLelValue
      (DoubleArith.toUInt16
        (DoubleArith.mul sensor.gasLelValue (DoubleArith.ofInt 100))))
    >>= (·.copyToInput? regGasLelValue)
    >>= (·.setHolding? regPidGasIndex (sensor.vocGas + 1))
    >>= (·.copyToInput? regPidGasIndex)
    >>= (·.setBoth? regSenSupplyVoltage sensor.supplyVoltage.toUInt16)
    >>= (·.setBoth? warmUpTimeReg sensor.warmUpTime.toUInt16)
    >>= (·.setHolding? operatingTempReg (DoubleArith.toInt16 sensor.oprTempMax).toUInt16)
    >>= (·.copyToInput? operatingTempReg)
    >>= (·.setBoth? callSpanTimeReg sensor.callSpanTime)
    >>= (·.setBoth? callZeroTimeReg sensor.callZeroTime)
    >>= (·.setBoth? irThermistorResReg sensor.thResistor)
    >>= (·.setBoth? irThermistorBetaReg sensor.thBeta)
    >>= (·.setBoth? sensorManDateReg sensor.manDate)

theorem syncCalibration?_eq_some :
    syncCalibration? sensor bank = some (syncCalibration sensor bank) := by
  simp [syncCalibration?, syncCalibration]

end

/-- `updateDiagnosticRegisters`. -/
def updateDiagnosticRegisters? (errors : ErrorManager)
    (bank : RegisterBank) : Option RegisterBank :=
  bank.setHolding? regDiagCrcErrors errors.crcCount.toUInt16
    >>= (·.setHolding? regDiagUartOverflows errors.uartOverflowCount.toUInt16)
    >>= (·.setHolding? regDiagSensorReadFails errors.sensorReadFailCount.toUInt16)
    >>= (·.setHolding? regDiagI2cRecoveries errors.i2cRecoveryCount.toUInt16)
    >>= (·.setHolding? regDiagWatchdogResets errors.watchdogResetCount.toUInt16)
    >>= (·.setHolding? regDiagFlashSaveFails errors.flashSaveFailCount.toUInt16)
    >>= (·.setHolding? regDiagHealthState (if errors.systemHealthy then 1 else 0))
    >>= (·.setHolding? regDiagConsecutiveFaults
      (word errors.consecutiveSensorReadFailCount errors.consecutiveUartOverflowCount))
    >>= (·.copyToInput? regDiagCrcErrors)
    >>= (·.copyToInput? regDiagUartOverflows)
    >>= (·.copyToInput? regDiagSensorReadFails)
    >>= (·.copyToInput? regDiagI2cRecoveries)
    >>= (·.copyToInput? regDiagWatchdogResets)
    >>= (·.copyToInput? regDiagFlashSaveFails)
    >>= (·.copyToInput? regDiagHealthState)
    >>= (·.copyToInput? regDiagConsecutiveFaults)

theorem updateDiagnosticRegisters?_eq_some
    (errors : ErrorManager)
    (bank : RegisterBank) :
    updateDiagnosticRegisters? errors bank =
      some (updateDiagnosticRegisters errors bank) := by
  simp [updateDiagnosticRegisters?, updateDiagnosticRegisters]

/-- The register arrays after `syncAll`. -/
def syncAll? [DoubleArith D] (build : BuildInfo) (config : SettingsStruct)
    (sensor : SensorStruct D) (errors : ErrorManager)
    (bank : RegisterBank) : Option RegisterBank :=
  syncIdentity? build bank
    >>= syncWords? config.baseSerNum regBaseSerialNo 4
    >>= syncWords? config.location regLocStringStart 16
    >>= syncThresholds? config
    >>= syncAlarmConfig? config
    >>= syncHysteresis? config
    >>= syncAnalogOut? config
    >>= syncBase? build config
    >>= syncSensor? sensor
    >>= syncCalibration? sensor
    >>= syncWords? sensor.serialNumber regSerialNo 4
    >>= syncWords? sensor.manIdNumber regManIdNumb1 4
    >>= syncHysteresis? config
    >>= updateDiagnosticRegisters? errors

theorem syncAll?_eq_some [DoubleArith D]
    (build : BuildInfo)
    (config : SettingsStruct)
    (sensor : SensorStruct D)
    (errors : ErrorManager)
    (bank : RegisterBank) :
    syncAll? build config sensor errors bank =
      some (syncAll build config sensor errors bank) := by
  have baseSerial := syncWords?_eq_some config.baseSerNum regBaseSerialNo 4
  have location := syncWords?_eq_some config.location regLocStringStart 16
  have serial := syncWords?_eq_some sensor.serialNumber regSerialNo 4
  have manId := syncWords?_eq_some sensor.manIdNumber regManIdNumb1 4
  simp only [syncAll?, syncIdentity?_eq_some, syncThresholds?_eq_some,
    syncAlarmConfig?_eq_some, syncHysteresis?_eq_some, syncAnalogOut?_eq_some,
    syncBase?_eq_some, syncSensor?_eq_some, syncCalibration?_eq_some,
    updateDiagnosticRegisters?_eq_some, Option.bind_eq_bind, Option.bind_some,
    baseSerial _ (by decide) (by decide), location _ (by decide) (by decide),
    serial _ (by decide) (by decide), manId _ (by decide) (by decide)]
  rfl

end RegisterBank

namespace Device

/-- Apply a checked change to the register arrays. -/
def updateBank? (dev : Device D) (change : RegisterBank → Option RegisterBank) :
    Option (Device D) := do
  let bank ← change dev.modbus.bank
  some { dev with modbus := { dev.modbus with bank := bank } }

theorem updateBank?_eq_some
    {dev : Device D}
    {change : RegisterBank → Option RegisterBank}
    {plain : RegisterBank → RegisterBank}
    (succeeds : change dev.modbus.bank = some (plain dev.modbus.bank)) :
    dev.updateBank? change = some (dev.updateBank plain) := by
  rw [updateBank?, succeeds]
  rfl

/-- `ModbusService::syncAll`. -/
def syncAll? [DoubleArith D] (dev : Device D) : Option (Device D) :=
  dev.updateBank?
    (RegisterBank.syncAll? dev.build dev.deviceConfig dev.sensor dev.errors)

theorem syncAll?_eq_some [DoubleArith D] (dev : Device D) :
    dev.syncAll? = some dev.syncAll :=
  updateBank?_eq_some (RegisterBank.syncAll?_eq_some _ _ _ _ _)

/-- `ModbusService::updateLiveInputs`. -/
def updateLiveInputs? (dev : Device D) : Option (Device D) := do
  let high ← dev.modbus.bank.holding? regTempHighAlarm
  let status : UInt16 := if high.toInt16 < dev.modbus.tempVal then 0x01 else 0
  dev.updateBank? fun bank =>
    bank.setInput? 0x20 dev.modbus.humVal.toUInt16
      >>= (·.setInput? regSensorStatus status)
      >>= RegisterBank.updateDiagnosticRegisters? dev.errors

theorem updateLiveInputs?_eq_some (dev : Device D) :
    dev.updateLiveInputs? = some dev.updateLiveInputs := by
  have composed : dev.updateLiveInputs = dev.updateBank fun bank =>
      RegisterBank.updateDiagnosticRegisters dev.errors
        ((bank.setInput 0x20 dev.modbus.humVal.toUInt16).setInput regSensorStatus
          dev.liveStatus) := rfl
  rw [composed, updateLiveInputs?, RegisterBank.holding?_eq_some _ (by decide),
    Option.bind_eq_bind, Option.bind_some]
  apply updateBank?_eq_some
  rw [RegisterBank.setInput?_eq_some _ _ (by decide), Option.bind_eq_bind,
    Option.bind_some, RegisterBank.setInput?_eq_some _ _ (by decide), Option.bind_some,
    RegisterBank.updateDiagnosticRegisters?_eq_some]
  rfl

end Device

end SensorFirmware
