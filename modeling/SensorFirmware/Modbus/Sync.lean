import SensorFirmware.Modbus.Device

/-!
# Mirroring the configuration into the registers

`ModbusService::syncAll` and the two functions that refresh live values.
`syncAll` is one long sequence of assignments in the source; its sections are
separate definitions here, in the order of the source.
-/

namespace SensorFirmware

open BigEndian

/-! ## Sections of `syncAll` -/

namespace RegisterBank

/-- Two build numbers packed into one word. -/
def packBuild (high low : UInt32) : UInt16 :=
  (((high &&& 0xFF) <<< 8) ||| (low &&& 0xFF)).toUInt16

/-- Device type, firmware version, build date and build time. -/
def syncIdentity (build : BuildInfo) (bank : RegisterBank) : RegisterBank :=
  bank
    |>.setHolding regTypeReg 0x0021
    |>.setHolding regDetModel 0x5202
    |>.setHolding regFwVersion 0x0103
    |>.setHolding regFwDate (((26 : UInt16) <<< 8) ||| 4)
    |>.setHolding regFwDate (packBuild build.buildYear build.buildMonth)
    |>.setHolding regFwDate2 ((build.buildDay &&& 0xFF) <<< 8).toUInt16
    |>.copyToInput regTypeReg
    |>.copyToInput regDetModel
    |>.copyToInput regFwVersion
    |>.copyToInput regFwDate
    |>.copyToInput regFwDate2
    |>.setHolding regTimeHourMin (packBuild build.buildHour build.buildMin)
    |>.setHolding regTimeSec ((build.buildSec &&& 0xFF) <<< 8).toUInt16
    |>.copyToInput regTimeHourMin
    |>.copyToInput regTimeSec

/-- Big-endian words of a byte array, mirrored from `start` on. -/
def syncWords (bytes : Vector UInt8 n) (start count : Nat)
    (bank : RegisterBank) : RegisterBank :=
  countedLoop
    (fun i bank => bank.setBoth (start + i)
      (word (FixedArray.read bytes (i * 2)) (FixedArray.read bytes (i * 2 + 1))))
    count bank

/-- Alarm thresholds. -/
def syncThresholds (config : SettingsStruct) (bank : RegisterBank) : RegisterBank :=
  bank
    |>.setHolding regTempHighAlarm (FixedArray.read config.alarmThreshold 0)
    |>.setHolding regTempLowAlarm (FixedArray.read config.alarmThreshold 1)
    |>.setHolding regHumHighAlarm (FixedArray.read config.alarmThreshold 2)
    |>.setInput regTempHighAlarm (FixedArray.read config.alarmThreshold 0)
    |>.setInput regTempLowAlarm (FixedArray.read config.alarmThreshold 1)
    |>.setInput regHumHighAlarm (FixedArray.read config.alarmThreshold 2)

/-- Alarm settings and relay delays. -/
def syncAlarmConfig (config : SettingsStruct) (bank : RegisterBank) : RegisterBank :=
  countedLoop
    (fun i bank => bank.setBoth (regAlarm1Config + i)
      (word (FixedArray.read config.alarmSettings i)
        (FixedArray.read config.relayOffDelay i)))
    3 bank

/-- Alarm hysteresis; the source writes this section twice. -/
def syncHysteresis (config : SettingsStruct) (bank : RegisterBank) : RegisterBank :=
  bank
    |>.setHolding regAlrmHysteresis1
      (word (FixedArray.read config.alarmOffHysteresis 0)
        (FixedArray.read config.alarmOffHysteresis 1))
    |>.setHolding regAlrmHysteresis2
      (FixedArray.read config.alarmOffHysteresis 2).toUInt16
    |>.copyToInput regAlrmHysteresis1
    |>.copyToInput regAlrmHysteresis2

/-- Analogue output levels, holding registers only. -/
def syncAnalogOut (config : SettingsStruct) (bank : RegisterBank) : RegisterBank :=
  countedLoop
    (fun i bank => bank.setHolding (regAnalogOutLev1 + i)
      (FixedArray.read config.analogOutLev i).toUInt16)
    6 bank

/-- Baud rate, display, transmitter configuration and date. -/
def syncBase (build : BuildInfo) (config : SettingsStruct)
    (bank : RegisterBank) : RegisterBank :=
  bank
    |>.setHolding regBaudRate (config.baudrate / 100).toUInt16
    |>.setHolding regDisplayLanguage config.display
    |>.setHolding regBaseConfig config.configReg
    |>.setHolding regDateYearMon ((config.manDateYear <<< 8) ||| config.manDateMonth)
    |>.setHolding regDateYearMon (packBuild build.buildYear build.buildMonth)
    |>.setHolding regDateDay (build.buildDay &&& 0xFF).toUInt16
    |>.copyToInput regDateDay
    |>.setInput regBaseConfig config.configReg
    |>.copyToInput regDateYearMon
    |>.setInput regGasType 0x31
    |>.setInput regScalingFactor 10

section

variable [DoubleArith D]

/-- `Sensor.mul_factor`, or one where it is zero. -/
def scaleFactor (sensor : SensorStruct D) : UInt16 :=
  if sensor.mulFactor ≠ 0 then sensor.mulFactor.toUInt16 else 1

/-- Sensor type, gas, unit and concentrations. -/
def syncSensor (sensor : SensorStruct D) (bank : RegisterBank) : RegisterBank :=
  bank
    |>.setBoth regSensorType sensor.type
    |>.setBoth regGasType sensor.gas.toUInt16
    |>.setBoth regMeasUnit sensor.displayUnit.toUInt16
    |>.setHolding regGasConctRange
      (DoubleArith.toUInt16
        (DoubleArith.mul sensor.gasConcRange (DoubleArith.ofWord (scaleFactor sensor))))
    |>.copyToInput regGasConctRange
    |>.setHolding regCalbConcVal
      (DoubleArith.toUInt16
        (DoubleArith.mul sensor.calibration.apliedGasConc
          (DoubleArith.ofWord (scaleFactor sensor))))
    |>.copyToInput regCalbConcVal

/-- Calibration, supply, warm-up, thermistor and date fields of the sensor. -/
def syncCalibration (sensor : SensorStruct D) (bank : RegisterBank) : RegisterBank :=
  bank
    |>.setBoth regCalGasType sensor.calibration.appliedGas.toUInt16
    |>.setBoth regCalbCycle sensor.calibration.cycle.toUInt16
    |>.setHolding regGasLelValue
      (DoubleArith.toUInt16 (DoubleArith.mul sensor.gasLelValue (DoubleArith.ofInt 100)))
    |>.copyToInput regGasLelValue
    |>.setHolding regPidGasIndex (sensor.vocGas + 1)
    |>.copyToInput regPidGasIndex
    |>.setBoth regSenSupplyVoltage sensor.supplyVoltage.toUInt16
    |>.setBoth warmUpTimeReg sensor.warmUpTime.toUInt16
    |>.setHolding operatingTempReg (DoubleArith.toInt16 sensor.oprTempMax).toUInt16
    |>.copyToInput operatingTempReg
    |>.setBoth callSpanTimeReg sensor.callSpanTime
    |>.setBoth callZeroTimeReg sensor.callZeroTime
    |>.setBoth irThermistorResReg sensor.thResistor
    |>.setBoth irThermistorBetaReg sensor.thBeta
    |>.setBoth sensorManDateReg sensor.manDate

end

/-- `updateDiagnosticRegisters`. -/
def updateDiagnosticRegisters (errors : ErrorManager)
    (bank : RegisterBank) : RegisterBank :=
  bank
    |>.setHolding regDiagCrcErrors errors.crcCount.toUInt16
    |>.setHolding regDiagUartOverflows errors.uartOverflowCount.toUInt16
    |>.setHolding regDiagSensorReadFails errors.sensorReadFailCount.toUInt16
    |>.setHolding regDiagI2cRecoveries errors.i2cRecoveryCount.toUInt16
    |>.setHolding regDiagWatchdogResets errors.watchdogResetCount.toUInt16
    |>.setHolding regDiagFlashSaveFails errors.flashSaveFailCount.toUInt16
    |>.setHolding regDiagHealthState (if errors.systemHealthy then 1 else 0)
    |>.setHolding regDiagConsecutiveFaults
      (word errors.consecutiveSensorReadFailCount errors.consecutiveUartOverflowCount)
    |>.copyToInput regDiagCrcErrors
    |>.copyToInput regDiagUartOverflows
    |>.copyToInput regDiagSensorReadFails
    |>.copyToInput regDiagI2cRecoveries
    |>.copyToInput regDiagWatchdogResets
    |>.copyToInput regDiagFlashSaveFails
    |>.copyToInput regDiagHealthState
    |>.copyToInput regDiagConsecutiveFaults

/-- First half of `syncAll`: the device configuration. -/
def syncDevice (build : BuildInfo) (config : SettingsStruct)
    (bank : RegisterBank) : RegisterBank :=
  bank
    |> syncIdentity build
    |> syncWords config.baseSerNum regBaseSerialNo 4
    |> syncWords config.location regLocStringStart 16
    |> syncThresholds config
    |> syncAlarmConfig config
    |> syncHysteresis config
    |> syncAnalogOut config
    |> syncBase build config

/-- Second half of `syncAll`: the sensor record, the hysteresis once more and
the diagnostics. -/
def syncSensorMirror [DoubleArith D] (config : SettingsStruct)
    (sensor : SensorStruct D) (errors : ErrorManager)
    (bank : RegisterBank) : RegisterBank :=
  bank
    |> syncSensor sensor
    |> syncCalibration sensor
    |> syncWords sensor.serialNumber regSerialNo 4
    |> syncWords sensor.manIdNumber regManIdNumb1 4
    |> syncHysteresis config
    |> updateDiagnosticRegisters errors

/-- The register arrays after `syncAll`. -/
def syncAll [DoubleArith D] (build : BuildInfo) (config : SettingsStruct)
    (sensor : SensorStruct D) (errors : ErrorManager)
    (bank : RegisterBank) : RegisterBank :=
  syncSensorMirror config sensor errors (syncDevice build config bank)

end RegisterBank

namespace Device

/-- `ModbusService::syncAll`. -/
def syncAll [DoubleArith D] (dev : Device D) : Device D :=
  dev.updateBank
    (RegisterBank.syncAll dev.build dev.deviceConfig dev.sensor dev.errors)

/-- `ModbusService::updateDiagnosticRegisters`. -/
def updateDiagnosticRegisters (dev : Device D) : Device D :=
  dev.updateBank (RegisterBank.updateDiagnosticRegisters dev.errors)

/-- The status word that `updateLiveInputs` computes from `tempVal_`. -/
def liveStatus (dev : Device D) : UInt16 :=
  if (dev.holding regTempHighAlarm).toInt16 < dev.modbus.tempVal then 0x01 else 0

/-- `ModbusService::updateLiveInputs`. -/
def updateLiveInputs (dev : Device D) : Device D :=
  dev.updateBank (fun bank =>
      bank
        |>.setInput 0x20 dev.modbus.humVal.toUInt16
        |>.setInput regSensorStatus dev.liveStatus)
    |>.updateDiagnosticRegisters

/-- The holding registers after a synchronization. -/
theorem syncAll_holding [DoubleArith D] (dev : Device D) (reg : Nat) :
    dev.syncAll.holding reg =
      (RegisterBank.syncAll dev.build dev.deviceConfig dev.sensor dev.errors
        dev.modbus.bank).holding reg := rfl

/-- Refreshing the live values only changes the register arrays. -/
theorem updateLiveInputs_project
    (dev : Device D)
    (project : Device D → β)
    (bankless : ∀ (dev : Device D) change, project (dev.updateBank change) = project dev) :
    project dev.updateLiveInputs = project dev := by
  rw [updateLiveInputs, updateDiagnosticRegisters, bankless, bankless]

@[simp] theorem updateLiveInputs_transmitted (dev : Device D) :
    dev.updateLiveInputs.transmitted = dev.transmitted :=
  updateLiveInputs_project dev (·.transmitted) fun _ _ => rfl

@[simp] theorem updateLiveInputs_slaveAddress (dev : Device D) :
    dev.updateLiveInputs.modbus.slaveAddress = dev.modbus.slaveAddress :=
  updateLiveInputs_project dev (·.modbus.slaveAddress) fun _ _ => rfl

end Device

end SensorFirmware
