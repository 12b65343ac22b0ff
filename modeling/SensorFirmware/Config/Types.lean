import Mathlib.Data.Rat.Floor
import Mathlib.Data.Rat.Cast.Order
import SensorFirmware.Library.FixedArray

/-!
# Configuration records

The packed records that the firmware keeps in RAM and in its flash image, with
the constants of `appcons.h` that the modelled code uses.

The C type `double` is a parameter: `DoubleArith` lists the operations that the
firmware applies to it, so every result holds for each way of carrying them
out.  The rational instance reads them as exact arithmetic.
-/

namespace SensorFirmware

/-- The operations on `double` values that the firmware uses. -/
class DoubleArith (D : Type) where
  /-- Conversion of an integer. -/
  ofInt : Int → D
  /-- Multiplication. -/
  mul : D → D → D
  /-- Division. -/
  div : D → D → D
  /-- The comparison `left < right`. -/
  lt : D → D → Bool
  /-- Truncating conversion to `uint16_t`. -/
  toUInt16 : D → UInt16
  /-- Truncating conversion to `int16_t`. -/
  toInt16 : D → Int16

namespace DoubleArith

/-- Conversion of an unsigned word. -/
def ofWord [DoubleArith D] (value : UInt16) : D :=
  ofInt value.toNat

/-- Conversion of an unsigned byte. -/
def ofByte [DoubleArith D] (value : UInt8) : D :=
  ofInt value.toNat

/-- Exact rational arithmetic. -/
instance : DoubleArith ℚ where
  ofInt value := value
  mul left right := left * right
  div left right := left / right
  lt left right := decide (left < right)
  toUInt16 value := UInt16.ofInt (value.num.tdiv value.den)
  toInt16 value := Int16.ofInt (value.num.tdiv value.den)

end DoubleArith

open DoubleArith

/-! ## Constants of `appcons.h` and `Config_Manager.h` -/

/-- `CONFIG_MAGIC_NUM`. -/
def configMagicNum : UInt32 := 0xABCD1234

/-- `DEFAULT_MDBS_BAUDRATE`. -/
def defaultMdbsBaudrate : UInt32 := 57600

/-! Display units, gases, sensor cards and the generic detector model. -/

def unitPpm : UInt8 := 2
def unitLel : UInt8 := 4
def unitPpb : UInt8 := 5

def gasIndxOffset : UInt8 := 30
def gasCh4 : UInt8 := 31
def gasC3h8 : UInt8 := 34
def gasC5h12 : UInt8 := 37
def gasC2h2 : UInt8 := 60
def gasO2 : UInt8 := 65
def gasTvoc : UInt8 := 80
def gasVoc : UInt8 := 81
def gasIsobutylene : UInt8 := 85

def infraredSensor : UInt16 := 0x4576
def catalyticSensor : UInt16 := 0x6522
def pidSensor : UInt16 := 0x3754
def genericModelDet : UInt16 := 0x5202

/-! Alarm configuration bits (`eAlarmConfigBitDef`, `eTripDirDef`). -/

def autoReset : UInt8 := 0x01
def dfltEnergised : UInt8 := 0x02
def tripDirection : UInt8 := 0x04
def alrmTrgType : UInt8 := 0x08
def tripRising : UInt8 := 0x00
def tripFalling : UInt8 := 0x04

/-! Alarm indices (`eAlarmStatus`). -/

def alarm1 : Nat := 1
def alarm2 : Nat := 2
def alarm3 : Nat := 3

/-! Transmitter configuration bits (`eTransmiterConfigBitDef`). -/

def testDueFltInhibit : UInt16 := 0x0001
def zeroSuppressionEn : UInt16 := 0x0002
def rs485FltInhibit : UInt16 := 0x0004
def relayCardInstalled : UInt16 := 0x0008
def callDueFltInhibit : UInt16 := 0x0010
def batteryFltInhibit : UInt16 := 0x0020
def anlgOutFltAutoReset : UInt16 := 0x0040
def overRangeAutoReset : UInt16 := 0x0080

/-- `DISPLAY_ON`. -/
def displayOn : UInt16 := 0x80

/-! Limits. -/

def minRdDelay : UInt8 := 10
def maxRdDelay : UInt8 := 50
def lampPeriodLow : UInt16 := 250
def lampPeriodHigh : UInt16 := 500
def minCalbCyle : UInt8 := 1
def maxCalbCyle : UInt8 := 12
def minHysteresis : UInt16 := 2
def maxHysteresis : UInt16 := 20
def minWarmUpTime : UInt8 := 1
def maxWarmUpTime : UInt8 := 10
def minCalibrationTime : UInt16 := 60
def maxCalibrationTime : UInt16 := 600
def modbusScalingFactor : UInt8 := 10
def sensorVolRange : UInt8 := 5

/-! Temperature limits, all whole degrees in the source. -/

def minTemprature : Int := -40
def maxCtlyTemprature : Int := 70
def maxTempratureRangeH : Int := 100
def maxTempratureRangeL : Int := 40
def minTempratureRangeH : Int := -1
def minTempratureRangeL : Int := -65
def overRangeResetPrcnt : Int := 96

/-! ## Records -/

/-- `hart_device_stgn`. -/
structure HartDeviceStgn where
  address : UInt8
  multidropMode : UInt8
  cnfgChngCntr : UInt16
  tagDescDate : Vector UInt8 21
  assmblyNumber : Vector UInt8 3
  longTag : Vector UInt8 32
  message : Vector UInt8 24
  dmy1 : UInt16
  signature : UInt16
  deriving DecidableEq

/-- `SettingsStruct`, the device configuration. -/
structure SettingsStruct where
  dmyFill : Vector UInt8 8
  verifyKey : UInt32
  id : UInt16
  hartConfig : UInt16
  password : Vector UInt8 4
  baseSerNum : Vector UInt8 8
  location : Vector UInt8 32
  display : UInt16
  configReg : UInt16
  analogOutLev : Vector UInt8 8
  alarmThreshold : Vector UInt16 4
  alarmOffHysteresis : Vector UInt8 4
  alarmSettings : Vector UInt8 4
  relayOffDelay : Vector UInt8 4
  manDateYear : UInt16
  manDateMonth : UInt16
  baudrate : UInt32
  hart : HartDeviceStgn
  dmy1 : UInt16
  deriving DecidableEq

/-- `CalibrationStruct`. -/
structure CalibrationStruct (D : Type) where
  zeroAdcVal : UInt16
  spanAdcVal : UInt16
  zeroRatioInt : UInt32
  spanRatioInt : UInt32
  date : Vector UInt8 3
  cycle : UInt8
  spanGasType : UInt8
  appliedGas : UInt8
  dmy2 : UInt8
  dmy3 : UInt8
  zeroRatio : D
  spanRatio : D
  span : D
  span100Vol : D
  temperature : D
  spanGasConc : D
  apliedGasConc : D
  spanGasRelSens : D
  apliedGasRelSens : D
  apliedGasLelValue : D
  deriving DecidableEq

/-- `CoefficientStruct`. -/
structure CoefficientStruct (D : Type) where
  a : D
  n : D
  alphaPos : D
  alphaNeg : D
  betaPos : D
  betaNeg : D
  deriving DecidableEq

/-- `SensorStruct`, the sensor configuration. -/
structure SensorStruct (D : Type) where
  gas : UInt8
  calibrationDue : UInt8
  displayUnit : UInt8
  disable : UInt8
  filterUpdateTick : UInt8
  regSwitchedOff : UInt8
  pellistorSaver : UInt8
  warmUpTime : UInt8
  bumpTestDue : UInt8
  wrProtect : UInt8
  mulFactor : UInt8
  supplyVoltage : UInt8
  type : UInt16
  model : UInt16
  manDate : UInt16
  vocGas : UInt16
  bumpTestInterval : UInt8
  bumpTestDate : Vector UInt8 3
  lampDrvPeriod : UInt16
  rdTimeDelayPeak : UInt8
  rdTimeDelayDeep : UInt8
  thResistor : UInt16
  thBeta : UInt16
  callSpanTime : UInt16
  callZeroTime : UInt16
  serialNumber : Vector UInt8 12
  manIdNumber : Vector UInt8 12
  thCoeff : D
  gasConcRange : D
  gasLelValue : D
  lelCorrectionFact : D
  vocResponseFact : D
  relativeSensitivity : D
  oprTempMax : D
  oprTempMin : D
  upperRangeLimit : D
  lowerRangeLimit : D
  overRangeResetThr : D
  coefficient : CoefficientStruct D
  calibration : CalibrationStruct D
  deriving DecidableEq

/-- `AlarmStruct`. -/
structure AlarmStruct (D : Type) where
  onLevel : D
  offLevel : D
  configStatus : UInt8
  relay : UInt8
  hysteresis : UInt8
  offDelay : UInt8
  deriving DecidableEq

/-! ## Zero-filled records, as `memset` leaves them -/

/-- An array of zero bytes. -/
def zeroBytes (n : Nat) : Vector UInt8 n := Vector.replicate n 0

def HartDeviceStgn.zero : HartDeviceStgn where
  address := 0
  multidropMode := 0
  cnfgChngCntr := 0
  tagDescDate := zeroBytes 21
  assmblyNumber := zeroBytes 3
  longTag := zeroBytes 32
  message := zeroBytes 24
  dmy1 := 0
  signature := 0

def SettingsStruct.zero : SettingsStruct where
  dmyFill := zeroBytes 8
  verifyKey := 0
  id := 0
  hartConfig := 0
  password := zeroBytes 4
  baseSerNum := zeroBytes 8
  location := zeroBytes 32
  display := 0
  configReg := 0
  analogOutLev := zeroBytes 8
  alarmThreshold := Vector.replicate 4 0
  alarmOffHysteresis := zeroBytes 4
  alarmSettings := zeroBytes 4
  relayOffDelay := zeroBytes 4
  manDateYear := 0
  manDateMonth := 0
  baudrate := 0
  hart := HartDeviceStgn.zero
  dmy1 := 0

section

variable [DoubleArith D]

def CalibrationStruct.zero : CalibrationStruct D where
  zeroAdcVal := 0
  spanAdcVal := 0
  zeroRatioInt := 0
  spanRatioInt := 0
  date := zeroBytes 3
  cycle := 0
  spanGasType := 0
  appliedGas := 0
  dmy2 := 0
  dmy3 := 0
  zeroRatio := ofInt 0
  spanRatio := ofInt 0
  span := ofInt 0
  span100Vol := ofInt 0
  temperature := ofInt 0
  spanGasConc := ofInt 0
  apliedGasConc := ofInt 0
  spanGasRelSens := ofInt 0
  apliedGasRelSens := ofInt 0
  apliedGasLelValue := ofInt 0

def CoefficientStruct.zero : CoefficientStruct D where
  a := ofInt 0
  n := ofInt 0
  alphaPos := ofInt 0
  alphaNeg := ofInt 0
  betaPos := ofInt 0
  betaNeg := ofInt 0

def SensorStruct.zero : SensorStruct D where
  gas := 0
  calibrationDue := 0
  displayUnit := 0
  disable := 0
  filterUpdateTick := 0
  regSwitchedOff := 0
  pellistorSaver := 0
  warmUpTime := 0
  bumpTestDue := 0
  wrProtect := 0
  mulFactor := 0
  supplyVoltage := 0
  type := 0
  model := 0
  manDate := 0
  vocGas := 0
  bumpTestInterval := 0
  bumpTestDate := zeroBytes 3
  lampDrvPeriod := 0
  rdTimeDelayPeak := 0
  rdTimeDelayDeep := 0
  thResistor := 0
  thBeta := 0
  callSpanTime := 0
  callZeroTime := 0
  serialNumber := zeroBytes 12
  manIdNumber := zeroBytes 12
  thCoeff := ofInt 0
  gasConcRange := ofInt 0
  gasLelValue := ofInt 0
  lelCorrectionFact := ofInt 0
  vocResponseFact := ofInt 0
  relativeSensitivity := ofInt 0
  oprTempMax := ofInt 0
  oprTempMin := ofInt 0
  upperRangeLimit := ofInt 0
  lowerRangeLimit := ofInt 0
  overRangeResetThr := ofInt 0
  coefficient := CoefficientStruct.zero
  calibration := CalibrationStruct.zero

def AlarmStruct.zero : AlarmStruct D where
  onLevel := ofInt 0
  offLevel := ofInt 0
  configStatus := 0
  relay := 0
  hysteresis := 0
  offDelay := 0

instance : Inhabited (AlarmStruct D) := ⟨AlarmStruct.zero⟩

end

end SensorFirmware
