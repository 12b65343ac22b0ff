import SensorFirmware.Config.ConfigManager
import SensorFirmware.Library.ByteLayout

/-!
# The flash image in memory

The packed records as the bytes that they occupy: all fields in the order of
the source, without gaps, on a little-endian processor.  Only `SettingsStruct` is
filled up, by two bytes to the next multiple of four; they belong to no field and
may have any value.
-/

namespace SensorFirmware

open ByteLayout

/-! ## Doubles -/

/-- How a `double` lies in memory: eight bytes, which a copy preserves. -/
class DoubleLayout (D : Type) where
  layout : ByteLayout D
  size : layout.size = 8

/-- An IEEE 754 double, by the bytes that it occupies. -/
structure Binary64 where
  bytes : Vector UInt8 8
  deriving DecidableEq

namespace Binary64

def toFloat (value : Binary64) : Float :=
  Float.ofBits
    (value.bytes.toList.foldr (fun byte bits => (bits <<< 8) ||| byte.toUInt64) 0)

def ofFloat (value : Float) : Binary64 where
  bytes := Vector.ofFn fun i => (value.toBits >>> (8 * i.val).toUInt64).toUInt8

instance : DoubleArith Binary64 where
  ofInt value := ofFloat (Float.ofInt value)
  mul left right := ofFloat (left.toFloat * right.toFloat)
  div left right := ofFloat (left.toFloat / right.toFloat)
  lt left right := decide (left.toFloat < right.toFloat)
  toUInt16 value := value.toFloat.toUInt16
  toInt16 value := value.toFloat.toInt16

instance : DoubleLayout Binary64 where
  layout := (byte.array 8).map
    { toFun := Binary64.mk
      invFun := Binary64.bytes
      left_inv := fun _ => rfl
      right_inv := fun _ => rfl }
  size := rfl

end Binary64

/-! ## Records -/

/-- `hart_device_stgn`. -/
def HartDeviceStgn.layout : ByteLayout HartDeviceStgn :=
  (byte.pair <| byte.pair <| word16.pair <| (byte.array 21).pair <|
      (byte.array 3).pair <| (byte.array 32).pair <| (byte.array 24).pair <|
        word16.pair word16).map
    { toFun := fun (address, multidropMode, cnfgChngCntr, tagDescDate, assmblyNumber,
          longTag, message, dmy1, signature) =>
        { address, multidropMode, cnfgChngCntr, tagDescDate, assmblyNumber, longTag,
          message, dmy1, signature }
      invFun := fun hart =>
        (hart.address, hart.multidropMode, hart.cnfgChngCntr, hart.tagDescDate,
          hart.assmblyNumber, hart.longTag, hart.message, hart.dmy1, hart.signature)
      left_inv := fun _ => rfl
      right_inv := fun _ => rfl }

/-- `SettingsStruct` up to its last field. -/
def SettingsStruct.layout : ByteLayout SettingsStruct :=
  ((byte.array 8).pair <| word32.pair <| word16.pair <| word16.pair <|
      (byte.array 4).pair <| (byte.array 8).pair <| (byte.array 32).pair <|
        word16.pair <| word16.pair <| (byte.array 8).pair <| (word16.array 4).pair <|
          (byte.array 4).pair <| (byte.array 4).pair <| (byte.array 4).pair <|
            word16.pair <| word16.pair <| word32.pair <|
              HartDeviceStgn.layout.pair word16).map
    { toFun := fun (dmyFill, verifyKey, id, hartConfig, password, baseSerNum, location,
          display, configReg, analogOutLev, alarmThreshold, alarmOffHysteresis,
          alarmSettings, relayOffDelay, manDateYear, manDateMonth, baudrate, hart,
          dmy1) =>
        { dmyFill, verifyKey, id, hartConfig, password, baseSerNum, location, display,
          configReg, analogOutLev, alarmThreshold, alarmOffHysteresis, alarmSettings,
          relayOffDelay, manDateYear, manDateMonth, baudrate, hart, dmy1 }
      invFun := fun device =>
        (device.dmyFill, device.verifyKey, device.id, device.hartConfig,
          device.password, device.baseSerNum, device.location, device.display,
          device.configReg, device.analogOutLev, device.alarmThreshold,
          device.alarmOffHysteresis, device.alarmSettings, device.relayOffDelay,
          device.manDateYear, device.manDateMonth, device.baudrate, device.hart,
          device.dmy1)
      left_inv := fun _ => rfl
      right_inv := fun _ => rfl }

section

variable [DoubleLayout D]

theorem SettingsStruct.size_layout : SettingsStruct.layout.size = 190 := rfl

/-- `CoefficientStruct`. -/
def CoefficientStruct.layout : ByteLayout (CoefficientStruct D) :=
  let double : ByteLayout D := DoubleLayout.layout
  (double.pair <| double.pair <| double.pair <| double.pair <|
      double.pair double).map
    { toFun := fun (a, n, alphaPos, alphaNeg, betaPos, betaNeg) =>
        { a, n, alphaPos, alphaNeg, betaPos, betaNeg }
      invFun := fun coefficient =>
        (coefficient.a, coefficient.n, coefficient.alphaPos, coefficient.alphaNeg,
          coefficient.betaPos, coefficient.betaNeg)
      left_inv := fun _ => rfl
      right_inv := fun _ => rfl }

/-- `CalibrationStruct`. -/
def CalibrationStruct.layout : ByteLayout (CalibrationStruct D) :=
  let double : ByteLayout D := DoubleLayout.layout
  (word16.pair <| word16.pair <| word32.pair <| word32.pair <| (byte.array 3).pair <|
      byte.pair <| byte.pair <| byte.pair <| byte.pair <| byte.pair <|
        double.pair <| double.pair <| double.pair <| double.pair <| double.pair <|
          double.pair <| double.pair <| double.pair <| double.pair double).map
    { toFun := fun (zeroAdcVal, spanAdcVal, zeroRatioInt, spanRatioInt, date, cycle,
          spanGasType, appliedGas, dmy2, dmy3, zeroRatio, spanRatio, span, span100Vol,
          temperature, spanGasConc, apliedGasConc, spanGasRelSens, apliedGasRelSens,
          apliedGasLelValue) =>
        { zeroAdcVal, spanAdcVal, zeroRatioInt, spanRatioInt, date, cycle, spanGasType,
          appliedGas, dmy2, dmy3, zeroRatio, spanRatio, span, span100Vol, temperature,
          spanGasConc, apliedGasConc, spanGasRelSens, apliedGasRelSens,
          apliedGasLelValue }
      invFun := fun calibration =>
        (calibration.zeroAdcVal, calibration.spanAdcVal, calibration.zeroRatioInt,
          calibration.spanRatioInt, calibration.date, calibration.cycle,
          calibration.spanGasType, calibration.appliedGas, calibration.dmy2,
          calibration.dmy3, calibration.zeroRatio, calibration.spanRatio,
          calibration.span, calibration.span100Vol, calibration.temperature,
          calibration.spanGasConc, calibration.apliedGasConc,
          calibration.spanGasRelSens, calibration.apliedGasRelSens,
          calibration.apliedGasLelValue)
      left_inv := fun _ => rfl
      right_inv := fun _ => rfl }

/-- `SensorStruct`. -/
def SensorStruct.layout : ByteLayout (SensorStruct D) :=
  let double : ByteLayout D := DoubleLayout.layout
  (byte.pair <| byte.pair <| byte.pair <| byte.pair <|
      byte.pair <| byte.pair <| byte.pair <| byte.pair <|
      byte.pair <| byte.pair <| byte.pair <| byte.pair <|
      word16.pair <| word16.pair <| word16.pair <| word16.pair <|
      byte.pair <| (byte.array 3).pair <| word16.pair <| byte.pair <| byte.pair <|
      word16.pair <| word16.pair <| word16.pair <| word16.pair <|
      (byte.array 12).pair <| (byte.array 12).pair <|
      double.pair <| double.pair <| double.pair <| double.pair <| double.pair <|
      double.pair <| double.pair <| double.pair <| double.pair <| double.pair <|
      double.pair <|
      (CoefficientStruct.layout (D := D)).pair (CalibrationStruct.layout (D := D))).map
    { toFun := fun (gas, calibrationDue, displayUnit, disable, filterUpdateTick,
          regSwitchedOff, pellistorSaver, warmUpTime, bumpTestDue, wrProtect, mulFactor,
          supplyVoltage, type, model, manDate, vocGas, bumpTestInterval, bumpTestDate,
          lampDrvPeriod, rdTimeDelayPeak, rdTimeDelayDeep, thResistor, thBeta,
          callSpanTime, callZeroTime, serialNumber, manIdNumber, thCoeff, gasConcRange,
          gasLelValue, lelCorrectionFact, vocResponseFact, relativeSensitivity,
          oprTempMax, oprTempMin, upperRangeLimit, lowerRangeLimit, overRangeResetThr,
          coefficient, calibration) =>
        { gas, calibrationDue, displayUnit, disable, filterUpdateTick, regSwitchedOff,
          pellistorSaver, warmUpTime, bumpTestDue, wrProtect, mulFactor, supplyVoltage,
          type, model, manDate, vocGas, bumpTestInterval, bumpTestDate, lampDrvPeriod,
          rdTimeDelayPeak, rdTimeDelayDeep, thResistor, thBeta, callSpanTime,
          callZeroTime, serialNumber, manIdNumber, thCoeff, gasConcRange, gasLelValue,
          lelCorrectionFact, vocResponseFact, relativeSensitivity, oprTempMax,
          oprTempMin, upperRangeLimit, lowerRangeLimit, overRangeResetThr, coefficient,
          calibration }
      invFun := fun sensor =>
        (sensor.gas, sensor.calibrationDue, sensor.displayUnit, sensor.disable,
          sensor.filterUpdateTick, sensor.regSwitchedOff, sensor.pellistorSaver,
          sensor.warmUpTime, sensor.bumpTestDue, sensor.wrProtect, sensor.mulFactor,
          sensor.supplyVoltage, sensor.type, sensor.model, sensor.manDate,
          sensor.vocGas, sensor.bumpTestInterval, sensor.bumpTestDate,
          sensor.lampDrvPeriod, sensor.rdTimeDelayPeak, sensor.rdTimeDelayDeep,
          sensor.thResistor, sensor.thBeta, sensor.callSpanTime, sensor.callZeroTime,
          sensor.serialNumber, sensor.manIdNumber, sensor.thCoeff, sensor.gasConcRange,
          sensor.gasLelValue, sensor.lelCorrectionFact, sensor.vocResponseFact,
          sensor.relativeSensitivity, sensor.oprTempMax, sensor.oprTempMin,
          sensor.upperRangeLimit, sensor.lowerRangeLimit, sensor.overRangeResetThr,
          sensor.coefficient, sensor.calibration)
      left_inv := fun _ => rfl
      right_inv := fun _ => rfl }

theorem CoefficientStruct.size_layout : (CoefficientStruct.layout (D := D)).size = 48 := by
  simp only [CoefficientStruct.layout, size_map, size_pair, DoubleLayout.size]

theorem CalibrationStruct.size_layout : (CalibrationStruct.layout (D := D)).size = 100 := by
  simp only [CalibrationStruct.layout, size_map, size_pair, size_array, size_byte,
    size_word16, size_word32, DoubleLayout.size]

theorem SensorStruct.size_layout : (SensorStruct.layout (D := D)).size = 296 := by
  simp only [SensorStruct.layout, size_map, size_pair, size_array, size_byte,
    size_word16, DoubleLayout.size, CoefficientStruct.size_layout,
    CalibrationStruct.size_layout]

/-! ## The image -/

/-- `FlashConfig_t` in memory, with the bytes that fill up `SettingsStruct`. -/
structure FlashImage (D : Type) where
  config : FlashConfig D
  padding : Vector UInt8 2
  deriving DecidableEq

namespace FlashImage

/-- The bytes of `FlashConfig_t`. -/
def layout : ByteLayout (FlashImage D) :=
  (SettingsStruct.layout.pair <| (byte.array 2).pair <|
      (SensorStruct.layout (D := D)).pair word16).map
    { toFun := fun (device, padding, sensor, crc) =>
        { config := { device, sensor, crc }, padding }
      invFun := fun image =>
        (image.config.device, image.padding, image.config.sensor, image.config.crc)
      left_inv := fun _ => rfl
      right_inv := fun _ => rfl }

/-- `sizeof(FlashConfig_t)`. -/
theorem size_layout : (layout (D := D)).size = 490 := by
  simp only [layout, size_map, size_pair, size_array, size_byte, size_word16,
    SettingsStruct.size_layout, SensorStruct.size_layout]

/-- The bytes of the fields in front of the checksum. -/
def bytesBeforeCrc (padding : Vector UInt8 2) (device : SettingsStruct)
    (sensor : SensorStruct D) : List UInt8 :=
  SettingsStruct.layout.toBytes device ++
    ((byte.array 2).toBytes padding ++ SensorStruct.layout.toBytes sensor)

/-- The checksum is the final field. -/
theorem toBytes_eq (image : FlashImage D) :
    layout.toBytes image =
      bytesBeforeCrc image.padding image.config.device image.config.sensor ++
        word16.toBytes image.config.crc := by
  simp only [layout, toBytes_map, toBytes_pair, Equiv.coe_fn_symm_mk, bytesBeforeCrc,
    List.append_assoc]

/-- `calcCrc` of the bytes up to `offsetof(FlashConfig_t, crc)`. -/
def expectedCrc (image : FlashImage D) : UInt16 :=
  ReflectedCrc.checksum 0xA001 0xFFFF
    ((layout.toBytes image).take ((layout (D := D)).size - 2))

/-- `isValidFlashConfig`. -/
def IsValid (image : FlashImage D) : Prop :=
  image.expectedCrc = image.config.crc ∧
    image.config.device.verifyKey = configMagicNum

instance (image : FlashImage D) : Decidable image.IsValid :=
  inferInstanceAs (Decidable (_ ∧ _))

theorem expectedCrc_eq (image : FlashImage D) :
    image.expectedCrc =
      calcCrc (bytesBeforeCrc image.padding) image.config.device image.config.sensor := by
  have whole := length_toBytes layout image
  rw [toBytes_eq, List.length_append, length_toBytes, size_word16] at whole
  have front : (layout (D := D)).size - 2 =
      (bytesBeforeCrc image.padding image.config.device image.config.sensor).length := by
    omega
  rw [expectedCrc, toBytes_eq, front, List.take_left, calcCrc]

/-- The check of the bytes is the check of the records. -/
theorem isValid_iff (image : FlashImage D) :
    image.IsValid ↔ IsValidFlashConfig (bytesBeforeCrc image.padding) image.config := by
  rw [IsValid, expectedCrc_eq, IsValidFlashConfig]

end FlashImage

end

end SensorFirmware
