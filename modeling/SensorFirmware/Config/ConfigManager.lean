import SensorFirmware.Config.Types
import SensorFirmware.Library.Crc

/-!
# Configuration manager

The factory defaults, the boot-time check of a stored configuration and the
image that is written to flash.  The bytes that the packed records occupy in
memory are a parameter: only their checksum matters here.
-/

namespace SensorFirmware

open DoubleArith

/-! ## Defaults -/

/-- `DeviceConfig` after `Config_SetDefaults`. -/
def SettingsStruct.defaults : SettingsStruct :=
  { SettingsStruct.zero with
    verifyKey := configMagicNum
    id := 1
    baudrate := defaultMdbsBaudrate
    display := displayOn
    configReg := overRangeAutoReset
    alarmThreshold := #v[500, 100, 800, 0]
    alarmSettings := Vector.replicate 4 autoReset
    alarmOffHysteresis := Vector.replicate 4 minHysteresis.toUInt8
    relayOffDelay := Vector.replicate 4 0
    analogOutLev := #v[10, 20, 20, 20, 22, 40, 0, 0] }

/-- `Sensor` after `Config_SetDefaults`. -/
def SensorStruct.defaults [DoubleArith D] : SensorStruct D :=
  { SensorStruct.zero with
    model := genericModelDet
    type := catalyticSensor
    gas := gasCh4
    displayUnit := unitLel
    mulFactor := modbusScalingFactor
    gasConcRange := ofInt 100
    gasLelValue := ofInt 100
    upperRangeLimit := ofInt 100
    lowerRangeLimit := ofInt 0
    overRangeResetThr := ofInt overRangeResetPrcnt
    warmUpTime := minWarmUpTime
    supplyVoltage := sensorVolRange
    oprTempMin := ofInt minTemprature
    oprTempMax := ofInt maxCtlyTemprature
    calibration :=
      { CalibrationStruct.zero with
        appliedGas := gasCh4
        spanGasType := gasCh4
        apliedGasConc := ofInt 50
        cycle := minCalbCyle } }

/-! ## Checks -/

/-- `isSupportedBaudrate`. -/
def IsSupportedBaudrate (baudrate : UInt32) : Prop :=
  baudrate = 9600 ∨ baudrate = 19200 ∨ baudrate = 38400 ∨ baudrate = 57600 ∨
    baudrate = 115200

instance (baudrate : UInt32) : Decidable (IsSupportedBaudrate baudrate) :=
  inferInstanceAs (Decidable (_ ∨ _))

/-- `isValidRuntimeConfig`, one field for each check. -/
structure IsValidRuntimeConfig (device : SettingsStruct) (sensor : SensorStruct D) :
    Prop where
  verifyKey : device.verifyKey = configMagicNum
  id : ¬ (device.id = 0 ∨ 247 < device.id)
  baudrate : IsSupportedBaudrate device.baudrate
  identity : ¬ (sensor.type = 0 ∨ sensor.model = 0)
  mulFactor : sensor.mulFactor ≠ 0
  displayUnit : ¬ (sensor.displayUnit < unitPpm ∨ unitPpb < sensor.displayUnit)
  gas : ¬ sensor.gas < gasIndxOffset

instance (device : SettingsStruct) (sensor : SensorStruct D) :
    Decidable (IsValidRuntimeConfig device sensor) :=
  decidable_of_iff
    (device.verifyKey = configMagicNum ∧ ¬ (device.id = 0 ∨ 247 < device.id) ∧
      IsSupportedBaudrate device.baudrate ∧ ¬ (sensor.type = 0 ∨ sensor.model = 0) ∧
        sensor.mulFactor ≠ 0 ∧
          ¬ (sensor.displayUnit < unitPpm ∨ unitPpb < sensor.displayUnit) ∧
            ¬ sensor.gas < gasIndxOffset)
    ⟨fun ⟨verifyKey, id, baudrate, identity, mulFactor, displayUnit, gas⟩ =>
        ⟨verifyKey, id, baudrate, identity, mulFactor, displayUnit, gas⟩,
      fun ⟨verifyKey, id, baudrate, identity, mulFactor, displayUnit, gas⟩ =>
        ⟨verifyKey, id, baudrate, identity, mulFactor, displayUnit, gas⟩⟩

/-- The defaults pass the check. -/
theorem defaults_isValidRuntimeConfig [DoubleArith D] :
    IsValidRuntimeConfig SettingsStruct.defaults (SensorStruct.defaults : SensorStruct D) where
  verifyKey := rfl
  id := by decide
  baudrate := by decide
  identity := by
    rintro (zero | zero)
    · exact absurd (show catalyticSensor = 0 from zero) (by decide)
    · exact absurd (show genericModelDet = 0 from zero) (by decide)
  mulFactor := show modbusScalingFactor ≠ 0 by decide
  displayUnit := show ¬ (unitLel < unitPpm ∨ unitPpb < unitLel) by decide
  gas := show ¬ gasCh4 < gasIndxOffset by decide

/-! ## The flash image -/

/-- `FlashConfig_t`. -/
structure FlashConfig (D : Type) where
  device : SettingsStruct
  sensor : SensorStruct D
  crc : UInt16
  deriving DecidableEq

section

variable (imageBytes : SettingsStruct → SensorStruct D → List UInt8)

/-- `calcCrc` over the image in front of its checksum. -/
def calcCrc (device : SettingsStruct) (sensor : SensorStruct D) : UInt16 :=
  ReflectedCrc.checksum 0xA001 0xFFFF (imageBytes device sensor)

/-- `isValidFlashConfig`. -/
def IsValidFlashConfig (flashData : FlashConfig D) : Prop :=
  calcCrc imageBytes flashData.device flashData.sensor = flashData.crc ∧
    flashData.device.verifyKey = configMagicNum

instance (flashData : FlashConfig D) :
    Decidable (IsValidFlashConfig imageBytes flashData) :=
  inferInstanceAs (Decidable (_ ∧ _))

/-- The image that `saveDeviceConfig` writes. -/
def savedImage (device : SettingsStruct) (sensor : SensorStruct D) : FlashConfig D :=
  let device := { device with verifyKey := configMagicNum }
  { device := device
    sensor := sensor
    crc := calcCrc imageBytes device sensor }

variable [DoubleArith D]

/-- The configuration that `loadOrDefaults` puts in force, for the image that
the flash read delivered; `none` is a failed read. -/
def loadOrDefaults (flashData : Option (FlashConfig D)) :
    SettingsStruct × SensorStruct D :=
  match flashData with
  | none => (SettingsStruct.defaults, SensorStruct.defaults)
  | some flashData =>
      if IsValidFlashConfig imageBytes flashData ∧
          IsValidRuntimeConfig flashData.device flashData.sensor then
        (flashData.device, flashData.sensor)
      else
        -- `saveDeviceConfig` leaves the key as the defaults have it
        (SettingsStruct.defaults, SensorStruct.defaults)

/-- Whatever the flash holds, a boot ends with a valid configuration. -/
theorem loadOrDefaults_isValidRuntimeConfig (flashData : Option (FlashConfig D)) :
    IsValidRuntimeConfig (loadOrDefaults imageBytes flashData).1
      (loadOrDefaults imageBytes flashData).2 := by
  cases flashData with
  | none => exact defaults_isValidRuntimeConfig
  | some flashData =>
      unfold loadOrDefaults
      simp only
      split
      · rename_i accepted
        exact accepted.2
      · exact defaults_isValidRuntimeConfig

/-- A saved valid configuration is loaded again. -/
theorem loadOrDefaults_savedImage
    {device : SettingsStruct}
    {sensor : SensorStruct D}
    (valid : IsValidRuntimeConfig device sensor) :
    loadOrDefaults imageBytes (some (savedImage imageBytes device sensor)) =
      (device, sensor) := by
  have keyed : { device with verifyKey := configMagicNum } = device := by
    rw [← valid.verifyKey]
  have image : savedImage imageBytes device sensor =
      { device := device, sensor := sensor, crc := calcCrc imageBytes device sensor } := by
    rw [savedImage, keyed]
  rw [image]
  exact if_pos ⟨⟨rfl, valid.verifyKey⟩, valid⟩

/-- A configuration that fails the check is replaced by the defaults. -/
theorem loadOrDefaults_rejected
    {device : SettingsStruct}
    {sensor : SensorStruct D}
    (keyed : device.verifyKey = configMagicNum)
    (invalid : ¬ IsValidRuntimeConfig device sensor) :
    loadOrDefaults imageBytes (some (savedImage imageBytes device sensor)) =
      (SettingsStruct.defaults, SensorStruct.defaults) := by
  have same : { device with verifyKey := configMagicNum } = device := by
    rw [← keyed]
  apply if_neg
  rintro ⟨_, valid⟩
  apply invalid
  rw [← same]
  exact valid

end

end SensorFirmware
