import SensorFirmware.Modbus.Runs
import SensorFirmware.Modbus.Mirror

/-!
# Overlaps in the register map

A synchronization writes six analogue output levels and sixteen location words
from their first registers on.  The map has room for three levels and thirteen
words: the other levels share the registers of sensor type, gas and unit, and
the last location words reach over the transmitter configuration.
-/

namespace SensorFirmware

open BigEndian

namespace Device

/-- Registers in which every mirrored field can be read from its own place. -/
structure ShowsFields (register : Nat → UInt16) (config : SettingsStruct)
    (sensor : SensorStruct D) : Prop where
  analogOutLev : ∀ i, i < 6 →
    register (regAnalogOutLev1 + i) = (FixedArray.read config.analogOutLev i).toUInt16
  location : ∀ i, i < 16 →
    register (regLocStringStart + i) =
      word (FixedArray.read config.location (i * 2))
        (FixedArray.read config.location (i * 2 + 1))
  sensorType : register regSensorType = sensor.type
  gas : register regGasType = sensor.gas.toUInt16
  displayUnit : register regMeasUnit = sensor.displayUnit.toUInt16
  configReg : register regBaseConfig = config.configReg

/-- The fields that share a register have the same value. -/
structure SharedFieldsEqual (config : SettingsStruct) (sensor : SensorStruct D) : Prop where
  sensorType : (FixedArray.read config.analogOutLev 3).toUInt16 = sensor.type
  gas : (FixedArray.read config.analogOutLev 4).toUInt16 = sensor.gas.toUInt16
  displayUnit : (FixedArray.read config.analogOutLev 5).toUInt16 =
    sensor.displayUnit.toUInt16
  configReg :
    word (FixedArray.read config.location 26) (FixedArray.read config.location 27) =
      config.configReg

variable [DoubleArith D]

/-- After a synchronization every mirrored field can be read from its own
registers exactly when the fields that share a register are equal. -/
theorem syncAll_showsFields_iff (dev : Device D) :
    ShowsFields dev.syncAll.holding dev.deviceConfig dev.sensor ↔
      SharedFieldsEqual dev.deviceConfig dev.sensor := by
  have kind := RegisterBank.syncAll_sensorKind dev.build dev.deviceConfig dev.sensor
    dev.errors dev.modbus.bank
  have base := RegisterBank.syncAll_base dev.build dev.deviceConfig dev.sensor dev.errors
    dev.modbus.bank
  obtain ⟨type, gas, unit⟩ := kind
  constructor
  · intro shows
    exact
      { sensorType := (shows.analogOutLev 3 (by decide)).symm.trans type
        gas := (shows.analogOutLev 4 (by decide)).symm.trans gas
        displayUnit := (shows.analogOutLev 5 (by decide)).symm.trans unit
        configReg := (shows.location 13 (by decide)).symm.trans base.2 }
  · intro shared
    refine ⟨?_, ?_, type, gas, unit, base.2⟩
    · intro i inside
      rcases Nat.lt_or_ge i 3 with own | _
      · exact RegisterBank.syncAll_analogOut _ _ _ _ _ i own
      · have cases : i = 3 ∨ i = 4 ∨ i = 5 := by omega
        rcases cases with rfl | rfl | rfl
        · exact type.trans shared.sensorType.symm
        · exact gas.trans shared.gas.symm
        · exact unit.trans shared.displayUnit.symm
    · intro i inside
      by_cases overwritten : i = 13
      · subst overwritten
        exact base.2.trans shared.configReg.symm
      · exact RegisterBank.syncAll_location _ _ _ _ _ i inside overwritten

/-- With the default records the fourth level and the sensor type differ. -/
theorem defaults_not_showsFields :
    let dev : Device ℚ :=
      { powerOn BuildInfo.unitTest with
        deviceConfig := SettingsStruct.defaults
        sensor := SensorStruct.defaults }
    ¬ ShowsFields dev.syncAll.holding dev.deviceConfig dev.sensor := by
  intro dev shows
  have kind := RegisterBank.syncAll_sensorKind dev.build dev.deviceConfig dev.sensor
    dev.errors dev.modbus.bank
  have level := (shows.analogOutLev 3 (by decide)).symm.trans kind.1
  exact absurd level (by decide)

end Device

end SensorFirmware
