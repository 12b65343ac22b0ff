import SensorFirmware.Modbus.Runs

/-!
# Committing a sensor package

`saveSensorSettings` decodes into scratch records and commits them at once.  What
it commits, and what it lets through: a later failing check hides an earlier one,
and four words of the package are narrowed to bytes before they are checked.
-/

namespace SensorFirmware

/-- A configuration that differs from another one only in the alarm fields of the
three alarms. -/
structure DiffersInAlarms (before after : SettingsStruct) : Prop where
  rest : after =
    { before with
      alarmThreshold := after.alarmThreshold
      alarmSettings := after.alarmSettings
      relayOffDelay := after.relayOffDelay
      alarmOffHysteresis := after.alarmOffHysteresis }
  threshold : ∀ i, ¬ i < 3 →
    FixedArray.read after.alarmThreshold i = FixedArray.read before.alarmThreshold i
  settings : ∀ i, ¬ i < 3 →
    FixedArray.read after.alarmSettings i = FixedArray.read before.alarmSettings i
  delay : ∀ i, ¬ i < 3 →
    FixedArray.read after.relayOffDelay i = FixedArray.read before.relayOffDelay i
  hysteresis : ∀ i, ¬ i < 3 →
    FixedArray.read after.alarmOffHysteresis i =
      FixedArray.read before.alarmOffHysteresis i

/-- The commit loops write three cells. -/
private theorem read_commitLoop [Inhabited β]
    (cells : Vector β 4)
    (value : Nat → β)
    {i : Nat}
    (outside : ¬ i < 3) :
    FixedArray.read
      (countedLoop (fun i cells => FixedArray.write cells i (value i)) 3 cells) i =
        FixedArray.read cells i :=
  (FixedArray.read_fillFront value 3 cells (by decide) i).trans (if_neg outside)

theorem commitAlarms_differsInAlarms [DoubleArith D]
    (draft : SensorDraft D)
    (config : SettingsStruct) :
    DiffersInAlarms config (commitAlarms draft config) where
  rest := rfl
  threshold _ outside := read_commitLoop _ _ outside
  settings _ outside := read_commitLoop _ _ outside
  delay _ outside := read_commitLoop _ _ outside
  hysteresis _ outside := read_commitLoop _ _ outside

/-- A word survives the conversion to a byte exactly when it is at most 255. -/
theorem toUInt8_toUInt16_eq_iff (word : UInt16) :
    word.toUInt8.toUInt16 = word ↔ word ≤ 255 := by
  have limit : (255 : UInt16).toNat = 255 := rfl
  rw [← UInt16.toNat_inj, UInt16.le_iff_toNat_le, UInt8.toNat_toUInt16,
    UInt16.toNat_toUInt8, limit]
  omega

namespace Device

variable [DoubleArith D] (dev : Device D)

/-! ## All or nothing -/

/-- The handler returns zero or one. -/
theorem saveSensorSettings_fst
    (data : Option (Nat → UInt16))
    (len : UInt8) :
    (dev.saveSensorSettings data len).1 = 0 ∨ (dev.saveSensorSettings data len).1 = 1 := by
  cases data with
  | none => exact Or.inl rfl
  | some data =>
      simp only [saveSensorSettings]
      split
      · exact Or.inl rfl
      · simp only
        split
        · exact Or.inr rfl
        · exact Or.inl rfl

theorem saveSensorSettings_eq_one_iff
    (data : Option (Nat → UInt16))
    (len : UInt8) :
    (dev.saveSensorSettings data len).1 = 1 ↔ (dev.saveSensorSettings data len).1 ≠ 0 := by
  rcases dev.saveSensorSettings_fst data len with zero | one
  · rw [zero]
    decide
  · rw [one]
    decide

/-- It returns one for the packages that are accepted. -/
theorem saveSensorSettings_eq_one_iff_accepts
    (data : Nat → UInt16)
    (len : UInt8) :
    (dev.saveSensorSettings (some data) len).1 = 1 ↔ 56 ≤ len ∧
      (HardChecksPass data ∨ SoftCheckFails data len dev.deviceConfig D) :=
  (dev.saveSensorSettings_eq_one_iff (some data) len).trans
    (saveSensorSettings_accepts_iff dev data len)

/-- The save flags behind the handler. -/
theorem saveSensorSettings_flags
    (data : Nat → UInt16)
    (len : UInt8) :
    let handled := dev.saveSensorSettings (some data) len
    (handled.1 = 0 → handled.2.saveSensorInfo = dev.saveSensorInfo ∧
        handled.2.saveDevSettings = dev.saveDevSettings) ∧
      (handled.1 = 1 → handled.2.saveSensorInfo = 1 ∧ handled.2.saveDevSettings = 1) := by
  intro handled
  by_cases short : len < 56
  · have unchanged : handled = (0, dev) := if_pos short
    rw [unchanged]
    exact ⟨fun _ => ⟨rfl, rfl⟩,
      fun accepted => absurd accepted (show (0 : UInt8) ≠ 1 by decide)⟩
  by_cases passed : (decodeSensorSettings data len dev.deviceConfig dev.sensor).ok = 0
  · simp [handled, saveSensorSettings, short, passed]
  · simp [handled, saveSensorSettings, short, passed]

/-- Either the whole package is committed or nothing is. -/
theorem saveSensorSettings_allOrNothing
    (dev : Device D)
    (data : Option (Nat → UInt16))
    (len : UInt8) :
    let handled := dev.saveSensorSettings data len
    (handled.1 = 0 ∨ handled.1 = 1) ∧
      (handled.1 = 0 →
        handled.2.sensor = dev.sensor ∧ handled.2.deviceConfig = dev.deviceConfig ∧
          handled.2.saveSensorInfo = dev.saveSensorInfo ∧
          handled.2.saveDevSettings = dev.saveDevSettings) ∧
      (handled.1 = 1 →
        handled.2.saveSensorInfo = 1 ∧ handled.2.saveDevSettings = 1 ∧
          DiffersInAlarms dev.deviceConfig handled.2.deviceConfig ∧
          ∀ words, data = some words → ∀ i, i < 3 →
            FixedArray.read handled.2.deviceConfig.alarmThreshold i = words (7 + i)) := by
  intro handled
  refine ⟨dev.saveSensorSettings_fst data len, ?_, ?_⟩
  · intro rejected
    cases data with
    | none => exact ⟨rfl, rfl, rfl, rfl⟩
    | some data =>
        have same := saveSensorSettings_rejected dev data len (not_not_intro rejected)
        have flags := (saveSensorSettings_flags dev data len).1 rejected
        exact ⟨same.2, same.1, flags.1, flags.2⟩
  · intro accepted
    cases data with
    | none => exact absurd accepted (show (0 : UInt8) ≠ 1 by decide)
    | some data =>
        have nonzero := (dev.saveSensorSettings_eq_one_iff (some data) len).mp accepted
        have flags := (saveSensorSettings_flags dev data len).2 accepted
        have config := (saveSensorSettings_accepted dev data len nonzero).1
        refine ⟨flags.1, flags.2, ?_, ?_⟩
        · show DiffersInAlarms dev.deviceConfig
            (dev.saveSensorSettings (some data) len).2.deviceConfig
          rw [config]
          exact commitAlarms_differsInAlarms _ _
        · rintro words ⟨⟩ i inside
          exact (saveSensorSettings_alarms dev data len nonzero i inside).1

/-! ## Hard checks -/

variable (data : Nat → UInt16) (len : UInt8)

/-- An accepted package has passed the checks that the code declares hard exactly
when it is too short to be accepted, passes them, or fails none of the others. -/
theorem saveSensorSettings_hardChecks_iff :
    ((dev.saveSensorSettings (some data) len).1 = 1 → HardChecksPass data) ↔
      len < 56 ∨ HardChecksPass data ∨ ¬ SoftCheckFails data len dev.deviceConfig D := by
  rw [saveSensorSettings_eq_one_iff_accepts, ← UInt8.not_lt]
  tauto

/-- The package of 56 zero words is accepted, although model, type, gas and unit
all fail. -/
theorem saveSensorSettings_accepts_zeroPackage :
    let dev : Device ℚ := firstBoot BuildInfo.unitTest
    let data : Nat → UInt16 := fun _ => 0
    (dev.saveSensorSettings (some data) 56).1 = 1 ∧ ¬ HardChecksPass data := by
  intro dev data
  have soft : SoftCheckFails data 56 dev.deviceConfig ℚ :=
    Or.inl (Or.inr (Or.inr (Or.inl (Or.inl (Or.inl rfl)))))
  have accepted := (dev.saveSensorSettings_eq_one_iff_accepts data 56).mpr
    ⟨by decide, Or.inr soft⟩
  exact ⟨accepted, by decide⟩

/-! ## Narrowed words -/

/-- The narrowed fields that an accepted package leaves. -/
theorem saveSensorSettings_narrowed
    (accepted : (dev.saveSensorSettings (some data) len).1 ≠ 0) :
    let sensor := (dev.saveSensorSettings (some data) len).2.sensor
    sensor.gas = (data 2).toUInt8 ∧ sensor.displayUnit = (data 3).toUInt8 ∧
      sensor.calibration.cycle = (data 34).toUInt8 ∧
      sensor.lampDrvPeriod =
        if checkSensorType (data 1) = infraredSensor then (data 12).toUInt8.toUInt16
        else dev.sensor.lampDrvPeriod := by
  rw [(saveSensorSettings_accepted dev data len accepted).2]
  exact ⟨rfl, rfl, rfl, rfl⟩

/-- An accepted package is stored with the words for gas, unit, calibration cycle
and lamp period that were sent exactly when these words fit into a byte. -/
theorem saveSensorSettings_storesWords_iff
    (accepted : (dev.saveSensorSettings (some data) len).1 = 1) :
    let sensor := (dev.saveSensorSettings (some data) len).2.sensor
    (sensor.gas.toUInt16 = data 2 ∧ sensor.displayUnit.toUInt16 = data 3 ∧
        sensor.calibration.cycle.toUInt16 = data 34 ∧
        (data 1 = infraredSensor → sensor.lampDrvPeriod = data 12)) ↔
      data 2 ≤ 255 ∧ data 3 ≤ 255 ∧ data 34 ≤ 255 ∧
        (data 1 = infraredSensor → data 12 ≤ 255) := by
  have nonzero := (dev.saveSensorSettings_eq_one_iff (some data) len).mp accepted
  intro sensor
  obtain ⟨gas, unit, cycle, period⟩ := dev.saveSensorSettings_narrowed data len nonzero
  have infrared : (data 1 = infraredSensor → sensor.lampDrvPeriod = data 12) ↔
      (data 1 = infraredSensor → data 12 ≤ 255) := by
    refine imp_congr_right fun kind => ?_
    rw [← toUInt8_toUInt16_eq_iff]
    exact iff_of_eq (congrArg (· = data 12) (period.trans (if_pos kind)))
  have narrowed {stored : UInt8} {word : UInt16} (same : stored = word.toUInt8) :
      stored.toUInt16 = word ↔ word ≤ 255 := by
    rw [same, toUInt8_toUInt16_eq_iff]
  exact and_congr (narrowed gas) (and_congr (narrowed unit) (and_congr (narrowed cycle)
    infrared))

/-- A package for an infrared sensor with the gas word 321 and the longer of the two
legal lamp periods. -/
def infraredPackage (index : Nat) : UInt16 :=
  if index = 1 then infraredSensor
  else if index = 2 then 321
  else if index = 12 then lampPeriodHigh
  else if index = 34 then 6
  else 2

private theorem infraredPackage_accepted :
    ((firstBoot BuildInfo.unitTest : Device ℚ).saveSensorSettings
      (some infraredPackage) 56).1 = 1 := by
  have hard : HardChecksPass infraredPackage := by decide
  exact (saveSensorSettings_eq_one_iff_accepts _ _ _).mpr ⟨by decide, Or.inl hard⟩

theorem saveSensorSettings_storesWords_iff_infrared :
    let dev : Device ℚ := firstBoot BuildInfo.unitTest
    let sensor := (dev.saveSensorSettings (some infraredPackage) 56).2.sensor
    (sensor.gas.toUInt16 = infraredPackage 2 ∧
        sensor.displayUnit.toUInt16 = infraredPackage 3 ∧
        sensor.calibration.cycle.toUInt16 = infraredPackage 34 ∧
        (infraredPackage 1 = infraredSensor → sensor.lampDrvPeriod = infraredPackage 12)) ↔
      infraredPackage 2 ≤ 255 ∧ infraredPackage 3 ≤ 255 ∧ infraredPackage 34 ≤ 255 ∧
        (infraredPackage 1 = infraredSensor → infraredPackage 12 ≤ 255) :=
  saveSensorSettings_storesWords_iff _ infraredPackage 56 infraredPackage_accepted

/-- It is stored with the gas 65 and the lamp period 244. -/
theorem saveSensorSettings_narrows_infraredPackage :
    let dev : Device ℚ := firstBoot BuildInfo.unitTest
    let handled := dev.saveSensorSettings (some infraredPackage) 56
    handled.1 = 1 ∧ infraredPackage 1 = infraredSensor ∧
      infraredPackage 2 = 321 ∧ handled.2.sensor.gas = 65 ∧
      infraredPackage 12 = 500 ∧ handled.2.sensor.lampDrvPeriod = 244 := by
  intro dev handled
  have accepted : handled.1 = 1 := infraredPackage_accepted
  have nonzero := (dev.saveSensorSettings_eq_one_iff (some infraredPackage) 56).mp accepted
  obtain ⟨gas, _, _, period⟩ := saveSensorSettings_narrowed dev infraredPackage 56 nonzero
  exact ⟨accepted, rfl, rfl, gas, rfl, period⟩

end Device

end SensorFirmware
