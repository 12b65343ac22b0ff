import SensorFirmware.Modbus.CheckedBase

/-!
# Checked accesses of the sensor settings command

`saveSensorSettings` with a bounds check at every access to the argument window,
to the alarm scratch arrays and to the arrays of the configuration records.
Each section fetches the argument words that the source reads there and runs on
these words alone.
-/

namespace SensorFirmware

open BigEndian DoubleArith

section

variable {D : Type}
variable (window : Vector UInt16 argumentWindowSize) (len : UInt8) (draft : SensorDraft D)

/-! ## Sections that only read argument words -/

/-- Model, type, gas, unit, factor and concentrations. -/
def decodeIdentity? [DoubleArith D] : Option (SensorDraft D) :=
  FixedArray.onCells window ((if 64 ≤ len then [63] else []) ++ [0, 1, 2, 3, 4, 33])
    fun words => decodeIdentity (FixedArray.read words) len draft

theorem decodeIdentity?_eq_some [DoubleArith D] :
    decodeIdentity? window len draft =
      some (decodeIdentity (FixedArray.read window) len draft) := by
  refine FixedArray.onCells_eq_some window ?_ fun words agree => ?_
  · split <;> decide
  · simp only [decodeIdentity, factor]
    grind

/-- The gas that was applied for the calibration. -/
def decodeAppliedGas? : Option (SensorDraft D) :=
  FixedArray.onCells window [6] fun words =>
    decodeAppliedGas (FixedArray.read words) draft

theorem decodeAppliedGas?_eq_some :
    decodeAppliedGas? window draft =
      some (decodeAppliedGas (FixedArray.read window) draft) := by
  refine FixedArray.onCells_eq_some window (by decide) fun words agree => ?_
  simp only [decodeAppliedGas]
  grind

/-- Lamp and delays of an infrared sensor. -/
def decodeInfrared? : Option (SensorDraft D) :=
  FixedArray.onCells window (if draft.settings.type = infraredSensor then [10, 11, 12] else [])
    fun words => decodeInfrared (FixedArray.read words) draft

theorem decodeInfrared?_eq_some :
    decodeInfrared? window draft =
      some (decodeInfrared (FixedArray.read window) draft) := by
  refine FixedArray.onCells_eq_some window ?_ fun words agree => ?_
  · split <;> decide
  · simp only [decodeInfrared]
    grind

/-- Bump test interval and calibration cycle. -/
def decodeIntervals? : Option (SensorDraft D) :=
  FixedArray.onCells window [27, 34] fun words =>
    decodeIntervals (FixedArray.read words) draft

theorem decodeIntervals?_eq_some :
    decodeIntervals? window draft =
      some (decodeIntervals (FixedArray.read window) draft) := by
  refine FixedArray.onCells_eq_some window (by decide) fun words agree => ?_
  simp only [decodeIntervals]
  grind

/-- Coefficients, thermistor and manufacturing date. -/
def decodeCoefficients? [DoubleArith D] : Option (SensorDraft D) :=
  FixedArray.onCells window (List.range' 36 16) fun words =>
    decodeCoefficients (FixedArray.read words) draft

theorem decodeCoefficients?_eq_some [DoubleArith D] :
    decodeCoefficients? window draft =
      some (decodeCoefficients (FixedArray.read window) draft) := by
  refine FixedArray.onCells_eq_some window (by decide) fun words agree => ?_
  simp only [decodeCoefficients]
  grind

/-- Index of the volatile compound. -/
def decodeVocGas? : Option (SensorDraft D) :=
  FixedArray.onCells window
    (if UsesVocGas draft.settings.type draft.settings.gas then [52] else [])
    fun words => decodeVocGas (FixedArray.read words) draft

theorem decodeVocGas?_eq_some :
    decodeVocGas? window draft =
      some (decodeVocGas (FixedArray.read window) draft) := by
  refine FixedArray.onCells_eq_some window ?_ fun words agree => ?_
  · split <;> decide
  · simp only [decodeVocGas]
    grind

/-- Explosion limits and relative sensitivities. -/
def decodeLelValues? [DoubleArith D] : Option (SensorDraft D) :=
  FixedArray.onCells window
    (if 59 ≤ len then
      [58, 60] ++
        (if draft.settings.type = catalyticSensor then [59, 61]
          else if draft.settings.type = pidSensor then [62]
          else [])
      else [])
    fun words => decodeLelValues (FixedArray.read words) len draft

theorem decodeLelValues?_eq_some [DoubleArith D] :
    decodeLelValues? window len draft =
      some (decodeLelValues (FixedArray.read window) len draft) := by
  refine FixedArray.onCells_eq_some window ?_ fun words agree => ?_
  · grind [commandArg1]
  · simp only [decodeLelValues]
    grind

/-- Supply voltage and filter tick. -/
def decodeSupply? : Option (SensorDraft D) :=
  FixedArray.onCells window
    ((if 65 ≤ len then [64] else []) ++ (if 66 ≤ len then [65] else []))
    fun words => decodeSupply (FixedArray.read words) len draft

theorem decodeSupply?_eq_some :
    decodeSupply? window len draft =
      some (decodeSupply (FixedArray.read window) len draft) := by
  refine FixedArray.onCells_eq_some window ?_ fun words agree => ?_
  · grind [commandArg1]
  · simp only [decodeSupply]
    grind

/-- Warm-up time, operating temperatures and calibration times. -/
def decodeTimes? [DoubleArith D] : Option (SensorDraft D) :=
  FixedArray.onCells window
    ((if 68 ≤ len then [66, 67] else []) ++ (if 69 ≤ len then [68] else []) ++
      (if 71 ≤ len then [69, 70] else []))
    fun words => decodeTimes (FixedArray.read words) len draft

theorem decodeTimes?_eq_some [DoubleArith D] :
    decodeTimes? window len draft =
      some (decodeTimes (FixedArray.read window) len draft) := by
  refine FixedArray.onCells_eq_some window ?_ fun words agree => ?_
  · grind [commandArg1]
  · simp only [decodeTimes]
    grind

/-! ## Sections that write arrays -/

/-- Alarm thresholds. -/
def decodeThresholds? : Option (SensorDraft D) := do
  let words ← FixedArray.fetch window [7, 8, 9]
  let data := FixedArray.read words
  let thresholds ←
    FixedArray.writeAll? draft.alrmThrshold alarm1 [data 7, data 8, data 9]
  some { draft with alrmThrshold := thresholds }

theorem decodeThresholds?_eq_some :
    decodeThresholds? window draft =
      some (decodeThresholds (FixedArray.read window) draft) := by
  refine FixedArray.fetch_bind_eq window (by decide) fun words agree => ?_
  have fits (first second third : UInt16) : alarm1 + [first, second, third].length ≤ 4 :=
    Nat.le_refl 4
  dsimp only
  rw [FixedArray.writeAll?_eq_some _ _ _ (fits _ _ _), agree 7 (by decide),
    agree 8 (by decide), agree 9 (by decide)]
  rfl

/-- Serial number and manufacturer id. -/
def decodeNumbers? : Option (SensorDraft D) := do
  let words ← FixedArray.fetch window (List.range' 13 8)
  let data := FixedArray.read words
  let serial ← storeWords? draft.settings.serialNumber (fun i => data (13 + i)) 4
  let closedSerial ← FixedArray.write? serial 8 0
  let manId ← storeWords? draft.settings.manIdNumber (fun i => data (17 + i)) 4
  let closedManId ← FixedArray.write? manId 8 0
  some
    { draft with
      settings :=
        { draft.settings with
          serialNumber := closedSerial
          manIdNumber := closedManId } }

theorem decodeNumbers?_eq_some :
    decodeNumbers? window draft =
      some (decodeNumbers (FixedArray.read window) draft) := by
  refine FixedArray.fetch_bind_eq window (by decide) fun words agree => ?_
  have serial (i : Nat) (inside : i < 4) :
      FixedArray.read words (13 + i) = FixedArray.read window (13 + i) :=
    agree _ (List.mem_range'_1.mpr (by omega))
  have manId (i : Nat) (inside : i < 4) :
      FixedArray.read words (17 + i) = FixedArray.read window (17 + i) :=
    agree _ (List.mem_range'_1.mpr (by omega))
  simp only [storeWords?_eq_some _ _ _ (show 4 * 2 ≤ 12 by decide),
    FixedArray.write?_eq_some _ _ _ (show 8 < 12 by decide), Option.bind_eq_bind,
    Option.bind_some, decodeNumbers, storeWords_congr serial, storeWords_congr manId]

/-- Update the three alarms in turn. -/
def updateAlarms? (update : Nat → AlarmStruct D → AlarmStruct D)
    (alarms : Vector (AlarmStruct D) 4) : Option (Vector (AlarmStruct D) 4) :=
  countedLoop?
    (fun i alarms => do
      let alarm ← FixedArray.read? alarms (alarm1 + i)
      FixedArray.write? alarms (alarm1 + i) (update i alarm))
    3 alarms

theorem updateAlarms?_eq_some [DoubleArith D]
    {update other : Nat → AlarmStruct D → AlarmStruct D}
    (agree : ∀ i, i < 3 → update i = other i)
    (alarms : Vector (AlarmStruct D) 4) :
    updateAlarms? update alarms = some (updateAlarms other alarms) := by
  refine countedLoop?_eq_some (fun i inside alarms => ?_) alarms
  have inArray : alarm1 + i < 4 := by
    rw [alarm1]
    omega
  rw [FixedArray.read?_eq_some _ _ inArray, ← agree i inside]
  exact FixedArray.write?_eq_some _ _ _ inArray

/-- The alarm words. -/
def decodeAlarms? : Option (SensorDraft D) := do
  let words ← FixedArray.fetch window (List.range' 21 6)
  let alarms ← updateAlarms? (decodeAlarm (FixedArray.read words)) draft.alarmStgn
  some { draft with alarmStgn := alarms }

theorem decodeAlarms?_eq_some [DoubleArith D] :
    decodeAlarms? window draft = some (decodeAlarms (FixedArray.read window) draft) := by
  refine FixedArray.fetch_bind_eq window (by decide) fun words agree => ?_
  have alarm (i : Nat) (inside : i < 3) :
      decodeAlarm (D := D) (FixedArray.read words) i =
        decodeAlarm (FixedArray.read window) i := by
    funext alarm
    rw [decodeAlarm, decodeAlarm, agree _ (List.mem_range'_1.mpr (by omega)),
      agree _ (List.mem_range'_1.mpr (by omega))]
  rw [updateAlarms?_eq_some alarm]
  rfl

/-- Hysteresis and trigger types. -/
def decodeHysteresis? [DoubleArith D] (config : SettingsStruct) :
    Option (SensorDraft D) := do
  let words ← FixedArray.fetch window (if 57 ≤ len then [53, 54, 55, 56, 57] else [])
  let cells ← FixedArray.fetch config.alarmOffHysteresis
    (if 57 ≤ len then [] else [0, 1, 2])
  let data := FixedArray.read words
  let fetched := { config with alarmOffHysteresis := cells }
  let alarms ←
    updateAlarms?
      (fun i alarm =>
        { alarm with
          hysteresis := hysteresis data len fetched i
          configStatus :=
            setBitIf (TriggerTypeSet data len i) alrmTrgType alarm.configStatus })
      draft.alarmStgn
  some
    { draft with
      alarmStgn := alarms
      ok := (decodeHysteresis data len draft fetched).ok }

theorem decodeHysteresis?_eq_some [DoubleArith D] (config : SettingsStruct) :
    decodeHysteresis? window len draft config =
      some (decodeHysteresis (FixedArray.read window) len draft config) := by
  refine FixedArray.fetch_bind_eq window ?_ fun words agree => ?_
  · split <;> decide
  refine FixedArray.fetch_bind_eq config.alarmOffHysteresis ?_ fun cells kept => ?_
  · split <;> decide
  have level (i : Nat) (inside : i < 3) :
      hysteresis (FixedArray.read words) len { config with alarmOffHysteresis := cells } i =
        hysteresis (FixedArray.read window) len config i := by
    simp only [hysteresis]
    split
    · rename_i long
      rw [agree _ (by rw [if_pos long]; grind)]
    · rename_i short
      exact kept i (by rw [if_neg short]; grind)
  have trigger (i : Nat) :
      TriggerTypeSet (FixedArray.read words) len i ↔
        TriggerTypeSet (FixedArray.read window) len i := by
    simp only [TriggerTypeSet]
    grind
  have ok (other : SettingsStruct) :
      (decodeHysteresis (FixedArray.read words) len draft other).ok =
        (decodeHysteresis (FixedArray.read window) len draft config).ok := by
    simp only [decodeHysteresis]
    grind
  have update (i : Nat) (inside : i < 3) :
      (fun alarm : AlarmStruct D =>
        { alarm with
          hysteresis :=
            hysteresis (FixedArray.read words) len
              { config with alarmOffHysteresis := cells } i
          configStatus :=
            setBitIf (TriggerTypeSet (FixedArray.read words) len i) alrmTrgType
              alarm.configStatus }) =
        fun alarm =>
          { alarm with
            hysteresis := hysteresis (FixedArray.read window) len config i
            configStatus :=
              setBitIf (TriggerTypeSet (FixedArray.read window) len i) alrmTrgType
                alarm.configStatus } := by
    simp only [level i inside, trigger i]
  dsimp only
  rw [updateAlarms?_eq_some update, Option.bind_eq_bind, Option.bind_some, ok]
  rfl

/-! ## Checks and commit -/

variable [DoubleArith D]

/-- Alarm levels, with the check of each against its hysteresis. -/
def checkOnLevels? : Option (SensorDraft D) := do
  let thresholds ← FixedArray.fetch draft.alrmThrshold [alarm1, alarm2, alarm3]
  let cells ← FixedArray.fetch draft.alarmStgn [alarm1, alarm2, alarm3]
  let alarms ←
    updateAlarms?
      (fun i alarm =>
        { alarm with onLevel := ofWord (FixedArray.read thresholds (alarm1 + i)) })
      draft.alarmStgn
  some
    { draft with
      alarmStgn := alarms
      ok := (checkOnLevels
        { draft with alarmStgn := cells, alrmThrshold := thresholds }).ok }

/-- The three alarms are those that the list names. -/
theorem mem_alarms {i : Nat} (inside : i < 3) : alarm1 + i ∈ [alarm1, alarm2, alarm3] := by
  simp only [alarm1, alarm2, alarm3, List.mem_cons]
  omega

theorem checkOnLevels?_eq_some :
    checkOnLevels? draft = some (checkOnLevels draft) := by
  refine FixedArray.fetch_bind_eq draft.alrmThrshold (by decide) fun thresholds kept => ?_
  refine FixedArray.fetch_bind_eq draft.alarmStgn (by decide) fun cells agree => ?_
  have level (i : Nat) (inside : i < 3) :
      (fun alarm : AlarmStruct D =>
        { alarm with onLevel := ofWord (FixedArray.read thresholds (alarm1 + i)) }) =
        fun alarm =>
          { alarm with
            onLevel := ofWord (FixedArray.read draft.alrmThrshold (alarm1 + i)) } := by
    rw [kept _ (mem_alarms inside)]
  have ok :
      (checkOnLevels { draft with alarmStgn := cells, alrmThrshold := thresholds }).ok =
        (checkOnLevels draft).ok := by
    simp only [checkOnLevels]
    refine countedLoop_congr (fun i inside => ?_) draft.ok
    funext ok
    simp only [kept _ (mem_alarms inside), agree _ (mem_alarms inside)]
  rw [updateAlarms?_eq_some level, Option.bind_eq_bind, Option.bind_some, ok]
  rfl

/-- Checks of the trip directions. -/
def checkDirections? : Option (SensorDraft D) := do
  let cells ← FixedArray.fetch draft.alarmStgn [alarm1, alarm2, alarm3]
  some { draft with ok := (checkDirections { draft with alarmStgn := cells }).ok }

theorem checkDirections?_eq_some :
    checkDirections? draft = some (checkDirections draft) := by
  refine FixedArray.fetch_bind_eq draft.alarmStgn (by decide) fun cells agree => ?_
  simp only [checkDirections, agree alarm1 (by decide), agree alarm2 (by decide),
    agree alarm3 (by decide)]

/-- The alarm fields of the device configuration that are committed. -/
def commitAlarms? (config : SettingsStruct) : Option SettingsStruct := do
  let thresholds ← FixedArray.fetch draft.alrmThrshold [alarm1, alarm2, alarm3]
  let cells ← FixedArray.fetch draft.alarmStgn [alarm1, alarm2, alarm3]
  let alarm (i : Nat) := FixedArray.read cells (alarm1 + i)
  let alarmThreshold ← FixedArray.fill? config.alarmThreshold
    (fun i => FixedArray.read thresholds (alarm1 + i)) 3
  let alarmSettings ← FixedArray.fill? config.alarmSettings
    (fun i => (alarm i).configStatus) 3
  let relayOffDelay ← FixedArray.fill? config.relayOffDelay
    (fun i => (alarm i).offDelay) 3
  let alarmOffHysteresis ← FixedArray.fill? config.alarmOffHysteresis
    (fun i => (alarm i).hysteresis) 3
  some
    { config with
      alarmThreshold := alarmThreshold
      alarmSettings := alarmSettings
      relayOffDelay := relayOffDelay
      alarmOffHysteresis := alarmOffHysteresis }

theorem commitAlarms?_eq_some (config : SettingsStruct) :
    commitAlarms? draft config = some (commitAlarms draft config) := by
  refine FixedArray.fetch_bind_eq draft.alrmThrshold (by decide) fun thresholds kept => ?_
  refine FixedArray.fetch_bind_eq draft.alarmStgn (by decide) fun cells agree => ?_
  have threshold (i : Nat) (inside : i < 3) :
      (fun array : Vector UInt16 4 =>
        FixedArray.write array i (FixedArray.read thresholds (alarm1 + i))) =
        fun array =>
          FixedArray.write array i (FixedArray.read draft.alrmThrshold (alarm1 + i)) := by
    rw [kept _ (mem_alarms inside)]
  have byte (field : AlarmStruct D → UInt8) (i : Nat) (inside : i < 3) :
      (fun array : Vector UInt8 4 =>
        FixedArray.write array i (field (FixedArray.read cells (alarm1 + i)))) =
        fun array =>
          FixedArray.write array i
            (field (FixedArray.read draft.alarmStgn (alarm1 + i))) := by
    rw [agree _ (mem_alarms inside)]
  have fits : 3 ≤ 4 := by decide
  simp only [FixedArray.fill?_eq_some _ _ _ fits, Option.bind_eq_bind, Option.bind_some,
    countedLoop_congr threshold, countedLoop_congr (byte (·.configStatus)),
    countedLoop_congr (byte (·.offDelay)), countedLoop_congr (byte (·.hysteresis)),
    commitAlarms]

/-- The scratch records after the fields of the package are decoded. -/
def decodeFields? (config : SettingsStruct) (sensor : SensorStruct D) :
    Option (SensorDraft D) :=
  decodeIdentity? window len (SensorDraft.start sensor)
    >>= decodeAppliedGas? window
    >>= decodeThresholds? window
    >>= decodeInfrared? window
    >>= decodeNumbers? window
    >>= decodeAlarms? window
    >>= decodeIntervals? window
    >>= (decodeCoefficients? window ·)
    >>= decodeVocGas? window
    >>= (decodeHysteresis? window len · config)
    >>= (decodeLelValues? window len ·)
    >>= decodeSupply? window len
    >>= (decodeTimes? window len ·)

theorem decodeFields?_eq_some (config : SettingsStruct) (sensor : SensorStruct D) :
    decodeFields? window len config sensor =
      some (decodeFields (FixedArray.read window) len config sensor) := by
  simp only [decodeFields?, decodeIdentity?_eq_some, decodeAppliedGas?_eq_some,
    decodeThresholds?_eq_some, decodeInfrared?_eq_some, decodeNumbers?_eq_some,
    decodeAlarms?_eq_some, decodeIntervals?_eq_some, decodeCoefficients?_eq_some,
    decodeVocGas?_eq_some, decodeHysteresis?_eq_some, decodeLelValues?_eq_some,
    decodeSupply?_eq_some, decodeTimes?_eq_some, Option.bind_eq_bind, Option.bind_some,
    decodeFields]

/-- The scratch records after all sections. -/
def decodeSensorSettings? (config : SettingsStruct) (sensor : SensorStruct D) :
    Option (SensorDraft D) := do
  let fields ← decodeFields? window len config sensor
  let levels ← checkOnLevels? (checkTimes fields)
  let directions ← checkDirections? levels
  let rechecked := recheckType directions
  some { rechecked with ok := hardFailure rechecked.ok }

theorem decodeSensorSettings?_eq_some
    (config : SettingsStruct)
    (sensor : SensorStruct D) :
    decodeSensorSettings? window len config sensor =
      some (decodeSensorSettings (FixedArray.read window) len config sensor) := by
  simp only [decodeSensorSettings?, decodeFields?_eq_some, checkOnLevels?_eq_some,
    checkDirections?_eq_some, Option.bind_eq_bind, Option.bind_some, decodeSensorSettings,
    checkDraft]

end

namespace Device

variable [DoubleArith D]

/-- `ModbusService::saveSensorSettings`. -/
def saveSensorSettings? (dev : Device D) (window : Vector UInt16 argumentWindowSize)
    (len : UInt8) : Option (UInt8 × Device D) :=
  if len < 56 then some (0, dev)
  else do
    let draft ← decodeSensorSettings? window len dev.deviceConfig dev.sensor
    let protect ← FixedArray.fetch window [35]
    let committed :=
      committedSettings (FixedArray.read protect 35).toUInt8 draft.settings
    let accepted := draft.ok = 0
    let config ←
      if accepted then commitAlarms? draft dev.deviceConfig else some dev.deviceConfig
    some
      (if accepted then 1 else 0,
        { dev with
          modbus :=
            { dev.modbus with
              sensorScratch := if accepted then committed else draft.settings
              alarmScratch := draft.alarmStgn
              alarmThresholdScratch := draft.alrmThrshold }
          deviceConfig := config
          sensor := if accepted then committed else dev.sensor
          saveSensorInfo := if accepted then 1 else dev.saveSensorInfo
          saveDevSettings := if accepted then 1 else dev.saveDevSettings })

theorem saveSensorSettings?_eq_some
    (dev : Device D)
    (window : Vector UInt16 argumentWindowSize)
    (len : UInt8) :
    dev.saveSensorSettings? window len =
      some (dev.saveSensorSettings (some (FixedArray.read window)) len) := by
  by_cases short : len < 56
  · simp only [saveSensorSettings?, saveSensorSettings, if_pos short]
  simp only [saveSensorSettings?, saveSensorSettings, if_neg short,
    decodeSensorSettings?_eq_some, Option.bind_eq_bind, Option.bind_some]
  refine FixedArray.fetch_bind_eq window (by decide) fun words agree => ?_
  rw [agree 35 (by decide)]
  split
  · simp only [commitAlarms?_eq_some, Option.bind_some]
  · rfl

end Device

end SensorFirmware
