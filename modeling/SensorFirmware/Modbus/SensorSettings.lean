import SensorFirmware.Modbus.BaseSettings

/-!
# The sensor settings command

`ModbusService::saveSensorSettings` decodes a package into scratch records,
keeps one result code that later checks overwrite, and commits when the code
is zero at the end.  Its sections are separate definitions, in the order of
the source.
-/

namespace SensorFirmware

open BigEndian DoubleArith

/-- `GetSensorModel`. -/
def getSensorModel (indx : UInt16) : UInt16 := indx

/-- `CheckSensorType`. -/
def checkSensorType (type : UInt16) : UInt16 := type

/-- Assign an error code when a check fails. -/
def flag (fails : Prop) [Decidable fails] (code ok : UInt8) : UInt8 :=
  if fails then code else ok

/-- The scratch records of `saveSensorSettings` and its result code. -/
structure SensorDraft (D : Type) where
  settings : SensorStruct D
  alarmStgn : Vector (AlarmStruct D) 4
  alrmThrshold : Vector UInt16 4
  ok : UInt8

/-! ## The checks -/

/-- The applied gas does not suit a catalytic or a photo-ionization sensor. -/
def AppliedGasFails (type : UInt16) (gas appliedGas : UInt8) : Prop :=
  if type = catalyticSensor ∧ gas ≠ gasC2h2 then
    ¬ (appliedGas = gas ∨ appliedGas = gasCh4 ∨ appliedGas = gasC5h12 ∨
      appliedGas = gasC3h8)
  else if type = pidSensor ∧ (gas = gasVoc ∨ gas = gasTvoc) then
    ¬ (appliedGas = gas ∨ appliedGas = gasIsobutylene)
  else False

instance (type : UInt16) (gas appliedGas : UInt8) :
    Decidable (AppliedGasFails type gas appliedGas) :=
  inferInstanceAs (Decidable (ite _ _ _))

/-- A read delay is out of range. -/
def RdDelayFails (delay : UInt8) : Prop := delay < minRdDelay ∨ maxRdDelay < delay

/-- A lamp period is none of the two legal ones. -/
def LampPeriodFails (period : UInt16) : Prop :=
  period ≠ lampPeriodLow ∧ period ≠ lampPeriodHigh

/-- A hysteresis word is out of range. -/
def HysteresisFails (word : UInt16) : Prop :=
  word < minHysteresis ∨ maxHysteresis < word

/-- A calibration time is out of range. -/
def CalibrationTimeFails (time : UInt16) : Prop :=
  time < minCalibrationTime ∨ maxCalibrationTime < time

/-- The package needs a gas index for volatile compounds. -/
def UsesVocGas (type : UInt16) (gas : UInt8) : Prop :=
  type = pidSensor ∧ (gas = gasVoc ∨ gas = gasTvoc)

instance (delay : UInt8) : Decidable (RdDelayFails delay) :=
  inferInstanceAs (Decidable (_ ∨ _))

instance (period : UInt16) : Decidable (LampPeriodFails period) :=
  inferInstanceAs (Decidable (_ ∧ _))

instance (word : UInt16) : Decidable (HysteresisFails word) :=
  inferInstanceAs (Decidable (_ ∨ _))

instance (time : UInt16) : Decidable (CalibrationTimeFails time) :=
  inferInstanceAs (Decidable (_ ∨ _))

instance (type : UInt16) (gas : UInt8) : Decidable (UsesVocGas type gas) :=
  inferInstanceAs (Decidable (_ ∧ _))

section

variable {D : Type} [DoubleArith D]

/-- The hysteresis band exceeds half of the alarm level. -/
def OnLevelFails (hysteresis : UInt8) (gasConcRange onLevel : D) : Prop :=
  lt (div onLevel (ofInt 2)) (mul (div (ofByte hysteresis) (ofInt 100)) gasConcRange)

instance (hysteresis : UInt8) (gasConcRange onLevel : D) :
    Decidable (OnLevelFails hysteresis gasConcRange onLevel) :=
  inferInstanceAs (Decidable (_ = true))

/-- The trip direction of an alarm. -/
def direction (alarm : AlarmStruct D) : UInt8 := alarm.configStatus &&& tripDirection

/-- Compare the directions and levels of two neighbouring alarms. -/
def checkDirection (gas : UInt8) (alarm next : AlarmStruct D)
    (fallingCode mixedCode orderCode ok : UInt8) : UInt8 :=
  if direction alarm = tripFalling ∧ gas ≠ gasO2 then fallingCode
  else if direction alarm ≠ direction next then mixedCode
  else if direction alarm = tripRising ∧ lt alarm.onLevel next.onLevel then ok
  else if direction alarm = tripFalling ∧ lt next.onLevel alarm.onLevel then ok
  else orderCode

/-! ## Decoding -/

/-- The scratch records at the start. -/
def SensorDraft.start (sensor : SensorStruct D) : SensorDraft D where
  settings := sensor
  alarmStgn := Vector.replicate 4 AlarmStruct.zero
  alrmThrshold := Vector.replicate 4 0
  ok := 0

variable (data : Nat → UInt16) (len : UInt8) (draft : SensorDraft D)

/-- Scale of the concentrations: word 63 where it is present and positive. -/
def factor : UInt16 := if 64 ≤ len ∧ 0 < data 63 then data 63 else 10

/-- Model, type, gas, unit, factor and concentrations. -/
def decodeIdentity : SensorDraft D :=
  let gas := (data 2).toUInt8
  let displayUnit := (data 3).toUInt8
  { draft with
    settings :=
      { draft.settings with
        model := getSensorModel (data 0)
        type := checkSensorType (data 1)
        gas := gas
        displayUnit := displayUnit
        mulFactor := (factor data len).toUInt8
        gasConcRange := div (ofWord (data 4)) (ofWord (factor data len))
        calibration :=
          { draft.settings.calibration with
            apliedGasConc := div (ofWord (data 33)) (ofWord (factor data len)) } }
    ok :=
      draft.ok
        |> flag (getSensorModel (data 0) = 0) 2
        |> flag (checkSensorType (data 1) = 0) 3
        |> flag (gas < gasIndxOffset) 4
        |> flag (displayUnit < unitPpm ∨ unitPpb < displayUnit) 5 }

/-- The gas that was applied for the calibration. -/
def decodeAppliedGas : SensorDraft D :=
  let type := draft.settings.type
  let gas := draft.settings.gas
  let appliedGas := (data 6).toUInt8
  { draft with
    settings :=
      { draft.settings with
        calibration :=
          { draft.settings.calibration with
            appliedGas :=
              if type = catalyticSensor ∧ gas ≠ gasC2h2 then appliedGas
              else if UsesVocGas type gas then appliedGas
              else gas } }
    ok := flag (AppliedGasFails type gas appliedGas) 19 draft.ok }

/-- Alarm thresholds. -/
def decodeThresholds : SensorDraft D :=
  { draft with
    alrmThrshold :=
      FixedArray.writeAll draft.alrmThrshold alarm1 [data 7, data 8, data 9] }

/-- Lamp and delays of an infrared sensor. -/
def decodeInfrared : SensorDraft D :=
  let infrared := draft.settings.type = infraredSensor
  let peak := (data 10).toUInt8
  let deep := (data 11).toUInt8
  let period := (data 12).toUInt8.toUInt16
  { draft with
    settings :=
      { draft.settings with
        rdTimeDelayPeak := if infrared then peak else draft.settings.rdTimeDelayPeak
        rdTimeDelayDeep := if infrared then deep else draft.settings.rdTimeDelayDeep
        lampDrvPeriod := if infrared then period else draft.settings.lampDrvPeriod }
    ok :=
      draft.ok
        |> flag (infrared ∧ RdDelayFails peak) 24
        |> flag (infrared ∧ RdDelayFails deep) 25
        |> flag (infrared ∧ LampPeriodFails period) 26 }

/-- Serial number and manufacturer id. -/
def decodeNumbers : SensorDraft D :=
  { draft with
    settings :=
      { draft.settings with
        serialNumber :=
          FixedArray.write
            (storeWords draft.settings.serialNumber (fun i => data (13 + i)) 4) 8 0
        manIdNumber :=
          FixedArray.write
            (storeWords draft.settings.manIdNumber (fun i => data (17 + i)) 4) 8 0 } }

/-- Update the three alarms in turn. -/
def updateAlarms (update : Nat → AlarmStruct D → AlarmStruct D)
    (alarms : Vector (AlarmStruct D) 4) : Vector (AlarmStruct D) 4 :=
  countedLoop
    (fun i alarms =>
      FixedArray.write alarms (alarm1 + i)
        (update i (FixedArray.read alarms (alarm1 + i))))
    3 alarms

/-- Configuration bits and relay delay of alarm `i`, in two words. -/
def decodeAlarm (i : Nat) (alarm : AlarmStruct D) : AlarmStruct D :=
  { alarm with
    configStatus :=
      0
        |> setBitIf (data (21 + 2 * i) &&& 0xFF00 ≠ 0) autoReset
        |> setBitIf (data (21 + 2 * i) &&& 0x00FF ≠ 0) dfltEnergised
        |> setBitIf (data (22 + 2 * i) &&& 0xFF00 ≠ 0) tripDirection
    offDelay := (data (22 + 2 * i) &&& 0x00FF).toUInt8 }

/-- The alarm words. -/
def decodeAlarms : SensorDraft D :=
  { draft with alarmStgn := updateAlarms (decodeAlarm data) draft.alarmStgn }

/-- Bump test interval and calibration cycle. -/
def decodeIntervals : SensorDraft D :=
  let interval := (data 27).toUInt8
  let cycle := (data 34).toUInt8
  { draft with
    settings :=
      { draft.settings with
        bumpTestInterval := interval
        calibration := { draft.settings.calibration with cycle := cycle } }
    ok :=
      draft.ok
        |> flag (interval = 0 ∨ 3 < interval) 27
        |> flag (cycle < minCalbCyle ∨ maxCalbCyle < cycle) 28 }

/-- A coefficient in millionths, as a signed double word. -/
def coef (high low : UInt16) : D :=
  div (ofInt ((high.toUInt32 <<< 16) ||| low.toUInt32).toInt32.toInt) (ofInt 1000000)

/-- Coefficients, thermistor and manufacturing date. -/
def decodeCoefficients : SensorDraft D :=
  { draft with
    settings :=
      { draft.settings with
        coefficient :=
          { a := coef (data 37) (data 36)
            n := coef (data 39) (data 38)
            alphaPos := coef (data 41) (data 40)
            alphaNeg := coef (data 43) (data 42)
            betaPos := coef (data 45) (data 44)
            betaNeg := coef (data 47) (data 46) }
        thResistor := data 48
        thBeta := data 49
        manDate := (data 50 <<< 8) ||| data 51 } }

/-- Index of the volatile compound. -/
def decodeVocGas : SensorDraft D :=
  let needed := UsesVocGas draft.settings.type draft.settings.gas
  let legal := data 52 ≤ 916 ∧ 0 < data 52
  { draft with
    settings :=
      { draft.settings with vocGas := if needed ∧ legal then data 52 - 1 else 0 }
    ok := flag (needed ∧ ¬ legal) 34 draft.ok }

/-- Hysteresis of alarm `i`: from the package, or from the configuration. -/
def hysteresis (config : SettingsStruct) (i : Nat) : UInt8 :=
  if 57 ≤ len then (data (53 + i)).toUInt8
  else FixedArray.read config.alarmOffHysteresis i

/-- The trigger type of alarm `i` is set in the package. -/
def TriggerTypeSet (i : Nat) : Prop :=
  57 ≤ len ∧
    (if i = 0 then data 56 &&& 0xFF00 ≠ 0
      else if i = 1 then data 56 &&& 0x00FF ≠ 0
      else data 57 &&& 0xFF00 ≠ 0)

instance (i : Nat) : Decidable (TriggerTypeSet data len i) :=
  inferInstanceAs (Decidable (_ ∧ ite _ _ _))

/-- Hysteresis and trigger types. -/
def decodeHysteresis (config : SettingsStruct) : SensorDraft D :=
  { draft with
    alarmStgn :=
      updateAlarms
        (fun i alarm =>
          { alarm with
            hysteresis := hysteresis data len config i
            configStatus :=
              setBitIf (TriggerTypeSet data len i) alrmTrgType alarm.configStatus })
        draft.alarmStgn
    ok :=
      if 57 ≤ len then
        if HysteresisFails (data 53) then 35
        else if HysteresisFails (data 54) then 36
        else if HysteresisFails (data 55) then 37
        else draft.ok
      else draft.ok }

/-- Explosion limits and relative sensitivities. -/
def decodeLelValues : SensorDraft D :=
  let present := 59 ≤ len
  let type := draft.settings.type
  let calibration := draft.settings.calibration
  { draft with
    settings :=
      { draft.settings with
        gasLelValue :=
          if present then div (ofWord (data 58)) (ofInt 100)
          else draft.settings.gasLelValue
        relativeSensitivity :=
          if present ∧ type = catalyticSensor then div (ofWord (data 59)) (ofInt 100)
          else if present ∧ type = pidSensor then div (ofWord (data 62)) (ofInt 100)
          else draft.settings.relativeSensitivity
        calibration :=
          { calibration with
            apliedGasLelValue :=
              if present then div (ofWord (data 60)) (ofInt 100)
              else calibration.apliedGasLelValue
            apliedGasRelSens :=
              if present ∧ type = catalyticSensor then
                div (ofWord (data 61)) (ofInt 100)
              else calibration.apliedGasRelSens } } }

/-- Supply voltage and filter tick. -/
def decodeSupply : SensorDraft D :=
  let voltage := if 65 ≤ len then (data 64).toUInt8 else 25
  { draft with
    settings :=
      { draft.settings with
        supplyVoltage := voltage
        filterUpdateTick :=
          if 66 ≤ len then
            if data 65 ≤ 10 then (data 65).toUInt8
            else draft.settings.filterUpdateTick
          else 0 }
    ok :=
      draft.ok
        |> flag (50 < voltage) 40
        |> flag (66 ≤ len ∧ ¬ data 65 ≤ 10) 41 }

/-- Warm-up time, operating temperatures and calibration times. -/
def decodeTimes : SensorDraft D :=
  { draft with
    settings :=
      { draft.settings with
        warmUpTime := if 68 ≤ len then (data 66).toUInt8 else minWarmUpTime
        oprTempMax :=
          if 68 ≤ len then ofWord (data 67) else ofInt maxCtlyTemprature
        oprTempMin :=
          if 69 ≤ len then ofInt (data 68).toInt16.toInt else ofInt minTemprature
        callSpanTime := if 71 ≤ len then data 69 else minCalibrationTime
        callZeroTime := if 71 ≤ len then data 70 else minCalibrationTime } }

/-- Checks of the warm-up time, the temperatures and the calibration times. -/
def checkTimes : SensorDraft D :=
  let settings := draft.settings
  { draft with
    ok :=
      draft.ok
        |> flag (settings.warmUpTime < minWarmUpTime ∨
          maxWarmUpTime < settings.warmUpTime) 42
        |> flag (lt (ofInt maxTempratureRangeH) settings.oprTempMax ∨
          lt settings.oprTempMax (ofInt maxTempratureRangeL)) 43
        |> flag (lt (ofInt minTempratureRangeH) settings.oprTempMin ∨
          lt settings.oprTempMin (ofInt minTempratureRangeL)) 44
        |> flag (CalibrationTimeFails settings.callSpanTime) 45
        |> flag (CalibrationTimeFails settings.callZeroTime) 46 }

/-- Alarm levels, with the check of each against its hysteresis. -/
def checkOnLevels : SensorDraft D :=
  let onLevel i := ofWord (FixedArray.read draft.alrmThrshold (alarm1 + i))
  { draft with
    alarmStgn :=
      updateAlarms (fun i alarm => { alarm with onLevel := onLevel i }) draft.alarmStgn
    ok :=
      countedLoop
        (fun i ok =>
          flag (OnLevelFails (FixedArray.read draft.alarmStgn (alarm1 + i)).hysteresis
            draft.settings.gasConcRange (onLevel i)) 38 ok)
        3 draft.ok }

/-- Checks of the trip directions.  Mixed directions of the first two alarms
keep the result code. -/
def checkDirections : SensorDraft D :=
  let gas := draft.settings.gas
  let first := FixedArray.read draft.alarmStgn alarm1
  let second := FixedArray.read draft.alarmStgn alarm2
  let third := FixedArray.read draft.alarmStgn alarm3
  { draft with
    ok :=
      let ok := checkDirection gas first second 37 draft.ok 31 draft.ok
      let ok := checkDirection gas second third 36 32 33 ok
      flag (direction third = tripFalling ∧ gas ≠ gasO2) 35 ok }

/-- Second check of the sensor type. -/
def recheckType : SensorDraft D :=
  { draft with
    settings := { draft.settings with type := checkSensorType draft.settings.type }
    ok := flag (checkSensorType draft.settings.type = 0) 34 draft.ok }

/-- Result codes that reject the package; the others are dropped. -/
def hardFailure (ok : UInt8) : UInt8 :=
  let ok := if ok = 31 ∨ ok = 32 ∨ ok = 33 then 0 else ok
  if ok ≠ 0 ∧ ok ≠ 2 ∧ ok ≠ 3 ∧ ok ≠ 4 ∧ ok ≠ 5 then 0 else ok

/-- The scratch records after the fields of the package are decoded. -/
def decodeFields (config : SettingsStruct) (sensor : SensorStruct D) : SensorDraft D :=
  SensorDraft.start sensor
    |> decodeIdentity data len
    |> decodeAppliedGas data
    |> decodeThresholds data
    |> decodeInfrared data
    |> decodeNumbers data
    |> decodeAlarms data
    |> decodeIntervals data
    |> decodeCoefficients data
    |> decodeVocGas data
    |> (decodeHysteresis data len · config)
    |> decodeLelValues data len
    |> decodeSupply data len
    |> decodeTimes data len

/-- The checks on the decoded records. -/
def checkDraft : SensorDraft D :=
  draft
    |> checkTimes
    |> checkOnLevels
    |> checkDirections
    |> recheckType

/-- The scratch records after all sections. -/
def decodeSensorSettings (config : SettingsStruct)
    (sensor : SensorStruct D) : SensorDraft D :=
  let draft := checkDraft (decodeFields data len config sensor)
  { draft with ok := hardFailure draft.ok }

/-! ## Committing -/

/-- The settings that are committed. -/
def committedSettings (wrPrtc : UInt8) (settings : SensorStruct D) : SensorStruct D :=
  { settings with
    mulFactor := if settings.mulFactor = 0 then 1 else settings.mulFactor
    calibration :=
      { settings.calibration with
        spanGasType :=
          if settings.type ≠ catalyticSensor then settings.gas
          else settings.calibration.spanGasType }
    wrProtect := wrPrtc }

/-- The alarm fields of the device configuration that are committed. -/
def commitAlarms (config : SettingsStruct) : SettingsStruct :=
  let alarm i := FixedArray.read draft.alarmStgn (alarm1 + i)
  { config with
    alarmThreshold :=
      countedLoop
        (fun i cells =>
          FixedArray.write cells i (FixedArray.read draft.alrmThrshold (alarm1 + i)))
        3 config.alarmThreshold
    alarmSettings :=
      countedLoop (fun i cells => FixedArray.write cells i (alarm i).configStatus) 3
        config.alarmSettings
    relayOffDelay :=
      countedLoop (fun i cells => FixedArray.write cells i (alarm i).offDelay) 3
        config.relayOffDelay
    alarmOffHysteresis :=
      countedLoop (fun i cells => FixedArray.write cells i (alarm i).hysteresis) 3
        config.alarmOffHysteresis }

end

namespace Device

variable [DoubleArith D]

/-- `ModbusService::saveSensorSettings`. -/
def saveSensorSettings (dev : Device D) (data : Option (Nat → UInt16))
    (len : UInt8) : UInt8 × Device D :=
  match data with
  | none => (0, dev)
  | some data =>
      if len < 56 then (0, dev)
      else
        let draft := decodeSensorSettings data len dev.deviceConfig dev.sensor
        let committed := committedSettings (data 35).toUInt8 draft.settings
        let accepted := draft.ok = 0
        (if accepted then 1 else 0,
          { dev with
            modbus :=
              { dev.modbus with
                sensorScratch := if accepted then committed else draft.settings
                alarmScratch := draft.alarmStgn
                alarmThresholdScratch := draft.alrmThrshold }
            deviceConfig :=
              if accepted then commitAlarms draft dev.deviceConfig
              else dev.deviceConfig
            sensor := if accepted then committed else dev.sensor
            saveSensorInfo := if accepted then 1 else dev.saveSensorInfo
            saveDevSettings := if accepted then 1 else dev.saveDevSettings })

end Device

end SensorFirmware
