import SensorFirmware.Modbus.SensorSettings

/-!
# When a sensor package is accepted

The result code of `saveSensorSettings` is overwritten by every failing check,
and only the codes 2 to 5 reject.  A package is therefore accepted in two ways:
its identity fields pass, or a later check fails and hides what they found.
Both conditions are stated here on the words of the package.
-/

namespace SensorFirmware

open BigEndian DoubleArith

/-! ## Result codes -/

/-- A check that leaves a code of at least 19 where it fires and keeps the
result otherwise. -/
structure Marks (fires : Prop) (before after : UInt8) : Prop where
  marked : fires → 19 ≤ after
  kept : ¬ fires → after = before

namespace Marks

theorem refl (ok : UInt8) : Marks False ok ok where
  marked := False.elim
  kept _ := rfl

theorem always
    {code : UInt8}
    (ok : UInt8)
    (soft : 19 ≤ code) :
    Marks True ok code where
  marked _ := soft
  kept quiet := (quiet trivial).elim

/-- A flagged check marks where it fails. -/
theorem flag
    {fails : Prop}
    [Decidable fails]
    {code : UInt8}
    (ok : UInt8)
    (soft : 19 ≤ code) :
    Marks fails ok (flag fails code ok) where
  marked fires := by rw [SensorFirmware.flag, if_pos fires]; exact soft
  kept quiet := by rw [SensorFirmware.flag, if_neg quiet]

/-- Later checks never restore an unmarked result. -/
theorem trans
    {first second : Prop}
    {before between after : UInt8}
    (left : Marks first before between)
    (right : Marks second between after) :
    Marks (first ∨ second) before after where
  marked fires := by
    by_cases later : second
    · exact right.marked later
    · rw [right.kept later]
      exact left.marked (fires.resolve_right later)
  kept quiet := by
    rw [not_or] at quiet
    rw [right.kept quiet.2, left.kept quiet.1]

theorem congr
    {first second : Prop}
    {before after : UInt8}
    (marks : Marks first before after)
    (same : first ↔ second) :
    Marks second before after :=
  propext same ▸ marks

/-- A loop of checks marks when one of its rounds does. -/
theorem countedLoop
    {fires : Nat → Prop}
    {body : Nat → UInt8 → UInt8}
    (each : ∀ index ok, Marks (fires index) ok (body index ok))
    (count : Nat)
    (ok : UInt8) :
    Marks (∃ index, index < count ∧ fires index) ok (countedLoop body count ok) := by
  induction count with
  | zero => exact (refl ok).congr (by simp)
  | succ count inductionHypothesis =>
      refine (inductionHypothesis.trans (each count _)).congr ?_
      constructor
      · rintro (⟨index, inside, fired⟩ | fired)
        · exact ⟨index, by omega, fired⟩
        · exact ⟨count, by omega, fired⟩
      · rintro ⟨index, inside, fired⟩
        by_cases last : index = count
        · subst last
          exact Or.inr fired
        · exact Or.inl ⟨index, by omega, fired⟩

end Marks

/-! ## Conditions on the package -/

section

variable (data : Nat → UInt16) (len : UInt8) (config : SettingsStruct)

/-- The checks whose codes reject: model, type, gas and unit. -/
def HardChecksPass : Prop :=
  getSensorModel (data 0) ≠ 0 ∧ checkSensorType (data 1) ≠ 0 ∧
    gasIndxOffset ≤ (data 2).toUInt8 ∧
      unitPpm ≤ (data 3).toUInt8 ∧ (data 3).toUInt8 ≤ unitPpb

instance : Decidable (HardChecksPass data) := inferInstanceAs (Decidable (_ ∧ _))

/-- Code of the last failing identity check, zero where all pass. -/
def hardCode : UInt8 :=
  0
    |> flag (getSensorModel (data 0) = 0) 2
    |> flag (checkSensorType (data 1) = 0) 3
    |> flag ((data 2).toUInt8 < gasIndxOffset) 4
    |> flag ((data 3).toUInt8 < unitPpm ∨ unitPpb < (data 3).toUInt8) 5

/-- Alarm `i` of the package trips on falling values. -/
def TripsFalling (i : Nat) : Prop := data (22 + 2 * i) &&& 0xFF00 ≠ 0

/-- A field of the package is outside its range. -/
def FieldCheckFails : Prop :=
  let type := checkSensorType (data 1)
  let gas := (data 2).toUInt8
  AppliedGasFails type gas (data 6).toUInt8 ∨
    (type = infraredSensor ∧
      (RdDelayFails (data 10).toUInt8 ∨ RdDelayFails (data 11).toUInt8 ∨
        LampPeriodFails (data 12).toUInt8.toUInt16)) ∨
    (((data 27).toUInt8 = 0 ∨ 3 < (data 27).toUInt8) ∨
      ((data 34).toUInt8 < minCalbCyle ∨ maxCalbCyle < (data 34).toUInt8)) ∨
    (UsesVocGas type gas ∧ ¬ (data 52 ≤ 916 ∧ 0 < data 52)) ∨
    (57 ≤ len ∧
      (HysteresisFails (data 53) ∨ HysteresisFails (data 54) ∨
        HysteresisFails (data 55))) ∨
    ((65 ≤ len ∧ 50 < (data 64).toUInt8) ∨ (66 ≤ len ∧ ¬ data 65 ≤ 10))

/-- An operating temperature is outside its range. -/
def TemperatureCheckFails (D : Type) [DoubleArith D] : Prop :=
  let oprTempMax : D := if 68 ≤ len then ofWord (data 67) else ofInt maxCtlyTemprature
  let oprTempMin : D :=
    if 69 ≤ len then ofInt (data 68).toInt16.toInt else ofInt minTemprature
  (lt (ofInt maxTempratureRangeH) oprTempMax ∨
      lt oprTempMax (ofInt maxTempratureRangeL)) ∨
    (lt (ofInt minTempratureRangeH) oprTempMin ∨
      lt oprTempMin (ofInt minTempratureRangeL))

/-- The warm-up time, a temperature or a calibration time is outside its range. -/
def TimeCheckFails (D : Type) [DoubleArith D] : Prop :=
  (68 ≤ len ∧
      ((data 66).toUInt8 < minWarmUpTime ∨ maxWarmUpTime < (data 66).toUInt8)) ∨
    TemperatureCheckFails data len D ∨
    (71 ≤ len ∧ (CalibrationTimeFails (data 69) ∨ CalibrationTimeFails (data 70)))

/-- The hysteresis band of an alarm is too wide for its level. -/
def OnLevelCheckFails (D : Type) [DoubleArith D] : Prop :=
  ∃ i, i < 3 ∧
    OnLevelFails (hysteresis data len config i)
      (div (ofWord (data 4)) (ofWord (factor data len)) : D) (ofWord (data (7 + i)))

/-- The levels of alarm `i` and the next one are ordered along the trip
direction. -/
def LevelsOrdered (D : Type) [DoubleArith D] (i : Nat) : Prop :=
  (¬ TripsFalling data i ∧ lt (ofWord (data (7 + i)) : D) (ofWord (data (8 + i)))) ∨
    (TripsFalling data i ∧ lt (ofWord (data (8 + i)) : D) (ofWord (data (7 + i))))

/-- The trip directions or the levels of the alarms do not fit together. -/
def DirectionCheckFails (D : Type) [DoubleArith D] : Prop :=
  ((TripsFalling data 0 ∧ (data 2).toUInt8 ≠ gasO2) ∨
      ((TripsFalling data 0 ↔ TripsFalling data 1) ∧ ¬ LevelsOrdered data D 0)) ∨
    ((TripsFalling data 1 ∧ (data 2).toUInt8 ≠ gasO2) ∨
      ¬ (TripsFalling data 1 ↔ TripsFalling data 2) ∨ ¬ LevelsOrdered data D 1) ∨
    (TripsFalling data 2 ∧ (data 2).toUInt8 ≠ gasO2)

/-- Some check fails whose code does not reject. -/
def SoftCheckFails (D : Type) [DoubleArith D] : Prop :=
  FieldCheckFails data len ∨ TimeCheckFails data len D ∨
    OnLevelCheckFails data len config D ∨ DirectionCheckFails data D ∨
      checkSensorType (data 1) = 0

end

/-! ## Marks of the sections -/

section

variable {D : Type} (data : Nat → UInt16) (len : UInt8) (config : SettingsStruct)
variable (draft : SensorDraft D)

theorem decodeAppliedGas_marks :
    Marks
      (AppliedGasFails draft.settings.type draft.settings.gas (data 6).toUInt8)
      draft.ok (decodeAppliedGas data draft).ok :=
  Marks.flag _ (by decide)

theorem decodeInfrared_marks :
    Marks
      (draft.settings.type = infraredSensor ∧
        (RdDelayFails (data 10).toUInt8 ∨ RdDelayFails (data 11).toUInt8 ∨
          LampPeriodFails (data 12).toUInt8.toUInt16))
      draft.ok (decodeInfrared data draft).ok :=
  (((Marks.flag _ (by decide)).trans (Marks.flag _ (by decide))).trans
    (Marks.flag _ (by decide))).congr (by tauto)

theorem decodeIntervals_marks :
    Marks
      (((data 27).toUInt8 = 0 ∨ 3 < (data 27).toUInt8) ∨
        ((data 34).toUInt8 < minCalbCyle ∨ maxCalbCyle < (data 34).toUInt8))
      draft.ok (decodeIntervals data draft).ok :=
  (Marks.flag _ (by decide)).trans (Marks.flag _ (by decide))

theorem decodeVocGas_marks :
    Marks
      (UsesVocGas draft.settings.type draft.settings.gas ∧
        ¬ (data 52 ≤ 916 ∧ 0 < data 52))
      draft.ok (decodeVocGas data draft).ok :=
  Marks.flag _ (by decide)

theorem recheckType_marks :
    Marks (checkSensorType draft.settings.type = 0) draft.ok (recheckType draft).ok :=
  Marks.flag _ (by decide)

theorem decodeSupply_marks :
    Marks
      ((65 ≤ len ∧ 50 < (data 64).toUInt8) ∨ (66 ≤ len ∧ ¬ data 65 ≤ 10))
      draft.ok (decodeSupply data len draft).ok := by
  refine ((Marks.flag _ (by decide)).trans (Marks.flag _ (by decide))).congr ?_
  have excess : 50 < (if 65 ≤ len then (data 64).toUInt8 else 25) ↔
      65 ≤ len ∧ 50 < (data 64).toUInt8 := by
    by_cases present : 65 ≤ len
    · simp [present]
    · rw [if_neg present]
      simp only [present, false_and, iff_false]
      decide
  rw [excess]

variable [DoubleArith D]

theorem decodeHysteresis_marks :
    Marks
      (57 ≤ len ∧
        (HysteresisFails (data 53) ∨ HysteresisFails (data 54) ∨
          HysteresisFails (data 55)))
      draft.ok (decodeHysteresis data len draft config).ok := by
  simp only [decodeHysteresis]
  by_cases present : 57 ≤ len
  · rw [if_pos present]
    constructor
    · rintro ⟨_, fires⟩
      split
      · decide
      split
      · decide
      split
      · decide
      · tauto
    · intro quiet
      have passes : ¬ (HysteresisFails (data 53) ∨ HysteresisFails (data 54) ∨
          HysteresisFails (data 55)) := fun fires => quiet ⟨present, fires⟩
      rw [not_or, not_or] at passes
      rw [if_neg passes.1, if_neg passes.2.1, if_neg passes.2.2]
  · rw [if_neg present]
    exact (Marks.refl _).congr (by simp [present])

theorem checkTimes_marks :
    Marks
      ((((draft.settings.warmUpTime < minWarmUpTime ∨
          maxWarmUpTime < draft.settings.warmUpTime) ∨
          (lt (ofInt maxTempratureRangeH) draft.settings.oprTempMax ∨
            lt draft.settings.oprTempMax (ofInt maxTempratureRangeL))) ∨
          (lt (ofInt minTempratureRangeH) draft.settings.oprTempMin ∨
            lt draft.settings.oprTempMin (ofInt minTempratureRangeL))) ∨
        CalibrationTimeFails draft.settings.callSpanTime ∨
          CalibrationTimeFails draft.settings.callZeroTime)
      draft.ok (checkTimes draft).ok :=
  (((((Marks.flag _ (by decide)).trans (Marks.flag _ (by decide))).trans
    (Marks.flag _ (by decide))).trans (Marks.flag _ (by decide))).trans
      (Marks.flag _ (by decide))).congr (by rw [or_assoc])

theorem checkOnLevels_marks :
    Marks
      (∃ i, i < 3 ∧
        OnLevelFails (FixedArray.read draft.alarmStgn (alarm1 + i)).hysteresis
          draft.settings.gasConcRange
          (ofWord (FixedArray.read draft.alrmThrshold (alarm1 + i))))
      draft.ok (checkOnLevels draft).ok :=
  Marks.countedLoop (fun _ ok => Marks.flag ok (by decide)) 3 draft.ok

/-! ## The alarms of a package -/

theorem read_updateAlarms
    (update : Nat → AlarmStruct D → AlarmStruct D)
    (alarms : Vector (AlarmStruct D) 4)
    (i : Nat)
    (inside : i < 3) :
    FixedArray.read (updateAlarms update alarms) (alarm1 + i) =
      update i (FixedArray.read alarms (alarm1 + i)) := by
  have covered : alarm1 ≤ alarm1 + i ∧ alarm1 + i < alarm1 + 3 := by omega
  rw [updateAlarms, FixedArray.read_updateLoop alarm1 update 3 alarms (by decide),
    if_pos covered, Nat.add_sub_cancel_left]

/-- Alarm `i` as a package leaves it. -/
def settledAlarm (i : Nat) : AlarmStruct D :=
  { decodeAlarm data i AlarmStruct.zero with
    hysteresis := hysteresis data len config i
    configStatus :=
      setBitIf (TriggerTypeSet data len i) alrmTrgType
        (decodeAlarm data i (AlarmStruct.zero : AlarmStruct D)).configStatus
    onLevel := ofWord (data (7 + i)) }

@[simp] theorem onLevel_settledAlarm (i : Nat) :
    (settledAlarm data len config i : AlarmStruct D).onLevel = ofWord (data (7 + i)) :=
  rfl

/-- The four configuration bits are independent. -/
theorem alarmBits_and
    (first second third fourth : Prop)
    [Decidable first] [Decidable second] [Decidable third] [Decidable fourth] :
    let bits :=
      setBitIf fourth alrmTrgType
        (setBitIf third tripDirection
          (setBitIf second dfltEnergised (setBitIf first autoReset 0)))
    (bits &&& autoReset ≠ 0 ↔ first) ∧ (bits &&& dfltEnergised ≠ 0 ↔ second) ∧
      (bits &&& tripDirection = if third then tripFalling else tripRising) ∧
        (bits &&& alrmTrgType ≠ 0 ↔ fourth) := by
  by_cases one : first <;> by_cases two : second <;> by_cases three : third <;>
    by_cases four : fourth <;> simp only [setBitIf, one, two, three, four] <;> decide

theorem direction_settledAlarm (i : Nat) :
    direction (settledAlarm data len config i : AlarmStruct D) =
      if data (22 + 2 * i) &&& 0xFF00 ≠ 0 then tripFalling else tripRising :=
  (alarmBits_and _ _ _ _).2.2.1

theorem direction_eq_falling_iff (i : Nat) :
    direction (settledAlarm data len config i : AlarmStruct D) = tripFalling ↔
      TripsFalling data i := by
  rw [direction_settledAlarm]
  by_cases falling : data (22 + 2 * i) &&& 0xFF00 ≠ 0
  · rw [if_pos falling]
    exact iff_of_true rfl falling
  · rw [if_neg falling]
    exact iff_of_false (by decide) falling

theorem direction_eq_rising_iff (i : Nat) :
    direction (settledAlarm data len config i : AlarmStruct D) = tripRising ↔
      ¬ TripsFalling data i := by
  rw [direction_settledAlarm]
  by_cases falling : data (22 + 2 * i) &&& 0xFF00 ≠ 0
  · rw [if_pos falling]
    exact iff_of_false (by decide) (not_not_intro falling)
  · rw [if_neg falling]
    exact iff_of_true rfl falling

theorem direction_eq_iff (i j : Nat) :
    direction (settledAlarm data len config i : AlarmStruct D) =
        direction (settledAlarm data len config j : AlarmStruct D) ↔
      (TripsFalling data i ↔ TripsFalling data j) := by
  rw [direction_settledAlarm data len config j]
  by_cases falling : data (22 + 2 * j) &&& 0xFF00 ≠ 0
  · rw [if_pos falling, direction_eq_falling_iff]
    exact (iff_true_right falling).symm
  · rw [if_neg falling, direction_eq_rising_iff]
    exact (iff_false_right falling).symm

/-- One comparison of neighbouring alarms, for any mark of mixed directions. -/
theorem checkDirection_marks
    {fallingCode mixedCode orderCode ok : UInt8}
    {mixed : Prop}
    (gas : UInt8)
    (alarm next : AlarmStruct D)
    (fallingSoft : 19 ≤ fallingCode)
    (orderSoft : 19 ≤ orderCode)
    (mixedMarks : Marks mixed ok mixedCode) :
    Marks
      ((direction alarm = tripFalling ∧ gas ≠ gasO2) ∨
        (direction alarm ≠ direction next ∧ mixed) ∨
          (direction alarm = direction next ∧
            ¬ ((direction alarm = tripRising ∧ lt alarm.onLevel next.onLevel) ∨
              (direction alarm = tripFalling ∧ lt next.onLevel alarm.onLevel))))
      ok (checkDirection gas alarm next fallingCode mixedCode orderCode ok) := by
  unfold checkDirection
  by_cases falling : direction alarm = tripFalling ∧ gas ≠ gasO2
  · rw [if_pos falling]
    exact ⟨fun _ => fallingSoft, fun quiet => absurd (Or.inl falling) quiet⟩
  rw [if_neg falling]
  by_cases differ : direction alarm ≠ direction next
  · rw [if_pos differ]
    apply mixedMarks.congr
    tauto
  rw [if_neg differ]
  have same : direction alarm = direction next := not_not.mp differ
  by_cases rising : direction alarm = tripRising ∧ lt alarm.onLevel next.onLevel
  · rw [if_pos rising]
    refine (Marks.refl ok).congr ?_
    tauto
  rw [if_neg rising]
  by_cases fallingOrder : direction alarm = tripFalling ∧ lt next.onLevel alarm.onLevel
  · rw [if_pos fallingOrder]
    refine (Marks.refl ok).congr ?_
    tauto
  rw [if_neg fallingOrder]
  exact ⟨fun _ => orderSoft, fun quiet => absurd
    (Or.inr (Or.inr ⟨same, not_or.mpr ⟨rising, fallingOrder⟩⟩)) quiet⟩

theorem checkDirections_marks
    (settled : ∀ i, i < 3 →
      FixedArray.read draft.alarmStgn (alarm1 + i) = settledAlarm data len config i)
    (gasRead : draft.settings.gas = (data 2).toUInt8) :
    Marks (DirectionCheckFails data D) draft.ok (checkDirections draft).ok := by
  have first : FixedArray.read draft.alarmStgn alarm1 = _ := settled 0 (by decide)
  have second : FixedArray.read draft.alarmStgn alarm2 = _ := settled 1 (by decide)
  have third : FixedArray.read draft.alarmStgn alarm3 = _ := settled 2 (by decide)
  simp only [checkDirections, first, second, third, gasRead]
  refine (((checkDirection_marks _ _ _ (by decide) (by decide) (Marks.refl _)).trans
    (checkDirection_marks _ _ _ (by decide) (by decide) (Marks.always _ (by decide)))).trans
      (Marks.flag _ (by decide))).congr ?_
  simp only [direction_eq_falling_iff, direction_eq_rising_iff, direction_eq_iff, ne_eq,
    onLevel_settledAlarm, DirectionCheckFails]
  refine Iff.trans or_assoc (or_congr (or_congr Iff.rfl ?_) (or_congr ?_ Iff.rfl))
  · simp only [and_false, false_or, LevelsOrdered]
  · simp only [and_true, LevelsOrdered]
    by_cases same : TripsFalling data 1 ↔ TripsFalling data 2
    · simp [same]
    · simp [same]

/-! ## The whole package -/

variable (sensor : SensorStruct D)

theorem decodeSensorSettings_alrmThrshold :
    (decodeSensorSettings data len config sensor).alrmThrshold =
      FixedArray.writeAll (Vector.replicate 4 0) alarm1 [data 7, data 8, data 9] := rfl

theorem decodeSensorSettings_alarmStgn :
    (decodeSensorSettings data len config sensor).alarmStgn =
      updateAlarms
        (fun i alarm =>
          { alarm with
            onLevel := ofWord (FixedArray.read
              (FixedArray.writeAll (Vector.replicate 4 0) alarm1 [data 7, data 8, data 9])
              (alarm1 + i)) })
        (updateAlarms
          (fun i alarm =>
            { alarm with
              hysteresis := hysteresis data len config i
              configStatus :=
                setBitIf (TriggerTypeSet data len i) alrmTrgType alarm.configStatus })
          (updateAlarms (decodeAlarm data) (Vector.replicate 4 AlarmStruct.zero))) := rfl

/-- The scratch thresholds are words 7 to 9 of the package. -/
theorem read_packageThresholds
    (i : Nat)
    (inside : i < 3) :
    FixedArray.read
      (FixedArray.writeAll (Vector.replicate 4 0) alarm1 [data 7, data 8, data 9])
        (alarm1 + i) = data (7 + i) := by
  have fits : alarm1 + [data 7, data 8, data 9].length ≤ 4 := Nat.le_refl 4
  have covered : alarm1 ≤ alarm1 + i ∧
      alarm1 + i < alarm1 + [data 7, data 8, data 9].length := by
    simp only [List.length_cons, List.length_nil]
    omega
  rw [FixedArray.read_writeAll _ _ _ fits, if_pos covered, Nat.add_sub_cancel_left]
  rcases i with _ | _ | _ | i
  · rfl
  · rfl
  · rfl
  · omega

/-- The scratch alarms are the alarms of the package. -/
theorem decodeSensorSettings_alarm
    (i : Nat)
    (inside : i < 3) :
    FixedArray.read (decodeSensorSettings data len config sensor).alarmStgn
      (alarm1 + i) = settledAlarm data len config i := by
  have cleared : FixedArray.read
      (Vector.replicate 4 AlarmStruct.zero : Vector (AlarmStruct D) 4) (alarm1 + i) =
        AlarmStruct.zero := by
    have fits : alarm1 + i < 4 := by
      rw [alarm1]
      omega
    rw [FixedArray.read_eq_getElem _ _ fits, Vector.getElem_replicate]
  rw [decodeSensorSettings_alarmStgn, read_updateAlarms _ _ i inside,
    read_updateAlarms _ _ i inside, read_updateAlarms _ _ i inside, cleared,
    read_packageThresholds data i inside]
  rfl

/-- Marks of the decoding half. -/
theorem decodeFields_marks :
    Marks (FieldCheckFails data len) (hardCode data)
      (decodeFields data len config sensor).ok := by
  let identity := decodeIdentity data len (SensorDraft.start sensor)
  let gas := decodeAppliedGas data identity
  let infrared := decodeInfrared data (decodeThresholds data gas)
  let intervals := decodeIntervals data (decodeAlarms data (decodeNumbers data infrared))
  let vocGas := decodeVocGas data (decodeCoefficients data intervals)
  let hysteresis := decodeHysteresis data len vocGas config
  let supply := decodeSupply data len (decodeLelValues data len hysteresis)
  have gasMarks : Marks _ identity.ok gas.ok := decodeAppliedGas_marks data identity
  have infraredMarks : Marks _ gas.ok infrared.ok :=
    decodeInfrared_marks data (decodeThresholds data gas)
  have intervalMarks : Marks _ infrared.ok intervals.ok :=
    decodeIntervals_marks data (decodeAlarms data (decodeNumbers data infrared))
  have vocGasMarks : Marks _ intervals.ok vocGas.ok :=
    decodeVocGas_marks data (decodeCoefficients data intervals)
  have hysteresisMarks : Marks _ vocGas.ok hysteresis.ok :=
    decodeHysteresis_marks data len config vocGas
  have supplyMarks : Marks _ hysteresis.ok supply.ok :=
    decodeSupply_marks data len (decodeLelValues data len hysteresis)
  exact gasMarks.trans (infraredMarks.trans (intervalMarks.trans
    (vocGasMarks.trans (hysteresisMarks.trans supplyMarks))))

/-- A value with a legal default fails its check only where it is present. -/
private theorem withDefault_fails_iff
    (fails : α → Prop)
    (threshold : UInt8)
    (value default : α)
    (legal : ¬ fails default) :
    fails (if threshold ≤ len then value else default) ↔
      threshold ≤ len ∧ fails value := by
  by_cases present : threshold ≤ len
  · simp [present]
  · simp [present, legal]

/-- Marks of the checking half. -/
theorem checkDraft_marks :
    Marks
      (TimeCheckFails data len D ∨ OnLevelCheckFails data len config D ∨
        DirectionCheckFails data D ∨ checkSensorType (data 1) = 0)
      (decodeFields data len config sensor).ok
      (checkDraft (decodeFields data len config sensor)).ok := by
  let fields := decodeFields data len config sensor
  let levels := checkOnLevels (checkTimes fields)
  have settled (i : Nat) (inside : i < 3) :
      FixedArray.read levels.alarmStgn (alarm1 + i) = settledAlarm data len config i :=
    decodeSensorSettings_alarm data len config sensor i inside
  have times : Marks _ fields.ok (checkTimes fields).ok := checkTimes_marks fields
  have onLevels : Marks _ (checkTimes fields).ok levels.ok :=
    checkOnLevels_marks (checkTimes fields)
  have directions : Marks _ levels.ok (checkDirections levels).ok :=
    checkDirections_marks data len config levels settled rfl
  have type : Marks _ (checkDirections levels).ok (checkDraft fields).ok :=
    recheckType_marks (checkDirections levels)
  have warmUp := withDefault_fails_iff len
    (fun time => time < minWarmUpTime ∨ maxWarmUpTime < time) 68 (data 66).toUInt8
    minWarmUpTime (by decide)
  have spanTime := withDefault_fails_iff len CalibrationTimeFails 71 (data 69)
    minCalibrationTime (by decide)
  have zeroTime := withDefault_fails_iff len CalibrationTimeFails 71 (data 70)
    minCalibrationTime (by decide)
  have level (i : Nat) (inside : i < 3) :
      (FixedArray.read (checkTimes fields).alarmStgn (alarm1 + i)).hysteresis =
        hysteresis data len config i := by
    have kept := congrArg AlarmStruct.hysteresis
      (read_updateAlarms
        (fun i alarm =>
          { alarm with
            onLevel := ofWord (FixedArray.read (checkTimes fields).alrmThrshold
              (alarm1 + i)) })
        (checkTimes fields).alarmStgn i inside)
    rw [← kept]
    exact congrArg AlarmStruct.hysteresis (settled i inside)
  refine (times.trans (onLevels.trans (directions.trans type))).congr ?_
  refine or_congr ?_ (or_congr ?_ Iff.rfl)
  · refine (or_congr (or_congr (or_congr warmUp Iff.rfl) Iff.rfl)
      (or_congr spanTime zeroTime)).trans ?_
    rw [← and_or_left, or_assoc, or_assoc]
    exact or_congr Iff.rfl or_assoc.symm
  · refine exists_congr fun i => and_congr_right fun inside => ?_
    rw [level i inside]
    exact iff_of_eq (congrArg _ (congrArg ofWord (read_packageThresholds data i inside)))

/-- Marks of the whole package. -/
theorem decodeSensorSettings_marks :
    Marks (SoftCheckFails data len config D) (hardCode data)
      (checkDraft (decodeFields data len config sensor)).ok :=
  (decodeFields_marks data len config sensor).trans
    (checkDraft_marks data len config sensor)

/-- The identity checks leave a rejecting code exactly where one fails. -/
theorem hardFailure_hardCode : hardFailure (hardCode data) = hardCode data := by
  simp only [hardCode, flag]
  split
  · decide
  split
  · decide
  split
  · decide
  split <;> decide

theorem hardCode_eq_zero_iff : hardCode data = 0 ↔ HardChecksPass data := by
  unfold HardChecksPass hardCode flag
  simp only [← UInt8.not_lt]
  split
  · rename_i unit
    exact iff_of_false (by decide) (by tauto)
  split
  · rename_i gas
    exact iff_of_false (by decide) (by tauto)
  split
  · rename_i type
    exact iff_of_false (by decide) (by tauto)
  split
  · rename_i model
    exact iff_of_false (by decide) (by tauto)
  · exact iff_of_true rfl (by tauto)

theorem hardFailure_of_soft
    {ok : UInt8}
    (soft : 19 ≤ ok) :
    hardFailure ok = 0 := by
  unfold hardFailure
  have notTwo : ok ≠ 2 := by
    rintro rfl
    exact absurd soft (by decide)
  have notThree : ok ≠ 3 := by
    rintro rfl
    exact absurd soft (by decide)
  have notFour : ok ≠ 4 := by
    rintro rfl
    exact absurd soft (by decide)
  have notFive : ok ≠ 5 := by
    rintro rfl
    exact absurd soft (by decide)
  split <;> simp_all

/-- A package is accepted when its identity passes or a later check fires. -/
theorem decodeSensorSettings_accepts_iff :
    (decodeSensorSettings data len config sensor).ok = 0 ↔
      HardChecksPass data ∨ SoftCheckFails data len config D := by
  have marks := decodeSensorSettings_marks data len config sensor
  change hardFailure (checkDraft (decodeFields data len config sensor)).ok = 0 ↔ _
  by_cases soft : SoftCheckFails data len config D
  · exact iff_of_true (hardFailure_of_soft (marks.marked soft)) (Or.inr soft)
  · rw [marks.kept soft, hardFailure_hardCode, hardCode_eq_zero_iff]
    simp [soft]

end

end SensorFirmware
