import SensorFirmware.Modbus.SaveRequests
import SensorFirmware.Modbus.SensorCommit

/-!
# Arguments behind the length

The groups of optional fields in a sensor package are guarded by its length.  Two
of the guards let the decoder read argument words that were not sent: those
registers keep what an earlier request left there.
-/

namespace SensorFirmware

open BigEndian DoubleArith

/-- Two argument arrays agree on the first `len` words. -/
def AgreeBelow (len : UInt8) (left right : Nat → UInt16) : Prop :=
  ∀ i, i < len.toNat → left i = right i

/-- An optional group is present although one of its words lies behind the
length. -/
def ReadsBeyond (data : Nat → UInt16) (len : UInt8) : Prop :=
  len = 57 ∨ len = 59 ∨ len = 60 ∨
    (len = 61 ∧
      (checkSensorType (data 1) = catalyticSensor ∨ checkSensorType (data 1) = pidSensor)) ∨
    (len = 62 ∧ checkSensorType (data 1) = pidSensor)

instance (data : Nat → UInt16) (len : UInt8) : Decidable (ReadsBeyond data len) :=
  inferInstanceAs (Decidable (_ ∨ _))

/-- A word that a guard covers is sent. -/
theorem AgreeBelow.at_word
    {len bound : UInt8}
    {left right : Nat → UInt16}
    (agree : AgreeBelow len left right)
    (present : bound ≤ len)
    (i : Nat)
    (inside : i < bound.toNat) :
    left i = right i :=
  agree i (Nat.lt_of_lt_of_le inside (UInt8.le_iff_toNat_le.mp present))

/-- So is every word of a package that is long enough. -/
theorem AgreeBelow.at_fixed
    {len : UInt8}
    {left right : Nat → UInt16}
    (agree : AgreeBelow len left right)
    (long : 56 ≤ len)
    (i : Nat)
    (inside : i < 56) :
    left i = right i :=
  agree.at_word long i inside

/-! ## Sections that stay below the length -/

section

variable {D : Type} {data other : Nat → UInt16} {len : UInt8}
variable (agree : AgreeBelow len other data) (draft : SensorDraft D)

include agree

theorem factor_congr : factor other len = factor data len := by
  unfold factor
  by_cases present : 64 ≤ len
  · rw [agree.at_word present 63 (by decide)]
  · simp only [present, false_and, if_false]

theorem decodeSupply_congr : decodeSupply other len draft = decodeSupply data len draft := by
  have voltage (present : 65 ≤ len) := agree.at_word present 64 (by decide)
  have tick (present : 66 ≤ len) := agree.at_word present 65 (by decide)
  simp only [decodeSupply]
  grind

theorem decodeTimes_congr [DoubleArith D] :
    decodeTimes other len draft = decodeTimes data len draft := by
  have warmUp (present : 68 ≤ len) := agree.at_word present 66 (by decide)
  have highest (present : 68 ≤ len) := agree.at_word present 67 (by decide)
  have lowest (present : 69 ≤ len) := agree.at_word present 68 (by decide)
  have span (present : 71 ≤ len) := agree.at_word present 69 (by decide)
  have zero (present : 71 ≤ len) := agree.at_word present 70 (by decide)
  simp only [decodeTimes]
  grind

variable (long : 56 ≤ len)

include long

theorem decodeIdentity_congr [DoubleArith D] :
    decodeIdentity other len draft = decodeIdentity data len draft := by
  have word (i : Nat) (inside : i < 56) := agree.at_fixed long i inside
  simp only [decodeIdentity, factor_congr agree, word 0 (by decide), word 1 (by decide),
    word 2 (by decide), word 3 (by decide), word 4 (by decide), word 33 (by decide)]

theorem decodeAppliedGas_congr :
    decodeAppliedGas other draft = decodeAppliedGas data draft := by
  simp only [decodeAppliedGas, agree.at_fixed long 6 (by decide)]

theorem decodeThresholds_congr :
    decodeThresholds other draft = decodeThresholds data draft := by
  simp only [decodeThresholds, agree.at_fixed long 7 (by decide),
    agree.at_fixed long 8 (by decide), agree.at_fixed long 9 (by decide)]

theorem decodeInfrared_congr :
    decodeInfrared other draft = decodeInfrared data draft := by
  simp only [decodeInfrared, agree.at_fixed long 10 (by decide),
    agree.at_fixed long 11 (by decide), agree.at_fixed long 12 (by decide)]

theorem decodeNumbers_congr :
    decodeNumbers other draft = decodeNumbers data draft := by
  have words (start : Nat) (inside : start < 52) (i : Nat) (few : i < 4) :
      other (start + i) = data (start + i) :=
    agree.at_fixed long (start + i) (by omega)
  simp only [decodeNumbers, storeWords_congr (words 13 (by decide)),
    storeWords_congr (words 17 (by decide))]

theorem decodeAlarms_congr [DoubleArith D] :
    decodeAlarms other draft = decodeAlarms data draft := by
  simp only [decodeAlarms, updateAlarms]
  refine congrArg (fun alarms => { draft with alarmStgn := alarms })
    (countedLoop_congr (fun i inside => ?_) draft.alarmStgn)
  have status := agree.at_fixed long (21 + 2 * i) (by omega)
  have delay := agree.at_fixed long (22 + 2 * i) (by omega)
  simp only [decodeAlarm, status, delay]

theorem decodeIntervals_congr :
    decodeIntervals other draft = decodeIntervals data draft := by
  simp only [decodeIntervals, agree.at_fixed long 27 (by decide),
    agree.at_fixed long 34 (by decide)]

theorem decodeCoefficients_congr [DoubleArith D] :
    decodeCoefficients other draft = decodeCoefficients data draft := by
  have word (i : Nat) (inside : i < 56) := agree.at_fixed long i inside
  simp only [decodeCoefficients, word 36 (by decide), word 37 (by decide), word 38 (by decide),
    word 39 (by decide), word 40 (by decide), word 41 (by decide), word 42 (by decide),
    word 43 (by decide), word 44 (by decide), word 45 (by decide), word 46 (by decide),
    word 47 (by decide), word 48 (by decide), word 49 (by decide), word 50 (by decide),
    word 51 (by decide)]

theorem decodeVocGas_congr :
    decodeVocGas other draft = decodeVocGas data draft := by
  simp only [decodeVocGas, agree.at_fixed long 52 (by decide)]

/-! ## Sections that read beyond it -/

theorem hysteresis_congr (config : SettingsStruct) (i : Nat) (inside : i < 3) :
    hysteresis other len config i = hysteresis data len config i := by
  have level := agree.at_fixed long (53 + i) (by omega)
  simp only [hysteresis, level]

omit long in
/-- The trigger type of the third alarm is sent from 58 words on. -/
theorem triggerTypeSet_congr
    (sent : len ≠ 57)
    (i : Nat) :
    TriggerTypeSet other len i ↔ TriggerTypeSet data len i := by
  have different : len.toNat ≠ 57 := fun same => sent (UInt8.toNat.inj same)
  have first (present : 57 ≤ len) := agree.at_word present 56 (by decide)
  have third (present : 57 ≤ len) : other 57 = data 57 := by
    have lower : 57 ≤ len.toNat := UInt8.le_iff_toNat_le.mp present
    exact agree 57 (by omega)
  simp only [TriggerTypeSet]
  grind

theorem decodeHysteresis_congr [DoubleArith D]
    (sent : len ≠ 57)
    (config : SettingsStruct) :
    decodeHysteresis other len draft config = decodeHysteresis data len draft config := by
  have trigger (i : Nat) := triggerTypeSet_congr agree sent i
  have level (i : Nat) (inside : i < 3) := hysteresis_congr agree long config i inside
  have alarms : updateAlarms
      (fun i (alarm : AlarmStruct D) =>
        { alarm with
          hysteresis := hysteresis other len config i
          configStatus :=
            setBitIf (TriggerTypeSet other len i) alrmTrgType alarm.configStatus })
      draft.alarmStgn =
        updateAlarms
          (fun i alarm =>
            { alarm with
              hysteresis := hysteresis data len config i
              configStatus :=
                setBitIf (TriggerTypeSet data len i) alrmTrgType alarm.configStatus })
          draft.alarmStgn := by
    refine countedLoop_congr (fun i inside => ?_) draft.alarmStgn
    simp only [trigger i, level i inside]
  simp only [decodeHysteresis, alarms, agree.at_fixed long 53 (by decide),
    agree.at_fixed long 54 (by decide), agree.at_fixed long 55 (by decide)]

omit long in
/-- The explosion limits and sensitivities are sent when no group is cut. -/
theorem decodeLelValues_congr [DoubleArith D]
    (within : ¬ ReadsBeyond data len)
    (type : draft.settings.type = checkSensorType (data 1)) :
    decodeLelValues other len draft = decodeLelValues data len draft := by
  simp only [ReadsBeyond, not_or, not_and, ← UInt8.toNat_inj, ← type] at within
  obtain ⟨_, not59, not60, not61, not62⟩ := within
  change len.toNat ≠ 59 at not59
  change len.toNat ≠ 60 at not60
  change len.toNat = 61 → _ at not61
  change len.toNat = 62 → _ at not62
  have limit (present : 59 ≤ len) : other 58 = data 58 ∧ other 60 = data 60 := by
    have lower : 59 ≤ len.toNat := UInt8.le_iff_toNat_le.mp present
    exact ⟨agree 58 (by omega), agree 60 (by omega)⟩
  have catalytic (present : 59 ≤ len) (kind : draft.settings.type = catalyticSensor) :
      other 59 = data 59 ∧ other 61 = data 61 := by
    have lower : 59 ≤ len.toNat := UInt8.le_iff_toNat_le.mp present
    have not61 : len.toNat ≠ 61 := fun same => (not61 same).1 kind
    exact ⟨agree 59 (by omega), agree 61 (by omega)⟩
  have pid (present : 59 ≤ len) (kind : draft.settings.type = pidSensor) :
      other 62 = data 62 := by
    have lower : 59 ≤ len.toNat := UInt8.le_iff_toNat_le.mp present
    have not61 : len.toNat ≠ 61 := fun same => (not61 same).2 kind
    have not62 : len.toNat ≠ 62 := fun same => not62 same kind
    exact agree 62 (by omega)
  simp only [decodeLelValues]
  grind

/-- The whole package decodes alike when no group is cut. -/
theorem decodeSensorSettings_congr [DoubleArith D]
    (within : ¬ ReadsBeyond data len)
    (config : SettingsStruct)
    (sensor : SensorStruct D) :
    decodeSensorSettings other len config sensor =
      decodeSensorSettings data len config sensor := by
  have sent : len ≠ 57 := fun cut => within (Or.inl cut)
  simp only [decodeSensorSettings, decodeFields]
  rw [decodeIdentity_congr agree _ long, decodeAppliedGas_congr agree _ long,
    decodeThresholds_congr agree _ long, decodeInfrared_congr agree _ long,
    decodeNumbers_congr agree _ long, decodeAlarms_congr agree _ long,
    decodeIntervals_congr agree _ long, decodeCoefficients_congr agree _ long,
    decodeVocGas_congr agree _ long, decodeHysteresis_congr agree _ long sent,
    decodeLelValues_congr agree _ within rfl, decodeSupply_congr agree,
    decodeTimes_congr agree]

/-! ## Acceptance -/

theorem hardChecksPass_congr : HardChecksPass other ↔ HardChecksPass data := by
  have word (i : Nat) (inside : i < 56) := agree.at_fixed long i inside
  simp only [HardChecksPass, word 0 (by decide), word 1 (by decide), word 2 (by decide),
    word 3 (by decide)]

theorem fieldCheckFails_congr : FieldCheckFails other len ↔ FieldCheckFails data len := by
  have word (i : Nat) (inside : i < 56) := agree.at_fixed long i inside
  have voltage (present : 65 ≤ len) := agree.at_word present 64 (by decide)
  have tick (present : 66 ≤ len) := agree.at_word present 65 (by decide)
  simp only [FieldCheckFails, word 1 (by decide), word 2 (by decide), word 6 (by decide),
    word 10 (by decide), word 11 (by decide), word 12 (by decide), word 27 (by decide),
    word 34 (by decide), word 52 (by decide), word 53 (by decide), word 54 (by decide),
    word 55 (by decide)]
  grind

omit long in
theorem timeCheckFails_congr (D : Type) [DoubleArith D] :
    TimeCheckFails other len D ↔ TimeCheckFails data len D := by
  have warmUp (present : 68 ≤ len) := agree.at_word present 66 (by decide)
  have highest (present : 68 ≤ len) := agree.at_word present 67 (by decide)
  have lowest (present : 69 ≤ len) := agree.at_word present 68 (by decide)
  have span (present : 71 ≤ len) := agree.at_word present 69 (by decide)
  have zero (present : 71 ≤ len) := agree.at_word present 70 (by decide)
  simp only [TimeCheckFails, TemperatureCheckFails]
  grind

theorem softCheckFails_congr (config : SettingsStruct) (D : Type) [DoubleArith D] :
    SoftCheckFails other len config D ↔ SoftCheckFails data len config D := by
  have word (i : Nat) (inside : i < 56) := agree.at_fixed long i inside
  have falling (i : Nat) (inside : i < 3) : TripsFalling other i ↔
      TripsFalling data i := by
    rw [TripsFalling, TripsFalling, word (22 + 2 * i) (by omega)]
  have levels : OnLevelCheckFails other len config D ↔
      OnLevelCheckFails data len config D := by
    refine exists_congr fun i => and_congr_right fun inside => ?_
    rw [hysteresis_congr agree long config i inside, factor_congr agree,
      word 4 (by decide), word (7 + i) (by omega)]
  have directions : DirectionCheckFails other D ↔ DirectionCheckFails data D := by
    simp only [DirectionCheckFails, LevelsOrdered, falling 0 (by decide),
      falling 1 (by decide), falling 2 (by decide), word 2 (by decide),
      word (7 + 0) (by decide), word (8 + 0) (by decide), word (8 + 1) (by decide)]
  rw [SoftCheckFails, SoftCheckFails, fieldCheckFails_congr agree long,
    timeCheckFails_congr agree D, levels, directions, word 1 (by decide)]

end

namespace Device

variable [DoubleArith D] (dev : Device D) (data : Nat → UInt16) (len : UInt8)

/-- The result and the settings behind the handler are the same for every array
with the same words below the length. -/
def IgnoresTail : Prop :=
  ∀ other, AgreeBelow len other data →
    (dev.saveSensorSettings (some other) len).1 =
        (dev.saveSensorSettings (some data) len).1 ∧
      (dev.saveSensorSettings (some other) len).2.settings =
        (dev.saveSensorSettings (some data) len).2.settings

variable {dev data len}

/-- Packages that decode alike leave the same settings. -/
theorem saveSensorSettings_congr
    {other : Nat → UInt16}
    (long : ¬ len < 56)
    (agree : AgreeBelow len other data)
    (decoded : decodeSensorSettings other len dev.deviceConfig dev.sensor =
      decodeSensorSettings data len dev.deviceConfig dev.sensor) :
    dev.saveSensorSettings (some other) len = dev.saveSensorSettings (some data) len := by
  have protect := agree.at_fixed (UInt8.not_lt.mp long) 35 (by decide)
  simp only [saveSensorSettings, if_neg long, decoded, protect]

/-- Agreeing packages are accepted together. -/
theorem accepted_congr
    {other : Nat → UInt16}
    (agree : AgreeBelow len other data) :
    (dev.saveSensorSettings (some other) len).1 ≠ 0 ↔
      (dev.saveSensorSettings (some data) len).1 ≠ 0 := by
  rw [saveSensorSettings_accepts_iff, saveSensorSettings_accepts_iff]
  refine and_congr_right fun long => ?_
  rw [hardChecksPass_congr agree long, softCheckFails_congr agree long]

/-- Nothing is committed of a rejected package. -/
theorem saveSensorSettings_settings_of_rejected
    (rejected : ¬ (dev.saveSensorSettings (some data) len).1 ≠ 0) :
    (dev.saveSensorSettings (some data) len).2.settings = dev.settings := by
  have kept := saveSensorSettings_rejected dev data len rejected
  have flags := (dev.saveSensorSettings_flags data len).1 (not_not.mp rejected)
  simp only [settings, kept.1, kept.2, flags.1, flags.2]

/-- A rejected package is rejected with every tail. -/
theorem ignoresTail_of_rejected
    (rejected : ¬ (dev.saveSensorSettings (some data) len).1 ≠ 0) :
    IgnoresTail dev data len := by
  intro other agree
  have alsoRejected := (accepted_congr agree).not.mpr rejected
  rw [saveSensorSettings_settings_of_rejected rejected,
    saveSensorSettings_settings_of_rejected alsoRejected, not_not.mp rejected,
    not_not.mp alsoRejected]
  exact ⟨rfl, rfl⟩

/-- A package whose groups are whole is decoded without its tail. -/
theorem ignoresTail_of_whole
    (within : ¬ ReadsBeyond data len) :
    IgnoresTail dev data len := by
  by_cases short : len < 56
  · intro other _
    simp only [saveSensorSettings, if_pos short, and_self]
  · intro other agree
    have decoded := decodeSensorSettings_congr agree (UInt8.not_lt.mp short) within
      dev.deviceConfig dev.sensor
    rw [saveSensorSettings_congr short agree decoded]
    exact ⟨rfl, rfl⟩

/-! ## Groups that are cut -/

/-- The package with another word behind its length. -/
theorem agreeBelow_update
    {index : Nat}
    (beyond : len.toNat ≤ index)
    (word : UInt16) :
    AgreeBelow len (Function.update data index word) data := by
  intro i inside
  have different : i ≠ index := by omega
  exact Function.update_of_ne different word data

/-- A field that copies a word behind the length tells two tails apart. -/
theorem not_ignoresTail_of_copies
    {index : Nat}
    (observe : SettingsState D → β)
    (copied : UInt16 → β)
    (low high : UInt16)
    (accepted : (dev.saveSensorSettings (some data) len).1 ≠ 0)
    (beyond : len.toNat ≤ index)
    (copies : ∀ words, (dev.saveSensorSettings (some words) len).1 ≠ 0 →
      AgreeBelow len words data →
        observe (dev.saveSensorSettings (some words) len).2.settings = copied (words index))
    (differ : copied low ≠ copied high) :
    ¬ IgnoresTail dev data len := by
  intro ignores
  have written (word : UInt16) :
      copied word = observe (dev.saveSensorSettings (some data) len).2.settings := by
    have agree : AgreeBelow len (Function.update data index word) data :=
      agreeBelow_update beyond word
    have copy := copies _ ((accepted_congr agree).mpr accepted) agree
    rw [(ignores _ agree).2, Function.update_self] at copy
    exact copy.symm
  exact differ ((written low).trans (written high).symm)

/-- The trigger type that an accepted package leaves to the third alarm. -/
theorem saveSensorSettings_triggerType
    (accepted : (dev.saveSensorSettings (some data) len).1 ≠ 0)
    (present : 57 ≤ len) :
    FixedArray.read
        (dev.saveSensorSettings (some data) len).2.deviceConfig.alarmSettings 2 &&&
      alrmTrgType ≠ 0 ↔ data 57 &&& 0xFF00 ≠ 0 := by
  rw [(saveSensorSettings_alarms dev data len accepted 2 (by decide)).2.1]
  exact (alarmBits_and _ _ _ _).2.2.2.trans (and_iff_right present)

/-- The explosion limit and sensitivities that an accepted package leaves. -/
theorem saveSensorSettings_lelValues
    (accepted : (dev.saveSensorSettings (some data) len).1 ≠ 0)
    (present : 59 ≤ len) :
    let sensor := (dev.saveSensorSettings (some data) len).2.sensor
    sensor.calibration.apliedGasLelValue = div (ofWord (data 60)) (ofInt 100) ∧
      (checkSensorType (data 1) = catalyticSensor →
        sensor.calibration.apliedGasRelSens = div (ofWord (data 61)) (ofInt 100)) ∧
      (checkSensorType (data 1) = pidSensor →
        sensor.relativeSensitivity = div (ofWord (data 62)) (ofInt 100)) := by
  rw [(saveSensorSettings_accepted dev data len accepted).2]
  refine ⟨if_pos present, fun catalytic => if_pos ⟨present, catalytic⟩, fun pid => ?_⟩
  have notCatalytic : ¬ (59 ≤ len ∧ checkSensorType (data 1) = catalyticSensor) := by
    rw [pid]
    exact fun both => absurd both.2 (by decide)
  exact (if_neg notCatalytic).trans (if_pos ⟨present, pid⟩)

/-- An accepted package with a cut group does not ignore its tail. -/
theorem not_ignoresTail_of_cut
    (separates : (div (ofWord 0) (ofInt 100) : D) ≠ div (ofWord 1) (ofInt 100))
    (accepted : (dev.saveSensorSettings (some data) len).1 ≠ 0)
    (cut : ReadsBeyond data len) :
    ¬ IgnoresTail dev data len := by
  let hundredth (word : UInt16) : D := div (ofWord word) (ofInt 100)
  have limit (present : 59 ≤ len) (beyond : len.toNat ≤ 60) :
      ¬ IgnoresTail dev data len :=
    not_ignoresTail_of_copies
      (fun settings => settings.sensor.calibration.apliedGasLelValue) hundredth 0 1
      accepted beyond
      (fun _ alsoAccepted _ => (saveSensorSettings_lelValues alsoAccepted present).1)
      separates
  have type {words : Nat → UInt16} (present : 59 ≤ len) (agree : AgreeBelow len words data) :
      words 1 = data 1 :=
    agree.at_word present 1 (by decide)
  have catalytic (present : 59 ≤ len) (beyond : len.toNat ≤ 61)
      (kind : checkSensorType (data 1) = catalyticSensor) : ¬ IgnoresTail dev data len :=
    not_ignoresTail_of_copies
      (fun settings => settings.sensor.calibration.apliedGasRelSens) hundredth 0 1
      accepted beyond
      (fun _ alsoAccepted agree =>
        (saveSensorSettings_lelValues alsoAccepted present).2.1
          (by rw [type present agree, kind]))
      separates
  have pid (present : 59 ≤ len) (beyond : len.toNat ≤ 62)
      (kind : checkSensorType (data 1) = pidSensor) : ¬ IgnoresTail dev data len :=
    not_ignoresTail_of_copies
      (fun settings => settings.sensor.relativeSensitivity) hundredth 0 1
      accepted beyond
      (fun _ alsoAccepted agree =>
        (saveSensorSettings_lelValues alsoAccepted present).2.2
          (by rw [type present agree, kind]))
      separates
  rcases cut with rfl | rfl | rfl | ⟨rfl, kind | kind⟩ | ⟨rfl, kind⟩
  · exact not_ignoresTail_of_copies
      (fun settings =>
        FixedArray.read settings.deviceConfig.alarmSettings 2 &&& alrmTrgType ≠ 0)
      (fun word => word &&& 0xFF00 ≠ 0) 0 0xFF00 accepted (by decide)
      (fun _ alsoAccepted _ =>
        propext (saveSensorSettings_triggerType alsoAccepted (by decide)))
      (by decide)
  · exact limit (by decide) (by decide)
  · exact limit (by decide) (by decide)
  · exact catalytic (by decide) (by decide) kind
  · exact pid (by decide) (by decide) kind
  · exact pid (by decide) (by decide) kind

variable (dev data len)

/-- The handler ignores the words behind the length exactly when no group of an
accepted package is cut. -/
theorem saveSensorSettings_ignoresTail_iff
    (separates : (div (ofWord 0) (ofInt 100) : D) ≠ div (ofWord 1) (ofInt 100)) :
    IgnoresTail dev data len ↔
      (ReadsBeyond data len →
        ¬ (HardChecksPass data ∨ SoftCheckFails data len dev.deviceConfig D)) := by
  constructor
  · intro ignores cut passes
    have long : 56 ≤ len := by
      rcases cut with rfl | rfl | rfl | ⟨rfl, _⟩ | ⟨rfl, _⟩ <;> decide
    have accepted := (saveSensorSettings_accepts_iff dev data len).mpr ⟨long, passes⟩
    exact not_ignoresTail_of_cut separates accepted cut ignores
  · intro condition
    by_cases cut : ReadsBeyond data len
    · refine ignoresTail_of_rejected fun accepted => condition cut ?_
      exact ((saveSensorSettings_accepts_iff dev data len).mp accepted).2
    · exact ignoresTail_of_whole cut

/-- A package for oxygen, with a given trigger type of the third alarm. -/
def triggerPackage (trigger index : Nat) : UInt16 :=
  if index = 2 then 65
  else if index = 57 then UInt16.ofNat trigger
  else 2

theorem saveSensorSettings_ignoresTail_iff_triggerPackage :
    IgnoresTail (firstBoot BuildInfo.unitTest : Device ℚ) (triggerPackage 0) 57 ↔
      (ReadsBeyond (triggerPackage 0) 57 →
        ¬ (HardChecksPass (triggerPackage 0) ∨
          SoftCheckFails (triggerPackage 0) 57
            (firstBoot BuildInfo.unitTest : Device ℚ).deviceConfig ℚ)) :=
  saveSensorSettings_ignoresTail_iff _ _ _ (by decide +kernel)

/-- Two packages of 57 words that differ behind their length leave different
trigger types. -/
theorem saveSensorSettings_reads_triggerPackage :
    let dev : Device ℚ := firstBoot BuildInfo.unitTest
    AgreeBelow 57 (triggerPackage 0xFF00) (triggerPackage 0) ∧
      (dev.saveSensorSettings (some (triggerPackage 0xFF00)) 57).2.deviceConfig ≠
        (dev.saveSensorSettings (some (triggerPackage 0)) 57).2.deviceConfig := by
  intro dev
  have accepted (trigger : Nat) :
      (dev.saveSensorSettings (some (triggerPackage trigger)) 57).1 ≠ 0 := by
    have hard : HardChecksPass (triggerPackage trigger) :=
      show HardChecksPass (triggerPackage 0) by decide
    exact (saveSensorSettings_accepts_iff dev _ 57).mpr ⟨by decide, Or.inl hard⟩
  constructor
  · intro i inside
    have below : i ≠ 57 := Nat.ne_of_lt inside
    simp only [triggerPackage, if_neg below]
  · intro same
    have set := saveSensorSettings_triggerType (accepted 0xFF00) (by decide)
    have clear := saveSensorSettings_triggerType (accepted 0) (by decide)
    rw [same, clear] at set
    exact absurd set (by decide)

end Device

end SensorFirmware
