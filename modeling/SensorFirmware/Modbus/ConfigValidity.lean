import SensorFirmware.Modbus.Requests

/-!
# Valid configurations along a run

The settings commands and the boot-time check validate a configuration
independently of each other.  Each command that keeps the configuration valid
is characterized by its arguments, and a run keeps it valid exactly when all
its commands do.
-/

namespace SensorFirmware
namespace Device

/-- The configuration records pass the boot-time check. -/
def ConfigValid (dev : Device D) : Prop :=
  IsValidRuntimeConfig dev.deviceConfig dev.sensor

instance (dev : Device D) : Decidable dev.ConfigValid :=
  inferInstanceAs (Decidable (IsValidRuntimeConfig _ _))

/-- A decoded base package is valid exactly when its baud rate is supported. -/
theorem saveBaseSettings_valid_iff
    {dev : Device D}
    (data : Nat → UInt16)
    (len : UInt8)
    (valid : dev.ConfigValid)
    (long : 45 ≤ len) :
    (dev.saveBaseSettings (some data) len).2.ConfigValid ↔
      IsSupportedBaudrate (decodeBaudrate data) := by
  obtain ⟨ok, decoded⟩ := saveBaseSettings_deviceConfig dev data len long
  rw [ConfigValid, decoded, saveBaseSettings_sensor]
  constructor
  · intro after
    exact after.baudrate
  · intro supported
    refine
      { verifyKey := valid.verifyKey
        id := ?_
        baudrate := supported
        identity := valid.identity
        mulFactor := valid.mulFactor
        displayUnit := valid.displayUnit
        gas := valid.gas }
    by_cases idValid : BaseIdValid data
    · simp only [decodeBaseSettings, if_pos idValid, idValid.narrowed]
      rintro (zero | large)
      · exact absurd idValid.1 (by rw [zero]; decide)
      · exact absurd idValid.2 (UInt16.not_le.mpr large)
    · simp only [decodeBaseSettings, if_neg idValid]
      exact valid.id

variable [DoubleArith D]

/-- The arguments of the command in the registers agree with the boot-time check:
a base package that is long enough names a supported baud rate, and a sensor
package whose other checks hide the result of its identity checks passes these
as well. -/
def ArgumentsCompatible (D : Type) [DoubleArith D] (registers : Nat → UInt16)
    (config : SettingsStruct) (qty : UInt16) : Prop :=
  let data := argumentsIn registers
  (registers commandCode = setDetectorData → 45 ≤ commandLen qty →
      IsSupportedBaudrate (decodeBaudrate data)) ∧
    (registers commandCode = setSensorData → 56 ≤ commandLen qty →
      SoftCheckFails data (commandLen qty) config D → HardChecksPass data)

/-- An accepted sensor package is valid exactly when its identity passes. -/
theorem saveSensorSettings_valid_iff
    {dev : Device D}
    (data : Nat → UInt16)
    (len : UInt8)
    (valid : dev.ConfigValid)
    (accepted : (dev.saveSensorSettings (some data) len).1 ≠ 0) :
    (dev.saveSensorSettings (some data) len).2.ConfigValid ↔ HardChecksPass data := by
  obtain ⟨config, sensor⟩ := saveSensorSettings_accepted dev data len accepted
  rw [ConfigValid, config, sensor]
  constructor
  · intro after
    refine ⟨fun zero => after.identity (Or.inr zero),
      fun zero => after.identity (Or.inl zero), UInt8.not_lt.mp after.gas,
      UInt8.not_lt.mp fun small => after.displayUnit (Or.inl small),
      UInt8.not_lt.mp fun large => after.displayUnit (Or.inr large)⟩
  · rintro ⟨model, type, gas, unitLow, unitHigh⟩
    exact
      { verifyKey := valid.verifyKey
        id := valid.id
        baudrate := valid.baudrate
        identity := by
          rintro (zero | zero)
          · exact type zero
          · exact model zero
        mulFactor := by
          simp only [committedSettings]
          split
          · decide
          · assumption
        displayUnit := by
          rintro (small | large)
          · exact absurd unitLow (UInt8.not_le.mpr small)
          · exact absurd unitHigh (UInt8.not_le.mpr large)
        gas := UInt8.not_lt.mpr gas }

/-! ## One command and one frame -/

/-- A command keeps the configuration valid exactly when its arguments agree
with the boot-time check. -/
theorem handleCommand_valid_iff
    {dev : Device D}
    (qty : UInt16)
    (valid : dev.ConfigValid) :
    (dev.handleCommand qty).2.ConfigValid ↔
      ArgumentsCompatible D dev.holding dev.deviceConfig qty := by
  have different : setSensorData ≠ setDetectorData := by decide
  unfold ArgumentsCompatible
  rcases handleCommand_cases dev qty with
    ⟨code, handled⟩ | ⟨code, handled⟩ | ⟨code, handled⟩ | ⟨unknown, handled⟩
  · rw [handled, code]
    have accepts :=
      saveSensorSettings_accepts_iff dev dev.commandArgs (commandLen qty)
    by_cases accepted :
      (dev.saveSensorSettings (some dev.commandArgs) (commandLen qty)).1 ≠ 0
    · rw [saveSensorSettings_valid_iff _ _ valid accepted]
      obtain ⟨long, cause⟩ := accepts.mp accepted
      simp only [different, false_imp_iff, true_and, true_imp_iff, long, commandArgs]
      tauto
    · obtain ⟨config, sensor⟩ := saveSensorSettings_rejected dev _ _ accepted
      rw [ConfigValid, config, sensor]
      refine iff_of_true valid ⟨fun same => absurd same different, fun _ long soft => ?_⟩
      exact absurd (accepts.mpr ⟨long, Or.inr soft⟩) accepted
  · rw [handled, code]
    by_cases short : commandLen qty < 45
    · rw [saveBaseSettings_short _ _ _ short]
      refine iff_of_true valid ⟨fun _ long => ?_, fun same => absurd same.symm different⟩
      exact absurd long (UInt8.not_le.mpr short)
    · have long := UInt8.not_lt.mp short
      rw [saveBaseSettings_valid_iff _ _ valid long]
      simp only [different.symm, false_imp_iff, and_true, true_imp_iff, long, commandArgs]
  · rw [handled]
    refine iff_of_true valid ⟨fun same => ?_, fun same => ?_⟩
    · rw [same] at code
      exact absurd code (by decide)
    · rw [same] at code
      exact absurd code (by decide)
  · rw [handled]
    exact iff_of_true valid ⟨fun same => absurd same unknown.2.1,
      fun same => absurd same unknown.1⟩

/-- The command that a frame runs, if it runs one, has arguments that agree with
the boot-time check. -/
def FrameCompatible (dev : Device D) (frame : FrameItem) : Prop :=
  dev.RunsCommand frame →
    ArgumentsCompatible D (dev.requestWord frame) dev.deviceConfig frame.qty

/-- A frame keeps the configuration valid exactly when it is compatible. -/
theorem frameStep_valid_iff
    (dev : Device D)
    (frame : FrameItem)
    (valid : dev.ConfigValid) :
    (dev.frameStep frame).ConfigValid ↔ dev.FrameCompatible frame := by
  by_cases runs : dev.RunsCommand frame
  · have covered := runs.2.2.2.2
    have before : (dev.commandState frame).ConfigValid := by
      rw [ConfigValid, ignoresTraffic_deviceConfig.commandState,
        ignoresTraffic_sensor.commandState]
      exact valid
    rw [frameStep_runsCommand runs, ConfigValid,
      runCommand_project Device.deviceConfig (fun _ _ => rfl) covered,
      runCommand_project Device.sensor (fun _ _ => rfl) covered]
    have command := handleCommand_valid_iff frame.qty before
    rw [commandState_holding dev runs.2.2.2.1,
      ignoresTraffic_deviceConfig.commandState] at command
    exact command.trans
      ⟨fun compatible _ => compatible, fun compatible => compatible runs⟩
  · rw [ConfigValid, ignoresTraffic_deviceConfig.frameStep runs,
      ignoresTraffic_sensor.frameStep runs]
    exact iff_of_true valid fun ran => absurd ran runs

/-! ## Runs after a boot -/

variable (imageBytes : SettingsStruct → SensorStruct D → List UInt8)

/-- A booted device has a valid configuration. -/
theorem boot_valid
    (flashData : Option (FlashConfig D))
    (dev : Device D) :
    (boot imageBytes flashData dev).ConfigValid := by
  rw [ConfigValid, boot_deviceConfig, boot_sensor]
  exact loadOrDefaults_isValidRuntimeConfig imageBytes flashData

/-- After a boot, every state of a run has a valid configuration exactly when
all frames of the run are compatible; and a valid configuration, once saved, is
what the next boot loads. -/
theorem runFrames_valid_iff
    (flashData : Option (FlashConfig D))
    (dev : Device D)
    (frames : List FrameItem) :
    ((∀ reached ∈ Transition.visited frameStep (boot imageBytes flashData dev) frames,
        reached.ConfigValid) ↔
      Transition.AllSteps frameStep FrameCompatible (boot imageBytes flashData dev)
        frames) ∧
    (∀ reached ∈ Transition.visited frameStep (boot imageBytes flashData dev) frames,
      reached.ConfigValid →
        loadOrDefaults imageBytes
            (some (savedImage imageBytes reached.deviceConfig reached.sensor)) =
          (reached.deviceConfig, reached.sensor)) := by
  constructor
  · exact Transition.forall_visited_iff_allSteps ConfigValid frameStep_valid_iff
      (boot_valid imageBytes flashData dev) frames
  · intro reached _ valid
    exact loadOrDefaults_savedImage imageBytes valid

/-- Registers 0 to 46 of a base package with slave id 1 and baud rate 0. -/
def baudrateZeroPackage : List UInt16 := [0, setDetectorData, 1] ++ List.replicate 44 0

/-- After the first boot this package leaves an invalid configuration. -/
theorem frameStep_acceptsBaudrateZero :
    let dev : Device ℚ := firstBoot BuildInfo.unitTest
    let frame := writeMultipleRequest 1 0 baudrateZeroPackage
    dev.ConfigValid ∧ ¬ (dev.frameStep frame).ConfigValid := by
  intro dev frame
  have valid : dev.ConfigValid := boot_valid _ none _
  refine ⟨valid, ?_⟩
  have runs : dev.RunsCommand frame :=
    runsCommand_writeMultipleRequest (firstBoot_idValid _) (firstBoot_id _) 0
      baudrateZeroPackage (by decide) (by decide) (by decide)
  have register := requestWord_package dev 1 baudrateZeroPackage (by decide)
  rw [frameStep_valid_iff dev frame valid]
  intro compatible
  have qty : frame.qty = 47 :=
    UInt16.toNat.inj (writeMultipleRequest_qty 1 0 baudrateZeroPackage (by decide))
  have detector : dev.requestWord frame commandCode = setDetectorData :=
    register 1 (by decide)
  have supported := (compatible runs).1 detector (by rw [qty]; decide)
  have baudrate : decodeBaudrate (argumentsIn (dev.requestWord frame)) = 0 := by
    simp only [decodeBaudrate, argumentsIn, commandArg1]
    rw [register _ (by decide), register _ (by decide)]
    decide
  rw [baudrate] at supported
  exact absurd supported (by decide)

end Device

end SensorFirmware
