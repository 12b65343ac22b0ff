import SensorFirmware.Modbus.BaseRoundTrip
import SensorFirmware.Modbus.Processing
import SensorFirmware.Modbus.RequestLength
import SensorFirmware.Modbus.SensorCommit
import SensorFirmware.Modbus.Thresholds

/-!
# Requests for a flash save

Two flags ask the main loop to save the configuration.  A frame changes the
configuration through a command only, and a command that changes it raises a flag,
except for base settings with an illegal slave id.
-/

namespace SensorFirmware

/-- The records that a save writes, with the flags that ask for it. -/
structure SettingsState (D : Type) where
  deviceConfig : SettingsStruct
  sensor : SensorStruct D
  saveDevSettings : UInt8
  saveSensorInfo : UInt8

/-- One of the flags is up. -/
def SettingsState.SaveRequested (settings : SettingsState D) : Prop :=
  settings.saveDevSettings ≠ 0 ∨ settings.saveSensorInfo ≠ 0

instance (settings : SettingsState D) : Decidable settings.SaveRequested :=
  inferInstanceAs (Decidable (_ ∨ _))

namespace Device

/-- The part of the device that a save is about. -/
def settings (dev : Device D) : SettingsState D where
  deviceConfig := dev.deviceConfig
  sensor := dev.sensor
  saveDevSettings := dev.saveDevSettings
  saveSensorInfo := dev.saveSensorInfo

theorem ignoresTraffic_settings :
    IgnoresTraffic (settings : Device D → SettingsState D) :=
  ⟨fun _ _ => rfl, fun _ _ => rfl, fun _ _ => rfl, fun _ _ _ => rfl⟩

/-! ## Commands -/

/-- Base settings with a legal slave id raise a flag, and a package that is too
short changes nothing. -/
theorem saveBaseSettings_settings
    (dev : Device D)
    (data : Nat → UInt16)
    (len : UInt8)
    (legal : 45 ≤ len → BaseIdValid data) :
    (dev.saveBaseSettings (some data) len).2.settings = dev.settings ∨
      (dev.saveBaseSettings (some data) len).2.settings.SaveRequested := by
  by_cases short : len < 45
  · left
    rw [saveBaseSettings_short dev data len short]
  · right
    left
    have valid := legal (UInt8.not_lt.mp short)
    simp only [saveBaseSettings, if_neg short, if_pos valid, settings]
    rw [if_pos (by decide)]
    decide

/-- The base settings handler raises its flag exactly for an accepted package. -/
theorem saveBaseSettings_saveRequested_iff
    (dev : Device D)
    (data : Nat → UInt16)
    (len : UInt8) :
    (dev.saveBaseSettings (some data) len).2.settings.SaveRequested ↔
      dev.settings.SaveRequested ∨ (dev.saveBaseSettings (some data) len).1 ≠ 0 := by
  by_cases short : len < 45
  · rw [saveBaseSettings_short dev data len short]
    simp
  by_cases valid : BaseIdValid data
  · simp [saveBaseSettings, short, valid, settings, SettingsState.SaveRequested]
  · simp [saveBaseSettings, short, valid, settings, SettingsState.SaveRequested]

variable [DoubleArith D]

/-- An accepted sensor package raises both flags, and a rejected one changes
nothing. -/
theorem saveSensorSettings_settings
    (dev : Device D)
    (data : Nat → UInt16)
    (len : UInt8) :
    (dev.saveSensorSettings (some data) len).2.settings = dev.settings ∨
      (dev.saveSensorSettings (some data) len).2.settings.SaveRequested := by
  by_cases short : len < 56
  · left
    simp only [saveSensorSettings, if_pos short]
  by_cases accepted :
      (decodeSensorSettings data len dev.deviceConfig dev.sensor).ok = 0
  · right
    left
    simp only [saveSensorSettings, if_neg short, if_pos accepted, settings]
    decide
  · left
    simp only [saveSensorSettings, if_neg short, if_neg accepted, settings]

/-- The sensor settings handler raises its flags exactly for an accepted package. -/
theorem saveSensorSettings_saveRequested_iff
    (dev : Device D)
    (data : Nat → UInt16)
    (len : UInt8) :
    (dev.saveSensorSettings (some data) len).2.settings.SaveRequested ↔
      dev.settings.SaveRequested ∨ (dev.saveSensorSettings (some data) len).1 ≠ 0 := by
  obtain ⟨rejected, accepted⟩ := dev.saveSensorSettings_flags data len
  simp only [settings, SettingsState.SaveRequested]
  rcases dev.saveSensorSettings_fst (some data) len with zero | one
  · rw [(rejected zero).1, (rejected zero).2, zero]
    simp
  · rw [(accepted one).1, (accepted one).2, one]
    simp

/-- Processing a frame calls `saveBaseSettings` with some arguments. -/
def CallsBaseSettings (dev : Device D) (frame : FrameItem) (data : Nat → UInt16)
    (len : UInt8) : Prop :=
  dev.RunsCommand frame ∧ (dev.commandState frame).holding commandCode = setDetectorData ∧
    data = (dev.commandState frame).commandArgs ∧ len = commandLen frame.qty

/-- A command leaves the settings alone or raises a flag. -/
theorem handleCommand_settings
    (dev : Device D)
    (qty : UInt16)
    (legal : dev.holding commandCode = setDetectorData → 45 ≤ commandLen qty →
      BaseIdValid dev.commandArgs) :
    (dev.handleCommand qty).2.settings = dev.settings ∨
      (dev.handleCommand qty).2.settings.SaveRequested := by
  rcases handleCommand_cases dev qty with
    ⟨_, handled⟩ | ⟨code, handled⟩ | ⟨_, handled⟩ | ⟨_, handled⟩
  · rw [handled]
    exact saveSensorSettings_settings dev _ _
  · rw [handled]
    exact saveBaseSettings_settings dev _ _ (legal code)
  · exact Or.inl (by rw [handled])
  · exact Or.inl (by rw [handled])

/-- Of the commands only these two raise a flag. -/
theorem handleCommand_saveRequested_iff
    (dev : Device D)
    (qty : UInt16) :
    (dev.handleCommand qty).2.settings.SaveRequested ↔
      dev.settings.SaveRequested ∨
        (dev.holding commandCode = setSensorData ∨
          dev.holding commandCode = setDetectorData) ∧
        (dev.handleCommand qty).1 ≠ 0 := by
  rcases handleCommand_cases dev qty with
    ⟨code, handled⟩ | ⟨code, handled⟩ | ⟨code, handled⟩ | ⟨other, handled⟩
  · rw [handled, saveSensorSettings_saveRequested_iff, and_iff_right (.inl code)]
  · rw [handled, saveBaseSettings_saveRequested_iff, and_iff_right (.inr code)]
  · have neither : ¬ (dev.holding commandCode = setSensorData ∨
        dev.holding commandCode = setDetectorData) := by
      rcases code with time | reset
      · rw [time]
        decide
      · rw [reset]
        decide
    rw [handled]
    exact (or_iff_left fun both => neither both.1).symm
  · rw [handled]
    exact (or_iff_left fun both => both.2 rfl).symm

/-! ## Frames -/

/-- So does a frame whose base settings, if any, carry a legal slave id. -/
theorem frameStep_settings
    {dev : Device D}
    {frame : FrameItem}
    (legal : ∀ data len, dev.CallsBaseSettings frame data len → 45 ≤ len →
      BaseIdValid data) :
    (dev.frameStep frame).settings = dev.settings ∨
      (dev.frameStep frame).settings.SaveRequested := by
  by_cases runs : dev.RunsCommand frame
  · have handled := handleCommand_settings (dev.commandState frame) frame.qty
      fun code long => legal _ _ ⟨runs, code, rfl, rfl⟩ long
    rw [frameStep_runsCommand runs,
      runCommand_project settings (fun _ _ => rfl) runs.2.2.2.2]
    rwa [ignoresTraffic_settings.commandState] at handled
  · exact Or.inl (ignoresTraffic_settings.frameStep runs)

/-- The frame runs an accepted settings command. -/
def AcceptsSettings (dev : Device D) (frame : FrameItem) : Prop :=
  dev.RunsCommand frame ∧
    (dev.requestWord frame commandCode = setSensorData ∨
      dev.requestWord frame commandCode = setDetectorData) ∧
    CommandAccepted D (dev.requestWord frame) dev.deviceConfig frame.qty

/-- A frame asks for a save exactly if it runs an accepted settings command. -/
theorem frameStep_saveRequested_iff
    (dev : Device D)
    (frame : FrameItem) :
    (dev.frameStep frame).settings.SaveRequested ↔
      dev.settings.SaveRequested ∨ dev.AcceptsSettings frame := by
  by_cases runs : dev.RunsCommand frame
  · have words : (dev.commandState frame).holding commandCode =
        dev.requestWord frame commandCode := by
      rw [commandState_holding dev runs.2.2.2.1]
    rw [frameStep_runsCommand runs,
      runCommand_project settings (fun _ _ => rfl) runs.2.2.2.2,
      handleCommand_saveRequested_iff, ignoresTraffic_settings.commandState,
      handleCommand_accepts_iff, commandState_accepts_iff runs, words, AcceptsSettings]
    simp [runs]
  · rw [ignoresTraffic_settings.frameStep runs, AcceptsSettings]
    simp [runs]

/-- The initialization of the service leaves the flags alone. -/
theorem initialized_saveRequested
    (dev : Device D)
    (slaveAddress : UInt8) :
    (dev.initialized slaveAddress).settings.SaveRequested ↔ dev.settings.SaveRequested := by
  rw [initialized, syncAll, ignoresTraffic_settings.bank, configLoadFromFlash]
  split
  · rfl
  · rfl

/-! ## Base packages -/

section

variable {dev : Device D} {frame : FrameItem} (start : frame.addr = 0)
variable (detector : frame.wordAt 9 = setDetectorData) (long : 45 ≤ frame.qty.toNat - 2)
variable (idValid : BaseIdValid frame.argument)

include start detector long idValid

/-- A base package with a legal slave id is an accepted settings command. -/
theorem acceptsSettings_of_basePackage
    (runs : dev.RunsCommand frame) :
    dev.AcceptsSettings frame :=
  ⟨runs, .inr ((requestWord_command dev start runs.2.2.2.2).trans detector),
    basePackage_accepted runs start detector long idValid⟩

/-- It is all that the base settings handler is called with. -/
theorem CallsBaseSettings.legalId
    {data : Nat → UInt16}
    {len : UInt8}
    (calls : dev.CallsBaseSettings frame data len) :
    BaseIdValid data := by
  obtain ⟨runs, -, arguments, -⟩ := calls
  rw [arguments, commandArgs, commandState_holding dev runs.2.2.2.1]
  exact (basePackage_handled runs start detector long idValid).2.2

end

/-- The package for slave id 7, whatever bytes lie behind it: a device with id 1 accepts it,
moves to the new id and is told no illegal one. -/
theorem idSeven_carriedOut
    {dev : Device D}
    {frame : FrameItem}
    (legal : dev.IdValid)
    (own : dev.deviceConfig.id.toUInt8 = 1)
    (same : SameRequest frame (writeMultipleRequest 1 0 idSevenPackage)) :
    dev.AcceptsSettings frame ∧ (dev.frameStep frame).deviceConfig.id = 7 ∧
      ∀ data len, dev.CallsBaseSettings frame data len → BaseIdValid data := by
  have few : idSevenPackage.length ≤ 123 := by decide
  have len := writeMultipleRequest_len 1 0 idSevenPackage few
  have words : idSevenPackage.length = 47 := by decide
  have runs := (runsCommand_writeMultipleRequest legal own 0 idSevenPackage few (by decide)
    (by decide)).of_sameRequest same
  obtain ⟨addr, qty⟩ := same.addr_qty (by omega)
  have start : frame.addr = 0 := addr.trans (writeMultipleRequest_addr 1 0 _ few)
  have count : frame.qty.toNat = 47 :=
    (congrArg UInt16.toNat qty).trans (writeMultipleRequest_qty 1 0 _ few)
  have detector : frame.wordAt 9 = setDetectorData :=
    (same.wordAt (by omega)).trans (writeMultipleRequest_payload 1 0 _ few 1 (by decide))
  have id : frame.argument 0 = 7 :=
    (same.wordAt (by simp; omega)).trans
      (writeMultipleRequest_payload 1 0 _ few 2 (by decide))
  have long : 45 ≤ frame.qty.toNat - 2 := by omega
  have idValid : BaseIdValid frame.argument := by
    rw [BaseIdValid, id]
    decide
  exact ⟨acceptsSettings_of_basePackage start detector long idValid runs,
    (basePackage_id runs start detector long idValid).1.trans id,
    fun _ _ calls => CallsBaseSettings.legalId start detector long idValid calls⟩

/-! ## Calls of `process` -/

omit [DoubleArith D] in
/-- The frame queue has nothing to do with the settings. -/
theorem dequeued_settings
    (dev : Device D)
    (received : Option UartFrame)
    (time : UInt32) :
    (dev.dequeued received time).2.settings = dev.settings := by
  have queued : (dev.queueReceived received time).2.settings = dev.settings := by
    cases received with
    | none => rfl
    | some received =>
        simp only [queueReceived, queueFrame]
        split
        · split
          · rfl
          · rfl
        · rfl
  have taken (waiting : Device D) (frame : FrameItem) :
      (waiting.dequeueFrame (some frame)).2.2.settings = waiting.settings := by
    rw [dequeueFrame]
    split
    · rfl
    · rfl
  exact (taken _ _).trans queued

/-- A call of `process` calls `saveBaseSettings` with some arguments. -/
def ProcessCallsBaseSettings (dev : Device D) (received : Option UartFrame)
    (time : UInt32) (data : Nat → UInt16) (len : UInt8) : Prop :=
  (dev.dequeued received time).1 ≠ 0 ∧
    (dev.dequeued received time).2.CallsBaseSettings
      (dev.dequeued received time).2.modbus.frameScratch data len

/-- A call of `process` whose base settings, if any, carry a legal slave id leaves
the settings alone or raises a flag. -/
theorem process_settings
    {dev : Device D}
    {received : Option UartFrame}
    {time : UInt32}
    (legal : ∀ data len, dev.ProcessCallsBaseSettings received time data len →
      45 ≤ len → BaseIdValid data) :
    (dev.process received time).2.settings = dev.settings ∨
      (dev.process received time).2.settings.SaveRequested := by
  have before := dequeued_settings dev received time
  rw [process_eq]
  split
  · rename_i someFrame
    rw [← before]
    exact frameStep_settings fun data len calls => legal data len ⟨someFrame, calls⟩
  · exact Or.inl before

/-- A call of `process` handles a frame that runs an accepted settings command. -/
def ProcessAcceptsSettings (dev : Device D) (received : Option UartFrame)
    (time : UInt32) : Prop :=
  (dev.dequeued received time).1 ≠ 0 ∧
    (dev.dequeued received time).2.AcceptsSettings
      (dev.dequeued received time).2.modbus.frameScratch

theorem process_saveRequested_iff
    (dev : Device D)
    (received : Option UartFrame)
    (time : UInt32) :
    (dev.process received time).2.settings.SaveRequested ↔
      dev.settings.SaveRequested ∨ dev.ProcessAcceptsSettings received time := by
  rw [process_eq, ProcessAcceptsSettings]
  split
  case isTrue someFrame =>
    rw [frameStep_saveRequested_iff, dequeued_settings]
    simp [someFrame]
  case isFalse noFrame =>
    rw [dequeued_settings]
    simp [noFrame]

end Device

end SensorFirmware
