import SensorFirmware.App.MainLoop
import SensorFirmware.Modbus.BaseRoundTrip

/-!
# Lost updates of the configuration

A settings command writes the global configuration, while `ConfigManager` keeps a
copy in `config_`.  `saveDeviceConfig` and `quickSave` bring the copy up to date,
but `save` puts the copy in force.  Over any interleaving an accepted command is
lost exactly where `save` finds a copy that differs.
-/

namespace SensorFirmware

namespace Device

variable [DoubleArith D] {dev : Device D} {frame : FrameItem}

/-- A command leaves the key of the configuration alone. -/
theorem handleCommand_verifyKey (dev : Device D) (qty : UInt16) :
    (dev.handleCommand qty).2.deviceConfig.verifyKey = dev.deviceConfig.verifyKey := by
  rcases handleCommand_cases dev qty with
    ⟨_, handled⟩ | ⟨_, handled⟩ | ⟨_, handled⟩ | ⟨_, handled⟩
  · rw [handled]
    by_cases accepted :
        (dev.saveSensorSettings (some dev.commandArgs) (commandLen qty)).1 ≠ 0
    · rw [(saveSensorSettings_accepted dev _ _ accepted).1]
      rfl
    · rw [(saveSensorSettings_rejected dev _ _ accepted).1]
  · rw [handled]
    by_cases short : commandLen qty < 45
    · rw [saveBaseSettings_short _ _ _ short]
    · obtain ⟨ok, decoded⟩ := saveBaseSettings_deviceConfig dev dev.commandArgs
        (commandLen qty) (UInt8.not_lt.mp short)
      rw [decoded]
      rfl
  · rw [handled]
  · rw [handled]

/-- So does every frame. -/
theorem frameStep_verifyKey (dev : Device D) (frame : FrameItem) :
    (dev.frameStep frame).deviceConfig.verifyKey = dev.deviceConfig.verifyKey := by
  by_cases runs : dev.RunsCommand frame
  · rw [frameStep_runsCommand runs,
      runCommand_project Device.deviceConfig (fun _ _ => rfl) runs.2.2.2.2,
      handleCommand_verifyKey, ignoresTraffic_deviceConfig.commandState]
  · rw [ignoresTraffic_deviceConfig.frameStep runs]

end Device

/-- What changes the configuration or its copy. -/
inductive SettingsEvent
  /-- A frame that runs no command. -/
  | traffic (frame : FrameItem)
  /-- A frame that runs an accepted settings command. -/
  | settings (frame : FrameItem)
  | save (padding : Vector UInt8 2) (replies : SaveReplies)
  | quickSave (padding : Vector UInt8 2) (replies : SaveReplies)
  | saveDeviceConfig (padding : Vector UInt8 2) (replies : SaveReplies)

/-- An application with the configuration that the last accepted settings command
left, or the start. -/
structure SettingsHistory (D : Type) where
  app : Application D
  accepted : SettingsStruct

namespace SettingsHistory

/-- The configuration in force, `DeviceConfig`. -/
def deviceConfig (history : SettingsHistory D) : SettingsStruct :=
  history.app.system.device.deviceConfig

/-- The copy in the configuration manager, `config_`. -/
def copy (history : SettingsHistory D) : SettingsStruct := history.app.config

/-- The history of an application that has started. -/
def start (app : Application D) : SettingsHistory D where
  app := app
  accepted := app.system.device.deviceConfig

/-- The application after the configuration manager has returned. -/
def saved (history : SettingsHistory D) (manager : ConfigManager D) :
    SettingsHistory D :=
  { history with app := history.app.withConfigManager manager }

theorem saved_deviceConfig
    (history : SettingsHistory D)
    (manager : ConfigManager D) :
    (history.saved manager).deviceConfig = manager.deviceConfig := rfl

theorem saved_copy
    (history : SettingsHistory D)
    (manager : ConfigManager D) :
    (history.saved manager).copy = manager.config := rfl

variable [DoubleArith D]

/-- `ModbusService::processFrame` in the application. -/
def received (history : SettingsHistory D) (frame : FrameItem) : SettingsHistory D :=
  { history with
    app :=
      { history.app with
        system :=
          { history.app.system with
            device := history.app.system.device.frameStep frame } } }

theorem received_deviceConfig
    (history : SettingsHistory D)
    (frame : FrameItem) :
    (history.received frame).deviceConfig =
      (history.app.system.device.frameStep frame).deviceConfig := rfl

variable [DoubleLayout D]

/-- The history after one event. -/
def step (history : SettingsHistory D) : SettingsEvent → SettingsHistory D
  | .traffic frame => history.received frame
  | .settings frame =>
      { history.received frame with accepted := (history.received frame).deviceConfig }
  | .save padding replies =>
      history.saved (history.app.configManager.save padding replies).2
  | .quickSave padding replies =>
      history.saved (history.app.configManager.quickSave padding replies).2
  | .saveDeviceConfig padding replies =>
      history.saved (history.app.configManager.saveDeviceConfig padding replies).2

/-- A command changes the configuration and leaves the copy behind. -/
theorem settings_copy
    (history : SettingsHistory D)
    (frame : FrameItem) :
    (history.step (.settings frame)).copy = history.copy := rfl

theorem settings_deviceConfig
    (history : SettingsHistory D)
    (frame : FrameItem) :
    (history.step (.settings frame)).deviceConfig =
      (history.app.system.device.frameStep frame).deviceConfig := rfl

/-- A command that changes the slave id makes the copy differ. -/
theorem command_differs
    {history : SettingsHistory D}
    {frame : FrameItem}
    (copied : history.copy = history.deviceConfig)
    (moved : (history.app.system.device.frameStep frame).deviceConfig.id ≠
      history.deviceConfig.id) :
    (history.step (.settings frame)).copy ≠
      (history.step (.settings frame)).deviceConfig := by
  rw [settings_copy, settings_deviceConfig, copied]
  intro same
  exact moved (congrArg SettingsStruct.id same).symm

omit [DoubleLayout D] in
/-- The frame of an event is of the kind that the event says. -/
def Admitted (history : SettingsHistory D) : SettingsEvent → Prop
  | .traffic frame => ¬ history.app.system.device.RunsCommand frame
  | .settings frame => history.app.system.device.AcceptsSettings frame
  | _ => True

omit [DoubleLayout D] [DoubleArith D] in
/-- The configuration in force is the one that was accepted last. -/
def KeepsAccepted (history : SettingsHistory D) : Prop :=
  history.deviceConfig = history.accepted

omit [DoubleLayout D] [DoubleArith D] in
/-- A call of `save` finds the copy up to date. -/
def SavesCurrent (history : SettingsHistory D) : SettingsEvent → Prop
  | .save _ _ => history.copy = history.deviceConfig
  | _ => True

omit [DoubleLayout D] [DoubleArith D] in
/-- The configuration and its copy carry the key. -/
structure Keyed (history : SettingsHistory D) : Prop where
  deviceConfig : history.deviceConfig.verifyKey = configMagicNum
  copy : history.copy.verifyKey = configMagicNum

omit [DoubleLayout D] [DoubleArith D] in
/-- Completing a complete key changes nothing. -/
theorem keyed_eq
    {config : SettingsStruct}
    (keyed : config.verifyKey = configMagicNum) :
    { config with verifyKey := configMagicNum } = config := by
  rw [← keyed]

section

variable {history : SettingsHistory D}

theorem Keyed.step
    (keyed : history.Keyed)
    (event : SettingsEvent) :
    (history.step event).Keyed := by
  have received (frame : FrameItem) :
      (history.received frame).deviceConfig.verifyKey = configMagicNum := by
    rw [received_deviceConfig, Device.frameStep_verifyKey]
    exact keyed.deviceConfig
  cases event with
  | traffic frame => exact ⟨received frame, keyed.copy⟩
  | settings frame => exact ⟨received frame, keyed.copy⟩
  | save padding replies =>
      constructor
      · rw [SettingsHistory.step, saved_deviceConfig, ConfigManager.save_deviceConfig]
      · rw [SettingsHistory.step, saved_copy, ConfigManager.save_config,
          ConfigManager.save_deviceConfig]
  | quickSave padding replies =>
      constructor
      · rw [SettingsHistory.step, saved_deviceConfig, ConfigManager.quickSave,
          ConfigManager.saveDeviceConfig_deviceConfig]
      · rw [SettingsHistory.step, saved_copy, ConfigManager.quickSave,
          ConfigManager.saveDeviceConfig_config,
          ConfigManager.saveDeviceConfig_deviceConfig]
  | saveDeviceConfig padding replies =>
      constructor
      · rw [SettingsHistory.step, saved_deviceConfig,
          ConfigManager.saveDeviceConfig_deviceConfig]
      · rw [SettingsHistory.step, saved_copy, ConfigManager.saveDeviceConfig_config,
          ConfigManager.saveDeviceConfig_deviceConfig]

/-- An event keeps what was accepted last exactly when it is no `save` of a copy
that differs. -/
theorem step_keepsAccepted_iff
    (event : SettingsEvent)
    (admitted : history.Admitted event)
    (keyed : history.Keyed)
    (keeps : history.KeepsAccepted) :
    (history.step event).KeepsAccepted ↔ history.SavesCurrent event := by
  have current : history.app.configManager.deviceConfig = history.deviceConfig := rfl
  have copied : history.app.configManager.config = history.copy := rfl
  cases event with
  | traffic frame =>
      have same : (history.received frame).deviceConfig = history.deviceConfig :=
        Device.ignoresTraffic_deviceConfig.frameStep admitted
      exact iff_of_true (same.trans keeps) trivial
  | settings frame => exact iff_of_true rfl trivial
  | save padding replies =>
      rw [KeepsAccepted, SettingsHistory.step, saved_deviceConfig,
        ConfigManager.save_deviceConfig, copied, keyed_eq keyed.copy, SavesCurrent, keeps]
      rfl
  | quickSave padding replies =>
      refine iff_of_true ?_ trivial
      rw [KeepsAccepted, SettingsHistory.step, saved_deviceConfig, ConfigManager.quickSave,
        ConfigManager.saveDeviceConfig_deviceConfig, current, keyed_eq keyed.deviceConfig,
        keeps]
      rfl
  | saveDeviceConfig padding replies =>
      refine iff_of_true ?_ trivial
      rw [KeepsAccepted, SettingsHistory.step, saved_deviceConfig,
        ConfigManager.saveDeviceConfig_deviceConfig, current, keyed_eq keyed.deviceConfig,
        keeps]
      rfl

end

omit [DoubleLayout D] [DoubleArith D] in
theorem start_keepsAccepted (app : Application D) : (start app).KeepsAccepted := rfl

omit [DoubleLayout D] [DoubleArith D] in
theorem start_device (app : Application D) :
    (start app).app.system.device = app.system.device := rfl

omit [DoubleLayout D] [DoubleArith D] in
theorem start_deviceConfig (app : Application D) :
    (start app).deviceConfig = app.system.device.deviceConfig := rfl

/-- A start leaves a keyed configuration and a copy of it. -/
theorem start_keyed
    (app : Application D)
    (padding : Vector UInt8 2)
    (replies : SaveReplies)
    (watchdogReset : Bool) :
    let started := start (app.initialized padding replies watchdogReset)
    started.Keyed ∧ started.copy = started.deviceConfig := by
  have consistent := app.initialized_consistent padding replies watchdogReset
  generalize app.initialized padding replies watchdogReset = ready at consistent ⊢
  intro started
  obtain ⟨valid, copied, -⟩ := consistent
  have same : started.copy = started.deviceConfig := copied
  refine ⟨⟨valid.verifyKey, ?_⟩, same⟩
  rw [same]
  exact valid.verifyKey

/-- From a keyed state the accepted settings stay in force along a run exactly when
every call of `save` finds the copy up to date. -/
theorem keepsAccepted_iff_savesCurrent
    {history : SettingsHistory D}
    {events : List SettingsEvent}
    (keyed : history.Keyed)
    (keeps : history.KeepsAccepted)
    (admitted : Transition.AllSteps step Admitted history events) :
    (∀ reached ∈ Transition.visited step history events, reached.KeepsAccepted) ↔
      Transition.AllSteps step SavesCurrent history events := by
  have allKeyed := Transition.forall_visited_of_kept Keyed
    (fun _ event keyed => keyed.step event) keyed events
  rw [← Transition.forall_visited_iff_allSteps_of_admitted
    (fun history => history.KeepsAccepted ∧ history.Keyed) Admitted
    (fun _ event admitted both =>
      (and_iff_left (both.2.step event)).trans
        (step_keepsAccepted_iff event admitted both.2 both.1))
    admitted ⟨keeps, keyed⟩]
  exact forall₂_congr fun reached visited =>
    (and_iff_left (allKeyed reached visited)).symm

/-- After a start, whatever the flash holds and does, along every interleaving of
accepted settings commands, other traffic and saves the configuration in force stays
the one that was accepted last exactly when every call of `save` finds the copy up
to date. -/
theorem run_keepsAccepted_iff
    (app : Application D)
    (padding : Vector UInt8 2)
    (replies : SaveReplies)
    (watchdogReset : Bool)
    (events : List SettingsEvent)
    (admitted : Transition.AllSteps step Admitted
      (start (app.initialized padding replies watchdogReset)) events) :
    (∀ reached ∈ Transition.visited step
        (start (app.initialized padding replies watchdogReset)) events,
      reached.KeepsAccepted) ↔
      Transition.AllSteps step SavesCurrent
        (start (app.initialized padding replies watchdogReset)) events :=
  keepsAccepted_iff_savesCurrent (start_keyed app padding replies watchdogReset).1
    (start_keepsAccepted _) admitted

/-! ## A lost command -/

/-- The application after its first start, with an erased sector. -/
def firstStart : Application Binary64 :=
  (Application.construct BuildInfo.unitTest (FlashMemory.erased _)).initialized #v[0, 0]
    .done false

theorem firstStart_deviceConfig :
    firstStart.system.device.deviceConfig = SettingsStruct.defaults :=
  Application.initialized_defaults _ _ _ _ ConfigManager.storedImage_erased_unkeyed

theorem firstStart_keyed :
    (start firstStart).Keyed ∧ (start firstStart).copy = (start firstStart).deviceConfig :=
  start_keyed _ _ _ _

/-- The package that moves the device to slave id 7. -/
def idSeven : FrameItem := writeMultipleRequest 1 0 Device.idSevenPackage

/-- The device accepts the package and takes over its slave id. -/
theorem firstStart_idSeven :
    firstStart.system.device.AcceptsSettings idSeven ∧
      (firstStart.system.device.frameStep idSeven).deviceConfig.id = 7 := by
  have config := firstStart_deviceConfig
  generalize firstStart.system.device = dev at config ⊢
  have legal : dev.IdValid := by
    rw [Device.IdValid, config]
    decide
  have own : dev.deviceConfig.id.toUInt8 = 1 := by
    rw [config]
    rfl
  obtain ⟨accepts, moved, -⟩ := Device.idSeven_carriedOut legal own (SameRequest.refl idSeven)
  exact ⟨accepts, moved⟩

/-- The history after the package: the id has changed, the copy has not. -/
def afterCommand : SettingsHistory Binary64 := (start firstStart).step (.settings idSeven)

theorem afterCommand_differs : afterCommand.copy ≠ afterCommand.deviceConfig := by
  refine command_differs firstStart_keyed.2 ?_
  rw [start_device, firstStart_idSeven.2, start_deviceConfig, firstStart_deviceConfig]
  decide

/-- An accepted package is lost when `save` follows it. -/
theorem save_losesCommand :
    Transition.AllSteps step Admitted (start firstStart)
        [.settings idSeven, .save #v[0, 0] .done] ∧
      ¬ ∀ reached ∈ Transition.visited step (start firstStart)
          [.settings idSeven, .save #v[0, 0] .done], reached.KeepsAccepted := by
  have admitted : Transition.AllSteps step Admitted (start firstStart)
      [.settings idSeven, .save #v[0, 0] .done] :=
    ⟨firstStart_idSeven.1, trivial, trivial⟩
  refine ⟨admitted, ?_⟩
  rw [keepsAccepted_iff_savesCurrent firstStart_keyed.1 (start_keepsAccepted _) admitted]
  rintro ⟨-, current, -⟩
  exact afterCommand_differs current

/-- The same package stays when `quickSave` comes before `save`. -/
theorem run_keepsAccepted_iff_quickSave :
    Transition.AllSteps step Admitted (start firstStart)
        [.settings idSeven, .quickSave #v[0, 0] .done, .save #v[0, 0] .done] ∧
      ∀ reached ∈ Transition.visited step (start firstStart)
          [.settings idSeven, .quickSave #v[0, 0] .done, .save #v[0, 0] .done],
        reached.KeepsAccepted := by
  have admitted : Transition.AllSteps step Admitted (start firstStart)
      [.settings idSeven, .quickSave #v[0, 0] .done, .save #v[0, 0] .done] :=
    ⟨firstStart_idSeven.1, trivial, trivial, trivial⟩
  have synced : (afterCommand.step (.quickSave #v[0, 0] .done)).copy =
      (afterCommand.step (.quickSave #v[0, 0] .done)).deviceConfig := by
    generalize afterCommand = history
    exact ConfigManager.saveDeviceConfig_config _ _ _
  refine ⟨admitted, ?_⟩
  exact (run_keepsAccepted_iff _ _ _ _ _ admitted).mpr ⟨trivial, trivial, synced, trivial⟩

end SettingsHistory

end SensorFirmware
