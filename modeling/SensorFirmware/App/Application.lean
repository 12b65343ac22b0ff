import SensorFirmware.App.LoopEvents
import SensorFirmware.Config.Persistence
import SensorFirmware.Modbus.Thresholds

/-!
# The application

The system together with the configuration manager and the flash, and
`Application::initialize`.  Whatever the sector holds and the flash does, the
initialization ends with a valid configuration that the service has taken over.
-/

namespace SensorFirmware

/-- The members of `Application` whose functions are modelled. -/
structure Application (D : Type) where
  system : System D
  flash : FlashStorage
  config : SettingsStruct
  flashData : FlashImage D

/-- The rest of `Application::initialize` for the device, once the configuration is
loaded. -/
def Device.serviceStarted [DoubleArith D] (dev : Device D) (watchdogReset : Bool) :
    Device D :=
  let errors := ErrorManager.initialized
  let dev :=
    { dev with errors := if watchdogReset then errors.reportWatchdogReset else errors }
  dev.initialized dev.deviceConfig.id.toUInt8

theorem Device.started_eq [DoubleArith D]
    (imageBytes : SettingsStruct → SensorStruct D → List UInt8)
    (flashData : Option (FlashConfig D))
    (watchdogReset : Bool)
    (dev : Device D) :
    Device.started imageBytes flashData watchdogReset dev =
      Device.serviceStarted
        { dev with
          deviceConfig := (loadOrDefaults imageBytes flashData).1
          sensor := (loadOrDefaults imageBytes flashData).2 }
        watchdogReset := rfl

namespace Application

/-- The configuration manager sees the global records of the device. -/
def configManager (app : Application D) : ConfigManager D where
  flash := app.flash
  config := app.config
  flashData := app.flashData
  deviceConfig := app.system.device.deviceConfig
  sensor := app.system.device.sensor

/-- The application after a call of the configuration manager. -/
def withConfigManager (app : Application D) (manager : ConfigManager D) :
    Application D where
  system :=
    { app.system with
      device :=
        { app.system.device with
          deviceConfig := manager.deviceConfig
          sensor := manager.sensor } }
  flash := manager.flash
  config := manager.config
  flashData := manager.flashData

/-- The image in the sector. -/
def storedImage [DoubleLayout D] (app : Application D) : FlashImage D :=
  ConfigManager.storedImage app.flash.sector

variable [DoubleArith D] [DoubleLayout D]

/-- `Application::initialize`, with the reset cause that the hardware reports. -/
def initialized (app : Application D) (padding : Vector UInt8 2) (replies : SaveReplies)
    (watchdogReset : Bool) : Application D :=
  let app := app.withConfigManager (app.configManager.loadOrDefaults padding replies).2
  { app with
    system :=
      { device := app.system.device.serviceStarted watchdogReset
        service := SensorService.initialize
        lcd := [] } }

section

variable (app : Application D) (padding : Vector UInt8 2) (replies : SaveReplies)
variable (watchdogReset : Bool)

/-- The initialized system is the one that starts from the image in the sector. -/
theorem initialized_system :
    (app.initialized padding replies watchdogReset).system =
      System.started (FlashImage.bytesBeforeCrc app.storedImage.padding)
        (some app.storedImage.config) watchdogReset app.system.device := by
  have refines := app.configManager.loadOrDefaults_refines padding replies
  have device : (app.configManager.loadOrDefaults padding replies).2.deviceConfig =
      (loadOrDefaults (FlashImage.bytesBeforeCrc app.storedImage.padding)
        (some app.storedImage.config)).1 := congrArg Prod.fst refines
  have sensor : (app.configManager.loadOrDefaults padding replies).2.sensor =
      (loadOrDefaults (FlashImage.bytesBeforeCrc app.storedImage.padding)
        (some app.storedImage.config)).2 := congrArg Prod.snd refines
  simp only [initialized, withConfigManager, device, sensor, System.started,
    Device.started_eq]

theorem initialized_flash :
    (app.initialized padding replies watchdogReset).flash =
      (app.configManager.loadOrDefaults padding replies).2.flash := by
  simp only [initialized, withConfigManager]

/-- No frame waits after a start. -/
theorem initialized_frameQueue :
    (app.initialized padding replies watchdogReset).system.device.modbus.frameQueue =
      FrameQueue.zero :=
  Device.initialized_frameQueue _ _

/-- The configuration after a start is valid. -/
theorem loaded_isValidRuntimeConfig :
    IsValidRuntimeConfig (app.configManager.loadOrDefaults padding replies).2.deviceConfig
      (app.configManager.loadOrDefaults padding replies).2.sensor := by
  have refines := app.configManager.loadOrDefaults_refines padding replies
  have valid := loadOrDefaults_isValidRuntimeConfig
    (FlashImage.bytesBeforeCrc app.storedImage.padding) (some app.storedImage.config)
  have records : loadOrDefaults (FlashImage.bytesBeforeCrc app.storedImage.padding)
      (some app.storedImage.config) = _ := refines.symm
  rwa [records] at valid

theorem initialized_deviceConfig :
    (app.initialized padding replies watchdogReset).system.device.deviceConfig =
      (app.configManager.loadOrDefaults padding replies).2.deviceConfig :=
  Device.initialized_deviceConfig _
    (app.loaded_isValidRuntimeConfig padding replies).verifyKey

theorem initialized_sensor :
    (app.initialized padding replies watchdogReset).system.device.sensor =
      (app.configManager.loadOrDefaults padding replies).2.sensor :=
  Device.initialized_sensor _
    (app.loaded_isValidRuntimeConfig padding replies).verifyKey

/-- Whatever the sector holds and the flash does, the application starts with a
valid configuration, which `config_`, the slave address and the threshold registers
show. -/
theorem initialized_consistent :
    let started := app.initialized padding replies watchdogReset
    let dev := started.system.device
    IsValidRuntimeConfig dev.deviceConfig dev.sensor ∧
      started.config = dev.deviceConfig ∧
      dev.modbus.slaveAddress.toNat = dev.deviceConfig.id.toNat ∧
      (1 ≤ dev.deviceConfig.id ∧ dev.deviceConfig.id ≤ 247) ∧
      ∀ index, index < 3 →
        dev.holding (0x26 + index) = FixedArray.read dev.deviceConfig.alarmThreshold index ∧
          dev.input (0x26 + index) =
            FixedArray.read dev.deviceConfig.alarmThreshold index := by
  intro started dev
  have valid := app.loaded_isValidRuntimeConfig padding replies
  have legal := not_or.mp valid.id
  have lower := UInt16.pos_iff_ne_zero.mpr legal.1
  have upper := UInt16.not_lt.mp legal.2
  have config := app.initialized_deviceConfig padding replies watchdogReset
  have sensor := app.initialized_sensor padding replies watchdogReset
  have address : dev.modbus.slaveAddress =
      (app.configManager.loadOrDefaults padding replies).2.deviceConfig.id.toUInt8 :=
    Device.initialized_slaveAddress _ _
  refine ⟨?_, ?_, ?_, ?_, ?_⟩
  · rw [config, sensor]
    exact valid
  · rw [config]
    exact app.configManager.loadOrDefaults_config padding replies
  · have bound : (app.configManager.loadOrDefaults padding
        replies).2.deviceConfig.id.toNat ≤ 247 := UInt16.le_iff_toNat_le.mp upper
    rw [config, address, UInt16.toNat_toUInt8]
    omega
  · rw [config]
    exact ⟨UInt16.le_iff_toNat_le.mpr (UInt16.lt_iff_toNat_lt.mp lower), upper⟩
  · intro index inside
    exact ⟨Device.syncAll_thresholdsMirrored _ index inside,
      RegisterBank.syncAll_threshold_input _ _ _ _ _ index inside⟩

end

/-- Without the key in the sector a start puts the defaults in force. -/
theorem initialized_defaults
    (app : Application D)
    (padding : Vector UInt8 2)
    (replies : SaveReplies)
    (watchdogReset : Bool)
    (unkeyed : app.storedImage.config.device.verifyKey ≠ configMagicNum) :
    (app.initialized padding replies watchdogReset).system.device.deviceConfig =
      SettingsStruct.defaults := by
  have refines : (app.configManager.loadOrDefaults padding replies).2.deviceConfig =
      (loadOrDefaults (FlashImage.bytesBeforeCrc app.storedImage.padding)
        (some app.storedImage.config)).1 :=
    congrArg Prod.fst (app.configManager.loadOrDefaults_refines padding replies)
  rw [app.initialized_deviceConfig, refines, loadOrDefaults]
  exact congrArg Prod.fst (if_neg fun valid => unkeyed valid.1.2)

end Application

end SensorFirmware
