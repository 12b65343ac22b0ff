import SensorFirmware.Config.FlashLayout
import SensorFirmware.Config.FlashStorage

/-!
# Saving and loading the configuration

`ConfigManager` over the bytes of the flash sector.  `saveDeviceConfig` erases the
sector and writes the image of the records; `loadOrDefaults` reads it back and
falls back to the defaults.  For the records that come out, loading the bytes is
loading the record that they hold.
-/

namespace SensorFirmware

/-- The members of `ConfigManager` with the global records that its functions
reach. -/
structure ConfigManager (D : Type) where
  flash : FlashStorage
  config : SettingsStruct
  flashData : FlashImage D
  deviceConfig : SettingsStruct
  sensor : SensorStruct D

/-- How the commands of a save end. -/
structure SaveReplies where
  idleForErase : Bool
  erase : FlashReply
  idleForWrite : Bool
  word : Nat → FlashReply

/-- A save without faults. -/
def SaveReplies.done : SaveReplies where
  idleForErase := true
  erase := .done
  idleForWrite := true
  word := fun _ => .done

namespace ConfigManager

variable [DoubleLayout D]

/-- The image that `saveDeviceConfig` writes; the assignments of the records leave
any values in the bytes that fill up `SettingsStruct`. -/
def newImage (manager : ConfigManager D) (padding : Vector UInt8 2) : FlashImage D :=
  let flashData : FlashImage D :=
    { config :=
        { manager.flashData.config with
          device := { manager.deviceConfig with verifyKey := configMagicNum }
          sensor := manager.sensor }
      padding := padding }
  { flashData with config := { flashData.config with crc := flashData.expectedCrc } }

/-- `saveDeviceConfig`. -/
def saveDeviceConfig (manager : ConfigManager D) (padding : Vector UInt8 2)
    (replies : SaveReplies) : Bool × ConfigManager D :=
  let device := { manager.deviceConfig with verifyKey := configMagicNum }
  let flashData := manager.newImage padding
  let manager :=
    { manager with deviceConfig := device, flashData := flashData, config := device }
  let erased := manager.flash.eraseConfigSector replies.idleForErase replies.erase
  if ¬ erased.1 then (false, { manager with flash := erased.2 })
  else
    let written := erased.2.write configFlashAddress
      (some (FlashImage.layout.toBytes flashData)) replies.idleForWrite replies.word
    (written.1, { manager with flash := written.2 })

/-- `quickSave`. -/
def quickSave (manager : ConfigManager D) (padding : Vector UInt8 2)
    (replies : SaveReplies) : Bool × ConfigManager D :=
  manager.saveDeviceConfig padding replies

/-- `save`: the copy in `config_` becomes the configuration in force. -/
def save (manager : ConfigManager D) (padding : Vector UInt8 2)
    (replies : SaveReplies) : Bool × ConfigManager D :=
  let manager :=
    { manager with config := { manager.config with verifyKey := configMagicNum } }
  let manager := { manager with deviceConfig := manager.config }
  manager.saveDeviceConfig padding replies

section

variable [DoubleArith D]

/-- `loadOrDefaults`, with the settings that it returns. -/
def loadOrDefaults (manager : ConfigManager D) (padding : Vector UInt8 2)
    (replies : SaveReplies) : SettingsStruct × ConfigManager D :=
  let read := manager.flash.read configFlashAddress
    (some (FlashImage.layout.toBytes manager.flashData))
  let manager :=
    { manager with flashData := (read.map FlashImage.layout.ofBytes).getD manager.flashData }
  let loaded := manager.flashData
  if read.isSome ∧ loaded.IsValid ∧
      IsValidRuntimeConfig loaded.config.device loaded.config.sensor then
    let manager :=
      { manager with
        deviceConfig := loaded.config.device
        sensor := loaded.config.sensor
        config := loaded.config.device }
    (manager.config, manager)
  else
    let manager :=
      { manager with
        deviceConfig := SettingsStruct.defaults
        sensor := SensorStruct.defaults
        config := SettingsStruct.defaults }
    let manager := (manager.saveDeviceConfig padding replies).2
    (manager.config, manager)

end

/-! ## The image in the sector -/

/-- The image at the start of a sector. -/
def storedImage (sector : ConfigSector) : FlashImage D :=
  FlashImage.layout.ofBytes
    (FlashMemory.contents sector 0 (FlashImage.layout (D := D)).size)

/-- The image lies in the sector. -/
theorem image_inSector :
    IsAddressInConfigSector configFlashAddress
      (FlashImage.layout (D := D)).size.toUInt32 := by
  rw [FlashImage.size_layout]
  decide

theorem read_image
    (flash : FlashStorage)
    (image : FlashImage D) :
    flash.read configFlashAddress (some (FlashImage.layout.toBytes image)) =
      some (FlashMemory.contents flash.sector 0 (FlashImage.layout (D := D)).size) := by
  simp only [FlashStorage.read, ByteLayout.length_toBytes,
    if_neg (not_not_intro image_inSector)]
  rfl

section

variable (manager : ConfigManager D) (padding : Vector UInt8 2) (replies : SaveReplies)

theorem newImage_config :
    (manager.newImage padding).config =
      savedImage (FlashImage.bytesBeforeCrc padding) manager.deviceConfig
        manager.sensor := by
  rw [newImage, FlashImage.expectedCrc_eq]
  rfl

/-- The image that is written passes the check of a boot. -/
theorem newImage_isValid : (manager.newImage padding).IsValid := by
  rw [FlashImage.isValid_iff, newImage_config]
  exact ⟨rfl, rfl⟩

/-! ## Saving -/

/-- A save completes the key of the configuration, whether it succeeds or not. -/
theorem saveDeviceConfig_deviceConfig :
    (manager.saveDeviceConfig padding replies).2.deviceConfig =
      { manager.deviceConfig with verifyKey := configMagicNum } := by
  unfold saveDeviceConfig
  simp only
  split
  · rfl
  · rfl

theorem saveDeviceConfig_sensor :
    (manager.saveDeviceConfig padding replies).2.sensor = manager.sensor := by
  unfold saveDeviceConfig
  simp only
  split
  · rfl
  · rfl

theorem saveDeviceConfig_config :
    (manager.saveDeviceConfig padding replies).2.config =
      (manager.saveDeviceConfig padding replies).2.deviceConfig := by
  unfold saveDeviceConfig
  simp only
  split
  · rfl
  · rfl

/-- `save` puts the copy in force, whatever the configuration was. -/
theorem save_deviceConfig :
    (manager.save padding replies).2.deviceConfig =
      { manager.config with verifyKey := configMagicNum } := by
  rw [save, saveDeviceConfig_deviceConfig]

theorem save_config :
    (manager.save padding replies).2.config =
      (manager.save padding replies).2.deviceConfig := by
  rw [save, saveDeviceConfig_config]

variable {manager padding replies}

/-- After a successful save the image stands in the sector. -/
theorem storedImage_of_saved
    (saved : (manager.saveDeviceConfig padding replies).1 = true) :
    storedImage (manager.saveDeviceConfig padding replies).2.flash.sector =
      manager.newImage padding := by
  unfold saveDeviceConfig at saved ⊢
  simp only at saved ⊢
  split at saved
  · cases saved
  · rename_i erased
    rw [if_neg erased]
    have stands := FlashStorage.contents_of_write saved
    rw [ByteLayout.length_toBytes] at stands
    rw [storedImage]
    exact (congrArg FlashImage.layout.ofBytes stands).trans
      (FlashImage.layout.ofBytes_toBytes _)

variable (manager padding)

/-- A save without faults succeeds. -/
theorem saveDeviceConfig_done :
    (manager.saveDeviceConfig padding .done).1 = true := by
  have fits : FlashStorage.position configFlashAddress +
      (FlashImage.layout.toBytes (manager.newImage padding)).length ≤ 0x4000 := by
    rw [ByteLayout.length_toBytes, FlashImage.size_layout]
    decide
  have inside : IsAddressInConfigSector configFlashAddress
      (FlashImage.layout.toBytes (manager.newImage padding)).length.toUInt32 := by
    rw [ByteLayout.length_toBytes]
    exact image_inSector
  exact FlashStorage.write_done inside fits rfl

/-- A save fails when the controller stays busy. -/
theorem saveDeviceConfig_busy
    (busy : replies.idleForErase = false) :
    (manager.saveDeviceConfig padding replies).1 = false := by
  simp [saveDeviceConfig, FlashStorage.eraseConfigSector, busy]

end

/-- An erased sector has no key. -/
theorem storedImage_erased_unkeyed :
    (storedImage (FlashMemory.erased _) : FlashImage D).config.device.verifyKey ≠
      configMagicNum := by
  have erased : (storedImage (FlashMemory.erased _) : FlashImage D).config.device.verifyKey =
      ByteLayout.word32.ofBytes ((FlashMemory.contents (FlashMemory.erased 16384) 0
        (FlashImage.layout (D := D)).size).drop 8) := rfl
  rw [erased, FlashImage.size_layout, FlashMemory.contents_erased (by decide)]
  decide

theorem storedImage_erased_invalid :
    ¬ (storedImage (FlashMemory.erased _) : FlashImage D).IsValid :=
  fun valid => storedImage_erased_unkeyed valid.2

/-! ## Loading -/

section

variable [DoubleArith D] (manager : ConfigManager D) (padding : Vector UInt8 2)
variable (replies : SaveReplies)

/-- The manager after a boot that accepts an image. -/
def accepted (image : FlashImage D) : ConfigManager D :=
  { manager with
    flashData := image
    deviceConfig := image.config.device
    sensor := image.config.sensor
    config := image.config.device }

/-- The manager with the defaults, before they are saved. -/
def withDefaults (image : FlashImage D) : ConfigManager D :=
  { manager with
    flashData := image
    deviceConfig := SettingsStruct.defaults
    sensor := SensorStruct.defaults
    config := SettingsStruct.defaults }

/-- The manager after a boot, by the image that it finds. -/
theorem loadOrDefaults_eq :
    (manager.loadOrDefaults padding replies).2 =
      let image := storedImage manager.flash.sector
      if image.IsValid ∧ IsValidRuntimeConfig image.config.device image.config.sensor then
        manager.accepted image
      else ((manager.withDefaults image).saveDeviceConfig padding replies).2 := by
  simp only [loadOrDefaults, read_image, Option.isSome_some, true_and, Option.map_some,
    Option.getD_some]
  split
  · rename_i valid
    exact (if_pos valid).symm
  · rename_i invalid
    exact (if_neg invalid).symm

/-- An image that fails the check is replaced by the defaults. -/
theorem loaded_of_invalid
    (invalid : ¬ (storedImage manager.flash.sector : FlashImage D).IsValid) :
    (manager.loadOrDefaults padding replies).2.deviceConfig = SettingsStruct.defaults ∧
      (manager.loadOrDefaults padding replies).2.sensor = SensorStruct.defaults := by
  rw [loadOrDefaults_eq]
  simp only
  rw [if_neg fun accepted => invalid accepted.1, saveDeviceConfig_deviceConfig,
    saveDeviceConfig_sensor]
  exact ⟨rfl, rfl⟩

/-- A boot returns the settings in `config_`. -/
theorem loadOrDefaults_returns :
    (manager.loadOrDefaults padding replies).1 =
      (manager.loadOrDefaults padding replies).2.config := by
  simp only [loadOrDefaults]
  split
  · rfl
  · rfl

/-- They are the settings in force. -/
theorem loadOrDefaults_config :
    (manager.loadOrDefaults padding replies).2.config =
      (manager.loadOrDefaults padding replies).2.deviceConfig := by
  rw [loadOrDefaults_eq]
  simp only
  split
  · rfl
  · exact saveDeviceConfig_config _ _ _

/-- For the records in force, loading the bytes of the sector is loading the record
that they hold. -/
theorem loadOrDefaults_refines :
    ((manager.loadOrDefaults padding replies).2.deviceConfig,
        (manager.loadOrDefaults padding replies).2.sensor) =
      let image := storedImage manager.flash.sector
      SensorFirmware.loadOrDefaults (FlashImage.bytesBeforeCrc image.padding)
        (some image.config) := by
  rw [loadOrDefaults_eq]
  simp only [SensorFirmware.loadOrDefaults, ← FlashImage.isValid_iff]
  split
  · rfl
  · rw [saveDeviceConfig_deviceConfig, saveDeviceConfig_sensor]
    rfl

/-- A start that accepts the image or saves the defaults leaves the configuration in
force in the sector. -/
theorem storedImage_of_loaded
    (saved : ((manager.withDefaults
      (storedImage manager.flash.sector)).saveDeviceConfig padding replies).1 = true) :
    let loaded := (manager.loadOrDefaults padding replies).2
    (storedImage loaded.flash.sector : FlashImage D).config.device = loaded.deviceConfig ∧
      (storedImage loaded.flash.sector : FlashImage D).config.sensor = loaded.sensor := by
  simp only [loadOrDefaults_eq]
  split
  · exact ⟨rfl, rfl⟩
  · rw [storedImage_of_saved saved, saveDeviceConfig_deviceConfig, saveDeviceConfig_sensor]
    exact ⟨rfl, rfl⟩

end

/-! ## A saved configuration survives a restart -/

/-- The manager at power-on: zero-filled records. -/
def construct [DoubleArith D] (sector : ConfigSector) : ConfigManager D where
  flash := { sector := sector, commands := [] }
  config := SettingsStruct.zero
  flashData :=
    FlashImage.layout.ofBytes (List.replicate (FlashImage.layout (D := D)).size 0)
  deviceConfig := SettingsStruct.zero
  sensor := SensorStruct.zero

theorem construct_sector [DoubleArith D] (sector : ConfigSector) :
    (construct sector : ConfigManager D).flash.sector = sector := rfl

/-- A valid configuration that was saved with success is in force again after a
restart with an unmodified sector, and the restart gives the flash no command. -/
theorem loadOrDefaults_restores_saved [DoubleArith D]
    (manager : ConfigManager D)
    (padding : Vector UInt8 2)
    (replies : SaveReplies)
    (valid : IsValidRuntimeConfig
      { manager.deviceConfig with verifyKey := configMagicNum } manager.sensor)
    (saved : (manager.saveDeviceConfig padding replies).1 = true)
    (restarted : ConfigManager D)
    (unmodified : restarted.flash.sector =
      (manager.saveDeviceConfig padding replies).2.flash.sector)
    (bootPadding : Vector UInt8 2)
    (bootReplies : SaveReplies) :
    let device := { manager.deviceConfig with verifyKey := configMagicNum }
    let loaded := restarted.loadOrDefaults bootPadding bootReplies
    loaded.1 = device ∧ loaded.2.deviceConfig = device ∧
      loaded.2.sensor = manager.sensor ∧ loaded.2.flash = restarted.flash := by
  have image : storedImage restarted.flash.sector = manager.newImage padding := by
    rw [unmodified, storedImage_of_saved saved]
  have accepts : (manager.newImage padding).IsValid ∧
      IsValidRuntimeConfig (manager.newImage padding).config.device
        (manager.newImage padding).config.sensor :=
    ⟨newImage_isValid manager padding, valid⟩
  have loaded : (restarted.loadOrDefaults bootPadding bootReplies).2 =
      restarted.accepted (manager.newImage padding) := by
    rw [loadOrDefaults_eq]
    simp only [image]
    exact if_pos accepts
  simp only [loadOrDefaults_returns, loaded]
  exact ⟨rfl, rfl, rfl, rfl⟩

/-- The defaults with another slave id, saved to an erased sector. -/
theorem loadOrDefaults_restores_slaveId :
    let manager : ConfigManager Binary64 :=
      { construct (FlashMemory.erased _) with
        deviceConfig := { SettingsStruct.defaults with id := 42 }
        sensor := SensorStruct.defaults }
    let restarted : ConfigManager Binary64 :=
      construct (manager.saveDeviceConfig #v[0xFF, 0xFF] .done).2.flash.sector
    let device := { manager.deviceConfig with verifyKey := configMagicNum }
    let loaded := restarted.loadOrDefaults #v[0, 0] .done
    loaded.1 = device ∧ loaded.2.deviceConfig = device ∧
      loaded.2.sensor = manager.sensor ∧ loaded.2.flash = restarted.flash := by
  intro manager restarted
  have defaults := defaults_isValidRuntimeConfig (D := Binary64)
  have valid : IsValidRuntimeConfig
      { manager.deviceConfig with verifyKey := configMagicNum } manager.sensor :=
    { verifyKey := rfl
      id := by decide
      baudrate := defaults.baudrate
      identity := defaults.identity
      mulFactor := defaults.mulFactor
      displayUnit := defaults.displayUnit
      gas := defaults.gas }
  exact loadOrDefaults_restores_saved manager #v[0xFF, 0xFF] .done valid
    (saveDeviceConfig_done manager #v[0xFF, 0xFF]) restarted (construct_sector _)
    #v[0, 0] .done

end ConfigManager

end SensorFirmware
