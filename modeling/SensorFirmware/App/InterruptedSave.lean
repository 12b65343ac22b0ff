import SensorFirmware.App.MainLoop

/-!
# Saves that are interrupted

A save is an erase and one command for each word of the image.  If the power fails in
between, the sector holds what the commands so far have left.  The old configuration is
gone with the first of them, and the new one is there with the last.  Anything else fails
the check of the next start, unless the checksum of the words happens to match.
-/

namespace FlashMemory

/-- Data programmed in part into an erased memory: a beginning of them, and ones. -/
theorem contents_programWords_loop
    (width : Nat)
    (bytes : List UInt8)
    {count : Nat}
    (covered : count * width ≤ bytes.length)
    (fits : bytes.length ≤ n) :
    contents
        (countedLoop
          (fun i memory => programWord memory (0 + i * width) (wordAt width bytes (i * width)))
          count (erased n))
        0 bytes.length =
      bytes.take (count * width) ++ List.replicate (bytes.length - count * width) 0xFF := by
  apply List.ext_getElem
  · simp [covered]
  · intro index inside _
    rw [length_contents] at inside
    have read := read_programWords_loop width bytes 0 count (n := n) index (by omega)
      (Nat.zero_le _)
    simp only [contents, List.getElem_map, List.getElem_range, Nat.zero_add] at read ⊢
    rw [read]
    by_cases programmed : index < count * width
    · rw [if_pos programmed, List.getElem_append_left (by simp; omega), List.getElem_take]
      rw [Nat.sub_zero, List.getD_eq_getElem?_getD, List.getElem?_eq_getElem inside,
        Option.getD_some]
    · rw [if_neg programmed, List.getElem_append_right (by simp; omega),
        List.getElem_replicate]

end FlashMemory

namespace SensorFirmware

namespace FlashStorage

/-- The commands of the loop of `write`. -/
theorem programLoop_done_commands
    (address : UInt32)
    (bytes : List UInt8)
    (count : Nat)
    (flash : FlashStorage) :
    (programLoop address bytes (fun _ => .done) count flash).2.commands =
      flash.commands ++ (List.range count).map fun index =>
        .programWord (position address + index * 4)
          (FlashMemory.wordAt 4 bytes (index * 4)) := by
  induction count with
  | zero => simp [programLoop]
  | succ count inductionHypothesis =>
      have ready := (programLoop_done address bytes count flash).1
      simp only [programLoop] at ready inductionHypothesis ⊢
      rw [countedLoop_succ, if_pos ready, command, inductionHypothesis, List.range_succ,
        List.map_append, List.append_assoc]
      rfl

end FlashStorage

/-- The sector after some commands. -/
def FlashCommand.effects (commands : List FlashCommand) (sector : ConfigSector) :
    ConfigSector :=
  commands.foldl (fun sector command => command.effect sector) sector

/-- The commands for words, one after the other. -/
theorem FlashCommand.effects_programWords
    (bytes : List UInt8)
    (count : Nat)
    (sector : ConfigSector) :
    effects
        ((List.range count).map fun index =>
          .programWord (0 + index * 4) (FlashMemory.wordAt 4 bytes (index * 4)))
        sector =
      countedLoop
        (fun index sector =>
          FlashMemory.programWord sector (0 + index * 4)
            (FlashMemory.wordAt 4 bytes (index * 4)))
        count sector := by
  induction count with
  | zero => rfl
  | succ count inductionHypothesis =>
      rw [List.range_succ, List.map_append, effects, List.foldl_append, countedLoop_succ,
        ← inductionHypothesis]
      rfl

namespace ConfigManager

variable [DoubleLayout D] (manager : ConfigManager D) (padding : Vector UInt8 2)

/-- The commands that `saveDeviceConfig` gives. -/
def saveCommands : List FlashCommand :=
  (manager.saveDeviceConfig padding .done).2.flash.commands.drop manager.flash.commands.length

/-- What the sector holds when the power fails behind some commands of a save. -/
def interrupted (carriedOut : Nat) : ConfigSector :=
  FlashCommand.effects ((manager.saveCommands padding).take carriedOut) manager.flash.sector

/-- The bytes of the image that a save writes. -/
def newBytes : List UInt8 := FlashImage.layout.toBytes (manager.newImage padding)

theorem length_newBytes : (manager.newBytes padding).length = 490 := by
  rw [newBytes, ByteLayout.length_toBytes, FlashImage.size_layout]

/-- A save without faults erases the sector and programs the words of the image. -/
theorem saveDeviceConfig_done_flash :
    (manager.saveDeviceConfig padding .done).2.flash =
      (FlashStorage.programLoop configFlashAddress (manager.newBytes padding)
        (fun _ => .done) 123 (manager.flash.command .eraseSector .done).2).2 := by
  have length := manager.length_newBytes padding
  have inside : IsAddressInConfigSector configFlashAddress
      (manager.newBytes padding).length.toUInt32 := by
    rw [length]
    decide
  have ready := (FlashStorage.programLoop_done configFlashAddress (manager.newBytes padding) 123
    (manager.flash.command .eraseSector .done).2).1
  have words : FlashMemory.wordCount 4 (manager.newBytes padding).length = 123 := by
    rw [length]
    rfl
  have written : ((manager.flash.command .eraseSector .done).2.write configFlashAddress
      (some (manager.newBytes padding)) true fun _ => .done).2 =
        (FlashStorage.programLoop configFlashAddress (manager.newBytes padding)
          (fun _ => .done) 123 (manager.flash.command .eraseSector .done).2).2 := by
    simp only [FlashStorage.write, if_neg (not_not_intro inside), if_true, words, ready]
  rw [← written]
  rfl

/-- So these are its commands. -/
theorem saveCommands_eq :
    manager.saveCommands padding =
      .eraseSector :: (List.range 123).map fun index =>
        .programWord (0 + index * 4)
          (FlashMemory.wordAt 4 (manager.newBytes padding) (index * 4)) := by
  have erased : (manager.flash.command .eraseSector .done).2.commands =
      manager.flash.commands ++ [.eraseSector] := rfl
  have position : FlashStorage.position configFlashAddress = 0 := rfl
  rw [saveCommands, saveDeviceConfig_done_flash,
    FlashStorage.programLoop_done_commands, erased,
    List.append_assoc, List.drop_left, position, List.singleton_append]

/-! ## The sector in between -/

theorem interrupted_zero : manager.interrupted padding 0 = manager.flash.sector := rfl

/-- Behind the erase, some words stand in an erased sector. -/
theorem interrupted_succ
    {words : Nat}
    (few : words ≤ 123) :
    manager.interrupted padding (words + 1) =
      countedLoop
        (fun index sector =>
          FlashMemory.programWord sector (0 + index * 4)
            (FlashMemory.wordAt 4 (manager.newBytes padding) (index * 4)))
        words (FlashMemory.erased _) := by
  rw [interrupted, saveCommands_eq, List.take_succ_cons, ← List.map_take, List.take_range,
    Nat.min_eq_left few, ← FlashCommand.effects_programWords]
  rfl

/-- All commands together write the image. -/
theorem interrupted_of_complete
    {carriedOut : Nat}
    (complete : 124 ≤ carriedOut) :
    manager.interrupted padding carriedOut =
      (manager.saveDeviceConfig padding .done).2.flash.sector := by
  have all : manager.interrupted padding carriedOut =
      manager.interrupted padding (123 + 1) := by
    have length : (manager.saveCommands padding).length = 124 := by
      simp [saveCommands_eq]
    rw [interrupted, interrupted, List.take_of_length_le (by omega),
      List.take_of_length_le (by omega)]
  rw [all, interrupted_succ _ _ (Nat.le_refl _), saveDeviceConfig_done_flash,
    (FlashStorage.programLoop_done _ _ _ _).2]
  rfl

/-- The bytes of the image that stand there, and ones behind them. -/
theorem contents_interrupted
    {words : Nat}
    (few : words ≤ 122) :
    FlashMemory.contents (manager.interrupted padding (words + 1)) 0 490 =
      (manager.newBytes padding).take (words * 4) ++
        List.replicate (490 - words * 4) 0xFF := by
  have length := manager.length_newBytes padding
  have programmed := FlashMemory.contents_programWords_loop 4 (manager.newBytes padding)
    (n := 0x4000) (by omega : words * 4 ≤ _) (by omega)
  rw [length] at programmed
  rw [interrupted_succ _ _ (by omega)]
  exact programmed

/-! ## What a start makes of it -/

/-- The part of the bytes that a start computes the checksum of. -/
def checkedBytes (words : Nat) : List UInt8 :=
  (manager.newBytes padding).take (words * 4) ++ List.replicate (488 - words * 4) 0xFF

variable {words : Nat}

/-- The image that a start reads. -/
def partialImage (words : Nat) : FlashImage D :=
  storedImage (manager.interrupted padding (words + 1))

theorem toBytes_partialImage (few : words ≤ 122) :
    FlashImage.layout.toBytes (manager.partialImage padding words) =
      manager.checkedBytes padding words ++ [0xFF, 0xFF] := by
  have length := manager.length_newBytes padding
  have ones : List.replicate (490 - words * 4) (0xFF : UInt8) =
      List.replicate (488 - words * 4) 0xFF ++ [0xFF, 0xFF] := by
    have split : 490 - words * 4 = 488 - words * 4 + 2 := by omega
    rw [split, ← List.replicate_append_replicate]
    rfl
  rw [partialImage, storedImage, ByteLayout.toBytes_ofBytes _ _ (by simp),
    FlashImage.size_layout, contents_interrupted _ _ few, ones, ← List.append_assoc,
    ← checkedBytes, List.take_of_length_le]
  simp [checkedBytes, length]
  omega

theorem length_checkedBytes (few : words ≤ 122) :
    (manager.checkedBytes padding words).length = 488 := by
  have length := manager.length_newBytes padding
  simp [checkedBytes, length]
  omega

/-- The checksum is still erased. -/
theorem partialImage_crc (few : words ≤ 122) :
    (manager.partialImage padding words).config.crc = 0xFFFF := by
  have bytes := manager.toBytes_partialImage padding few
  rw [FlashImage.toBytes_eq] at bytes
  obtain ⟨-, crc⟩ := List.append_inj' bytes rfl
  have same := congrArg ByteLayout.word16.ofBytes crc
  rw [ByteLayout.ofBytes_toBytes] at same
  rw [same]
  rfl

theorem partialImage_expectedCrc (few : words ≤ 122) :
    (manager.partialImage padding words).expectedCrc =
      ReflectedCrc.checksum 0xA001 0xFFFF (manager.checkedBytes padding words) := by
  have length := manager.length_checkedBytes padding few
  rw [FlashImage.expectedCrc, toBytes_partialImage _ _ few, FlashImage.size_layout,
    List.take_left' length]

/-- The key is erased in front of the third word. -/
theorem partialImage_verifyKey (few : words ≤ 2) :
    (manager.partialImage padding words).config.device.verifyKey = 0xFFFFFFFF := by
  have length := manager.length_newBytes padding
  have erased : (FlashMemory.contents (manager.interrupted padding (words + 1)) 0 490).drop 8 =
      List.replicate 482 0xFF := by
    rw [contents_interrupted _ _ (by omega), List.drop_append, List.drop_replicate,
      List.length_take, length, List.drop_eq_nil_of_le (by simp; omega), List.nil_append]
    congr 1
    omega
  have key : (manager.partialImage padding words).config.device.verifyKey =
      ByteLayout.word32.ofBytes ((FlashMemory.contents (manager.interrupted padding (words + 1))
        0 (FlashImage.layout (D := D)).size).drop 8) := rfl
  rw [key, FlashImage.size_layout, erased]
  rfl

/-- A start accepts the image only if three words are there and the checksum matches by
chance. -/
theorem partialImage_isValid
    (few : words ≤ 122)
    (valid : (manager.partialImage padding words).IsValid) :
    3 ≤ words ∧
      ReflectedCrc.checksum 0xA001 0xFFFF (manager.checkedBytes padding words) = 0xFFFF := by
  obtain ⟨crc, key⟩ := valid
  rw [partialImage_expectedCrc _ _ few, partialImage_crc _ _ few] at crc
  refine ⟨?_, crc⟩
  by_contra more
  rw [partialImage_verifyKey _ _ (by omega)] at key
  exact absurd key (by decide)

variable [DoubleArith D] (loading : ConfigManager D) (bootPadding : Vector UInt8 2)
variable (bootReplies : SaveReplies)

/-- An image that was written as a whole is in force again. -/
theorem loaded_of_complete
    (valid : IsValidRuntimeConfig
      { manager.deviceConfig with verifyKey := configMagicNum } manager.sensor)
    (complete : storedImage loading.flash.sector = manager.newImage padding) :
    (loading.loadOrDefaults bootPadding bootReplies).2.deviceConfig =
        { manager.deviceConfig with verifyKey := configMagicNum } ∧
      (loading.loadOrDefaults bootPadding bootReplies).2.sensor = manager.sensor := by
  rw [loadOrDefaults_eq]
  simp only [complete]
  have accepts : (manager.newImage padding).IsValid ∧
      IsValidRuntimeConfig (manager.newImage padding).config.device
        (manager.newImage padding).config.sensor :=
    ⟨newImage_isValid manager padding, valid⟩
  rw [if_pos accepts]
  exact ⟨rfl, rfl⟩

end ConfigManager

namespace Application

variable [DoubleArith D] [DoubleLayout D]

/-- The application that starts with what the power failure has left in the sector. -/
def restarted
    (app : Application D)
    (padding : Vector UInt8 2)
    (carriedOut : Nat)
    (build : BuildInfo)
    (bootPadding : Vector UInt8 2)
    (bootReplies : SaveReplies) : Application D :=
  (construct build (app.configManager.interrupted padding carriedOut)).initialized bootPadding
    bootReplies false

omit [DoubleArith D] [DoubleLayout D] in
theorem settings_records (app : Application D) :
    app.settings.deviceConfig = app.system.device.deviceConfig ∧
      app.settings.sensor = app.system.device.sensor :=
  ⟨rfl, rfl⟩

/-- The records after a start are those that the configuration manager loads. -/
theorem initialized_records
    (app : Application D)
    (padding : Vector UInt8 2)
    (replies : SaveReplies) :
    (app.initialized padding replies false).settings.deviceConfig =
        (app.configManager.loadOrDefaults padding replies).2.deviceConfig ∧
      (app.initialized padding replies false).settings.sensor =
        (app.configManager.loadOrDefaults padding replies).2.sensor := by
  obtain ⟨device, sensor⟩ := settings_records (app.initialized padding replies false)
  rw [device, sensor]
  exact ⟨app.initialized_deviceConfig padding replies false,
    app.initialized_sensor padding replies false⟩

/-- When the power fails between two commands of a save, the next start uses the old image
up to the erase, the new configuration from the last word on, and the defaults in between.
Only a partial image whose checksum happens to match would be read as a configuration. -/
theorem restarted_after_interruptedSave
    (app : Application D)
    (valid : IsValidRuntimeConfig
      { app.settings.deviceConfig with verifyKey := configMagicNum } app.settings.sensor)
    (padding : Vector UInt8 2)
    (carriedOut : Nat)
    (build : BuildInfo)
    (bootPadding : Vector UInt8 2)
    (bootReplies : SaveReplies) :
    let restarted := app.restarted padding carriedOut build bootPadding bootReplies
    let programmed := app.configManager.checkedBytes padding (carriedOut - 1)
    (carriedOut = 0 → restarted =
      (construct build app.flash.sector).initialized bootPadding bootReplies false) ∧
    (1 ≤ carriedOut → carriedOut ≤ 123 →
      (restarted.settings.deviceConfig = SettingsStruct.defaults ∧
          restarted.settings.sensor = SensorStruct.defaults) ∨
        (4 ≤ carriedOut ∧ ReflectedCrc.checksum 0xA001 0xFFFF programmed = 0xFFFF)) ∧
    (124 ≤ carriedOut →
      restarted.settings.deviceConfig =
          { app.settings.deviceConfig with verifyKey := configMagicNum } ∧
        restarted.settings.sensor = app.settings.sensor) := by
  intro restarted programmed
  let manager := app.configManager
  let starting : Application D := construct build (manager.interrupted padding carriedOut)
  obtain ⟨device, sensor⟩ := starting.initialized_records bootPadding bootReplies
  have sector : starting.configManager.flash.sector =
      manager.interrupted padding carriedOut :=
    rfl
  refine ⟨?_, ?_, ?_⟩
  · intro untouched
    rw [show restarted = app.restarted padding carriedOut build bootPadding bootReplies from rfl,
      Application.restarted, untouched, ConfigManager.interrupted_zero]
    rfl
  · intro some early
    obtain ⟨words, rfl⟩ : ∃ words, carriedOut = words + 1 := ⟨carriedOut - 1, by omega⟩
    by_cases matching : (manager.partialImage padding words).IsValid
    · right
      obtain ⟨three, crc⟩ := manager.partialImage_isValid padding (by omega) matching
      exact ⟨by omega, crc⟩
    · left
      have defaults := starting.configManager.loaded_of_invalid bootPadding bootReplies
        (sector ▸ matching)
      exact ⟨device.trans defaults.1, sensor.trans defaults.2⟩
  · intro complete
    have stored : ConfigManager.storedImage starting.configManager.flash.sector =
        manager.newImage padding := by
      rw [sector, manager.interrupted_of_complete padding complete]
      exact ConfigManager.storedImage_of_saved (manager.saveDeviceConfig_done padding)
    have loaded := manager.loaded_of_complete padding starting.configManager bootPadding
      bootReplies valid stored
    exact ⟨device.trans loaded.1, sensor.trans loaded.2⟩

/-- A save of the defaults with another slave id, interrupted in the middle. -/
theorem restarted_after_interruptedSave_middle :
    let started : Application Binary64 :=
      (construct BuildInfo.unitTest (FlashMemory.erased _)).withConfigManager
        { ConfigManager.construct (FlashMemory.erased _) with
          deviceConfig := { SettingsStruct.defaults with id := 42 }
          sensor := SensorStruct.defaults }
    let restarted := started.restarted #v[0, 0] 50 BuildInfo.unitTest #v[0, 0] .done
    (restarted.settings.deviceConfig = SettingsStruct.defaults ∧
        restarted.settings.sensor = SensorStruct.defaults) ∨
      (4 ≤ 50 ∧ ReflectedCrc.checksum 0xA001 0xFFFF
        (started.configManager.checkedBytes #v[0, 0] 49) = 0xFFFF) := by
  intro started restarted
  have defaults := defaults_isValidRuntimeConfig (D := Binary64)
  have valid : IsValidRuntimeConfig
      { started.settings.deviceConfig with verifyKey := configMagicNum }
      started.settings.sensor :=
    { verifyKey := rfl
      id := by decide
      baudrate := defaults.baudrate
      identity := defaults.identity
      mulFactor := defaults.mulFactor
      displayUnit := defaults.displayUnit
      gas := defaults.gas }
  exact (restarted_after_interruptedSave started valid #v[0, 0] 50 BuildInfo.unitTest #v[0, 0]
    .done).2.1 (by decide) (by decide)

end Application

end SensorFirmware
