import SensorFirmware.App.Application
import SensorFirmware.Modbus.Exchanges

/-!
# Iterations of the main loop

`Application::run` serves the Modbus line, saves the configuration when a flag asks
for it, and runs the other services.  While no flag is up, the image in the flash is
the configuration in force: a change raises a flag, and only a save that was verified
takes the flags down.
-/

namespace SensorFirmware

/-- What one iteration receives from outside. -/
structure LoopInput where
  nowMs : UInt32
  received : Option UartFrame
  receivedMs : UInt32
  /-- The bytes that fill up `SettingsStruct` in a saved image. -/
  padding : Vector UInt8 2
  replies : SaveReplies
  supplyVoltage : UInt16
  i2c : I2cReply
  /-- The result of `recoverBus`. -/
  recovered : Bool

namespace Application

/-- The application with another state of the system. -/
def withSystem (app : Application D) (system : System D) : Application D :=
  { app with system := system }

/-- The records and flags of the device. -/
def settings (app : Application D) : SettingsState D :=
  app.system.device.settings

theorem settings_deviceConfig
    (app : Application D) :
    app.settings.deviceConfig = app.system.device.deviceConfig := rfl

/-- No save is requested exactly while both flags are down. -/
theorem unrequested_iff
    (app : Application D) :
    ¬ app.settings.SaveRequested ↔
      app.system.device.saveDevSettings = 0 ∧ app.system.device.saveSensorInfo = 0 := by
  rw [SettingsState.SaveRequested, not_or, not_not, not_not]
  rfl

theorem withSystem_settings
    (app : Application D)
    (system : System D) :
    (app.withSystem system).settings = system.device.settings := rfl

theorem withSystem_flash
    (app : Application D)
    (system : System D) :
    (app.withSystem system).flash = app.flash := rfl

theorem withConfigManager_settings
    (app : Application D)
    (manager : ConfigManager D) :
    (app.withConfigManager manager).system.device.settings =
      { app.settings with
        deviceConfig := manager.deviceConfig
        sensor := manager.sensor } := rfl

@[simp] theorem withErrors_settings
    (sys : System D)
    (errors : ErrorManager) :
    (sys.withErrors errors).device.settings = sys.device.settings := rfl

section

variable [DoubleArith D]

/-- `modbus_.process()`. -/
def receive (app : Application D) (received : Option UartFrame) (time : UInt32) :
    Application D :=
  app.withSystem
    { app.system with device := (app.system.device.process received time).2 }

/-- The save that the flags ask for. -/
def saveRequested [DoubleLayout D] (app : Application D) (padding : Vector UInt8 2)
    (replies : SaveReplies) : Application D :=
  if app.settings.SaveRequested then
    let saved := app.configManager.saveDeviceConfig padding replies
    let app := app.withConfigManager saved.2
    app.withSystem (app.system.loopStep (.save saved.1))
  else app

/-- The rest of an iteration. -/
def serve (app : Application D) (input : LoopInput) : Application D :=
  let system := app.system.runLoop
    [.supplyVoltage input.supplyVoltage, .cycle input.nowMs input.i2c, .check]
  app.withSystem
    (if system.device.errors.recoveryRequested then
      system.loopStep (.recovery input.recovered)
    else system)

/-- One iteration of `Application::run`. -/
def iterate [DoubleLayout D] (app : Application D) (input : LoopInput) :
    Application D :=
  ((app.receive input.received input.receivedMs).saveRequested input.padding
    input.replies).serve input

end

/-! ## What leaves the settings alone -/

/-- The sensor service has nothing to do with the settings. -/
theorem process_cycle_settings
    (sys : System D)
    (nowMs : UInt32)
    (reply : I2cReply) :
    (sys.process nowMs reply).device.settings = sys.device.settings := by
  have cycle := sys.process_cycle nowMs reply
  generalize sys.access nowMs reply = access, sys.process nowMs reply = after at cycle ⊢
  cases cycle with
  | accepted rawTemperature rawHumidity =>
      rw [System.acceptReading,
        Device.updateModbus_project _ _ _ Device.settings fun _ _ => rfl]
      exact withErrors_settings sys _
  | earlyTrigger | earlyRead => rfl
  | triggered | triggerFailed | readFailed | rejected =>
      exact withErrors_settings sys _

/-- The services behind the save leave the settings alone. -/
theorem serve_settings [DoubleArith D]
    (app : Application D)
    (input : LoopInput) :
    (app.serve input).settings = app.settings := by
  have services : (app.system.runLoop
      [.supplyVoltage input.supplyVoltage, .cycle input.nowMs input.i2c,
        .check]).device.settings = app.system.device.settings := by
    simp only [System.runLoop_cons, System.runLoop_nil, System.loopStep,
      withErrors_settings, process_cycle_settings]
    rfl
  simp only [serve, withSystem, settings]
  split
  · simp only [System.loopStep, withErrors_settings]
    exact services
  · exact services

theorem serve_flash [DoubleArith D]
    (app : Application D)
    (input : LoopInput) :
    (app.serve input).flash = app.flash := by
  simp only [serve, withSystem_flash]

/-! ## The queue of frames -/

section

variable [DoubleArith D]

/-- No frame waits after a start. -/
theorem initialized_queueEmpty [DoubleLayout D]
    (app : Application D)
    (padding : Vector UInt8 2)
    (replies : SaveReplies)
    (watchdogReset : Bool) :
    (app.initialized padding replies watchdogReset).system.device.QueueEmpty := by
  have zero := app.initialized_frameQueue padding replies watchdogReset
  obtain ⟨buffer, holds, nothing⟩ := FrameQueue.zero_holds
  refine ⟨buffer, ?_, nothing⟩
  rw [zero]
  exact holds

/-- No action of the main loop but a call of `ModbusService::process` uses the queue of
frames. -/
theorem loopStep_frameQueue
    (sys : System D)
    (event : LoopEvent) :
    (sys.loopStep event).device.modbus.frameQueue = sys.device.modbus.frameQueue := by
  cases event with
  | cycle nowMs reply =>
      have cycle := sys.process_cycle nowMs reply
      rw [System.loopStep]
      generalize sys.access nowMs reply = access, sys.process nowMs reply = after at cycle ⊢
      cases cycle with
      | accepted rawTemperature rawHumidity =>
          rw [System.acceptReading,
            Device.updateModbus_project _ _ _ (·.modbus.frameQueue) fun _ _ => rfl]
          rfl
      | earlyTrigger | triggered | triggerFailed | earlyRead | readFailed | rejected => rfl
  | frame frame => exact Device.frameStep_frameQueue sys.device frame
  | save success => cases success <;> rfl
  | recovery | uartOverflow | check | supplyVoltage => rfl

/-- An iteration leaves the queue empty. -/
theorem iterate_queueEmpty [DoubleLayout D]
    {app : Application D}
    (empty : app.system.device.QueueEmpty)
    (input : LoopInput) :
    (app.iterate input).system.device.QueueEmpty := by
  have received : (app.receive input.received input.receivedMs).system.device.QueueEmpty :=
    (empty.process input.received input.receivedMs).1
  have saved : ((app.receive input.received input.receivedMs).saveRequested input.padding
      input.replies).system.device.QueueEmpty := by
    rw [saveRequested]
    split
    · simp only [withSystem]
      rw [Device.QueueEmpty, loopStep_frameQueue]
      exact received
    · exact received
  rw [iterate, serve]
  generalize (app.receive input.received input.receivedMs).saveRequested input.padding
    input.replies = middle at saved ⊢
  simp only [withSystem]
  split
  · rw [Device.QueueEmpty, loopStep_frameQueue]
    simp only [System.runLoop_cons, System.runLoop_nil, loopStep_frameQueue]
    exact saved
  · rw [Device.QueueEmpty]
    simp only [System.runLoop_cons, System.runLoop_nil, loopStep_frameQueue]
    exact saved

end

/-! ## The stored configuration -/

section

variable [DoubleLayout D]

/-- The image in the flash is the configuration in force. -/
def HoldsSettings (app : Application D) : Prop :=
  app.storedImage.config.device = app.settings.deviceConfig ∧
    app.storedImage.config.sensor = app.settings.sensor

/-- So it is while no save is requested. -/
def Saved (app : Application D) : Prop :=
  ¬ app.settings.SaveRequested → app.HoldsSettings

theorem Saved.of_same
    {app other : Application D}
    (saved : app.Saved)
    (flash : other.flash = app.flash)
    (settings : other.settings = app.settings) :
    other.Saved := by
  intro unrequested
  rw [settings] at unrequested
  rw [HoldsSettings, storedImage, flash, settings]
  exact saved unrequested

variable [DoubleArith D]

/-- A frame keeps the stored configuration up to date or requests a save. -/
theorem Saved.receive
    {app : Application D}
    {received : Option UartFrame}
    {time : UInt32}
    (saved : app.Saved)
    (legal : ∀ data len,
      app.system.device.ProcessCallsBaseSettings received time data len →
        45 ≤ len → BaseIdValid data) :
    (app.receive received time).Saved := by
  rcases Device.process_settings legal with same | requested
  · exact saved.of_same rfl same
  · exact fun unrequested => absurd requested unrequested

/-- A successful save stores the configuration, and a failed one stays requested. -/
theorem Saved.saveRequested
    {app : Application D}
    (saved : app.Saved)
    (padding : Vector UInt8 2)
    (replies : SaveReplies) :
    (app.saveRequested padding replies).Saved := by
  by_cases requested : app.settings.SaveRequested
  · rw [Application.saveRequested, if_pos requested]
    have device := ConfigManager.saveDeviceConfig_deviceConfig app.configManager padding
      replies
    have sensor := ConfigManager.saveDeviceConfig_sensor app.configManager padding replies
    cases result : (app.configManager.saveDeviceConfig padding replies).1 with
    | true =>
        simp only [result]
        intro _
        have image := ConfigManager.storedImage_of_saved result
        constructor
        · exact (congrArg (·.config.device) image).trans device.symm
        · exact (congrArg (·.config.sensor) image).trans sensor.symm
    | false =>
        simp only [result]
        rw [Saved, withSystem_settings, System.loopStep, withErrors_settings,
          withConfigManager_settings]
        intro unrequested
        exact absurd requested unrequested
  · rw [Application.saveRequested, if_neg requested]
    exact saved

omit [DoubleLayout D] in
/-- A flag is up behind `process` if it was up before or the frame asks for a save. -/
theorem receive_saveRequested_iff
    (app : Application D)
    (received : Option UartFrame)
    (time : UInt32) :
    (app.receive received time).settings.SaveRequested ↔
      app.settings.SaveRequested ∨
        app.system.device.ProcessAcceptsSettings received time :=
  app.system.device.process_saveRequested_iff received time

/-- The flags stay up exactly if a save failed. -/
theorem saveRequested_saveRequested_iff
    (app : Application D)
    (padding : Vector UInt8 2)
    (replies : SaveReplies) :
    (app.saveRequested padding replies).settings.SaveRequested ↔
      app.settings.SaveRequested ∧
        (app.configManager.saveDeviceConfig padding replies).1 = false := by
  by_cases requested : app.settings.SaveRequested
  · rw [saveRequested, if_pos requested]
    dsimp only
    cases result : (app.configManager.saveDeviceConfig padding replies).1 with
    | true =>
        rw [withSystem_settings, System.loopStep]
        simp [Device.settings, SettingsState.SaveRequested]
    | false =>
        rw [withSystem_settings, System.loopStep, withErrors_settings,
          withConfigManager_settings]
        exact iff_of_true requested ⟨requested, rfl⟩
  · rw [saveRequested, if_neg requested]
    simp [requested]

/-- Base settings that arrive in an iteration carry a legal slave id, if the package is
long enough to be decoded. -/
def LegalBaseSettings (app : Application D) (input : LoopInput) : Prop :=
  ∀ data len,
    app.system.device.ProcessCallsBaseSettings input.received input.receivedMs data len →
      45 ≤ len → BaseIdValid data

/-- An iteration keeps the configuration stored or requested. -/
theorem Saved.iterate
    {app : Application D}
    {input : LoopInput}
    (saved : app.Saved)
    (legal : app.LegalBaseSettings input) :
    (app.iterate input).Saved := by
  have before := (saved.receive legal).saveRequested input.padding input.replies
  exact before.of_same (serve_flash _ input) (serve_settings _ input)

/-- The application at power-on. -/
def construct (build : BuildInfo) (sector : ConfigSector) : Application D where
  system :=
    { device := Device.powerOn build
      service := SensorService.initialize
      lcd := [] }
  flash := (ConfigManager.construct sector : ConfigManager D).flash
  config := (ConfigManager.construct sector : ConfigManager D).config
  flashData := (ConfigManager.construct sector).flashData

/-- A start without flash faults leaves its configuration in the flash. -/
theorem initialized_holdsSettings
    (app : Application D)
    (padding : Vector UInt8 2)
    (watchdogReset : Bool) :
    (app.initialized padding .done watchdogReset).HoldsSettings := by
  have stored := app.configManager.storedImage_of_loaded padding .done
    (ConfigManager.saveDeviceConfig_done
      (app.configManager.withDefaults app.storedImage) padding)
  have device := app.initialized_deviceConfig padding .done watchdogReset
  have sensor := app.initialized_sensor padding .done watchdogReset
  simp only [HoldsSettings, storedImage, settings, Device.settings, device, sensor,
    initialized_flash]
  exact stored

omit [DoubleLayout D] [DoubleArith D] in
/-- Without a frame none is taken out of an empty queue. -/
theorem dequeued_silent
    {dev : Device D}
    (empty : dev.QueueEmpty)
    (time : UInt32) :
    (dev.dequeued none time).1 = 0 := by
  have notWaiting : ¬ (0 : UInt8) < 0 := by decide
  simp only [Device.dequeued, Device.queueReceived, Device.dequeueFrame, empty.count,
    if_neg notWaiting]

omit [DoubleLayout D] [DoubleArith D] in
/-- Without a frame no base settings arrive. -/
theorem legalBaseSettings_of_silent
    {app : Application D}
    {input : LoopInput}
    (silent : input.received = none)
    (empty : app.system.device.QueueEmpty) :
    app.LegalBaseSettings input := by
  intro data len calls
  rw [Device.ProcessCallsBaseSettings, silent] at calls
  exact absurd (dequeued_silent empty input.receivedMs) calls.1

omit [DoubleLayout D] in
/-- Without a frame the settings stay. -/
theorem receive_silent
    {app : Application D}
    (empty : app.system.device.QueueEmpty)
    (time : UInt32) :
    (app.receive none time).settings = app.settings := by
  rw [receive, withSystem_settings, Device.process_eq,
    if_neg (not_not_intro (dequeued_silent empty time)), Device.dequeued_settings]
  rfl

/-- A save leaves the slave id alone, whether it succeeds or not. -/
theorem saveRequested_id
    (app : Application D)
    (padding : Vector UInt8 2)
    (replies : SaveReplies) :
    (app.saveRequested padding replies).settings.deviceConfig.id =
      app.settings.deviceConfig.id := by
  rw [saveRequested]
  split
  · have kept := app.configManager.saveDeviceConfig_deviceConfig padding replies
    generalize app.configManager.saveDeviceConfig padding replies = saved at kept ⊢
    obtain ⟨success, manager⟩ := saved
    have id : manager.deviceConfig.id = app.settings.deviceConfig.id :=
      (congrArg SettingsStruct.id kept).trans rfl
    cases success with
    | true => exact id
    | false => exact id
  · rfl

/-- The package for slave id 7, as the UART hands it over. -/
def idSevenRequest : UartFrame where
  bytes := withCrc (writeMultipleBody 1 0 Device.idSevenPackage)
  fits := by
    simp only [withCrc, List.length_append, length_writeMultipleBody]
    decide

omit [DoubleLayout D] in
/-- The package moves a device with the defaults to its id and asks for a save. -/
theorem receive_idSeven
    {app : Application D}
    (empty : app.system.device.QueueEmpty)
    (config : app.system.device.deviceConfig = SettingsStruct.defaults)
    (time : UInt32) :
    (∀ data len,
        app.system.device.ProcessCallsBaseSettings (some idSevenRequest) time data len →
          BaseIdValid data) ∧
      (app.receive (some idSevenRequest) time).settings.SaveRequested ∧
      (app.receive (some idSevenRequest) time).settings.deviceConfig.id = 7 := by
  obtain ⟨someFrame, same⟩ := empty.dequeued_request idSevenRequest rfl time
  have before : (app.system.device.dequeued (some idSevenRequest) time).2.deviceConfig =
      SettingsStruct.defaults :=
    (congrArg SettingsState.deviceConfig (app.system.device.dequeued_settings _ time)).trans
      config
  have valid : (app.system.device.dequeued (some idSevenRequest) time).2.IdValid := by
    rw [Device.IdValid, before]
    decide
  obtain ⟨accepts, moved, legal⟩ :=
    Device.idSeven_carriedOut valid (by rw [before]; rfl) same
  refine ⟨fun data len calls => legal data len calls.2, ?_, ?_⟩
  · exact (app.receive_saveRequested_iff _ time).mpr (.inr ⟨someFrame, accepts⟩)
  · rw [receive, withSystem_settings, Device.process_eq, if_pos someFrame]
    exact moved

/-- The package arrives while the flash is busy, and the next iteration saves without
faults. -/
structure StoresAtRetry (package retry : LoopInput) : Prop where
  arrives : package.received = some idSevenRequest
  busy : package.replies.idleForErase = false
  silent : retry.received = none
  done : retry.replies = .done

section

variable {app : Application D} {package retry : LoopInput}
variable (empty : app.system.device.QueueEmpty)
variable (config : app.system.device.deviceConfig = SettingsStruct.defaults)
variable (retries : StoresAtRetry package retry)

include empty config retries

/-- The failed save stays requested. -/
theorem iterate_package :
    (app.iterate package).settings.SaveRequested ∧
      (app.iterate package).settings.deviceConfig.id = 7 := by
  obtain ⟨-, requested, moved⟩ := receive_idSeven empty config package.receivedMs
  rw [← retries.arrives] at requested moved
  rw [iterate, serve_settings, saveRequested_id]
  exact ⟨(saveRequested_saveRequested_iff _ _ _).mpr
    ⟨requested, ConfigManager.saveDeviceConfig_busy _ _ retries.busy⟩, moved⟩

/-- The second save takes the flags down. -/
theorem iterate_retry :
    ¬ ((app.iterate package).iterate retry).settings.SaveRequested ∧
      ((app.iterate package).iterate retry).system.device.deviceConfig.id = 7 := by
  obtain ⟨-, moved⟩ := iterate_package empty config retries
  have queued := iterate_queueEmpty empty package
  generalize app.iterate package = middle at moved queued ⊢
  rw [← settings_deviceConfig, iterate, serve_settings, saveRequested_id, retries.silent,
    receive_silent queued, saveRequested_saveRequested_iff, retries.done,
    ConfigManager.saveDeviceConfig_done]
  exact ⟨fun failed => absurd failed.2 (by decide), moved⟩

theorem legalBaseSettings_of_retry :
    Transition.AllSteps iterate LegalBaseSettings app [package, retry] := by
  obtain ⟨legal, -, -⟩ := receive_idSeven empty config package.receivedMs
  rw [← retries.arrives] at legal
  exact ⟨fun data len calls _ => legal data len calls,
    legalBaseSettings_of_silent retries.silent (iterate_queueEmpty empty package), trivial⟩

end

/-- In a run from a state whose configuration is stored, whatever frames arrive and
whichever saves fail, the image in the flash is the configuration in force after every
iteration that leaves both flags down. -/
theorem run_storesSettings
    (app : Application D)
    (inputs : List LoopInput)
    (stored : app.HoldsSettings)
    (legal : Transition.AllSteps iterate LegalBaseSettings app inputs) :
    ∀ reached ∈ Transition.visited iterate app inputs,
      reached.system.device.saveDevSettings = 0 →
        reached.system.device.saveSensorInfo = 0 →
          reached.storedImage.config.device = reached.system.device.deviceConfig ∧
            reached.storedImage.config.sensor = reached.system.device.sensor := by
  intro reached visited deviceFlag sensorFlag
  have initially : app.Saved := fun _ => stored
  have saved : reached.Saved :=
    legal.forall_visited Saved (fun _ _ saved legal => saved.iterate legal) initially reached
      visited
  exact saved (reached.unrequested_iff.mpr ⟨deviceFlag, sensorFlag⟩)

/-- A start from an erased flash and two iterations: the first receives the package for
slave id 7, and the flash stays busy when it saves; the second one saves what the first one
could not. -/
theorem run_storesSettings_retry :
    let app : Application Binary64 :=
      (construct BuildInfo.unitTest (FlashMemory.erased _)).initialized #v[0, 0] .done false
    let retry : LoopInput :=
      { nowMs := 1000
        received := none
        receivedMs := 0
        padding := #v[0, 0]
        replies := .done
        supplyVoltage := 120
        i2c := { triggerStatus := .ok, readStatus := .ok, frame := zeroBytes 6 }
        recovered := false }
    let package : LoopInput :=
      { retry with
        received := some idSevenRequest
        replies := { SaveReplies.done with idleForErase := false } }
    (app.iterate package).settings.SaveRequested ∧
      ¬ ((app.iterate package).iterate retry).settings.SaveRequested ∧
      ((app.iterate package).iterate retry).storedImage.config.device.id = 7 ∧
      ∀ reached ∈ Transition.visited iterate app [package, retry],
        reached.system.device.saveDevSettings = 0 →
          reached.system.device.saveSensorInfo = 0 →
            reached.storedImage.config.device = reached.system.device.deviceConfig ∧
              reached.storedImage.config.sensor = reached.system.device.sensor := by
  intro app retry package
  have stored : app.HoldsSettings := initialized_holdsSettings _ #v[0, 0] false
  have empty : app.system.device.QueueEmpty :=
    initialized_queueEmpty _ #v[0, 0] .done false
  have config : app.system.device.deviceConfig = SettingsStruct.defaults :=
    initialized_defaults _ #v[0, 0] .done false ConfigManager.storedImage_erased_unkeyed
  -- The two iterations are followed by lemmas, not by running the start.
  clear_value app
  have retries : StoresAtRetry package retry := ⟨rfl, rfl, rfl, rfl⟩
  have legal := legalBaseSettings_of_retry empty config retries
  obtain ⟨requested, -⟩ := iterate_package empty config retries
  obtain ⟨saved, moved⟩ := iterate_retry empty config retries
  have holds := run_storesSettings app [package, retry] stored legal
  refine ⟨requested, saved, ?_, holds⟩
  obtain ⟨deviceFlag, sensorFlag⟩ := (unrequested_iff _).mp saved
  have image := (holds _ (.tail _ (.head _)) deviceFlag sensorFlag).1
  rw [image]
  exact moved

end

end Application

end SensorFirmware
