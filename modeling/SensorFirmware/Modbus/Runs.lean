import SensorFirmware.Config.ConfigManager
import SensorFirmware.Library.Transition
import SensorFirmware.Modbus.Outcome

/-!
# Runs of frames

The device after `ModbusService::initialize`, the step that processes one
frame, and the two invariants that every run keeps whatever the frames are:
a legal slave id stays legal, and the fixed temperature of the service stays
what the constructor made it.
-/

namespace SensorFirmware
namespace Device

/-! ## Views that ignore the traffic -/

/-- A view of the device that sees neither the registers nor the buffers nor the
link statistics. -/
structure IgnoresTraffic (project : Device D → β) : Prop where
  bank : ∀ dev change, project (dev.updateBank change) = project dev
  sent : ∀ dev transmitted,
    project { dev with transmitted := transmitted } = project dev
  scratch : ∀ dev scratch, project (dev.withScratch scratch) = project dev
  link : ∀ dev errors slaveAddress,
    project
      { dev with
        errors := errors
        modbus := { dev.modbus with slaveAddress := slaveAddress } } = project dev

theorem ignoresTraffic_deviceConfig :
    IgnoresTraffic (Device.deviceConfig : Device D → SettingsStruct) :=
  ⟨fun _ _ => rfl, fun _ _ => rfl, fun _ _ => rfl, fun _ _ _ => rfl⟩

theorem ignoresTraffic_sensor :
    IgnoresTraffic (Device.sensor : Device D → SensorStruct D) :=
  ⟨fun _ _ => rfl, fun _ _ => rfl, fun _ _ => rfl, fun _ _ _ => rfl⟩

theorem ignoresTraffic_tempVal :
    IgnoresTraffic (fun dev : Device D => dev.modbus.tempVal) :=
  ⟨fun _ _ => rfl, fun _ _ => rfl, fun _ _ => rfl, fun _ _ _ => rfl⟩

theorem ignoresTraffic_frameQueue :
    IgnoresTraffic (fun dev : Device D => dev.modbus.frameQueue) :=
  ⟨fun _ _ => rfl, fun _ _ => rfl, fun _ _ => rfl, fun _ _ _ => rfl⟩

/-- The device when a multiple write calls `runCommand`: its words are written
and the write is answered. -/
def commandState (dev : Device D) (frame : FrameItem) : Device D :=
  (dev.noteValidFrame.writeRegisters frame).answer frame (writeEcho frame)

/-- The word of a register once the words of a multiple write are stored. -/
def requestWord (dev : Device D) (frame : FrameItem) (reg : Nat) : UInt16 :=
  if frame.addr.toNat ≤ reg ∧ reg < frame.addr.toNat + frame.qty.toNat then
    frame.wordAt (7 + (reg - frame.addr.toNat) * 2)
  else dev.holding reg

/-- The registers when a multiple write calls `runCommand`. -/
theorem commandState_holding
    (dev : Device D)
    {frame : FrameItem}
    (valid : frame.WriteMultipleValid) :
    (dev.commandState frame).holding = dev.requestWord frame := by
  funext reg
  rw [commandState, answer_holding, writeRegisters_holding _ valid]
  rfl

theorem noteValidFrame_slaveAddress
    {dev : Device D}
    (valid : dev.IdValid) :
    dev.noteValidFrame.modbus.slaveAddress = dev.deviceConfig.id.toUInt8 :=
  if_pos valid

section

variable {project : Device D → β} (ignores : IgnoresTraffic project)
variable {dev : Device D} {frame : FrameItem}

include ignores

theorem IgnoresTraffic.noteValidFrame :
    project dev.noteValidFrame = project dev :=
  ignores.link _ _ _

theorem IgnoresTraffic.answer (response : List UInt8) :
    project (dev.answer frame response) = project dev :=
  answer_keeps dev frame response project fun _ => ignores.sent _ _

theorem IgnoresTraffic.answerRead (function : UInt8) (words : List UInt16) :
    project (dev.answerRead frame function words) = project dev :=
  answerRead_keeps dev frame function words project fun _ _ =>
    (ignores.sent _ _).trans (ignores.scratch _ _)

theorem IgnoresTraffic.commandState :
    project (dev.commandState frame) = project dev := by
  rw [Device.commandState, ignores.answer, writeRegisters, ignores.bank,
    ignores.noteValidFrame]

end

/-! ## The step of a run -/

variable [DoubleArith D]

/-- `Config_LoadFromFlash`. -/
def configLoadFromFlash (dev : Device D) : Device D :=
  if dev.deviceConfig.verifyKey ≠ configMagicNum then
    { dev with
      deviceConfig := SettingsStruct.defaults
      sensor := SensorStruct.defaults }
  else dev

/-- `ModbusService::initialize`. -/
def initialized (dev : Device D) (slaveAddress : UInt8) : Device D :=
  { dev with
    modbus :=
      { dev.modbus with
        slaveAddress := slaveAddress
        bank := RegisterBank.zero
        frameQueue := FrameQueue.zero } }
    |>.configLoadFromFlash
    |>.syncAll

section

variable {dev : Device D} (slaveAddress : UInt8)

/-- A keyed configuration survives the initialization. -/
theorem initialized_deviceConfig
    (keyed : dev.deviceConfig.verifyKey = configMagicNum) :
    (dev.initialized slaveAddress).deviceConfig = dev.deviceConfig := by
  rw [initialized, syncAll, updateBank_deviceConfig, configLoadFromFlash,
    if_neg (not_not_intro keyed)]

theorem initialized_sensor
    (keyed : dev.deviceConfig.verifyKey = configMagicNum) :
    (dev.initialized slaveAddress).sensor = dev.sensor := by
  rw [initialized, syncAll, updateBank_sensor, configLoadFromFlash,
    if_neg (not_not_intro keyed)]

end

section

variable (dev : Device D) (slaveAddress : UInt8)

/-- The initialization of the service reports nothing. -/
theorem initialized_errors :
    (dev.initialized slaveAddress).errors = dev.errors := by
  rw [initialized, syncAll, updateBank_errors, configLoadFromFlash]
  split
  · rfl
  · rfl

/-- The initialization takes over the slave address. -/
theorem initialized_slaveAddress :
    (dev.initialized slaveAddress).modbus.slaveAddress = slaveAddress := by
  rw [initialized, syncAll, updateBank_slaveAddress, configLoadFromFlash]
  split
  · rfl
  · rfl

/-- The initialization leaves no frame in the queue. -/
theorem initialized_frameQueue :
    (dev.initialized slaveAddress).modbus.frameQueue = FrameQueue.zero := by
  rw [initialized, syncAll, updateBank, configLoadFromFlash]
  split
  · rfl
  · rfl

end

/-- The device at power-on: zero-filled records and a constructed service. -/
def powerOn (build : BuildInfo) : Device D where
  modbus := ModbusService.construct
  errors := ErrorManager.initialized
  deviceConfig := SettingsStruct.zero
  sensor := SensorStruct.zero
  saveDevSettings := 0
  saveSensorInfo := 0
  baudRate := 0
  transmitted := []
  build := build

/-- The part of `Application::initialize` that sets up the service: load the
configuration, reset the error manager and initialize the service. -/
def boot (imageBytes : SettingsStruct → SensorStruct D → List UInt8)
    (flashData : Option (FlashConfig D)) (dev : Device D) : Device D :=
  let loaded := loadOrDefaults imageBytes flashData
  let dev :=
    { dev with
      deviceConfig := loaded.1
      sensor := loaded.2
      errors := ErrorManager.initialized }
  dev.initialized dev.deviceConfig.id.toUInt8

section

variable (imageBytes : SettingsStruct → SensorStruct D → List UInt8)
variable (flashData : Option (FlashConfig D)) (dev : Device D)

theorem boot_deviceConfig :
    (boot imageBytes flashData dev).deviceConfig =
      (loadOrDefaults imageBytes flashData).1 :=
  initialized_deviceConfig _
    (loadOrDefaults_isValidRuntimeConfig imageBytes flashData).verifyKey

theorem boot_sensor :
    (boot imageBytes flashData dev).sensor =
      (loadOrDefaults imageBytes flashData).2 :=
  initialized_sensor _
    (loadOrDefaults_isValidRuntimeConfig imageBytes flashData).verifyKey

theorem boot_tempVal :
    (boot imageBytes flashData dev).modbus.tempVal = dev.modbus.tempVal := by
  rw [boot, initialized, syncAll, updateBank_tempVal, configLoadFromFlash]
  split
  · rfl
  · rfl

end

/-- The device at its first start, with an empty flash. -/
def firstBoot (build : BuildInfo) : Device D :=
  boot (fun _ _ => []) none (powerOn build)

theorem firstBoot_deviceConfig (build : BuildInfo) :
    (firstBoot build : Device D).deviceConfig = SettingsStruct.defaults :=
  boot_deviceConfig _ none _

theorem firstBoot_id (build : BuildInfo) :
    (firstBoot build : Device D).deviceConfig.id.toUInt8 = 1 := by
  rw [firstBoot_deviceConfig]
  rfl

/-- Process one frame and drop the return value. -/
def frameStep (dev : Device D) (frame : FrameItem) : Device D :=
  (dev.processFrame (some frame)).2

/-- Process frames one after the other. -/
def runFrames (dev : Device D) (frames : List FrameItem) : Device D :=
  Transition.run frameStep dev frames

@[simp] theorem runFrames_nil (dev : Device D) : dev.runFrames [] = dev := rfl

@[simp] theorem runFrames_cons
    (dev : Device D)
    (frame : FrameItem)
    (frames : List FrameItem) :
    dev.runFrames (frame :: frames) = (dev.frameStep frame).runFrames frames := rfl

/-! ## Frames that run a command -/

/-- The frame is a multiple write that is carried out and covers the command
register. -/
def RunsCommand (dev : Device D) (frame : FrameItem) : Prop :=
  dev.Reaches frame ∧ frame.byte 1 = fcWriteMultipleRegs ∧ 9 ≤ frame.len ∧
    frame.WriteMultipleValid ∧ CoversCommand frame.addr frame.qty

/-- A multiple write that is carried out ends with `runCommand`. -/
theorem processFrame_writeMultiple
    {dev : Device D}
    {frame : FrameItem}
    (reaches : dev.Reaches frame)
    (code : frame.byte 1 = fcWriteMultipleRegs)
    (long : 9 ≤ frame.len)
    (valid : frame.WriteMultipleValid) :
    dev.processFrame (some frame) =
      (1, ((dev.commandState frame).runCommand frame.addr frame.qty).2) := by
  have notReadHolding : ¬ fcWriteMultipleRegs = fcReadHolding := by decide
  have notReadInput : ¬ fcWriteMultipleRegs = fcReadInput := by decide
  have notWriteSingle : ¬ fcWriteMultipleRegs = fcWriteSingleReg := by decide
  have notShort : ¬ frame.len < 9 := UInt16.not_lt.mpr long
  rw [processFrame_of_reaches reaches, dispatch, code, if_neg notReadHolding,
    if_neg notReadInput, if_neg notWriteSingle, if_pos rfl,
    processWriteMultipleRegisters, if_neg notShort, if_neg (not_not_intro valid)]
  rfl

theorem frameStep_runsCommand
    {dev : Device D}
    {frame : FrameItem}
    (runs : dev.RunsCommand frame) :
    dev.frameStep frame =
      ((dev.commandState frame).runCommand frame.addr frame.qty).2 := by
  obtain ⟨reaches, code, long, valid, _⟩ := runs
  rw [frameStep, processFrame_writeMultiple reaches code long valid]

variable {project : Device D → β} {dev : Device D} {frame : FrameItem}

/-- Such a view changes only when a command runs. -/
theorem IgnoresTraffic.frameStep
    (ignores : IgnoresTraffic project)
    (quiet : ¬ dev.RunsCommand frame) :
    project (dev.frameStep frame) = project dev := by
  rw [Device.frameStep]
  have processed := processFrame_processed dev (some frame)
  generalize dev.processFrame (some frame) = result at processed ⊢
  cases processed with
  | runt => rfl
  | corrupted => exact ignores.link dev _ dev.modbus.slaveAddress
  | foreign => exact ignores.noteValidFrame
  | dispatched _ reaches =>
      refine Eq.trans ?_ ignores.noteValidFrame
      have handled := dispatch_handled dev.noteValidFrame frame
      generalize dev.noteValidFrame.dispatch frame = result at handled ⊢
      cases handled with
      | tooShort => rfl
      | refused errorCode =>
          exact answerError_keeps _ frame _ errorCode project fun _ => ignores.sent _ _
      | readHolding => exact ignores.answerRead _ _
      | readInput =>
          rw [ignores.answerRead, updateLiveInputs_project _ _ ignores.bank]
      | writeSingle => rw [ignores.answer, setHoldingRegister, ignores.bank]
      | writeMultiple code long valid =>
          have uncovered : ¬ CoversCommand frame.addr frame.qty :=
            fun covered => quiet ⟨reaches, code, long, valid, covered⟩
          rw [runCommand_uncovered uncovered, ignores.answer, writeRegisters,
            ignores.bank]

/-- No frame touches the frame queue. -/
theorem frameStep_frameQueue (dev : Device D) (frame : FrameItem) :
    (dev.frameStep frame).modbus.frameQueue = dev.modbus.frameQueue := by
  by_cases runs : dev.RunsCommand frame
  · rw [frameStep_runsCommand runs, runCommand_frameQueue]
    exact ignoresTraffic_frameQueue.commandState
  · exact ignoresTraffic_frameQueue.frameStep runs

/-! ## The slave id stays legal -/

theorem firstBoot_idValid (build : BuildInfo) : (firstBoot build : Device D).IdValid := by
  rw [IdValid, firstBoot_deviceConfig]
  decide

/-- A settings command leaves a legal slave id legal. -/
theorem handleCommand_idValid
    (qty : UInt16)
    (valid : dev.IdValid) :
    (dev.handleCommand qty).2.IdValid := by
  rcases handleCommand_cases dev qty with
    ⟨_, handled⟩ | ⟨_, handled⟩ | ⟨_, handled⟩ | ⟨_, handled⟩
  · rw [handled, IdValid, saveSensorSettings_id]
    exact valid
  · rw [handled]
    by_cases short : commandLen qty < 45
    · rw [saveBaseSettings_short _ _ _ short]
      exact valid
    obtain ⟨ok, decoded⟩ := saveBaseSettings_deviceConfig dev dev.commandArgs
      (commandLen qty) (UInt8.not_lt.mp short)
    rw [IdValid, decoded]
    by_cases idValid : BaseIdValid dev.commandArgs
    · simp only [decodeBaseSettings, if_pos idValid, idValid.narrowed]
      exact idValid
    · simp only [decodeBaseSettings, if_neg idValid]
      exact valid
  · rw [handled]
    exact valid
  · rw [handled]
    exact valid

/-- So does every frame. -/
theorem frameStep_idValid
    (valid : dev.IdValid) :
    (dev.frameStep frame).IdValid := by
  by_cases runs : dev.RunsCommand frame
  · rw [frameStep_runsCommand runs, IdValid,
      runCommand_project Device.deviceConfig (fun _ _ => rfl) runs.2.2.2.2]
    apply handleCommand_idValid
    rw [IdValid, ignoresTraffic_deviceConfig.commandState]
    exact valid
  · rw [IdValid, ignoresTraffic_deviceConfig.frameStep runs]
    exact valid

/-! ## The slave address follows the slave id -/

/-- The address filter uses the configured slave id. -/
def IdInForce (dev : Device D) : Prop :=
  dev.modbus.slaveAddress = dev.deviceConfig.id.toUInt8

/-- So it is after a boot. -/
theorem boot_idInForce
    (imageBytes : SettingsStruct → SensorStruct D → List UInt8)
    (flashData : Option (FlashConfig D))
    (dev : Device D) :
    (boot imageBytes flashData dev).IdInForce := by
  rw [IdInForce, boot_deviceConfig, boot, initialized_slaveAddress]

/-- A settings command moves the address together with the id. -/
theorem handleCommand_idInForce
    (qty : UInt16)
    (inForce : dev.IdInForce) :
    (dev.handleCommand qty).2.IdInForce := by
  rcases handleCommand_cases dev qty with
    ⟨_, handled⟩ | ⟨_, handled⟩ | ⟨_, handled⟩ | ⟨_, handled⟩
  · rw [handled, IdInForce, saveSensorSettings_slaveAddress, saveSensorSettings_id]
    exact inForce
  · rw [handled]
    by_cases short : commandLen qty < 45
    · rw [saveBaseSettings_short _ _ _ short]
      exact inForce
    by_cases idValid : BaseIdValid dev.commandArgs
    · simp only [IdInForce, saveBaseSettings, decodeBaseSettings, if_neg short,
        if_pos idValid, UInt8.toUInt8_toUInt16]
    · simp only [IdInForce, saveBaseSettings, decodeBaseSettings, if_neg short,
        if_neg idValid]
      exact inForce
  · rw [handled]
    exact inForce
  · rw [handled]
    exact inForce

/-- A frame that runs no command at most refreshes the address. -/
theorem frameStep_slaveAddress
    (quiet : ¬ dev.RunsCommand frame) :
    (dev.frameStep frame).modbus.slaveAddress = dev.modbus.slaveAddress ∨
      (dev.frameStep frame).modbus.slaveAddress =
        dev.noteValidFrame.modbus.slaveAddress := by
  rw [frameStep]
  have processed := processFrame_processed dev (some frame)
  generalize dev.processFrame (some frame) = result at processed ⊢
  cases processed with
  | runt => exact Or.inl rfl
  | corrupted => exact Or.inl rfl
  | foreign => exact Or.inr rfl
  | dispatched _ reaches =>
      right
      have handled := dispatch_handled dev.noteValidFrame frame
      generalize dev.noteValidFrame.dispatch frame = result at handled ⊢
      cases handled with
      | tooShort => rfl
      | refused => simp
      | readHolding => simp
      | readInput => simp
      | writeSingle => simp [setHoldingRegister]
      | writeMultiple code long valid =>
          have uncovered : ¬ CoversCommand frame.addr frame.qty :=
            fun covered => quiet ⟨reaches, code, long, valid, covered⟩
          rw [runCommand_uncovered uncovered]
          simp [writeRegisters]

/-- Every frame keeps the address in step with the id. -/
theorem frameStep_idInForce
    (valid : dev.IdValid)
    (inForce : dev.IdInForce) :
    (dev.frameStep frame).IdInForce := by
  by_cases runs : dev.RunsCommand frame
  · have covered := runs.2.2.2.2
    have before : (dev.commandState frame).IdInForce := by
      rw [IdInForce, ignoresTraffic_deviceConfig.commandState,
        ← noteValidFrame_slaveAddress valid]
      simp [commandState, writeRegisters]
    have after := handleCommand_idInForce frame.qty before
    rw [frameStep_runsCommand runs, IdInForce,
      runCommand_project Device.deviceConfig (fun _ _ => rfl) covered,
      runCommand_project (fun dev => dev.modbus.slaveAddress) (fun _ _ => rfl) covered]
    exact after
  · rw [IdInForce, ignoresTraffic_deviceConfig.frameStep runs]
    rcases frameStep_slaveAddress runs with same | refreshed
    · exact same.trans inForce
    · exact refreshed.trans (noteValidFrame_slaveAddress valid)

end Device

end SensorFirmware
