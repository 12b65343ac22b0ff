import SensorFirmware.App.LostUpdates
import SensorFirmware.App.WatchdogFeeding
import SensorFirmware.Library.Retry

/-!
# The wear of the flash

A sector of the flash stands a limited number of erasures.  The main loop erases it only for
a settings command that was accepted and for a save that failed before, and it goes on
saving until the settings are stored.
-/

namespace SensorFirmware

open Retry (AttemptsUntilDone leftOver)

/-! ## Erasures -/

/-- How often the controller was told to erase the sector. -/
def FlashStorage.erasures (flash : FlashStorage) : Nat :=
  flash.commands.count .eraseSector

namespace FlashStorage

theorem erasures_command
    (flash : FlashStorage)
    (command : FlashCommand)
    (reply : FlashReply) :
    (flash.command command reply).2.erasures =
      flash.erasures + if command = .eraseSector then 1 else 0 := by
  rw [FlashStorage.command, erasures, erasures, List.count_append, List.count_singleton]
  simp

theorem erasures_programLoop
    (address : UInt32)
    (bytes : List UInt8)
    (reply : Nat → FlashReply)
    (count : Nat)
    (flash : FlashStorage) :
    (programLoop address bytes reply count flash).2.erasures = flash.erasures := by
  induction count with
  | zero => rfl
  | succ count inductionHypothesis =>
      rw [programLoop] at inductionHypothesis ⊢
      rw [countedLoop_succ]
      split
      · rw [erasures_command, inductionHypothesis]
        simp
      · exact inductionHypothesis

/-- Writing does not erase. -/
theorem erasures_write
    (flash : FlashStorage)
    (address : UInt32)
    (data : Option (List UInt8))
    (idle : Bool)
    (reply : Nat → FlashReply) :
    (flash.write address data idle reply).2.erasures = flash.erasures := by
  cases data with
  | none => rfl
  | some bytes =>
      have programmed := erasures_programLoop address bytes reply
        (FlashMemory.wordCount 4 bytes.length) flash
      rw [write]
      split
      · rfl
      · split
        · dsimp only
          split
          · exact programmed
          · exact programmed
        · rfl

end FlashStorage

/-- A save erases the sector once at most. -/
theorem ConfigManager.erasures_saveDeviceConfig [DoubleLayout D]
    (manager : ConfigManager D)
    (padding : Vector UInt8 2)
    (replies : SaveReplies) :
    (manager.saveDeviceConfig padding replies).2.flash.erasures ≤
      manager.flash.erasures + 1 := by
  have erased : (manager.flash.eraseConfigSector replies.idleForErase
      replies.erase).2.erasures ≤ manager.flash.erasures + 1 := by
    rw [FlashStorage.eraseConfigSector]
    split
    · rw [FlashStorage.erasures_command, if_pos rfl]
    · exact Nat.le_succ _
  rw [saveDeviceConfig]
  dsimp only
  split
  · exact erased
  · rw [FlashStorage.erasures_write]
    exact erased

/-- So does loading, which saves the defaults if the image is not valid. -/
theorem ConfigManager.erasures_loadOrDefaults [DoubleLayout D] [DoubleArith D]
    (manager : ConfigManager D)
    (padding : Vector UInt8 2)
    (replies : SaveReplies) :
    (manager.loadOrDefaults padding replies).2.flash.erasures ≤
      manager.flash.erasures + 1 := by
  rw [loadOrDefaults_eq]
  dsimp only
  split
  · exact Nat.le_succ _
  · exact (manager.withDefaults _).erasures_saveDeviceConfig padding replies

/-! ## Iterations as rounds -/

namespace Application

variable [DoubleArith D] [DoubleLayout D]

/-- The initialization leaves the flags alone. -/
theorem initialized_saveRequested
    (app : Application D)
    (padding : Vector UInt8 2)
    (replies : SaveReplies)
    (watchdogReset : Bool) :
    (app.initialized padding replies watchdogReset).settings.SaveRequested ↔
      app.settings.SaveRequested := by
  rw [initialized]
  generalize (app.configManager.loadOrDefaults padding replies).2 = manager
  dsimp only [settings]
  rw [Device.serviceStarted, Device.initialized_saveRequested]
  rfl

theorem erasures_saveRequested
    (app : Application D)
    (padding : Vector UInt8 2)
    (replies : SaveReplies) :
    (app.saveRequested padding replies).flash.erasures ≤
      app.flash.erasures + if app.settings.SaveRequested then 1 else 0 := by
  rw [saveRequested]
  split
  case isTrue requested =>
    rw [withSystem_flash]
    exact app.configManager.erasures_saveDeviceConfig padding replies
  case isFalse => exact Nat.le_refl _

end Application

namespace Firmware

variable [DoubleArith D] [DoubleLayout D]

/-- The frame of an iteration runs an accepted settings command. -/
def AcceptsSettings (fw : Firmware D) (input : FirmwareInput) : Prop :=
  fw.app.system.device.ProcessAcceptsSettings input.received input.receivedMs

/-- An iteration as a round of saving. -/
noncomputable def round (fw : Firmware D) (input : FirmwareInput) : Retry.Round where
  asked := by
    classical
    exact decide (fw.AcceptsSettings input)
  attempt := fw.saveResult input

/-- The rounds of a run, in order. -/
noncomputable def rounds (i2c1 : I2c1) (fw : Firmware D) (inputs : List FirmwareInput) :
    List Retry.Round :=
  Transition.outputs (iterate i2c1) round fw inputs

theorem round_asked
    (fw : Firmware D)
    (input : FirmwareInput) :
    (fw.round input).asked = true ↔ fw.AcceptsSettings input := by
  simp [round]

section

variable (i2c1 : I2c1) (fw : Firmware D) (input : FirmwareInput)

/-- An iteration saves exactly if its frame asks for it or a flag is still up. -/
theorem round_attempts :
    (fw.round input).attempt.isSome ↔
      (fw.round input).asked ∨ decide fw.app.settings.SaveRequested := by
  have flags := fw.app.receive_saveRequested_iff input.received input.receivedMs
  rw [round_asked, decide_eq_true_eq, or_comm, AcceptsSettings, ← flags]
  dsimp only [round, saveResult]
  split
  case isTrue requested => simp [requested]
  case isFalse unrequested => simp [unrequested]

/-- A flag is up behind an iteration exactly if its save failed. -/
theorem iterate_saveRequested :
    decide (fw.iterate i2c1 input).app.settings.SaveRequested =
      (fw.round input).leftOver := by
  have flags :=
    (fw.app.receive input.received input.receivedMs).saveRequested_saveRequested_iff
    input.padding input.replies
  have settings : (fw.iterate i2c1 input).app.settings =
      ((fw.app.receive input.received input.receivedMs).saveRequested input.padding
        input.replies).settings := by
    rw [iterate_app, Application.iterate, Application.serve_settings]
    rfl
  rw [Bool.eq_iff_iff, decide_eq_true_eq, settings, flags]
  dsimp only [Retry.Round.leftOver, round, saveResult]
  split
  case isTrue requested => simp [requested]
  case isFalse unrequested => simp [unrequested]

/-- An iteration erases the sector only for a save. -/
theorem iterate_erasures :
    (fw.iterate i2c1 input).app.flash.erasures ≤
      fw.app.flash.erasures + (fw.round input).attempt.isSome.toNat := by
  have saved := (fw.app.receive input.received input.receivedMs).erasures_saveRequested
    input.padding input.replies
  have flash : (fw.iterate i2c1 input).app.flash =
      ((fw.app.receive input.received input.receivedMs).saveRequested input.padding
        input.replies).flash := by
    rw [iterate_app, Application.iterate, Application.serve_flash]
    rfl
  have attempted : (fw.round input).attempt.isSome.toNat =
      if (fw.app.receive input.received input.receivedMs).settings.SaveRequested then 1
      else 0 := by
    dsimp only [round, saveResult]
    split
    · rfl
    · rfl
  rw [flash, attempted]
  exact saved

/-- Along a run the saves are attempts until success, and only they erase the sector. -/
theorem run_rounds (inputs : List FirmwareInput) :
    AttemptsUntilDone (decide fw.app.settings.SaveRequested) (fw.rounds i2c1 inputs) ∧
      leftOver (decide fw.app.settings.SaveRequested) (fw.rounds i2c1 inputs) =
        decide (fw.run i2c1 inputs).app.settings.SaveRequested ∧
      (fw.run i2c1 inputs).app.flash.erasures ≤
        fw.app.flash.erasures + (fw.rounds i2c1 inputs).countP (·.attempt.isSome) := by
  induction inputs generalizing fw with
  | nil => exact ⟨trivial, rfl, Nat.le_refl _⟩
  | cons input inputs inductionHypothesis =>
      obtain ⟨attempts, left, erasures⟩ := inductionHypothesis (fw.iterate i2c1 input)
      rw [iterate_saveRequested] at attempts left
      have erased := fw.iterate_erasures i2c1 input
      have rounds : fw.rounds i2c1 (input :: inputs) =
          fw.round input :: (fw.iterate i2c1 input).rounds i2c1 inputs := by
        rw [Firmware.rounds, Transition.outputs, Firmware.rounds]
      have reached : fw.run i2c1 (input :: inputs) =
          (fw.iterate i2c1 input).run i2c1 inputs := by
        rw [run, Transition.run_cons, run]
      rw [rounds, reached]
      refine ⟨⟨fw.round_attempts input, attempts⟩, left, ?_⟩
      rw [Retry.countP_cons, Nat.add_comm (List.countP _ _), ← Nat.add_assoc]
      exact erasures.trans (Nat.add_le_add_right erased _)

end

/-! ## From the start -/

section

variable (i2c1 : I2c1) (build : BuildInfo) (sector : ConfigSector)
variable (padding : Vector UInt8 2) (replies : SaveReplies) (watchdogReset : Bool)

/-- No flag is up after the start. -/
theorem boot_unrequested :
    ¬ (boot i2c1 build sector padding replies watchdogReset : Firmware
      D).app.settings.SaveRequested := by
  rw [boot, Application.initialized_saveRequested]
  rintro (requested | requested)
  · exact requested rfl
  · exact requested rfl

/-- The start erases the sector once at most. -/
theorem boot_erasures :
    (boot i2c1 build sector padding replies watchdogReset : Firmware
      D).app.flash.erasures ≤ 1 := by
  rw [boot, Application.initialized_flash]
  exact ConfigManager.erasures_loadOrDefaults _ padding replies

/-- In every run from the start, whatever frames arrive and whatever the flash does, an
iteration saves the settings exactly if its frame runs an accepted settings command or the
save of the iteration before failed.  So every accepted command is followed by a save that
succeeds, unless a flag is still up, and the sector is erased no more than once for the
start, for each accepted command and for each failed save. -/
theorem run_savesAccepted
    (inputs : List FirmwareInput) :
    let start : Firmware D := boot i2c1 build sector padding replies watchdogReset
    let rounds := start.rounds i2c1 inputs
    let after := start.run i2c1 inputs
    AttemptsUntilDone false rounds ∧
      (∀ before round later, rounds = before ++ round :: later → round.asked = true →
        (∃ save ∈ round :: later, save.done = true) ∨ after.app.settings.SaveRequested) ∧
      after.app.flash.erasures ≤
        1 + (rounds.countP Retry.Round.asked + rounds.countP Retry.Round.leftOver) := by
  intro start rounds after
  have unrequested := boot_unrequested i2c1 build sector padding replies watchdogReset (D := D)
  have booted := boot_erasures i2c1 build sector padding replies watchdogReset (D := D)
  obtain ⟨attempts, left, erasures⟩ := start.run_rounds i2c1 inputs
  rw [decide_eq_false unrequested] at attempts left
  refine ⟨attempts, ?_, ?_⟩
  · intro before round later cut asked
    have kept : rounds = before ++ round :: later := cut
    rw [show start.rounds i2c1 inputs = rounds from rfl, kept] at attempts left
    rcases Retry.done_or_leftOver attempts asked with done | pending
    · exact .inl done
    · rw [pending] at left
      exact .inr (of_decide_eq_true left.symm)
  · exact erasures.trans (Nat.add_le_add booted (Retry.attempts_le attempts))

end

end Firmware

end SensorFirmware
