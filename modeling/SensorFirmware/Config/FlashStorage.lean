import SensorFirmware.Library.FlashMemory

/-!
# Flash storage

The driver of the flash sector that keeps the configuration.  After every command
the driver waits until the controller is ready and looks at its error flags; what
the flags say and what the sector then holds is a parameter of each command, so
nothing is assumed about the hardware.
-/

namespace SensorFirmware

/-- `ConfigFlashAddress`. -/
def configFlashAddress : UInt32 := 0x08004000

/-- `ConfigSectorSize`. -/
def configSectorSize : UInt32 := 0x4000

/-- The bytes of the sector. -/
abbrev ConfigSector := Vector UInt8 0x4000

/-- A command to the flash controller. -/
inductive FlashCommand
  | eraseSector
  | programWord (position : Nat) (word : Vector UInt8 4)
  deriving DecidableEq

/-- The sector after a command that is carried out. -/
def FlashCommand.effect : FlashCommand → ConfigSector → ConfigSector
  | .eraseSector, _ => FlashMemory.erased _
  | .programWord position word, sector => FlashMemory.programWord sector position word

/-- How a command ends. -/
structure FlashReply where
  /-- `waitUntilReady` finds no error flag. -/
  ready : Bool
  /-- What the sector holds instead of the intended contents. -/
  settled : ConfigSector → ConfigSector

/-- The command is carried out. -/
def FlashReply.done : FlashReply where
  ready := true
  settled := id

/-- The sector and the commands to the controller, oldest first. -/
structure FlashStorage where
  sector : ConfigSector
  commands : List FlashCommand

/-- `isAddressInConfigSector`. -/
def IsAddressInConfigSector (address size : UInt32) : Prop :=
  size ≠ 0 ∧ ¬ address < configFlashAddress ∧
    ¬ configFlashAddress + configSectorSize < address + size

instance (address size : UInt32) : Decidable (IsAddressInConfigSector address size) :=
  inferInstanceAs (Decidable (_ ∧ _))

namespace FlashStorage

/-- Position of an address in the sector. -/
def position (address : UInt32) : Nat := (address - configFlashAddress).toNat

/-- Give a command and wait until the controller is ready. -/
def command (flash : FlashStorage) (command : FlashCommand) (reply : FlashReply) :
    Bool × FlashStorage :=
  (reply.ready,
    { sector := reply.settled (command.effect flash.sector)
      commands := flash.commands ++ [command] })

/-- `eraseConfigSector`; `idle` is the first `waitUntilReady`. -/
def eraseConfigSector (flash : FlashStorage) (idle : Bool) (reply : FlashReply) :
    Bool × FlashStorage :=
  if idle then flash.command .eraseSector reply else (false, flash)

/-- The loop of `write`: each word starts as ones and takes up to four bytes of the
data, and the flag drops at the early return. -/
def programLoop (address : UInt32) (bytes : List UInt8) (reply : Nat → FlashReply)
    (count : Nat) (flash : FlashStorage) : Bool × FlashStorage :=
  countedLoop
    (fun index state =>
      if state.1 then
        let offset := index * 4
        state.2.command
          (.programWord (position address + offset) (FlashMemory.wordAt 4 bytes offset))
          (reply index)
      else state)
    count (true, flash)

/-- `verify`; the data are a null pointer or the bytes to compare. -/
def verify (flash : FlashStorage) (address : UInt32) (data : Option (List UInt8)) : Bool :=
  match data with
  | none => false
  | some bytes =>
      if ¬ IsAddressInConfigSector address bytes.length.toUInt32 then false
      else
        decide (FlashMemory.contents flash.sector (position address) bytes.length = bytes)

/-- `write`; `idle` is the first `waitUntilReady`, and the words are numbered. -/
def write (flash : FlashStorage) (address : UInt32) (data : Option (List UInt8))
    (idle : Bool) (reply : Nat → FlashReply) : Bool × FlashStorage :=
  match data with
  | none => (false, flash)
  | some bytes =>
      if ¬ IsAddressInConfigSector address bytes.length.toUInt32 then (false, flash)
      else if idle then
        let programmed := programLoop address bytes reply
          (FlashMemory.wordCount 4 bytes.length) flash
        if programmed.1 then (programmed.2.verify address (some bytes), programmed.2)
        else programmed
      else (false, flash)

/-- `read` into a buffer; `none` is a failure, which leaves the buffer alone. -/
def read (flash : FlashStorage) (address : UInt32) (data : Option (List UInt8)) :
    Option (List UInt8) :=
  match data with
  | none => none
  | some buffer =>
      if ¬ IsAddressInConfigSector address buffer.length.toUInt32 then none
      else some (FlashMemory.contents flash.sector (position address) buffer.length)

/-- Bytes that were written with success stand in the sector, whatever the
controller did. -/
theorem contents_of_write
    {flash : FlashStorage}
    {address : UInt32}
    {bytes : List UInt8}
    {idle : Bool}
    {reply : Nat → FlashReply}
    (written : (flash.write address (some bytes) idle reply).1 = true) :
    FlashMemory.contents (flash.write address (some bytes) idle reply).2.sector
      (position address) bytes.length = bytes := by
  simp only [write] at written ⊢
  split at written
  · cases written
  · rename_i inside
    split at written
    · split at written
      · rename_i idle programmed
        simp only [verify, if_neg inside, decide_eq_true_eq] at written
        rw [if_neg inside, if_pos idle, if_pos programmed]
        exact written
      · rename_i failed
        exact absurd written failed
    · cases written

/-! ## Without faults -/

/-- When every command is carried out, the loop programs the words one after the
other. -/
theorem programLoop_done
    (address : UInt32)
    (bytes : List UInt8)
    (count : Nat)
    (flash : FlashStorage) :
    (programLoop address bytes (fun _ => .done) count flash).1 = true ∧
      (programLoop address bytes (fun _ => .done) count flash).2.sector =
        countedLoop
          (fun index sector =>
            FlashMemory.programWord sector (position address + index * 4)
              (FlashMemory.wordAt 4 bytes (index * 4)))
          count flash.sector := by
  induction count with
  | zero => exact ⟨rfl, rfl⟩
  | succ count inductionHypothesis =>
      obtain ⟨ready, sector⟩ := inductionHypothesis
      simp only [programLoop] at ready sector ⊢
      rw [countedLoop_succ, if_pos ready, countedLoop_succ, ← sector]
      exact ⟨rfl, rfl⟩

/-- Data written without faults to an erased sector are verified. -/
theorem write_done
    {flash : FlashStorage}
    {address : UInt32}
    {bytes : List UInt8}
    (inside : IsAddressInConfigSector address bytes.length.toUInt32)
    (fits : position address + bytes.length ≤ 0x4000)
    (erased : flash.sector = FlashMemory.erased _) :
    (flash.write address (some bytes) true fun _ => .done).1 = true := by
  obtain ⟨ready, sector⟩ := programLoop_done address bytes
    (FlashMemory.wordCount 4 bytes.length) flash
  have stands := FlashMemory.contents_programWords 4 (by decide) bytes
    (position address) fits
  rw [erased] at sector
  rw [FlashMemory.programWords, ← sector] at stands
  simp only [write, verify, if_neg (not_not_intro inside), ready, if_true, stands,
    decide_true]

end FlashStorage

end SensorFirmware
