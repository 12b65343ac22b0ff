import SensorFirmware.Modbus.CheckedRegisters
import SensorFirmware.Modbus.Commands

/-!
# Checked accesses of the base settings command

`saveBaseSettings` with a bounds check at every access to the argument window and
to the arrays of the device configuration.  It fetches the argument words that
the source reads and runs on these words alone.
-/

namespace SensorFirmware

open BigEndian

/-- Number of registers from `COMMAND_ARG1` to the end of `holdingRegs_`. -/
@[simp, reducible] def argumentWindowSize : Nat := holdingRegSize - commandArg1

/-- The registers that the pointer `&holdingRegs_[COMMAND_ARG1]` can reach. -/
def argumentWindow (bank : RegisterBank) : Vector UInt16 argumentWindowSize :=
  Vector.ofFn fun index => bank.holding (commandArg1 + index)

theorem read_argumentWindow (bank : RegisterBank) :
    FixedArray.read (argumentWindow bank) = Device.argumentsIn bank.holding := by
  funext index
  by_cases inside : index < argumentWindowSize
  · rw [FixedArray.read_eq_getElem _ _ inside, argumentWindow, Vector.getElem_ofFn]
    rfl
  · have outside : ¬ commandArg1 + index < holdingRegSize := by
      simp at inside ⊢
      omega
    rw [Device.argumentsIn, RegisterBank.holding, FixedArray.read_of_outside _ inside,
      FixedArray.read_of_outside _ outside]

/-! ## Base settings -/

/-- The argument words that `saveBaseSettings` reads. -/
def baseWords (len ok : UInt8) : List Nat :=
  List.range 5 ++ List.range' 13 12 ++ List.range' 29 16 ++
    (if 47 ≤ len then [45, 46] else []) ++
    (if 51 ≤ len ∧ ok = 1 then [47] else []) ++
    (if 53 ≤ len then [52] else [])

theorem baseWords_inside (len ok : UInt8) :
    ∀ index ∈ baseWords len ok, index < argumentWindowSize := by
  intro index read
  simp only [baseWords, List.mem_append, List.mem_range, List.mem_range'_1,
    List.mem_ite_nil_right, List.mem_cons, List.not_mem_nil, or_false] at read
  simp only [argumentWindowSize, holdingRegSize, commandArg1]
  omega

/-- The decoded configuration depends on these words only. -/
theorem decodeBaseSettings_congr
    {data other : Nat → UInt16}
    {len ok : UInt8}
    (agree : ∀ index ∈ baseWords len ok, data index = other index)
    (config : SettingsStruct) :
    decodeBaseSettings data len ok config = decodeBaseSettings other len ok config := by
  have front (index : Nat) (inside : index < 5) : data index = other index :=
    agree index (by simp [baseWords, inside])
  have location (index : Nat) (inside : index < 12) :
      data (13 + index) = other (13 + index) :=
    agree _ (by simp [baseWords]; omega)
  have block (index : Nat) (low : 29 ≤ index) (high : index < 45) :
      data index = other index :=
    agree _ (by simp [baseWords]; omega)
  have faults (long : 47 ≤ len) : data 45 = other 45 ∧ data 46 = other 46 :=
    ⟨agree _ (by simp [baseWords, long]), agree _ (by simp [baseWords, long])⟩
  have anlgOut (long : 51 ≤ len ∧ ok = 1) : data 47 = other 47 :=
    agree _ (by simp [baseWords, long])
  have overRange (long : 53 ≤ len) : data 52 = other 52 :=
    agree _ (by simp [baseWords, long])
  have configReg : decodeConfigReg data len ok config.configReg =
      decodeConfigReg other len ok config.configReg := by
    simp only [decodeConfigReg, block 29 (by decide) (by decide),
      block 30 (by decide) (by decide), block 41 (by decide) (by decide),
      block 42 (by decide) (by decide)]
    grind
  have serial : storeWords config.baseSerNum (fun i => data (1 + i)) 4 =
      storeWords config.baseSerNum (fun i => other (1 + i)) 4 :=
    storeWords_congr (fun i inside => front _ (by omega)) _
  have locationWords : storeWords config.location (fun i => data (13 + i)) 12 =
      storeWords config.location (fun i => other (13 + i)) 12 :=
    storeWords_congr location _
  have levels (index : Nat) (inside : index < 6) :
      (fun cells : Vector UInt8 8 =>
          FixedArray.write cells index (data (33 + index)).toUInt8) =
        fun cells => FixedArray.write cells index (other (33 + index)).toUInt8 := by
    rw [block _ (by omega) (by omega)]
  have idValid : BaseIdValid data ↔ BaseIdValid other := by
    rw [BaseIdValid, BaseIdValid, front 0 (by decide)]
  simp only [decodeBaseSettings, idValid, decodeDisplay, decodeBaudrate, configReg,
    serial, locationWords, front 0 (by decide), block 31 (by decide) (by decide),
    block 32 (by decide) (by decide), block 39 (by decide) (by decide),
    block 40 (by decide) (by decide), block 43 (by decide) (by decide),
    block 44 (by decide) (by decide), countedLoop_congr levels]

/-- The arrays of the decoded configuration. -/
theorem decodeBaseSettings_arrays
    (data : Nat → UInt16)
    (len ok : UInt8)
    (config : SettingsStruct) :
    { decodeBaseSettings data len ok config with
      baseSerNum := storeWords config.baseSerNum (fun i => data (1 + i)) 4
      location :=
        FixedArray.write (storeWords config.location (fun i => data (13 + i)) 12) 24 0
      analogOutLev :=
        countedLoop (fun i levels => FixedArray.write levels i (data (33 + i)).toUInt8) 6
          config.analogOutLev } =
      decodeBaseSettings data len ok config := rfl

namespace Device

/-- `ModbusService::saveBaseSettings`. -/
def saveBaseSettings? (dev : Device D) (window : Vector UInt16 argumentWindowSize)
    (len : UInt8) : Option (UInt8 × Device D) :=
  if len < 45 then some (0, dev)
  else do
    let id ← FixedArray.fetch window [0]
    let ok : UInt8 := if BaseIdValid (FixedArray.read id) then 1 else 0
    let words ← FixedArray.fetch window (baseWords len ok)
    let data := FixedArray.read words
    let config := dev.deviceConfig
    let serial ← storeWords? config.baseSerNum (fun i => data (1 + i)) 4
    let location ← storeWords? config.location (fun i => data (13 + i)) 12
    let closed ← FixedArray.write? location 24 0
    let levels ← FixedArray.fill? config.analogOutLev (fun i => (data (33 + i)).toUInt8) 6
    some
      (ok,
        { dev with
          deviceConfig :=
            { decodeBaseSettings data len ok config with
              baseSerNum := serial
              location := closed
              analogOutLev := levels }
          modbus :=
            { dev.modbus with
              slaveAddress :=
                if BaseIdValid data then (data 0).toUInt8 else dev.modbus.slaveAddress }
          saveDevSettings := if ok ≠ 0 then 1 else dev.saveDevSettings })

theorem saveBaseSettings?_eq_some
    (dev : Device D)
    (window : Vector UInt16 argumentWindowSize)
    (len : UInt8) :
    dev.saveBaseSettings? window len =
      some (dev.saveBaseSettings (some (FixedArray.read window)) len) := by
  rw [saveBaseSettings?, saveBaseSettings]
  split
  · rfl
  refine FixedArray.fetch_bind_eq window (by simp) fun id first => ?_
  have idValid : BaseIdValid (FixedArray.read id) ↔
      BaseIdValid (FixedArray.read window) := by
    rw [BaseIdValid, BaseIdValid, first 0 (by simp)]
  simp only [idValid]
  generalize (if BaseIdValid (FixedArray.read window) then (1 : UInt8) else 0) = ok
  refine FixedArray.fetch_bind_eq window (baseWords_inside len ok) fun words agree => ?_
  have decoded := decodeBaseSettings_congr agree dev.deviceConfig
  have zeroth := agree 0 (by simp [baseWords])
  have stillValid :
      BaseIdValid (FixedArray.read words) ↔ BaseIdValid (FixedArray.read window) := by
    rw [BaseIdValid, BaseIdValid, zeroth]
  simp only [storeWords?_eq_some _ _ _ (show 4 * 2 ≤ 8 by decide),
    storeWords?_eq_some _ _ _ (show 12 * 2 ≤ 32 by decide),
    FixedArray.write?_eq_some _ _ _ (show 24 < 32 by decide),
    FixedArray.fill?_eq_some _ _ _ (show 6 ≤ 8 by decide), Option.bind_eq_bind,
    Option.bind_some, stillValid, zeroth, decodeBaseSettings_arrays]
  rw [decoded]

end Device

end SensorFirmware
