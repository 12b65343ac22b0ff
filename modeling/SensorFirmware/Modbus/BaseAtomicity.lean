import Mathlib.Tactic.IntervalCases
import SensorFirmware.Modbus.Runs

/-!
# What a rejected base package changes

`saveBaseSettings` decodes a package into the live configuration while it
validates the id, so a package that is rejected for its id has already been
stored.  The configuration is the same afterwards exactly when the package
repeats what is stored.
-/

namespace SensorFirmware

open BigEndian Flags

/-- The words of a package equal the stored fields that they would overwrite.
Word 47 belongs to a group that a rejected package does not reach. -/
structure RepeatsStored (data : Nat → UInt16) (len : UInt8)
    (config : SettingsStruct) : Prop where
  baseSerNum : ∀ i, i < 4 →
    FixedArray.read config.baseSerNum (i * 2) = highByte (data (1 + i)) ∧
      FixedArray.read config.baseSerNum (i * 2 + 1) = lowByte (data (1 + i))
  location : ∀ i, i < 12 →
    FixedArray.read config.location (i * 2) = highByte (data (13 + i)) ∧
      FixedArray.read config.location (i * 2 + 1) = lowByte (data (13 + i))
  locationEnd : FixedArray.read config.location 24 = 0
  testDue : config.configReg &&& testDueFltInhibit ≠ 0 ↔ data 29 = 1
  zeroSuppression : config.configReg &&& zeroSuppressionEn ≠ 0 ↔ data 30 = 1
  rs485 : config.configReg &&& rs485FltInhibit ≠ 0 ↔ data 41 = 1
  relayCard : config.configReg &&& relayCardInstalled ≠ 0 ↔ data 42 = 1
  callDue : 47 ≤ len →
    (config.configReg &&& callDueFltInhibit ≠ 0 ↔ data 45 = 1)
  battery : 47 ≤ len →
    (config.configReg &&& batteryFltInhibit ≠ 0 ↔ data 46 = 1)
  overRange : 53 ≤ len →
    (config.configReg &&& overRangeAutoReset ≠ 0 ↔ data 52 ≠ 0)
  manDateYear : config.manDateYear = (data 31).toUInt8.toUInt16
  manDateMonth : config.manDateMonth = (data 32).toUInt8.toUInt16
  analogOutLev : ∀ i, i < 6 →
    FixedArray.read config.analogOutLev i = (data (33 + i)).toUInt8
  display : config.display = decodeDisplay data
  baudrate : config.baudrate = decodeBaudrate data

/-! ## The configuration bits -/

/-- Every configuration bit has its own position. -/
theorem configBits (index : Nat) (inside : index < 16) :
    bit testDueFltInhibit index = decide (index = 0) ∧
      bit zeroSuppressionEn index = decide (index = 1) ∧
      bit rs485FltInhibit index = decide (index = 2) ∧
      bit relayCardInstalled index = decide (index = 3) ∧
      bit callDueFltInhibit index = decide (index = 4) ∧
      bit batteryFltInhibit index = decide (index = 5) ∧
      bit overRangeAutoReset index = decide (index = 7) ∧
      bit anlgOutFltAutoReset index = decide (index = 6) := by
  revert index
  decide

/-- The bits that a package writes although it is rejected for its id. -/
def configWrites (data : Nat → UInt16) (len : UInt8) : List BitWrite :=
  [⟨0, true, data 29 = 1⟩, ⟨1, true, data 30 = 1⟩, ⟨2, true, data 41 = 1⟩,
    ⟨3, true, data 42 = 1⟩, ⟨4, 47 ≤ len, data 45 = 1⟩, ⟨5, 47 ≤ len, data 46 = 1⟩,
    ⟨7, 53 ≤ len, data 52 ≠ 0⟩]

/-- The bits that a package writes, given the outcome of the id check. -/
def packageWrites (data : Nat → UInt16) (len ok : UInt8) : List BitWrite :=
  ⟨6, 51 ≤ len ∧ ok = 1, data 47 = 1⟩ :: configWrites data len

/-- Decoding updates the register bit by bit. -/
theorem bit_decodeConfigReg_package
    (data : Nat → UInt16)
    (len ok : UInt8)
    (reg : UInt16)
    (index : Nat)
    (inside : index < 16) :
    bit (decodeConfigReg data len ok reg) index =
      bitAfter (bit reg) (packageWrites data len ok) index := by
  obtain ⟨testDue, zeroSuppression, rs485, relayCard, callDue, battery, overRange,
    analogOut⟩ := configBits index inside
  simp only [decodeConfigReg, apply_ite (bit · index), bit_setBitIf, bit_and, bit_or,
    bit_not _ _ inside, testDue, zeroSuppression, rs485, relayCard, callDue, battery,
    overRange, analogOut, bitAfter, packageWrites, configWrites, decide_eq_true_eq]
  -- each position meets the one update that names it, if any
  interval_cases index <;> simp

/-- A rejected package does not reach the bit of word 47. -/
theorem bit_decodeConfigReg
    (data : Nat → UInt16)
    (len : UInt8)
    (reg : UInt16)
    (index : Nat)
    (inside : index < 16) :
    bit (decodeConfigReg data len 0 reg) index =
      bitAfter (bit reg) (configWrites data len) index := by
  rw [bit_decodeConfigReg_package data len 0 reg index inside, packageWrites, bitAfter]
  simp

/-- The register stays the same when every bit of the package is already
there. -/
theorem decodeConfigReg_eq_self_iff
    (data : Nat → UInt16)
    (len : UInt8)
    (reg : UInt16) :
    decodeConfigReg data len 0 reg = reg ↔
      (reg &&& testDueFltInhibit ≠ 0 ↔ data 29 = 1) ∧
        (reg &&& zeroSuppressionEn ≠ 0 ↔ data 30 = 1) ∧
        (reg &&& rs485FltInhibit ≠ 0 ↔ data 41 = 1) ∧
        (reg &&& relayCardInstalled ≠ 0 ↔ data 42 = 1) ∧
        (47 ≤ len → (reg &&& callDueFltInhibit ≠ 0 ↔ data 45 = 1)) ∧
        (47 ≤ len → (reg &&& batteryFltInhibit ≠ 0 ↔ data 46 = 1)) ∧
        (53 ≤ len → (reg &&& overRangeAutoReset ≠ 0 ↔ data 52 ≠ 0)) := by
  rw [mask_ne_zero_iff testDueFltInhibit reg 0 (by decide) fun i bound =>
      (configBits i bound).1,
    mask_ne_zero_iff zeroSuppressionEn reg 1 (by decide) fun i bound =>
      (configBits i bound).2.1,
    mask_ne_zero_iff rs485FltInhibit reg 2 (by decide) fun i bound =>
      (configBits i bound).2.2.1,
    mask_ne_zero_iff relayCardInstalled reg 3 (by decide) fun i bound =>
      (configBits i bound).2.2.2.1,
    mask_ne_zero_iff callDueFltInhibit reg 4 (by decide) fun i bound =>
      (configBits i bound).2.2.2.2.1,
    mask_ne_zero_iff batteryFltInhibit reg 5 (by decide) fun i bound =>
      (configBits i bound).2.2.2.2.2.1,
    mask_ne_zero_iff overRangeAutoReset reg 7 (by decide) fun i bound =>
      (configBits i bound).2.2.2.2.2.2.1]
  have written (condition : Prop) [Decidable condition] (index : Nat) :
      decide condition = bit reg index ↔ (bit reg index = true ↔ condition) := by
    rw [Bool.eq_iff_iff, decide_eq_true_iff]
    exact Iff.comm
  have kept := bitAfter_eq_self_iff (bit reg) (configWrites data len) 16
    (by simp [configWrites]) (by simp [configWrites])
  calc decodeConfigReg data len 0 reg = reg
      ↔ ∀ index, index < 16 →
          bitAfter (bit reg) (configWrites data len) index = bit reg index := by
        rw [eq_iff_bit]
        refine forall₂_congr fun index inside => ?_
        rw [bit_decodeConfigReg data len reg index inside]
    _ ↔ _ := kept
    _ ↔ _ := by
        simp only [configWrites, List.forall_mem_cons, List.not_mem_nil, written,
          decide_eq_true_iff, false_imp_iff, implies_true, forall_const, and_true]

/-! ## The whole package -/

/-- A package with an illegal id stores what is already there exactly when it
repeats the stored fields. -/
theorem decodeBaseSettings_eq_self_iff
    (data : Nat → UInt16)
    (len : UInt8)
    (config : SettingsStruct)
    (invalid : ¬ BaseIdValid data) :
    decodeBaseSettings data len 0 config = config ↔ RepeatsStored data len config := by
  have serial := storeWords_eq_self_iff config.baseSerNum (fun i => data (1 + i)) 4
    (by decide)
  have location := write_storeWords_eq_self_iff config.location (fun i => data (13 + i))
    12 24 0 (by decide) (by decide)
  have configReg := decodeConfigReg_eq_self_iff data len config.configReg
  have analogOut := FixedArray.fillLoop_eq_self_iff
    (fun i => (data (33 + i)).toUInt8) 6 config.analogOutLev (by decide)
  constructor
  · intro same
    have serialStored := congrArg SettingsStruct.baseSerNum same
    have locationStored := congrArg SettingsStruct.location same
    have configStored := congrArg SettingsStruct.configReg same
    have analogStored := congrArg SettingsStruct.analogOutLev same
    simp only [decodeBaseSettings] at serialStored locationStored
    simp only [decodeBaseSettings] at configStored analogStored
    have serialSame := serial.mp serialStored
    have locationSame := location.mp locationStored
    have configSame := configReg.mp configStored
    have analogSame := analogOut.mp analogStored
    exact
      { baseSerNum := serialSame
        location := locationSame.1
        locationEnd := locationSame.2.symm
        testDue := configSame.1
        zeroSuppression := configSame.2.1
        rs485 := configSame.2.2.1
        relayCard := configSame.2.2.2.1
        callDue := configSame.2.2.2.2.1
        battery := configSame.2.2.2.2.2.1
        overRange := configSame.2.2.2.2.2.2
        manDateYear := (congrArg SettingsStruct.manDateYear same).symm
        manDateMonth := (congrArg SettingsStruct.manDateMonth same).symm
        analogOutLev := analogSame
        display := (congrArg SettingsStruct.display same).symm
        baudrate := (congrArg SettingsStruct.baudrate same).symm }
  · intro repeats
    have serialSame := serial.mpr repeats.baseSerNum
    have locationSame := location.mpr ⟨repeats.location, repeats.locationEnd.symm⟩
    have configSame := configReg.mpr
      ⟨repeats.testDue, repeats.zeroSuppression, repeats.rs485, repeats.relayCard,
        repeats.callDue, repeats.battery, repeats.overRange⟩
    have analogSame := analogOut.mpr repeats.analogOutLev
    rw [decodeBaseSettings, if_neg invalid, serialSame, locationSame, configSame,
      analogSame, ← repeats.manDateYear, ← repeats.manDateMonth, ← repeats.display,
      ← repeats.baudrate]

namespace Device

/-- The handler rejects without a trace: there is no package, it is too short,
its id is legal so that it is not rejected, or it repeats what is stored. -/
def RejectsCleanly (dev : Device D) (data : Option (Nat → UInt16))
    (len : UInt8) : Prop :=
  match data with
  | none => True
  | some data =>
      len < 45 ∨ BaseIdValid data ∨ RepeatsStored data len dev.deviceConfig

/-- A rejected base package leaves the configuration, the slave address and the
save flags alone exactly when it rejects without a trace. -/
theorem saveBaseSettings_rejectsUnchanged_iff
    (dev : Device D)
    (data : Option (Nat → UInt16))
    (len : UInt8) :
    ((dev.saveBaseSettings data len).1 = 0 →
        (dev.saveBaseSettings data len).2.deviceConfig = dev.deviceConfig ∧
          (dev.saveBaseSettings data len).2.modbus.slaveAddress =
            dev.modbus.slaveAddress ∧
          (dev.saveBaseSettings data len).2.saveDevSettings = dev.saveDevSettings ∧
          (dev.saveBaseSettings data len).2.saveSensorInfo = dev.saveSensorInfo) ↔
      RejectsCleanly dev data len := by
  cases data with
  | none => exact iff_of_true (fun _ => ⟨rfl, rfl, rfl, rfl⟩) trivial
  | some data =>
      by_cases short : len < 45
      · rw [saveBaseSettings_short dev data len short]
        exact iff_of_true (fun _ => ⟨rfl, rfl, rfl, rfl⟩) (Or.inl short)
      by_cases valid : BaseIdValid data
      · have accepted := (saveBaseSettings_accepts_iff dev data len).mpr
          ⟨UInt8.not_lt.mp short, valid⟩
        exact iff_of_true (fun rejected => absurd rejected accepted)
          (Or.inr (Or.inl valid))
      · have unchanged := decodeBaseSettings_eq_self_iff data len dev.deviceConfig valid
        simp only [RejectsCleanly, short, valid, false_or]
        rw [← unchanged]
        simp only [saveBaseSettings, if_neg short, if_neg valid, ne_eq, not_true,
          if_false, and_self, and_true, forall_const]

/-- A package with id 0 that is rejected but changes the baud rate. -/
theorem saveBaseSettings_rejected_stores :
    let dev : Device ℚ := (powerOn BuildInfo.unitTest).configLoadFromFlash
    let data : Nat → UInt16 := fun index => if index = 44 then 9600 else 0
    (dev.saveBaseSettings (some data) 45).1 = 0 ∧
      dev.deviceConfig.baudrate = 57600 ∧
        (dev.saveBaseSettings (some data) 45).2.deviceConfig.baudrate = 9600 := by
  decide

end Device

end SensorFirmware
