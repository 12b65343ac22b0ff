import SensorFirmware.Modbus.BaseAtomicity
import SensorFirmware.Modbus.Responses
import SensorFirmware.Modbus.SensorRoundTrip

/-!
# Reading a base package back

An accepted base package moves the device to a new slave id, is decoded into the
live configuration and shown by the synchronization that follows.  The bits of
the transmitter configuration are updated in groups that the length of the
package gates.
-/

namespace SensorFirmware

open BigEndian Flags ModbusService

/-- A transmitter configuration shows the words of a base package with the given
number of arguments, over `old`. -/
structure ShowsConfigBits (reg : UInt16) (data : Nat → UInt16) (len : Nat)
    (old : UInt16) : Prop where
  testDue : reg &&& testDueFltInhibit ≠ 0 ↔ data 29 = 1
  zeroSuppression : reg &&& zeroSuppressionEn ≠ 0 ↔ data 30 = 1
  rs485 : reg &&& rs485FltInhibit ≠ 0 ↔ data 41 = 1
  relayCard : reg &&& relayCardInstalled ≠ 0 ↔ data 42 = 1
  callDue : reg &&& callDueFltInhibit ≠ 0 ↔
    if 47 ≤ len then data 45 = 1 else old &&& callDueFltInhibit ≠ 0
  battery : reg &&& batteryFltInhibit ≠ 0 ↔
    if 47 ≤ len then data 46 = 1 else old &&& batteryFltInhibit ≠ 0
  analogOutReset : reg &&& anlgOutFltAutoReset ≠ 0 ↔
    if 51 ≤ len then data 47 = 1 else old &&& anlgOutFltAutoReset ≠ 0
  overRange : reg &&& overRangeAutoReset ≠ 0 ↔
    if 53 ≤ len then data 52 ≠ 0 else old &&& overRangeAutoReset ≠ 0
  others : reg &&& 0xFF00 = old &&& 0xFF00

/-- Registers show the words of a base package with the given number of
arguments, over a transmitter configuration that was `old` before. -/
structure ShowsBasePackage (register data : Nat → UInt16) (len : Nat) (old : UInt16) :
    Prop where
  baseSerNum : ∀ i, i < 4 → register (0x38 + i) = data (1 + i)
  location : ∀ i, i < 12 → register (0x40 + i) = data (13 + i)
  analogOutLev : ∀ i, i < 3 →
    register (0x1D + i) = (lowByte (data (33 + i))).toUInt16
  display : register 0x31 = setBitIf (data 40 = 1) displayOn (data 39 &&& 0x0F)
  configReg : ShowsConfigBits (register 0x4D) data len old

/-- Only the arguments of the package matter. -/
theorem ShowsConfigBits.congr
    {reg old : UInt16}
    {data arguments : Nat → UInt16}
    {len : Nat}
    (shows : ShowsConfigBits reg data len old)
    (long : 45 ≤ len)
    (sameData : ∀ i, i < len → arguments i = data i) :
    ShowsConfigBits reg arguments len old where
  testDue := by rw [sameData _ (by omega), shows.testDue]
  zeroSuppression := by rw [sameData _ (by omega), shows.zeroSuppression]
  rs485 := by rw [sameData _ (by omega), shows.rs485]
  relayCard := by rw [sameData _ (by omega), shows.relayCard]
  callDue := by
    rw [shows.callDue]
    split
    · rw [sameData _ (by omega)]
    · rfl
  battery := by
    rw [shows.battery]
    split
    · rw [sameData _ (by omega)]
    · rfl
  analogOutReset := by
    rw [shows.analogOutReset]
    split
    · rw [sameData _ (by omega)]
    · rfl
  overRange := by
    rw [shows.overRange]
    split
    · rw [sameData _ (by omega)]
    · rfl
  others := shows.others

/-- Only the arguments and the registers that the package describes matter. -/
theorem ShowsBasePackage.congr
    {register other data arguments : Nat → UInt16}
    {len : Nat}
    {old : UInt16}
    (shows : ShowsBasePackage register data len old)
    (long : 45 ≤ len)
    (sameRegister : ∀ reg, 0x1D ≤ reg → reg < 0x74 → reg ≠ regBaudRate →
      other reg = register reg)
    (sameData : ∀ i, i < len → arguments i = data i) :
    ShowsBasePackage other arguments len old where
  baseSerNum i inside := by
    rw [sameRegister _ (by omega) (by omega) (by simp; omega), sameData _ (by omega),
      shows.baseSerNum i inside]
  location i inside := by
    rw [sameRegister _ (by omega) (by omega) (by simp; omega), sameData _ (by omega),
      shows.location i inside]
  analogOutLev i inside := by
    rw [sameRegister _ (by omega) (by omega) (by simp; omega), sameData _ (by omega),
      shows.analogOutLev i inside]
  display := by
    have switch : arguments 40 = data 40 := sameData _ (by omega)
    rw [sameRegister _ (by decide) (by decide) (by decide), shows.display,
      sameData 39 (by omega)]
    simp only [switch]
  configReg := by
    rw [sameRegister _ (by decide) (by decide) (by decide)]
    exact shows.configReg.congr long sameData

/-! ## The transmitter configuration -/

section

variable (data : Nat → UInt16) (len : UInt8) (old : UInt16)

/-- A configuration bit after an accepted package. -/
theorem decodeConfigReg_mask_iff
    (write : BitWrite)
    (named : write ∈ packageWrites data len 1)
    (mask : UInt16)
    (single : ∀ other, other < 16 → bit mask other = decide (other = write.index)) :
    decodeConfigReg data len 1 old &&& mask ≠ 0 ↔
      if write.present then write.value = true else old &&& mask ≠ 0 := by
  have distinct : ((packageWrites data len 1).map BitWrite.index).Nodup := by
    simp [packageWrites, configWrites]
  have below : ∀ write ∈ packageWrites data len 1, write.index < 16 := by
    simp [packageWrites, configWrites]
  have inside := below write named
  rw [mask_ne_zero_iff mask _ _ inside single, mask_ne_zero_iff mask _ _ inside single,
    bit_decodeConfigReg_package data len 1 old _ inside, bitAfter_of_mem _ distinct named]
  split
  · rfl
  · rfl

/-- The upper half of the register is kept. -/
theorem decodeConfigReg_upper :
    decodeConfigReg data len 1 old &&& 0xFF00 = old &&& 0xFF00 := by
  apply ext_bit
  intro index inside
  rw [bit_and, bit_and, bit_decodeConfigReg_package data len 1 old index inside]
  rcases Nat.lt_or_ge index 8 with low | high
  · have masked : bit 0xFF00 index = false := by
      revert index
      decide
    rw [masked, Bool.and_false, Bool.and_false]
  · rw [bitAfter_of_not_mem]
    simp [packageWrites, configWrites]
    omega

/-- An accepted package updates the bits that its length reaches. -/
theorem decodeConfigReg_shows :
    ShowsConfigBits (decodeConfigReg data len 1 old) data len.toNat old := by
  have middle : 47 ≤ len ↔ 47 ≤ len.toNat := UInt8.le_iff_toNat_le
  have analog : 51 ≤ len ↔ 51 ≤ len.toNat := UInt8.le_iff_toNat_le
  have whole : 53 ≤ len ↔ 53 ≤ len.toNat := UInt8.le_iff_toNat_le
  have written := decodeConfigReg_mask_iff data len old
  have single := configBits
  exact
    { testDue :=
        (written ⟨0, true, data 29 = 1⟩ (by simp [packageWrites, configWrites]) _
          fun i bound => (single i bound).1).trans (by simp)
      zeroSuppression :=
        (written ⟨1, true, data 30 = 1⟩ (by simp [packageWrites, configWrites]) _
          fun i bound => (single i bound).2.1).trans (by simp)
      rs485 :=
        (written ⟨2, true, data 41 = 1⟩ (by simp [packageWrites, configWrites]) _
          fun i bound => (single i bound).2.2.1).trans (by simp)
      relayCard :=
        (written ⟨3, true, data 42 = 1⟩ (by simp [packageWrites, configWrites]) _
          fun i bound => (single i bound).2.2.2.1).trans (by simp)
      callDue :=
        (written ⟨4, 47 ≤ len, data 45 = 1⟩ (by simp [packageWrites, configWrites]) _
          fun i bound => (single i bound).2.2.2.2.1).trans (by simp [middle])
      battery :=
        (written ⟨5, 47 ≤ len, data 46 = 1⟩ (by simp [packageWrites, configWrites]) _
          fun i bound => (single i bound).2.2.2.2.2.1).trans (by simp [middle])
      analogOutReset :=
        (written ⟨6, 51 ≤ len ∧ (1 : UInt8) = 1, data 47 = 1⟩ (by simp [packageWrites]) _
          fun i bound => (single i bound).2.2.2.2.2.2.2).trans (by simp [analog])
      overRange :=
        (written ⟨7, 53 ≤ len, data 52 ≠ 0⟩ (by simp [packageWrites, configWrites]) _
          fun i bound => (single i bound).2.2.2.2.2.2.1).trans (by simp [whole])
      others := decodeConfigReg_upper data len old }

end

/-- The low nibble of the display word fits a byte. -/
theorem decodeDisplay_eq (data : Nat → UInt16) :
    decodeDisplay data = setBitIf (data 40 = 1) displayOn (data 39 &&& 0x0F) := by
  have narrowed : (data 39 &&& 0x0F).toUInt8.toUInt16 = data 39 &&& 0x0F := by
    have small : (data 39 &&& 0x0F).toNat ≤ 15 := by
      rw [UInt16.toNat_and]
      exact Nat.and_le_right
    apply UInt16.toNat.inj
    rw [UInt8.toNat_toUInt16, UInt16.toNat_toUInt8]
    omega
  rw [decodeDisplay, narrowed]

namespace Device

variable (dev : Device D)

/-- The configuration after an accepted base package. -/
theorem saveBaseSettings_accepted_deviceConfig
    (data : Nat → UInt16)
    (len : UInt8)
    (long : 45 ≤ len)
    (idValid : BaseIdValid data) :
    (dev.saveBaseSettings (some data) len).2.deviceConfig =
      decodeBaseSettings data len 1 dev.deviceConfig := by
  simp only [saveBaseSettings, if_neg (UInt8.not_lt.mpr long), if_pos idValid]

variable [DoubleArith D]

/-- The base handler and the synchronization after it show the package. -/
theorem saveBaseSettings_shows
    (data : Nat → UInt16)
    (len : UInt8)
    (long : 45 ≤ len)
    (idValid : BaseIdValid data) :
    ShowsBasePackage (dev.saveBaseSettings (some data) len).2.syncAll.holding
      data len.toNat dev.deviceConfig.configReg := by
  have config := saveBaseSettings_accepted_deviceConfig dev data len long idValid
  generalize (dev.saveBaseSettings (some data) len).2 = after at config ⊢
  have base := RegisterBank.syncAll_base after.build after.deviceConfig after.sensor
    after.errors after.modbus.bank
  have display : after.syncAll.holding 0x31 = decodeDisplay data := by
    rw [syncAll_holding, base.1, config]
    rfl
  have configReg : after.syncAll.holding 0x4D =
      decodeConfigReg data len 1 dev.deviceConfig.configReg := by
    rw [syncAll_holding, base.2, config]
    rfl
  exact
    { baseSerNum := fun i inside => by
        rw [syncAll_holding, RegisterBank.syncAll_baseSerial _ _ _ _ _ i inside, config]
        exact word_storeWords _ _ _ (by decide) i inside
      location := fun i inside => by
        rw [syncAll_holding,
          RegisterBank.syncAll_location _ _ _ _ _ i (by omega) (by omega), config]
        exact word_storeWords_closed _ _ 12 24 rfl (by decide) i inside
      analogOutLev := fun i inside => by
        have level := FixedArray.read_fillFront (fun i => (data (33 + i)).toUInt8) 6
          dev.deviceConfig.analogOutLev (by decide) i
        rw [syncAll_holding, RegisterBank.syncAll_analogOut _ _ _ _ _ i inside, config,
          lowByte_eq_toUInt8]
        exact congrArg UInt8.toUInt16 (level.trans (if_pos (by omega)))
      display := by rw [display, decodeDisplay_eq]
      configReg := by
        rw [configReg]
        exact decodeConfigReg_shows data len _ }

/-! ## A frame with a package -/

section

variable {dev : Device D} {frame : FrameItem} (runs : dev.RunsCommand frame)
variable (start : frame.addr = 0) (detector : frame.wordAt 9 = setDetectorData)
variable (long : 45 ≤ frame.qty.toNat - 2) (idValid : BaseIdValid frame.argument)

include runs start detector long idValid

/-- The package reaches the base handler with a legal id and enough arguments. -/
theorem basePackage_handled :
    (dev.commandState frame).handleCommand frame.qty =
        (dev.commandState frame).saveBaseSettings
          (some (argumentsIn (dev.requestWord frame))) (commandLen frame.qty) ∧
      45 ≤ commandLen frame.qty ∧ BaseIdValid (argumentsIn (dev.requestWord frame)) := by
  have code : (dev.commandState frame).holding commandCode = setDetectorData := by
    rw [commandState_holding dev runs.2.2.2.1, requestWord_command dev start runs.2.2.2.2,
      detector]
  have len := commandLen_toNat start runs.2.2.2.1 runs.2.2.2.2
  have id : argumentsIn (dev.requestWord frame) 0 = frame.argument 0 :=
    requestWord_argument dev start 0 (by omega)
  refine ⟨?_, ?_, ?_⟩
  · have other : ¬ setDetectorData = setSensorData := by decide
    rw [handleCommand, code, commandArgs, commandState_holding dev runs.2.2.2.1]
    simp only [if_neg other, if_true]
  · apply UInt8.le_iff_toNat_le.mpr
    rw [len]
    exact long
  · rw [BaseIdValid, id]
    exact idValid

/-- The package is accepted. -/
theorem basePackage_accepted :
    CommandAccepted D (dev.requestWord frame) dev.deviceConfig frame.qty := by
  obtain ⟨_, enough, valid⟩ := basePackage_handled runs start detector long idValid
  have code : dev.requestWord frame commandCode = setDetectorData :=
    (requestWord_command dev start runs.2.2.2.2).trans detector
  exact Or.inr (Or.inl ⟨code, enough, valid⟩)

/-- The device has the slave id of the package. -/
theorem basePackage_id :
    (dev.frameStep frame).deviceConfig.id = frame.argument 0 ∧
      (dev.frameStep frame).IdValid := by
  obtain ⟨handled, enough, valid⟩ := basePackage_handled runs start detector long idValid
  have id : argumentsIn (dev.requestWord frame) 0 = frame.argument 0 :=
    requestWord_argument dev start 0 (by omega)
  have moved : (dev.frameStep frame).deviceConfig.id = frame.argument 0 := by
    rw [frameStep_command_deviceConfig runs, handled,
      saveBaseSettings_accepted_deviceConfig _ _ _ enough valid]
    simp only [decodeBaseSettings, if_pos valid]
    rw [valid.narrowed, id]
  refine ⟨moved, ?_⟩
  rw [IdValid, moved]
  exact idValid

/-- The registers show the package. -/
theorem basePackage_shows :
    ShowsBasePackage (dev.frameStep frame).holdingRegister frame.argument
        (frame.qty.toNat - 2) dev.deviceConfig.configReg ∧
      (dev.frameStep frame).holdingRegister regBaseConfig =
        (dev.frameStep frame).deviceConfig.configReg := by
  obtain ⟨handled, enough, valid⟩ := basePackage_handled runs start detector long idValid
  have registers := frameStep_accepted_holding runs
    (basePackage_accepted runs start detector long idValid)
  have config := frameStep_command_deviceConfig runs
  rw [handled] at registers config
  have plain (reg : Nat) (inArray : reg < holdingRegSize) (stored : reg ≠ regBaudRate) :
      (dev.frameStep frame).holdingRegister reg = (dev.frameStep frame).holding reg := by
    rw [holdingRegister, if_pos inArray, if_neg stored]
  constructor
  · have shows := saveBaseSettings_shows (dev.commandState frame) _ _ enough valid
    rw [commandLen_toNat start runs.2.2.2.1 runs.2.2.2.2,
      ignoresTraffic_deviceConfig.commandState] at shows
    refine shows.congr long (fun reg low high stored => ?_) fun index inside =>
      (requestWord_argument dev start index inside).symm
    have other : reg ≠ commandCode := by simp; omega
    have inArray : reg < holdingRegSize := by simp; omega
    rw [plain reg inArray stored, registers reg other]
  · rw [plain _ (by decide) (by decide), registers _ (by decide), syncAll_holding, config]
    exact (RegisterBank.syncAll_base _ _ _ _ _).2

end

/-- After an accepted base package that starts at register 0, every read of
holding registers for the new slave id returns words that show the package, and
until the id is changed again no frame for another id is answered. -/
theorem basePackage_readBack
    (dev : Device D)
    (frame : FrameItem)
    (runs : dev.RunsCommand frame)
    (start : frame.addr = 0)
    (detector : frame.wordAt 9 = setDetectorData)
    (long : 45 ≤ frame.qty.toNat - 2)
    (idValid : BaseIdValid frame.argument) :
    let after := dev.frameStep frame
    (∃ register : Nat → UInt16,
      ShowsBasePackage register frame.argument (frame.qty.toNat - 2)
          dev.deviceConfig.configReg ∧
        register regBaseConfig = after.deviceConfig.configReg ∧
          ∀ read : FrameItem, 4 ≤ read.len → read.CrcMatches →
            (read.byte 0).toUInt16 = frame.argument 0 → read.byte 1 = fcReadHolding →
              read.ReadInRange →
                (after.frameStep read).transmitted =
                  after.transmitted ++
                    [withCrc (read.byte 0 :: fcReadHolding :: (read.qty * 2).toUInt8 ::
                      bytes ((List.range read.qty.toNat).map fun i =>
                        register (read.addr.toNat + i)))]) ∧
      ∀ later : List FrameItem,
        Transition.AllSteps frameStep
          (fun dev next => (dev.frameStep next).deviceConfig.id = dev.deviceConfig.id)
          after later →
          ∀ next : FrameItem, next.byte 0 ≠ 0 →
            (next.byte 0).toUInt16 ≠ frame.argument 0 →
              ((after.runFrames later).frameStep next).transmitted =
                (after.runFrames later).transmitted := by
  intro after
  obtain ⟨id, valid⟩ := basePackage_id runs start detector long idValid
  obtain ⟨shows, configReg⟩ := basePackage_shows runs start detector long idValid
  have own_iff (dev : Device D) (sameId : dev.deviceConfig.id = frame.argument 0)
      (address : UInt8) :
      address = dev.deviceConfig.id.toUInt8 ↔ address.toUInt16 = frame.argument 0 := by
    rw [sameId]
    constructor
    · rintro rfl
      exact idValid.narrowed
    · intro same
      rw [← same, UInt8.toUInt8_toUInt16]
  refine ⟨⟨after.holdingRegister, shows, configReg, ?_⟩, ?_⟩
  · intro read enough crc own code inRange
    have address : after.noteValidFrame.modbus.slaveAddress = read.byte 0 := by
      rw [noteValidFrame_slaveAddress valid]
      exact ((own_iff after id _).mpr own).symm
    have unicast : ¬ read.IsBroadcast := by
      intro broadcast
      rw [FrameItem.IsBroadcast] at broadcast
      rw [broadcast] at own
      exact absurd idValid.1 (by rw [← own]; decide)
    have reaches : after.Reaches read := ⟨enough, crc, Or.inr address.symm⟩
    have accepted : (after.processFrame (some read)).1 ≠ 0 := by
      rw [processFrame_of_reaches reaches, dispatch, if_pos code,
        processReadHoldingRegisters, if_pos inRange]
      exact (show (1 : UInt8) ≠ 0 by decide)
    rw [← address]
    exact processFrame_readHolding_transmitted accepted code unicast
  · intro later unchanged next unicast other
    have sameId : (after.runFrames later).deviceConfig.id = frame.argument 0 :=
      unchanged.run_invariant (fun dev => dev.deviceConfig.id = frame.argument 0)
        (fun _ _ before kept => kept.trans before) id
    have legal : (after.runFrames later).IdValid := by
      rw [IdValid, sameId]
      exact idValid
    apply frameStep_silent _ next legal
    exact Or.inr (Or.inr (Or.inr fun own =>
      other ((own_iff (after.runFrames later) sameId _).mp own)))

/-- Registers 0 to 46 of a base package that moves the device to slave id 7. -/
def idSevenPackage : List UInt16 := [0, setDetectorData, 7] ++ List.replicate 44 0

theorem idSevenPackage_readBack :
    let dev : Device ℚ := firstBoot BuildInfo.unitTest
    let frame := writeMultipleRequest 1 0 idSevenPackage
    let after := dev.frameStep frame
    (∃ register : Nat → UInt16,
      ShowsBasePackage register frame.argument (frame.qty.toNat - 2)
          dev.deviceConfig.configReg ∧
        register regBaseConfig = after.deviceConfig.configReg ∧
          ∀ read : FrameItem, 4 ≤ read.len → read.CrcMatches →
            (read.byte 0).toUInt16 = frame.argument 0 → read.byte 1 = fcReadHolding →
              read.ReadInRange →
                (after.frameStep read).transmitted =
                  after.transmitted ++
                    [withCrc (read.byte 0 :: fcReadHolding :: (read.qty * 2).toUInt8 ::
                      bytes ((List.range read.qty.toNat).map fun i =>
                        register (read.addr.toNat + i)))]) ∧
      ∀ later : List FrameItem,
        Transition.AllSteps frameStep
          (fun dev next => (dev.frameStep next).deviceConfig.id = dev.deviceConfig.id)
          after later →
          ∀ next : FrameItem, next.byte 0 ≠ 0 →
            (next.byte 0).toUInt16 ≠ frame.argument 0 →
              ((after.runFrames later).frameStep next).transmitted =
                (after.runFrames later).transmitted := by
  intro dev frame
  have few : idSevenPackage.length ≤ 123 := by decide
  have runs : dev.RunsCommand frame :=
    runsCommand_writeMultipleRequest (firstBoot_idValid _) (firstBoot_id _) 0
      idSevenPackage few (by decide) (by decide)
  have start : frame.addr = 0 := writeMultipleRequest_addr 1 0 idSevenPackage few
  have qty : frame.qty.toNat = 47 := writeMultipleRequest_qty 1 0 idSevenPackage few
  have detector : frame.wordAt 9 = setDetectorData :=
    writeMultipleRequest_payload 1 0 idSevenPackage few 1 (by decide)
  have id : frame.argument 0 = 7 :=
    writeMultipleRequest_payload 1 0 idSevenPackage few 2 (by decide)
  have long : 45 ≤ frame.qty.toNat - 2 := by omega
  have idValid : BaseIdValid frame.argument := by
    rw [BaseIdValid, id]
    decide
  exact basePackage_readBack dev frame runs start detector long idValid

end Device

end SensorFirmware
