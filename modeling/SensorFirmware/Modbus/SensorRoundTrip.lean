import SensorFirmware.Modbus.Thresholds

/-!
# Reading a sensor package back

An accepted sensor package is decoded into the configuration records, and the
synchronization that follows encodes these records into the registers.  The
words that both sides treat as data come back unchanged.
-/

namespace SensorFirmware

open BigEndian ModbusService

/-- Registers show the words of a sensor package with the given number of
arguments. -/
structure ShowsSensorPackage (register data : Nat → UInt16) (len : Nat) : Prop where
  threshold : ∀ i, i < 3 → register (0x26 + i) = data (7 + i)
  serialNumber : ∀ i, i < 4 → register (0x3C + i) = data (13 + i)
  manIdNumber : ∀ i, i < 4 → register (0x34 + i) = data (17 + i)
  thResistor : register 0x58 = data 48
  thBeta : register 0x59 = data 49
  offDelay : ∀ i, i < 3 → lowByte (register (0x1A + i)) = lowByte (data (22 + 2 * i))
  autoReset : ∀ i, i < 3 →
    (highByte (register (0x1A + i)) &&& autoReset ≠ 0 ↔ highByte (data (21 + 2 * i)) ≠ 0)
  dfltEnergised : ∀ i, i < 3 →
    (highByte (register (0x1A + i)) &&& dfltEnergised ≠ 0 ↔
      lowByte (data (21 + 2 * i)) ≠ 0)
  tripDirection : ∀ i, i < 3 →
    (highByte (register (0x1A + i)) &&& tripDirection ≠ 0 ↔
      highByte (data (22 + 2 * i)) ≠ 0)
  callTimes : 71 ≤ len → register 0x71 = data 69 ∧ register 0x72 = data 70

/-- Only the arguments of the package and the registers it describes matter. -/
theorem ShowsSensorPackage.congr
    {register other data arguments : Nat → UInt16}
    {len : Nat}
    (shows : ShowsSensorPackage register data len)
    (long : 56 ≤ len)
    (sameRegister : ∀ reg, 0x1A ≤ reg → reg < 0x74 → reg ≠ regBaudRate →
      other reg = register reg)
    (sameData : ∀ i, i < len → arguments i = data i) :
    ShowsSensorPackage other arguments len where
  threshold i inside := by
    rw [sameRegister _ (by omega) (by omega) (by simp; omega), sameData _ (by omega),
      shows.threshold i inside]
  serialNumber i inside := by
    rw [sameRegister _ (by omega) (by omega) (by simp; omega), sameData _ (by omega),
      shows.serialNumber i inside]
  manIdNumber i inside := by
    rw [sameRegister _ (by omega) (by omega) (by simp; omega), sameData _ (by omega),
      shows.manIdNumber i inside]
  thResistor := by
    rw [sameRegister _ (by omega) (by omega) (by decide), sameData _ (by omega),
      shows.thResistor]
  thBeta := by
    rw [sameRegister _ (by omega) (by omega) (by decide), sameData _ (by omega), shows.thBeta]
  offDelay i inside := by
    rw [sameRegister _ (by omega) (by omega) (by simp; omega), sameData _ (by omega),
      shows.offDelay i inside]
  autoReset i inside := by
    rw [sameRegister _ (by omega) (by omega) (by simp; omega), sameData _ (by omega),
      shows.autoReset i inside]
  dfltEnergised i inside := by
    rw [sameRegister _ (by omega) (by omega) (by simp; omega), sameData _ (by omega),
      shows.dfltEnergised i inside]
  tripDirection i inside := by
    rw [sameRegister _ (by omega) (by omega) (by simp; omega), sameData _ (by omega),
      shows.tripDirection i inside]
  callTimes present := by
    rw [sameRegister _ (by omega) (by omega) (by decide),
      sameRegister _ (by omega) (by omega) (by decide), sameData _ (by omega),
      sameData _ (by omega)]
    exact shows.callTimes present

/-! ## The alarm words -/

section

variable {D : Type} [DoubleArith D]
variable (data : Nat → UInt16) (len : UInt8) (config : SettingsStruct) (i : Nat)

theorem offDelay_settledAlarm :
    (settledAlarm data len config i : AlarmStruct D).offDelay =
      lowByte (data (22 + 2 * i)) := rfl

theorem configStatus_settledAlarm_and :
    let status := (settledAlarm data len config i : AlarmStruct D).configStatus
    (status &&& autoReset ≠ 0 ↔ highByte (data (21 + 2 * i)) ≠ 0) ∧
      (status &&& dfltEnergised ≠ 0 ↔ lowByte (data (21 + 2 * i)) ≠ 0) ∧
        (status &&& tripDirection ≠ 0 ↔ highByte (data (22 + 2 * i)) ≠ 0) := by
  have bits := alarmBits_and (data (21 + 2 * i) &&& 0xFF00 ≠ 0)
    (data (21 + 2 * i) &&& 0x00FF ≠ 0) (data (22 + 2 * i) &&& 0xFF00 ≠ 0)
    (TriggerTypeSet data len i)
  refine ⟨bits.1.trans (highMask_eq_zero_iff _).not,
    bits.2.1.trans (lowMask_eq_zero_iff _).not, ?_⟩
  refine Iff.trans ?_ (highMask_eq_zero_iff _).not
  refine (iff_of_eq (congrArg (· ≠ 0) bits.2.2.1)).trans ?_
  by_cases falling : data (22 + 2 * i) &&& 0xFF00 ≠ 0
  · rw [if_pos falling]
    exact iff_of_true (by decide) falling
  · rw [if_neg falling]
    exact iff_of_false (by decide) falling

end

namespace Device

/-- Bytes stored from words and closed by a zero read back as the words. -/
theorem word_storeWords_closed
    (bytes : Vector UInt8 n)
    (words : Nat → UInt16)
    (count stop : Nat)
    (closed : stop = count * 2)
    (fits : stop < n)
    (i : Nat)
    (inside : i < count) :
    word (FixedArray.read (FixedArray.write (storeWords bytes words count) stop 0) (i * 2))
        (FixedArray.read (FixedArray.write (storeWords bytes words count) stop 0)
          (i * 2 + 1)) =
      words i := by
  have high : ¬ (i * 2 = stop ∧ stop < n) := by omega
  have low : ¬ (i * 2 + 1 = stop ∧ stop < n) := by omega
  rw [FixedArray.read_write, FixedArray.read_write, if_neg high, if_neg low,
    word_storeWords _ _ _ (by omega) _ inside]

/-! ## A package in a frame -/

section

variable (dev : Device D) {frame : FrameItem} (start : frame.addr = 0)

include start

/-- A package that starts at register 0 has its arguments behind the command
register. -/
theorem requestWord_argument
    (index : Nat)
    (inside : index < frame.qty.toNat - 2) :
    argumentsIn (dev.requestWord frame) index = frame.argument index := by
  have covered : frame.addr.toNat ≤ commandArg1 + index ∧
      commandArg1 + index < frame.addr.toNat + frame.qty.toNat := by
    rw [start, commandArg1, UInt16.toNat_zero]
    omega
  rw [argumentsIn, requestWord, if_pos covered, start]
  rfl

theorem requestWord_command
    (covers : CoversCommand frame.addr frame.qty) :
    dev.requestWord frame commandCode = frame.wordAt 9 := by
  have covered : frame.addr.toNat ≤ commandCode ∧
      commandCode < frame.addr.toNat + frame.qty.toNat := covers
  rw [requestWord, if_pos covered, start]
  rfl

/-- Its length is not truncated. -/
theorem commandLen_toNat
    (valid : frame.WriteMultipleValid)
    (covers : CoversCommand frame.addr frame.qty) :
    (commandLen frame.qty).toNat = frame.qty.toNat - 2 := by
  have few : frame.qty.toNat ≤ 123 := UInt16.le_iff_toNat_le.mp valid.2.1
  have two : (2 : UInt16).toNat = 2 := rfl
  have enough : 2 ≤ frame.qty := by
    rw [CoversCommand, start, UInt16.toNat_zero, commandCode] at covers
    rw [UInt16.le_iff_toNat_le, two]
    omega
  rw [commandLen, UInt16.toNat_toUInt8, UInt16.toNat_sub_of_le _ _ enough, two]
  omega

end

/-! ## The handler and the synchronization after it -/

variable [DoubleArith D] (dev : Device D)

/-- The data fields of an accepted sensor package. -/
theorem saveSensorSettings_sensor
    (data : Nat → UInt16)
    (len : UInt8)
    (accepted : (dev.saveSensorSettings (some data) len).1 ≠ 0) :
    let sensor := (dev.saveSensorSettings (some data) len).2.sensor
    sensor.serialNumber =
        FixedArray.write
          (storeWords dev.sensor.serialNumber (fun i => data (13 + i)) 4) 8 0 ∧
      sensor.manIdNumber =
        FixedArray.write
          (storeWords dev.sensor.manIdNumber (fun i => data (17 + i)) 4) 8 0 ∧
      sensor.thResistor = data 48 ∧ sensor.thBeta = data 49 ∧
      sensor.callSpanTime = (if 71 ≤ len then data 69 else minCalibrationTime) ∧
      sensor.callZeroTime = (if 71 ≤ len then data 70 else minCalibrationTime) := by
  rw [(saveSensorSettings_accepted dev data len accepted).2]
  exact ⟨rfl, rfl, rfl, rfl, rfl, rfl⟩

/-- The sensor handler and the synchronization after it show the package. -/
theorem saveSensorSettings_shows
    (data : Nat → UInt16)
    (len : UInt8)
    (accepted : (dev.saveSensorSettings (some data) len).1 ≠ 0) :
    ShowsSensorPackage (dev.saveSensorSettings (some data) len).2.syncAll.holding
      data len.toNat := by
  have alarms := saveSensorSettings_alarms dev data len accepted
  have sensor := saveSensorSettings_sensor dev data len accepted
  generalize (dev.saveSensorSettings (some data) len).2 = after at alarms sensor ⊢
  obtain ⟨serialNumber, manIdNumber, thResistor, thBeta, spanTime, zeroTime⟩ := sensor
  have alarmWord (i : Nat) (inside : i < 3) : after.syncAll.holding (0x1A + i) =
      word (settledAlarm data len dev.deviceConfig i : AlarmStruct D).configStatus
        (settledAlarm data len dev.deviceConfig i : AlarmStruct D).offDelay := by
    obtain ⟨_, settings, delay⟩ := alarms i inside
    rw [syncAll_holding, RegisterBank.syncAll_alarmConfig _ _ _ _ _ i inside, settings,
      delay]
  have status (i : Nat) := configStatus_settledAlarm_and (D := D) data len dev.deviceConfig i
  exact
    { threshold := fun i inside => by
        rw [syncAll_holding, RegisterBank.syncAll_threshold _ _ _ _ _ i inside]
        exact (alarms i inside).1
      serialNumber := fun i inside => by
        rw [syncAll_holding, RegisterBank.syncAll_serial _ _ _ _ _ i inside, serialNumber]
        exact word_storeWords_closed _ _ 4 8 rfl (by decide) i inside
      manIdNumber := fun i inside => by
        rw [syncAll_holding, RegisterBank.syncAll_manId _ _ _ _ _ i inside, manIdNumber]
        exact word_storeWords_closed _ _ 4 8 rfl (by decide) i inside
      thResistor := by rw [syncAll_holding, RegisterBank.syncAll_thResistor, thResistor]
      thBeta := by rw [syncAll_holding, RegisterBank.syncAll_thBeta, thBeta]
      offDelay := fun i inside => by
        rw [alarmWord i inside, lowByte_word, offDelay_settledAlarm]
      autoReset := fun i inside => by
        rw [alarmWord i inside, highByte_word]
        exact (status i).1
      dfltEnergised := fun i inside => by
        rw [alarmWord i inside, highByte_word]
        exact (status i).2.1
      tripDirection := fun i inside => by
        rw [alarmWord i inside, highByte_word]
        exact (status i).2.2
      callTimes := fun present => by
        have whole : 71 ≤ len := UInt8.le_iff_toNat_le.mpr present
        rw [if_pos whole] at spanTime zeroTime
        rw [syncAll_holding, syncAll_holding, RegisterBank.syncAll_callSpanTime,
          RegisterBank.syncAll_callZeroTime]
        exact ⟨spanTime, zeroTime⟩ }

/-! ## A frame with a package -/

/-- After an accepted sensor package that starts at register 0, every accepted
unicast read of holding registers returns words that show the package. -/
theorem sensorPackage_readBack
    (frame : FrameItem)
    (runs : dev.RunsCommand frame)
    (start : frame.addr = 0)
    (sensor : frame.wordAt 9 = setSensorData)
    (accepted : ((dev.commandState frame).runCommand frame.addr frame.qty).1 ≠ 0) :
    let after := dev.frameStep frame
    ∃ register : Nat → UInt16,
      ShowsSensorPackage register frame.argument (frame.qty.toNat - 2) ∧
        ∀ read : FrameItem, (after.processFrame (some read)).1 ≠ 0 →
          read.byte 1 = fcReadHolding → ¬ read.IsBroadcast →
            (after.frameStep read).transmitted =
              after.transmitted ++
                [withCrc (after.idInForce :: fcReadHolding :: (read.qty * 2).toUInt8 ::
                  bytes ((List.range read.qty.toNat).map fun i =>
                    register (read.addr.toNat + i)))] := by
  intro after
  refine ⟨after.holdingRegister, ?_, fun read readAccepted code unicast =>
    processFrame_readHolding_transmitted readAccepted code unicast⟩
  have acceptable := (runCommand_accepts_iff runs.2.2.2.2).mp accepted
  have code : (dev.commandState frame).holding commandCode = setSensorData := by
    rw [commandState_holding dev runs.2.2.2.1, requestWord_command dev start runs.2.2.2.2,
      sensor]
  have acknowledged := (handleCommand_accepts_iff _ _).mpr acceptable
  have handled : (dev.commandState frame).handleCommand frame.qty =
      (dev.commandState frame).saveSensorSettings
        (some (argumentsIn (dev.requestWord frame))) (commandLen frame.qty) := by
    rw [handleCommand, code, commandArgs, commandState_holding dev runs.2.2.2.1]
    exact if_pos rfl
  have registers := frameStep_accepted_holding runs
    ((commandState_accepts_iff runs).mp acceptable)
  rw [handled] at acknowledged registers
  have shows := saveSensorSettings_shows _ _ _ acknowledged
  have len := commandLen_toNat start runs.2.2.2.1 runs.2.2.2.2
  rw [len] at shows
  have long : 56 ≤ frame.qty.toNat - 2 := by
    rw [← len]
    exact UInt8.le_iff_toNat_le.mp ((saveSensorSettings_accepts_iff _ _ _).mp acknowledged).1
  refine shows.congr long (fun reg low high plain => ?_) fun index inside =>
    (requestWord_argument dev start index inside).symm
  have other : reg ≠ commandCode := by simp; omega
  have inArray : reg < holdingRegSize := by simp; omega
  rw [holdingRegister, if_pos inArray, if_neg plain]
  exact registers reg other

/-- Registers 0 to 57 of a sensor package for oxygen. -/
def oxygenPackage : List UInt16 :=
  [0, setSensorData, 1, 1, 65, 2] ++ List.replicate 52 0

theorem oxygenPackage_readBack :
    let dev : Device ℚ := firstBoot BuildInfo.unitTest
    let frame := writeMultipleRequest 1 0 oxygenPackage
    let after := dev.frameStep frame
    ∃ register : Nat → UInt16,
      ShowsSensorPackage register frame.argument (frame.qty.toNat - 2) ∧
        ∀ read : FrameItem, (after.processFrame (some read)).1 ≠ 0 →
          read.byte 1 = fcReadHolding → ¬ read.IsBroadcast →
            (after.frameStep read).transmitted =
              after.transmitted ++
                [withCrc (after.idInForce :: fcReadHolding :: (read.qty * 2).toUInt8 ::
                  bytes ((List.range read.qty.toNat).map fun i =>
                    register (read.addr.toNat + i)))] := by
  intro dev frame
  have few : oxygenPackage.length ≤ 123 := by decide
  have runs : dev.RunsCommand frame :=
    runsCommand_writeMultipleRequest (firstBoot_idValid _) (firstBoot_id _) 0
      oxygenPackage few (by decide) (by decide)
  have start : frame.addr = 0 := writeMultipleRequest_addr 1 0 oxygenPackage few
  have qty : frame.qty = 58 :=
    UInt16.toNat.inj (writeMultipleRequest_qty 1 0 oxygenPackage few)
  have sensor : frame.wordAt 9 = setSensorData :=
    writeMultipleRequest_payload 1 0 oxygenPackage few 1 (by decide)
  have register := requestWord_package dev 1 oxygenPackage few
  have identity : HardChecksPass (argumentsIn (dev.requestWord frame)) := by
    simp only [HardChecksPass, argumentsIn, commandArg1]
    rw [register _ (by decide), register _ (by decide), register _ (by decide),
      register _ (by decide)]
    decide
  have acceptable :
      CommandAccepted ℚ (dev.requestWord frame) dev.deviceConfig frame.qty := by
    refine Or.inl ⟨register 1 (by decide), ?_, Or.inl identity⟩
    rw [qty]
    decide
  have accepted := (runCommand_accepts_iff runs.2.2.2.2).mpr
    ((commandState_accepts_iff runs).mpr acceptable)
  exact sensorPackage_readBack dev frame runs start sensor accepted

end Device

end SensorFirmware
