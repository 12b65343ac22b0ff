import SensorFirmware.Modbus.SensorAcceptance
import SensorFirmware.Modbus.Sync

/-!
# Commands

`ModbusService::runCommand` reads a command and its arguments from the holding
registers.  The two settings handlers are characterized first: when they
accept, what they then store, and what they never touch.
-/

namespace SensorFirmware

open BigEndian

namespace Device

/-! ## The base settings handler -/

section

variable (dev : Device D) (data : Nat → UInt16) (len : UInt8)

/-- The base settings handler accepts a long enough package with a valid id. -/
theorem saveBaseSettings_accepts_iff :
    (dev.saveBaseSettings (some data) len).1 ≠ 0 ↔ 45 ≤ len ∧ BaseIdValid data := by
  rw [← UInt8.not_lt]
  by_cases short : len < 45
  · simp [saveBaseSettings, short]
  · by_cases valid : BaseIdValid data
    · simp [saveBaseSettings, short, valid]
    · simp [saveBaseSettings, short, valid]

/-- What does not depend on the configuration, the slave address and the save
flag is the same after the base settings handler. -/
theorem saveBaseSettings_keeps
    (project : Device D → β)
    (insensitive : ∀ config address saveFlag,
      project
        { dev with
          deviceConfig := config
          modbus := { dev.modbus with slaveAddress := address }
          saveDevSettings := saveFlag } = project dev) :
    project (dev.saveBaseSettings (some data) len).2 = project dev := by
  simp only [saveBaseSettings]
  split
  · rfl
  · exact insensitive _ _ _

@[simp] theorem saveBaseSettings_sensor :
    (dev.saveBaseSettings (some data) len).2.sensor = dev.sensor :=
  saveBaseSettings_keeps dev data len (·.sensor) fun _ _ _ => rfl

/-- A package that is long enough is decoded, whatever its id. -/
theorem saveBaseSettings_deviceConfig
    (long : 45 ≤ len) :
    ∃ ok, (dev.saveBaseSettings (some data) len).2.deviceConfig =
      decodeBaseSettings data len ok dev.deviceConfig := by
  have notShort : ¬ len < 45 := UInt8.not_lt.mpr long
  simp only [saveBaseSettings, if_neg notShort]
  exact ⟨_, rfl⟩

/-- A package that is too short changes nothing. -/
theorem saveBaseSettings_short
    (short : len < 45) :
    dev.saveBaseSettings (some data) len = (0, dev) := by
  simp only [saveBaseSettings, if_pos short]

/-- Base settings never change the alarm thresholds. -/
@[simp] theorem saveBaseSettings_alarmThreshold :
    (dev.saveBaseSettings (some data) len).2.deviceConfig.alarmThreshold =
      dev.deviceConfig.alarmThreshold := by
  by_cases short : len < 45
  · rw [saveBaseSettings_short dev data len short]
  · obtain ⟨ok, decoded⟩ :=
      saveBaseSettings_deviceConfig dev data len (UInt8.not_lt.mp short)
    rw [decoded]
    rfl

end

/-! ## The sensor settings handler -/

section

variable [DoubleArith D] (dev : Device D) (data : Nat → UInt16) (len : UInt8)

/-- The sensor settings handler accepts a long enough package whose identity
passes or whose other checks hide a failure of the identity. -/
theorem saveSensorSettings_accepts_iff :
    (dev.saveSensorSettings (some data) len).1 ≠ 0 ↔
      56 ≤ len ∧ (HardChecksPass data ∨ SoftCheckFails data len dev.deviceConfig D) := by
  have accepts := decodeSensorSettings_accepts_iff data len dev.deviceConfig dev.sensor
  rw [← UInt8.not_lt, ← accepts]
  by_cases short : len < 56
  · simp [saveSensorSettings, short]
  · by_cases accepted :
      (decodeSensorSettings data len dev.deviceConfig dev.sensor).ok = 0
    · simp [saveSensorSettings, short, accepted]
    · simp [saveSensorSettings, short, accepted]

/-- What does not depend on the configuration records, the scratch records and
the save flags is the same after the sensor settings handler. -/
theorem saveSensorSettings_keeps
    (project : Device D → β)
    (insensitive : ∀ config sensor settings alarms thresholds sensorFlag deviceFlag,
      project
        { dev with
          deviceConfig := config
          sensor := sensor
          modbus :=
            { dev.modbus with
              sensorScratch := settings
              alarmScratch := alarms
              alarmThresholdScratch := thresholds }
          saveSensorInfo := sensorFlag
          saveDevSettings := deviceFlag } = project dev) :
    project (dev.saveSensorSettings (some data) len).2 = project dev := by
  simp only [saveSensorSettings]
  split
  · rfl
  · exact insensitive _ _ _ _ _ _ _

@[simp] theorem saveSensorSettings_slaveAddress :
    (dev.saveSensorSettings (some data) len).2.modbus.slaveAddress =
      dev.modbus.slaveAddress :=
  saveSensorSettings_keeps dev data len (·.modbus.slaveAddress)
    fun _ _ _ _ _ _ _ => rfl

/-- A rejected sensor package leaves both configuration records alone. -/
theorem saveSensorSettings_rejected
    (rejected : ¬ (dev.saveSensorSettings (some data) len).1 ≠ 0) :
    (dev.saveSensorSettings (some data) len).2.deviceConfig = dev.deviceConfig ∧
      (dev.saveSensorSettings (some data) len).2.sensor = dev.sensor := by
  by_cases short : len < 56
  · simp [saveSensorSettings, short]
  · have failed :
        ¬ (decodeSensorSettings data len dev.deviceConfig dev.sensor).ok = 0 := by
      intro passed
      exact rejected (by simp [saveSensorSettings, short, passed])
    simp [saveSensorSettings, short, failed]

/-- An accepted sensor package commits the decoded records. -/
theorem saveSensorSettings_accepted
    (accepted : (dev.saveSensorSettings (some data) len).1 ≠ 0) :
    (dev.saveSensorSettings (some data) len).2.deviceConfig =
        commitAlarms (decodeSensorSettings data len dev.deviceConfig dev.sensor)
          dev.deviceConfig ∧
      (dev.saveSensorSettings (some data) len).2.sensor =
        committedSettings (data 35).toUInt8
          (decodeSensorSettings data len dev.deviceConfig dev.sensor).settings := by
  have accepts := (saveSensorSettings_accepts_iff dev data len).mp accepted
  have long : ¬ len < 56 := UInt8.not_lt.mpr accepts.1
  have passed := (decodeSensorSettings_accepts_iff data len dev.deviceConfig
    dev.sensor).mpr accepts.2
  simp [saveSensorSettings, long, passed]

/-- A sensor package never changes the slave id. -/
@[simp] theorem saveSensorSettings_id :
    (dev.saveSensorSettings (some data) len).2.deviceConfig.id =
      dev.deviceConfig.id := by
  by_cases accepted : (dev.saveSensorSettings (some data) len).1 ≠ 0
  · rw [(saveSensorSettings_accepted dev data len accepted).1]
    rfl
  · rw [(saveSensorSettings_rejected dev data len accepted).1]

/-- The alarm fields of an accepted sensor package. -/
theorem saveSensorSettings_alarms
    (accepted : (dev.saveSensorSettings (some data) len).1 ≠ 0)
    (i : Nat)
    (inside : i < 3) :
    let config := (dev.saveSensorSettings (some data) len).2.deviceConfig
    let alarm : AlarmStruct D := settledAlarm data len dev.deviceConfig i
    FixedArray.read config.alarmThreshold i = data (7 + i) ∧
      FixedArray.read config.alarmSettings i = alarm.configStatus ∧
        FixedArray.read config.relayOffDelay i = alarm.offDelay := by
  have alarm := decodeSensorSettings_alarm data len dev.deviceConfig dev.sensor i inside
  have threshold := read_packageThresholds data i inside
  rw [← decodeSensorSettings_alrmThrshold data len dev.deviceConfig dev.sensor]
    at threshold
  have filled {β : Type} [Inhabited β] (cells : Vector β 4) (value : Nat → β) :
      FixedArray.read
        (countedLoop (fun i cells => FixedArray.write cells i (value i)) 3 cells) i =
          value i :=
    (FixedArray.read_fillFront value 3 cells (by decide) i).trans (if_pos inside)
  rw [(saveSensorSettings_accepted dev data len accepted).1]
  refine ⟨?_, ?_, ?_⟩
  · exact (filled _ _).trans threshold
  · exact (filled _ _).trans (congrArg AlarmStruct.configStatus alarm)
  · exact (filled _ _).trans (congrArg AlarmStruct.offDelay alarm)

end

/-! ## Running a command -/

/-- The arguments of a command among the registers. -/
def argumentsIn (registers : Nat → UInt16) (index : Nat) : UInt16 :=
  registers (commandArg1 + index)

/-- The argument registers, `&holdingRegs_[COMMAND_ARG1]`. -/
def commandArgs (dev : Device D) : Nat → UInt16 := argumentsIn dev.holding

/-- Number of arguments of a write of `qty` registers, narrowed to a byte. -/
def commandLen (qty : UInt16) : UInt8 := (qty - 2).toUInt8

/-- A write of `qty` registers from `startAddr` on covers the command register. -/
def CoversCommand (startAddr qty : UInt16) : Prop :=
  startAddr.toNat ≤ commandCode ∧ commandCode < startAddr.toNat + qty.toNat

instance (startAddr qty : UInt16) : Decidable (CoversCommand startAddr qty) :=
  inferInstanceAs (Decidable (_ ∧ _))

variable [DoubleArith D]

/-- The command switch of `runCommand`. -/
def handleCommand (dev : Device D) (qty : UInt16) : UInt8 × Device D :=
  let cmd := dev.holding commandCode
  if cmd = setSensorData then
    dev.saveSensorSettings (some dev.commandArgs) (commandLen qty)
  else if cmd = setDetectorData then
    dev.saveBaseSettings (some dev.commandArgs) (commandLen qty)
  else if cmd = setTimeDate then (1, dev)
  else if cmd = resetDetector then (1, dev)
  else (0, dev)

/-- `ModbusService::runCommand`. -/
def runCommand (dev : Device D) (startAddr qty : UInt16) : UInt8 × Device D :=
  if CoversCommand startAddr qty then
    let handled := dev.handleCommand qty
    let synced := if handled.1 ≠ 0 then handled.2.syncAll else handled.2
    (handled.1, synced.updateBank (·.setHolding commandCode 0))
  else (1, dev)

/-! ## What a command does -/

/-- The registers hold a command that a device with the given configuration
executes. -/
def CommandAccepted (D : Type) [DoubleArith D] (registers : Nat → UInt16)
    (config : SettingsStruct) (qty : UInt16) : Prop :=
  let cmd := registers commandCode
  let data := argumentsIn registers
  (cmd = setSensorData ∧ 56 ≤ commandLen qty ∧
      (HardChecksPass data ∨ SoftCheckFails data (commandLen qty) config D)) ∨
    (cmd = setDetectorData ∧ 45 ≤ commandLen qty ∧ BaseIdValid data) ∨
    cmd = setTimeDate ∨ cmd = resetDetector

section

variable (dev : Device D) (qty : UInt16)

/-- The cases of the command switch. -/
theorem handleCommand_cases :
    (dev.holding commandCode = setSensorData ∧
        dev.handleCommand qty =
          dev.saveSensorSettings (some dev.commandArgs) (commandLen qty)) ∨
      (dev.holding commandCode = setDetectorData ∧
        dev.handleCommand qty =
          dev.saveBaseSettings (some dev.commandArgs) (commandLen qty)) ∨
      ((dev.holding commandCode = setTimeDate ∨
          dev.holding commandCode = resetDetector) ∧
        dev.handleCommand qty = (1, dev)) ∨
      ((dev.holding commandCode ≠ setSensorData ∧
          dev.holding commandCode ≠ setDetectorData ∧
          dev.holding commandCode ≠ setTimeDate ∧
          dev.holding commandCode ≠ resetDetector) ∧
        dev.handleCommand qty = (0, dev)) := by
  unfold handleCommand
  by_cases sensor : dev.holding commandCode = setSensorData
  · simp only [sensor, if_true]
    exact Or.inl ⟨trivial, trivial⟩
  by_cases detector : dev.holding commandCode = setDetectorData
  · have other : setDetectorData ≠ setSensorData := by decide
    simp only [detector, other, if_true, if_false]
    exact Or.inr (Or.inl ⟨trivial, trivial⟩)
  by_cases time : dev.holding commandCode = setTimeDate
  · have notSensor : setTimeDate ≠ setSensorData := by decide
    have notDetector : setTimeDate ≠ setDetectorData := by decide
    simp only [time, notSensor, notDetector, if_true, if_false]
    exact Or.inr (Or.inr (Or.inl ⟨Or.inl trivial, trivial⟩))
  by_cases reset : dev.holding commandCode = resetDetector
  · have notSensor : resetDetector ≠ setSensorData := by decide
    have notDetector : resetDetector ≠ setDetectorData := by decide
    have notTime : resetDetector ≠ setTimeDate := by decide
    simp only [reset, notSensor, notDetector, notTime, if_true, if_false]
    exact Or.inr (Or.inr (Or.inl ⟨Or.inr trivial, trivial⟩))
  · simp only [sensor, detector, time, reset, if_false]
    exact Or.inr (Or.inr (Or.inr ⟨⟨sensor, detector, time, reset⟩, trivial⟩))

/-- The switch acknowledges exactly the accepted commands. -/
theorem handleCommand_accepts_iff :
    (dev.handleCommand qty).1 ≠ 0 ↔
      CommandAccepted D dev.holding dev.deviceConfig qty := by
  have codes : setSensorData ≠ setDetectorData ∧ setSensorData ≠ setTimeDate ∧
      setSensorData ≠ resetDetector ∧ setDetectorData ≠ setTimeDate ∧
        setDetectorData ≠ resetDetector := by decide
  unfold CommandAccepted
  rcases handleCommand_cases dev qty with
    ⟨code, handled⟩ | ⟨code, handled⟩ | ⟨code, handled⟩ | ⟨unknown, handled⟩
  · rw [handled, saveSensorSettings_accepts_iff, code]
    simp [codes, commandArgs]
  · rw [handled, saveBaseSettings_accepts_iff, code]
    simp [codes, codes.1.symm, commandArgs]
  · rw [handled]
    exact iff_of_true (show (1 : UInt8) ≠ 0 by decide) (Or.inr (Or.inr code))
  · rw [handled]
    obtain ⟨notSensor, notDetector, notTime, notReset⟩ := unknown
    refine iff_of_false (fun acknowledged => acknowledged rfl) ?_
    rintro (⟨code, _⟩ | ⟨code, _⟩ | code | code)
    · exact notSensor code
    · exact notDetector code
    · exact notTime code
    · exact notReset code

/-- What does not depend on the records, the scratch records, the slave address
and the save flags is the same after a command. -/
theorem handleCommand_keeps
    (project : Device D → β)
    (insensitive : ∀ config sensor settings alarms thresholds address sensorFlag deviceFlag,
      project
        { dev with
          deviceConfig := config
          sensor := sensor
          modbus :=
            { dev.modbus with
              sensorScratch := settings
              alarmScratch := alarms
              alarmThresholdScratch := thresholds
              slaveAddress := address }
          saveSensorInfo := sensorFlag
          saveDevSettings := deviceFlag } = project dev) :
    project (dev.handleCommand qty).2 = project dev := by
  rcases handleCommand_cases dev qty with
    ⟨_, handled⟩ | ⟨_, handled⟩ | ⟨_, handled⟩ | ⟨_, handled⟩
  · rw [handled]
    exact saveSensorSettings_keeps dev _ _ project
      fun config sensor settings alarms thresholds sensorFlag deviceFlag =>
        insensitive config sensor settings alarms thresholds dev.modbus.slaveAddress
          sensorFlag deviceFlag
  · rw [handled]
    exact saveBaseSettings_keeps dev _ _ project fun config address deviceFlag =>
      insensitive config dev.sensor dev.modbus.sensorScratch dev.modbus.alarmScratch
        dev.modbus.alarmThresholdScratch address dev.saveSensorInfo deviceFlag
  · rw [handled]
  · rw [handled]

@[simp] theorem handleCommand_bank :
    (dev.handleCommand qty).2.modbus.bank = dev.modbus.bank :=
  handleCommand_keeps dev qty (·.modbus.bank) fun _ _ _ _ _ _ _ _ => rfl

@[simp] theorem handleCommand_errors :
    (dev.handleCommand qty).2.errors = dev.errors :=
  handleCommand_keeps dev qty (·.errors) fun _ _ _ _ _ _ _ _ => rfl

variable {dev qty} {startAddr : UInt16}

/-- A write beside the command register runs nothing. -/
theorem runCommand_uncovered
    (uncovered : ¬ CoversCommand startAddr qty) :
    dev.runCommand startAddr qty = (1, dev) := by
  rw [runCommand, if_neg uncovered]

/-- Outside the register arrays a command does what its handler does. -/
theorem runCommand_project
    (project : Device D → β)
    (bankless : ∀ (dev : Device D) change, project (dev.updateBank change) = project dev)
    (covered : CoversCommand startAddr qty) :
    project (dev.runCommand startAddr qty).2 = project (dev.handleCommand qty).2 := by
  rw [runCommand, if_pos covered]
  simp only [bankless]
  split
  · exact bankless _ _
  · rfl

/-- What also ignores the register arrays is the same after `runCommand`. -/
theorem runCommand_keeps
    (project : Device D → β)
    (bankless : ∀ (dev : Device D) change, project (dev.updateBank change) = project dev)
    (insensitive : ∀ config sensor settings alarms thresholds address sensorFlag deviceFlag,
      project
        { dev with
          deviceConfig := config
          sensor := sensor
          modbus :=
            { dev.modbus with
              sensorScratch := settings
              alarmScratch := alarms
              alarmThresholdScratch := thresholds
              slaveAddress := address }
          saveSensorInfo := sensorFlag
          saveDevSettings := deviceFlag } = project dev) :
    project (dev.runCommand startAddr qty).2 = project dev := by
  by_cases covered : CoversCommand startAddr qty
  · rw [runCommand_project project bankless covered]
    exact handleCommand_keeps dev qty project insensitive
  · rw [runCommand_uncovered covered]

@[simp] theorem runCommand_errors :
    (dev.runCommand startAddr qty).2.errors = dev.errors :=
  runCommand_keeps (·.errors) (fun _ _ => rfl) fun _ _ _ _ _ _ _ _ => rfl

@[simp] theorem runCommand_transmitted :
    (dev.runCommand startAddr qty).2.transmitted = dev.transmitted :=
  runCommand_keeps (·.transmitted) (fun _ _ => rfl) fun _ _ _ _ _ _ _ _ => rfl

@[simp] theorem runCommand_tempVal :
    (dev.runCommand startAddr qty).2.modbus.tempVal = dev.modbus.tempVal :=
  runCommand_keeps (·.modbus.tempVal) (fun _ _ => rfl) fun _ _ _ _ _ _ _ _ => rfl

@[simp] theorem runCommand_frameQueue :
    (dev.runCommand startAddr qty).2.modbus.frameQueue = dev.modbus.frameQueue :=
  runCommand_keeps (·.modbus.frameQueue) (fun _ _ => rfl) fun _ _ _ _ _ _ _ _ => rfl

/-- The acknowledgement of a covered command. -/
theorem runCommand_accepts_iff
    (covered : CoversCommand startAddr qty) :
    (dev.runCommand startAddr qty).1 ≠ 0 ↔
      CommandAccepted D dev.holding dev.deviceConfig qty := by
  rw [← handleCommand_accepts_iff, runCommand, if_pos covered]

/-- A rejected command changes no holding register but the command register. -/
theorem runCommand_rejected_holding
    (covered : CoversCommand startAddr qty)
    (rejected : ¬ CommandAccepted D dev.holding dev.deviceConfig qty)
    (reg : Nat)
    (other : reg ≠ commandCode) :
    (dev.runCommand startAddr qty).2.holding reg = dev.holding reg := by
  have refused : ¬ (dev.handleCommand qty).1 ≠ 0 :=
    fun accepted => rejected ((handleCommand_accepts_iff dev qty).mp accepted)
  rw [commandCode] at other
  simp [runCommand, covered, refused, holding, other]

/-- After an accepted command the registers mirror the configuration records
that the handler left. -/
theorem runCommand_accepted_holding
    (covered : CoversCommand startAddr qty)
    (accepted : CommandAccepted D dev.holding dev.deviceConfig qty)
    (reg : Nat)
    (other : reg ≠ commandCode) :
    (dev.runCommand startAddr qty).2.holding reg =
      (dev.handleCommand qty).2.syncAll.holding reg := by
  have acknowledged := (handleCommand_accepts_iff dev qty).mpr accepted
  rw [commandCode] at other
  simp [runCommand, covered, acknowledged, other]
  rfl

end

end Device

end SensorFirmware
