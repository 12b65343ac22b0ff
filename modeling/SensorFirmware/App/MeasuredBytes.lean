import SensorFirmware.App.Firmware
import SensorFirmware.Sensor.AcceptedPayloads

/-!
# From the bytes on the bus to the registers

Along every run of the firmware the registers of temperature and humidity show the medians
of the measurements that the bus has delivered: six bytes in a row with the right
checksums, no byte part of two measurements, and none lost on the way from the data
register to the registers that a master reads.
-/

namespace SensorFirmware

open MedianFilter (IsMedian)

/-! ## What the main loop does to the published registers -/

namespace Device

theorem queueReceived_bank
    (dev : Device D)
    (received : Option UartFrame)
    (time : UInt32) :
    (dev.queueReceived received time).2.modbus.bank = dev.modbus.bank := by
  cases received with
  | none => rfl
  | some received =>
      simp only [queueReceived]
      split
      · simp only [queueFrame]
        split <;> rfl
      · rfl

theorem dequeueFrame_bank
    (dev : Device D)
    (frame : Option FrameItem) :
    (dev.dequeueFrame frame).2.2.modbus.bank = dev.modbus.bank := by
  cases frame with
  | none => rfl
  | some frame =>
      rw [dequeueFrame]
      split <;> rfl

/-- A call of `ModbusService::process` changes no published register. -/
theorem process_published [DoubleArith D]
    (dev : Device D)
    (received : Option UartFrame)
    (time : UInt32)
    (reg : Nat)
    (published : reg ∈ RegisterBank.publishedRegs) :
    (dev.process received time).2.input reg = dev.input reg := by
  have queued := dev.queueReceived_bank received time
  simp only [process]
  generalize (dev.queueReceived received time).2 = fetched at queued ⊢
  have dequeued := fetched.dequeueFrame_bank (some fetched.modbus.frameScratch)
  generalize fetched.dequeueFrame (some fetched.modbus.frameScratch) = result at dequeued ⊢
  have same : (result.2.2.withFrameScratch result.2.1).input reg = dev.input reg := by
    rw [input, input, ← queued, ← dequeued]
    rfl
  split
  · rw [frameStep_published _ reg published]
    exact same
  · exact same

/-- The initialization of the service zeroes the published registers. -/
theorem initialized_published [DoubleArith D]
    (dev : Device D)
    (slaveAddress : UInt8)
    (reg : Nat)
    (published : reg ∈ RegisterBank.publishedRegs) :
    (dev.initialized slaveAddress).input reg = 0 := by
  have inArray : reg < holdingRegSize := by
    revert reg
    decide
  rw [initialized, syncAll, updateBank_input,
    RegisterBank.syncAll_published _ _ _ _ _ reg published, configLoadFromFlash]
  split
  · exact RegisterBank.input_zero reg inArray
  · exact RegisterBank.input_zero reg inArray

end Device

namespace Firmware

variable [DoubleArith D] [DoubleLayout D] {i2c1 : I2c1}

/-- Neither does what precedes the sensor service in an iteration. -/
theorem beforeSensor_published
    (fw : Firmware D)
    (input : FirmwareInput)
    (reg : Nat)
    (published : reg ∈ RegisterBank.publishedRegs) :
    (fw.beforeSensor input).system.device.input reg = fw.app.system.device.input reg := by
  have received : (fw.app.receive input.received input.receivedMs).system.device.input reg =
      fw.app.system.device.input reg :=
    Device.process_published _ _ _ reg published
  simp only [beforeSensor, Application.withSystem, System.loopStep]
  rw [Device.setHoldingRegister, Device.updateBank_input, if_pos (by decide),
    Application.saveRequested_modbus]
  exact received

/-- What the firmware has measured: payloads of the received stream, in order and apart
from each other, which the registers show. -/
structure Measured (i2c1 : I2c1) (fw : Firmware D) (positions : List Nat) : Prop where
  apart : positions.Pairwise fun earlier later => earlier + 6 ≤ later
  received : ∀ position ∈ positions, position + 6 ≤ fw.bus.drReads
  valid : ∀ position ∈ positions, i2c1.ValidPayload position
  shown : fw.app.system.ShowsFiltered (i2c1.words positions)

/-- An iteration reads bytes from the bus, and the six of a measurement that it
accepts. -/
theorem iterate_drReads
    (fw : Firmware D)
    (i2c1 : I2c1)
    (input : FirmwareInput) :
    fw.bus.drReads ≤ (fw.iterate i2c1 input).bus.drReads ∧
      (fw.access i2c1 input = .accepted →
        (fw.iterate i2c1 input).bus.drReads = fw.bus.drReads + 6) := by
  obtain ⟨accessed, cycle, after⟩ := fw.iterate_bus i2c1 input
  have same : (fw.iterate i2c1 input).bus.drReads = accessed.drReads := by
    rcases after with same | recovered
    · rw [same]
    · have data : I2cBus.DataView I2cBus.drReads := fun _ _ _ _ _ _ _ => rfl
      rw [recovered, view_afterRecovery i2c1 data]
  rw [same]
  exact cycle.drReads

/-- An iteration adds the next payload to the measurements when it accepts one, and
keeps them otherwise. -/
theorem Measured.iterate
    {fw : Firmware D}
    {positions : List Nat}
    (measured : Measured i2c1 fw positions)
    (input : FirmwareInput) :
    (fw.access i2c1 input = .accepted →
      Measured i2c1 (fw.iterate i2c1 input) (positions ++ [fw.bus.drReads])) ∧
    (fw.access i2c1 input ≠ .accepted → Measured i2c1 (fw.iterate i2c1 input) positions) := by
  have prepared : (fw.beforeSensor input).system.ShowsFiltered (i2c1.words positions) :=
    measured.shown.of_same (congrArg _ (fw.beforeSensor_service input))
      (fw.beforeSensor_published input)
  obtain ⟨otherwise, accepts⟩ := prepared.processOn i2c1 fw.bus input.nowMs
  obtain ⟨grows, reads⟩ := fw.iterate_drReads i2c1 input
  have served {words : List (UInt16 × UInt16)}
      (shown : ((fw.beforeSensor input).system.processOn i2c1 fw.bus
        input.nowMs).1.ShowsFiltered words) :
      (fw.iterate i2c1 input).app.system.ShowsFiltered words := by
    have checked := shown.withErrors
      ((fw.beforeSensor input).system.processOn i2c1 fw.bus
        input.nowMs).1.device.errors.process
    rw [iterate_system, recoverIfRequested, System.loopStep]
    split
    · rw [System.loopStep]
      exact checked.withErrors _
    · exact checked
  constructor
  · intro accepted
    obtain ⟨valid, shown⟩ := accepts accepted
    refine ⟨?_, ?_, ?_, ?_⟩
    · rw [List.pairwise_append]
      refine ⟨measured.apart, List.pairwise_singleton _ _, ?_⟩
      intro position earlier next last
      rw [List.mem_singleton.mp last]
      exact measured.received position earlier
    · intro position listed
      rw [reads accepted]
      rcases List.mem_append.mp listed with earlier | last
      · exact Nat.le_trans (measured.received position earlier) (Nat.le_add_right _ _)
      · rw [List.mem_singleton.mp last]
    · intro position listed
      rcases List.mem_append.mp listed with earlier | last
      · exact measured.valid position earlier
      · rw [List.mem_singleton.mp last]
        exact valid
    · rw [I2c1.words, List.map_append]
      exact served shown
  · intro refused
    exact ⟨measured.apart,
      fun position listed => Nat.le_trans (measured.received position listed) grows,
      measured.valid, served (otherwise refused)⟩

/-- Nothing is published after the start. -/
theorem boot_published
    (build : BuildInfo)
    (sector : ConfigSector)
    (padding : Vector UInt8 2)
    (replies : SaveReplies)
    (watchdogReset : Bool)
    (reg : Nat)
    (published : reg ∈ RegisterBank.publishedRegs) :
    (boot i2c1 build sector padding replies watchdogReset : Firmware
      D).app.system.device.input reg = 0 := by
  rw [boot, Application.initialized_system, System.started, Device.started]
  exact Device.initialized_published _ _ reg published

/-- Nothing is measured after the start. -/
theorem measured_boot
    (build : BuildInfo)
    (sector : ConfigSector)
    (padding : Vector UInt8 2)
    (replies : SaveReplies)
    (watchdogReset : Bool) :
    Measured i2c1 (boot i2c1 build sector padding replies watchdogReset : Firmware D) [] where
  apart := .nil
  received := nofun
  valid := nofun
  shown :=
    { filtered := SensorService.hasFiltered_start
      temperature := boot_published build sector padding replies watchdogReset _ (by decide)
      humidity := boot_published build sector padding replies watchdogReset _ (by decide) }

/-- A run measures once for each access that is accepted. -/
theorem Measured.run
    {fw : Firmware D}
    (measured : Measured i2c1 fw [])
    (inputs : List FirmwareInput) :
    ∃ positions, Measured i2c1 (fw.run i2c1 inputs) positions ∧
      positions.length = (fw.accesses i2c1 inputs).count .accepted := by
  induction inputs using List.reverseRecOn with
  | nil => exact ⟨[], measured, rfl⟩
  | append_singleton inputs input inductionHypothesis =>
      obtain ⟨positions, soFar, counted⟩ := inductionHypothesis
      obtain ⟨accepts, otherwise⟩ := soFar.iterate input
      rw [run_concat, accesses_concat, List.count_append, ← counted]
      by_cases accepted : (fw.run i2c1 inputs).access i2c1 input = .accepted
      · refine ⟨_, accepts accepted, ?_⟩
        rw [List.length_append, accepted, List.length_singleton, List.count_singleton_self]
      · refine ⟨_, otherwise accepted, ?_⟩
        rw [List.count_singleton, if_neg (by simpa using accepted), Nat.add_zero]

/-- In every run from the start, whatever the bus and the master do, there is one valid
payload in the bytes that the bus has delivered for each accepted measurement, no byte
belongs to two of them, and the registers of temperature and humidity show the medians of
the last eighteen, the first one counted eighteen times.  Before the first they are
zero. -/
theorem run_publishesReceived
    (i2c1 : I2c1)
    (build : BuildInfo)
    (sector : ConfigSector)
    (padding : Vector UInt8 2)
    (replies : SaveReplies)
    (watchdogReset : Bool)
    (inputs : List FirmwareInput) :
    let start : Firmware D := boot i2c1 build sector padding replies watchdogReset
    let after := start.run i2c1 inputs
    let dev := after.app.system.device
    ∃ positions : List Nat,
      positions.length = (start.accesses i2c1 inputs).count .accepted ∧
      (positions.Pairwise fun earlier later => earlier + 6 ≤ later) ∧
      (∀ position ∈ positions,
        position + 6 ≤ after.bus.drReads ∧ i2c1.ValidPayload position) ∧
      (positions = [] →
        dev.input regTempValue = 0 ∧ dev.input regGasConctValue = 0) ∧
      (positions ≠ [] → ∃ temperature humidity,
        IsMedian temperature ((seeded (temperatures (i2c1.words positions))).rtake 18) ∧
        IsMedian humidity ((seeded (humidities (i2c1.words positions))).rtake 18) ∧
        dev.input regTempValue = UInt16.ofInt (temperature.tdiv 10) ∧
        dev.input regGasConctValue = UInt16.ofInt (humidity.tdiv 10)) := by
  intro start after dev
  have booted : Measured i2c1 start [] :=
    measured_boot build sector padding replies watchdogReset
  obtain ⟨positions, measured, counted⟩ := booted.run inputs
  have filtered := measured.shown.filtered
  refine ⟨positions, counted, measured.apart, ?_, ?_, ?_⟩
  · exact fun position listed =>
      ⟨measured.received position listed, measured.valid position listed⟩
  · rintro rfl
    obtain ⟨temperature, humidity⟩ := filtered.nothing rfl
    constructor
    · rw [measured.shown.temperature, SensorService.publishedTemperature, temperature]
      rfl
    · rw [measured.shown.humidity, SensorService.publishedHumidity, humidity]
      rfl
  · intro some
    have words : i2c1.words positions ≠ [] := mt List.map_eq_nil_iff.mp some
    exact ⟨_, _, filtered.temperature words, filtered.humidity words,
      measured.shown.temperature, measured.shown.humidity⟩

end Firmware

end SensorFirmware
