import SensorFirmware.Modbus.Mirror
import SensorFirmware.Modbus.Thresholds
import SensorFirmware.Sensor.SensorService

/-!
# The sensor status register

Two components write the status register: the measurement cycle, from the
published temperature, and every read of input registers, from a temperature
that the Modbus service fixes in its constructor.  A read therefore returns the
status of the fixed temperature.
-/

namespace SensorFirmware

open BigEndian ModbusService

/-! ## Runs of the system -/

/-- A processing cycle of the sensor service or a received frame. -/
inductive SystemEvent
  | cycle (nowMs : UInt32) (reply : I2cReply)
  | frame (frame : FrameItem)

namespace System

variable [DoubleArith D]

/-- The system after its initialization. -/
def initialized (imageBytes : SettingsStruct → SensorStruct D → List UInt8)
    (flashData : Option (FlashConfig D)) (build : BuildInfo) : System D where
  device := Device.boot imageBytes flashData (Device.powerOn build)
  service := SensorService.initialize
  lcd := []

/-- One event. -/
def step (sys : System D) : SystemEvent → System D
  | .cycle nowMs reply => sys.process nowMs reply
  | .frame frame => { sys with device := sys.device.frameStep frame }

/-- Events in any order. -/
def run (sys : System D) (events : List SystemEvent) : System D :=
  Transition.run step sys events

@[simp] theorem run_nil (sys : System D) : sys.run [] = sys := rfl

@[simp] theorem run_cycle
    (sys : System D)
    (nowMs : UInt32)
    (reply : I2cReply)
    (events : List SystemEvent) :
    sys.run (.cycle nowMs reply :: events) = (sys.process nowMs reply).run events := rfl

/-- A run with a processing cycle in it. -/
theorem run_through_cycle
    (sys : System D)
    (earlier later : List SystemEvent)
    (nowMs : UInt32)
    (reply : I2cReply) :
    sys.run (earlier ++ .cycle nowMs reply :: later) =
      ((sys.run earlier).process nowMs reply).run later :=
  Transition.run_append step sys earlier _

end System

namespace Device

/-! ## What both components write -/

/-- The status that the measurement cycle stores. -/
theorem updateModbus_status
    (dev : Device D)
    (currentTemp currentHumidity : UInt16) :
    (dev.updateModbus currentTemp currentHumidity).inputRegister regSensorStatus =
      if dev.OutsideThresholds currentTemp then 0x01 else 0 := by
  have separate : ¬ (regSensorStatus = regAlarmFlags ∧ regAlarmFlags < holdingRegSize) := by
    decide
  rw [updateModbus, setInputRegister_inputRegister, if_neg separate,
    setInputRegister_inputRegister, if_pos (by decide)]
  rfl

/-- The status that a refresh of the live values stores. -/
theorem updateLiveInputs_status (dev : Device D) :
    dev.updateLiveInputs.inputRegister regSensorStatus = dev.liveStatus := by
  have inArray : regSensorStatus < holdingRegSize := by decide
  have plain : regSensorStatus ∉ RegisterBank.diagnosticRegs := by decide
  have kept := (RegisterBank.updateDiagnosticRegisters_footprint dev.errors).input
    ((dev.modbus.bank.setInput 0x20 dev.modbus.humVal.toUInt16).setInput
      regSensorStatus dev.liveStatus) regSensorStatus plain
  rw [inputRegister, if_pos inArray]
  refine Eq.trans kept ?_
  simp

section

variable [DoubleArith D]

/-- No frame changes the fixed temperature. -/
theorem frameStep_tempVal (dev : Device D) (frame : FrameItem) :
    (dev.frameStep frame).modbus.tempVal = dev.modbus.tempVal := by
  by_cases runs : dev.RunsCommand frame
  · rw [frameStep_runsCommand runs, runCommand_tempVal]
    exact ignoresTraffic_tempVal.commandState
  · exact ignoresTraffic_tempVal.frameStep runs

end

end Device

namespace System

/-- The temperature of the Modbus service is the one of its constructor. -/
def TempValFixed (sys : System D) : Prop := sys.device.modbus.tempVal = 250

/-- An accepted reading stores the status of the temperature it publishes. -/
theorem acceptReading_status
    (sys : System D)
    (nowMs : UInt32)
    (rawTemperature rawHumidity : UInt16) :
    let measured := sys.acceptReading nowMs rawTemperature rawHumidity
    measured.device.inputRegister regSensorStatus =
      if sys.device.OutsideThresholds measured.service.publishedTemperature then 0x01
      else 0 := by
  intro measured
  exact Device.updateModbus_status _ _ _

/-- Two status words agree when their conditions do. -/
private theorem statusWord_eq_iff
    (first second : Prop)
    [Decidable first]
    [Decidable second] :
    (if first then (0x01 : UInt16) else 0) = (if second then 0x01 else 0) ↔
      (second ↔ first) := by
  by_cases one : first <;> by_cases two : second <;> simp [one, two]

/-- A read that covers the status register returns the status of the fixed
temperature. -/
theorem readInput_status
    {sys : System D}
    {read : FrameItem}
    (fixed : sys.TempValFixed)
    (covers : read.addr.toNat ≤ regSensorStatus ∧
      regSensorStatus < read.addr.toNat + read.qty.toNat) :
    (sys.device.noteValidFrame.updateLiveInputs.inputWords read)[
        regSensorStatus - read.addr.toNat]? =
      some (if (sys.device.holding regTempHighAlarm).toInt16 < 250 then 0x01 else 0) := by
  have position : read.addr.toNat + (regSensorStatus - read.addr.toNat) =
      regSensorStatus := Nat.add_sub_cancel' covers.1
  have inside : regSensorStatus - read.addr.toNat < read.qty.toNat := by omega
  have status := Device.updateLiveInputs_status sys.device.noteValidFrame
  have temperature : sys.device.noteValidFrame.modbus.tempVal = 250 := fixed
  rw [Device.liveStatus, temperature] at status
  simp only [Device.inputWords, List.getElem?_map, List.getElem?_range inside,
    Option.map_some, position, status]
  rfl

variable [DoubleArith D]

theorem step_tempValFixed
    {sys : System D}
    {event : SystemEvent}
    (fixed : sys.TempValFixed) :
    (sys.step event).TempValFixed := by
  cases event with
  | frame frame => exact (Device.frameStep_tempVal sys.device frame).trans fixed
  | cycle nowMs reply =>
      by_cases accepts : ∃ rawTemperature rawHumidity,
        sys.Accepts nowMs reply rawTemperature rawHumidity
      · obtain ⟨rawTemperature, rawHumidity, accepts⟩ := accepts
        rw [TempValFixed, step, process_of_accepts accepts, acceptReading,
          Device.updateModbus_project _ _ _ (·.modbus.tempVal) fun _ _ => rfl]
        exact fixed
      · simp only [not_exists] at accepts
        obtain ⟨errors, same⟩ := process_device_of_not_accepts accepts
        rw [TempValFixed, step, same]
        exact fixed

theorem run_tempValFixed
    (imageBytes : SettingsStruct → SensorStruct D → List UInt8)
    (flashData : Option (FlashConfig D))
    (build : BuildInfo)
    (events : List SystemEvent) :
    ((initialized imageBytes flashData build).run events).TempValFixed := by
  have initially : (initialized imageBytes flashData build).TempValFixed :=
    Device.boot_tempVal imageBytes flashData (Device.powerOn build)
  exact Transition.run_invariant TempValFixed (fun _ _ => step_tempValFixed) initially
    events

/-- In every run after the initialization, an accepted unicast read that covers
the status register returns the status stored for an accepted measurement
exactly when that measurement was outside its thresholds if and only if the
upper threshold register is below 25 degrees at the time of the read.  In
particular this holds for the last accepted measurement. -/
theorem run_reads_status_iff
    (imageBytes : SettingsStruct → SensorStruct D → List UInt8)
    (flashData : Option (FlashConfig D))
    (build : BuildInfo)
    (earlier later : List SystemEvent)
    (nowMs : UInt32)
    (reply : I2cReply)
    (rawTemperature rawHumidity : UInt16)
    (read : FrameItem)
    (accepts : ((initialized imageBytes flashData build).run earlier).Accepts nowMs reply
      rawTemperature rawHumidity)
    (accepted : ((((initialized imageBytes flashData build).run
      (earlier ++ .cycle nowMs reply :: later)).device.processFrame (some read)).1 ≠ 0))
    (code : read.byte 1 = fcReadInput)
    (unicast : ¬ read.IsBroadcast)
    (covers : read.addr.toNat ≤ regSensorStatus ∧
      regSensorStatus < read.addr.toNat + read.qty.toNat) :
    let start := (initialized imageBytes flashData build).run earlier
    let measured := start.process nowMs reply
    let before := measured.run later
    ∃ words : List UInt16,
      (before.device.frameStep read).transmitted =
        before.device.transmitted ++
          [withCrc (before.device.idInForce :: fcReadInput :: (read.qty * 2).toUInt8 ::
            bytes words)] ∧
      (words[regSensorStatus - read.addr.toNat]? =
          some (measured.device.inputRegister regSensorStatus) ↔
        (start.device.OutsideThresholds measured.service.publishedTemperature ↔
          (before.device.holding regTempHighAlarm).toInt16 < 250)) := by
  intro start measured before
  have reached : (initialized imageBytes flashData build).run
      (earlier ++ .cycle nowMs reply :: later) = before :=
    run_through_cycle _ earlier later nowMs reply
  have fixed : before.TempValFixed := by
    rw [← reached]
    exact run_tempValFixed imageBytes flashData build _
  rw [reached] at accepted
  refine ⟨_, Device.processFrame_readInput_transmitted accepted code unicast, ?_⟩
  have published : measured = start.acceptReading nowMs rawTemperature rawHumidity :=
    process_of_accepts accepts
  have status : measured.device.inputRegister regSensorStatus =
      if start.device.OutsideThresholds measured.service.publishedTemperature then 0x01
      else 0 := by
    rw [published]
    exact acceptReading_status start nowMs rawTemperature rawHumidity
  rw [readInput_status fixed covers, status, Option.some.injEq]
  exact statusWord_eq_iff _ _

/-! ## A measurement of sixty degrees -/

/-- A bus that acknowledges, with a payload of 60.00 degrees. -/
def hotReply : I2cReply where
  triggerStatus := .ok
  readStatus := .ok
  frame := #v[0x99, 0x99, 0xBE, 0x80, 0x00, 0xA2]

/-- A read of the status register. -/
def statusRequest : FrameItem := twoWordRequest 1 fcReadInput 0x05 1

theorem statusRequest_code : statusRequest.byte 1 = fcReadInput :=
  twoWordRequest_byte _ _ _ _ 1 (by decide)

theorem statusRequest_unicast : ¬ statusRequest.IsBroadcast :=
  twoWordRequest_unicast _ _ _ _ (by decide)

theorem statusRequest_covers :
    statusRequest.addr.toNat ≤ regSensorStatus ∧
      regSensorStatus < statusRequest.addr.toNat + statusRequest.qty.toNat := by
  rw [statusRequest, twoWordRequest_addr, twoWordRequest_qty]
  decide

theorem statusRequest_accepted
    {dev : Device D}
    (config : dev.deviceConfig = SettingsStruct.defaults) :
    (dev.processFrame (some statusRequest)).1 ≠ 0 := by
  have idValid : dev.IdValid := by
    rw [Device.IdValid, config]
    decide
  have own : dev.deviceConfig.id.toUInt8 = 1 := by
    rw [config]
    rfl
  have notHolding : ¬ fcReadInput = fcReadHolding := by decide
  have inRange : statusRequest.ReadInRange := by
    rw [FrameItem.ReadInRange, statusRequest, twoWordRequest_addr, twoWordRequest_qty]
    decide
  have reaches : dev.Reaches statusRequest :=
    Device.reaches_twoWordRequest idValid own _ _ _
  rw [Device.processFrame_of_reaches reaches, Device.dispatch, statusRequest_code,
    if_neg notHolding, if_pos rfl, Device.processReadInputRegisters, if_pos inRange]
  exact (show (1 : UInt8) ≠ 0 by decide)

section

variable {sys : System ℚ} (service : sys.service = SensorService.initialize)

include service

/-- The first cycle triggers a measurement. -/
theorem process_first_triggers
    {reply : I2cReply}
    (acknowledged : reply.triggerStatus = .ok) :
    sys.process 0 reply =
      { sys.withErrors sys.device.errors.reportI2cSuccess with
        service := { SensorService.initialize with state := .read } } := by
  have state : sys.service.state = .trigger := by rw [service]; rfl
  have due : ¬ ((0 : UInt32) - sys.service.nextTriggerTimeMs).toInt32 < 0 := by
    rw [service]
    decide
  rw [process_of_triggers state due acknowledged, service]
  rfl

/-- The second one accepts it. -/
theorem process_hot_accepts :
    (sys.process 0 hotReply).Accepts 20 hotReply 0x9999 0x8000 := by
  have triggered : (sys.process 0 hotReply).service =
      { SensorService.initialize with state := .read } := by
    rw [process_first_triggers service rfl]
  rw [Accepts, triggered]
  decide +kernel

theorem process_hot_publishes :
    ((sys.process 0 hotReply).process 20 hotReply).service.publishedTemperature =
      600 := by
  have triggered : (sys.process 0 hotReply).service =
      { SensorService.initialize with state := .read } := by
    rw [process_first_triggers service rfl]
  rw [process_of_accepts (process_hot_accepts service), acceptReading_service, triggered]
  decide +kernel

theorem process_hot_deviceConfig :
    ((sys.process 0 hotReply).process 20 hotReply).device.deviceConfig =
      sys.device.deviceConfig := by
  rw [process_of_accepts (process_hot_accepts service), acceptReading_deviceConfig,
    process_first_triggers service rfl]
  rfl

theorem process_hot_holding (reg : Nat) :
    ((sys.process 0 hotReply).process 20 hotReply).device.holding reg =
      sys.device.holding reg := by
  rw [process_of_accepts (process_hot_accepts service), acceptReading_holding,
    process_first_triggers service rfl]
  rfl

theorem process_hot_status
    (threshold : sys.device.holding regTempHighAlarm = 500) :
    ((sys.process 0 hotReply).process 20 hotReply).device.inputRegister
      regSensorStatus = 1 := by
  have published := process_of_accepts (process_hot_accepts service)
  have temperature := process_hot_publishes service
  rw [published] at temperature
  have outside : (sys.process 0 hotReply).device.OutsideThresholds 600 := by
    left
    rw [process_first_triggers service rfl]
    show sys.device.holding regTempHighAlarm < 600
    rw [threshold]
    decide
  rw [published, acceptReading_status, temperature, if_pos outside]

end

/-- The system before its first cycle. -/
def fresh : System ℚ := initialized (fun _ _ => []) none BuildInfo.unitTest

theorem fresh_service : fresh.service = SensorService.initialize := rfl

theorem fresh_device : fresh.device = Device.firstBoot BuildInfo.unitTest := rfl

/-- The system after the measurement. -/
def hot : System ℚ := (fresh.process 0 hotReply).process 20 hotReply

theorem hot_deviceConfig : hot.device.deviceConfig = SettingsStruct.defaults := by
  rw [hot, process_hot_deviceConfig fresh_service, fresh_device,
    Device.firstBoot_deviceConfig]

theorem fresh_threshold : fresh.device.holding regTempHighAlarm = 500 := by
  have mirrored := Device.firstBoot_thresholdsMirrored (D := ℚ) BuildInfo.unitTest 0
    (by decide)
  rw [Device.firstBoot_deviceConfig, Nat.add_zero] at mirrored
  rw [fresh_device, mirrored]
  decide

theorem hot_threshold : hot.device.holding regTempHighAlarm = 500 := by
  rw [hot, process_hot_holding fresh_service, fresh_threshold]

theorem hot_reads_status_iff :
    let start := (initialized (fun _ _ => []) none BuildInfo.unitTest : System ℚ).run
      [.cycle 0 hotReply]
    let measured := start.process 20 hotReply
    let before := measured.run []
    ∃ words : List UInt16,
      (before.device.frameStep statusRequest).transmitted =
        before.device.transmitted ++
          [withCrc (before.device.idInForce :: fcReadInput ::
            (statusRequest.qty * 2).toUInt8 :: bytes words)] ∧
      (words[regSensorStatus - statusRequest.addr.toNat]? =
          some (measured.device.inputRegister regSensorStatus) ↔
        (start.device.OutsideThresholds measured.service.publishedTemperature ↔
          (before.device.holding regTempHighAlarm).toInt16 < 250)) := by
  have accepts : (fresh.run [.cycle 0 hotReply]).Accepts 20 hotReply 0x9999 0x8000 := by
    rw [run_cycle, run_nil]
    exact process_hot_accepts fresh_service
  have reached : fresh.run ([.cycle 0 hotReply] ++ .cycle 20 hotReply :: []) = hot := by
    rw [run_through_cycle, run_cycle, run_nil, run_nil, hot]
  have accepted : ((fresh.run
      ([.cycle 0 hotReply] ++ .cycle 20 hotReply :: [])).device.processFrame
        (some statusRequest)).1 ≠ 0 := by
    rw [reached]
    exact statusRequest_accepted hot_deviceConfig
  exact run_reads_status_iff _ _ _ _ _ _ _ _ _ _ accepts accepted statusRequest_code
    statusRequest_unicast statusRequest_covers

/-- The measurement stores an alarm, and the read returns none. -/
theorem hot_status_hidden :
    (fresh.process 0 hotReply).Accepts 20 hotReply 0x9999 0x8000 ∧
      hot.device.inputRegister regSensorStatus = 1 ∧
      (hot.device.processFrame (some statusRequest)).1 ≠ 0 ∧
      ∃ words : List UInt16,
        (hot.device.frameStep statusRequest).transmitted =
          hot.device.transmitted ++
            [withCrc (hot.device.idInForce :: fcReadInput ::
              (statusRequest.qty * 2).toUInt8 :: bytes words)] ∧
        words[regSensorStatus - statusRequest.addr.toNat]? = some 0 := by
  have accepts := process_hot_accepts fresh_service
  have accepted := statusRequest_accepted hot_deviceConfig
  have fixed : hot.TempValFixed := by
    have reached : hot = fresh.run [.cycle 0 hotReply, .cycle 20 hotReply] := by
      rw [run_cycle, run_cycle, run_nil, hot]
    rw [reached]
    exact run_tempValFixed _ _ _ _
  refine ⟨accepts, process_hot_status fresh_service fresh_threshold, accepted, _,
    Device.processFrame_readInput_transmitted accepted statusRequest_code
      statusRequest_unicast, ?_⟩
  rw [readInput_status fixed statusRequest_covers, hot_threshold]
  decide

end System

end SensorFirmware
