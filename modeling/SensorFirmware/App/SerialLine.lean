import SensorFirmware.App.WatchdogFeeding
import SensorFirmware.Drivers.UartTransmit
import SensorFirmware.Modbus.Exchanges

/-!
# The firmware on the serial line

The main loop hands its responses to `UART_Send`, whose statements are the next ones that it
performs.  The stream and the interrupts of the transmitter go on beside it.  Whatever frames
arrive, the line carries whole responses, each one to a request that the device received.
-/

namespace SensorFirmware

open ModbusService

/-! ## What an iteration transmits -/

/-- The responses of the device and the id that it responds to. -/
def Device.onLine (dev : Device D) : List (List UInt8) × UInt16 :=
  (dev.transmitted, dev.deviceConfig.id)

theorem System.withErrors_onLine
    (sys : System D)
    (errors : ErrorManager) :
    (sys.withErrors errors).device.onLine = sys.device.onLine := rfl

/-- Only frames have to do with the line. -/
theorem System.loopStep_onLine [DoubleArith D]
    (sys : System D)
    {event : LoopEvent}
    (silent : ∀ frame, event ≠ .frame frame) :
    (sys.loopStep event).device.onLine = sys.device.onLine := by
  cases event with
  | cycle nowMs reply =>
      have cycle := sys.process_cycle nowMs reply
      rw [loopStep]
      generalize sys.access nowMs reply = access, sys.process nowMs reply = after at cycle ⊢
      cases cycle with
      | accepted rawTemperature rawHumidity =>
          rw [acceptReading, Device.updateModbus_project _ _ _ Device.onLine fun _ _ => rfl]
          exact withErrors_onLine sys _
      | earlyTrigger | earlyRead => rfl
      | triggered | triggerFailed | readFailed | rejected => exact withErrors_onLine sys _
  | frame frame => exact absurd rfl (silent frame)
  | save success => cases success with
    | false => exact sys.withErrors_onLine _
    | true => rfl
  | recovery | uartOverflow | check => exact sys.withErrors_onLine _
  | supplyVoltage value => rw [loopStep]; rfl

/-- A save keeps the id. -/
theorem Application.saveRequested_onLine [DoubleArith D] [DoubleLayout D]
    (app : Application D)
    (padding : Vector UInt8 2)
    (replies : SaveReplies) :
    (app.saveRequested padding replies).system.device.onLine = app.system.device.onLine := by
  rw [saveRequested]
  split
  · let saved := app.configManager.saveDeviceConfig padding replies
    have config :=
      ConfigManager.saveDeviceConfig_deviceConfig app.configManager padding replies
    have configured : (app.withConfigManager saved.2).system.device.onLine =
        app.system.device.onLine := by
      rw [Device.onLine, withConfigManager, config]
      rfl
    rw [← configured]
    exact System.loopStep_onLine (app.withConfigManager saved.2).system (by simp)
  · rfl

namespace Firmware

variable [DoubleArith D] [DoubleLayout D]

/-- Of an iteration only `modbus_.process()` has to do with the line. -/
theorem iterate_onLine
    (i2c1 : I2c1)
    (fw : Firmware D)
    (input : FirmwareInput) :
    (fw.iterate i2c1 input).app.system.device.onLine =
      (fw.app.system.device.process input.received input.receivedMs).2.onLine := by
  have recovered (system : System D) (bus : I2cBus) :
      (recoverIfRequested i2c1 system bus).1.device.onLine = system.device.onLine := by
    rw [recoverIfRequested]
    split
    · exact System.loopStep_onLine system (by simp)
    · rfl
  have prepared : (fw.beforeSensor input).system.device.onLine =
      (fw.app.receive input.received input.receivedMs).system.device.onLine := by
    rw [beforeSensor, Application.withSystem, System.loopStep_onLine _ (by simp),
      Application.saveRequested_onLine]
  have accessed : ((fw.beforeSensor input).system.processOn i2c1 fw.bus
      input.nowMs).1.device.onLine = (fw.beforeSensor input).system.device.onLine := by
    have silent (frame : FrameItem) : LoopEvent.cycle input.nowMs
        ((fw.beforeSensor input).system.replyOn i2c1 fw.bus) ≠ .frame frame := by simp
    rw [System.processOn_system]
    exact System.loopStep_onLine (fw.beforeSensor input).system silent
  rw [iterate_system, recovered, System.loopStep_onLine _ (by simp), accessed, prepared]
  rfl

theorem iterate_transmitted
    (i2c1 : I2c1)
    (fw : Firmware D)
    (input : FirmwareInput) :
    (fw.iterate i2c1 input).app.system.device.transmitted =
      (fw.app.system.device.process input.received input.receivedMs).2.transmitted := by
  have same := fw.iterate_onLine i2c1 input
  simp only [Device.onLine, Prod.mk.injEq] at same
  exact same.1

/-- No iteration makes a legal slave id illegal. -/
theorem iterate_idValid
    (i2c1 : I2c1)
    (fw : Firmware D)
    (input : FirmwareInput)
    (valid : fw.app.system.device.IdValid) :
    (fw.iterate i2c1 input).app.system.device.IdValid := by
  have same := fw.iterate_onLine i2c1 input
  simp only [Device.onLine, Prod.mk.injEq] at same
  rw [Device.IdValid, same.2]
  exact Device.process_idValid valid input.received input.receivedMs

/-- An iteration leaves the queue of frames empty. -/
theorem iterate_queueEmpty
    (i2c1 : I2c1)
    (fw : Firmware D)
    (input : FirmwareInput)
    (empty : fw.app.system.device.QueueEmpty) :
    (fw.iterate i2c1 input).app.system.device.QueueEmpty :=
  (fw.iterate_continuesWith i2c1 input empty).1

/-- What an iteration hands over to `UartDriver::send`. -/
def handedOver (i2c1 : I2c1) (fw : Firmware D) (input : FirmwareInput) : List (List UInt8) :=
  (fw.iterate i2c1 input).app.system.device.transmitted.drop
    fw.app.system.device.transmitted.length

/-- An iteration hands over one response to a request to the device, and nothing
otherwise. -/
theorem handedOver_eq
    (i2c1 : I2c1)
    (fw : Firmware D)
    (input : FirmwareInput)
    (empty : fw.app.system.device.QueueEmpty)
    (valid : fw.app.system.device.IdValid) :
    let id := fw.app.system.device.deviceConfig.id.toUInt8
    (HasResponse id (receivedBytes input.received) ∧
        ∃ response, Exchange.Answers ⟨receivedBytes input.received, response⟩ id ∧
          fw.handedOver i2c1 input = [response]) ∨
      (¬ HasResponse id (receivedBytes input.received) ∧ fw.handedOver i2c1 input = []) := by
  intro id
  rw [handedOver, iterate_transmitted]
  rcases empty.process_responds valid input.received input.receivedMs with
    ⟨asked, response, answers, transmits⟩ | ⟨silent, transmits⟩
  · left
    refine ⟨asked, response, answers, ?_⟩
    rw [transmits, List.drop_left]
  · right
    refine ⟨silent, ?_⟩
    rw [transmits, List.drop_length]

/-- The slave id is legal after the start. -/
theorem boot_idValid
    (i2c1 : I2c1)
    (build : BuildInfo)
    (sector : ConfigSector)
    (padding : Vector UInt8 2)
    (replies : SaveReplies)
    (watchdogReset : Bool) :
    (boot i2c1 build sector padding replies watchdogReset : Firmware
      D).app.system.device.IdValid := by
  rw [boot, Application.initialized_system]
  exact Device.started_idValid _ _ _ _

end Firmware

/-! ## The line -/

/-- The firmware and its transmitter. -/
structure SerialLine (D : Type) where
  fw : Firmware D
  transmitter : Transmitter

/-- An iteration of the main loop, a statement of `UART_Send`, or what goes on beside the
main loop. -/
inductive LineEvent
  | iterate (input : FirmwareInput)
  | proceed
  | moveByte
  | dma2Stream7
  | usart1 (tc : Bool)

namespace SerialLine

variable [DoubleArith D] [DoubleLayout D]

/-- The line after `Application::initialize`. -/
def boot
    (i2c1 : I2c1)
    (build : BuildInfo)
    (sector : ConfigSector)
    (padding : Vector UInt8 2)
    (replies : SaveReplies)
    (watchdogReset : Bool) : SerialLine D where
  fw := Firmware.boot i2c1 build sector padding replies watchdogReset
  transmitter := Transmitter.init

/-- What an event is for the transmitter.  The main loop iterates only behind the last
statement of `UART_Send`. -/
def txEvents (i2c1 : I2c1) (line : SerialLine D) : LineEvent → List TxEvent
  | .iterate input =>
      if line.transmitter.program = [] then (line.fw.handedOver i2c1 input).map .send else []
  | .proceed => [.proceed]
  | .moveByte => [.moveByte]
  | .dma2Stream7 => [.dma2Stream7]
  | .usart1 tc => [.usart1 tc]

def step (i2c1 : I2c1) (line : SerialLine D) (event : LineEvent) : SerialLine D where
  fw :=
    match event with
    | .iterate input =>
        if line.transmitter.program = [] then line.fw.iterate i2c1 input else line.fw
    | _ => line.fw
  transmitter := line.transmitter.run (line.txEvents i2c1 event)

def run (i2c1 : I2c1) (line : SerialLine D) (events : List LineEvent) : SerialLine D :=
  Transition.run (step i2c1) line events

/-- The request that an event is accepted a response to, with the response. -/
def exchange (i2c1 : I2c1) (line : SerialLine D) (event : LineEvent) : Option Exchange :=
  match event with
  | .iterate input =>
      (line.transmitter.acceptedFrames (line.txEvents i2c1 event)).head?.map fun response =>
        { request := receivedBytes input.received, response := response }
  | _ => none

/-- The exchanges of a run, in order. -/
def exchanges (i2c1 : I2c1) (line : SerialLine D) (events : List LineEvent) :
    List Exchange :=
  (Transition.outputs (step i2c1) (exchange i2c1) line events).filterMap id

/-- The id that the device responds to. -/
def slaveId (line : SerialLine D) : UInt8 :=
  line.fw.app.system.device.deviceConfig.id.toUInt8

/-- The UART reports that everything has left it only when there is nothing to move. -/
def Timely (line : SerialLine D) (event : LineEvent) : Prop :=
  event = .usart1 true →
    line.transmitter.program = [] ∧ line.transmitter.enabled = false

instance (line : SerialLine D) (event : LineEvent) : Decidable (line.Timely event) :=
  match event with
  | .usart1 true =>
      decidable_of_iff (line.transmitter.program = [] ∧ line.transmitter.enabled = false)
        ⟨fun quiet _ => quiet, fun timely => timely rfl⟩
  | .usart1 false | .iterate _ | .proceed | .moveByte | .dma2Stream7 => .isTrue nofun

/-- No frame waits, the device has a legal id, and the transmitter is in step with the
responses. -/
structure Serves (line : SerialLine D) (exchanges : List Exchange) : Prop where
  queueEmpty : line.fw.app.system.device.QueueEmpty
  idValid : line.fw.app.system.device.IdValid
  transmits : ∃ rest, line.transmitter.Transmits (exchanges.map Exchange.response) rest

theorem boot_serves
    (i2c1 : I2c1)
    (build : BuildInfo)
    (sector : ConfigSector)
    (padding : Vector UInt8 2)
    (replies : SaveReplies)
    (watchdogReset : Bool) :
    (boot i2c1 build sector padding replies watchdogReset : SerialLine D).Serves [] where
  queueEmpty := Firmware.boot_queueEmpty i2c1 build sector padding replies watchdogReset
  idValid := Firmware.boot_idValid i2c1 build sector padding replies watchdogReset
  transmits := ⟨[], Transmitter.transmits_init⟩

/-- From an erased flash the device starts with the default id. -/
theorem boot_slaveId_erased
    (i2c1 : I2c1)
    (build : BuildInfo)
    (padding : Vector UInt8 2)
    (replies : SaveReplies)
    (watchdogReset : Bool) :
    (boot i2c1 build (FlashMemory.erased _) padding replies watchdogReset :
      SerialLine D).slaveId = 1 := by
  have defaults := ConfigManager.loaded_of_invalid
    (Application.construct build (FlashMemory.erased _) : Application D).configManager padding
    replies ConfigManager.storedImage_erased_invalid
  rw [slaveId, boot, Firmware.boot, Application.initialized_deviceConfig, defaults.1]
  rfl

/-- An iteration is one call of `UART_Send`, with an answer to the request, or none. -/
theorem Serves.txEvents_iterate
    {line : SerialLine D}
    {exchanges : List Exchange}
    (serves : line.Serves exchanges)
    (i2c1 : I2c1)
    (input : FirmwareInput)
    (returned : line.transmitter.program = []) :
    (HasResponse line.slaveId (receivedBytes input.received) ∧
        ∃ response, Exchange.Answers ⟨receivedBytes input.received, response⟩ line.slaveId ∧
          line.txEvents i2c1 (.iterate input) = [.send response]) ∨
      (¬ HasResponse line.slaveId (receivedBytes input.received) ∧
        line.txEvents i2c1 (.iterate input) = []) := by
  rw [txEvents, if_pos returned]
  rcases line.fw.handedOver_eq i2c1 input serves.queueEmpty serves.idValid with
    ⟨asked, response, answers, handed⟩ | ⟨silent, handed⟩
  · left
    refine ⟨asked, response, answers, ?_⟩
    rw [handed, List.map_singleton]
  · right
    refine ⟨silent, ?_⟩
    rw [handed, List.map_nil]

/-- A free transmitter accepts every answer. -/
theorem accepted_answer
    {transmitter : Transmitter}
    {exchange : Exchange}
    {id : UInt8}
    (answers : exchange.Answers id)
    (returned : transmitter.program = []) :
    transmitter.accepted (.send exchange.response) =
      if transmitter.uartTxBusy = 0 then some exchange.response else none := by
  obtain ⟨function, -, -, wellFormed⟩ := answers
  have fits := wellFormed.length_le
  have nonempty : exchange.response.length ≠ 0 := by
    intro empty
    have address := wellFormed.address
    rw [List.eq_nil_of_length_eq_zero empty] at address
    exact absurd address (by simp)
  rw [Transmitter.accepted]
  refine if_congr ?_ rfl rfl
  constructor
  · exact fun accepts => accepts.2.2.2
  · exact fun free => ⟨returned, nonempty, by omega, free⟩

/-- An iteration adds an exchange if a request finds the transmitter free.  A busy
transmitter drops the response. -/
theorem Serves.exchange_iterate
    {i2c1 : I2c1}
    {line : SerialLine D}
    {exchanges : List Exchange}
    (serves : line.Serves exchanges)
    (input : FirmwareInput) :
    (∀ exchange ∈ line.exchange i2c1 (.iterate input), exchange.Answers line.slaveId) ∧
    ((line.exchange i2c1 (.iterate input)).isSome = true ↔
      line.transmitter.program = [] ∧ line.transmitter.uartTxBusy = 0 ∧
        HasResponse line.slaveId (receivedBytes input.received)) := by
  rw [exchange]
  by_cases returned : line.transmitter.program = []
  · rcases serves.txEvents_iterate i2c1 input returned with
      ⟨asked, response, answers, sends⟩ | ⟨silent, sends⟩
    · rw [sends, Transmitter.acceptedFrames_singleton, accepted_answer answers returned]
      by_cases free : line.transmitter.uartTxBusy = 0
      · simp [free, returned, asked, answers]
      · simp [free]
    · rw [sends]
      simp [silent]
  · rw [txEvents, if_neg returned]
    simp [returned]

/-- The exchanges record what the transmitter accepts. -/
theorem Serves.map_exchange
    {i2c1 : I2c1}
    {line : SerialLine D}
    {exchanges : List Exchange}
    (serves : line.Serves exchanges)
    (event : LineEvent) :
    (line.exchange i2c1 event).toList.map Exchange.response =
      line.transmitter.acceptedFrames (line.txEvents i2c1 event) := by
  cases event with
  | iterate input =>
      rw [exchange]
      by_cases returned : line.transmitter.program = []
      · rcases serves.txEvents_iterate i2c1 input returned with
          ⟨-, response, -, sends⟩ | ⟨-, sends⟩
        · rw [sends, Transmitter.acceptedFrames_singleton]
          cases line.transmitter.accepted (.send response) <;> rfl
        · rw [sends]
          rfl
      · rw [txEvents, if_neg returned]
        rfl
  | proceed | moveByte | dma2Stream7 | usart1 =>
      rw [txEvents, Transmitter.acceptedFrames_singleton]
      rfl

/-- The transmitter sees no early end. -/
theorem Timely.txEvents
    {line : SerialLine D}
    {event : LineEvent}
    (timely : line.Timely event)
    (i2c1 : I2c1) :
    Transition.AllSteps Transmitter.step Transmitter.Timely line.transmitter
      (line.txEvents i2c1 event) := by
  have sends (transmitter : Transmitter) (responses : List (List UInt8)) :
      Transition.AllSteps Transmitter.step Transmitter.Timely transmitter
        (responses.map .send) := by
    induction responses generalizing transmitter with
    | nil => trivial
    | cons response responses inductionHypothesis =>
        exact ⟨fun same => absurd same (by simp), inductionHypothesis _⟩
  cases event with
  | iterate input =>
      rw [SerialLine.txEvents]
      split
      · exact sends _ _
      · trivial
  | proceed | moveByte | dma2Stream7 => exact ⟨fun same => absurd same (by simp), trivial⟩
  | usart1 tc =>
      refine ⟨fun same => timely ?_, trivial⟩
      rw [TxEvent.usart1.inj same]

theorem Serves.step
    {i2c1 : I2c1}
    {line : SerialLine D}
    {exchanges : List Exchange}
    (serves : line.Serves exchanges)
    {event : LineEvent}
    (timely : line.Timely event) :
    (line.step i2c1 event).Serves (exchanges ++ (line.exchange i2c1 event).toList) := by
  obtain ⟨rest, transmits⟩ := serves.transmits
  have after := transmits.run (timely.txEvents i2c1)
  rw [← serves.map_exchange event, ← List.map_append] at after
  suffices device : (line.step i2c1 event).fw.app.system.device.QueueEmpty ∧
      (line.step i2c1 event).fw.app.system.device.IdValid from
    ⟨device.1, device.2, after⟩
  have same : line.fw.app.system.device.QueueEmpty ∧ line.fw.app.system.device.IdValid :=
    ⟨serves.queueEmpty, serves.idValid⟩
  cases event with
  | iterate input =>
      simp only [SerialLine.step]
      split
      · exact ⟨line.fw.iterate_queueEmpty i2c1 input serves.queueEmpty,
          line.fw.iterate_idValid i2c1 input serves.idValid⟩
      · exact same
  | proceed | moveByte | dma2Stream7 | usart1 => exact same

theorem run_serves
    (i2c1 : I2c1)
    {line : SerialLine D}
    (serves : line.Serves [])
    {events : List LineEvent}
    (timely : Transition.AllSteps (SerialLine.step i2c1) Timely line events) :
    (line.run i2c1 events).Serves (line.exchanges i2c1 events) := by
  induction events using List.reverseRecOn with
  | nil => exact serves
  | append_singleton events event inductionHypothesis =>
      obtain ⟨earlier, last⟩ :=
        (Transition.allSteps_append_singleton line events event).mp timely
      rw [exchanges, Transition.filterMap_outputs_concat, run, Transition.run_append]
      exact (inductionHypothesis earlier).step last

/-! ## A free transmitter -/

/-- The main loop is not in `UART_Send`, the transmitter is free, and the id is in force. -/
structure Ready (line : SerialLine D) (id : UInt8) : Prop where
  returned : line.transmitter.program = []
  free : line.transmitter.uartTxBusy = 0
  slaveId : line.slaveId = id

section

variable {i2c1 : I2c1} {line : SerialLine D} {exchanges : List Exchange} {id : UInt8}

omit [DoubleArith D] [DoubleLayout D] in
/-- A transmitter that is free has nothing to move. -/
theorem Serves.timely
    (serves : line.Serves exchanges)
    (ready : line.Ready id)
    (event : LineEvent) :
    line.Timely event := by
  obtain ⟨rest, transmits⟩ := serves.transmits
  obtain ⟨-, finished⟩ := transmits.phase.rest_of_accepts ready.returned ready.free
  exact fun _ => ⟨ready.returned, finished.disabled⟩

/-- Beside the iterations nothing happens to a free transmitter. -/
theorem Ready.step
    (ready : line.Ready id)
    {event : LineEvent}
    (beside : ∀ input, event ≠ .iterate input) :
    (line.step i2c1 event).Ready id := by
  obtain ⟨returned, free, slaveId⟩ := ready
  cases event with
  | iterate input => exact absurd rfl (beside input)
  | proceed =>
      have idle : line.transmitter.step .proceed = line.transmitter := by
        rw [Transmitter.step, returned]
      refine ⟨?_, ?_, slaveId⟩
      · exact (congrArg Transmitter.program idle).trans returned
      · exact (congrArg (fun tx => tx.uartTxBusy) idle).trans free
  | moveByte =>
      refine ⟨returned, ?_, slaveId⟩
      have kept : line.transmitter.moveByte.uartTxBusy = line.transmitter.uartTxBusy := by
        rw [UartTx.moveByte]
        split <;> rfl
      exact kept.trans free
  | dma2Stream7 =>
      refine ⟨returned, ?_, slaveId⟩
      obtain ⟨tcif7, tcie, flags⟩ := line.transmitter.toUartTx.dma2Stream7IrqHandler_eq
      exact (congrArg UartTx.uartTxBusy flags).trans free
  | usart1 tc =>
      cases tc with
      | false => exact ⟨returned, free, slaveId⟩
      | true => exact ⟨returned, rfl, slaveId⟩

/-- A request that finds the transmitter free is answered. -/
theorem Serves.exchange_ready
    (serves : line.Serves exchanges)
    (ready : line.Ready id)
    {input : FirmwareInput}
    (asked : HasResponse id (receivedBytes input.received)) :
    ∃ response, Exchange.Answers ⟨receivedBytes input.received, response⟩ id ∧
      line.exchange i2c1 (.iterate input) =
        some ⟨receivedBytes input.received, response⟩ := by
  obtain ⟨returned, free, rfl⟩ := ready
  have answered : (line.exchange i2c1 (.iterate input)).isSome = true :=
    (serves.exchange_iterate input).2.mpr ⟨returned, free, asked⟩
  obtain ⟨exchange, exchanged⟩ := Option.isSome_iff_exists.mp answered
  have request : exchange.request = receivedBytes input.received := by
    rw [SerialLine.exchange, Option.map_eq_some_iff] at exchanged
    obtain ⟨response, -, rfl⟩ := exchanged
    rfl
  refine ⟨exchange.response, ?_, ?_⟩
  · rw [← request]
    exact (serves.exchange_iterate input).1 exchange exchanged
  · rw [exchanged, ← request]

end

/-! ## Runs from the start -/

/-- In every run from the start, whatever frames arrive and however the statements of
`UART_Send`, the stream and the interrupts interleave, if the UART reports the end only when
nothing is left to move: the line carries the responses of the exchanges, whole and in
order.  An iteration adds an exchange exactly if it receives a request to the slave id in
force while the transmitter is free, and the response answers that request. -/
theorem run_answersRequests
    (i2c1 : I2c1)
    (build : BuildInfo)
    (sector : ConfigSector)
    (padding : Vector UInt8 2)
    (replies : SaveReplies)
    (watchdogReset : Bool)
    (events : List LineEvent)
    (timely : Transition.AllSteps (step i2c1) Timely
      (boot i2c1 build sector padding replies watchdogReset : SerialLine D) events) :
    let start : SerialLine D := boot i2c1 build sector padding replies watchdogReset
    let after := start.run i2c1 events
    after.transmitter.Sends ((start.exchanges i2c1 events).map Exchange.response) ∧
    ∀ input,
      (∀ exchange ∈ after.exchange i2c1 (.iterate input), exchange.Answers after.slaveId) ∧
      ((after.exchange i2c1 (.iterate input)).isSome = true ↔
        after.transmitter.program = [] ∧ after.transmitter.uartTxBusy = 0 ∧
          HasResponse after.slaveId (receivedBytes input.received)) := by
  intro start after
  have serves := run_serves i2c1
    (boot_serves i2c1 build sector padding replies watchdogReset (D := D)) timely
  obtain ⟨rest, transmits⟩ := serves.transmits
  exact ⟨transmits.sends, serves.exchange_iterate⟩

/-- A start from an erased flash.  The first interrupt finds nothing to move, and then a read
request arrives. -/
theorem run_answersRequests_start :
    let i2c1 : I2c1 := ⟨fun _ => 0, fun _ => 0, fun _ => 0, fun _ => 0⟩
    let start : SerialLine Binary64 :=
      boot i2c1 BuildInfo.unitTest (FlashMemory.erased _) #v[0, 0] .done false
    let input : FirmwareInput :=
      { nowMs := 1000
        received := some ⟨withCrc [1, fcReadHolding, 0, 0, 0, 1], by decide⟩
        receivedMs := 0
        padding := #v[0, 0]
        replies := .done
        supplyVoltage := 120 }
    let events : List LineEvent := [.usart1 true, .iterate input, .proceed, .moveByte]
    (start.run i2c1 events).transmitter.Sends
      ((start.exchanges i2c1 events).map Exchange.response) := by
  intro i2c1 start input events
  refine (run_answersRequests i2c1 BuildInfo.unitTest (FlashMemory.erased _) #v[0, 0] .done
    false events ?_).1
  exact ⟨fun _ => ⟨rfl, rfl⟩, fun same => absurd same (by simp), fun same => absurd same
    (by simp), fun same => absurd same (by simp), trivial⟩

end SerialLine

end SensorFirmware
