import SensorFirmware.App.SerialLine
import SensorFirmware.Drivers.RtuDelivery

/-!
# Requests and responses on the wire

The receiver hands its frames to the firmware, and the firmware its responses to the
transmitter.  A master that keeps the timing of the line gets the responses to the frames
that it sent, each once and in order, and a request to the slave id that finds the
transmitter free is answered a few iterations later.
-/

namespace SensorFirmware

/-! ## The receiver hands over its frames -/

theorem Uart.length_copyLoop
    (buf : Vector UInt8 256)
    (tail : UInt16)
    (count : Nat) :
    (countedLoop (fun _ => Uart.copyByte buf) count ([], tail)).1.length = count := by
  induction count with
  | zero => rfl
  | succ count inductionHypothesis =>
      rw [countedLoop_succ, copyByte, List.length_append, inductionHypothesis]
      rfl

/-- `rxScratch_` has room for what is fetched. -/
theorem RtuLine.length_fetches (line : RtuLine) : line.fetches.length ≤ 256 := by
  have limit : (if (256 : UInt32) < 256 then 256 else (256 : UInt32)).toUInt16 = 256 := rfl
  rw [fetches, Uart.fetchFrame, if_neg (by decide)]
  dsimp only
  split
  · exact Nat.zero_le 256
  rw [limit, Uart.getFrame]
  generalize line.link.uart.frameLength = len
  dsimp only
  split
  · exact Nat.zero_le 256
  · rw [Uart.length_copyLoop]
    have size : (256 : UInt16).toNat = 256 := rfl
    split
    case isTrue => exact Nat.le_of_eq size
    case isFalse fits => exact UInt16.le_iff_toNat_le.mp (UInt16.not_lt.mp fits)

namespace RtuLine

/-- What was fetched stays fetched. -/
theorem fetched_prefix
    (line : RtuLine)
    (events : List RtuEvent) :
    line.fetched <+: (Transition.run step line events).fetched := by
  induction events generalizing line with
  | nil => exact List.prefix_rfl
  | cons event events inductionHypothesis =>
      have first : line.fetched <+: (line.step event).fetched := by
        cases event with
        | byte | usart1 | sysTick | poll => exact List.prefix_rfl
        | fetch =>
            rw [step]
            dsimp only
            split
            · exact List.prefix_rfl
            · exact List.prefix_append _ _
      exact first.trans (inductionHypothesis _)

theorem Framed.fetched_prefix
    {line : RtuLine}
    (framed : line.Framed) :
    line.fetched <+: line.sent := by
  rcases framed.accounts with ⟨all, -⟩ | ⟨frame, -, waits, -⟩
  · rw [all]
  · rw [waits]
    exact List.prefix_append _ _

end RtuLine

/-- The firmware between its receiver and its transmitter. -/
structure Station (D : Type) where
  line : RtuLine
  /-- What `frameAvailable` returned in the iteration that is under way. -/
  available : Option Bool
  serial : SerialLine D

/-- A byte on the line, an interrupt, a part of an iteration, a statement of `UART_Send` or a
move of the stream behind it.  The first part of an iteration is the poll. -/
inductive StationEvent
  | byte (value : UInt8) (last : Bool)
  | usart1 (rxne idle tc : Bool)
  | sysTick
  | poll
  | iterate (input : FirmwareInput)
  | proceed
  | moveByte
  | dma2Stream7

namespace Station

section

variable (station : Station D)

/-- The main loop polls only behind the last statement of `UART_Send`. -/
def Polls : Prop := station.available = none ∧ station.serial.transmitter.program = []

instance : Decidable station.Polls := inferInstanceAs (Decidable (_ ∧ _))

/-- The frame that `ModbusService::process` fetches. -/
def received : Option UartFrame :=
  if station.available = some true then
    some ⟨station.line.fetches, station.line.length_fetches⟩
  else none

/-- What an event is for the receiver. -/
def lineEvents : StationEvent → List RtuEvent
  | .byte value last => [.byte value last]
  | .usart1 rxne idle tc => [.usart1 rxne idle tc]
  | .sysTick => [.sysTick]
  | .poll => if station.Polls then [.poll] else []
  | .iterate _ => if station.available = some true then [.fetch] else []
  | .proceed | .moveByte | .dma2Stream7 => []

/-- What an event is for the main loop and the transmitter. -/
def serialEvents : StationEvent → List LineEvent
  | .byte _ _ | .sysTick | .poll => []
  | .usart1 _ _ tc => [.usart1 tc]
  | .iterate input =>
      if station.available = none then []
      else [.iterate { input with received := station.received }]
  | .proceed => [.proceed]
  | .moveByte => [.moveByte]
  | .dma2Stream7 => [.dma2Stream7]

end

variable [DoubleArith D] [DoubleLayout D]

/-- The station after `Application::initialize`. -/
def boot
    (i2c1 : I2c1)
    (build : BuildInfo)
    (sector : ConfigSector)
    (padding : Vector UInt8 2)
    (replies : SaveReplies)
    (watchdogReset : Bool)
    (uart : Uart)
    (baud : UInt32) : Station D where
  line := RtuLine.started uart baud
  available := none
  serial := SerialLine.boot i2c1 build sector padding replies watchdogReset

section

variable (i2c1 : I2c1) (station : Station D)

def step (event : StationEvent) : Station D where
  line := Transition.run RtuLine.step station.line (station.lineEvents event)
  available :=
    match event with
    | .poll =>
        if station.Polls then
          some (decide ((station.line.step .poll).link.uart.rtuFrameReady ≠ 0))
        else station.available
    | .iterate _ => none
    | _ => station.available
  serial := station.serial.run i2c1 (station.serialEvents event)

def run (events : List StationEvent) : Station D :=
  Transition.run (step i2c1) station events

theorem step_line
    (event : StationEvent) :
    (station.step i2c1 event).line =
      Transition.run RtuLine.step station.line (station.lineEvents event) := rfl

theorem step_serial
    (event : StationEvent) :
    (station.step i2c1 event).serial =
      station.serial.run i2c1 (station.serialEvents event) := rfl

/-- The exchange that an event adds. -/
def exchange (event : StationEvent) : Option Exchange :=
  match event with
  | .iterate input =>
      if station.available = none then none
      else station.serial.exchange i2c1 (.iterate { input with received := station.received })
  | _ => none

/-- The exchanges of a run, in order. -/
def exchanges (events : List StationEvent) : List Exchange :=
  (Transition.outputs (step i2c1) (exchange i2c1) station events).filterMap id

/-- The event keeps the timing of the line, and the UART reports the end of a transmission
only when nothing is left to move. -/
def KeepsTiming (event : StationEvent) : Prop :=
  Transition.AllSteps RtuLine.step RtuLine.KeepsTiming station.line
      (station.lineEvents event) ∧
    Transition.AllSteps (SerialLine.step i2c1) SerialLine.Timely station.serial
      (station.serialEvents event)

instance (event : StationEvent) : Decidable (station.KeepsTiming i2c1 event) :=
  inferInstanceAs (Decidable (_ ∧ _))

end

/-! ## Exchanges -/

/-- The receiver keeps the frames, the main loop serves them, and the exchanges began with
fetched frames. -/
structure Serves (station : Station D) (exchanges : List Exchange) : Prop where
  framed : station.line.Framed
  serial : station.serial.Serves exchanges
  requests : (exchanges.map Exchange.request).Sublist station.line.fetched

section

variable {i2c1 : I2c1} {station : Station D} {exchanges : List Exchange}

theorem exchanges_concat
    (events : List StationEvent)
    (event : StationEvent) :
    station.exchanges i2c1 (events ++ [event]) =
      station.exchanges i2c1 events ++
        ((station.run i2c1 events).exchange i2c1 event).toList :=
  Transition.filterMap_outputs_concat (step i2c1) (exchange i2c1) station events event

/-- The main loop and the transmitter see at most one event. -/
theorem serves_serial
    (serves : station.serial.Serves exchanges)
    {event : StationEvent}
    (timing : station.KeepsTiming i2c1 event) :
    (station.step i2c1 event).serial.Serves
      (exchanges ++ (station.exchange i2c1 event).toList) := by
  obtain ⟨-, timely⟩ := timing
  have single {other : LineEvent} (same : station.serialEvents event = [other]) :
      (station.step i2c1 event).serial.Serves
        (exchanges ++ (station.serial.exchange i2c1 other).toList) := by
    rw [same] at timely
    rw [step_serial, same]
    exact serves.step timely.1
  have silent (same : station.serialEvents event = []) :
      (station.step i2c1 event).serial.Serves (exchanges ++ []) := by
    rw [step_serial, same, List.append_nil]
    exact serves
  cases event with
  | byte | sysTick | poll => exact silent rfl
  | usart1 | proceed | moveByte | dma2Stream7 => exact single rfl
  | iterate input =>
      rw [exchange]
      by_cases idle : station.available = none
      · rw [if_pos idle]
        exact silent (if_pos idle)
      · rw [if_neg idle]
        exact single (if_neg idle)

theorem eq_iterate_of_exchange
    {event : StationEvent}
    {exchange : Exchange}
    (exchanged : station.exchange i2c1 event = some exchange) :
    ∃ input, event = .iterate input := by
  cases event with
  | iterate input => exact ⟨input, rfl⟩
  | byte | usart1 | sysTick | poll | proceed | moveByte | dma2Stream7 => cases exchanged

omit [DoubleArith D] [DoubleLayout D] in
theorem receivedBytes_received
    (available : station.available = some true) :
    receivedBytes station.received = station.line.fetches := by
  rw [received, if_pos available]
  rfl

/-- An exchange is the one of a frame that is fetched. -/
theorem exchange_request
    (serves : station.serial.Serves exchanges)
    {input : FirmwareInput}
    {exchange : Exchange}
    (exchanged : station.exchange i2c1 (.iterate input) = some exchange) :
    station.available = some true ∧ exchange.request = station.line.fetches ∧
      exchange.Answers station.serial.slaveId := by
  rw [Station.exchange] at exchanged
  split at exchanged
  · cases exchanged
  have answers : exchange.Answers station.serial.slaveId :=
    (serves.exchange_iterate { input with received := station.received }).1 exchange exchanged
  have request : exchange.request = receivedBytes station.received := by
    rw [SerialLine.exchange, Option.map_eq_some_iff] at exchanged
    obtain ⟨response, -, rfl⟩ := exchanged
    rfl
  by_cases available : station.available = some true
  · refine ⟨available, ?_, answers⟩
    rw [request, receivedBytes_received available]
  · -- without a frame there is no request
    obtain ⟨function, isRequest, -⟩ := answers
    have long := isRequest.le_length
    rw [request, received, if_neg available] at long
    exact absurd long (by decide)

/-- A request that is fetched while the transmitter is free is answered. -/
theorem exchange_ready
    (i2c1 : I2c1)
    {id : UInt8}
    (serves : station.serial.Serves exchanges)
    (ready : station.serial.Ready id)
    (available : station.available = some true)
    (asked : HasResponse id station.line.fetches)
    (input : FirmwareInput) :
    ∃ response, Exchange.Answers ⟨station.line.fetches, response⟩ id ∧
      station.exchange i2c1 (.iterate input) = some ⟨station.line.fetches, response⟩ := by
  have bytes := receivedBytes_received available
  have heard : HasResponse id
      (receivedBytes { input with received := station.received }.received) := by
    rw [bytes]
    exact asked
  obtain ⟨response, answers, exchanged⟩ := serves.exchange_ready ready heard
  rw [bytes] at answers exchanged
  refine ⟨response, answers, ?_⟩
  rw [Station.exchange, available, if_neg (Option.some_ne_none true)]
  exact exchanged

/-- Beside the iterations a free transmitter stays free. -/
theorem ready_step
    {id : UInt8}
    (ready : station.serial.Ready id)
    {event : StationEvent}
    (beside : ∀ input, event ≠ .iterate input) :
    (station.step i2c1 event).serial.Ready id := by
  have single (other : LineEvent) (others : ∀ input, other ≠ .iterate input) :
      (station.serial.step i2c1 other).Ready id := ready.step others
  cases event with
  | iterate input => exact absurd rfl (beside input)
  | byte | sysTick | poll => exact ready
  | usart1 rxne idle tc => exact single (.usart1 tc) (by simp)
  | proceed => exact single .proceed (by simp)
  | moveByte => exact single .moveByte (by simp)
  | dma2Stream7 => exact single .dma2Stream7 (by simp)

/-- So it is when the main loop gets to an iteration, and nothing has been exchanged. -/
theorem run_ready
    (i2c1 : I2c1)
    {id : UInt8}
    (ready : station.serial.Ready id)
    {events : List StationEvent}
    (beside : ∀ event ∈ events, ∀ input, event ≠ .iterate input) :
    (station.run i2c1 events).serial.Ready id ∧ station.exchanges i2c1 events = [] := by
  induction events using List.reverseRecOn with
  | nil => exact ⟨ready, rfl⟩
  | append_singleton events event inductionHypothesis =>
      obtain ⟨earlier, last⟩ := List.forall_mem_append.mp beside
      have other := last event (List.mem_singleton_self event)
      obtain ⟨free, nothing⟩ := inductionHypothesis earlier
      have none : (station.run i2c1 events).exchange i2c1 event = none := by
        cases exchanged : (station.run i2c1 events).exchange i2c1 event with
        | none => rfl
        | some exchange =>
            obtain ⟨input, same⟩ := eq_iterate_of_exchange exchanged
            exact absurd same (other input)
      rw [exchanges_concat, nothing, none, run, Transition.run_append]
      exact ⟨ready_step free other, rfl⟩

theorem Serves.step
    (serves : station.Serves exchanges)
    {event : StationEvent}
    (timing : station.KeepsTiming i2c1 event) :
    (station.step i2c1 event).Serves
      (exchanges ++ (station.exchange i2c1 event).toList) := by
  refine ⟨RtuLine.run_framed serves.framed timing.1, serves_serial serves.serial timing, ?_⟩
  cases exchanged : station.exchange i2c1 event with
  | none =>
      rw [Option.toList_none, List.append_nil, step_line]
      exact serves.requests.trans (RtuLine.fetched_prefix _ _).sublist
  | some exchange =>
      obtain ⟨input, rfl⟩ := eq_iterate_of_exchange exchanged
      obtain ⟨available, request, function, isRequest, -⟩ :=
        exchange_request serves.serial exchanged
      have nonempty : station.line.fetches ≠ [] := by
        rw [← request, ← List.length_pos_iff]
        exact Nat.lt_of_lt_of_le (by decide) isRequest.le_length
      have line : station.lineEvents (.iterate input) = [.fetch] := if_pos available
      have fetched : (station.step i2c1 (.iterate input)).line.fetched =
          station.line.fetched ++ [station.line.fetches] := by
        rw [step_line, line]
        exact if_neg nonempty
      rw [fetched, Option.toList_some, List.map_append, List.map_singleton, request]
      exact serves.requests.append (List.Sublist.refl _)

theorem run_serves
    (serves : station.Serves [])
    {events : List StationEvent}
    (timing : Transition.AllSteps (Station.step i2c1) (KeepsTiming i2c1) station events) :
    (station.run i2c1 events).Serves (station.exchanges i2c1 events) := by
  induction events using List.reverseRecOn with
  | nil => exact serves
  | append_singleton events event inductionHypothesis =>
      obtain ⟨earlier, last⟩ := (Transition.allSteps_append_singleton _ _ _).mp timing
      rw [exchanges_concat, run, Transition.run_append]
      exact (inductionHypothesis earlier).step last

end

section

variable (i2c1 : I2c1) (build : BuildInfo) (sector : ConfigSector)
variable (padding : Vector UInt8 2) (replies : SaveReplies) (watchdogReset : Bool)
variable (uart : Uart) (baud : UInt32)

theorem boot_serves (divider : uart.msDivider.toNat ≤ 9) :
    (boot i2c1 build sector padding replies watchdogReset uart baud :
      Station D).Serves [] where
  framed := RtuLine.started_framed uart baud divider
  serial := SerialLine.boot_serves i2c1 build sector padding replies watchdogReset
  requests := List.Sublist.refl _

/-- In every run from the start that keeps the timing of the line, the requests of the
exchanges are frames that the master sent, in order and each once, and the line carries the
responses, whole and in order.  A response answers its request in the name of the slave id
in force. -/
theorem run_answersFrames
    (divider : uart.msDivider.toNat ≤ 9)
    (events : List StationEvent)
    (timing : Transition.AllSteps (step i2c1) (KeepsTiming i2c1)
      (boot i2c1 build sector padding replies watchdogReset uart baud : Station D) events) :
    let start : Station D :=
      boot i2c1 build sector padding replies watchdogReset uart baud
    let exchanges := start.exchanges i2c1 events
    let after := start.run i2c1 events
    (exchanges.map Exchange.request).Sublist after.line.sent ∧
      after.serial.transmitter.Sends (exchanges.map Exchange.response) ∧
      ∀ input, ∀ exchange ∈ after.exchange i2c1 (.iterate input),
        exchange.Answers after.serial.slaveId := by
  intro start exchanges after
  have serves : after.Serves exchanges :=
    run_serves (boot_serves i2c1 build sector padding replies watchdogReset uart baud divider)
      timing
  obtain ⟨rest, transmits⟩ := serves.serial.transmits
  refine ⟨serves.requests.trans serves.framed.fetched_prefix.sublist, transmits.sends, ?_⟩
  intro input exchange exchanged
  exact (exchange_request serves.serial exchanged).2.2

/-- A read request, the silence behind it and the iteration that answers it. -/
theorem run_answersFrames_readHolding :
    let i2c1 : I2c1 := ⟨fun _ => 0, fun _ => 0, fun _ => 0, fun _ => 0⟩
    let start : Station Binary64 :=
      boot i2c1 BuildInfo.unitTest (FlashMemory.erased _) #v[0, 0] .done false Uart.powerOn
        38400
    let request : List UInt8 := withCrc [1, fcReadHolding, 0, 0, 0, 1]
    let events : List StationEvent :=
      request.dropLast.map (.byte · false) ++
        .byte (request.getLastD 0) true :: .usart1 false true false ::
          (List.replicate 30 .sysTick ++ [.poll, .iterate (Firmware.silentInput 1000)])
    ∃ response, Exchange.Answers ⟨request, response⟩ 1 ∧
      start.exchanges i2c1 events = [⟨request, response⟩] ∧
      [request].Sublist (start.run i2c1 events).line.sent ∧
      (start.run i2c1 events).serial.transmitter.Sends [response] := by
  intro i2c1 start request events
  let before : List StationEvent :=
    request.dropLast.map (.byte · false) ++
      .byte (request.getLastD 0) true :: .usart1 false true false ::
        (List.replicate 30 .sysTick ++ [.poll])
  have cut : events = before ++ [.iterate (Firmware.silentInput 1000)] := by
    simp [events, before]
  have timing : Transition.AllSteps (step i2c1) (KeepsTiming i2c1) start events := by
    decide +kernel
  have waits : (start.run i2c1 before).available = some true ∧
      (start.run i2c1 before).line.fetches = request := by
    decide +kernel
  have silent : ∀ event ∈ before, ∀ input, event ≠ .iterate input := by
    refine List.forall_mem_append.mpr ⟨?_, by simp⟩
    intro event listed
    obtain ⟨byte, -, rfl⟩ := List.mem_map.mp listed
    simp
  have id : start.serial.slaveId = 1 :=
    SerialLine.boot_slaveId_erased i2c1 BuildInfo.unitTest #v[0, 0] .done false
  obtain ⟨free, nothing⟩ := run_ready i2c1 ⟨rfl, rfl, id⟩ silent
  have serves : (start.run i2c1 before).Serves [] := by
    have booted := boot_serves i2c1 BuildInfo.unitTest (FlashMemory.erased _) #v[0, 0] .done
      false Uart.powerOn 38400 (by decide) (D := Binary64)
    rw [cut] at timing
    rw [← nothing]
    exact run_serves booted ((Transition.allSteps_append_singleton _ _ _).mp timing).1
  have asked : HasResponse 1 (start.run i2c1 before).line.fetches := by
    rw [waits.2]
    exact ⟨fcReadHolding, ⟨by decide, by decide, by decide, _, rfl⟩, by decide⟩
  obtain ⟨response, answers, exchanged⟩ :=
    exchange_ready i2c1 serves.serial free waits.1 asked (Firmware.silentInput 1000)
  rw [waits.2] at answers exchanged
  have exchanges : start.exchanges i2c1 events = [⟨request, response⟩] := by
    rw [cut, exchanges_concat, nothing, exchanged]
    rfl
  obtain ⟨sent, sends, -⟩ := run_answersFrames i2c1 BuildInfo.unitTest (FlashMemory.erased _)
    #v[0, 0] .done false Uart.powerOn 38400 (by decide) events timing (D := Binary64)
  rw [exchanges] at sent sends
  exact ⟨response, answers, exchanges, sent, sends⟩

end

end Station

end SensorFirmware
