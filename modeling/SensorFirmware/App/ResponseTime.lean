import SensorFirmware.App.Station

/-!
# The response to a request

A request to the slave id that waits while the transmitter is free is answered within a few
iterations of the main loop.  The iterations before fetch nothing, so they leave the
transmitter and the slave id alone.
-/

namespace SensorFirmware

/-- What goes on between the parts of an iteration. -/
inductive Activity
  | usart1 (rxne idle tc : Bool)
  | sysTick
  | proceed
  | moveByte
  | dma2Stream7

namespace Activity

def event : Activity → StationEvent
  | .usart1 rxne idle tc => .usart1 rxne idle tc
  | .sysTick => .sysTick
  | .proceed => .proceed
  | .moveByte => .moveByte
  | .dma2Stream7 => .dma2Stream7

/-- The interrupt of the receiver. -/
def interrupt : Activity → Option RtuInterrupt
  | .usart1 rxne idle tc => some (.usart1 rxne idle tc)
  | .sysTick => some .sysTick
  | .proceed | .moveByte | .dma2Stream7 => none

end Activity

/-- An iteration of the main loop, with what goes on before its poll and behind it. -/
structure StationCycle where
  before : List Activity
  between : List Activity
  input : FirmwareInput

namespace StationCycle

def events (cycle : StationCycle) : List StationEvent :=
  cycle.before.map Activity.event ++ [.poll] ++ cycle.between.map Activity.event ++
    [.iterate cycle.input]

/-- What the receiver sees of the iteration. -/
def rtu (cycle : StationCycle) : RtuCycle where
  before := cycle.before.filterMap Activity.interrupt
  between := cycle.between.filterMap Activity.interrupt

end StationCycle

def StationEvent.ticks : StationEvent → Nat
  | .sysTick => 1
  | _ => 0

namespace Station

/-- The ticks among some events. -/
def ticks (events : List StationEvent) : Nat := (events.map StationEvent.ticks).sum

theorem lineEvents_silent
    {station : Station D}
    {event : StationEvent}
    (silent : ∀ value last, event ≠ .byte value last) :
    ∀ other ∈ station.lineEvents event, ∀ value last, other ≠ .byte value last := by
  cases event with
  | byte value last => exact absurd rfl (silent value last)
  | usart1 | sysTick => simp [lineEvents]
  | poll | iterate =>
      rw [lineEvents]
      split <;> simp
  | proceed | moveByte | dma2Stream7 => exact nofun

theorem count_lineEvents
    (station : Station D)
    (event : StationEvent) :
    (station.lineEvents event).count .sysTick = event.ticks := by
  cases event with
  | sysTick | byte | usart1 | proceed | moveByte | dma2Stream7 => rfl
  | poll | iterate =>
      rw [lineEvents]
      split <;> rfl

end Station

/-! ## Iterations that receive nothing -/

/-- A call that receives nothing keeps the slave id. -/
theorem Device.QueueEmpty.process_id [DoubleArith D]
    {dev : Device D}
    (empty : dev.QueueEmpty)
    {received : Option UartFrame}
    (nothing : receivedBytes received = [])
    (time : UInt32) :
    (dev.process received time).2.deviceConfig.id = dev.deviceConfig.id := by
  obtain ⟨-, -, arrived⟩ := empty.process received time
  have none : ¬ 0 < ([] : List UInt8).length := Nat.lt_irrefl 0
  rw [process_processed, UartFrame.arrival_eq, nothing, if_neg none,
    Option.map_eq_none_iff] at arrived
  have noFrame : ¬ (dev.dequeued received time).1 ≠ 0 := by
    intro someFrame
    rw [if_pos someFrame] at arrived
    cases arrived
  rw [process_eq, if_neg noFrame]
  exact congrArg (fun settings => settings.deviceConfig.id)
    (dev.dequeued_settings received time)

theorem not_hasResponse_nil (id : UInt8) : ¬ HasResponse id [] := by
  rintro ⟨function, isRequest, -⟩
  exact absurd isRequest.le_length (by decide)

namespace SerialLine

section

variable [DoubleArith D] [DoubleLayout D] {i2c1 : I2c1} {line : SerialLine D}
variable {exchanges : List Exchange} {id : UInt8}

/-- An iteration that receives nothing leaves the transmitter and the slave id alone. -/
theorem Serves.ready_of_nothing
    (serves : line.Serves exchanges)
    (ready : line.Ready id)
    {input : FirmwareInput}
    (nothing : receivedBytes input.received = []) :
    (line.step i2c1 (.iterate input)).Ready id := by
  obtain ⟨returned, free, slaveId⟩ := ready
  have silent : line.txEvents i2c1 (.iterate input) = [] := by
    rcases serves.txEvents_iterate i2c1 input returned with ⟨asked, -⟩ | ⟨-, silent⟩
    · rw [nothing] at asked
      exact absurd asked (not_hasResponse_nil _)
    · exact silent
  have transmitter : (line.step i2c1 (.iterate input)).transmitter =
      line.transmitter := by
    rw [SerialLine.step, silent]
    rfl
  have fw : (line.step i2c1 (.iterate input)).fw = line.fw.iterate i2c1 input :=
    if_pos returned
  have same := line.fw.iterate_onLine i2c1 input
  simp only [Device.onLine, Prod.mk.injEq] at same
  refine ⟨?_, ?_, ?_⟩
  · rw [transmitter, returned]
  · rw [transmitter, free]
  · rw [← slaveId, SerialLine.slaveId, SerialLine.slaveId, fw, same.2,
      serves.queueEmpty.process_id nothing]

/-- Nothing is exchanged without a frame. -/
theorem Serves.exchange_of_nothing
    (serves : line.Serves exchanges)
    {input : FirmwareInput}
    (nothing : receivedBytes input.received = []) :
    line.exchange i2c1 (.iterate input) = none := by
  rw [← Option.not_isSome_iff_eq_none, (serves.exchange_iterate input).2, nothing]
  exact fun asked => not_hasResponse_nil _ asked.2.2

end

end SerialLine

namespace RtuLine

/-- Interrupts neither send nor fetch. -/
theorem interrupted_keeps
    (line : RtuLine)
    (interrupts : List RtuInterrupt) :
    let after := line.interrupted interrupts
    after.begun = line.begun ∧ after.sent = line.sent ∧ after.fetched = line.fetched ∧
      after.polled = line.polled := by
  induction interrupts generalizing line with
  | nil => exact ⟨rfl, rfl, rfl, rfl⟩
  | cons interrupt interrupts inductionHypothesis =>
      intro after
      obtain ⟨begun, sent, fetched, polled⟩ :=
        inductionHypothesis (line.step interrupt.event)
      cases interrupt with
      | usart1 | sysTick => exact ⟨begun, sent, fetched, polled⟩

end RtuLine

namespace Station

variable [DoubleArith D] [DoubleLayout D]

section

variable (i2c1 : I2c1) (station : Station D)

theorem run_append (first second : List StationEvent) :
    station.run i2c1 (first ++ second) = (station.run i2c1 first).run i2c1 second :=
  Transition.run_append (step i2c1) station first second

theorem exchanges_append (first second : List StationEvent) :
    station.exchanges i2c1 (first ++ second) =
      station.exchanges i2c1 first ++ (station.run i2c1 first).exchanges i2c1 second := by
  rw [exchanges, Transition.outputs_append, List.filterMap_append, exchanges, exchanges, run]

theorem exchanges_singleton (event : StationEvent) :
    station.exchanges i2c1 [event] = (station.exchange i2c1 event).toList := by
  rw [exchanges, Transition.outputs, Transition.outputs]
  cases station.exchange i2c1 event <;> rfl

end

/-! ## A request that waits -/

/-- A complete frame is not fetched, and the main loop can answer it. -/
structure Awaits (station : Station D) (exchanges : List Exchange) (id : UInt8)
    (frame : List UInt8) : Prop where
  serves : station.Serves exchanges
  ready : station.serial.Ready id
  complete : station.line.begun = []
  waits : station.line.sent = station.line.fetched ++ [frame]

section

variable {i2c1 : I2c1} {station : Station D} {exchanges : List Exchange}
variable {id : UInt8} {frame : List UInt8}

/-- The main loop and the transmitter are in time. -/
theorem Awaits.timely
    (awaits : station.Awaits exchanges id frame)
    (event : StationEvent) :
    Transition.AllSteps (SerialLine.step i2c1) SerialLine.Timely station.serial
      (station.serialEvents event) := by
  have timely := awaits.serves.serial.timely awaits.ready
  cases event with
  | byte | sysTick | poll => trivial
  | usart1 | proceed | moveByte | dma2Stream7 => exact ⟨timely _, trivial⟩
  | iterate input =>
      rw [serialEvents]
      split
      · trivial
      · exact ⟨timely _, trivial⟩

/-- The frame still waits behind an event that neither sends nor fetches. -/
theorem Awaits.step
    (awaits : station.Awaits exchanges id frame)
    {event : StationEvent}
    (timing : Transition.AllSteps RtuLine.step RtuLine.KeepsTiming station.line
      (station.lineEvents event))
    (none : station.exchange i2c1 event = none)
    (ready : (station.step i2c1 event).serial.Ready id)
    (kept : (station.step i2c1 event).line.begun = station.line.begun ∧
      (station.step i2c1 event).line.sent = station.line.sent ∧
      (station.step i2c1 event).line.fetched = station.line.fetched) :
    (station.step i2c1 event).Awaits exchanges id frame := by
  have keeps : station.KeepsTiming i2c1 event := ⟨timing, awaits.timely event⟩
  have serves := awaits.serves.step keeps
  rw [none, Option.toList_none, List.append_nil] at serves
  obtain ⟨begun, sent, fetched⟩ := kept
  refine ⟨serves, ready, ?_, ?_⟩
  · rw [begun, awaits.complete]
  · rw [sent, fetched, awaits.waits]

variable (i2c1)

theorem Awaits.activity
    (awaits : station.Awaits exchanges id frame)
    (activity : Activity) :
    let after := station.step i2c1 activity.event
    after.Awaits exchanges id frame ∧
      after.line = station.line.interrupted activity.interrupt.toList ∧
      after.available = station.available ∧
      station.exchange i2c1 activity.event = none := by
  intro after
  have line : after.line = station.line.interrupted activity.interrupt.toList := by
    cases activity <;> rfl
  have none : station.exchange i2c1 activity.event = none := by
    cases activity <;> rfl
  have timing : Transition.AllSteps RtuLine.step RtuLine.KeepsTiming station.line
      (station.lineEvents activity.event) := by
    cases activity with
    | usart1 rxne idle tc =>
        exact ⟨RtuLine.keepsTiming_interrupt awaits.complete (.usart1 rxne idle tc), trivial⟩
    | sysTick => exact ⟨RtuLine.keepsTiming_interrupt awaits.complete .sysTick, trivial⟩
    | proceed | moveByte | dma2Stream7 => trivial
  have ready : after.serial.Ready id :=
    ready_step awaits.ready fun input same => by cases activity <;> cases same
  obtain ⟨begun, sent, fetched, -⟩ :=
    station.line.interrupted_keeps activity.interrupt.toList
  rw [← line] at begun sent fetched
  refine ⟨awaits.step timing none ready ⟨begun, sent, fetched⟩, line, ?_, none⟩
  cases activity <;> rfl

theorem Awaits.activities
    (awaits : station.Awaits exchanges id frame)
    (activities : List Activity) :
    let events := activities.map Activity.event
    let after := station.run i2c1 events
    after.Awaits exchanges id frame ∧
      after.line = station.line.interrupted (activities.filterMap Activity.interrupt) ∧
      after.available = station.available ∧
      station.exchanges i2c1 events = [] := by
  induction activities generalizing station with
  | nil => exact ⟨awaits, rfl, rfl, rfl⟩
  | cons activity activities inductionHypothesis =>
      intro events after
      obtain ⟨next, line, available, none⟩ := awaits.activity i2c1 activity
      obtain ⟨rest, lineOn, availableOn, noneOn⟩ := inductionHypothesis next
      have split : events = [activity.event] ++ activities.map Activity.event := rfl
      refine ⟨rest, ?_, availableOn.trans available, ?_⟩
      · refine lineOn.trans ?_
        rw [line]
        cases interrupt : activity.interrupt with
        | none =>
            rw [List.filterMap_cons_none interrupt]
            rfl
        | some interrupt' =>
            rw [List.filterMap_cons_some interrupt]
            rfl
      · rw [split, exchanges_append, exchanges_singleton, none]
        exact noneOn

theorem Awaits.poll
    (awaits : station.Awaits exchanges id frame)
    (idle : station.available = none) :
    let after := station.step i2c1 .poll
    after.Awaits exchanges id frame ∧
      after.line = station.line.step .poll ∧
      after.available =
        some (decide ((station.line.step .poll).link.uart.rtuFrameReady ≠ 0)) := by
  intro after
  have polls : station.Polls := ⟨idle, awaits.ready.returned⟩
  have events : station.lineEvents .poll = [.poll] := if_pos polls
  have line : after.line = station.line.step .poll := by
    rw [show after.line = _ from step_line i2c1 station .poll, events]
    rfl
  have silent := station.line.silent_poll
  refine ⟨awaits.step ?_ rfl awaits.ready ?_, line, if_pos polls⟩
  · rw [events]
    exact ⟨trivial, trivial⟩
  · rw [show (station.step i2c1 .poll).line = _ from line]
    exact ⟨silent.begun, silent.sent, silent.fetched⟩

/-- The poll of an iteration, with what goes on before it and behind it. -/
theorem Awaits.polls
    (awaits : station.Awaits exchanges id frame)
    (idle : station.available = none)
    (before between : List Activity) :
    let events := before.map Activity.event ++ [.poll] ++ between.map Activity.event
    let after := station.run i2c1 events
    let polled := (station.line.interrupted (before.filterMap Activity.interrupt)).step .poll
    after.Awaits exchanges id frame ∧
      after.line = polled.interrupted (between.filterMap Activity.interrupt) ∧
      after.available = some (decide (polled.link.uart.rtuFrameReady ≠ 0)) ∧
      station.exchanges i2c1 events = [] := by
  intro events after polled
  obtain ⟨first, line, available, none⟩ := awaits.activities i2c1 before
  obtain ⟨second, linePolled, availablePolled⟩ := first.poll i2c1 (available.trans idle)
  obtain ⟨third, lineAfter, availableAfter, noneAfter⟩ := second.activities i2c1 between
  have reaches : after = (((station.run i2c1 (before.map Activity.event)).step i2c1 .poll).run
      i2c1 (between.map Activity.event)) := by
    rw [show after = station.run i2c1 events from rfl, run_append, run_append]
    rfl
  have same : ((station.run i2c1 (before.map Activity.event)).step i2c1 .poll).line =
      polled := by
    rw [linePolled, line]
  have nothing : (station.run i2c1 (before.map Activity.event)).exchanges i2c1 [.poll] = [] :=
    exchanges_singleton i2c1 _ .poll
  rw [reaches]
  refine ⟨third, ?_, ?_, ?_⟩
  · rw [lineAfter, same]
  · rw [availableAfter, availablePolled, line]
  · rw [exchanges_append, exchanges_append, none, nothing, run_append]
    exact noneAfter

/-- An iteration behind its poll fetches the frame and answers it, or it receives nothing. -/
theorem Awaits.iterate
    (awaits : station.Awaits exchanges id frame)
    (asked : HasResponse id frame)
    {available : Bool}
    (found : station.available = some available)
    (polled : station.line.polled = true)
    (input : FirmwareInput) :
    let after := station.step i2c1 (.iterate input)
    after.line = (if available = true then station.line.step .fetch else station.line) ∧
      after.available = none ∧
      (after.Awaits exchanges id frame ∧ station.exchange i2c1 (.iterate input) = none ∨
        ∃ response, Exchange.Answers ⟨frame, response⟩ id ∧
          station.exchange i2c1 (.iterate input) = some ⟨frame, response⟩) := by
  intro after
  have some : station.available ≠ none := by
    rw [found]
    exact Option.some_ne_none available
  have exchange : station.exchange i2c1 (.iterate input) =
      station.serial.exchange i2c1 (.iterate { input with received := station.received }) :=
    if_neg some
  have serial : after.serial =
      station.serial.step i2c1 (.iterate { input with received := station.received }) := by
    rw [show after.serial = _ from step_serial i2c1 station (.iterate input), serialEvents,
      if_neg some]
    rfl
  have line : after.line =
      if available = true then station.line.step .fetch else station.line := by
    rw [show after.line = _ from step_line i2c1 station (.iterate input), lineEvents, found]
    cases available <;> rfl
  refine ⟨line, rfl, ?_⟩
  have received : receivedBytes station.received =
      if available = true then station.line.fetches else [] := by
    rw [Station.received, found]
    cases available <;> rfl
  by_cases nothing : receivedBytes station.received = []
  · left
    have none : station.exchange i2c1 (.iterate input) = none :=
      exchange.trans (awaits.serves.serial.exchange_of_nothing nothing)
    have ready : after.serial.Ready id := by
      rw [serial]
      exact awaits.serves.serial.ready_of_nothing awaits.ready nothing
    refine ⟨awaits.step ?_ none ready ?_, none⟩
    · rw [lineEvents, found]
      cases available with
      | false => trivial
      | true => exact ⟨fun _ => polled, trivial⟩
    · rw [show (station.step i2c1 (.iterate input)).line = _ from line]
      split
      case isTrue up =>
        rw [received, if_pos up] at nothing
        exact ⟨rfl, rfl, if_pos nothing⟩
      case isFalse => exact ⟨rfl, rfl, rfl⟩
  · right
    -- what is fetched is the frame that waits
    have up : available = true := by
      by_contra down
      exact nothing (received.trans (if_neg down))
    rw [if_pos up] at received
    rw [received] at nothing
    obtain ⟨-, all⟩ := awaits.serves.framed.fetches_eq.resolve_left nothing
    have own : station.line.fetches = frame := by
      rw [all]
      rcases awaits.serves.framed.accounts with ⟨same, -⟩ | ⟨frame', -, waits, -, own⟩
      · have waits := awaits.waits
        rw [same] at waits
        exact absurd (List.append_right_eq_self.mp waits.symm) (List.cons_ne_nil _ _)
      · rw [awaits.waits] at waits
        rw [own]
        exact (List.singleton_inj.mp (List.append_cancel_left waits)).symm
    rw [up] at found
    rw [← own] at asked
    have answered := exchange_ready i2c1 awaits.serves.serial awaits.ready found asked input
    rw [own] at answered
    exact answered

/-! ## Iterations -/

/-- An iteration answers the frame, or it leaves it waiting. -/
theorem Awaits.cycle
    (awaits : station.Awaits exchanges id frame)
    (asked : HasResponse id frame)
    (idle : station.available = none)
    (cycle : StationCycle) :
    let after := station.run i2c1 cycle.events
    after.line = station.line.iterate cycle.rtu ∧ after.available = none ∧
      (after.Awaits exchanges id frame ∧ station.exchanges i2c1 cycle.events = [] ∨
        ∃ response, Exchange.Answers ⟨frame, response⟩ id ∧
          station.exchanges i2c1 cycle.events = [⟨frame, response⟩]) := by
  intro after
  let events := cycle.before.map Activity.event ++ [.poll] ++
    cycle.between.map Activity.event
  obtain ⟨waits, line, available, none⟩ :=
    awaits.polls i2c1 idle cycle.before cycle.between
  obtain ⟨-, -, -, polled⟩ := RtuLine.interrupted_keeps
    ((station.line.interrupted (cycle.before.filterMap Activity.interrupt)).step .poll)
    (cycle.between.filterMap Activity.interrupt)
  rw [← line] at polled
  obtain ⟨lineAfter, availableAfter, answered⟩ :=
    waits.iterate i2c1 asked available polled cycle.input
  have parts : cycle.events = events ++ [.iterate cycle.input] := rfl
  have reaches : after = (station.run i2c1 events).step i2c1 (.iterate cycle.input) := by
    rw [show after = station.run i2c1 cycle.events from rfl, parts, run_append]
    rfl
  have exchanged : station.exchanges i2c1 cycle.events =
      ((station.run i2c1 events).exchange i2c1 (.iterate cycle.input)).toList := by
    rw [parts, exchanges_append, none, exchanges_singleton]
    rfl
  rw [reaches, exchanged]
  refine ⟨?_, availableAfter, ?_⟩
  · rw [lineAfter, line, RtuLine.iterate]
    simp only [decide_eq_true_eq]
    rfl
  · rcases answered with ⟨still, none⟩ | ⟨response, answers, answered⟩
    · left
      rw [none]
      exact ⟨still, rfl⟩
    · right
      rw [answered]
      exact ⟨response, answers, rfl⟩

/-- Some iterations keep the frame waiting, or one of them answers it. -/
theorem Awaits.cycles
    (awaits : station.Awaits exchanges id frame)
    (asked : HasResponse id frame)
    (idle : station.available = none)
    (cycles : List StationCycle) :
    Transition.run RtuLine.iterate station.line (cycles.map StationCycle.rtu) =
          (station.run i2c1 (cycles.flatMap StationCycle.events)).line ∧
        (station.run i2c1 (cycles.flatMap StationCycle.events)).Awaits exchanges id frame ∨
      ∃ earlier cycle later response, cycles = earlier ++ cycle :: later ∧
        Exchange.Answers ⟨frame, response⟩ id ∧
        station.exchanges i2c1 ((earlier ++ [cycle]).flatMap StationCycle.events) =
          [⟨frame, response⟩] := by
  induction cycles generalizing station with
  | nil => exact .inl ⟨rfl, awaits⟩
  | cons cycle cycles inductionHypothesis =>
      obtain ⟨line, available, answered⟩ := awaits.cycle i2c1 asked idle cycle
      rcases answered with ⟨waits, none⟩ | ⟨response, answers, answered⟩
      · rw [List.map_cons, Transition.run_cons, ← line, List.flatMap_cons, run_append]
        refine (inductionHypothesis waits available).imp_right ?_
        rintro ⟨earlier, other, later, response, rfl, answers, answered⟩
        refine ⟨cycle :: earlier, other, later, response, rfl, answers, ?_⟩
        rw [List.cons_append, List.flatMap_cons, exchanges_append, none]
        exact answered
      · refine .inr ⟨[], cycle, cycles, response, rfl, answers, ?_⟩
        rw [List.nil_append, List.flatMap_singleton]
        exact answered

end

/-! ## From the last byte on -/

section

variable {i2c1 : I2c1} {station : Station D}

theorem run_lineServed
    (served : station.line.Served)
    {events : List StationEvent}
    (silent : ∀ event ∈ events, ∀ value last, event ≠ .byte value last)
    (timing : Transition.AllSteps (Station.step i2c1) (KeepsTiming i2c1) station events) :
    (station.run i2c1 events).line.Served := by
  induction events generalizing station with
  | nil => exact served
  | cons event events inductionHypothesis =>
      obtain ⟨first, rest⟩ := List.forall_mem_cons.mp silent
      exact inductionHypothesis (served.run (lineEvents_silent first) timing.1.1) rest timing.2

/-- Without a byte a frame waits until it is fetched. -/
theorem run_lineWaits
    {elapsed : Nat}
    (waiting : station.line.Waiting elapsed)
    {events : List StationEvent}
    (silent : ∀ event ∈ events, ∀ value last, event ≠ .byte value last)
    (timing : Transition.AllSteps (Station.step i2c1) (KeepsTiming i2c1) station events) :
    let after := station.run i2c1 events
    after.line.Served ∨ after.line.Waiting (elapsed + ticks events) := by
  induction events generalizing station elapsed with
  | nil => exact .inr waiting
  | cons event events inductionHypothesis =>
      intro after
      obtain ⟨first, rest⟩ := List.forall_mem_cons.mp silent
      have next := waiting.run (lineEvents_silent first) timing.1.1
      rw [count_lineEvents] at next
      rw [ticks, List.map_cons, List.sum_cons, ← Nat.add_assoc]
      rcases next with served | waits
      · have after : ((station.step i2c1 event).run i2c1 events).line.Served :=
          run_lineServed served rest timing.2
        exact .inl after
      · exact inductionHypothesis waits rest timing.2

end

section

variable (i2c1 : I2c1) (build : BuildInfo) (sector : ConfigSector)
variable (padding : Vector UInt8 2) (replies : SaveReplies) (watchdogReset : Bool)
variable (uart : Uart) (baud : UInt32)

/-- In every run from the start that keeps the timing of the line, a request to the slave id
that still waits behind its last byte when the main loop and the transmitter are free is
answered, by the first iteration that comes at least 30 ticks behind the third one at the
latest, unless the ticks come to half the range of the tick counter.  Up to the answer
nothing else is exchanged. -/
theorem run_answersInTime
    (divider : uart.msDivider.toNat ≤ 9)
    (events : List StationEvent)
    (value : UInt8)
    (more : List StationEvent)
    (silent : ∀ event ∈ more, ∀ value last, event ≠ .byte value last)
    (timing : Transition.AllSteps (step i2c1) (KeepsTiming i2c1)
      (boot i2c1 build sector padding replies watchdogReset uart baud : Station D)
      (events ++ .byte value true :: more))
    (frame : List UInt8)
    (cycles : List StationCycle)
    (enough : 3 ≤ cycles.length)
    (last : StationCycle)
    (long : 30 ≤ RtuLine.ticks ((cycles.drop 3).map StationCycle.rtu) +
      RtuInterrupt.ticks last.rtu.before)
    (short : ticks more + RtuLine.ticks (cycles.map StationCycle.rtu) + last.rtu.ticks <
      2147483648) :
    let start : Station D :=
      boot i2c1 build sector padding replies watchdogReset uart baud
    let found := start.run i2c1 (events ++ .byte value true :: more)
    found.line.sent = found.line.fetched ++ [frame] → found.available = none →
    found.serial.transmitter.program = [] → found.serial.transmitter.uartTxBusy = 0 →
    HasResponse found.serial.slaveId frame →
    ∃ earlier cycle later response, cycles ++ [last] = earlier ++ cycle :: later ∧
      Exchange.Answers ⟨frame, response⟩ found.serial.slaveId ∧
      found.exchanges i2c1 ((earlier ++ [cycle]).flatMap StationCycle.events) =
        [⟨frame, response⟩] := by
  intro start found waits idle returned free asked
  have serves : found.Serves (start.exchanges i2c1 (events ++ .byte value true :: more)) :=
    run_serves (boot_serves i2c1 build sector padding replies watchdogReset uart baud divider)
      timing
  obtain ⟨earlier, lastByte, later⟩ := (Transition.allSteps_append _ _ _).mp timing
  have before := run_serves
    (boot_serves i2c1 build sector padding replies watchdogReset uart baud divider) earlier
  have waiting : found.line.Waiting (0 + ticks more) := by
    have reaches : found =
        ((start.run i2c1 events).step i2c1 (.byte value true)).run i2c1 more := by
      rw [show found = start.run i2c1 (events ++ .byte value true :: more) from rfl,
        run_append]
      rfl
    have sent : ((start.run i2c1 events).step i2c1 (.byte value true)).line.Waiting 0 :=
      before.framed.waiting lastByte.1.1
    rcases run_lineWaits sent silent later with served | waiting
    · rw [← reaches] at served
      have fetched := served.fetched
      rw [waits] at fetched
      exact absurd (List.append_right_eq_self.mp fetched) (List.cons_ne_nil _ _)
    · rw [reaches]
      exact waiting
  have awaits : found.Awaits _ found.serial.slaveId frame :=
    ⟨serves, ⟨returned, free, rfl⟩, waiting.complete, waits⟩
  refine (awaits.cycles i2c1 asked idle (cycles ++ [last])).resolve_left ?_
  rintro ⟨line, still⟩
  have many : 3 ≤ (cycles.map StationCycle.rtu).length := by
    rw [List.length_map]
    exact enough
  rw [List.map_drop] at long
  have served := waiting.served (cycles.map StationCycle.rtu) many last.rtu long (by omega)
  rw [List.map_append, List.map_singleton] at line
  rw [line] at served
  have fetched := served.fetched
  rw [still.waits] at fetched
  exact absurd (List.append_right_eq_self.mp fetched) (List.cons_ne_nil _ _)

/-- A read request to the default id, and iterations that come with every tick. -/
theorem run_answersInTime_readHolding :
    let i2c1 : I2c1 := ⟨fun _ => 0, fun _ => 0, fun _ => 0, fun _ => 0⟩
    let start : Station Binary64 :=
      boot i2c1 BuildInfo.unitTest (FlashMemory.erased _) #v[0, 0] .done false Uart.powerOn
        38400
    let request : List UInt8 := withCrc [1, fcReadHolding, 0, 0, 0, 1]
    let found := start.run i2c1
      (request.dropLast.map (.byte · false) ++ .byte (request.getLastD 0) true :: [.sysTick])
    let tick : StationCycle :=
      ⟨[.sysTick], [.usart1 false true false], Firmware.silentInput 1000⟩
    ∃ earlier cycle later response,
      List.replicate 32 tick ++ [tick] = earlier ++ cycle :: later ∧
      Exchange.Answers ⟨request, response⟩ found.serial.slaveId ∧
      found.exchanges i2c1 ((earlier ++ [cycle]).flatMap StationCycle.events) =
        [⟨request, response⟩] := by
  intro i2c1 start request found tick
  have slaveId : found.serial.slaveId = 1 :=
    SerialLine.boot_slaveId_erased i2c1 BuildInfo.unitTest #v[0, 0] .done false
  refine run_answersInTime i2c1 BuildInfo.unitTest (FlashMemory.erased _) #v[0, 0] .done false
    Uart.powerOn 38400 (by decide) _ _ _ ?_ (by decide +kernel) request
    (List.replicate 32 tick) (by decide) tick (by decide) (by decide +kernel)
    (by decide +kernel) (by decide +kernel) (by decide +kernel) (by decide +kernel) ?_
  · intro event ticked value last same
    rw [List.mem_singleton.mp ticked] at same
    cases same
  · have asked : HasResponse 1 request :=
      ⟨fcReadHolding, ⟨by decide, by decide, by decide, _, rfl⟩, by decide⟩
    rw [← slaveId] at asked
    exact asked

end

end Station

end SensorFirmware
