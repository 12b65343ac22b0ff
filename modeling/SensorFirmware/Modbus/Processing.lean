import SensorFirmware.Modbus.Diagnostics
import SensorFirmware.Modbus.FrameQueue

/-!
# From the UART to the frame handlers

`ModbusService::process` fetches a frame from the UART, queues it, takes the
oldest frame out of the queue and processes it.  In the main loop the queue is
empty between the calls, so every frame is processed by the call that fetched
it.
-/

namespace SensorFirmware

/-- The bytes that `UartDriver::fetchFrame` stores in a buffer of 256 bytes. -/
structure UartFrame where
  bytes : List UInt8
  fits : bytes.length ≤ 256

/-- The calls that `ModbusService::process` makes: the result of `queueFrame` and
the frame for `processFrame`, where it calls them. -/
structure ProcessCalls where
  queued : Option UInt8
  processed : Option FrameItem

/-- The error manager calls behind the calls of `process`. -/
def ProcessCalls.reports (calls : ProcessCalls) : List ErrorOp :=
  (if calls.queued = some 0 then [.uartOverflow] else []) ++
    calls.processed.elim [] FrameItem.reports

/-- Processing a frame reports no overflow, so `process` reports one only for
`queueFrame`. -/
theorem ProcessCalls.not_mem_reports
    {calls : ProcessCalls}
    (queued : calls.queued ≠ some 0) :
    .uartOverflow ∉ calls.reports := by
  rw [reports, if_neg queued, List.nil_append]
  cases calls.processed with
  | none => simp
  | some frame =>
      intro reported
      exact frame.forall_mem_reports (· ≠ .uartOverflow) (by decide) (by decide) _ reported
        rfl

namespace Device

/-- The first half of `process`: a frame of the UART goes through `rxScratch_`
into the queue. -/
def queueReceived (dev : Device D) (received : Option UartFrame) (time : UInt32) :
    Option UInt8 × Device D :=
  match received with
  | none => (none, dev)
  | some received =>
      let rxScratch := FixedArray.writeAll dev.modbus.rxScratch 0 received.bytes
      let dev := { dev with modbus := { dev.modbus with rxScratch := rxScratch } }
      if 0 < received.bytes.length then
        let result := dev.queueFrame (some (FixedArray.read rxScratch))
          received.bytes.length.toUInt16 time
        (some result.1, result.2)
      else (none, dev)

/-- Store a dequeued frame in `frameScratch_`. -/
def withFrameScratch (dev : Device D) (frame : Option FrameItem) : Device D :=
  { dev with
    modbus := { dev.modbus with frameScratch := frame.getD dev.modbus.frameScratch } }

variable [DoubleArith D]

/-- `ModbusService::process`, with the calls that it makes. -/
def process (dev : Device D) (received : Option UartFrame) (time : UInt32) :
    ProcessCalls × Device D :=
  let queued := dev.queueReceived received time
  let dequeued := queued.2.dequeueFrame (some queued.2.modbus.frameScratch)
  let dev := dequeued.2.2.withFrameScratch dequeued.2.1
  if dequeued.1 ≠ 0 then
    ({ queued := queued.1, processed := some dev.modbus.frameScratch },
      dev.frameStep dev.modbus.frameScratch)
  else ({ queued := queued.1, processed := none }, dev)

end Device

/-- A call of `process`, or something else that leaves the queue alone. -/
inductive ProcessEvent (D : Type)
  | call (received : Option UartFrame) (time : UInt32)
  | other (change : Device D → Device D)
      (keepsQueue : ∀ dev,
        (change dev).modbus.frameQueue = dev.modbus.frameQueue)

/-- The non-empty frame that the UART hands over. -/
def UartFrame.arrival (received : Option UartFrame) (time : UInt32) :
    Option QueuedFrame :=
  match received with
  | none => none
  | some received =>
      if 0 < received.bytes.length then
        some ⟨received.bytes, received.bytes.length, time⟩
      else none

/-- The non-empty frame that arrives in an event. -/
def ProcessEvent.arrival : ProcessEvent D → Option QueuedFrame
  | .call received time => UartFrame.arrival received time
  | .other _ _ => none

namespace Device

section

variable [DoubleArith D]

/-- The device after an event. -/
def processStep (dev : Device D) : ProcessEvent D → Device D
  | .call received time => (dev.process received time).2
  | .other change _ => change dev

/-- The calls that an event makes. -/
def processCalls (dev : Device D) : ProcessEvent D → ProcessCalls
  | .call received time => (dev.process received time).1
  | .other _ _ => { queued := none, processed := none }

end

/-! ## The calls account for the device -/

/-- The result of `dequeueFrame` in `process`, and the device after it. -/
def dequeued (dev : Device D) (received : Option UartFrame) (time : UInt32) :
    UInt8 × Device D :=
  let queued := dev.queueReceived received time
  let dequeued := queued.2.dequeueFrame (some queued.2.modbus.frameScratch)
  (dequeued.1, dequeued.2.2.withFrameScratch dequeued.2.1)

/-- `process` handles the dequeued frame, if there is one. -/
theorem process_eq [DoubleArith D]
    (dev : Device D)
    (received : Option UartFrame)
    (time : UInt32) :
    (dev.process received time).2 =
      if (dev.dequeued received time).1 ≠ 0 then
        (dev.dequeued received time).2.frameStep
          (dev.dequeued received time).2.modbus.frameScratch
      else (dev.dequeued received time).2 := by
  by_cases someFrame : (dev.dequeued received time).1 ≠ 0
  · rw [if_pos someFrame]
    exact congrArg Prod.snd (if_pos someFrame)
  · rw [if_neg someFrame]
    exact congrArg Prod.snd (if_neg someFrame)

/-- The frame that the calls of `process` name is the one that it handles. -/
theorem process_processed [DoubleArith D]
    (dev : Device D)
    (received : Option UartFrame)
    (time : UInt32) :
    (dev.process received time).1.processed =
      if (dev.dequeued received time).1 ≠ 0 then
        some (dev.dequeued received time).2.modbus.frameScratch
      else none := by
  by_cases someFrame : (dev.dequeued received time).1 ≠ 0
  · rw [if_pos someFrame]
    simp only [dequeued] at someFrame
    simp only [process, dequeued, if_pos someFrame]
  · rw [if_neg someFrame]
    simp only [dequeued] at someFrame
    simp only [process, if_neg someFrame]


/-- A frame that finds no room is reported as an overflow. -/
theorem queueFrame_errors
    (dev : Device D)
    (data : Nat → UInt8)
    (len : UInt16)
    (time : UInt32) :
    (dev.queueFrame (some data) len time).2.errors =
      dev.errors.applyAll
        (if (dev.queueFrame (some data) len time).1 = 0 then [.uartOverflow] else []) := by
  rw [queueFrame]
  split
  · rfl
  · simp only [if_true, ErrorManager.applyAll_singleton]
    rfl

/-- The first half reports an overflow exactly when `queueFrame` fails. -/
theorem queueReceived_errors
    (dev : Device D)
    (received : Option UartFrame)
    (time : UInt32) :
    (dev.queueReceived received time).2.errors =
      dev.errors.applyAll
        (if (dev.queueReceived received time).1 = some 0 then [.uartOverflow] else []) := by
  cases received with
  | none => rfl
  | some received =>
      simp only [queueReceived]
      split
      · simp only [Option.some.injEq]
        exact queueFrame_errors _ _ _ _
      · rfl

/-- Taking a frame out of the queue reports nothing. -/
theorem dequeueFrame_errors
    (dev : Device D)
    (frame : Option FrameItem) :
    (dev.dequeueFrame frame).2.2.errors = dev.errors := by
  cases frame with
  | none => rfl
  | some frame =>
      rw [dequeueFrame]
      split
      · rfl
      · rfl

/-- A call of `process` changes the error manager by its reports. -/
theorem process_errors [DoubleArith D]
    (dev : Device D)
    (received : Option UartFrame)
    (time : UInt32) :
    (dev.process received time).2.errors =
      dev.errors.applyAll (dev.process received time).1.reports := by
  simp only [process]
  split
  · rw [frameStep_errors, ProcessCalls.reports, ErrorManager.applyAll_append,
      ← queueReceived_errors]
    exact congrArg (ErrorManager.applyAll · _) (dequeueFrame_errors _ _)
  · rw [ProcessCalls.reports, Option.elim_none, List.append_nil, ← queueReceived_errors]
    exact dequeueFrame_errors _ _

/-! ## Every call processes the frame that it fetched -/

/-- No frame waits in the queue. -/
def QueueEmpty (dev : Device D) : Prop :=
  ∃ buffer, dev.modbus.frameQueue.Holds buffer ∧ buffer.contents = []

theorem QueueEmpty.implementsFifo
    {dev : Device D}
    (empty : dev.QueueEmpty) :
    dev.ImplementsFifo
      { items := []
        overflowCount := dev.modbus.frameQueue.overflowCount
        errors := dev.errors } := by
  obtain ⟨buffer, holds, nothing⟩ := empty
  refine ⟨⟨buffer, holds, ?_⟩, rfl, rfl⟩
  rw [nothing]
  rfl

theorem QueueEmpty.count
    {dev : Device D}
    (empty : dev.QueueEmpty) :
    dev.modbus.frameQueue.count = 0 :=
  UInt8.toNat_inj.mp empty.implementsFifo.count

/-- A queue that stands for the empty list is empty. -/
theorem ImplementsFifo.queueEmpty
    {dev : Device D}
    {fifo : FrameFifo}
    (implements : dev.ImplementsFifo fifo)
    (empty : fifo.items = []) :
    dev.QueueEmpty := by
  obtain ⟨buffer, holds, items⟩ := implements.queue
  refine ⟨buffer, holds, ?_⟩
  rw [empty] at items
  exact List.map_eq_nil_iff.mp items.symm

/-- The bytes in `rxScratch_` are those of the received frame. -/
theorem received_rxScratch
    (rxScratch : Vector UInt8 256)
    (received : UartFrame)
    (time : UInt32) :
    QueuedFrame.received
        (FixedArray.read (FixedArray.writeAll rxScratch 0 received.bytes))
        received.bytes.length.toUInt16 time =
      ⟨received.bytes, received.bytes.length, time⟩ := by
  have fits := received.fits
  have length : min received.bytes.length.toUInt16.toNat 256 = received.bytes.length := by
    have unwrapped : received.bytes.length.toUInt16.toNat = received.bytes.length :=
      Nat.mod_eq_of_lt (by omega)
    omega
  rw [QueuedFrame.received, length, FixedArray.map_read_range _ _ fits,
    FixedArray.front_writeAll _ _ fits]

/-- From an empty queue the first half of `process` queues the received frame. -/
theorem QueueEmpty.queueReceived
    {dev : Device D}
    (empty : dev.QueueEmpty)
    (received : Option UartFrame)
    (time : UInt32) :
    (dev.queueReceived received time).1 ≠ some 0 ∧
      ∃ fifo, (dev.queueReceived received time).2.ImplementsFifo fifo ∧
        fifo.items = (UartFrame.arrival received time).toList := by
  cases received with
  | none => exact ⟨by simp [Device.queueReceived], _, empty.implementsFifo, rfl⟩
  | some received =>
      let rxScratch := FixedArray.writeAll dev.modbus.rxScratch 0 received.bytes
      let fetched : Device D :=
        { dev with modbus := { dev.modbus with rxScratch := rxScratch } }
      have stillEmpty : fetched.QueueEmpty := empty
      simp only [Device.queueReceived, UartFrame.arrival]
      split
      · obtain ⟨kept, success⟩ := stillEmpty.implementsFifo.queueFrame
          (FixedArray.read rxScratch) received.bytes.length.toUInt16 time
        refine ⟨?_, _, kept, ?_⟩
        · have room : ([] : List QueuedFrame).length < frameQueueSize := by decide
          rw [success, if_pos room]
          simp
        · exact congrArg (fun item => [item])
            (received_rxScratch dev.modbus.rxScratch received time)
      · exact ⟨by simp, _, stillEmpty.implementsFifo, rfl⟩

/-- Nothing is taken out of an empty queue. -/
theorem ImplementsFifo.dequeue_nil
    {dev : Device D}
    {fifo : FrameFifo}
    (implements : dev.ImplementsFifo fifo)
    (items : fifo.items = [])
    (destination : FrameItem) :
    (dev.dequeueFrame (some destination)).2.2.QueueEmpty ∧
      (dev.dequeueFrame (some destination)).1 = 0 := by
  obtain ⟨kept, answers⟩ := implements.queueStep (.dequeueFrame (some destination))
  rw [Device.queueStep, FrameFifo.Answers, items] at answers
  exact ⟨kept.queueEmpty (congrArg List.tail items), answers.1⟩

/-- The only frame is taken out of the queue. -/
theorem ImplementsFifo.dequeue_singleton
    {dev : Device D}
    {fifo : FrameFifo}
    {item : QueuedFrame}
    (implements : dev.ImplementsFifo fifo)
    (items : fifo.items = [item])
    (destination : FrameItem) :
    (dev.dequeueFrame (some destination)).2.2.QueueEmpty ∧
      (dev.dequeueFrame (some destination)).1 = 1 ∧
        ∃ frame, (dev.dequeueFrame (some destination)).2.1 = some frame ∧
          frame.queued = item := by
  obtain ⟨kept, answers⟩ := implements.queueStep (.dequeueFrame (some destination))
  rw [Device.queueStep, FrameFifo.Answers, items] at answers
  exact ⟨kept.queueEmpty (congrArg List.tail items), answers.1,
    Option.map_eq_some_iff.mp answers.2⟩

section

variable [DoubleArith D] {dev : Device D}

/-- From an empty queue on, a call of `process` queues without overflow, processes
exactly the frame that it fetched and leaves the queue empty. -/
theorem QueueEmpty.process
    (empty : dev.QueueEmpty)
    (received : Option UartFrame)
    (time : UInt32) :
    (dev.process received time).2.QueueEmpty ∧
      (dev.process received time).1.queued ≠ some 0 ∧
        (dev.process received time).1.processed.map FrameItem.queued =
          UartFrame.arrival received time := by
  obtain ⟨queued, fifo, implements, items⟩ := empty.queueReceived received time
  cases arrived : UartFrame.arrival received time with
  | none =>
      rw [arrived] at items
      obtain ⟨emptied, result⟩ := implements.dequeue_nil items
        (dev.queueReceived received time).2.modbus.frameScratch
      have noFrame : ¬ (0 : UInt8) ≠ 0 := not_not_intro rfl
      simp only [Device.process, result, if_neg noFrame]
      exact ⟨emptied, queued, rfl⟩
  | some item =>
      rw [arrived] at items
      obtain ⟨emptied, result, frame, delivered, same⟩ :=
        implements.dequeue_singleton items
        (dev.queueReceived received time).2.modbus.frameScratch
      have someFrame : (1 : UInt8) ≠ 0 := by decide
      simp only [Device.process, result, delivered, if_pos someFrame]
      refine ⟨?_, queued, congrArg some same⟩
      rw [QueueEmpty, frameStep_frameQueue]
      exact emptied

/-- The same for every event. -/
theorem QueueEmpty.processStep
    (empty : dev.QueueEmpty)
    (event : ProcessEvent D) :
    (dev.processStep event).QueueEmpty ∧
      .uartOverflow ∉ (dev.processCalls event).reports ∧
        (dev.processCalls event).processed.map FrameItem.queued = event.arrival := by
  cases event with
  | call received time =>
      obtain ⟨emptied, queued, processed⟩ := empty.process received time
      exact ⟨emptied, ProcessCalls.not_mem_reports queued, processed⟩
  | other change keepsQueue =>
      refine ⟨?_, by simp [processCalls, ProcessCalls.reports], rfl⟩
      rw [QueueEmpty, Device.processStep, keepsQueue]
      exact empty

/-- From the initialization on, every non-empty frame of the UART is processed by
the call that fetches it, and nothing else is processed; `process` never reports
an overflow, and the queue is empty after every event.  By `process_eq` and
`process_processed` the frame named by the calls is the one that the device handles, and
by `process_errors` its error manager changes by their reports. -/
theorem runProcess_processesArrivals
    (dev : Device D)
    (slaveAddress : UInt8)
    (events : List (ProcessEvent D)) :
    let start := dev.initialized slaveAddress
    List.Forall₂
        (fun event calls =>
          calls.processed.map FrameItem.queued = event.arrival ∧
            .uartOverflow ∉ calls.reports)
        events (Transition.outputs Device.processStep processCalls start events) ∧
      ∀ reached ∈ Transition.visited Device.processStep start events,
        reached.modbus.frameQueue.count = 0 := by
  intro start
  have initially : start.QueueEmpty :=
    (initialized_implementsFifo dev slaveAddress).queueEmpty rfl
  constructor
  · refine Transition.forall₂_outputs_of_kept QueueEmpty ?_ ?_ initially events
    · intro dev event empty
      exact (empty.processStep event).1
    · intro dev event empty
      obtain ⟨_, noOverflow, processed⟩ := empty.processStep event
      exact ⟨processed, noOverflow⟩
  · intro reached visited
    exact (Transition.forall_visited_of_kept QueueEmpty
      (fun _ event empty => (empty.processStep event).1) initially events reached
      visited).count

end

end Device

end SensorFirmware
