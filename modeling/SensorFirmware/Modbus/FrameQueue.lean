import SensorFirmware.Library.RingBuffer
import SensorFirmware.Modbus.Runs

/-!
# The queue of received frames

`ModbusService` keeps received frames in `frameQueue_`.  Its operations are
`queueFrame`, `dequeueFrame`, `peekFrame`, `popFrame` and `clearQueue`; together
they implement a list of at most ten frames in the order of their arrival.
-/

namespace SensorFirmware

/-! ## Operations -/

namespace FrameQueue

/-- `index++; if (index >= FRAME_QUEUE_SIZE) index = 0`. -/
def advance (index : UInt8) : UInt8 :=
  if frameQueueSize ≤ (index + 1).toNat then 0 else index + 1

/-- The critical section of `queueFrame` while the queue has room. -/
def store (queue : FrameQueue) (data : Nat → UInt8) (len : UInt16)
    (timestamp : UInt32) : FrameQueue :=
  let slot := FixedArray.read queue.frames queue.head.toNat
  let stored : FrameItem :=
    { data := FixedArray.copy slot.data data len.toNat
      len := len
      timestamp := timestamp }
  { queue with
    frames := FixedArray.write queue.frames queue.head.toNat stored
    head := advance queue.head
    count := queue.count + 1 }

/-- The frame at the tail of the queue. -/
def oldest (queue : FrameQueue) : FrameItem :=
  FixedArray.read queue.frames queue.tail.toNat

/-- The step by which `dequeueFrame` and `popFrame` drop the oldest frame. -/
def dropOldest (queue : FrameQueue) : FrameQueue :=
  { queue with
    tail := advance queue.tail
    count := queue.count - 1 }

end FrameQueue

/-- The copy of a stored frame that `dequeueFrame` makes in its destination. -/
def FrameItem.receive (destination stored : FrameItem) : FrameItem where
  data := FixedArray.copy destination.data stored.byte stored.len.toNat
  len := stored.len
  timestamp := stored.timestamp

namespace Device

/-- Replace `frameQueue_`. -/
def withQueue (dev : Device D) (queue : FrameQueue) : Device D :=
  { dev with modbus := { dev.modbus with frameQueue := queue } }

/-- `ModbusService::queueFrame` at the time that `GetTime_us` returns.  The data
are the bytes from the pointer on; `none` is the null pointer. -/
def queueFrame (dev : Device D) (data : Option (Nat → UInt8)) (len : UInt16)
    (time : UInt32) : UInt8 × Device D :=
  match data with
  | none => (0, dev)
  | some data =>
      let len := if 256 < len then 256 else len
      let queue := dev.modbus.frameQueue
      if queue.count.toNat < frameQueueSize then
        (1, dev.withQueue (queue.store data len time))
      else
        (0,
          { dev.withQueue { queue with overflowCount := queue.overflowCount + 1 } with
            errors := dev.errors.reportUartOverflow })

/-- `ModbusService::dequeueFrame`, with the destination after the call. -/
def dequeueFrame (dev : Device D) (frame : Option FrameItem) :
    UInt8 × Option FrameItem × Device D :=
  match frame with
  | none => (0, none, dev)
  | some frame =>
      let queue := dev.modbus.frameQueue
      if 0 < queue.count then
        (1, some (frame.receive queue.oldest), dev.withQueue queue.dropOldest)
      else (0, some frame, dev)

/-- `ModbusService::peekFrame`. -/
def peekFrame (dev : Device D) : Option FrameItem :=
  if 0 < dev.modbus.frameQueue.count then some dev.modbus.frameQueue.oldest else none

/-- `ModbusService::popFrame`. -/
def popFrame (dev : Device D) : Device D :=
  if 0 < dev.modbus.frameQueue.count then
    dev.withQueue dev.modbus.frameQueue.dropOldest
  else dev

/-- `ModbusService::clearQueue`. -/
def clearQueue (dev : Device D) : Device D :=
  dev.withQueue
    { dev.modbus.frameQueue with
      head := 0
      tail := 0
      count := 0
      overflowCount := 0 }

end Device

/-- A call of one of the queue operations. -/
inductive QueueOp
  | queueFrame (data : Option (Nat → UInt8)) (len : UInt16) (time : UInt32)
  | dequeueFrame (frame : Option FrameItem)
  | peekFrame
  | popFrame
  | clearQueue

/-- What a queue operation gives to its caller. -/
inductive QueueReply
  | queued (success : UInt8)
  | dequeued (success : UInt8) (frame : Option FrameItem)
  | peeked (frame : Option FrameItem)
  | done

namespace Device

/-- One call of a queue operation. -/
def queueStep (dev : Device D) : QueueOp → QueueReply × Device D
  | .queueFrame data len time =>
      let result := dev.queueFrame data len time
      (.queued result.1, result.2)
  | .dequeueFrame frame =>
      let result := dev.dequeueFrame frame
      (.dequeued result.1 result.2.1, result.2.2)
  | .peekFrame => (.peeked dev.peekFrame, dev)
  | .popFrame => (.done, dev.popFrame)
  | .clearQueue => (.done, dev.clearQueue)

/-- The device after a list of queue operations. -/
def runQueue (dev : Device D) (operations : List QueueOp) : Device D :=
  Transition.run (fun dev operation => (dev.queueStep operation).2) dev operations

end Device

/-! ## The list that the queue stands for -/

/-- A frame as the queue delivers it: its bytes, their number and its time. -/
structure QueuedFrame where
  bytes : List UInt8
  len : Nat
  timestamp : UInt32

/-- The queued frame that a slot stores. -/
def FrameItem.queued (frame : FrameItem) : QueuedFrame where
  bytes := FixedArray.front frame.data frame.len.toNat
  len := frame.len.toNat
  timestamp := frame.timestamp

/-- A copy delivers what the slot stored. -/
theorem FrameItem.queued_receive (destination stored : FrameItem) :
    (destination.receive stored).queued = stored.queued := by
  have bytes : FixedArray.front (destination.receive stored).data stored.len.toNat =
      FixedArray.front stored.data stored.len.toNat :=
    FixedArray.front_copy_read destination.data stored.data stored.len.toNat
  rw [queued, queued, ← bytes]
  rfl

/-- The first 256 of the received bytes. -/
def QueuedFrame.received (data : Nat → UInt8) (len : UInt16) (time : UInt32) :
    QueuedFrame where
  bytes := (List.range (min len.toNat 256)).map data
  len := min len.toNat 256
  timestamp := time

/-- The purpose of the queue: frames in the order of their arrival, and a count
of the frames that found no room. -/
structure FrameFifo where
  items : List QueuedFrame
  overflowCount : UInt32
  errors : ErrorManager

namespace FrameFifo

/-- The list after a queue operation. -/
def step (fifo : FrameFifo) : QueueOp → FrameFifo
  | .queueFrame none _ _ => fifo
  | .queueFrame (some data) len time =>
      if fifo.items.length < frameQueueSize then
        { fifo with items := fifo.items ++ [.received data len time] }
      else
        { fifo with
          overflowCount := fifo.overflowCount + 1
          errors := fifo.errors.reportUartOverflow }
  | .dequeueFrame none => fifo
  | .dequeueFrame (some _) => { fifo with items := fifo.items.tail }
  | .peekFrame => fifo
  | .popFrame => { fifo with items := fifo.items.tail }
  | .clearQueue => { fifo with items := [], overflowCount := 0 }

/-- The reply that a caller of the list gets. -/
def Answers (fifo : FrameFifo) : QueueOp → QueueReply → Prop
  | .queueFrame data _ _, .queued success =>
      success = if data.isSome ∧ fifo.items.length < frameQueueSize then 1 else 0
  | .dequeueFrame none, .dequeued success frame => success = 0 ∧ frame = none
  | .dequeueFrame (some destination), .dequeued success frame =>
      match fifo.items with
      | [] => success = 0 ∧ frame = some destination
      | item :: _ => success = 1 ∧ frame.map FrameItem.queued = some item
  | .peekFrame, .peeked frame => frame.map FrameItem.queued = fifo.items.head?
  | .popFrame, .done => True
  | .clearQueue, .done => True
  | _, _ => False

end FrameFifo

/-- An empty list has nothing to drop. -/
theorem FrameFifo.drop_empty
    {fifo : FrameFifo}
    (empty : fifo.items = []) :
    { fifo with items := fifo.items.tail } = fifo := by
  cases fifo
  subst empty
  rfl

/-! ## The queue implements the list -/

namespace FrameQueue

/-- The indices of the queue are in range and consistent. -/
structure WellFormed (queue : FrameQueue) : Prop where
  headInside : queue.head.toNat < frameQueueSize
  tailInside : queue.tail.toNat < frameQueueSize
  countFits : queue.count.toNat ≤ frameQueueSize
  headBehind : queue.head.toNat = (queue.tail.toNat + queue.count.toNat) % frameQueueSize

/-- The queued frames, the oldest one first. -/
def items (queue : FrameQueue) : List QueuedFrame :=
  (List.range queue.count.toNat).map fun offset =>
    (FixedArray.read queue.frames
      ((queue.tail.toNat + offset) % frameQueueSize)).queued

/-- The queue lies in memory as a ring buffer. -/
structure Holds (queue : FrameQueue) (buffer : RingBuffer FrameItem frameQueueSize) :
    Prop where
  frames : queue.frames = buffer.slots
  head : queue.head.toNat = buffer.head
  tail : queue.tail.toNat = buffer.tail
  count : queue.count.toNat = buffer.count

/-- Increments wrap as those of the ring buffer do. -/
theorem advance_toNat
    {index : UInt8}
    (inside : index.toNat < frameQueueSize) :
    (advance index).toNat = RingBuffer.next frameQueueSize index.toNat := by
  have below : index.toNat < 10 := inside
  have one : (1 : UInt8).toNat = 1 := rfl
  have unwrapped : (index + 1).toNat = index.toNat + 1 := by
    rw [UInt8.toNat_add, one]
    omega
  rw [advance, RingBuffer.next, unwrapped]
  split
  · rfl
  · exact unwrapped

variable {queue : FrameQueue} {buffer : RingBuffer FrameItem frameQueueSize}

theorem Holds.wellFormed (holds : queue.Holds buffer) : queue.WellFormed := by
  have headInside := buffer.headInside
  refine ⟨?_, ?_, ?_, ?_⟩
  · rwa [holds.head]
  · rw [holds.tail]
    exact buffer.tailInside
  · rw [holds.count]
    exact buffer.countFits
  · rw [holds.head, holds.tail, holds.count]
    exact buffer.headBehind

theorem Holds.items (holds : queue.Holds buffer) :
    queue.items = buffer.contents.map FrameItem.queued := by
  rw [FrameQueue.items, holds.frames, holds.tail, holds.count, RingBuffer.contents,
    List.map_map]
  rfl

/-- The zero-filled queue is the empty ring buffer. -/
theorem zero_holds :
    ∃ buffer, FrameQueue.zero.Holds buffer ∧ buffer.contents = [] :=
  ⟨{ slots := FrameQueue.zero.frames
     head := 0
     tail := 0
     count := 0
     tailInside := by decide
     countFits := by decide
     headBehind := rfl },
    ⟨rfl, rfl, rfl, rfl⟩, rfl⟩

/-- Storing a frame pushes it. -/
theorem Holds.store
    (holds : queue.Holds buffer)
    (room : buffer.count < frameQueueSize)
    (data : Nat → UInt8)
    (len : UInt16)
    (time : UInt32) :
    ∃ stored : FrameItem,
      (queue.store data len time).Holds (buffer.push stored room) ∧
        stored.len = len ∧ stored.timestamp = time ∧
          stored.data =
            FixedArray.copy (FixedArray.read queue.frames queue.head.toNat).data data
              len.toNat := by
  have headInside := holds.wellFormed.headInside
  have few : queue.count.toNat < 10 := by
    rw [holds.count]
    exact room
  have one : (1 : UInt8).toNat = 1 := rfl
  refine ⟨⟨_, len, time⟩, ⟨?_, ?_, holds.tail, ?_⟩, rfl, rfl, rfl⟩
  · show FixedArray.write queue.frames queue.head.toNat _ =
      FixedArray.write buffer.slots buffer.head _
    rw [holds.frames, holds.head]
    rfl
  · exact (advance_toNat headInside).trans (congrArg _ holds.head)
  · show (queue.count + 1).toNat = buffer.count + 1
    rw [UInt8.toNat_add, one, ← holds.count]
    omega

/-- Dropping the oldest frame pops it. -/
theorem Holds.dropOldest
    (holds : queue.Holds buffer)
    (nonempty : 0 < buffer.count) :
    queue.dropOldest.Holds (buffer.pop nonempty) := by
  have tailInside := holds.wellFormed.tailInside
  have some : 1 ≤ queue.count := by
    rw [UInt8.le_iff_toNat_le, holds.count]
    exact nonempty
  refine ⟨holds.frames, holds.head, ?_, ?_⟩
  · exact (advance_toNat tailInside).trans (congrArg _ holds.tail)
  · show (queue.count - 1).toNat = buffer.count - 1
    rw [UInt8.toNat_sub_of_le _ _ some, ← holds.count]
    rfl

/-- Setting the indices to zero clears the buffer. -/
theorem Holds.clear
    (holds : queue.Holds buffer) :
    { queue with head := 0, tail := 0, count := 0, overflowCount := 0 }.Holds
      buffer.clear :=
  ⟨holds.frames, rfl, rfl, rfl⟩

end FrameQueue

namespace Device

/-- The queue of the device stands for the list, and its counters agree. -/
structure ImplementsFifo (dev : Device D) (fifo : FrameFifo) : Prop where
  queue : ∃ buffer, dev.modbus.frameQueue.Holds buffer ∧
    fifo.items = buffer.contents.map FrameItem.queued
  overflowCount : dev.modbus.frameQueue.overflowCount = fifo.overflowCount
  errors : dev.errors = fifo.errors

variable {dev : Device D} {fifo : FrameFifo}

/-- The count of the queue is the length of the list. -/
theorem ImplementsFifo.count
    (implements : dev.ImplementsFifo fifo) :
    dev.modbus.frameQueue.count.toNat = fifo.items.length := by
  obtain ⟨buffer, holds, items⟩ := implements.queue
  rw [items, List.length_map, RingBuffer.length_contents, holds.count]

theorem ImplementsFifo.empty
    (implements : dev.ImplementsFifo fifo)
    (empty : ¬ 0 < dev.modbus.frameQueue.count) :
    fifo.items = [] := by
  have none := UInt8.le_iff_toNat_le.mp (UInt8.not_lt.mp empty)
  rw [implements.count] at none
  exact List.length_eq_zero_iff.mp (Nat.le_zero.mp none)

/-- With frames in the queue the oldest one heads the list, and dropping it
leaves the others. -/
theorem ImplementsFifo.oldest
    (implements : dev.ImplementsFifo fifo)
    (nonempty : 0 < dev.modbus.frameQueue.count) :
    fifo.items = dev.modbus.frameQueue.oldest.queued :: fifo.items.tail ∧
      (dev.withQueue dev.modbus.frameQueue.dropOldest).ImplementsFifo
        { fifo with items := fifo.items.tail } := by
  obtain ⟨buffer, holds, items⟩ := implements.queue
  have stored : 0 < buffer.count := by
    rw [← holds.count]
    exact UInt8.lt_iff_toNat_lt.mp nonempty
  have first : dev.modbus.frameQueue.oldest =
      FixedArray.read buffer.slots buffer.tail := by
    rw [FrameQueue.oldest, holds.frames, holds.tail]
  have split : fifo.items =
      dev.modbus.frameQueue.oldest.queued ::
        (buffer.pop stored).contents.map FrameItem.queued := by
    rw [items, buffer.contents_eq_cons stored, List.map_cons, first]
  refine ⟨?_, ⟨⟨buffer.pop stored, holds.dropOldest stored, ?_⟩,
    implements.overflowCount, implements.errors⟩⟩
  · rw [split, List.tail_cons]
  · rw [split, List.tail_cons]

/-- The length that `queueFrame` keeps. -/
theorem truncated_toNat (len : UInt16) :
    (if 256 < len then (256 : UInt16) else len).toNat = min len.toNat 256 := by
  have limit : (256 : UInt16).toNat = 256 := rfl
  split
  · rename_i long
    have above := UInt16.lt_iff_toNat_lt.mp long
    omega
  · rename_i short
    have within := UInt16.le_iff_toNat_le.mp (UInt16.not_lt.mp short)
    omega

/-- A queued frame is appended while there is room and counted otherwise. -/
theorem ImplementsFifo.queueFrame
    (implements : dev.ImplementsFifo fifo)
    (data : Nat → UInt8)
    (len : UInt16)
    (time : UInt32) :
    (dev.queueFrame (some data) len time).2.ImplementsFifo
        (fifo.step (.queueFrame (some data) len time)) ∧
      (dev.queueFrame (some data) len time).1 =
        if fifo.items.length < frameQueueSize then 1 else 0 := by
  simp only [Device.queueFrame, FrameFifo.step, implements.count]
  split
  · rename_i room
    obtain ⟨buffer, holds, items⟩ := implements.queue
    have free : buffer.count < frameQueueSize := by
      rwa [← holds.count, implements.count]
    obtain ⟨stored, pushed, storedLen, storedTime, storedData⟩ :=
      holds.store free data (if 256 < len then 256 else len) time
    have received : stored.queued = .received data len time := by
      rw [FrameItem.queued, storedLen, storedTime, storedData, truncated_toNat,
        FixedArray.front_copy _ _ _ (Nat.min_le_right _ _)]
      rfl
    refine ⟨⟨⟨buffer.push stored free, pushed, ?_⟩, implements.overflowCount,
      implements.errors⟩, rfl⟩
    rw [buffer.contents_push, List.map_append, ← items, List.map_singleton, received]
  · obtain ⟨buffer, holds, items⟩ := implements.queue
    refine ⟨⟨⟨buffer, ⟨holds.frames, holds.head, holds.tail, holds.count⟩, items⟩, ?_, ?_⟩,
      rfl⟩
    · exact congrArg (· + 1) implements.overflowCount
    · simp only [implements.errors]

/-- Every operation does to the queue what it does to the list, and its caller
gets the reply that the list gives. -/
theorem ImplementsFifo.queueStep
    (implements : dev.ImplementsFifo fifo)
    (operation : QueueOp) :
    (dev.queueStep operation).2.ImplementsFifo (fifo.step operation) ∧
      fifo.Answers operation (dev.queueStep operation).1 := by
  cases operation with
  | queueFrame data len time =>
      cases data with
      | none => exact ⟨implements, rfl⟩
      | some data =>
          obtain ⟨kept, success⟩ := implements.queueFrame data len time
          exact ⟨kept, by simpa [FrameFifo.Answers, Device.queueStep] using success⟩
  | dequeueFrame frame =>
      cases frame with
      | none => exact ⟨implements, rfl, rfl⟩
      | some frame =>
          by_cases nonempty : 0 < dev.modbus.frameQueue.count
          · obtain ⟨first, kept⟩ := implements.oldest nonempty
            have result : dev.queueStep (.dequeueFrame (some frame)) =
                (.dequeued 1 (some (frame.receive dev.modbus.frameQueue.oldest)),
                  dev.withQueue dev.modbus.frameQueue.dropOldest) := by
              simp only [Device.queueStep, Device.dequeueFrame, if_pos nonempty]
            rw [result]
            refine ⟨kept, ?_⟩
            rw [FrameFifo.Answers, first]
            exact ⟨rfl, congrArg some (frame.queued_receive _)⟩
          · have empty := implements.empty nonempty
            have result : dev.queueStep (.dequeueFrame (some frame)) =
                (.dequeued 0 (some frame), dev) := by
              simp only [Device.queueStep, Device.dequeueFrame, if_neg nonempty]
            rw [result, FrameFifo.step, FrameFifo.drop_empty empty]
            refine ⟨implements, ?_⟩
            rw [FrameFifo.Answers, empty]
            exact ⟨rfl, rfl⟩
  | peekFrame =>
      refine ⟨implements, ?_⟩
      by_cases nonempty : 0 < dev.modbus.frameQueue.count
      · rw [Device.queueStep, peekFrame, if_pos nonempty, FrameFifo.Answers,
          (implements.oldest nonempty).1]
        rfl
      · rw [Device.queueStep, peekFrame, if_neg nonempty, FrameFifo.Answers,
          implements.empty nonempty]
        rfl
  | popFrame =>
      refine ⟨?_, trivial⟩
      by_cases nonempty : 0 < dev.modbus.frameQueue.count
      · rw [Device.queueStep, popFrame, if_pos nonempty]
        exact (implements.oldest nonempty).2
      · rw [Device.queueStep, popFrame, if_neg nonempty, FrameFifo.step,
          FrameFifo.drop_empty (implements.empty nonempty)]
        exact implements
  | clearQueue =>
      obtain ⟨buffer, holds, _⟩ := implements.queue
      have empty := congrArg (List.map FrameItem.queued) buffer.contents_clear
      exact ⟨⟨⟨buffer.clear, holds.clear, empty.symm⟩, rfl, implements.errors⟩, trivial⟩

/-- So does every run of operations. -/
theorem ImplementsFifo.runQueue
    (implements : dev.ImplementsFifo fifo)
    (operations : List QueueOp) :
    (dev.runQueue operations).ImplementsFifo
      (Transition.run FrameFifo.step fifo operations) := by
  induction operations generalizing dev fifo with
  | nil => exact implements
  | cons operation operations inductionHypothesis =>
      exact inductionHypothesis (implements.queueStep operation).1

variable [DoubleArith D]

/-- The initialization leaves an empty queue. -/
theorem initialized_implementsFifo
    (dev : Device D)
    (slaveAddress : UInt8) :
    (dev.initialized slaveAddress).ImplementsFifo
      { items := [], overflowCount := 0, errors := dev.errors } := by
  have zeroed := initialized_frameQueue dev slaveAddress
  obtain ⟨buffer, holds, empty⟩ := FrameQueue.zero_holds
  refine ⟨⟨buffer, ?_, ?_⟩, ?_, initialized_errors dev slaveAddress⟩
  · rwa [zeroed]
  · rw [empty]
    rfl
  · rw [zeroed]
    rfl

/-- From an initialized service on, the queue is a list of at most ten frames
under every run of its operations. -/
theorem runQueue_implementsFifo
    (dev : Device D)
    (slaveAddress : UInt8)
    (operations : List QueueOp) :
    let reached := (dev.initialized slaveAddress).runQueue operations
    let fifo := Transition.run FrameFifo.step
      { items := [], overflowCount := 0, errors := dev.errors } operations
    reached.modbus.frameQueue.WellFormed ∧
      fifo.items.length ≤ frameQueueSize ∧
      reached.modbus.frameQueue.items = fifo.items ∧
      reached.modbus.frameQueue.overflowCount = fifo.overflowCount ∧
      reached.errors = fifo.errors ∧
      ∀ operation, fifo.Answers operation (reached.queueStep operation).1 := by
  intro reached fifo
  have implements : reached.ImplementsFifo fifo :=
    (initialized_implementsFifo dev slaveAddress).runQueue operations
  obtain ⟨buffer, holds, items⟩ := implements.queue
  refine ⟨holds.wellFormed, ?_, ?_, implements.overflowCount, implements.errors,
    fun operation => (implements.queueStep operation).2⟩
  · rw [← implements.count]
    exact holds.wellFormed.countFits
  · rw [holds.items, items]

end Device

end SensorFirmware
