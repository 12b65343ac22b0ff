import SensorFirmware.Drivers.UartRingBuffer
import SensorFirmware.Library.BoundedQueue

/-!
# The UART ring as a queue

`UartRingBuffer` with its four variables as they are stored.  Its indices wrap
around with the remainder by the capacity, and the count tells a full ring from
an empty one.  Over every run of calls it answers like the bounded queue, a call
that fails changes nothing, and the indices stay inside the array.
-/

namespace SensorFirmware

open BoundedQueue (Call Answer)

/-- The variables of `UartRingBuffer`. -/
structure UartRing where
  buffer : Vector UInt8 256
  head : Nat
  tail : Nat
  count : Nat
  deriving DecidableEq

namespace UartRing

/-- `UartRingBuffer::Capacity`. -/
@[reducible] def capacity : Nat := 256

/-- A constructed ring. -/
def construct : UartRing where
  buffer := Vector.replicate 256 0
  head := 0
  tail := 0
  count := 0

/-- `UartRingBuffer::empty`. -/
def empty (ring : UartRing) : Bool := ring.count == 0

/-- `UartRingBuffer::full`. -/
def full (ring : UartRing) : Bool := ring.count == capacity

/-- `UartRingBuffer::push`. -/
def push (ring : UartRing) (value : UInt8) : Bool × UartRing :=
  if ring.full then (false, ring)
  else
    (true,
      { ring with
        buffer := FixedArray.write ring.buffer ring.head value
        head := (ring.head + 1) % capacity
        count := ring.count + 1 })

/-- `UartRingBuffer::pop`: the answer, the value that the reference holds
afterwards, and the ring. -/
def pop (ring : UartRing) (value : UInt8) : Bool × UInt8 × UartRing :=
  if ring.empty then (false, value, ring)
  else
    (true, FixedArray.read ring.buffer ring.tail,
      { ring with
        tail := (ring.tail + 1) % capacity
        count := ring.count - 1 })

/-- `UartRingBuffer::clear`. -/
def clear (ring : UartRing) : UartRing :=
  { ring with head := 0, tail := 0, count := 0 }

/-- The ring after a call. -/
def step (ring : UartRing) : Call UInt8 → UartRing
  | .push value => (ring.push value).2
  | .pop held => (ring.pop held).2.2
  | .clear => ring.clear

/-- What a call answers. -/
def answer (ring : UartRing) : Call UInt8 → Answer UInt8
  | .push value => .pushed (ring.push value).1
  | .pop held => .popped (ring.pop held).1 (ring.pop held).2.1
  | .clear => .cleared

/-- The variables are those of a well-formed ring buffer. -/
structure Represents (ring : UartRing) (model : UartRingBuffer) : Prop where
  buffer : ring.buffer = model.slots
  head : ring.head = model.head
  tail : ring.tail = model.tail
  count : ring.count = model.count

/-- The ring holds the queue, the oldest byte first. -/
def Holds (ring : UartRing) (queue : List UInt8) : Prop :=
  ∃ model, ring.Represents model ∧ model.contents = queue

theorem construct_holds : construct.Holds [] :=
  ⟨UartRingBuffer.construct, ⟨rfl, rfl, rfl, rfl⟩, rfl⟩

section

variable {ring : UartRing} {queue : List UInt8}

theorem Holds.count (holds : ring.Holds queue) : ring.count = queue.length := by
  obtain ⟨model, represents, rfl⟩ := holds
  rw [represents.count, RingBuffer.length_contents]

/-- The indices lie inside the array, the head behind the queued bytes. -/
theorem Holds.indices (holds : ring.Holds queue) :
    ring.head < 256 ∧ ring.tail < 256 ∧ ring.count ≤ 256 ∧
      ring.head = (ring.tail + ring.count) % 256 := by
  obtain ⟨model, represents, -⟩ := holds
  rw [represents.head, represents.tail, represents.count]
  exact ⟨model.headInside, model.tailInside, model.countFits, model.headBehind⟩

/-- A push fails exactly when the ring is full, and then it changes nothing. -/
theorem Holds.push
    (holds : ring.Holds queue)
    (value : UInt8) :
    (queue.length < 256 ∧ (ring.push value).1 = true ∧
        (ring.push value).2.Holds (queue ++ [value])) ∨
      (queue.length = 256 ∧ ring.push value = (false, ring)) := by
  have counted := holds.count
  have fits := holds.indices.2.2.1
  by_cases full : queue.length = 256
  · right
    have isFull : ring.full = true := by rw [UartRing.full, counted, full]; rfl
    exact ⟨full, if_pos isFull⟩
  · left
    have notFull : ring.full ≠ true := by
      rw [UartRing.full, counted, Ne, beq_iff_eq]
      exact full
    rw [UartRing.push, if_neg notFull]
    obtain ⟨model, represents, rfl⟩ := holds
    have room : model.count < 256 := by
      rw [RingBuffer.length_contents] at full
      rw [represents.count] at fits
      omega
    refine ⟨by rw [RingBuffer.length_contents]; exact room, rfl,
      model.push value room, ⟨?_, ?_, represents.tail, ?_⟩, model.contents_push value room⟩
    · simp only [RingBuffer.push, represents.buffer, represents.head]
    · simp only [RingBuffer.push, represents.head, RingBuffer.next_eq_mod model.headInside]
    · simp only [RingBuffer.push, represents.count]

/-- A pop returns the oldest byte; it fails exactly when there is none, and then
it changes nothing. -/
theorem Holds.pop
    (holds : ring.Holds queue)
    (held : UInt8) :
    (∃ oldest others, queue = oldest :: others ∧ (ring.pop held).1 = true ∧
        (ring.pop held).2.1 = oldest ∧ (ring.pop held).2.2.Holds others) ∨
      (queue = [] ∧ ring.pop held = (false, held, ring)) := by
  have counted := holds.count
  by_cases nothing : queue = []
  · right
    have isEmpty : ring.empty = true := by rw [UartRing.empty, counted, nothing]; rfl
    exact ⟨nothing, if_pos isEmpty⟩
  · left
    have notEmpty : ring.empty ≠ true := by
      rw [UartRing.empty, counted, Ne, beq_iff_eq]
      exact fun zero => nothing (List.length_eq_zero_iff.mp zero)
    rw [UartRing.pop, if_neg notEmpty]
    obtain ⟨model, represents, rfl⟩ := holds
    have nonempty : 0 < model.count := by
      rw [← RingBuffer.length_contents]
      exact List.length_pos_iff.mpr nothing
    refine ⟨FixedArray.read model.slots model.tail, (model.pop nonempty).contents,
      model.contents_eq_cons nonempty, rfl, ?_,
      model.pop nonempty, ⟨represents.buffer, represents.head, ?_, ?_⟩, rfl⟩
    · rw [represents.buffer, represents.tail]
    · simp only [RingBuffer.pop, represents.tail, RingBuffer.next_eq_mod model.tailInside]
    · simp only [RingBuffer.pop, represents.count]

theorem Holds.clear (holds : ring.Holds queue) : ring.clear.Holds [] := by
  obtain ⟨model, represents, -⟩ := holds
  exact ⟨model.clear, ⟨represents.buffer, rfl, rfl, rfl⟩, model.contents_clear⟩

/-- A call does to the ring what it does to the queue. -/
theorem Holds.step
    (holds : ring.Holds queue)
    (call : Call UInt8) :
    (ring.step call).Holds (BoundedQueue.step 256 queue call) := by
  cases call with
  | push value =>
      rw [UartRing.step, BoundedQueue.step]
      rcases holds.push value with ⟨room, -, stored⟩ | ⟨full, unchanged⟩
      · rwa [if_pos room]
      · rw [if_neg (by omega), unchanged]
        exact holds
  | pop held =>
      rw [UartRing.step, BoundedQueue.step]
      rcases holds.pop held with ⟨oldest, others, rfl, -, -, rest⟩ | ⟨rfl, unchanged⟩
      · exact rest
      · rw [unchanged]
        exact holds
  | clear => exact holds.clear

/-- A call answers like the queue. -/
theorem Holds.answer
    (holds : ring.Holds queue)
    (call : Call UInt8) :
    ring.answer call = BoundedQueue.answer 256 queue call := by
  cases call with
  | push value =>
      rw [UartRing.answer, BoundedQueue.answer]
      rcases holds.push value with ⟨room, stored, -⟩ | ⟨full, unchanged⟩
      · rw [stored, decide_eq_true room]
      · rw [unchanged, decide_eq_false (by omega)]
  | pop held =>
      rw [UartRing.answer, BoundedQueue.answer]
      rcases holds.pop held with ⟨oldest, others, rfl, found, value, -⟩ | ⟨rfl, unchanged⟩
      · rw [found, value]
        rfl
      · rw [unchanged]
        rfl
  | clear => rfl

end

/-- Over every run of calls the ring answers like the bounded queue, holds its
bytes within the array, and a call that fails changes nothing. -/
theorem run_behavesAsQueue (calls : List (Call UInt8)) :
    let ring := Transition.run step construct calls
    let queue := Transition.run (BoundedQueue.step 256) [] calls
    Transition.outputs step answer construct calls =
        Transition.outputs (BoundedQueue.step 256) (BoundedQueue.answer 256) [] calls ∧
      queue.length ≤ 256 ∧ ring.count = queue.length ∧
      (ring.head < 256 ∧ ring.tail < 256 ∧ ring.count ≤ 256 ∧
        ring.head = (ring.tail + ring.count) % 256) ∧
      (∀ value, ((ring.push value).1 = true ↔ queue.length < 256) ∧
        ((ring.push value).1 = false → (ring.push value).2 = ring)) ∧
      (∀ held, ((ring.pop held).1 = true ↔ queue ≠ []) ∧
        ((ring.pop held).1 = true → queue.head? = some (ring.pop held).2.1) ∧
        ((ring.pop held).1 = false → (ring.pop held).2 = (held, ring))) := by
  intro ring queue
  have kept (state : UartRing) (image : List UInt8) (call : Call UInt8)
      (holds : state.Holds image) :
      (state.step call).Holds (BoundedQueue.step 256 image call) := holds.step call
  have holds : ring.Holds queue :=
    Transition.run_related Holds kept construct_holds calls
  have counted := holds.count
  have indices := holds.indices
  refine ⟨?_, by omega, counted, indices, fun value => ?_, fun held => ?_⟩
  · exact Transition.outputs_eq_of_related Holds kept
      (fun _ _ call holds => holds.answer call) construct_holds calls
  · rcases holds.push value with ⟨room, stored, -⟩ | ⟨full, unchanged⟩
    · simp [stored, room]
    · simp [unchanged, full]
  · rcases holds.pop held with ⟨oldest, others, split, found, value, -⟩ | ⟨nothing, unchanged⟩
    · simp [split, found, value]
    · simp [nothing, unchanged]

end UartRing

end SensorFirmware
