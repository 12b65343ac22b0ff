import SensorFirmware.Library.RingBuffer
import SensorFirmware.Library.Transition

/-!
# UART frame buffer

A ring collects the received bytes, and a completed frame moves from the ring
into a frame buffer from which it is fetched once.  A byte that arrives takes the
ready flag down, so a completed frame that has not been fetched by then is
dropped as a whole.  Apart from these frames every accepted byte leaves the
buffer in order or is still in it.
-/

namespace SensorFirmware

/-- `UartRingBuffer`. -/
abbrev UartRingBuffer : Type := RingBuffer UInt8 256

namespace UartRingBuffer

/-- `UartRingBuffer::Capacity`. -/
def capacity : Nat := 256

/-- A constructed ring. -/
def construct : UartRingBuffer where
  slots := Vector.replicate 256 0
  head := 0
  tail := 0
  count := 0
  tailInside := by decide
  countFits := by decide
  headBehind := rfl

/-- `UartRingBuffer::push`: whether the byte fits, and the ring afterwards. -/
def tryPush (ring : UartRingBuffer) (value : UInt8) : Bool × UartRingBuffer :=
  if room : ring.count < 256 then (true, ring.push value room) else (false, ring)

end UartRingBuffer

/-- `UartFrameBuffer`. -/
structure UartFrameBuffer where
  rx : UartRingBuffer
  frame : Vector UInt8 256
  frameLength : Nat
  frameReady : Bool

namespace UartFrameBuffer

/-- A constructed frame buffer. -/
def construct : UartFrameBuffer where
  rx := UartRingBuffer.construct
  frame := Vector.replicate 256 0
  frameLength := 0
  frameReady := false

/-- `UartFrameBuffer::receiveByte`: whether the byte is accepted, and the buffer
afterwards. -/
def receiveByte (buffer : UartFrameBuffer) (value : UInt8) : Bool × UartFrameBuffer :=
  let pushed := buffer.rx.tryPush value
  (pushed.1, { buffer with frameReady := false, rx := pushed.2 })

/-- The loop of `completeFrame`. -/
def drain (rx : UartRingBuffer) (frame : Vector UInt8 256) (frameLength : Nat) :
    UartRingBuffer × Vector UInt8 256 × Nat :=
  if more : 0 < rx.count ∧ frameLength < 256 then
    drain (rx.pop more.1)
      (FixedArray.write frame frameLength (FixedArray.read rx.slots rx.tail))
      (frameLength + 1)
  else (rx, frame, frameLength)
termination_by rx.count
decreasing_by
  show rx.count - 1 < rx.count
  omega

/-- `UartFrameBuffer::completeFrame`. -/
def completeFrame (buffer : UartFrameBuffer) : Bool × UartFrameBuffer :=
  if buffer.rx.count = 0 then (false, buffer)
  else
    let drained := drain buffer.rx buffer.frame 0
    let frameReady := decide (0 < drained.2.2)
    (frameReady,
      { rx := drained.1
        frame := drained.2.1
        frameLength := drained.2.2
        frameReady := frameReady })

/-- `UartFrameBuffer::fetchFrame` with a destination: the bytes copied, and the
buffer afterwards. -/
def fetchFrame (buffer : UartFrameBuffer) (maxLength : Nat) : List UInt8 × UartFrameBuffer :=
  if !buffer.frameReady || maxLength = 0 then ([], buffer)
  else
    let length :=
      if buffer.frameLength < maxLength then buffer.frameLength else maxLength
    (FixedArray.front buffer.frame length,
      { buffer with frameReady := false, frameLength := 0 })

/-- The bytes of a completed frame that a fetch can return. -/
def held (buffer : UartFrameBuffer) : List UInt8 :=
  if buffer.frameReady then FixedArray.front buffer.frame buffer.frameLength else []

/-! ## What the calls do to the bytes -/

/-- The loop moves the queued bytes behind those already in the frame. -/
theorem drain_eq
    (rx : UartRingBuffer)
    (frame : Vector UInt8 256)
    (frameLength : Nat)
    (fits : frameLength + rx.count ≤ 256) :
    (drain rx frame frameLength).1.count = 0 ∧
      (drain rx frame frameLength).2 =
        (FixedArray.writeAll frame frameLength rx.contents, frameLength + rx.count) := by
  fun_induction drain rx frame frameLength with
  | case1 rx frame frameLength more inductionHypothesis =>
      have popped : (rx.pop more.1).count = rx.count - 1 := rfl
      obtain ⟨empty, drained⟩ := inductionHypothesis (by omega)
      refine ⟨empty, ?_⟩
      rw [drained, RingBuffer.contents_eq_cons rx more.1, FixedArray.writeAll, popped]
      congr 1
      omega
  | case2 rx frame frameLength done =>
      have empty : rx.count = 0 := by omega
      have nothing : rx.contents = [] := List.length_eq_zero_iff.mp (by simpa using empty)
      refine ⟨empty, ?_⟩
      rw [nothing, FixedArray.writeAll, empty, Nat.add_zero]

/-- A buffer as its calls leave it: a ready frame is not empty and has no bytes
behind it. -/
structure Consistent (buffer : UartFrameBuffer) : Prop where
  fits : buffer.frameLength ≤ 256
  ready : buffer.frameReady = true → 0 < buffer.frameLength ∧ buffer.rx.count = 0

theorem construct_consistent : construct.Consistent :=
  ⟨Nat.zero_le _, fun ready => absurd ready Bool.false_ne_true⟩

theorem Consistent.length_held
    {buffer : UartFrameBuffer}
    (consistent : buffer.Consistent)
    (ready : buffer.frameReady = true) :
    buffer.held.length = buffer.frameLength := by
  rw [held, if_pos ready, FixedArray.length_front]
  exact Nat.min_eq_left consistent.fits

/-- A byte that arrives drops the frame that is held. -/
theorem receiveByte_bytes
    (buffer : UartFrameBuffer)
    (value : UInt8) :
    (buffer.receiveByte value).2.held = [] ∧
      (buffer.receiveByte value).2.rx.contents =
        buffer.rx.contents ++ (if (buffer.receiveByte value).1 then [value] else []) := by
  refine ⟨rfl, ?_⟩
  simp only [receiveByte, UartRingBuffer.tryPush]
  split
  case isTrue room => exact buffer.rx.contents_push value room
  case isFalse full => exact (List.append_nil _).symm

theorem Consistent.receiveByte
    {buffer : UartFrameBuffer}
    (consistent : buffer.Consistent)
    (value : UInt8) :
    (buffer.receiveByte value).2.Consistent :=
  ⟨consistent.fits, fun ready => absurd ready Bool.false_ne_true⟩

/-- A completed frame holds the bytes of the ring. -/
theorem completeFrame_of_queued
    (buffer : UartFrameBuffer)
    (queued : buffer.rx.count ≠ 0) :
    buffer.completeFrame.2.held = buffer.rx.contents ∧
      buffer.completeFrame.2.rx.count = 0 ∧
      buffer.completeFrame.2.frameLength = buffer.rx.count ∧
      buffer.completeFrame.2.frameReady = true := by
  have countFits := buffer.rx.countFits
  obtain ⟨empty, drained⟩ := drain_eq buffer.rx buffer.frame 0 (by omega)
  rw [Nat.zero_add] at drained
  have some : 0 < buffer.rx.count := by omega
  simp only [completeFrame, if_neg queued, drained, decide_eq_true some, held, if_true, empty,
    and_self, and_true]
  have length : buffer.rx.contents.length = buffer.rx.count := buffer.rx.length_contents
  rw [← length]
  exact FixedArray.front_writeAll buffer.frame buffer.rx.contents (by omega)

theorem completeFrame_of_empty
    (buffer : UartFrameBuffer)
    (empty : buffer.rx.count = 0) :
    buffer.completeFrame.2 = buffer := by
  rw [completeFrame, if_pos empty]

theorem Consistent.completeFrame
    {buffer : UartFrameBuffer}
    (consistent : buffer.Consistent) :
    buffer.completeFrame.2.Consistent := by
  by_cases queued : buffer.rx.count = 0
  · rwa [buffer.completeFrame_of_empty queued]
  · have countFits := buffer.rx.countFits
    obtain ⟨-, empty, length, -⟩ := buffer.completeFrame_of_queued queued
    exact ⟨by omega, fun _ => ⟨by omega, empty⟩⟩

/-- A fetch with room for a whole frame returns the bytes that are held. -/
theorem fetchFrame_bytes
    {buffer : UartFrameBuffer}
    (consistent : buffer.Consistent)
    {maxLength : Nat}
    (whole : UartRingBuffer.capacity ≤ maxLength) :
    (buffer.fetchFrame maxLength).1 = buffer.held ∧
      (buffer.fetchFrame maxLength).2.held = [] ∧
      (buffer.fetchFrame maxLength).2.rx = buffer.rx ∧
      (buffer.fetchFrame maxLength).2.Consistent := by
  rw [UartRingBuffer.capacity] at whole
  cases ready : buffer.frameReady with
  | false =>
      have nothing : buffer.fetchFrame maxLength = ([], buffer) := by
        simp [fetchFrame, ready]
      simp [nothing, held, ready, consistent]
  | true =>
      have nonzero : ¬ maxLength = 0 := by omega
      have length : (if buffer.frameLength < maxLength then buffer.frameLength
          else maxLength) = buffer.frameLength := by
        have fits := consistent.fits
        split <;> omega
      have fetched : buffer.fetchFrame maxLength =
          (FixedArray.front buffer.frame buffer.frameLength,
            { buffer with frameReady := false, frameLength := 0 }) := by
        simp [fetchFrame, ready, nonzero, length]
      rw [fetched]
      exact ⟨by rw [held, if_pos ready], rfl, rfl, Nat.zero_le _,
        fun still => absurd still Bool.false_ne_true⟩

end UartFrameBuffer

/-- A call of the frame buffer; a fetch has room for a whole frame. -/
inductive FrameBufferCall
  | receiveByte (value : UInt8)
  | completeFrame
  | fetchFrame (maxLength : Nat) (whole : UartRingBuffer.capacity ≤ maxLength)

/-- A frame buffer with what its calls have done so far. -/
structure FrameBufferRun where
  buffer : UartFrameBuffer
  /-- The bytes for which `receiveByte` returned true. -/
  accepted : List UInt8
  /-- The bytes returned by `fetchFrame`. -/
  fetched : List UInt8
  /-- The bytes that were fetched or dropped, in the order in which they left. -/
  departed : List UInt8

namespace FrameBufferRun

/-- Before the first call. -/
def start : FrameBufferRun where
  buffer := UartFrameBuffer.construct
  accepted := []
  fetched := []
  departed := []

/-- One call.  A byte that arrives drops a frame that has not been fetched. -/
def step (state : FrameBufferRun) : FrameBufferCall → FrameBufferRun
  | .receiveByte value =>
      let received := state.buffer.receiveByte value
      { buffer := received.2
        accepted := state.accepted ++ (if received.1 then [value] else [])
        fetched := state.fetched
        departed := state.departed ++ state.buffer.held }
  | .completeFrame => { state with buffer := state.buffer.completeFrame.2 }
  | .fetchFrame maxLength _ =>
      let fetch := state.buffer.fetchFrame maxLength
      { buffer := fetch.2
        accepted := state.accepted
        fetched := state.fetched ++ fetch.1
        departed := state.departed ++ fetch.1 }

/-- No accepted byte is lost: it has been fetched, is held in a frame that can be
fetched, or is in the ring. -/
def Conserves (state : FrameBufferRun) : Prop :=
  state.fetched ++ state.buffer.held ++ state.buffer.rx.contents = state.accepted

/-- Every accepted byte has left the buffer or is in it, in order. -/
def Accounts (state : FrameBufferRun) : Prop :=
  state.departed ++ state.buffer.held ++ state.buffer.rx.contents = state.accepted

/-- The call does not drop a frame. -/
def DropsNothing (state : FrameBufferRun) : FrameBufferCall → Prop
  | .receiveByte _ => state.buffer.frameReady = false
  | _ => True

/-- What every call keeps. -/
structure Sound (state : FrameBufferRun) : Prop where
  consistent : state.buffer.Consistent
  accounts : state.Accounts
  fetchedDeparted : state.fetched.Sublist state.departed

theorem start_sound : start.Sound :=
  ⟨UartFrameBuffer.construct_consistent, rfl, List.Sublist.refl []⟩

/-- Every call keeps the account of the bytes. -/
theorem Sound.step
    {state : FrameBufferRun}
    (sound : state.Sound)
    (call : FrameBufferCall) :
    (state.step call).Sound := by
  obtain ⟨consistent, accounts, fetchedDeparted⟩ := sound
  rw [Accounts] at accounts
  cases call with
  | receiveByte value =>
      obtain ⟨held, contents⟩ := state.buffer.receiveByte_bytes value
      refine ⟨consistent.receiveByte value, ?_, fetchedDeparted.trans
        (List.sublist_append_left _ _)⟩
      simp only [Accounts, FrameBufferRun.step, held, contents, List.append_nil, ← accounts,
        List.append_assoc]
  | completeFrame =>
      refine ⟨consistent.completeFrame, ?_, fetchedDeparted⟩
      by_cases queued : state.buffer.rx.count = 0
      · simpa only [Accounts, FrameBufferRun.step,
          state.buffer.completeFrame_of_empty queued] using accounts
      · -- nothing is held while bytes are queued
        have notReady : state.buffer.frameReady ≠ true := fun ready =>
          queued (consistent.ready ready).2
        have heldBefore : state.buffer.held = [] := by
          rw [UartFrameBuffer.held, if_neg notReady]
        obtain ⟨held, empty, -, -⟩ := state.buffer.completeFrame_of_queued queued
        have contents : state.buffer.completeFrame.2.rx.contents = [] :=
          List.length_eq_zero_iff.mp (by simpa using empty)
        rw [heldBefore, List.append_nil] at accounts
        simpa only [Accounts, FrameBufferRun.step, held, contents, List.append_nil]
          using accounts
  | fetchFrame maxLength whole =>
      obtain ⟨bytes, held, rx, after⟩ := UartFrameBuffer.fetchFrame_bytes consistent whole
      refine ⟨after, ?_, fetchedDeparted.append (List.Sublist.refl _)⟩
      simpa only [Accounts, FrameBufferRun.step, bytes, held, rx, List.append_nil]
        using accounts

/-- With a sound account nothing is lost exactly when all that left was
fetched. -/
theorem Sound.conserves_iff
    {state : FrameBufferRun}
    (sound : state.Sound) :
    state.Conserves ↔ state.fetched = state.departed := by
  have accounts := sound.accounts
  rw [Accounts] at accounts
  rw [Conserves, ← accounts, List.append_assoc, List.append_assoc, List.append_left_inj]

/-- A call keeps the bytes exactly when it drops nothing. -/
theorem Sound.fetched_eq_departed_iff
    {state : FrameBufferRun}
    (sound : state.Sound)
    (same : state.fetched = state.departed)
    (call : FrameBufferCall) :
    (state.step call).fetched = (state.step call).departed ↔ state.DropsNothing call := by
  cases call with
  | receiveByte value =>
      rw [FrameBufferRun.step, DropsNothing, same, List.self_eq_append_right]
      cases ready : state.buffer.frameReady with
      | false => simp [UartFrameBuffer.held, ready]
      | true =>
          have length := sound.consistent.length_held ready
          have nonempty := (sound.consistent.ready ready).1
          have held : state.buffer.held ≠ [] := by
            intro none
            rw [none, List.length_nil] at length
            omega
          simp [held]
  | completeFrame => exact iff_of_true same trivial
  | fetchFrame maxLength whole =>
      exact iff_of_true (by simp [FrameBufferRun.step, same]) trivial

/-- In every run the bytes that were fetched or dropped, those held and those in
the ring are the accepted bytes in order.  Nothing is lost exactly when no byte
arrives while a completed frame has not been fetched. -/
theorem accounts_and_conserves_iff (calls : List FrameBufferCall) :
    (∀ reached ∈ Transition.visited step start calls, reached.Accounts) ∧
      ((∀ reached ∈ Transition.visited step start calls, reached.Conserves) ↔
        Transition.AllSteps step DropsNothing start calls) := by
  have sound : ∀ reached ∈ Transition.visited step start calls, reached.Sound :=
    Transition.forall_visited_of_kept Sound (fun _ call sound => sound.step call)
      start_sound calls
  refine ⟨fun reached visited => (sound reached visited).accounts, ?_⟩
  rw [← Transition.forall_visited_iff_allSteps
    (fun state => state.Sound ∧ state.fetched = state.departed) ?_ ⟨start_sound, rfl⟩ calls]
  · refine forall_congr' fun reached => imp_congr_right fun visited => ?_
    rw [(sound reached visited).conserves_iff, and_iff_right (sound reached visited)]
  · rintro state call ⟨soundState, same⟩
    rw [and_iff_right (soundState.step call), soundState.fetched_eq_departed_iff same]

/-- The second byte arrives before the frame of the first is fetched, and the
first byte is lost. -/
theorem receiveByte_drops_frame :
    ¬ (Transition.run step start
      [.receiveByte 1, .completeFrame, .receiveByte 2]).Conserves := by
  let queued := start.step (.receiveByte 1)
  let completed := queued.step .completeFrame
  have soundQueued : queued.Sound := start_sound.step _
  have soundCompleted : completed.Sound := soundQueued.step _
  have oneByte : queued.buffer.rx.count ≠ 0 := by decide
  have ready : completed.buffer.frameReady = true :=
    (queued.buffer.completeFrame_of_queued oneByte).2.2.2
  show ¬ (completed.step (.receiveByte 2)).Conserves
  rw [(soundCompleted.step _).conserves_iff, soundCompleted.fetched_eq_departed_iff rfl,
    DropsNothing, ready]
  decide

end FrameBufferRun

end SensorFirmware
