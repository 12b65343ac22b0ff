import SensorFirmware.Drivers.Uart
import SensorFirmware.Library.StreamWindow

/-!
# The stream of received bytes

Three positions in the stream of received bytes matter: how many bytes have been
fetched, where the last latched frame ends, and how many bytes the DMA stream has
stored.  The receiver keeps each of them modulo the size of its ring.  As long as
fewer than 256 bytes are unread the positions stay in order, whoever latches the
frame head and whoever sets the ready flag, so the fetched bytes are a prefix of
the received ones.
-/

namespace SensorFirmware

open StreamWindow

/-- A receiver with the bytes that have come in and those fetched from it. -/
structure Link where
  uart : Uart
  received : List UInt8
  delivered : List UInt8

namespace Link

/-- The link after `UART_Init`. -/
def started (uart : Uart) (baud : UInt32) : Link where
  uart := uart.init baud
  received := []
  delivered := []

/-- The byte that an event brings in. -/
def arrival : UartEvent → List UInt8
  | .byte value => [value]
  | _ => []

/-- The bytes that an event fetches. -/
def fetched (uart : Uart) : UartEvent → List UInt8
  | .fetch maxLength => (uart.fetchFrame maxLength).1
  | _ => []

/-- The link after one event. -/
def step (link : Link) (event : UartEvent) : Link where
  uart := link.uart.step event
  received := link.received ++ arrival event
  delivered := link.delivered ++ fetched link.uart event

/-- Fewer than 256 received bytes are unread. -/
def FewUnread (link : Link) : Prop :=
  link.received.length < link.delivered.length + 256

instance (link : Link) : Decidable link.FewUnread :=
  inferInstanceAs (Decidable (_ < _))

/-- The positions in the stream, with the end of the last latched frame. -/
structure InOrder (link : Link) (frameEnd : Nat) : Prop where
  delivered : link.delivered = link.received.take link.delivered.length
  fetchedBefore : link.delivered.length ≤ frameEnd
  frameBefore : frameEnd ≤ link.received.length
  tail : link.uart.tail.toNat = link.delivered.length % 256
  frameHead : link.uart.rtuFrameHead.toNat = frameEnd % 256
  ndtr : link.uart.ndtr.toNat = 256 - link.received.length % 256
  window : Holds link.uart.buf link.received

theorem InOrder.dmaHead
    {link : Link}
    {frameEnd : Nat}
    (inOrder : link.InOrder frameEnd) :
    link.uart.dmaHead.toNat = link.received.length % 256 := by
  have ndtr := inOrder.ndtr
  have size : (256 : UInt16).toNat = 256 := rfl
  rw [Uart.dmaHead, UInt16.toNat_sub_of_le _ _ (by rw [UInt16.le_iff_toNat_le]; omega)]
  omega

theorem started_inOrder (uart : Uart) (baud : UInt32) :
    (started uart baud).InOrder 0 :=
  ⟨rfl, Nat.le_refl 0, Nat.le_refl 0, rfl, rfl, rfl, holds_nil _⟩

/-! ## Events that fetch nothing -/

/-- A received byte goes behind those received before. -/
theorem InOrder.receive
    {link : Link}
    {frameEnd : Nat}
    (inOrder : link.InOrder frameEnd)
    (byte : UInt8) :
    (link.step (.byte byte)).InOrder frameEnd := by
  have ndtr := inOrder.ndtr
  have fetchedBefore := inOrder.fetchedBefore
  have frameBefore := inOrder.frameBefore
  have one : (1 : UInt16).toNat = 1 := rfl
  have size : (256 : UInt16).toNat = 256 := rfl
  refine ⟨?_, ?_, ?_, ?_, inOrder.frameHead, ?_, ?_⟩
  · simp only [step, fetched, arrival, List.append_nil]
    rw [List.take_append_of_le_length (by omega)]
    exact inOrder.delivered
  · simpa [step, fetched] using fetchedBefore
  · simp only [step, arrival, List.length_append, List.length_singleton]
    omega
  · simpa [step, fetched, Uart.step, Uart.receive] using inOrder.tail
  · simp only [step, Uart.step, Uart.receive, arrival, List.length_append,
      List.length_singleton]
    split
    case isTrue last =>
        have turn := congrArg UInt16.toNat last
        omega
    case isFalse more =>
        have notLast : link.uart.ndtr.toNat ≠ 1 :=
          fun same => more (UInt16.toNat.inj same)
        rw [UInt16.toNat_sub_of_le _ _ (by rw [UInt16.le_iff_toNat_le]; omega)]
        omega
  · have slot : link.uart.dmaHead.toNat = link.received.length % 256 := inOrder.dmaHead
    simp only [step, Uart.step, Uart.receive, arrival, slot]
    exact inOrder.window.append_singleton byte (by decide)

end Link

namespace Uart

/-- Apart from its timers the receiver only latches the end of a frame. -/
structure Latches (before after : Uart) : Prop where
  buf : after.buf = before.buf
  tail : after.tail = before.tail
  ndtr : after.ndtr = before.ndtr
  frameHead : after.rtuFrameHead = before.rtuFrameHead ∨
    after.rtuFrameHead = before.dmaHead

theorem latches_rtuPoll (uart : Uart) : uart.Latches uart.rtuPoll := by
  cases state : uart.rtuState with
  | rtuIdle =>
      simp only [rtuPoll, state]
      split
      · exact ⟨rfl, rfl, rfl, Or.inl rfl⟩
      split
      · exact ⟨rfl, rfl, rfl, Or.inl rfl⟩
      · exact ⟨rfl, rfl, rfl, Or.inl rfl⟩
  | rtuReceiving =>
      simp only [rtuPoll, state]
      split
      · exact ⟨rfl, rfl, rfl, Or.inl rfl⟩
      split
      · exact ⟨rfl, rfl, rfl, Or.inr rfl⟩
      · exact ⟨rfl, rfl, rfl, Or.inl rfl⟩

theorem latches_usart1IrqHandler
    (uart : Uart)
    (rxne idle tc : Bool) :
    uart.Latches (uart.usart1IrqHandler rxne idle tc) := by
  cases rxne <;> cases idle <;> cases tc <;> constructor <;>
    simp [usart1IrqHandler, dmaHead]

/-- The frame timer sets the ready flag but latches nothing. -/
theorem latches_onSysTickInterrupt (uart : Uart) :
    uart.Latches uart.onSysTickInterrupt := by
  simp only [onSysTickInterrupt]
  split
  case isTrue running =>
      split
      case isTrue expires => split <;> constructor <;> simp only [true_or]
      case isFalse silent => split <;> constructor <;> simp only [true_or]
  case isFalse stopped => split <;> constructor <;> simp only [true_or]

end Uart

namespace Link

/-- An event that only latches keeps the positions in order. -/
theorem InOrder.latch
    {link : Link}
    {frameEnd : Nat}
    (inOrder : link.InOrder frameEnd)
    {after : Uart}
    (latches : link.uart.Latches after) :
    ∃ frameEnd', Link.InOrder { link with uart := after } frameEnd' := by
  have fetchedBefore := inOrder.fetchedBefore
  have frameBefore := inOrder.frameBefore
  have tail : after.tail.toNat = link.delivered.length % 256 := by
    rw [latches.tail, inOrder.tail]
  have ndtr : after.ndtr.toNat = 256 - link.received.length % 256 := by
    rw [latches.ndtr, inOrder.ndtr]
  have window : Holds after.buf link.received := by
    rw [latches.buf]
    exact inOrder.window
  obtain kept | latched := latches.frameHead
  · exact ⟨frameEnd, inOrder.delivered, fetchedBefore, frameBefore, tail,
      by rw [kept, inOrder.frameHead], ndtr, window⟩
  · exact ⟨link.received.length, inOrder.delivered,
      Nat.le_trans fetchedBefore frameBefore, Nat.le_refl _, tail,
      by rw [latched, inOrder.dmaHead], ndtr, window⟩

/-! ## Fetching -/

/-- The copy loop takes the bytes from the tail on. -/
theorem copyLoop_eq
    (buf : Vector UInt8 256)
    {start : Nat}
    {tail : UInt16}
    (tailSlot : tail.toNat = start % 256)
    (count : Nat) :
    let copied := countedLoop (fun _ => Uart.copyByte buf) count ([], tail)
    copied.1 = (List.range count).map
        (fun offset => FixedArray.read buf ((start + offset) % 256)) ∧
      copied.2.toNat = (start + count) % 256 := by
  induction count with
  | zero => exact ⟨rfl, tailSlot⟩
  | succ count inductionHypothesis =>
      obtain ⟨bytes, next⟩ := inductionHypothesis
      have size : (256 : UInt16).toNat = 256 := rfl
      have one : (1 : UInt16).toNat = 1 := rfl
      simp only [countedLoop_succ, Uart.copyByte]
      constructor
      · rw [bytes, next, List.range_succ, List.map_append, List.map_singleton]
      · generalize (countedLoop (fun _ => Uart.copyByte buf) count ([], tail)).2 = last
          at next ⊢
        have advanced : (last + 1).toNat = (start + count) % 256 + 1 := by
          rw [UInt16.toNat_add, next, one]
          omega
        split
        case isTrue wraps =>
          rw [UInt16.le_iff_toNat_le, advanced] at wraps
          show 0 = _
          omega
        case isFalse stays =>
          rw [UInt16.le_iff_toNat_le, advanced] at stays
          rw [advanced]
          omega

/-- The distance from the tail slot to the head slot is that in the stream. -/
theorem InOrder.frameLength
    {link : Link}
    {frameEnd : Nat}
    (inOrder : link.InOrder frameEnd)
    (few : link.FewUnread) :
    link.uart.frameLength.toNat = frameEnd - link.delivered.length := by
  have fetchedBefore := inOrder.fetchedBefore
  have frameBefore := inOrder.frameBefore
  have tailSlot := inOrder.tail
  have headSlot := inOrder.frameHead
  have size : (256 : UInt16).toNat = 256 := rfl
  rw [FewUnread] at few
  simp only [Uart.frameLength]
  split
  case isTrue ordered =>
      have distance := UInt16.le_iff_toNat_le.mp ordered
      rw [UInt16.toNat_sub_of_le _ _ ordered]
      omega
  case isFalse wrapped =>
      rw [UInt16.le_iff_toNat_le] at wrapped
      rw [UInt16.toNat_add, UInt16.toNat_sub_of_le _ _ (by rw [UInt16.le_iff_toNat_le]; omega)]
      omega

/-- The bytes of a frame are the next unread bytes of the stream. -/
theorem InOrder.getFrame
    {link : Link}
    {frameEnd : Nat}
    (inOrder : link.InOrder frameEnd)
    (few : link.FewUnread)
    (maxLen : UInt16) :
    ∃ count tail, link.delivered.length + count ≤ frameEnd ∧
      tail.toNat = (link.delivered.length + count) % 256 ∧
      link.uart.getFrame maxLen =
        ((link.received.drop link.delivered.length).take count,
          { link.uart with tail := tail }) := by
  have fetchedBefore := inOrder.fetchedBefore
  have frameBefore := inOrder.frameBefore
  have length := inOrder.frameLength few
  rw [FewUnread] at few
  simp only [Uart.getFrame]
  generalize link.uart.frameLength = len at length ⊢
  split
  case isTrue empty => exact ⟨0, link.uart.tail, fetchedBefore, inOrder.tail, by simp⟩
  case isFalse some =>
      generalize bounded : (if maxLen < len then maxLen else len) = count
      have within : count.toNat ≤ len.toNat := by
        rw [← bounded]
        split
        case isTrue more => exact (UInt16.lt_iff_toNat_lt.mp more).le
        case isFalse all => exact Nat.le_refl _
      obtain ⟨bytes, next⟩ := copyLoop_eq link.uart.buf inOrder.tail count.toNat
      refine ⟨count.toNat, _, by omega, next, ?_⟩
      rw [bytes, inOrder.window.map_read (by omega) (by omega)]

/-- A fetch delivers the next unread bytes. -/
theorem InOrder.fetch
    {link : Link}
    {frameEnd : Nat}
    (inOrder : link.InOrder frameEnd)
    (few : link.FewUnread)
    (maxLength : UInt32) :
    (link.step (.fetch maxLength)).InOrder frameEnd := by
  have fetchedBefore := inOrder.fetchedBefore
  have frameBefore := inOrder.frameBefore
  -- a fetch that returns early leaves the receiver alone
  have refused (early : link.uart.fetchFrame maxLength = ([], link.uart)) :
      (link.step (.fetch maxLength)).InOrder frameEnd := by
    have unchanged : link.step (.fetch maxLength) = link := by
      simp only [step, arrival, fetched, Uart.step, early, List.append_nil]
    rwa [unchanged]
  by_cases none : maxLength = 0
  · exact refused (by rw [Uart.fetchFrame, if_pos none])
  by_cases notReady : link.uart.rtuFrameReady = 0
  · exact refused (by simp only [Uart.fetchFrame, if_neg none, if_pos notReady])
  obtain ⟨count, tail, within, slot, frame⟩ := inOrder.getFrame few
    (if 256 < maxLength then 256 else maxLength).toUInt16
  have delivered : (link.step (.fetch maxLength)).delivered =
      link.received.take (link.delivered.length + count) := by
    simp only [step, fetched, Uart.fetchFrame, if_neg none, if_neg notReady, frame]
    rw [List.take_add, ← inOrder.delivered]
  have count' : (link.step (.fetch maxLength)).delivered.length =
      link.delivered.length + count := by
    rw [delivered, List.length_take]
    omega
  have uart : (link.step (.fetch maxLength)).uart =
      { link.uart with tail := tail, rtuFrameReady := 0 } := by
    simp only [step, Uart.step, Uart.fetchFrame, if_neg none, if_neg notReady, frame]
  have received : (link.step (.fetch maxLength)).received = link.received := by
    simp only [step, arrival, List.append_nil]
  constructor
  · rw [count', received, delivered]
  · rw [count']
    exact within
  · rwa [received]
  · rw [uart, count', slot]
  · rw [uart]
    exact inOrder.frameHead
  · rw [uart, received]
    exact inOrder.ndtr
  · rw [uart, received]
    exact inOrder.window

/-- Every event keeps the positions in order. -/
theorem InOrder.step
    {link : Link}
    {frameEnd : Nat}
    (inOrder : link.InOrder frameEnd)
    (few : link.FewUnread)
    (event : UartEvent) :
    ∃ frameEnd', (link.step event).InOrder frameEnd' := by
  cases event with
  | byte value => exact ⟨frameEnd, inOrder.receive value⟩
  | fetch maxLength => exact ⟨frameEnd, inOrder.fetch few maxLength⟩
  | poll =>
      simpa [Link.step, arrival, fetched, Uart.step] using
        inOrder.latch (Uart.latches_rtuPoll link.uart)
  | usart1 rxne idle tc =>
      simpa [Link.step, arrival, fetched, Uart.step] using
        inOrder.latch (Uart.latches_usart1IrqHandler link.uart rxne idle tc)
  | sysTick =>
      simpa [Link.step, arrival, fetched, Uart.step] using
        inOrder.latch (Uart.latches_onSysTickInterrupt link.uart)

/-- In every run after the initialization in which fewer than 256 bytes are ever
unread, the fetched bytes are at all times a prefix of the received ones. -/
theorem delivered_isPrefix
    (uart : Uart)
    (baud : UInt32)
    (events : List UartEvent)
    (few : ∀ reached ∈ Transition.visited Link.step (started uart baud) events,
      reached.FewUnread) :
    ∀ reached ∈ Transition.visited Link.step (started uart baud) events,
      reached.delivered <+: reached.received := by
  have initially : ∃ frameEnd, (started uart baud).InOrder frameEnd :=
    ⟨0, started_inOrder uart baud⟩
  have fewInitially : (started uart baud).FewUnread := by
    show 0 < 0 + 256
    omega
  generalize started uart baud = link at few initially fewInitially
  induction events generalizing link with
  | nil => simp [Transition.visited]
  | cons event events inductionHypothesis =>
      obtain ⟨frameEnd, inOrder⟩ := initially
      obtain ⟨frameEnd', next⟩ := inOrder.step fewInitially event
      rw [Transition.visited, List.forall_mem_cons] at few ⊢
      refine ⟨?_, inductionHypothesis _ few.2 ⟨frameEnd', next⟩ few.1⟩
      rw [next.delivered]
      exact List.take_prefix _ _

/-- Two bytes, the silence after them and a fetch. -/
def twoByteFrame : List UartEvent :=
  [.byte 1, .byte 2, .usart1 false true false] ++ List.replicate 18 .sysTick ++ [.fetch 256]

/-- The fetch after the silence delivers the two bytes. -/
theorem delivered_twoByteFrame :
    let start := started Uart.powerOn 38400
    (∀ reached ∈ Transition.visited Link.step start twoByteFrame, reached.FewUnread) ∧
      (∀ reached ∈ Transition.visited Link.step start twoByteFrame,
        reached.delivered <+: reached.received) ∧
      (Transition.run Link.step start twoByteFrame).delivered = [1, 2] := by
  have few : ∀ reached ∈ Transition.visited Link.step (started Uart.powerOn 38400)
      twoByteFrame, reached.FewUnread := by
    decide +kernel
  exact ⟨few, delivered_isPrefix Uart.powerOn 38400 twoByteFrame few, by decide +kernel⟩

end Link

end SensorFirmware
