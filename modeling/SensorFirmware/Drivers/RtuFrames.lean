import SensorFirmware.Drivers.SilencePoll
import SensorFirmware.Drivers.UartStream

/-!
# Frames on the line

The master sends frames, and between two of them it waits until the device has fetched the
first.  Two mechanisms look for the end of a frame, the IDLE interrupt with the frame timer
and the poll of the DMA head, and both set the same flag.  As long as the bytes of a frame
follow each other closely, the device fetches exactly the frames that were sent, one by one.
-/

namespace SensorFirmware

open WrappingClock (reading reading_add passed_iff)

/-- What happens on the line and in the receiver.  A byte may be the last one of its
frame, and a fetch is the one of `ModbusService::process`. -/
inductive RtuEvent
  | byte (value : UInt8) (last : Bool)
  | usart1 (rxne idle tc : Bool)
  | sysTick
  | poll
  | fetch
  deriving DecidableEq

/-- The event for the receiver. -/
def RtuEvent.uartEvent : RtuEvent → UartEvent
  | .byte value _ => .byte value
  | .usart1 rxne idle tc => .usart1 rxne idle tc
  | .sysTick => .sysTick
  | .poll => .poll
  | .fetch => .fetch 256

/-- The receiver with the frames on the line. -/
structure RtuLine where
  link : Link
  /-- The bytes so far of the frame that is being sent. -/
  begun : List UInt8
  /-- The ticks since the last byte. -/
  gap : Nat
  /-- A poll came behind the last byte. -/
  polled : Bool
  /-- The frames that were sent. -/
  sent : List (List UInt8)
  /-- The frames that were fetched. -/
  fetched : List (List UInt8)

namespace RtuLine

/-- The line after `UART_Init`. -/
def started (uart : Uart) (baud : UInt32) : RtuLine where
  link := Link.started uart baud
  begun := []
  gap := 0
  polled := false
  sent := []
  fetched := []

/-- The bytes that a fetch would deliver. -/
def fetches (line : RtuLine) : List UInt8 := (line.link.uart.fetchFrame 256).1

/-- The line after one event. -/
def step (line : RtuLine) (event : RtuEvent) : RtuLine :=
  let line' := { line with link := line.link.step event.uartEvent }
  match event with
  | .byte value last =>
      { line' with
        begun := if last then [] else line.begun ++ [value]
        gap := 0
        polled := false
        sent := if last then line.sent ++ [line.begun ++ [value]] else line.sent }
  | .usart1 _ _ _ => line'
  | .sysTick => { line' with gap := line.gap + 1 }
  | .poll => { line' with polled := true }
  | .fetch =>
      { line' with
        fetched := if line.fetches = [] then line.fetched
          else line.fetched ++ [line.fetches] }

/-- The timing of the line.  A frame has 255 bytes at most and begins when the one before it
is fetched.  Between two of its bytes there are at most 20 ticks and no IDLE interrupt.  The
poll before a fetch comes behind the last byte of a frame that waits. -/
def KeepsTiming (line : RtuLine) : RtuEvent → Prop
  | .byte _ _ => (line.begun = [] → line.fetched = line.sent) ∧ line.begun.length < 255
  | .usart1 _ idle _ => idle = true → line.begun = []
  | .sysTick => line.begun ≠ [] → line.gap < 20
  | .poll => True
  | .fetch => line.begun = [] → line.polled = true

instance (line : RtuLine) (event : RtuEvent) : Decidable (line.KeepsTiming event) := by
  cases event <;> unfold KeepsTiming <;> infer_instance

/-- The bytes that were received but not fetched. -/
def unread (line : RtuLine) : List UInt8 :=
  line.link.received.drop line.link.delivered.length

/-- The ticks since the last byte do not reach the deadline of a poll behind it. -/
def BeforeDeadline (line : RtuLine) : Prop :=
  ∃ since elapsed, line.link.uart.rtuDeadline = reading (since + 3) ∧
    line.link.uart.msTicks = reading (since + elapsed) ∧
    10 * elapsed + line.link.uart.msDivider.toNat ≤ 9 + line.gap

/-- The last poll saw the head at a position of the stream. -/
structure SeenAt (line : RtuLine) (position : Nat) : Prop where
  notFetched : line.link.delivered.length ≤ position
  received : position ≤ line.link.received.length
  lastHead : line.link.uart.rtuLastHead.toNat = position % 256
  polled : line.polled = true → position = line.link.received.length
  early : line.begun ≠ [] → position = line.link.received.length → line.BeforeDeadline

/-- What is unread is the frame that is being sent or one that waits, and only the end of
a complete frame is latched. -/
structure Framed (line : RtuLine) : Prop where
  inOrder : ∃ frameEnd, line.link.InOrder frameEnd ∧
    (frameEnd = line.link.delivered.length ∨
      line.begun = [] ∧ frameEnd = line.link.received.length)
  accounts : line.sent = line.fetched ∧ line.unread = line.begun ∨
    ∃ frame, frame ≠ [] ∧ line.sent = line.fetched ++ [frame] ∧ line.begun = [] ∧
      line.unread = frame
  short : line.unread.length ≤ 255
  seen : line.link.uart.rtuState = .rtuReceiving → ∃ position, line.SeenAt position
  divider : line.link.uart.msDivider.toNat ≤ 9
  close : line.begun ≠ [] → line.gap ≤ 20

theorem started_framed
    (uart : Uart)
    (baud : UInt32)
    (divider : uart.msDivider.toNat ≤ 9) :
    (started uart baud).Framed where
  inOrder := ⟨0, Link.started_inOrder uart baud, .inl rfl⟩
  accounts := .inl ⟨rfl, rfl⟩
  short := Nat.zero_le 255
  seen receiving := by cases receiving
  divider := divider
  close sending := absurd rfl sending

section

variable {line : RtuLine} (framed : line.Framed)

include framed

theorem Framed.length_received :
    line.link.received.length = line.link.delivered.length + line.unread.length := by
  obtain ⟨frameEnd, inOrder, -⟩ := framed.inOrder
  have before := Nat.le_trans inOrder.fetchedBefore inOrder.frameBefore
  rw [unread, List.length_drop]
  omega

theorem Framed.fewUnread : line.link.FewUnread := by
  have length := framed.length_received
  have short := framed.short
  rw [Link.FewUnread]
  omega

/-- A head that the last poll saw is the one of the last byte. -/
theorem SeenAt.eq_of_head
    {position : Nat}
    (seenAt : line.SeenAt position)
    (still : line.link.uart.dmaHead = line.link.uart.rtuLastHead) :
    position = line.link.received.length := by
  obtain ⟨frameEnd, inOrder, -⟩ := framed.inOrder
  have length := framed.length_received
  have short := framed.short
  have lower := seenAt.notFetched
  have upper := seenAt.received
  have slot : line.link.received.length % 256 = position % 256 := by
    rw [← inOrder.dmaHead, still, seenAt.lastHead]
  omega

/-- A frame begins when everything is fetched, so the bytes that are unread are its own. -/
theorem Framed.unread_of_begin
    (begins : line.begun = [] → line.fetched = line.sent) :
    line.sent = line.fetched ∧ line.unread = line.begun := by
  rcases framed.accounts with done | ⟨frame, -, waits, idle, -⟩
  · exact done
  · have nothing := (begins idle).trans waits
    exact absurd nothing.symm (by simp)

end

/-! ## Bytes -/

theorem length_byte
    (line : RtuLine)
    (value : UInt8)
    (last : Bool) :
    (line.step (.byte value last)).link.received.length = line.link.received.length + 1 ∧
      (line.step (.byte value last)).link.delivered.length =
        line.link.delivered.length := by
  constructor
  · simp [step, Link.step, Link.arrival, RtuEvent.uartEvent]
  · simp [step, Link.step, Link.fetched, RtuEvent.uartEvent]

theorem unread_byte
    {line : RtuLine}
    (framed : line.Framed)
    (value : UInt8)
    (last : Bool) :
    (line.step (.byte value last)).unread = line.unread ++ [value] := by
  have before := framed.length_received
  have received : (line.step (.byte value last)).link.received =
      line.link.received ++ [value] := rfl
  have delivered : (line.step (.byte value last)).link.delivered =
      line.link.delivered ++ [] := rfl
  rw [unread, unread, received, delivered, List.append_nil,
    List.drop_append_of_le_length (by omega)]

theorem Framed.byte
    {line : RtuLine}
    (framed : line.Framed)
    {value : UInt8}
    {last : Bool}
    (timing : line.KeepsTiming (.byte value last)) :
    (line.step (.byte value last)).Framed := by
  obtain ⟨begins, few⟩ := timing
  obtain ⟨allFetched, own⟩ := framed.unread_of_begin begins
  have length := framed.length_received
  have unread := unread_byte framed value last
  obtain ⟨received, delivered⟩ := line.length_byte value last
  rw [own] at unread length
  constructor
  · obtain ⟨frameEnd, inOrder, ends⟩ := framed.inOrder
    have same : frameEnd = line.link.delivered.length := by
      rcases ends with same | ⟨idle, all⟩
      · exact same
      · rw [all, length, idle]
        rfl
    exact ⟨frameEnd, inOrder.receive value, .inl (same.trans delivered.symm)⟩
  · cases last with
    | true =>
        refine .inr ⟨line.begun ++ [value], by simp, ?_, rfl, unread⟩
        simp only [step, if_true, allFetched]
    | false => exact .inl ⟨allFetched, unread⟩
  · rw [unread, List.length_append, List.length_singleton]
    omega
  · intro receiving
    obtain ⟨position, seenAt⟩ := framed.seen receiving
    have upper := seenAt.received
    refine ⟨position, ?_, ?_, seenAt.lastHead, ?_, ?_⟩
    · rw [delivered]
      exact seenAt.notFetched
    · omega
    · intro polled
      cases polled
    · intro _ last
      omega
  · exact framed.divider
  · exact fun _ => Nat.zero_le 20

/-! ## Interrupts -/

end RtuLine

/-- Latching another position of the stream keeps the positions in order. -/
theorem Link.InOrder.relatch
    {link : Link}
    {frameEnd : Nat}
    (inOrder : link.InOrder frameEnd)
    {after : Uart}
    (latches : link.uart.Latches after)
    {frameEnd' : Nat}
    (lower : link.delivered.length ≤ frameEnd')
    (upper : frameEnd' ≤ link.received.length)
    (frameHead : after.rtuFrameHead.toNat = frameEnd' % 256) :
    Link.InOrder { link with uart := after } frameEnd' where
  delivered := inOrder.delivered
  fetchedBefore := lower
  frameBefore := upper
  tail := by rw [latches.tail, inOrder.tail]
  frameHead := frameHead
  ndtr := by rw [latches.ndtr, inOrder.ndtr]
  window := by
    rw [latches.buf]
    exact inOrder.window

namespace RtuLine

/-- An event that fetches nothing keeps what is latched, or it latches the end of a complete
frame. -/
theorem Framed.latch
    {line : RtuLine}
    (framed : line.Framed)
    {after : Uart}
    (latches : line.link.uart.Latches after)
    (complete : after.rtuFrameHead = line.link.uart.rtuFrameHead ∨
      line.begun = [] ∧ after.rtuFrameHead = line.link.uart.dmaHead) :
    ∃ frameEnd, Link.InOrder { line.link with uart := after } frameEnd ∧
      (frameEnd = line.link.delivered.length ∨
        line.begun = [] ∧ frameEnd = line.link.received.length) := by
  obtain ⟨frameEnd, inOrder, ends⟩ := framed.inOrder
  rcases complete with kept | ⟨idle, latched⟩
  · refine ⟨frameEnd,
      inOrder.relatch latches inOrder.fetchedBefore inOrder.frameBefore ?_, ends⟩
    rw [kept, inOrder.frameHead]
  · have before := Nat.le_trans inOrder.fetchedBefore inOrder.frameBefore
    refine ⟨_, inOrder.relatch latches before (Nat.le_refl _) ?_, .inr ⟨idle, rfl⟩⟩
    rw [latched, inOrder.dmaHead]

/-- So it keeps the frames, if it accounts for its poll. -/
theorem Framed.of_latch
    {line line' : RtuLine}
    (framed : line.Framed)
    {after : Uart}
    (latches : line.link.uart.Latches after)
    (complete : after.rtuFrameHead = line.link.uart.rtuFrameHead ∨
      line.begun = [] ∧ after.rtuFrameHead = line.link.uart.dmaHead)
    (link : line'.link = { line.link with uart := after })
    (begun : line'.begun = line.begun)
    (sent : line'.sent = line.sent)
    (fetched : line'.fetched = line.fetched)
    (seen : after.rtuState = .rtuReceiving → ∃ position, line'.SeenAt position)
    (divider : after.msDivider.toNat ≤ 9)
    (close : line'.begun ≠ [] → line'.gap ≤ 20) :
    line'.Framed := by
  have unread : line'.unread = line.unread := by
    rw [RtuLine.unread, RtuLine.unread, link]
  refine ⟨?_, ?_, ?_, ?_, ?_, close⟩
  · rw [link, begun]
    exact framed.latch latches complete
  · rw [sent, fetched, begun, unread]
    exact framed.accounts
  · rw [unread]
    exact framed.short
  · rw [link]
    exact seen
  · rw [link]
    exact divider

theorem step_link
    (line : RtuLine)
    (event : RtuEvent) :
    (line.step event).link = line.link.step event.uartEvent := by
  cases event <;> rfl

/-- An event without a byte and without a fetch only changes the receiver. -/
theorem link_step_of_silent
    (link : Link)
    {event : UartEvent}
    (arrives : Link.arrival event = [])
    (delivers : Link.fetched link.uart event = []) :
    link.step event = { link with uart := link.uart.step event } := by
  rw [Link.step, arrives, delivers, List.append_nil, List.append_nil]

theorem Framed.usart1
    {line : RtuLine}
    (framed : line.Framed)
    {rxne idle tc : Bool}
    (timing : line.KeepsTiming (.usart1 rxne idle tc)) :
    (line.step (.usart1 rxne idle tc)).Framed := by
  have link : (line.step (.usart1 rxne idle tc)).link =
      { line.link with uart := line.link.uart.usart1IrqHandler rxne idle tc } :=
    link_step_of_silent line.link rfl rfl
  obtain ⟨⟨state, lastHead, deadline⟩, ticks⟩ :=
    line.link.uart.usart1IrqHandler_keeps rxne idle tc
  have divider : (line.link.uart.usart1IrqHandler rxne idle tc).msDivider =
      line.link.uart.msDivider := by
    cases rxne <;> cases idle <;> cases tc <;> rfl
  refine framed.of_latch (Uart.latches_usart1IrqHandler _ _ _ _) ?_ link rfl rfl rfl ?_ ?_
    framed.close
  · cases idle with
    | true =>
        refine .inr ⟨timing rfl, ?_⟩
        cases rxne <;> cases tc <;> rfl
    | false =>
        left
        cases rxne <;> cases tc <;> rfl
  · rw [state]
    intro receiving
    obtain ⟨position, seenAt⟩ := framed.seen receiving
    refine ⟨position, ?_, ?_, ?_, ?_, ?_⟩
    · rw [link]
      exact seenAt.notFetched
    · rw [link]
      exact seenAt.received
    · rw [link, lastHead]
      exact seenAt.lastHead
    · rw [link]
      exact seenAt.polled
    · rw [BeforeDeadline, link, deadline, ticks, divider]
      exact seenAt.early
  · rw [divider]
    exact framed.divider

end RtuLine

/-- A tick counts the divider up or adds a millisecond. -/
theorem Uart.onSysTickInterrupt_divider
    (uart : Uart)
    (divider : uart.msDivider.toNat ≤ 9) :
    let after := uart.onSysTickInterrupt
    ∃ advance, after.msTicks = uart.msTicks + UInt32.ofNat advance ∧
      10 * advance + after.msDivider.toNat = uart.msDivider.toNat + 1 ∧
      after.msDivider.toNat ≤ 9 := by
  have timer : uart.onSysTickInterrupt.msTicks =
        (if 10 ≤ uart.msDivider + 1 then uart.msTicks + 1 else uart.msTicks) ∧
      uart.onSysTickInterrupt.msDivider =
        if 10 ≤ uart.msDivider + 1 then 0 else uart.msDivider + 1 := by
    unfold onSysTickInterrupt
    split
    · simp only
      split <;> (split <;> exact ⟨rfl, rfl⟩)
    · simp only
      split <;> exact ⟨rfl, rfl⟩
  have next : (uart.msDivider + 1).toNat = uart.msDivider.toNat + 1 := by
    have one : (1 : UInt8).toNat = 1 := rfl
    rw [UInt8.toNat_add, one]
    omega
  have ten : (10 : UInt8).toNat = 10 := rfl
  intro after
  rw [timer.1, timer.2]
  split
  case isTrue full =>
    have zero : (0 : UInt8).toNat = 0 := rfl
    rw [UInt8.le_iff_toNat_le, next, ten] at full
    exact ⟨1, rfl, by omega, by omega⟩
  case isFalse more =>
    rw [UInt8.le_iff_toNat_le, next, ten] at more
    exact ⟨0, (UInt32.add_zero _).symm, by omega, by omega⟩

namespace RtuLine

theorem Framed.sysTick
    {line : RtuLine}
    (framed : line.Framed)
    (timing : line.KeepsTiming .sysTick) :
    (line.step .sysTick).Framed := by
  have link : (line.step .sysTick).link =
      { line.link with uart := line.link.uart.onSysTickInterrupt } :=
    link_step_of_silent line.link rfl rfl
  obtain ⟨⟨state, lastHead, deadline⟩, -⟩ := line.link.uart.step_of_ne_poll
    (show UartEvent.sysTick ≠ .poll by simp)
  obtain ⟨advance, ticks, divided, divider⟩ :=
    line.link.uart.onSysTickInterrupt_divider framed.divider
  have frameHead : line.link.uart.onSysTickInterrupt.rtuFrameHead =
      line.link.uart.rtuFrameHead := by
    unfold Uart.onSysTickInterrupt
    split
    · simp only
      split <;> (split <;> rfl)
    · simp only
      split <;> rfl
  simp only [Uart.step] at state lastHead deadline
  refine framed.of_latch (Uart.latches_onSysTickInterrupt _) (.inl frameHead) link rfl rfl rfl
    ?_ divider timing
  rw [state]
  intro receiving
  obtain ⟨position, seenAt⟩ := framed.seen receiving
  refine ⟨position, ?_, ?_, ?_, ?_, ?_⟩
  · rw [link]
    exact seenAt.notFetched
  · rw [link]
    exact seenAt.received
  · rw [link, lastHead]
    exact seenAt.lastHead
  · rw [link]
    exact seenAt.polled
  · rw [link]
    intro sending last
    obtain ⟨since, elapsed, deadlineAt, time, counted⟩ := seenAt.early sending last
    have gap : (line.step .sysTick).gap = line.gap + 1 := rfl
    rw [BeforeDeadline, link, gap]
    refine ⟨since, elapsed + advance, deadline.trans deadlineAt, ?_, ?_⟩
    · rw [ticks, time, reading_add, Nat.add_assoc]
    · show 10 * (elapsed + advance) + line.link.uart.onSysTickInterrupt.msDivider.toNat ≤ _
      omega

/-! ## Polls -/

/-- The deadline of a head that was seen in the frame that is being sent has not passed. -/
theorem BeforeDeadline.notPassed
    {line : RtuLine}
    (before : line.BeforeDeadline)
    (gap : line.gap ≤ 20) :
    ¬ 0 ≤ (line.link.uart.msTicks - line.link.uart.rtuDeadline).toInt32 := by
  obtain ⟨since, elapsed, deadline, time, counted⟩ := before
  rw [deadline, time, passed_iff (by omega) (by omega)]
  omega

end RtuLine

/-- The ways in which a poll goes. -/
inductive Uart.PollCase (uart : Uart) : Uart → Prop
  /-- No frame is begun while one is ready, or when nothing is unread. -/
  | idles (idle : uart.rtuState = .rtuIdle)
      (nothing : uart.rtuFrameReady ≠ 0 ∨ uart.dmaHead = uart.tail) : PollCase uart uart
  | sees (moved : uart.rtuState = .rtuIdle ∧ uart.rtuFrameReady = 0 ∨
        uart.rtuState = .rtuReceiving ∧ uart.dmaHead ≠ uart.rtuLastHead) :
      PollCase uart
        { uart with
          rtuState := .rtuReceiving
          rtuLastHead := uart.dmaHead
          rtuDeadline := uart.msTicks + 3 }
  | waits (receiving : uart.rtuState = .rtuReceiving)
      (still : uart.dmaHead = uart.rtuLastHead)
      (early : ¬ 0 ≤ (uart.msTicks - uart.rtuDeadline).toInt32) : PollCase uart uart
  | completes (rested : uart.Rested) :
      PollCase uart
        { uart with
          rtuFrameHead := uart.dmaHead
          rtuFrameReady := 1
          rtuState := .rtuIdle }

theorem Uart.rtuPoll_cases (uart : Uart) : uart.PollCase uart.rtuPoll := by
  cases state : uart.rtuState with
  | rtuIdle =>
      simp only [rtuPoll, state]
      split
      case isTrue ready => exact .idles state (.inl ready)
      case isFalse free =>
        split
        case isTrue unread => exact .sees (.inl ⟨state, not_not.mp free⟩)
        case isFalse nothing => exact .idles state (.inr (not_not.mp nothing))
  | rtuReceiving =>
      simp only [rtuPoll, state]
      split
      case isTrue moved => exact .sees (.inr ⟨state, moved⟩)
      case isFalse still =>
        split
        case isTrue passed => exact .completes ⟨state, not_not.mp still, passed⟩
        case isFalse early => exact .waits state (not_not.mp still) early

namespace RtuLine

theorem Framed.poll
    {line : RtuLine}
    (framed : line.Framed) :
    (line.step .poll).Framed := by
  have link : (line.step .poll).link = { line.link with uart := line.link.uart.rtuPoll } :=
    link_step_of_silent line.link rfl rfl
  have latches := line.link.uart.latches_rtuPoll
  have polled := line.link.uart.rtuPoll_cases
  generalize line.link.uart.rtuPoll = after at link latches polled
  obtain ⟨frameEnd, inOrder, -⟩ := framed.inOrder
  have fetched := Nat.le_trans inOrder.fetchedBefore inOrder.frameBefore
  cases polled with
  | idles idle =>
      refine framed.of_latch latches (.inl rfl) link rfl rfl rfl ?_ framed.divider framed.close
      intro receiving
      cases idle.symm.trans receiving
  | sees =>
      refine framed.of_latch latches (.inl rfl) link rfl rfl rfl ?_ framed.divider framed.close
      intro _
      refine ⟨line.link.received.length, ?_, ?_, ?_, ?_, ?_⟩
      · rw [link]
        exact fetched
      · rw [link]
      · rw [link]
        exact inOrder.dmaHead
      · rw [link]
        exact fun _ => rfl
      · intro _ _
        rw [BeforeDeadline, link]
        refine ⟨line.link.uart.msTicks.toNat, 0, ?_, ?_, ?_⟩
        · rw [← reading_add, reading, UInt32.ofNat_toNat]
          rfl
        · rw [Nat.add_zero, reading, UInt32.ofNat_toNat]
        · have divider := framed.divider
          dsimp only
          omega
  | waits receiving still =>
      refine framed.of_latch latches (.inl rfl) link rfl rfl rfl ?_ framed.divider framed.close
      intro _
      obtain ⟨position, seenAt⟩ := framed.seen receiving
      have last := seenAt.eq_of_head framed still
      refine ⟨position, ?_, ?_, ?_, ?_, ?_⟩
      · rw [link]
        exact seenAt.notFetched
      · rw [link]
        exact seenAt.received
      · rw [link]
        exact seenAt.lastHead
      · rw [link]
        exact fun _ => last
      · rw [BeforeDeadline, link]
        exact seenAt.early
  | completes rested =>
      have complete : line.begun = [] := by
        by_contra sending
        obtain ⟨position, seenAt⟩ := framed.seen rested.1
        have last := seenAt.eq_of_head framed rested.2.1
        exact (seenAt.early sending last).notPassed (framed.close sending) rested.2.2
      refine framed.of_latch latches (.inr ⟨complete, rfl⟩) link rfl rfl rfl ?_ framed.divider
        framed.close
      intro receiving
      cases receiving

/-! ## Fetches -/

end RtuLine

/-- A fetch delivers what is unread up to the end of the latched frame. -/
theorem Link.InOrder.fetchFrame_eq
    {link : Link}
    {frameEnd : Nat}
    (inOrder : link.InOrder frameEnd)
    (few : link.FewUnread) :
    (link.uart.fetchFrame 256).1 =
      if link.uart.rtuFrameReady = 0 then []
      else (link.received.drop link.delivered.length).take
        (frameEnd - link.delivered.length) := by
  have lower := inOrder.fetchedBefore
  have upper := inOrder.frameBefore
  have length := inOrder.frameLength few
  have limit : (if (256 : UInt32) < 256 then 256 else (256 : UInt32)).toUInt16 = 256 := rfl
  have size : (256 : UInt16).toNat = 256 := rfl
  rw [FewUnread] at few
  rw [Uart.fetchFrame, if_neg (by decide)]
  dsimp only
  split
  · rfl
  rw [limit, Uart.getFrame]
  generalize link.uart.frameLength = len at length ⊢
  dsimp only
  split
  case isTrue empty =>
    rw [empty] at length
    have nothing : frameEnd - link.delivered.length = 0 := length.symm
    rw [nothing, List.take_zero]
  case isFalse some =>
    have fits : ¬ 256 < len := by
      rw [UInt16.lt_iff_toNat_lt]
      omega
    rw [if_neg fits, length, (copyLoop_eq link.uart.buf inOrder.tail _).1,
      inOrder.window.map_read (by omega) (by omega)]

namespace RtuLine

/-- What is fetched is nothing or the frame that waits. -/
theorem Framed.fetches_eq
    {line : RtuLine}
    (framed : line.Framed) :
    line.fetches = [] ∨ line.begun = [] ∧ line.fetches = line.unread := by
  obtain ⟨frameEnd, inOrder, ends⟩ := framed.inOrder
  have length := framed.length_received
  rw [fetches, inOrder.fetchFrame_eq framed.fewUnread]
  split
  · exact .inl rfl
  rcases ends with none | ⟨complete, all⟩
  · rw [none, Nat.sub_self, List.take_zero]
    exact .inl rfl
  · refine .inr ⟨complete, ?_⟩
    rw [all, length, Nat.add_sub_cancel_left]
    exact List.take_length

theorem fetch_link
    (line : RtuLine) :
    (line.step .fetch).link.uart = (line.link.uart.fetchFrame 256).2 ∧
      (line.step .fetch).link.received = line.link.received ∧
      (line.step .fetch).link.delivered = line.link.delivered ++ line.fetches :=
  ⟨rfl, List.append_nil _, rfl⟩

theorem fetchFrame_msDivider
    (uart : Uart)
    (maxLength : UInt32) :
    (uart.fetchFrame maxLength).2.msDivider = uart.msDivider := by
  unfold Uart.fetchFrame Uart.getFrame
  split
  · rfl
  · dsimp only
    split
    · rfl
    · split <;> rfl

/-- A fetch that delivers something delivers the frame that waits, and nothing is unread
behind it. -/
theorem Framed.fetch
    {line : RtuLine}
    (framed : line.Framed)
    (timing : line.KeepsTiming .fetch) :
    (line.step .fetch).Framed := by
  obtain ⟨uart, received, delivered⟩ := line.fetch_link
  obtain ⟨⟨state, lastHead, deadline⟩, ticks⟩ := line.link.uart.fetchFrame_keeps 256
  have divider := fetchFrame_msDivider line.link.uart 256
  obtain ⟨frameEnd, inOrder, ends⟩ := framed.inOrder
  have after : (line.step .fetch).link.InOrder frameEnd :=
    inOrder.fetch framed.fewUnread 256
  have begun : (line.step .fetch).begun = line.begun := rfl
  have sent : (line.step .fetch).sent = line.sent := rfl
  have gap : (line.step .fetch).gap = line.gap := rfl
  have polled : (line.step .fetch).polled = line.polled := rfl
  have fetched : (line.step .fetch).fetched =
      if line.fetches = [] then line.fetched else line.fetched ++ [line.fetches] := rfl
  have length := framed.length_received
  have keptDivider : (line.step .fetch).link.uart.msDivider.toNat ≤ 9 := by
    rw [uart, divider]
    exact framed.divider
  rcases eq_or_ne line.fetches [] with nothing | something
  · rw [nothing, List.append_nil] at delivered
    rw [if_pos nothing] at fetched
    have unread : (line.step .fetch).unread = line.unread := by
      rw [RtuLine.unread, RtuLine.unread, received, delivered]
    refine ⟨⟨frameEnd, after, ?_⟩, ?_, ?_, ?_, keptDivider, framed.close⟩
    · rw [delivered, received]
      exact ends
    · rw [sent, fetched, unread]
      exact framed.accounts
    · rw [unread]
      exact framed.short
    · rw [uart, state]
      intro receiving
      obtain ⟨position, seenAt⟩ := framed.seen receiving
      refine ⟨position, ?_, ?_, ?_, ?_, ?_⟩
      · rw [delivered]
        exact seenAt.notFetched
      · rw [received]
        exact seenAt.received
      · rw [uart, lastHead]
        exact seenAt.lastHead
      · rw [received]
        exact seenAt.polled
      · rw [received, BeforeDeadline, uart, deadline, ticks, divider]
        exact seenAt.early
  · obtain ⟨complete, all⟩ := framed.fetches_eq.resolve_left something
    rw [if_neg something] at fetched
    have ended : (line.step .fetch).link.delivered.length =
        (line.step .fetch).link.received.length := by
      rw [delivered, received, List.length_append, all, length]
    have unread : (line.step .fetch).unread = [] := by
      rw [RtuLine.unread, ended, List.drop_length]
    refine ⟨⟨frameEnd, after, .inl ?_⟩, .inl ⟨?_, ?_⟩, ?_, ?_, keptDivider, framed.close⟩
    · have lower := after.fetchedBefore
      have upper := after.frameBefore
      omega
    · rcases framed.accounts with ⟨-, own⟩ | ⟨frame, -, waits, -, own⟩
      · rw [all, own] at something
        exact absurd complete something
      · rw [sent, fetched, waits, all, own]
    · rw [unread, begun, complete]
    · rw [unread]
      exact Nat.zero_le 255
    · rw [uart, state]
      intro receiving
      obtain ⟨position, seenAt⟩ := framed.seen receiving
      have last := seenAt.polled (timing complete)
      refine ⟨position, ?_, ?_, ?_, ?_, ?_⟩
      · rw [ended, received, last]
      · rw [received, last]
      · rw [uart, lastHead]
        exact seenAt.lastHead
      · rw [received]
        exact fun _ => last
      · intro sending _
        exact absurd complete sending

/-! ## Runs -/

/-- Every event that keeps the timing keeps the frames. -/
theorem Framed.step
    {line : RtuLine}
    (framed : line.Framed)
    {event : RtuEvent}
    (timing : line.KeepsTiming event) :
    (line.step event).Framed := by
  cases event with
  | byte value last => exact framed.byte timing
  | usart1 rxne idle tc => exact framed.usart1 timing
  | sysTick => exact framed.sysTick timing
  | poll => exact framed.poll
  | fetch => exact framed.fetch timing

theorem run_framed
    {line : RtuLine}
    (framed : line.Framed)
    {events : List RtuEvent}
    (timing : Transition.AllSteps step KeepsTiming line events) :
    (Transition.run step line events).Framed :=
  timing.run_invariant Framed (fun _ _ framed timing => framed.step timing) framed

/-- In every run after the initialization that keeps the timing, the frames that were
fetched are those that were sent, in order, none of them split, joined or changed, up to
one that still waits. -/
theorem run_fetchesFrames
    (uart : Uart)
    (baud : UInt32)
    (divider : uart.msDivider.toNat ≤ 9)
    (events : List RtuEvent)
    (timing : Transition.AllSteps step KeepsTiming (started uart baud) events) :
    let after := Transition.run step (started uart baud) events
    after.sent = after.fetched ∨ ∃ frame, after.sent = after.fetched ++ [frame] := by
  intro after
  have framed : after.Framed := run_framed (started_framed uart baud divider) timing
  rcases framed.accounts with ⟨all, -⟩ | ⟨frame, -, waits, -⟩
  · exact .inl all
  · exact .inr ⟨frame, waits⟩

/-- Two frames, the first of which is fetched behind a silence of 30 ticks. -/
def twoFrames : List RtuEvent :=
  [.byte 1 false, .byte 2 true, .poll] ++ List.replicate 30 .sysTick ++
    [.poll, .fetch, .byte 3 true]

theorem run_fetchesFrames_twoFrames :
    let after := Transition.run step (started Uart.powerOn 38400) twoFrames
    after.sent = after.fetched ∨ ∃ frame, after.sent = after.fetched ++ [frame] :=
  run_fetchesFrames Uart.powerOn 38400 (by decide) twoFrames (by decide +kernel)

end RtuLine

end SensorFirmware
