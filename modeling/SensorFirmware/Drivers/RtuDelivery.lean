import SensorFirmware.Drivers.FrameTimer
import SensorFirmware.Drivers.RtuFrames

/-!
# Fetching a frame in time

A frame that was sent is fetched a few iterations of the main loop later.  The flag may
still be up from before, and the frame timer may still run from an earlier IDLE interrupt
and set it once more for nothing; each of them costs an iteration at most.  The next
iteration sees the head, and one that comes three milliseconds later fetches the frame.
-/

namespace SensorFirmware

open WrappingClock (reading reading_add passed_iff)

/-- An interrupt of the receiver. -/
inductive RtuInterrupt
  | usart1 (rxne idle tc : Bool)
  | sysTick
  deriving DecidableEq

namespace RtuInterrupt

def event : RtuInterrupt → RtuEvent
  | .usart1 rxne idle tc => .usart1 rxne idle tc
  | .sysTick => .sysTick

/-- The ticks among some interrupts. -/
def ticks (interrupts : List RtuInterrupt) : Nat := interrupts.count .sysTick

end RtuInterrupt

/-- The interrupts of an iteration of the main loop, before its poll and behind it. -/
structure RtuCycle where
  before : List RtuInterrupt
  between : List RtuInterrupt

/-- The ticks of an iteration. -/
def RtuCycle.ticks (cycle : RtuCycle) : Nat :=
  RtuInterrupt.ticks cycle.before + RtuInterrupt.ticks cycle.between

namespace Uart

/-- The last byte is in the latched frame. -/
def Ends (uart : Uart) : Prop := uart.rtuFrameHead = uart.dmaHead

/-- The poll waits for the head to rest where it is. -/
def Watches (uart : Uart) : Prop :=
  uart.rtuState = .rtuReceiving ∧ uart.dmaHead = uart.rtuLastHead

/-- The time since the poll that set the deadline. -/
def Elapsed (uart : Uart) (elapsed : Nat) : Prop :=
  ∃ since, uart.rtuDeadline = reading (since + 3) ∧ uart.msTicks = reading (since + elapsed)

/-- The poll watches the head, and set its deadline between the given ticks ago. -/
def WatchesFor (uart : Uart) (least most : Nat) : Prop :=
  uart.Watches ∧ ∃ elapsed, uart.Elapsed elapsed ∧ elapsed ≤ most ∧
    least ≤ 10 * elapsed + uart.msDivider.toNat

/-- The timer does not set the flag for nothing a second time. -/
def Once (uart : Uart) : Prop :=
  uart.Ends ∨ (uart.rtuFrameReady ≠ 0 → uart.modbusTimerRunning = 0)

/-- The timer does not set the flag for nothing. -/
def Calm (uart : Uart) : Prop :=
  uart.Ends ∨ uart.rtuFrameReady = 0 ∧ uart.modbusTimerRunning = 0

/-- What interrupts with some ticks among them do. -/
structure Interrupted (before after : Uart) (ticks : Nat) : Prop where
  keepsPoll : before.KeepsPoll after
  latches : before.Latches after
  ready : before.rtuFrameReady ≠ 0 → after.rtuFrameReady ≠ 0
  /-- An IDLE interrupt latches the end, and without one the timer expires once at most. -/
  timer : after.Ends ∨
    (after.modbusTimerRunning ≠ 0 → before.modbusTimerRunning ≠ 0) ∧
    (after.rtuFrameReady ≠ 0 → before.rtuFrameReady ≠ 0 ∨
      before.modbusTimerRunning ≠ 0 ∧ after.modbusTimerRunning = 0)
  time : ∃ advance, after.msTicks = before.msTicks + UInt32.ofNat advance ∧
    10 * advance + after.msDivider.toNat = before.msDivider.toNat + ticks
  divider : after.msDivider.toNat ≤ 9

theorem Latches.dmaHead
    {before after : Uart}
    (latches : before.Latches after) :
    after.dmaHead = before.dmaHead := by
  rw [Uart.dmaHead, Uart.dmaHead, latches.ndtr]

theorem Latches.trans
    {first second third : Uart}
    (earlier : first.Latches second)
    (later : second.Latches third) :
    first.Latches third where
  buf := later.buf.trans earlier.buf
  tail := later.tail.trans earlier.tail
  ndtr := later.ndtr.trans earlier.ndtr
  frameHead := by
    rcases later.frameHead with kept | latched
    · rw [kept]
      exact earlier.frameHead
    · rw [latched, earlier.dmaHead]
      exact .inr rfl

namespace Interrupted

variable {before after : Uart} {ticks : Nat} (interrupted : before.Interrupted after ticks)

include interrupted

/-- The end stays latched. -/
theorem ends (ends : before.Ends) : after.Ends := by
  rw [Ends, interrupted.latches.dmaHead]
  rcases interrupted.latches.frameHead with kept | latched
  · rw [kept, ends]
  · exact latched

theorem watches (watches : before.Watches) : after.Watches := by
  obtain ⟨receiving, still⟩ := watches
  exact ⟨interrupted.keepsPoll.state.trans receiving, by
    rw [interrupted.latches.dmaHead, interrupted.keepsPoll.lastHead, still]⟩

theorem once (once : before.Once) : after.Once := by
  rcases once with ends | once
  · exact .inl (interrupted.ends ends)
  rcases interrupted.timer with ends | ⟨runs, expires⟩
  · exact .inl ends
  · right
    intro ready
    by_contra running
    rcases expires ready with earlier | ⟨-, stopped⟩
    · exact runs running (once earlier)
    · exact running stopped

theorem calm (calm : before.Calm) : after.Calm := by
  rcases calm with ends | ⟨notReady, stopped⟩
  · exact .inl (interrupted.ends ends)
  rcases interrupted.timer with ends | ⟨runs, expires⟩
  · exact .inl ends
  · right
    constructor
    · by_contra ready
      rcases expires ready with earlier | ⟨running, -⟩
      · exact earlier notReady
      · exact running stopped
    · by_contra running
      exact runs running stopped

theorem elapsed
    {elapsed : Nat}
    (since : before.Elapsed elapsed) :
    ∃ advance, after.Elapsed (elapsed + advance) ∧
      10 * advance + after.msDivider.toNat = before.msDivider.toNat + ticks := by
  obtain ⟨start, deadline, time⟩ := since
  obtain ⟨advance, moved, counted⟩ := interrupted.time
  refine ⟨advance, ⟨start, interrupted.keepsPoll.deadline.trans deadline, ?_⟩, counted⟩
  rw [moved, time, reading_add, Nat.add_assoc]

/-- The ticks of the interrupts add to those of the watch. -/
theorem watchesFor
    (divider : before.msDivider.toNat ≤ 9)
    {least most : Nat}
    (watched : before.WatchesFor least most) :
    after.WatchesFor (least + ticks) (most + ticks) := by
  obtain ⟨watches, elapsed, since, bound, enough⟩ := watched
  obtain ⟨advance, later, counted⟩ := interrupted.elapsed since
  exact ⟨interrupted.watches watches, elapsed + advance, later, by omega, by omega⟩

theorem trans
    {last : Uart}
    {more : Nat}
    (later : after.Interrupted last more) :
    before.Interrupted last (ticks + more) where
  keepsPoll := interrupted.keepsPoll.trans later.keepsPoll
  latches := interrupted.latches.trans later.latches
  ready := later.ready ∘ interrupted.ready
  timer := by
    rcases later.timer with ends | ⟨runs, expires⟩
    · exact .inl ends
    rcases interrupted.timer with ends | ⟨ran, expired⟩
    · exact .inl (later.ends ends)
    right
    refine ⟨ran ∘ runs, fun ready => ?_⟩
    rcases expires ready with earlier | ⟨running, stopped⟩
    · refine (expired earlier).imp_right fun once => ⟨once.1, ?_⟩
      by_contra running
      exact runs running once.2
    · exact .inr ⟨ran running, stopped⟩
  time := by
    obtain ⟨first, moved, counted⟩ := interrupted.time
    obtain ⟨second, movedOn, countedOn⟩ := later.time
    refine ⟨first + second, ?_, by omega⟩
    rw [movedOn, moved, UInt32.ofNat_add, UInt32.add_assoc]
  divider := later.divider

end Interrupted

theorem interrupted_refl
    (uart : Uart)
    (divider : uart.msDivider.toNat ≤ 9) :
    uart.Interrupted uart 0 where
  keepsPoll := ⟨rfl, rfl, rfl⟩
  latches := ⟨rfl, rfl, rfl, .inl rfl⟩
  ready := id
  timer := .inr ⟨id, .inl⟩
  time := ⟨0, (UInt32.add_zero _).symm, by omega⟩
  divider := divider

theorem interrupted_usart1
    (uart : Uart)
    (divider : uart.msDivider.toNat ≤ 9)
    (rxne idle tc : Bool) :
    uart.Interrupted (uart.usart1IrqHandler rxne idle tc) 0 := by
  obtain ⟨keeps, ticks⟩ := uart.usart1IrqHandler_keeps rxne idle tc
  have sameDivider : (uart.usart1IrqHandler rxne idle tc).msDivider = uart.msDivider := by
    cases rxne <;> cases idle <;> cases tc <;> rfl
  have sameReady : (uart.usart1IrqHandler rxne idle tc).rtuFrameReady =
      uart.rtuFrameReady := by
    cases rxne <;> cases idle <;> cases tc <;> rfl
  obtain ⟨running, -⟩ := uart.usart1IrqHandler_timer rxne idle tc
  refine ⟨keeps, uart.latches_usart1IrqHandler rxne idle tc, ?_, ?_, ⟨0, ?_, ?_⟩, ?_⟩
  · rw [sameReady]
    exact id
  · cases idle with
    | true =>
        left
        cases rxne <;> cases tc <;> rfl
    | false =>
        right
        rw [running, sameReady]
        refine ⟨?_, .inl⟩
        cases rxne with
        | true => exact fun stopped => absurd rfl stopped
        | false => exact id
  · rw [ticks]
    exact (UInt32.add_zero _).symm
  · rw [sameDivider]
    omega
  · rw [sameDivider]
    exact divider

theorem interrupted_sysTick
    (uart : Uart)
    (divider : uart.msDivider.toNat ≤ 9) :
    uart.Interrupted uart.onSysTickInterrupt 1 := by
  obtain ⟨keeps, -⟩ := uart.step_of_ne_poll (show UartEvent.sysTick ≠ .poll by simp)
  obtain ⟨advance, ticks, counted, below⟩ := uart.onSysTickInterrupt_divider divider
  refine ⟨keeps, uart.latches_onSysTickInterrupt, ?_, .inr ?_, ⟨advance, ticks, counted⟩,
    below⟩
  · intro ready
    rw [uart.onSysTickInterrupt_rtuFrameReady]
    split
    · exact Nat.one_ne_zero ∘ congrArg UInt8.toNat
    · exact ready
  · unfold onSysTickInterrupt
    split
    case isTrue running =>
      simp only
      split
      · split <;> exact ⟨fun stopped => absurd rfl stopped, fun _ => .inr ⟨running, rfl⟩⟩
      · split <;> exact ⟨id, .inl⟩
    case isFalse =>
      simp only
      split <;> exact ⟨id, .inl⟩

end Uart

namespace RtuLine

/-- The line after some interrupts. -/
def interrupted (line : RtuLine) (interrupts : List RtuInterrupt) : RtuLine :=
  Transition.run step line (interrupts.map RtuInterrupt.event)

/-- The line after an iteration.  `ModbusService::process` fetches only when
`frameAvailable` has found the flag behind its poll. -/
def iterate (line : RtuLine) (cycle : RtuCycle) : RtuLine :=
  let polled := (line.interrupted cycle.before).step .poll
  let line := polled.interrupted cycle.between
  if polled.link.uart.rtuFrameReady ≠ 0 then line.step .fetch else line

/-! ## A frame that waits -/

/-- A frame was sent and is not fetched, and a poll that watches for its end came within
the given ticks. -/
structure Waiting (line : RtuLine) (ticks : Nat) : Prop where
  framed : line.Framed
  complete : line.begun = []
  unfetched : line.sent ≠ line.fetched
  seen : line.link.uart.Watches → ∃ elapsed, line.link.uart.Elapsed elapsed ∧ elapsed ≤ ticks

/-- All frames are fetched. -/
structure Served (line : RtuLine) : Prop where
  framed : line.Framed
  complete : line.begun = []
  fetched : line.sent = line.fetched

theorem Waiting.unread_ne
    {line : RtuLine}
    {ticks : Nat}
    (waiting : line.Waiting ticks) :
    line.unread ≠ [] := by
  rcases waiting.framed.accounts with ⟨all, -⟩ | ⟨frame, nonempty, -, -, own⟩
  · exact absurd all waiting.unfetched
  · rwa [own]

/-- The head has left the tail. -/
theorem Waiting.head_ne_tail
    {line : RtuLine}
    {ticks : Nat}
    (waiting : line.Waiting ticks) :
    line.link.uart.dmaHead ≠ line.link.uart.tail := by
  obtain ⟨frameEnd, inOrder, -⟩ := waiting.framed.inOrder
  have length := waiting.framed.length_received
  have short := waiting.framed.short
  have some := List.length_pos_iff.mpr waiting.unread_ne
  intro same
  have slot : line.link.received.length % 256 = line.link.delivered.length % 256 := by
    rw [← inOrder.dmaHead, same, inOrder.tail]
  omega

/-- The last byte of a frame makes it wait. -/
theorem Framed.waiting
    {line : RtuLine}
    (framed : line.Framed)
    {value : UInt8}
    (timing : line.KeepsTiming (.byte value true)) :
    (line.step (.byte value true)).Waiting 0 := by
  have after := framed.byte timing
  obtain ⟨all, -⟩ := framed.unread_of_begin timing.1
  have sent : (line.step (.byte value true)).sent =
      line.sent ++ [line.begun ++ [value]] := rfl
  refine ⟨after, rfl, ?_, ?_⟩
  · rw [sent, all]
    exact fun same => absurd (List.append_right_eq_self.mp same) (List.cons_ne_nil _ _)
  · rintro ⟨receiving, still⟩
    -- the poll before this byte cannot have seen it
    obtain ⟨position, seenAt⟩ := framed.seen receiving
    obtain ⟨other, seenAfter⟩ := after.seen receiving
    have upper := seenAt.received
    obtain ⟨received, delivered⟩ := line.length_byte value true
    have old : (line.step (.byte value true)).SeenAt position := by
      refine ⟨?_, by omega, seenAt.lastHead, ?_, ?_⟩
      · rw [delivered]
        exact seenAt.notFetched
      · intro polled
        cases polled
      · exact fun sending => absurd rfl sending
    have last := old.eq_of_head after still
    omega

/-- A silent event changes the receiver and neither sends nor fetches. -/
structure Silent (line line' : RtuLine) (after : Uart) : Prop where
  link : line'.link = { line.link with uart := after }
  begun : line'.begun = line.begun
  sent : line'.sent = line.sent
  fetched : line'.fetched = line.fetched

theorem silent_interrupt
    (line : RtuLine)
    (interrupt : RtuInterrupt) :
    line.Silent (line.step interrupt.event)
      (line.link.uart.step interrupt.event.uartEvent) := by
  cases interrupt with
  | usart1 => exact ⟨link_step_of_silent line.link rfl rfl, rfl, rfl, rfl⟩
  | sysTick => exact ⟨link_step_of_silent line.link rfl rfl, rfl, rfl, rfl⟩

theorem silent_poll (line : RtuLine) :
    line.Silent (line.step .poll) line.link.uart.rtuPoll :=
  ⟨link_step_of_silent line.link rfl rfl, rfl, rfl, rfl⟩

/-- Once the frame is complete, interrupts keep the timing. -/
theorem keepsTiming_interrupt
    {line : RtuLine}
    (complete : line.begun = [])
    (interrupt : RtuInterrupt) :
    line.KeepsTiming interrupt.event := by
  cases interrupt with
  | usart1 => exact fun _ => complete
  | sysTick => exact fun sending => absurd complete sending

theorem interrupted_step
    {line : RtuLine}
    (framed : line.Framed)
    (interrupt : RtuInterrupt) :
    line.link.uart.Interrupted (line.step interrupt.event).link.uart
      (RtuInterrupt.ticks [interrupt]) := by
  rw [(line.silent_interrupt interrupt).link]
  cases interrupt with
  | usart1 rxne idle tc => exact line.link.uart.interrupted_usart1 framed.divider rxne idle tc
  | sysTick => exact line.link.uart.interrupted_sysTick framed.divider

/-- While a frame waits, an interrupt only lets time pass. -/
theorem Waiting.interrupt
    {line : RtuLine}
    {ticks : Nat}
    (waiting : line.Waiting ticks)
    (interrupt : RtuInterrupt) :
    (line.step interrupt.event).Waiting (ticks + RtuInterrupt.ticks [interrupt]) := by
  have silent := line.silent_interrupt interrupt
  have interrupted := interrupted_step waiting.framed interrupt
  refine ⟨waiting.framed.step (keepsTiming_interrupt waiting.complete interrupt), ?_, ?_, ?_⟩
  · rw [silent.begun]
    exact waiting.complete
  · rw [silent.sent, silent.fetched]
    exact waiting.unfetched
  · rintro ⟨receiving, still⟩
    have watched : line.link.uart.Watches := by
      constructor
      · rw [← interrupted.keepsPoll.state, receiving]
      · rw [← interrupted.latches.dmaHead, still, interrupted.keepsPoll.lastHead]
    obtain ⟨elapsed, since, bound⟩ := waiting.seen watched
    obtain ⟨advance, after, counted⟩ := interrupted.elapsed since
    have divider := waiting.framed.divider
    exact ⟨elapsed + advance, after, by omega⟩

/-- Along some interrupts. -/
theorem Waiting.interrupts
    {line : RtuLine}
    {ticks : Nat}
    (waiting : line.Waiting ticks)
    (interrupts : List RtuInterrupt) :
    let after := line.interrupted interrupts
    after.Waiting (ticks + RtuInterrupt.ticks interrupts) ∧
      line.link.uart.Interrupted after.link.uart (RtuInterrupt.ticks interrupts) ∧
      after.polled = line.polled := by
  induction interrupts generalizing line ticks with
  | nil => exact ⟨waiting, line.link.uart.interrupted_refl waiting.framed.divider, rfl⟩
  | cons interrupt interrupts inductionHypothesis =>
      intro after
      obtain ⟨waits, interrupted, polled⟩ :=
        inductionHypothesis (waiting.interrupt interrupt)
      have counted : RtuInterrupt.ticks (interrupt :: interrupts) =
          RtuInterrupt.ticks [interrupt] + RtuInterrupt.ticks interrupts := by
        rw [RtuInterrupt.ticks, ← List.singleton_append, List.count_append]
        rfl
      rw [counted, ← Nat.add_assoc]
      refine ⟨waits, (interrupted_step waiting.framed interrupt).trans interrupted, ?_⟩
      exact polled.trans (by cases interrupt <;> rfl)

theorem Waiting.poll
    {line : RtuLine}
    {ticks : Nat}
    (waiting : line.Waiting ticks) :
    (line.step .poll).Waiting ticks := by
  have silent := line.silent_poll
  have polled := line.link.uart.rtuPoll_cases
  refine ⟨waiting.framed.poll, ?_, ?_, ?_⟩
  · rw [silent.begun]
    exact waiting.complete
  · rw [silent.sent, silent.fetched]
    exact waiting.unfetched
  · rw [silent.link]
    generalize line.link.uart.rtuPoll = after at polled
    cases polled with
    | idles | waits => exact waiting.seen
    | sees =>
        intro _
        refine ⟨0, ⟨line.link.uart.msTicks.toNat, ?_, ?_⟩, Nat.zero_le ticks⟩
        · rw [← reading_add, reading, UInt32.ofNat_toNat]
          rfl
        · rw [Nat.add_zero, reading, UInt32.ofNat_toNat]
    | completes =>
        intro watches
        cases watches.1

/-- A fetch that delivers nothing only clears the flag. -/
theorem Framed.fetchFrame_of_nothing
    {line : RtuLine}
    (framed : line.Framed)
    (nothing : line.fetches = []) :
    (line.link.uart.fetchFrame 256).2 = { line.link.uart with rtuFrameReady := 0 } := by
  obtain ⟨frameEnd, inOrder, -⟩ := framed.inOrder
  have upper := inOrder.frameBefore
  have length := inOrder.frameLength framed.fewUnread
  rw [fetches, inOrder.fetchFrame_eq framed.fewUnread] at nothing
  rw [Uart.fetchFrame, if_neg (by decide)]
  dsimp only
  split
  case isTrue notReady =>
    generalize line.link.uart = uart at notReady
    cases uart
    cases notReady
    rfl
  case isFalse ready =>
    rw [if_neg ready] at nothing
    have empty := congrArg List.length nothing
    rw [List.length_take, List.length_drop, List.length_nil] at empty
    have zero : line.link.uart.frameLength = 0 := UInt16.toNat_inj.mp (by
      rw [length]
      exact (show frameEnd - line.link.delivered.length = 0 by omega))
    rw [Uart.getFrame, zero]
    rfl

/-- A fetch behind the end of the frame delivers it. -/
theorem Waiting.fetches_ne
    {line : RtuLine}
    {ticks : Nat}
    (waiting : line.Waiting ticks)
    (ready : line.link.uart.rtuFrameReady ≠ 0)
    (ends : line.link.uart.Ends) :
    line.fetches ≠ [] := by
  obtain ⟨frameEnd, inOrder, place⟩ := waiting.framed.inOrder
  have length := waiting.framed.length_received
  have short := waiting.framed.short
  have some := List.length_pos_iff.mpr waiting.unread_ne
  have slot : frameEnd % 256 = line.link.received.length % 256 := by
    rw [← inOrder.frameHead, ends, inOrder.dmaHead]
  have last : frameEnd - line.link.delivered.length = line.unread.length := by
    rcases place with first | ⟨-, last⟩
    · omega
    · omega
  rw [fetches, inOrder.fetchFrame_eq waiting.framed.fewUnread, if_neg ready, last]
  rw [← List.length_pos_iff, List.length_take]
  exact Nat.lt_min.mpr ⟨some, some⟩

/-- A fetch serves the frame that waits, or it only clears the flag, whose frame does not
end with the last byte. -/
theorem Waiting.fetch
    {line : RtuLine}
    {ticks : Nat}
    (waiting : line.Waiting ticks)
    (polled : line.polled = true) :
    (line.step .fetch).Served ∨
      (line.step .fetch).Waiting ticks ∧
        (line.step .fetch).link.uart = { line.link.uart with rtuFrameReady := 0 } ∧
        (line.link.uart.rtuFrameReady ≠ 0 → ¬ line.link.uart.Ends) := by
  have framed : (line.step .fetch).Framed := waiting.framed.fetch fun _ => polled
  have fetched : (line.step .fetch).fetched =
      if line.fetches = [] then line.fetched else line.fetched ++ [line.fetches] := rfl
  rcases eq_or_ne line.fetches [] with nothing | something
  · right
    have uart := waiting.framed.fetchFrame_of_nothing nothing
    rw [if_pos nothing] at fetched
    refine ⟨⟨framed, waiting.complete, ?_, ?_⟩, uart, ?_⟩
    · rw [fetched]
      exact waiting.unfetched
    · rw [(line.fetch_link).1, uart]
      exact waiting.seen
    · exact fun ready ends => waiting.fetches_ne ready ends nothing
  · left
    obtain ⟨-, all⟩ := waiting.framed.fetches_eq.resolve_left something
    refine ⟨framed, waiting.complete, ?_⟩
    rw [fetched, if_neg something, all]
    rcases waiting.framed.accounts with ⟨same, -⟩ | ⟨frame, -, waits, -, own⟩
    · exact absurd same waiting.unfetched
    · rw [own]
      exact waits

/-! ## Iterations -/

/-- A poll that sees the head anew did not watch it. -/
theorem not_watches_of_moved
    {uart : Uart}
    (moved : uart.rtuState = .rtuIdle ∧ uart.rtuFrameReady = 0 ∨
      uart.rtuState = .rtuReceiving ∧ uart.dmaHead ≠ uart.rtuLastHead) :
    ¬ uart.Watches := by
  rintro ⟨receiving, rests⟩
  rcases moved with ⟨idle, -⟩ | ⟨-, moves⟩
  · cases idle.symm.trans receiving
  · exact moves rests

/-- A deadline that has not passed is less than 30 ticks old. -/
theorem early_lt
    {found : Uart}
    (divider : found.msDivider.toNat ≤ 9)
    {least most : Nat}
    (watched : found.WatchesFor least most)
    (early : ¬ 0 ≤ (found.msTicks - found.rtuDeadline).toInt32)
    (short : most < 2147483648) :
    least < 30 := by
  by_contra long
  obtain ⟨-, elapsed, ⟨start, deadline, time⟩, bound, enough⟩ := watched
  rw [deadline, time, passed_iff (by omega) (by omega)] at early
  omega

/-- A poll that watches the head has set its deadline at some time. -/
theorem Waiting.watchesFor
    {line : RtuLine}
    {ticks : Nat}
    (waiting : line.Waiting ticks)
    (watches : line.link.uart.Watches) :
    line.link.uart.WatchesFor 0 ticks := by
  obtain ⟨elapsed, since, bound⟩ := waiting.seen watches
  exact ⟨watches, elapsed, since, bound, Nat.zero_le _⟩

/-- What an iteration does while a frame waits.  It serves the frame, or it comes closer to
it: the timer cannot set the flag for nothing twice, it cannot do so at all, or the poll
watches the head.  A poll that watches the head goes on with it, for less than 30 ticks. -/
theorem Waiting.cycle
    {line : RtuLine}
    {ticks : Nat}
    (waiting : line.Waiting ticks)
    (cycle : RtuCycle)
    (short : ticks + cycle.ticks < 2147483648) :
    let after := line.iterate cycle
    after.Served ∨
      after.Waiting (ticks + cycle.ticks) ∧ after.link.uart.Once ∧
        (line.link.uart.Once → after.link.uart.Watches ∨ after.link.uart.Calm) ∧
        (line.link.uart.Watches ∨ line.link.uart.Calm → after.link.uart.Watches) ∧
        ∀ least, line.link.uart.WatchesFor least ticks →
          least + RtuInterrupt.ticks cycle.before < 30 ∧
            after.link.uart.WatchesFor (least + cycle.ticks) (ticks + cycle.ticks) := by
  obtain ⟨waits, earlier, -⟩ := waiting.interrupts cycle.before
  have total (since : Nat) : since + cycle.ticks =
      since + RtuInterrupt.ticks cycle.before + RtuInterrupt.ticks cycle.between := by
    rw [RtuCycle.ticks, Nat.add_assoc]
  rw [iterate, total]
  rw [total] at short
  simp only [total]
  generalize line.interrupted cycle.before = found at waits earlier
  obtain ⟨fetches, later, polled⟩ := waits.poll.interrupts cycle.between
  have link := (found.silent_poll).link
  have case := found.link.uart.rtuPoll_cases
  generalize (found.step .poll).interrupted cycle.between = ready at fetches later polled
  have polls (least : Nat) (watched : line.link.uart.WatchesFor least ticks) :=
    earlier.watchesFor waiting.framed.divider watched
  rw [link] at later ⊢
  generalize found.link.uart.rtuPoll = after at case later
  dsimp only at later ⊢
  split
  case isFalse down =>
    -- the flag was down, and the frame is left to the next iteration
    have once : after.Once := .inr fun up => absurd up down
    refine .inr ⟨fetches, later.once once, ?_⟩
    cases case with
    | idles idle nothing => exact absurd (nothing.resolve_right waits.head_ne_tail) down
    | sees moved =>
        have watches := later.watches ⟨rfl, rfl⟩
        refine ⟨fun _ => .inl watches, fun _ => watches, fun least watched => ?_⟩
        exact absurd (earlier.watches watched.1) (not_watches_of_moved moved)
    | waits receiving rests early =>
        have watches := later.watches ⟨receiving, rests⟩
        refine ⟨fun _ => .inl watches, fun _ => watches, fun least watched => ?_⟩
        have still := polls least watched
        exact ⟨early_lt waits.framed.divider still early (by omega),
          later.watchesFor waits.framed.divider still⟩
    | completes =>
        have one : (1 : UInt8) ≠ 0 := by decide
        exact absurd one down
  case isTrue up =>
    rcases fetches.fetch (polled.trans rfl) with served | ⟨still, cleared, unended⟩
    · exact .inl served
    have unlatched := unended (later.ready up)
    have down : (ready.step .fetch).link.uart.rtuFrameReady = 0 := by rw [cleared]
    have watching (watches : after.Watches) : (ready.step .fetch).link.uart.Watches := by
      rw [cleared]
      exact later.watches watches
    refine .inr ⟨still, .inr fun up => absurd down up, ?_⟩
    cases case with
    | idles idle nothing =>
        have unwatched : ¬ line.link.uart.Watches := by
          intro watches
          cases idle.symm.trans (earlier.watches watches).1
        refine ⟨?_, ?_, fun least watched => absurd watched.1 unwatched⟩
        · intro once
          right
          rw [cleared]
          have stopped := ((later.once (earlier.once once)).resolve_left unlatched)
            (later.ready up)
          exact .inr ⟨rfl, stopped⟩
        · rintro (watches | calm)
          · exact absurd watches unwatched
          · have notReady := ((later.calm (earlier.calm calm)).resolve_left unlatched).1
            exact absurd notReady (later.ready up)
    | sees moved =>
        have watches := watching ⟨rfl, rfl⟩
        refine ⟨fun _ => .inl watches, fun _ => watches, fun least watched => ?_⟩
        exact absurd (earlier.watches watched.1) (not_watches_of_moved moved)
    | waits receiving rests early =>
        have watches := watching ⟨receiving, rests⟩
        refine ⟨fun _ => .inl watches, fun _ => watches, fun least watched => ?_⟩
        have still := polls least watched
        rw [cleared]
        exact ⟨early_lt waits.framed.divider still early (by omega),
          later.watchesFor waits.framed.divider still⟩
    | completes rested => exact absurd (later.ends rfl) unlatched

/-- What holds behind some iterations in which a frame waits. -/
def Progress (uart : Uart) : Nat → Prop
  | 0 => True
  | 1 => uart.Once
  | 2 => uart.Watches ∨ uart.Calm
  | _ + 3 => uart.Watches

theorem Waiting.progress
    {line : RtuLine}
    {ticks : Nat}
    (waiting : line.Waiting ticks)
    {iterations : Nat}
    (progress : Progress line.link.uart iterations)
    (cycle : RtuCycle)
    (short : ticks + cycle.ticks < 2147483648) :
    let after := line.iterate cycle
    after.Served ∨
      after.Waiting (ticks + cycle.ticks) ∧ Progress after.link.uart (iterations + 1) := by
  refine (waiting.cycle cycle short).imp_right ?_
  rintro ⟨waits, once, settles, watches, -⟩
  refine ⟨waits, ?_⟩
  match iterations with
  | 0 => exact once
  | 1 => exact settles progress
  | 2 => exact watches progress
  | _ + 3 => exact watches (.inl progress)

/-! ## Behind the fetch -/

theorem Served.interrupts
    {line : RtuLine}
    (served : line.Served)
    (interrupts : List RtuInterrupt) :
    let after := line.interrupted interrupts
    after.Served ∧ after.polled = line.polled := by
  induction interrupts generalizing line with
  | nil => exact ⟨served, rfl⟩
  | cons interrupt interrupts inductionHypothesis =>
      have silent := line.silent_interrupt interrupt
      have next : (line.step interrupt.event).Served := by
        refine ⟨served.framed.step (keepsTiming_interrupt served.complete interrupt), ?_, ?_⟩
        · rw [silent.begun]
          exact served.complete
        · rw [silent.sent, silent.fetched]
          exact served.fetched
      obtain ⟨after, polled⟩ := inductionHypothesis next
      exact ⟨after, polled.trans (by cases interrupt <;> rfl)⟩

/-- A fetch that finds nothing waiting delivers nothing. -/
theorem Served.fetch
    {line : RtuLine}
    (served : line.Served)
    (polled : line.polled = true) :
    (line.step .fetch).Served := by
  refine ⟨served.framed.fetch fun _ => polled, served.complete, ?_⟩
  have nothing : line.fetches = [] := by
    obtain ⟨-, own⟩ := served.framed.unread_of_begin fun _ => served.fetched.symm
    rcases served.framed.fetches_eq with none | ⟨complete, all⟩
    · exact none
    · rw [all, own, complete]
  have fetched : (line.step .fetch).fetched =
      if line.fetches = [] then line.fetched else line.fetched ++ [line.fetches] := rfl
  rw [fetched, if_pos nothing]
  exact served.fetched

theorem Served.cycle
    {line : RtuLine}
    (served : line.Served)
    (cycle : RtuCycle) :
    (line.iterate cycle).Served := by
  obtain ⟨found, -⟩ := served.interrupts cycle.before
  rw [iterate]
  generalize line.interrupted cycle.before = line' at found
  have poll : (line'.step .poll).Served :=
    ⟨found.framed.poll, found.complete, found.fetched⟩
  obtain ⟨ready, polled⟩ := poll.interrupts cycle.between
  split
  · exact ready.fetch (polled.trans rfl)
  · exact ready

theorem Served.cycles
    {line : RtuLine}
    (served : line.Served)
    (cycles : List RtuCycle) :
    (Transition.run iterate line cycles).Served :=
  Transition.run_invariant Served (fun _ cycle served => served.cycle cycle) served cycles

/-! ## Anything but a byte -/

theorem Served.step
    {line : RtuLine}
    (served : line.Served)
    {event : RtuEvent}
    (silent : ∀ value last, event ≠ .byte value last)
    (timing : line.KeepsTiming event) :
    (line.step event).Served := by
  cases event with
  | byte value last => exact absurd rfl (silent value last)
  | usart1 rxne idle tc => exact (served.interrupts [.usart1 rxne idle tc]).1
  | sysTick => exact (served.interrupts [.sysTick]).1
  | poll => exact ⟨served.framed.poll, served.complete, served.fetched⟩
  | fetch => exact served.fetch (timing served.complete)

theorem Waiting.step
    {line : RtuLine}
    {ticks : Nat}
    (waiting : line.Waiting ticks)
    {event : RtuEvent}
    (silent : ∀ value last, event ≠ .byte value last)
    (timing : line.KeepsTiming event) :
    (line.step event).Served ∨
      (line.step event).Waiting (ticks + [event].count .sysTick) := by
  cases event with
  | byte value last => exact absurd rfl (silent value last)
  | usart1 rxne idle tc => exact .inr (waiting.interrupt (.usart1 rxne idle tc))
  | sysTick => exact .inr (waiting.interrupt .sysTick)
  | poll => exact .inr waiting.poll
  | fetch => exact (waiting.fetch (timing waiting.complete)).imp_right And.left

theorem Served.run
    {line : RtuLine}
    (served : line.Served)
    {events : List RtuEvent}
    (silent : ∀ event ∈ events, ∀ value last, event ≠ .byte value last)
    (timing : Transition.AllSteps RtuLine.step KeepsTiming line events) :
    (Transition.run RtuLine.step line events).Served := by
  induction events generalizing line with
  | nil => exact served
  | cons event events inductionHypothesis =>
      obtain ⟨first, rest⟩ := List.forall_mem_cons.mp silent
      exact inductionHypothesis (served.step first timing.1) rest timing.2

/-- A frame waits until it is fetched. -/
theorem Waiting.run
    {line : RtuLine}
    {ticks : Nat}
    (waiting : line.Waiting ticks)
    {events : List RtuEvent}
    (silent : ∀ event ∈ events, ∀ value last, event ≠ .byte value last)
    (timing : Transition.AllSteps RtuLine.step KeepsTiming line events) :
    let after := Transition.run RtuLine.step line events
    after.Served ∨ after.Waiting (ticks + events.count .sysTick) := by
  induction events generalizing line ticks with
  | nil => exact .inr waiting
  | cons event events inductionHypothesis =>
      intro after
      obtain ⟨first, rest⟩ := List.forall_mem_cons.mp silent
      have counted : (event :: events).count .sysTick =
          [event].count .sysTick + events.count .sysTick := by
        rw [← List.singleton_append, List.count_append]
      rw [counted, ← Nat.add_assoc]
      rcases waiting.step first timing.1 with served | waits
      · exact .inl (served.run rest timing.2)
      · exact inductionHypothesis waits rest timing.2

/-! ## Any number of iterations -/

/-- The ticks in some iterations. -/
def ticks (cycles : List RtuCycle) : Nat := (cycles.map RtuCycle.ticks).sum

theorem ticks_cons
    (cycle : RtuCycle)
    (cycles : List RtuCycle) :
    ticks (cycle :: cycles) = cycle.ticks + ticks cycles := by
  rw [ticks, List.map_cons, List.sum_cons, ticks]

theorem ticks_append (first second : List RtuCycle) :
    ticks (first ++ second) = ticks first + ticks second := by
  rw [ticks, List.map_append, List.sum_append, ticks, ticks]

theorem Waiting.cycles
    {line : RtuLine}
    {elapsed : Nat}
    (waiting : line.Waiting elapsed)
    {iterations : Nat}
    (progress : Progress line.link.uart iterations)
    (cycles : List RtuCycle)
    (short : elapsed + ticks cycles < 2147483648) :
    let after := Transition.run iterate line cycles
    after.Served ∨
      after.Waiting (elapsed + ticks cycles) ∧
        Progress after.link.uart (iterations + cycles.length) := by
  induction cycles generalizing line elapsed iterations with
  | nil => exact .inr ⟨waiting, progress⟩
  | cons cycle cycles inductionHypothesis =>
      have numbered : iterations + (cycle :: cycles).length =
          iterations + 1 + cycles.length := by
        rw [List.length_cons, Nat.add_assoc, Nat.add_comm 1]
      rw [ticks_cons, ← Nat.add_assoc] at short
      rw [ticks_cons, ← Nat.add_assoc, numbered, Transition.run_cons]
      rcases waiting.progress progress cycle (by omega) with served | ⟨waits, next⟩
      · exact .inl (served.cycles cycles)
      · exact inductionHypothesis waits next short

/-- A poll that watches the head goes on with it, or the frame is served. -/
theorem Waiting.watchedCycles
    {line : RtuLine}
    {least elapsed : Nat}
    (waiting : line.Waiting elapsed)
    (watched : line.link.uart.WatchesFor least elapsed)
    (cycles : List RtuCycle)
    (short : elapsed + ticks cycles < 2147483648) :
    let after := Transition.run iterate line cycles
    after.Served ∨
      after.Waiting (elapsed + ticks cycles) ∧
        after.link.uart.WatchesFor (least + ticks cycles) (elapsed + ticks cycles) := by
  induction cycles generalizing line least elapsed with
  | nil => exact .inr ⟨waiting, watched⟩
  | cons cycle cycles inductionHypothesis =>
      rw [ticks_cons, ← Nat.add_assoc] at short
      rw [ticks_cons, ← Nat.add_assoc, ← Nat.add_assoc, Transition.run_cons]
      rcases waiting.cycle cycle (by omega) with served | ⟨waits, -, -, -, goesOn⟩
      · exact .inl (served.cycles cycles)
      · exact inductionHypothesis waits (goesOn least watched).2 short

/-- A frame that waits is served by the first iteration that comes at least 30 ticks behind
the third one, unless the ticks come to half the range of the tick counter. -/
theorem Waiting.served
    {line : RtuLine}
    {elapsed : Nat}
    (waiting : line.Waiting elapsed)
    (cycles : List RtuCycle)
    (enough : 3 ≤ cycles.length)
    (last : RtuCycle)
    (long : 30 ≤ ticks (cycles.drop 3) + RtuInterrupt.ticks last.before)
    (short : elapsed + ticks cycles + last.ticks < 2147483648) :
    (Transition.run iterate line (cycles ++ [last])).Served := by
  have parts := List.take_append_drop 3 cycles
  have three : (cycles.take 3).length = 3 := List.length_take_of_le enough
  rw [← parts, ticks_append] at short
  rw [← parts, Transition.run_append, Transition.run_append, Transition.run_cons,
    Transition.run_nil]
  have start : Progress line.link.uart 0 := trivial
  rcases waiting.cycles start (cycles.take 3) (by omega) with served | ⟨waits, watches⟩
  · exact (served.cycles (cycles.drop 3)).cycle last
  -- behind the third iteration the poll watches the head
  rw [three] at watches
  rcases waits.watchedCycles (waits.watchesFor watches) (cycles.drop 3) (by omega) with
    served | ⟨waits, watched⟩
  · exact served.cycle last
  · refine (waits.cycle last (by omega)).resolve_right ?_
    rintro ⟨-, -, -, -, goesOn⟩
    have few := (goesOn _ watched).1
    omega

/-- In every run after the initialization that keeps the timing, a frame is fetched by the
first iteration that comes at least 30 ticks behind the third one after its last byte, unless
the ticks come to half the range of the tick counter. -/
theorem run_fetchesInTime
    (uart : Uart)
    (baud : UInt32)
    (divider : uart.msDivider.toNat ≤ 9)
    (events : List RtuEvent)
    (value : UInt8)
    (timing : Transition.AllSteps step KeepsTiming (started uart baud)
      (events ++ [.byte value true]))
    (cycles : List RtuCycle)
    (enough : 3 ≤ cycles.length)
    (last : RtuCycle)
    (long : 30 ≤ ticks (cycles.drop 3) + RtuInterrupt.ticks last.before)
    (short : ticks cycles + last.ticks < 2147483648) :
    let sent := Transition.run step (started uart baud) (events ++ [.byte value true])
    let after := Transition.run iterate sent (cycles ++ [last])
    after.fetched = after.sent := by
  intro sent after
  obtain ⟨earlier, lastByte⟩ := (Transition.allSteps_append_singleton _ _ _).mp timing
  have framed := run_framed (started_framed uart baud divider) earlier
  have waiting : sent.Waiting 0 := by
    rw [show sent = Transition.run step (started uart baud) (events ++ [.byte value true])
      from rfl, Transition.run_append]
    exact framed.waiting lastByte
  exact (waiting.served cycles enough last long (by omega)).fetched.symm

/-- Two bytes, and iterations that come with every tick. -/
theorem run_fetchesInTime_twoBytes :
    let tick : RtuCycle := ⟨[.sysTick], []⟩
    let sent := Transition.run step (started Uart.powerOn 38400)
      ([.byte 1 false] ++ [.byte 2 true])
    let after := Transition.run iterate sent (List.replicate 32 tick ++ [tick])
    after.fetched = after.sent := by
  intro tick sent after
  exact run_fetchesInTime Uart.powerOn 38400 (by decide) [.byte 1 false] 2
    (by decide +kernel) (List.replicate 32 tick) (by decide) tick (by decide) (by decide)

end RtuLine

end SensorFirmware
