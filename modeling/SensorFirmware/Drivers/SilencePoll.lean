import Mathlib.Data.List.Induction
import SensorFirmware.Drivers.Uart
import SensorFirmware.Library.WrappingClock

/-!
# Silence on the line

`UART_RTU_Poll` restarts a deadline whenever the DMA head moves and completes the
frame once the deadline has passed.  Over any sequence of polls, whatever happens
between them, a frame is completed only after the head has rested for three
ticks, and no frame is started while one is ready.
-/

namespace SensorFirmware

open WrappingClock (reading)

namespace Uart

/-- While receiving, the head has rested until the deadline. -/
def Rested (uart : Uart) : Prop :=
  uart.rtuState = .rtuReceiving ∧ uart.dmaHead = uart.rtuLastHead ∧
    0 ≤ (uart.msTicks - uart.rtuDeadline).toInt32

instance (uart : Uart) : Decidable uart.Rested :=
  inferInstanceAs (Decidable (_ ∧ _ ∧ _))

/-- Only a rested head sets the flag. -/
theorem rtuPoll_frameReady (uart : Uart) :
    uart.rtuPoll.rtuFrameReady = if uart.Rested then 1 else uart.rtuFrameReady := by
  cases state : uart.rtuState with
  | rtuIdle =>
      have idle : ¬ uart.Rested := by simp [Rested, state]
      simp only [rtuPoll, state, if_neg idle]
      split
      · rfl
      · split <;> rfl
  | rtuReceiving =>
      simp only [rtuPoll, state]
      split
      case isTrue moved =>
        have moves : ¬ uart.Rested := fun rested => moved rested.2.1
        rw [if_neg moves]
      case isFalse still =>
        have rests : uart.Rested ↔ 0 ≤ (uart.msTicks - uart.rtuDeadline).toInt32 :=
          ⟨fun rested => rested.2.2, fun passed => ⟨state, not_not.mp still, passed⟩⟩
        split
        case isTrue passed => rw [if_pos (rests.mpr passed)]
        case isFalse early => rw [if_neg (fun rested => early (rests.mp rested))]

/-- The poll sets `rtu_frame_ready`, whatever the flag was. -/
def SetsFrameReady (uart : Uart) : Prop :=
  ({ uart with rtuFrameReady := 0 }).rtuPoll.rtuFrameReady ≠ 0

theorem setsFrameReady_iff (uart : Uart) : uart.SetsFrameReady ↔ uart.Rested := by
  have cleared : ({ uart with rtuFrameReady := 0 }).Rested ↔ uart.Rested := Iff.rfl
  rw [SetsFrameReady, rtuPoll_frameReady]
  simp only [cleared]
  by_cases rested : uart.Rested <;> simp [rested]

/-- The poll of a rested head latches the head. -/
theorem Rested.frameHead
    {uart : Uart}
    (rested : uart.Rested) :
    uart.rtuPoll.rtuFrameHead = uart.dmaHead := by
  obtain ⟨receiving, still, passed⟩ := rested
  simp only [rtuPoll, receiving]
  rw [if_neg (not_not_intro still), if_pos passed]

/-- The poll starts receiving a frame. -/
def StartsFrame (uart : Uart) : Prop :=
  uart.rtuState = .rtuIdle ∧ uart.rtuPoll.rtuState = .rtuReceiving

/-- No frame is started while one is ready. -/
theorem StartsFrame.notReady
    {uart : Uart}
    (starts : uart.StartsFrame) :
    uart.rtuFrameReady = 0 := by
  obtain ⟨idle, receiving⟩ := starts
  by_contra ready
  simp only [rtuPoll, idle] at receiving
  rw [if_pos ready, idle] at receiving
  exact absurd receiving (by decide)

/-- The variables of the poll are left alone. -/
structure KeepsPoll (before after : Uart) : Prop where
  state : after.rtuState = before.rtuState
  lastHead : after.rtuLastHead = before.rtuLastHead
  deadline : after.rtuDeadline = before.rtuDeadline

theorem KeepsPoll.trans
    {first second third : Uart}
    (earlier : first.KeepsPoll second)
    (later : second.KeepsPoll third) :
    first.KeepsPoll third where
  state := later.state.trans earlier.state
  lastHead := later.lastHead.trans earlier.lastHead
  deadline := later.deadline.trans earlier.deadline

theorem getFrame_keeps (uart : Uart) (maxLen : UInt16) :
    uart.KeepsPoll (uart.getFrame maxLen).2 ∧
      (uart.getFrame maxLen).2.msTicks = uart.msTicks := by
  simp only [getFrame]
  split <;> exact ⟨⟨rfl, rfl, rfl⟩, rfl⟩

theorem fetchFrame_keeps (uart : Uart) (maxLength : UInt32) :
    uart.KeepsPoll (uart.fetchFrame maxLength).2 ∧
      (uart.fetchFrame maxLength).2.msTicks = uart.msTicks := by
  unfold fetchFrame
  split
  · exact ⟨⟨rfl, rfl, rfl⟩, rfl⟩
  simp only
  split
  · exact ⟨⟨rfl, rfl, rfl⟩, rfl⟩
  · obtain ⟨⟨state, lastHead, deadline⟩, tick⟩ :=
      uart.getFrame_keeps (if 256 < maxLength then 256 else maxLength).toUInt16
    exact ⟨⟨state, lastHead, deadline⟩, tick⟩

theorem usart1IrqHandler_keeps (uart : Uart) (rxne idle tc : Bool) :
    uart.KeepsPoll (uart.usart1IrqHandler rxne idle tc) ∧
      (uart.usart1IrqHandler rxne idle tc).msTicks = uart.msTicks := by
  refine ⟨⟨?_, ?_, ?_⟩, ?_⟩
  all_goals cases rxne <;> cases idle <;> cases tc <;> simp [usart1IrqHandler]

/-- A tick adds one to the milliseconds or leaves them. -/
theorem onSysTickInterrupt_msTicks (uart : Uart) :
    ∃ advance, uart.onSysTickInterrupt.msTicks = uart.msTicks + UInt32.ofNat advance := by
  have timer : uart.onSysTickInterrupt.msTicks =
      if 10 ≤ uart.msDivider + 1 then uart.msTicks + 1 else uart.msTicks := by
    unfold onSysTickInterrupt
    split
    · simp only
      split <;> (split <;> rfl)
    · simp only
      split <;> rfl
  rw [timer]
  split
  · exact ⟨1, rfl⟩
  · exact ⟨0, (UInt32.add_zero _).symm⟩

/-- Events other than a poll leave its variables alone, and the tick only moves
on. -/
theorem step_of_ne_poll
    (uart : Uart)
    {event : UartEvent}
    (other : event ≠ .poll) :
    uart.KeepsPoll (uart.step event) ∧
      ∃ advance, (uart.step event).msTicks = uart.msTicks + UInt32.ofNat advance := by
  have still {after : Uart} (keeps : uart.KeepsPoll after ∧ after.msTicks = uart.msTicks) :
      uart.KeepsPoll after ∧
        ∃ advance, after.msTicks = uart.msTicks + UInt32.ofNat advance :=
    ⟨keeps.1, 0, keeps.2.trans (UInt32.add_zero _).symm⟩
  cases event with
  | byte value => exact still ⟨⟨rfl, rfl, rfl⟩, rfl⟩
  | usart1 rxne idle tc => exact still (uart.usart1IrqHandler_keeps rxne idle tc)
  | sysTick =>
      refine ⟨?_, uart.onSysTickInterrupt_msTicks⟩
      simp only [step, onSysTickInterrupt]
      split
      · split <;> (split <;> exact ⟨rfl, rfl, rfl⟩)
      · split <;> exact ⟨rfl, rfl, rfl⟩
  | poll => exact absurd rfl other
  | fetch maxLength => exact still (uart.fetchFrame_keeps maxLength)

theorem rtuPoll_msTicks (uart : Uart) : uart.rtuPoll.msTicks = uart.msTicks := by
  cases state : uart.rtuState with
  | rtuIdle =>
      simp only [rtuPoll, state]
      split
      · rfl
      · split <;> rfl
  | rtuReceiving =>
      simp only [rtuPoll, state]
      split
      · rfl
      · split <;> rfl

end Uart

/-- A poll, with what has happened since the one before it. -/
structure Poll where
  /-- The ticks since the previous poll. -/
  advance : Nat
  /-- `UART_Init` has run since the previous poll. -/
  restarted : Bool
  /-- What the poll finds in all other variables and in the DMA counter. -/
  others : Uart

/-- What a poll observed. -/
structure Observation where
  time : Nat
  head : UInt16

/-- A receiver with the polls that it has seen. -/
structure PollLog where
  uart : Uart
  /-- The true time of the last poll, of which the tick shows the low 32 bits. -/
  time : Nat
  observed : List Observation

namespace PollLog

/-- The receiver before the first poll. -/
def start (time : Nat) : PollLog where
  uart := Uart.powerOn
  time := time
  observed := []

/-- The true time of the next poll. -/
def now (log : PollLog) (poll : Poll) : Nat := log.time + poll.advance

/-- The receiver that the next poll finds. -/
def found (log : PollLog) (poll : Poll) : Uart :=
  let kept :=
    { poll.others with
      rtuState := log.uart.rtuState
      rtuLastHead := log.uart.rtuLastHead
      rtuDeadline := log.uart.rtuDeadline
      msTicks := reading (log.now poll) }
  if poll.restarted then
    { kept with rtuState := .rtuIdle, rtuLastHead := 0, rtuDeadline := 0 }
  else kept

/-- The log after the next poll. -/
def step (log : PollLog) (poll : Poll) : PollLog where
  uart := (log.found poll).rtuPoll
  time := log.now poll
  observed := log.observed ++ [⟨log.now poll, (log.found poll).dmaHead⟩]

/-- All polls from some time on have observed the head. -/
def RestsSince (log : PollLog) (time : Nat) (head : UInt16) : Prop :=
  ∃ before seen after, log.observed = before ++ seen :: after ∧
    seen.time = time ∧ ∀ observation ∈ seen :: after, observation.head = head

/-- While a frame is received, the head rests since the poll that set the
deadline, and the last poll came before the deadline. -/
def Waits (log : PollLog) : Prop :=
  log.uart.rtuState = .rtuReceiving →
    ∃ since, log.RestsSince since log.uart.rtuLastHead ∧
      log.uart.rtuDeadline = reading (since + 3) ∧
      since ≤ log.time ∧ log.time < since + 3

theorem start_waits (time : Nat) : (start time).Waits := by
  intro receiving
  have idle : (start time).uart.rtuState = .rtuIdle := rfl
  exact absurd (idle.symm.trans receiving) (by decide)

@[simp] theorem found_msTicks (log : PollLog) (poll : Poll) :
    (log.found poll).msTicks = reading (log.now poll) := by
  unfold found
  split <;> rfl

/-- A receiving poll finds the variables that the poll before it left. -/
theorem found_of_receiving
    {log : PollLog}
    {poll : Poll}
    (receiving : (log.found poll).rtuState = .rtuReceiving) :
    log.uart.rtuState = .rtuReceiving ∧
      (log.found poll).rtuLastHead = log.uart.rtuLastHead ∧
      (log.found poll).rtuDeadline = log.uart.rtuDeadline := by
  unfold found at receiving ⊢
  split at receiving
  · exact absurd receiving (by simp)
  · rename_i running
    simp only [running]
    exact ⟨receiving, rfl, rfl⟩

section

variable {log : PollLog} {poll : Poll}

/-- A poll that sees a head starts a stretch in which it rests. -/
theorem restsSince_step (log : PollLog) (poll : Poll) :
    (log.step poll).RestsSince (log.now poll) (log.found poll).dmaHead :=
  ⟨log.observed, ⟨log.now poll, (log.found poll).dmaHead⟩, [], rfl, rfl, by simp⟩

/-- A poll that sees the same head continues the stretch. -/
theorem RestsSince.step
    {since : Nat}
    {head : UInt16}
    (rests : log.RestsSince since head)
    (same : (log.found poll).dmaHead = head) :
    (log.step poll).RestsSince since head := by
  obtain ⟨before, seen, after, split, time, heads⟩ := rests
  refine ⟨before, seen, after ++ [⟨log.now poll, (log.found poll).dmaHead⟩], ?_, time, ?_⟩
  · simp only [PollLog.step, split, List.append_assoc, List.cons_append]
  · intro observation member
    rw [← List.cons_append, List.mem_append, List.mem_singleton] at member
    rcases member with earlier | rfl
    · exact heads observation earlier
    · exact same

/-- While a frame is received the deadline has passed exactly when three ticks
have. -/
theorem Waits.passed_iff
    (waits : log.Waits)
    (short : poll.advance < 2147483645)
    (receiving : (log.found poll).rtuState = .rtuReceiving) :
    ∃ since, log.RestsSince since (log.found poll).rtuLastHead ∧
      (log.found poll).rtuDeadline = reading (since + 3) ∧
      since ≤ log.now poll ∧
      (0 ≤ ((log.found poll).msTicks - (log.found poll).rtuDeadline).toInt32 ↔
        since + 3 ≤ log.now poll) := by
  obtain ⟨stillReceiving, sameHead, sameDeadline⟩ := found_of_receiving receiving
  obtain ⟨since, rests, deadline, after, before⟩ := waits stillReceiving
  have time : log.now poll = log.time + poll.advance := rfl
  rw [sameHead, sameDeadline, found_msTicks, deadline]
  exact ⟨since, rests, rfl, by omega,
    WrappingClock.passed_iff (by omega) (by omega)⟩

/-- Every poll keeps the deadline with the stretch in which the head rests. -/
theorem Waits.step
    (waits : log.Waits)
    (short : poll.advance < 2147483645) :
    (log.step poll).Waits := by
  have deadline : (log.found poll).msTicks + 3 = reading (log.now poll + 3) := by
    rw [found_msTicks]
    exact WrappingClock.reading_add _ 3
  have fresh := restsSince_step log poll
  have time : (log.step poll).time = log.now poll := rfl
  have polled : (log.step poll).uart = (log.found poll).rtuPoll := rfl
  intro receiving
  rw [polled] at receiving ⊢
  rw [time]
  cases state : (log.found poll).rtuState with
  | rtuIdle =>
      simp only [Uart.rtuPoll, state] at receiving ⊢
      split at receiving
      · exact absurd (state.symm.trans receiving) (by decide)
      split at receiving
      case isTrue free moved =>
        rw [if_neg free, if_pos moved]
        exact ⟨log.now poll, fresh, deadline, by omega, by omega⟩
      case isFalse => exact absurd (state.symm.trans receiving) (by decide)
  | rtuReceiving =>
      obtain ⟨since, rests, sameDeadline, after, passed⟩ := waits.passed_iff short state
      simp only [Uart.rtuPoll, state] at receiving ⊢
      split at receiving
      case isTrue moved =>
        rw [if_pos moved]
        exact ⟨log.now poll, fresh, deadline, by omega, by omega⟩
      case isFalse still =>
        split at receiving
        case isTrue => cases receiving
        case isFalse early =>
          rw [if_neg still, if_neg early]
          rw [passed] at early
          exact ⟨since, rests.step (not_not.mp still), sameDeadline, after, by omega⟩

end

theorem Waits.run
    {log : PollLog}
    (waits : log.Waits)
    (polls : List Poll)
    (short : ∀ each ∈ polls, each.advance < 2147483645) :
    (Transition.run PollLog.step log polls).Waits := by
  induction polls generalizing log with
  | nil => exact waits
  | cons poll polls inductionHypothesis =>
      rw [List.forall_mem_cons] at short
      exact inductionHypothesis (waits.step short.1) short.2

/-- Every run of the receiver is a sequence of polls with other events between
and behind them. -/
theorem exists_polls (events : List UartEvent) :
    ∃ (polls : List Poll) (time : Nat) (last : Uart),
      let log := Transition.run step (start 0) polls
      log.uart.KeepsPoll last ∧ last.msTicks = reading (log.time + time) ∧
        Transition.run Uart.step Uart.powerOn events = last := by
  induction events using List.reverseRecOn with
  | nil => exact ⟨[], 0, Uart.powerOn, ⟨rfl, rfl, rfl⟩, rfl, rfl⟩
  | append_singleton events event inductionHypothesis =>
      obtain ⟨polls, time, last, keeps, tick, reached⟩ := inductionHypothesis
      rw [Transition.run_append, reached, Transition.run_cons, Transition.run_nil]
      by_cases other : event = .poll
      · subst other
        let log := Transition.run step (start 0) polls
        let poll : Poll := { advance := time, restarted := false, others := last }
        have found : log.found poll = last := by
          obtain ⟨state, lastHead, deadline⟩ := keeps
          have kept : log.found poll =
              { last with
                rtuState := log.uart.rtuState
                rtuLastHead := log.uart.rtuLastHead
                rtuDeadline := log.uart.rtuDeadline
                msTicks := reading (log.time + time) } := rfl
          rw [kept, ← state, ← lastHead, ← deadline, ← tick]
        refine ⟨polls ++ [poll], 0, last.rtuPoll, ?_⟩
        rw [Transition.run_append, Transition.run_cons, Transition.run_nil]
        have polled : (log.step poll).uart = last.rtuPoll := by
          rw [← found]
          rfl
        refine ⟨?_, ?_, rfl⟩
        · rw [polled]
          exact ⟨rfl, rfl, rfl⟩
        · rw [Uart.rtuPoll_msTicks, tick]
          rfl
      · obtain ⟨kept, advance, moved⟩ := last.step_of_ne_poll other
        refine ⟨polls, time + advance, last.step event, keeps.trans kept, ?_, rfl⟩
        rw [moved, tick, WrappingClock.reading_add, Nat.add_assoc]

/-- Along every sequence of polls less than half of the tick range apart, a poll
sets `rtu_frame_ready` only when some earlier poll at least three ticks before it
and all polls since then have observed the head that it latches, and no poll
starts a frame while one is ready. -/
theorem polls_waitForSilence
    (time : Nat)
    (polls : List Poll)
    (poll : Poll)
    (short : ∀ each ∈ polls ++ [poll], each.advance < 2147483645) :
    let log := Transition.run step (start time) polls
    ((log.found poll).SetsFrameReady →
      ∃ before seen after, log.observed = before ++ seen :: after ∧
        seen.time + 3 ≤ log.now poll ∧
        (∀ observation ∈ seen :: after,
          observation.head = (log.found poll).dmaHead) ∧
        (log.step poll).uart.rtuFrameHead = (log.found poll).dmaHead) ∧
      ((log.found poll).StartsFrame → (log.found poll).rtuFrameReady = 0) := by
  intro log
  have waits : log.Waits := Waits.run (start_waits time) polls
    fun each member => short each (List.mem_append_left _ member)
  refine ⟨fun sets => ?_, fun starts => starts.notReady⟩
  have rested := (Uart.setsFrameReady_iff _).mp sets
  obtain ⟨since, ⟨before, seen, after, split, time, heads⟩, -, -, passed⟩ :=
    waits.passed_iff (short poll (by simp)) rested.1
  refine ⟨before, seen, after, split, ?_, ?_, rested.frameHead⟩
  · rw [time]
    exact passed.mp rested.2.2
  · rw [rested.2.1]
    exact heads

/-- A poll that finds five bytes behind the tail. -/
def fiveBytes (advance : Nat) : Poll where
  advance := advance
  restarted := false
  others := { Uart.powerOn with ndtr := 251 }

/-- Two polls three ticks apart, with the tick wrapping around between them,
complete a frame of five bytes. -/
theorem polls_waitForSilence_wraps :
    let log := Transition.run step (start 4294967294) [fiveBytes 0]
    ∃ before seen after, log.observed = before ++ seen :: after ∧
      seen.time + 3 ≤ 4294967297 ∧
      (∀ observation ∈ seen :: after, observation.head = 5) ∧
      (log.step (fiveBytes 3)).uart.rtuFrameHead = 5 :=
  (polls_waitForSilence 4294967294 [fiveBytes 0] (fiveBytes 3) (by decide +kernel)).1
    (by unfold Uart.SetsFrameReady; decide +kernel)

end PollLog

end SensorFirmware
