import SensorFirmware.Drivers.Uart

/-!
# The frame timer

Two counters run while the line is silent.  The receive interrupts reset
`modbus_timer_counter`, but the tick compares `modbus_counter` with the limit,
and only an expiry resets that one.  A frame is therefore declared complete
after the whole silence exactly when the last receive interrupt found
`modbus_counter` at zero.
-/

namespace SensorFirmware

/-- The event is an IDLE or RXNE interrupt. -/
def UartEvent.isLineEvent : UartEvent → Bool
  | .usart1 rxne idle _ => rxne || idle
  | _ => false

/-- The next tick sets `rtu_frame_ready`. -/
def Uart.Expires (uart : Uart) : Prop :=
  uart.modbusTimerRunning ≠ 0 ∧ uart.modbusT35Steps ≤ uart.modbusCounter + 1

instance (uart : Uart) : Decidable uart.Expires :=
  inferInstanceAs (Decidable (_ ∧ _))

/-- The tick sets `rtu_frame_ready` exactly when the timer expires. -/
theorem Uart.onSysTickInterrupt_rtuFrameReady (uart : Uart) :
    uart.onSysTickInterrupt.rtuFrameReady =
      if uart.Expires then 1 else uart.rtuFrameReady := by
  by_cases expires : uart.Expires
  · obtain ⟨running, reached⟩ := expires
    rw [if_pos ⟨running, reached⟩]
    simp only [onSysTickInterrupt, if_pos running, if_pos reached]
    split <;> rfl
  · rw [if_neg expires]
    unfold onSysTickInterrupt
    by_cases running : uart.modbusTimerRunning ≠ 0
    · have counts : ¬ uart.modbusT35Steps ≤ uart.modbusCounter + 1 :=
        fun reached => expires ⟨running, reached⟩
      simp only [if_pos running, if_neg counts]
      split <;> rfl
    · simp only [if_neg running]
      split <;> rfl

/-- A receiver with what has happened since the last line event. -/
structure TimedUart where
  uart : Uart
  /-- The ticks since the last line event. -/
  ticks : Nat
  /-- `modbus_counter` when the last line event came. -/
  found : UInt16

namespace TimedUart

/-- The receiver after `DelayTimer::initialize` and `UART_Init`. -/
def started (uart : Uart) (baud : UInt32) : TimedUart where
  uart := uart.delayTimerInitialize.init baud
  ticks := 0
  found := 0

/-- The receiver after one event. -/
def step (timed : TimedUart) (event : UartEvent) : TimedUart where
  uart := timed.uart.step event
  ticks :=
    if event.isLineEvent then 0
    else if event = .sysTick then timed.ticks + 1
    else timed.ticks
  found := if event.isLineEvent then timed.uart.modbusCounter else timed.found

/-- A tick that declares a frame complete comes after the whole silence. -/
def WaitsForSilence (timed : TimedUart) (event : UartEvent) : Prop :=
  event = .sysTick → timed.uart.Expires →
    timed.uart.modbusT35Steps.toNat ≤ timed.ticks + 1

/-- A tick that declares a frame complete comes after a line event that found the
compared counter at zero, or the limit is at most one tick. -/
def CountsFromZero (timed : TimedUart) (event : UartEvent) : Prop :=
  event = .sysTick → timed.uart.Expires →
    timed.found = 0 ∨ timed.uart.modbusT35Steps ≤ 1

/-- While the timer runs, the compared counter goes on from what the last line
event found, and it stays below the limit. -/
structure Counting (timed : TimedUart) : Prop where
  running : timed.uart.modbusTimerRunning ≠ 0 →
    timed.uart.modbusT35Steps = Uart.t35Steps timed.uart.baudRate ∧
      timed.uart.modbusCounter.toNat = timed.found.toNat + timed.ticks
  bounded : timed.uart.modbusCounter = 0 ∨
    timed.uart.modbusCounter < timed.uart.modbusT35Steps ∧
      timed.uart.modbusT35Steps = Uart.t35Steps timed.uart.baudRate

theorem started_counting (uart : Uart) (baud : UInt32) :
    (started uart baud).Counting :=
  ⟨fun running => absurd rfl running, Or.inl rfl⟩

end TimedUart

namespace Uart

/-- An event leaves the frame timer alone. -/
structure KeepsTimer (before after : Uart) : Prop where
  running : after.modbusTimerRunning = before.modbusTimerRunning
  counter : after.modbusCounter = before.modbusCounter
  limit : after.modbusT35Steps = before.modbusT35Steps
  baudRate : after.baudRate = before.baudRate

theorem keepsTimer_rtuPoll (uart : Uart) : uart.KeepsTimer uart.rtuPoll := by
  cases state : uart.rtuState with
  | rtuIdle =>
      simp only [rtuPoll, state]
      split
      · exact ⟨rfl, rfl, rfl, rfl⟩
      split <;> exact ⟨rfl, rfl, rfl, rfl⟩
  | rtuReceiving =>
      simp only [rtuPoll, state]
      split
      · exact ⟨rfl, rfl, rfl, rfl⟩
      split <;> exact ⟨rfl, rfl, rfl, rfl⟩

theorem keepsTimer_fetchFrame (uart : Uart) (maxLength : UInt32) :
    uart.KeepsTimer (uart.fetchFrame maxLength).2 := by
  have frame (maxLen : UInt16) : uart.KeepsTimer (uart.getFrame maxLen).2 := by
    simp only [getFrame]
    split
    case isTrue empty => exact ⟨rfl, rfl, rfl, rfl⟩
    case isFalse some => exact ⟨rfl, rfl, rfl, rfl⟩
  unfold fetchFrame
  split
  · exact ⟨rfl, rfl, rfl, rfl⟩
  simp only
  split
  · exact ⟨rfl, rfl, rfl, rfl⟩
  · obtain ⟨running, counter, limit, baudRate⟩ :=
      frame (if 256 < maxLength then 256 else maxLength).toUInt16
    constructor <;> simp only [running, counter, limit, baudRate]

/-- What the receive interrupt does to the frame timer. -/
theorem usart1IrqHandler_timer
    (uart : Uart)
    (rxne idle tc : Bool) :
    let after := uart.usart1IrqHandler rxne idle tc
    after.modbusTimerRunning =
        (if idle then 1 else if rxne then 0 else uart.modbusTimerRunning) ∧
      after.modbusCounter = uart.modbusCounter ∧
      after.modbusT35Steps =
        (if idle then t35Steps uart.baudRate else uart.modbusT35Steps) ∧
      after.baudRate = uart.baudRate := by
  cases rxne <;> cases idle <;> cases tc <;> simp [usart1IrqHandler]

end Uart

namespace TimedUart

/-- An event that neither touches the timer nor comes from the line or the tick
keeps it counting. -/
theorem Counting.of_keepsTimer
    {timed : TimedUart}
    (counting : timed.Counting)
    {after : Uart}
    (keeps : timed.uart.KeepsTimer after) :
    Counting { timed with uart := after } := by
  obtain ⟨running, counter, limit, baudRate⟩ := keeps
  constructor
  · simp only [running, counter, limit, baudRate]
    exact counting.running
  · simp only [counter, limit, baudRate]
    exact counting.bounded

/-- A line event starts the count anew, but from what the counter holds. -/
theorem Counting.usart1
    {timed : TimedUart}
    (counting : timed.Counting)
    (rxne idle tc : Bool) :
    (timed.step (.usart1 rxne idle tc)).Counting := by
  have bounded := counting.bounded
  obtain ⟨runs, counter, limit, baudRate⟩ :=
    timed.uart.usart1IrqHandler_timer rxne idle tc
  constructor
  · simp only [step, Uart.step, runs, counter, limit, baudRate]
    cases idle with
    | true => exact fun _ => ⟨rfl, by simp [UartEvent.isLineEvent]⟩
    | false =>
        cases rxne with
        | true => exact fun running => absurd rfl running
        | false => exact counting.running
  · simp only [step, Uart.step, counter, limit, baudRate]
    cases idle with
    | false => exact bounded
    | true =>
        -- the limit is set again, for the baud rate that it had
        refine bounded.imp_right fun both => ?_
        rw [← both.2]
        exact ⟨both.1, rfl⟩

/-- The compared counter has room for one more tick. -/
theorem Counting.toNat_succ
    {timed : TimedUart}
    (counting : timed.Counting) :
    (timed.uart.modbusCounter + 1).toNat = timed.uart.modbusCounter.toNat + 1 := by
  have one : (1 : UInt16).toNat = 1 := rfl
  have limit := timed.uart.modbusT35Steps.toNat_lt
  rw [UInt16.toNat_add, one]
  obtain zero | ⟨below, -⟩ := counting.bounded
  · rw [zero]
    rfl
  · rw [UInt16.lt_iff_toNat_lt] at below
    omega

/-- A tick counts, or it expires the timer and clears the counter. -/
theorem Counting.sysTick
    {timed : TimedUart}
    (counting : timed.Counting) :
    (timed.step .sysTick).Counting := by
  have next := counting.toNat_succ
  have step : timed.step .sysTick =
      { timed with uart := timed.uart.onSysTickInterrupt, ticks := timed.ticks + 1 } := rfl
  rw [step]
  by_cases running : timed.uart.modbusTimerRunning = 0
  · -- a stopped timer leaves its variables alone
    have stopped : timed.uart.KeepsTimer timed.uart.onSysTickInterrupt := by
      simp only [Uart.onSysTickInterrupt, if_neg (not_not.mpr running)]
      split <;> exact ⟨rfl, rfl, rfl, rfl⟩
    obtain ⟨sameRunning, counter, limit, baudRate⟩ := stopped
    constructor
    · intro runs
      rw [sameRunning] at runs
      exact absurd running runs
    · simp only [counter, limit, baudRate]
      exact counting.bounded
  · obtain ⟨limit, counter⟩ := counting.running running
    by_cases expires : timed.uart.modbusT35Steps ≤ timed.uart.modbusCounter + 1
    · have cleared : timed.uart.onSysTickInterrupt.modbusTimerRunning = 0 ∧
          timed.uart.onSysTickInterrupt.modbusCounter = 0 := by
        simp only [Uart.onSysTickInterrupt, if_pos running, if_pos expires]
        split <;> exact ⟨rfl, rfl⟩
      exact ⟨fun runs => absurd cleared.1 runs, Or.inl cleared.2⟩
    · have counted : timed.uart.onSysTickInterrupt.modbusCounter =
            timed.uart.modbusCounter + 1 ∧
          timed.uart.onSysTickInterrupt.modbusT35Steps = timed.uart.modbusT35Steps ∧
          timed.uart.onSysTickInterrupt.baudRate = timed.uart.baudRate := by
        simp only [Uart.onSysTickInterrupt, if_pos running, if_neg expires]
        split <;> exact ⟨rfl, rfl, rfl⟩
      obtain ⟨increased, sameLimit, sameBaudRate⟩ := counted
      constructor
      · intro _
        simp only [increased, sameLimit, sameBaudRate]
        exact ⟨limit, by omega⟩
      · right
        simp only [increased, sameLimit, sameBaudRate]
        exact ⟨UInt16.not_le.mp expires, limit⟩

/-- Every event keeps the timer counting. -/
theorem Counting.step
    {timed : TimedUart}
    (counting : timed.Counting)
    (event : UartEvent) :
    (timed.step event).Counting := by
  cases event with
  | usart1 rxne idle tc => exact counting.usart1 rxne idle tc
  | sysTick => exact counting.sysTick
  | byte value => exact counting.of_keepsTimer ⟨rfl, rfl, rfl, rfl⟩
  | poll => exact counting.of_keepsTimer timed.uart.keepsTimer_rtuPoll
  | fetch maxLength =>
      exact counting.of_keepsTimer (timed.uart.keepsTimer_fetchFrame maxLength)

/-- A tick that expires the timer comes after the whole silence exactly when the
last line event found the compared counter at zero. -/
theorem Counting.waitsForSilence_iff
    {timed : TimedUart}
    (counting : timed.Counting)
    (event : UartEvent) :
    timed.WaitsForSilence event ↔ timed.CountsFromZero event := by
  refine imp_congr_right fun _ => imp_congr_right fun expires => ?_
  obtain ⟨running, reached⟩ := expires
  obtain ⟨-, counter⟩ := counting.running running
  have next := counting.toNat_succ
  have one : (1 : UInt16).toNat = 1 := rfl
  rw [UInt16.le_iff_toNat_le, next] at reached
  rw [UInt16.le_iff_toNat_le, one]
  constructor
  · intro waited
    by_cases short : timed.uart.modbusT35Steps.toNat ≤ 1
    · exact Or.inr short
    · left
      -- the counter was still below the limit before the tick
      obtain zero | ⟨below, -⟩ := counting.bounded
      · rw [zero] at counter
        apply UInt16.toNat.inj
        show _ = 0
        have : (0 : UInt16).toNat = 0 := rfl
        omega
      · rw [UInt16.lt_iff_toNat_lt] at below
        apply UInt16.toNat.inj
        show _ = 0
        omega
  · rintro (zero | short)
    · rw [zero] at counter
      have : (0 : UInt16).toNat = 0 := rfl
      omega
    · omega

/-- In every run after the initialization no frame is declared complete before
the whole silence, exactly when every frame is declared complete after a line
event that found the compared counter at zero, or within a limit of one tick. -/
theorem run_waitsForSilence_iff
    (uart : Uart)
    (baud : UInt32)
    (events : List UartEvent) :
    Transition.AllSteps step WaitsForSilence (started uart baud) events ↔
      Transition.AllSteps step CountsFromZero (started uart baud) events :=
  Transition.allSteps_congr_of_kept Counting (fun _ event counting => counting.step event)
    (fun _ event counting => counting.waitsForSilence_iff event)
    (started_counting uart baud) events

/-- Two pauses in one frame: the second follows 50 ticks after the first, and 30
ticks later the frame is declared complete. -/
def twoPauses : List UartEvent :=
  [.usart1 false true false] ++ List.replicate 50 .sysTick ++
    [.usart1 false true false] ++ List.replicate 30 .sysTick

/-- At 9600 baud the silence lasts 80 ticks, but 30 ticks end the frame. -/
theorem twoPauses_ends_early :
    ¬ Transition.AllSteps step WaitsForSilence (started Uart.powerOn 9600) twoPauses := by
  intro waits
  rw [Transition.allSteps_iff_forall_cut] at waits
  have last := waits twoPauses.dropLast .sysTick [] rfl rfl (by decide +kernel)
  exact absurd last (by decide +kernel)

end TimedUart

end SensorFirmware
