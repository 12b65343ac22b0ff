import SensorFirmware.Library.CounterWait

/-!
# Delays

`Delay_us` polls the microsecond counter and `Delay_ms` the millisecond tick until enough
steps have gone by since the first reading.  That reading may come just before a step, so
a delay may be one step short, but no more.  It ends no later than the first poll behind its
duration unless the loop is kept from polling for so long that the counter wraps around.
-/

namespace SensorFirmware

namespace DelayTimer

open CounterWait (endOfWait reading shown)

/-! ## The code -/

/-- `DelayTimer::delayUs`, by the moments at which it reads `TIM6->CNT`; none when it goes
on behind them. -/
def delayUs (cnt : τ → UInt16) (us : UInt16) : List τ → Option τ
  | [] => none
  | start :: polls => polls.find? fun now => ¬ cnt now - cnt start < us

/-- `DelayTimer::delayMs`, by the moments at which it reads `g_ms_ticks`. -/
def delayMs (gMsTicks : τ → UInt32) (ms : UInt16) : List τ → Option τ
  | [] => none
  | start :: polls => polls.find? fun now => ¬ gMsTicks now - gMsTicks start < ms.toUInt32

/-- `TIM6->CNT` of an ideal clock at a time in nanoseconds. -/
def idealCnt (time : Nat) : UInt16 := UInt16.ofNat (time / 1000)

/-- `g_ms_ticks` of an ideal clock. -/
def idealTicks (time : Nat) : UInt32 := UInt32.ofNat (time / 1000000)

/-- The microseconds that `Delay_us` lasts at least. -/
def leastUs (us : Nat) : Nat := us - 1

/-- The microseconds that `Delay_ms` lasts at least. -/
def leastMs (ms : Nat) : Nat := 1000 * (ms - 1)

/-! ## The loops -/

theorem delayUs_eq
    (us : UInt16)
    (start : Nat)
    (polls : List Nat) :
    delayUs idealCnt us (start :: polls) = endOfWait 1000 65536 us.toNat start polls := by
  rw [delayUs, endOfWait]
  congr 1
  funext now
  rw [decide_eq_decide, UInt16.not_lt, UInt16.le_iff_toNat_le, UInt16.toNat_sub, shown,
    reading, reading, idealCnt, idealCnt, UInt16.toNat_ofNat', UInt16.toNat_ofNat',
    Nat.add_comm]

theorem delayMs_eq
    (ms : UInt16)
    (start : Nat)
    (polls : List Nat) :
    delayMs idealTicks ms (start :: polls) =
      endOfWait 1000000 4294967296 ms.toNat start polls := by
  rw [delayMs, endOfWait]
  congr 1
  funext now
  rw [decide_eq_decide, UInt32.not_lt, UInt32.le_iff_toNat_le, UInt32.toNat_sub,
    UInt16.toNat_toUInt32, shown, reading, reading, idealTicks, idealTicks,
    UInt32.toNat_ofNat', UInt32.toNat_ofNat', Nat.add_comm]

/-- Whatever interrupts the loops of a delay, neither ends a whole step early, and each ends
no later than any poll behind its duration, unless it is kept from polling until its counter
has almost wrapped around. -/
theorem delays_bounded
    {start gap : Nat}
    {polls : List Nat}
    (close : (start :: polls).IsChain fun earlier poll =>
      earlier ≤ poll ∧ poll ≤ earlier + gap)
    (duration : UInt16) :
    (∀ now, delayUs idealCnt duration (start :: polls) = some now →
      start + 1000 * leastUs duration.toNat ≤ now) ∧
    (∀ now, delayMs idealTicks duration (start :: polls) = some now →
      start + 1000 * leastMs duration.toNat ≤ now) ∧
    (duration.toNat * 1000 + gap + 1000 < 65536000 →
      (∃ poll ∈ polls, start + duration.toNat * 1000 ≤ poll) →
      ∃ now, delayUs idealCnt duration (start :: polls) = some now ∧
        now ≤ start + duration.toNat * 1000 + gap ∧
        ∀ poll ∈ polls, start + duration.toNat * 1000 ≤ poll → now ≤ poll) ∧
    (duration.toNat * 1000000 + gap + 1000000 < 4294967296000000 →
      (∃ poll ∈ polls, start + duration.toNat * 1000000 ≤ poll) →
      ∃ now, delayMs idealTicks duration (start :: polls) = some now ∧
        now ≤ start + duration.toNat * 1000000 + gap ∧
        ∀ poll ∈ polls, start + duration.toNat * 1000000 ≤ poll → now ≤ poll) := by
  have later := CounterWait.le_of_close close
  rw [delayUs_eq, delayMs_eq]
  refine ⟨?_, ?_, ?_, ?_⟩
  · intro now ends
    have late := CounterWait.endOfWait_late (by decide) (by decide) later ends
    have after := later now (List.mem_of_find?_eq_some ends)
    rw [leastUs]
    omega
  · intro now ends
    have late := CounterWait.endOfWait_late (by decide) (by decide) later ends
    have after := later now (List.mem_of_find?_eq_some ends)
    rw [leastMs]
    omega
  · intro fits goesOn
    have inRange : duration.toNat * 1000 + gap + 1000 < 65536 * 1000 := fits
    have notBefore := Nat.le_add_right start (duration.toNat * 1000)
    exact CounterWait.endOfWait_inTime (by decide) inRange (Nat.le_refl start) notBefore close
      goesOn
  · intro fits goesOn
    have inRange : duration.toNat * 1000000 + gap + 1000000 < 4294967296 * 1000000 := fits
    have notBefore := Nat.le_add_right start (duration.toNat * 1000000)
    exact CounterWait.endOfWait_inTime (by decide) inRange (Nat.le_refl start) notBefore close
      goesOn

/-- The delay of fifty microseconds behind an instruction of the display, which starts just
before a step of the counter. -/
theorem delays_bounded_fifty :
    ∃ now, delayUs idealCnt 50 [999, 20000, 49990, 50010, 51000, 60000] = some now ∧
      now ≤ 999 + 50 * 1000 + 30000 ∧ now ≤ 51000 := by
  have close : [999, 20000, 49990, 50010, 51000, 60000].IsChain fun earlier poll =>
      earlier ≤ poll ∧ poll ≤ earlier + 30000 := by decide
  obtain ⟨now, ends, bounded, first⟩ :=
    (delays_bounded close 50).2.2.1 (by decide) ⟨60000, by decide, by decide⟩
  exact ⟨now, ends, bounded, first 51000 (by decide) (by decide)⟩

end DelayTimer

end SensorFirmware
