import SensorFirmware.App.Firmware
import SensorFirmware.Library.WrappingClock
import SensorFirmware.Sensor.Timing

/-!
# The schedule of the sensor

An iteration of the main loop accesses the sensor as soon as the pause behind the last
access is over.  The tick wraps around every 50 days, and the service compares only its low
32 bits, but the accesses keep to the schedule of a clock that never wraps as long as no
iteration takes half of that range.
-/

namespace SensorFirmware

open WrappingClock (reading reading_add reading_toNat passed_iff sub_toNat)

/-- The later access is the next one in turn, and comes with the first call behind the
pause, if the calls are no farther apart than the gap. -/
structure LogEntry.FollowedBy (gap : Nat) (earlier later : LogEntry) : Prop where
  precedes : earlier.Precedes later
  prompt : later.timeMs < earlier.timeMs + earlier.access.pauseMs + gap

/-- There is a pause behind every access. -/
theorem Access.pauseMs_pos
    {access : Access}
    (accesses : access ≠ .idle) :
    0 < access.pauseMs := by
  cases access with
  | idle => exact absurd rfl accesses
  | triggerFailed status =>
      rw [pauseMs]
      split <;> decide
  | triggered | readFailed | rejected | accepted => exact Nat.succ_pos _

namespace ClockedSystem

/-- A call without an access comes before the pause is over. -/
theorem Awaits.lt_of_idle
    {state : ClockedSystem D}
    {last : LogEntry}
    (awaits : state.Awaits last)
    {call : SensorCall}
    (notLong : state.callMs call < last.timeMs + last.access.pauseMs + 2147483648)
    (idle : (state.entry call).access = .idle) :
    state.callMs call < last.timeMs + last.access.pauseMs := by
  have past : last.timeMs ≤ state.callMs call :=
    Nat.le_trans awaits.past (Nat.le_add_right _ _)
  have cycle := state.system.process_cycle (state.callMs call).toUInt32 call.reply
  simp only [entry] at idle
  rw [idle] at cycle
  generalize state.system.process (state.callMs call).toUInt32 call.reply = after at cycle
  cases cycle with
  | earlyTrigger triggering early =>
      have other : last.access ≠ .triggered := by
        intro triggered
        rw [(awaits.readNext triggered).1] at triggering
        exact absurd triggering (by decide)
      rw [(awaits.triggerNext other).2] at early
      by_contra due
      have passed := (passed_iff notLong (by omega)).mpr (Nat.not_lt.mp due)
      rw [← reading_add] at passed
      exact absurd early (Int32.not_lt.mpr passed)
  | earlyRead reading early =>
      have triggered : last.access = .triggered := by
        by_contra other
        rw [(awaits.triggerNext other).1] at reading
        exact absurd reading (by decide)
      rw [(awaits.readNext triggered).2, UInt32.lt_iff_toNat_lt] at early
      have pause : last.access.pauseMs = 20 := by rw [triggered, Access.pauseMs]
      have delay : measureDelayMs.toNat = 20 := rfl
      have elapsed := lt_of_eq_of_lt (sub_toNat (state.callMs call) last.timeMs).symm early
      omega

end ClockedSystem

/-! ## Iterations against the clock -/

/-- The firmware and the milliseconds since the start. -/
structure ClockedFirmware (D : Type) where
  clockMs : Nat
  fw : Firmware D

/-- What an iteration receives, the tick apart, and the time since the one before it. -/
structure TimedInput where
  elapsedMs : Nat
  input : FirmwareInput

namespace ClockedFirmware

variable [DoubleArith D] [DoubleLayout D]

/-- The time of an iteration. -/
def nowMs (state : ClockedFirmware D) (timed : TimedInput) : Nat :=
  state.clockMs + timed.elapsedMs

/-- `GetTick` returns the low 32 bits of the time. -/
def ticked (state : ClockedFirmware D) (timed : TimedInput) : FirmwareInput :=
  { timed.input with nowMs := (state.nowMs timed).toUInt32 }

def step (i2c1 : I2c1) (state : ClockedFirmware D) (timed : TimedInput) :
    ClockedFirmware D where
  clockMs := state.nowMs timed
  fw := state.fw.iterate i2c1 (state.ticked timed)

/-- The access of an iteration. -/
def entry (i2c1 : I2c1) (state : ClockedFirmware D) (timed : TimedInput) : LogEntry where
  timeMs := state.nowMs timed
  access := state.fw.access i2c1 (state.ticked timed)

/-- The accesses of a run, in order. -/
def log (i2c1 : I2c1) (state : ClockedFirmware D) (inputs : List TimedInput) :
    List LogEntry :=
  (Transition.outputs (step i2c1) (entry i2c1) state inputs).filter (·.access ≠ .idle)

/-- The system in front of the sensor service, at the time of the iteration before. -/
def beforeSensor (state : ClockedFirmware D) (timed : TimedInput) : ClockedSystem D where
  clockMs := state.clockMs
  system := (state.fw.beforeSensor (state.ticked timed)).system

/-- The call of the sensor service in an iteration. -/
def sensorCall (i2c1 : I2c1) (state : ClockedFirmware D) (timed : TimedInput) :
    SensorCall where
  elapsedMs := timed.elapsedMs
  reply := (state.beforeSensor timed).system.replyOn i2c1 state.fw.bus

/-- The service waits for the access after the last one, whose pause is not over. -/
structure OnSchedule (state : ClockedFirmware D) (last : LogEntry) : Prop where
  awaits : ClockedSystem.Awaits ⟨state.clockMs, state.fw.app.system⟩ last
  pauses : state.clockMs < last.timeMs + last.access.pauseMs

section

variable (i2c1 : I2c1) (state : ClockedFirmware D) (timed : TimedInput)

theorem entry_eq :
    state.entry i2c1 timed =
      (state.beforeSensor timed).entry (state.sensorCall i2c1 timed) := rfl

theorem step_clockMs :
    (state.step i2c1 timed).clockMs =
      ((state.beforeSensor timed).step (state.sensorCall i2c1 timed)).clockMs := rfl

/-- Of an iteration only the call of the sensor service changes the service. -/
theorem step_service :
    (state.step i2c1 timed).fw.app.system.service =
      ((state.beforeSensor timed).step (state.sensorCall i2c1 timed)).system.service := by
  rw [step, Firmware.iterate_system, Firmware.recovered_service, System.processOn_system]
  rfl

end

end ClockedFirmware

/-- Only the clock and the service decide what is awaited. -/
theorem ClockedSystem.Awaits.of_service
    {state other : ClockedSystem D}
    {last : LogEntry}
    (awaits : state.Awaits last)
    (clock : other.clockMs = state.clockMs)
    (service : other.system.service = state.system.service) :
    other.Awaits last where
  past := by
    rw [clock]
    exact awaits.past
  readNext := by
    rw [service]
    exact awaits.readNext
  triggerNext := by
    rw [service]
    exact awaits.triggerNext

namespace ClockedFirmware

variable [DoubleArith D] [DoubleLayout D]

/-- What the service awaits behind its call, it awaits in the next iteration. -/
theorem awaits_step
    (i2c1 : I2c1)
    (state : ClockedFirmware D)
    (timed : TimedInput)
    {last : LogEntry}
    (awaits : ((state.beforeSensor timed).step (state.sensorCall i2c1 timed)).Awaits last) :
    ClockedSystem.Awaits
      ⟨(state.step i2c1 timed).clockMs, (state.step i2c1 timed).fw.app.system⟩ last := by
  refine awaits.of_service ?_ ?_
  · exact state.step_clockMs i2c1 timed
  · dsimp only
    rw [step_service]

/-- An access sets the schedule up for the next one. -/
theorem onSchedule_entry
    (i2c1 : I2c1)
    (state : ClockedFirmware D)
    (timed : TimedInput)
    (accesses : (state.entry i2c1 timed).access ≠ .idle) :
    (state.step i2c1 timed).OnSchedule (state.entry i2c1 timed) := by
  have clock : (state.step i2c1 timed).clockMs = (state.entry i2c1 timed).timeMs := rfl
  constructor
  · rw [entry_eq] at accesses ⊢
    exact state.awaits_step i2c1 timed ((state.beforeSensor timed).awaits_entry _ accesses)
  · rw [clock]
    exact Nat.lt_add_of_pos_right (Access.pauseMs_pos accesses)

namespace OnSchedule

variable {state : ClockedFirmware D} {last : LogEntry} (onSchedule : state.OnSchedule last)
variable (i2c1 : I2c1) (timed : TimedInput)

include onSchedule

theorem beforeSensor : (state.beforeSensor timed).Awaits last :=
  onSchedule.awaits.of_service rfl (state.fw.beforeSensor_service _)

/-- An iteration without an access still finds the pause. -/
theorem of_idle
    (short : timed.elapsedMs < 2147483648)
    (idle : (state.entry i2c1 timed).access = .idle) :
    (state.step i2c1 timed).OnSchedule last := by
  have waiting := onSchedule.beforeSensor timed
  have pauses := onSchedule.pauses
  have now : (state.beforeSensor timed).callMs (state.sensorCall i2c1 timed) =
      state.clockMs + timed.elapsedMs := rfl
  have notLong : (state.beforeSensor timed).callMs (state.sensorCall i2c1 timed) <
      last.timeMs + last.access.pauseMs + 2147483648 := by
    rw [now]
    omega
  rw [entry_eq] at idle
  constructor
  · exact state.awaits_step i2c1 timed (waiting.of_idle idle)
  · rw [step_clockMs]
    exact waiting.lt_of_idle notLong idle

/-- An access is the next one in turn, and comes with the first iteration behind the
pause. -/
theorem followedBy
    {gap : Nat}
    (short : timed.elapsedMs ≤ gap)
    (accesses : (state.entry i2c1 timed).access ≠ .idle) :
    last.FollowedBy gap (state.entry i2c1 timed) := by
  have pauses := onSchedule.pauses
  have now : (state.entry i2c1 timed).timeMs = state.clockMs + timed.elapsedMs := rfl
  constructor
  · rw [entry_eq] at accesses ⊢
    exact (onSchedule.beforeSensor timed).precedes accesses
  · rw [now]
    omega

end OnSchedule

theorem log_cons
    (i2c1 : I2c1)
    (state : ClockedFirmware D)
    (timed : TimedInput)
    (inputs : List TimedInput) :
    state.log i2c1 (timed :: inputs) =
      if (state.entry i2c1 timed).access ≠ .idle then
        state.entry i2c1 timed :: (state.step i2c1 timed).log i2c1 inputs
      else (state.step i2c1 timed).log i2c1 inputs := by
  simp only [log, Transition.outputs, List.filter_cons, decide_eq_true_eq]

/-- A run goes on on schedule. -/
theorem OnSchedule.run
    {i2c1 : I2c1}
    {state : ClockedFirmware D}
    {last : LogEntry}
    (onSchedule : state.OnSchedule last)
    {gap : Nat}
    (short : gap < 2147483648)
    {inputs : List TimedInput}
    (frequent : ∀ timed ∈ inputs, timed.elapsedMs ≤ gap) :
    List.IsChain (LogEntry.FollowedBy gap) (last :: state.log i2c1 inputs) ∧
      ∃ latest ∈ (last :: state.log i2c1 inputs).getLast?,
        (Transition.run (ClockedFirmware.step i2c1) state inputs).OnSchedule latest := by
  induction inputs generalizing state last with
  | nil => exact ⟨List.isChain_singleton last, last, rfl, onSchedule⟩
  | cons timed inputs inductionHypothesis =>
      obtain ⟨first, rest⟩ := List.forall_mem_cons.mp frequent
      rw [log_cons, Transition.run_cons]
      split
      case isTrue accesses =>
        obtain ⟨chain, latest, isLast, after⟩ :=
          inductionHypothesis (state.onSchedule_entry i2c1 timed accesses) rest
        refine ⟨List.isChain_cons_cons.mpr
          ⟨onSchedule.followedBy i2c1 timed first accesses, chain⟩, latest, ?_, after⟩
        rwa [List.getLast?_cons_cons]
      case isFalse idle =>
        exact inductionHypothesis
          (onSchedule.of_idle i2c1 timed (by omega) (not_not.mp idle)) rest

/-- The firmware after its start, with the tick at zero. -/
def boot
    (i2c1 : I2c1)
    (build : BuildInfo)
    (sector : ConfigSector)
    (padding : Vector UInt8 2)
    (replies : SaveReplies)
    (watchdogReset : Bool) : ClockedFirmware D where
  clockMs := 0
  fw := Firmware.boot i2c1 build sector padding replies watchdogReset

theorem boot_service
    (i2c1 : I2c1)
    (build : BuildInfo)
    (sector : ConfigSector)
    (padding : Vector UInt8 2)
    (replies : SaveReplies)
    (watchdogReset : Bool) :
    (boot i2c1 build sector padding replies watchdogReset :
      ClockedFirmware D).fw.app.system.service = SensorService.initialize :=
  Firmware.boot_service i2c1 build sector padding replies watchdogReset

/-- The first iteration triggers a measurement. -/
theorem boot_entry
    (i2c1 : I2c1)
    (build : BuildInfo)
    (sector : ConfigSector)
    (padding : Vector UInt8 2)
    (replies : SaveReplies)
    (watchdogReset : Bool)
    {first : TimedInput}
    (short : first.elapsedMs < 2147483648) :
    ((boot i2c1 build sector padding replies watchdogReset :
      ClockedFirmware D).entry i2c1 first).access.isTrigger = true := by
  have service := boot_service i2c1 build sector padding replies watchdogReset (D := D)
  generalize started : (boot i2c1 build sector padding replies watchdogReset :
    ClockedFirmware D) = start at service ⊢
  have now : start.nowMs first = first.elapsedMs := by
    rw [nowMs, ← started]
    exact Nat.zero_add _
  have same : (start.beforeSensor first).system.service = SensorService.initialize := by
    rw [beforeSensor, Firmware.beforeSensor_service, service]
  have due : ¬ ((start.nowMs first).toUInt32 -
      (start.beforeSensor first).system.service.nextTriggerTimeMs).toInt32 < 0 := by
    have early : start.nowMs first < 0 + 2147483648 := by
      rw [now]
      omega
    have passed := (passed_iff early (Nat.zero_le _)).mpr (Nat.zero_le (start.nowMs first))
    rw [same]
    exact Int32.not_lt.mpr passed
  have cycle := (start.beforeSensor first).system.process_cycle (start.nowMs first).toUInt32
    (start.sensorCall i2c1 first).reply
  have triggering : (start.beforeSensor first).system.service.state ≠ .read := by
    rw [same]
    decide
  have access : (start.entry i2c1 first).access = (start.beforeSensor first).system.access
    (start.nowMs first).toUInt32 (start.sensorCall i2c1 first).reply := rfl
  rw [access]
  generalize (start.beforeSensor first).system.access _ _ = access,
    (start.beforeSensor first).system.process _ _ = after at cycle ⊢
  cases cycle with
  | earlyTrigger _ early => exact absurd early due
  | triggered | triggerFailed => rfl
  | earlyRead reading | readFailed reading | rejected reading =>
      exact absurd reading triggering
  | accepted _ _ accepts => exact absurd accepts.1 triggering

/-- In every run from the start whose iterations are no farther apart than the gap, and this
less than half of the range of the tick, the first iteration triggers a measurement, each
access after it comes with the first iteration behind the pause of the one before, triggers
and reads in turn, and no access is overdue at the end.  The wrap-around of the tick does not
show. -/
theorem run_accessesOnTime
    (i2c1 : I2c1)
    (build : BuildInfo)
    (sector : ConfigSector)
    (padding : Vector UInt8 2)
    (replies : SaveReplies)
    (watchdogReset : Bool)
    {gap : Nat}
    (short : gap < 2147483648)
    (first : TimedInput)
    (inputs : List TimedInput)
    (frequent : ∀ timed ∈ first :: inputs, timed.elapsedMs ≤ gap) :
    let start : ClockedFirmware D := boot i2c1 build sector padding replies watchdogReset
    let log := start.log i2c1 (first :: inputs)
    List.IsChain (LogEntry.FollowedBy gap) log ∧
      (∃ entry ∈ log.head?, entry.timeMs = first.elapsedMs ∧ entry.access.isTrigger = true) ∧
      ∃ latest ∈ log.getLast?,
        (Transition.run (step i2c1) start (first :: inputs)).clockMs <
          latest.timeMs + latest.access.pauseMs := by
  intro start log
  obtain ⟨soon, later⟩ := List.forall_mem_cons.mp frequent
  have trigger := boot_entry i2c1 build sector padding replies watchdogReset (D := D)
    (Nat.lt_of_le_of_lt soon short)
  have accesses : (start.entry i2c1 first).access ≠ .idle := by
    intro idle
    rw [idle] at trigger
    exact absurd trigger Bool.false_ne_true
  have now : (start.entry i2c1 first).timeMs = first.elapsedMs := Nat.zero_add _
  have logged : log = start.entry i2c1 first :: (start.step i2c1 first).log i2c1 inputs := by
    rw [show log = start.log i2c1 (first :: inputs) from rfl, log_cons, if_pos accesses]
  obtain ⟨chain, latest, isLast, after⟩ :=
    (start.onSchedule_entry i2c1 first accesses).run short later
  rw [logged]
  exact ⟨chain, ⟨_, rfl, now, trigger⟩, latest, isLast, after.pauses⟩

/-- Four iterations over more than the range of the tick. -/
theorem run_accessesOnTime_wrapped :
    let i2c1 : I2c1 := ⟨fun _ => 0, fun _ => 0, fun _ => 0, fun _ => 0⟩
    let start : ClockedFirmware Binary64 :=
      boot i2c1 BuildInfo.unitTest (FlashMemory.erased _) #v[0, 0] .done false
    let first : TimedInput := ⟨7, Firmware.silentInput 0⟩
    let inputs := List.replicate 3 (⟨2147000000, Firmware.silentInput 0⟩ : TimedInput)
    let log := start.log i2c1 (first :: inputs)
    let after := Transition.run (step i2c1) start (first :: inputs)
    UInt32.size < after.clockMs ∧
      List.IsChain (LogEntry.FollowedBy 2147000000) log ∧
      (∃ entry ∈ log.head?, entry.timeMs = 7 ∧ entry.access.isTrigger = true) ∧
      ∃ latest ∈ log.getLast?, after.clockMs < latest.timeMs + latest.access.pauseMs := by
  intro i2c1 start first inputs log after
  have short : 2147000000 < 2147483648 := by decide
  have frequent : ∀ timed ∈ first :: inputs, timed.elapsedMs ≤ 2147000000 := by
    intro timed listed
    rcases List.mem_cons.mp listed with rfl | later
    · decide
    · rw [List.eq_of_mem_replicate later]
  refine ⟨?_, run_accessesOnTime i2c1 BuildInfo.unitTest (FlashMemory.erased _) #v[0, 0] .done
    false short first inputs frequent⟩
  show 4294967296 < 0 + 7 + 2147000000 + 2147000000 + 2147000000
  decide

end ClockedFirmware

end SensorFirmware
