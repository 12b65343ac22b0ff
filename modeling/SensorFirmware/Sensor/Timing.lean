import SensorFirmware.Sensor.Accesses
import Mathlib.Data.List.Chain

/-!
# Timing of the sensor accesses

The service reads a millisecond counter of 32 bits.  It compares the counter
with the next trigger time as a signed difference and with the start of the
measurement as an unsigned one.  Against a clock that never wraps, neither
comparison lets an access come early, and triggers and reads take turns.
-/

namespace SensorFirmware

/-- A call of `process`, with the time since the call before it. -/
structure SensorCall where
  elapsedMs : Nat
  reply : I2cReply

/-- The system and the milliseconds since the start. -/
structure ClockedSystem (D : Type) where
  clockMs : Nat
  system : System D

/-- An access to the sensor and the time of its call. -/
structure LogEntry where
  timeMs : Nat
  access : Access

/-- The least time from an access to the one after it. -/
def Access.pauseMs : Access → Nat
  | .idle => 0
  | .triggered => 20
  | .triggerFailed status => if status = .busError then 50 else 100
  | .readFailed _ | .rejected => 100
  | .accepted => 1000

theorem Access.pauseMs_le (access : Access) : access.pauseMs ≤ 1000 := by
  unfold pauseMs
  split
  case h_3 status => split <;> omega
  all_goals omega

namespace ClockedSystem

/-- The system after `SensorService::initialize`. -/
def started (sys : System D) : ClockedSystem D where
  clockMs := 0
  system := { sys with service := SensorService.initialize }

/-- The time of a call. -/
def callMs (state : ClockedSystem D) (call : SensorCall) : Nat :=
  state.clockMs + call.elapsedMs

/-- One call: the counter holds the low 32 bits of the clock. -/
def step (state : ClockedSystem D) (call : SensorCall) : ClockedSystem D where
  clockMs := state.callMs call
  system := state.system.process (state.callMs call).toUInt32 call.reply

/-- What a call adds to the log. -/
def entry (state : ClockedSystem D) (call : SensorCall) : LogEntry where
  timeMs := state.callMs call
  access := state.system.access (state.callMs call).toUInt32 call.reply

/-- The accesses of a run, in order. -/
def log (state : ClockedSystem D) (calls : List SensorCall) : List LogEntry :=
  (Transition.outputs step entry state calls).filter (·.access ≠ .idle)

end ClockedSystem

/-! ## The counter -/

section

variable {start now delay : Nat} (after : start ≤ now) (short : delay ≤ 1000)

include after short

/-- The unsigned difference of two times is that of the clock. -/
theorem elapsed_of_not_lt
    (waited : ¬ now.toUInt32 - start.toUInt32 < delay.toUInt32) :
    start + delay ≤ now := by
  by_contra early
  apply waited
  have difference : now.toUInt32 - start.toUInt32 = (now - start).toUInt32 :=
    (UInt32.ofNat_sub after).symm
  rw [difference, UInt32.lt_iff_toNat_lt]
  simp only [Nat.toUInt32_eq, UInt32.toNat_ofNat']
  omega

/-- The signed difference to a time at most a second ahead is negative before
that time. -/
theorem due_of_not_neg
    (due : ¬ (now.toUInt32 - (start.toUInt32 + delay.toUInt32)).toInt32 < 0) :
    start + delay ≤ now := by
  by_contra early
  apply due
  have difference :
      (now.toUInt32 - (start.toUInt32 + delay.toUInt32)).toInt32.toInt =
        ((now : Int) - (start + delay)).bmod (2 ^ 32) := by
    simp
  rw [Int32.lt_iff_toInt_lt, difference, Int.bmod_eq_of_le (by omega) (by omega)]
  show (now : Int) - (start + delay) < 0
  omega

end

/-! ## One call -/

/-- The later access comes after the pause of the earlier one. -/
def LogEntry.Waits (earlier later : LogEntry) : Prop :=
  earlier.timeMs + earlier.access.pauseMs ≤ later.timeMs

instance : Trans LogEntry.Waits LogEntry.Waits LogEntry.Waits where
  trans first second :=
    Nat.le_trans first (Nat.le_trans (Nat.le_add_right _ _) second)

/-- The later access is due after the earlier one: it waits, and it is a read
exactly after a successful trigger. -/
structure LogEntry.Precedes (earlier later : LogEntry) : Prop where
  waits : earlier.Waits later
  turn : later.access.isRead = true ↔ earlier.access = .triggered

namespace ClockedSystem

/-- The service waits for the access after the last one. -/
structure Awaits (state : ClockedSystem D) (last : LogEntry) : Prop where
  past : last.timeMs ≤ state.clockMs
  readNext : last.access = .triggered →
    state.system.service.state = .read ∧
      state.system.service.measurementStartMs = last.timeMs.toUInt32
  triggerNext : last.access ≠ .triggered →
    state.system.service.state = .trigger ∧
      state.system.service.nextTriggerTimeMs =
        last.timeMs.toUInt32 + last.access.pauseMs.toUInt32

/-- An access sets the service up for the next one. -/
theorem awaits_entry
    (state : ClockedSystem D)
    (call : SensorCall)
    (accesses : (state.entry call).access ≠ .idle) :
    (state.step call).Awaits (state.entry call) := by
  have cycle := state.system.process_cycle (state.callMs call).toUInt32 call.reply
  refine ⟨Nat.le_refl _, ?_, ?_⟩
  · intro triggered
    simp only [entry, step] at triggered ⊢
    rw [triggered] at cycle
    generalize state.system.process (state.callMs call).toUInt32 call.reply = after at cycle ⊢
    cases cycle
    exact ⟨rfl, rfl⟩
  · intro other
    simp only [entry, step] at accesses other ⊢
    generalize state.system.access (state.callMs call).toUInt32 call.reply = access,
      state.system.process (state.callMs call).toUInt32 call.reply = after
      at cycle accesses other ⊢
    cases cycle with
    | earlyTrigger | earlyRead => exact absurd rfl accesses
    | triggered => exact absurd rfl other
    | triggerFailed =>
        refine ⟨rfl, ?_⟩
        show _ + _ = _ + _
        rw [Access.pauseMs]
        split <;> rfl
    | readFailed | rejected => exact ⟨rfl, rfl⟩
    | accepted =>
        rw [System.acceptReading_service]
        exact ⟨rfl, rfl⟩

/-- The next access is due after the last one. -/
theorem Awaits.precedes
    {state : ClockedSystem D}
    {last : LogEntry}
    (awaits : state.Awaits last)
    {call : SensorCall}
    (accesses : (state.entry call).access ≠ .idle) :
    last.Precedes (state.entry call) := by
  have past : last.timeMs ≤ state.callMs call :=
    Nat.le_trans awaits.past (Nat.le_add_right _ _)
  have cycle := state.system.process_cycle (state.callMs call).toUInt32 call.reply
  by_cases triggered : last.access = .triggered
  · obtain ⟨reading, started⟩ := awaits.readNext triggered
    have waits
        (waited : ¬ (state.callMs call).toUInt32 -
          state.system.service.measurementStartMs < measureDelayMs) :
        last.timeMs + last.access.pauseMs ≤ state.callMs call := by
      rw [started] at waited
      rw [triggered]
      exact elapsed_of_not_lt past (by decide) waited
    have turn {access : Access} (isRead : access.isRead = true) :
        access.isRead = true ↔ last.access = .triggered :=
      iff_of_true isRead triggered
    simp only [entry] at accesses ⊢
    generalize state.system.access (state.callMs call).toUInt32 call.reply = access,
      state.system.process (state.callMs call).toUInt32 call.reply = after at cycle accesses ⊢
    cases cycle with
    | earlyTrigger | earlyRead => exact absurd rfl accesses
    | triggered state | triggerFailed state =>
        rw [reading] at state
        exact absurd state (by decide)
    | readFailed _ waited | rejected _ waited => exact ⟨waits waited, turn rfl⟩
    | accepted _ _ accepts => exact ⟨waits accepts.2.1, turn rfl⟩
  · obtain ⟨triggering, planned⟩ := awaits.triggerNext triggered
    have waits
        (due : ¬ ((state.callMs call).toUInt32 -
          state.system.service.nextTriggerTimeMs).toInt32 < 0) :
        last.timeMs + last.access.pauseMs ≤ state.callMs call := by
      rw [planned] at due
      exact due_of_not_neg past last.access.pauseMs_le due
    have turn {access : Access} (noRead : ¬ access.isRead = true) :
        access.isRead = true ↔ last.access = .triggered :=
      iff_of_false noRead triggered
    simp only [entry] at accesses ⊢
    generalize state.system.access (state.callMs call).toUInt32 call.reply = access,
      state.system.process (state.callMs call).toUInt32 call.reply = after at cycle accesses ⊢
    cases cycle with
    | earlyTrigger | earlyRead => exact absurd rfl accesses
    | triggered _ due | triggerFailed _ due =>
        exact ⟨waits due, turn Bool.false_ne_true⟩
    | readFailed state | rejected state =>
        rw [triggering] at state
        exact absurd state (by decide)
    | accepted _ _ accepts =>
        have state := accepts.1
        rw [triggering] at state
        exact absurd state (by decide)

/-- A call without an access keeps the service waiting. -/
theorem Awaits.of_idle
    {state : ClockedSystem D}
    {last : LogEntry}
    (awaits : state.Awaits last)
    {call : SensorCall}
    (idle : (state.entry call).access = .idle) :
    (state.step call).Awaits last := by
  have cycle := state.system.process_cycle (state.callMs call).toUInt32 call.reply
  have unchanged : (state.step call).system = state.system := by
    simp only [entry] at idle
    rw [idle] at cycle
    rw [step]
    generalize state.system.process (state.callMs call).toUInt32 call.reply = after at cycle ⊢
    cases cycle <;> rfl
  refine ⟨Nat.le_trans awaits.past (Nat.le_add_right _ _), ?_, ?_⟩
  · rw [unchanged]
    exact awaits.readNext
  · rw [unchanged]
    exact awaits.triggerNext

/-! ## Runs -/

theorem log_cons
    (state : ClockedSystem D)
    (call : SensorCall)
    (calls : List SensorCall) :
    state.log (call :: calls) =
      if (state.entry call).access ≠ .idle then
        state.entry call :: (state.step call).log calls
      else (state.step call).log calls := by
  simp only [log, Transition.outputs, List.filter_cons, decide_eq_true_eq]

/-- The log goes on as the last access demands. -/
theorem Awaits.isChain_log
    {state : ClockedSystem D}
    {last : LogEntry}
    (awaits : state.Awaits last)
    (calls : List SensorCall) :
    List.IsChain LogEntry.Precedes (last :: state.log calls) := by
  induction calls generalizing state last with
  | nil => exact List.isChain_singleton last
  | cons call calls inductionHypothesis =>
      rw [log_cons]
      split
      case isTrue accesses =>
        exact List.isChain_cons_cons.mpr
          ⟨awaits.precedes accesses, inductionHypothesis (state.awaits_entry call accesses)⟩
      case isFalse idle => exact inductionHypothesis (awaits.of_idle (not_not.mp idle))

/-- A log that starts with the service ready to trigger starts with a trigger. -/
theorem log_of_trigger
    {state : ClockedSystem D}
    (ready : state.system.service.state = .trigger)
    (calls : List SensorCall) :
    List.IsChain LogEntry.Precedes (state.log calls) ∧
      ∀ first ∈ (state.log calls).head?, first.access.isRead = false := by
  induction calls generalizing state with
  | nil => exact ⟨.nil, by simp [log, Transition.outputs]⟩
  | cons call calls inductionHypothesis =>
      rw [log_cons]
      split
      case isTrue accesses =>
        refine ⟨(state.awaits_entry call accesses).isChain_log calls, ?_⟩
        rintro first ⟨⟩
        rw [Bool.eq_false_iff]
        intro isRead
        have reading := System.state_of_isRead isRead
        rw [ready] at reading
        exact absurd reading (by decide)
      case isFalse idle =>
        apply inductionHypothesis
        have moved := state.system.process_state (state.callMs call).toUInt32 call.reply
        have noAccess := not_not.mp idle
        simp only [entry] at noAccess
        rw [noAccess, ready] at moved
        exact moved

end ClockedSystem

/-- The accesses of a log come in turn and never early. -/
structure InOrder (log : List LogEntry) : Prop where
  /-- Every access waits after each of those before it. -/
  pauses : log.Pairwise LogEntry.Waits
  /-- From one read to the next, and before the first, there is one successful
  trigger, at least 20 milliseconds before the read. -/
  oneTrigger : ∀ before between read after, log = before ++ between ++ read :: after →
    (∀ previous ∈ before.getLast?, previous.access.isRead = true) →
    (∀ entry ∈ between, entry.access.isRead = false) →
    read.access.isRead = true →
    ∃ trigger, between.filter (·.access = .triggered) = [trigger] ∧
      trigger.timeMs + 20 ≤ read.timeMs

/-- Up to its first read a log holds one successful trigger, the last access
before the read. -/
theorem exists_trigger_of_isChain
    {first read : LogEntry}
    {between after : List LogEntry}
    (chain : List.IsChain LogEntry.Precedes (first :: (between ++ read :: after)))
    (noReads : ∀ entry ∈ first :: between, entry.access.isRead = false)
    (isRead : read.access.isRead = true) :
    ∃ trigger, (first :: between).filter (·.access = .triggered) = [trigger] ∧
      trigger.timeMs + 20 ≤ read.timeMs := by
  induction between generalizing first with
  | nil =>
      rw [List.nil_append, List.isChain_cons_cons] at chain
      have triggered := chain.1.turn.mp isRead
      refine ⟨first, by simp [triggered], ?_⟩
      have waits := chain.1.waits
      rwa [LogEntry.Waits, triggered] at waits
  | cons second between inductionHypothesis =>
      rw [List.cons_append, List.isChain_cons_cons] at chain
      rw [List.forall_mem_cons] at noReads
      have notTriggered : first.access ≠ .triggered := by
        intro triggered
        have secondReads := chain.1.turn.mpr triggered
        rw [noReads.2 second List.mem_cons_self] at secondReads
        exact Bool.false_ne_true secondReads
      obtain ⟨trigger, only, waits⟩ := inductionHypothesis chain.2 noReads.2
      exact ⟨trigger, by rw [List.filter_cons_of_neg (by simpa using notTriggered), only],
        waits⟩

/-- In every run after the initialization, whatever the times between the calls
and the answers of the bus, the accesses come in turn and never early. -/
theorem log_inOrder
    (sys : System D)
    (calls : List SensorCall) :
    InOrder ((ClockedSystem.started sys).log calls) := by
  have ready : (ClockedSystem.started sys).system.service.state = .trigger := rfl
  obtain ⟨chain, firstTriggers⟩ := ClockedSystem.log_of_trigger ready calls
  constructor
  · have waits := chain.imp fun _ _ (precedes : LogEntry.Precedes _ _) => precedes.waits
    exact List.isChain_iff_pairwise.mp waits
  · intro before between read after split previousReads noReads isRead
    rw [split, List.append_assoc] at chain firstTriggers
    rw [List.isChain_append] at chain
    obtain ⟨-, rest, crossing⟩ := chain
    cases between with
    | cons first between => exact exists_trigger_of_isChain rest noReads isRead
    | nil =>
        -- a read can neither start the log nor follow another read
        exfalso
        cases last : before.getLast? with
        | none =>
            rw [List.getLast?_eq_none_iff.mp last] at firstTriggers
            rw [firstTriggers read rfl] at isRead
            exact Bool.false_ne_true isRead
        | some previous =>
            have triggered := (crossing previous last read rfl).turn.mp isRead
            have reads := previousReads previous last
            rw [triggered] at reads
            exact Bool.false_ne_true reads

end SensorFirmware
