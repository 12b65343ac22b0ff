import Mathlib.Data.Nat.Basic

/-!
# The microsecond clock

`GetTime_us` joins the millisecond tick with the microsecond counter of the timer,
taken modulo 1000.  The counter wraps around at 65536, which is no multiple of
1000, so from the first wrap-around on the microseconds no longer restart with the
milliseconds, and the time goes back whenever they restart in between.
-/

namespace SensorFirmware

namespace DelayTimer

/-- What one pass of the loop in `GetTime_us` reads. -/
structure ClockPass where
  ms1 : UInt32
  us : UInt16
  ms2 : UInt32

/-- `GetTime_us`, by the passes of its loop; none when the loop goes on behind
them. -/
def getTimeUs : List ClockPass → Option UInt32
  | [] => none
  | pass :: passes =>
      if pass.ms1 ≠ pass.ms2 then getTimeUs passes
      else some (pass.ms1 * 1000 + (pass.us % 1000).toUInt32)

/-- What a pass reads from an ideal clock, `time` microseconds after
`DelayTimer::initialize`: the tick counts milliseconds and `TIM6->CNT` counts
microseconds modulo 65536. -/
def idealPass (time : Nat) : ClockPass where
  ms1 := UInt32.ofNat (time / 1000)
  us := UInt16.ofNat (time % 65536)
  ms2 := UInt32.ofNat (time / 1000)

/-- The time that `GetTime_us` reads from an ideal clock. -/
def idealTime (time : Nat) : Nat := 1000 * (time / 1000) + time % 65536 % 1000

/-- The first pass over an ideal clock returns, and nothing overflows. -/
theorem getTimeUs_ideal
    {time : Nat}
    (early : time < 4294966296) :
    ∃ value, getTimeUs [idealPass time] = some value ∧
      value.toNat = idealTime time := by
  refine ⟨_, if_neg (not_not_intro rfl), ?_⟩
  have milliseconds : (UInt32.ofNat (time / 1000)).toNat = time / 1000 := by
    rw [UInt32.toNat_ofNat']
    exact Nat.mod_eq_of_lt (by omega)
  have counter : (UInt16.ofNat (time % 65536)).toNat = time % 65536 := by
    rw [UInt16.toNat_ofNat']
    exact Nat.mod_mod_of_dvd _ (Nat.dvd_refl 65536)
  have thousand : (1000 : UInt32).toNat = 1000 := rfl
  have thousandth : (1000 : UInt16).toNat = 1000 := rfl
  rw [UInt32.toNat_add, UInt32.toNat_mul, UInt16.toNat_toUInt32, UInt16.toNat_mod,
    idealPass, milliseconds, counter, thousand, thousandth, idealTime]
  omega

/-- `GetTime_us` returns at every two times from `first` to `last`, and not less at
the later one. -/
def NonDecreasing (first last : Nat) : Prop :=
  ∀ time later, first ≤ time → time ≤ later → later ≤ last →
    ∃ value other, getTimeUs [idealPass time] = some value ∧
      getTimeUs [idealPass later] = some other ∧ value ≤ other

/-- The microseconds restart only together with a millisecond. -/
def RestartsTogether (first last : Nat) : Prop :=
  ∀ time, first < time → time ≤ last → time % 65536 % 1000 = 0 → time % 1000 = 0

/-- A comparison of two times is one of the values that they show. -/
theorem nonDecreasing_iff_idealTime
    {first last : Nat}
    (early : last < 4294966296) :
    NonDecreasing first last ↔
      ∀ time later, first ≤ time → time ≤ later → later ≤ last →
        idealTime time ≤ idealTime later := by
  refine forall₂_congr fun time later => ?_
  refine forall₃_congr fun after order before => ?_
  obtain ⟨value, shown, reads⟩ := getTimeUs_ideal (show time < 4294966296 by omega)
  obtain ⟨other, laterShown, laterReads⟩ :=
    getTimeUs_ideal (show later < 4294966296 by omega)
  rw [← reads, ← laterReads, ← UInt32.le_iff_toNat_le]
  constructor
  · rintro ⟨left, right, leftShown, rightShown, ordered⟩
    have sameLeft : left = value := Option.some.inj (leftShown.symm.trans shown)
    have sameRight : right = other := Option.some.inj (rightShown.symm.trans laterShown)
    rwa [sameLeft, sameRight] at ordered
  · exact fun ordered => ⟨value, other, shown, laterShown, ordered⟩

/-- From one microsecond to the next the time goes back exactly when the
microseconds restart within a millisecond. -/
theorem idealTime_succ_iff (time : Nat) :
    idealTime time ≤ idealTime (time + 1) ↔
      ((time + 1) % 65536 % 1000 = 0 → (time + 1) % 1000 = 0) := by
  unfold idealTime
  -- either way the counter only goes on by one or restarts at zero
  obtain ⟨last, wraps⟩ | next : time % 65536 = 65535 ∧ (time + 1) % 65536 = 0 ∨
      (time + 1) % 65536 = time % 65536 + 1 := by omega
  · rw [last, wraps]
    omega
  · rw [next]
    generalize time % 65536 = counter
    obtain ⟨restarts, full⟩ | goesOn : (counter + 1) % 1000 = 0 ∧ counter % 1000 = 999 ∨
        (counter + 1) % 1000 = counter % 1000 + 1 := by omega
    · rw [restarts, full]
      omega
    · rw [goesOn]
      omega

/-- The time never goes back exactly when no single step takes it back. -/
theorem nonDecreasing_iff_restartsTogether
    {first last : Nat}
    (early : last < 4294966296) :
    NonDecreasing first last ↔ RestartsTogether first last := by
  rw [nonDecreasing_iff_idealTime early]
  constructor
  · intro ordered time after before restarts
    obtain ⟨previous, rfl⟩ : ∃ previous, time = previous + 1 := ⟨time - 1, by omega⟩
    have step := ordered previous (previous + 1) (by omega) (by omega) before
    exact (idealTime_succ_iff previous).mp step restarts
  · intro together time later after order
    induction later, order using Nat.le_induction with
    | base => exact fun _ => Nat.le_refl _
    | succ later order inductionHypothesis =>
        intro before
        have step := (idealTime_succ_iff later).mpr (together (later + 1) (by omega) before)
        exact Nat.le_trans (inductionHypothesis (by omega)) step

/-- On an ideal clock the time is non-decreasing from `first` to `last` exactly when
the counter modulo 1000 restarts there only where a millisecond begins. -/
theorem getTimeUs_nonDecreasing_iff
    (first last : Nat)
    (early : last < 4294966296) :
    NonDecreasing first last ↔ RestartsTogether first last :=
  nonDecreasing_iff_restartsTogether early

/-- The first wrap-around takes the time back.  The 125th falls on a millisecond, and from
there on nothing is lost until the next one. -/
theorem getTimeUs_nonDecreasing_iff_wrapped :
    ¬ NonDecreasing 0 100000 ∧ NonDecreasing 8192000 8257535 := by
  constructor
  · rw [getTimeUs_nonDecreasing_iff 0 100000 (by decide)]
    intro together
    exact absurd (together 65536 (by decide) (by decide) rfl) (by decide)
  · rw [getTimeUs_nonDecreasing_iff 8192000 8257535 (by decide)]
    intro time after before restarts
    obtain ⟨passed, rfl⟩ := Nat.exists_eq_add_of_lt after
    have counter : (8192000 + passed + 1) % 65536 = passed + 1 := by omega
    rw [counter] at restarts
    omega

/-- From the initialization on the time is non-decreasing until the counter first
wraps around. -/
theorem getTimeUs_nonDecreasing_from_start_iff
    {last : Nat}
    (early : last < 4294966296) :
    NonDecreasing 0 last ↔ last < 65536 := by
  rw [nonDecreasing_iff_restartsTogether early]
  constructor
  · intro together
    by_contra wrapped
    exact absurd (together 65536 (by omega) (by omega) rfl) (by decide)
  · intro unwrapped time _ before restarts
    rwa [Nat.mod_eq_of_lt (by omega : time < 65536)] at restarts

/-- 65536 microseconds after the initialization the time is 535 less than one
microsecond before. -/
theorem getTimeUs_goesBack :
    ¬ NonDecreasing 0 4294966295 ∧
      getTimeUs [idealPass 65535] = some 65535 ∧
      getTimeUs [idealPass 65536] = some 65000 := by
  refine ⟨?_, by decide +kernel, by decide +kernel⟩
  rw [getTimeUs_nonDecreasing_from_start_iff (by decide)]
  decide

end DelayTimer

end SensorFirmware
