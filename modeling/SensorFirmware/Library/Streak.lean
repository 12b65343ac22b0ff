import Mathlib.Data.List.Basic
import Mathlib.Data.List.Induction

/-!
# Bursts and streaks in a history

A history is a list of events, the oldest first.  Some events are hits and some
are resets.  The streak is the number of hits since the last reset, and a burst
of a given size is a stretch of the history with that many hits and no reset.
A history has a burst exactly when one of its prefixes ends in a streak of that
size, so a machine that counts the streak and latches can only report bursts.
-/

namespace Streak

section

variable {α : Type u} (hit reset : α → Bool)

/-- Count one event: a reset empties the streak, a hit lengthens it. -/
def next (length : Nat) (event : α) : Nat :=
  if reset event then 0 else if hit event then length + 1 else length

/-- Number of hits since the last reset. -/
def streak (history : List α) : Nat :=
  history.foldl (next hit reset) 0

/-- A stretch of the history with no reset has at least `size` hits. -/
def HasBurst (size : Nat) (history : List α) : Prop :=
  ∃ before stretch after,
    history = before ++ stretch ++ after ∧
    (∀ event ∈ stretch, reset event = false) ∧
    size ≤ stretch.countP hit

@[simp] theorem streak_nil : streak hit reset [] = 0 := rfl

@[simp] theorem streak_append_singleton
    (history : List α)
    (event : α) :
    streak hit reset (history ++ [event]) =
      next hit reset (streak hit reset history) event := by
  simp [streak]

end

section

variable {α : Type u} {hit reset : α → Bool}

theorem hasBurst_nil_iff (size : Nat) :
    HasBurst hit reset size [] ↔ size = 0 := by
  constructor
  · rintro ⟨before, stretch, after, split, -, enough⟩
    have noStretch : stretch = [] := by
      have all := split.symm
      rw [List.append_eq_nil_iff, List.append_eq_nil_iff] at all
      exact all.1.2
    rw [noStretch, List.countP_nil] at enough
    exact Nat.le_zero.mp enough
  · rintro rfl
    exact ⟨[], [], [], rfl, by simp, Nat.le_refl 0⟩

/-- A burst stays in every longer history. -/
theorem HasBurst.append
    {size : Nat}
    {history : List α}
    (burst : HasBurst hit reset size history)
    (later : List α) :
    HasBurst hit reset size (history ++ later) := by
  obtain ⟨before, stretch, after, rfl, noReset, enough⟩ := burst
  exact ⟨before, stretch, after ++ later, by simp, noReset, enough⟩

/-- The streak is the number of hits of the longest final stretch without a
reset. -/
theorem exists_stretch (history : List α) :
    ∃ before stretch,
      history = before ++ stretch ∧
      (∀ event ∈ stretch, reset event = false) ∧
      stretch.countP hit = streak hit reset history := by
  induction history using List.reverseRecOn with
  | nil => exact ⟨[], [], rfl, by simp, rfl⟩
  | append_singleton history event inductionHypothesis =>
      obtain ⟨before, stretch, split, noReset, counted⟩ := inductionHypothesis
      cases resets : reset event with
      | true =>
          refine ⟨history ++ [event], [], by simp, by simp, ?_⟩
          simp [next, resets]
      | false =>
          refine ⟨before, stretch ++ [event], by simp [split], ?_, ?_⟩
          · intro other member
            rw [List.mem_append, List.mem_singleton] at member
            cases member with
            | inl old => exact noReset other old
            | inr new => rw [new, resets]
          · rw [streak_append_singleton, List.countP_append, counted]
            cases hits : hit event <;> simp [next, resets, hits]

/-- No final stretch without a reset has more hits than the streak. -/
theorem countP_le_streak
    (before stretch : List α)
    (noReset : ∀ event ∈ stretch, reset event = false) :
    stretch.countP hit ≤ streak hit reset (before ++ stretch) := by
  induction stretch using List.reverseRecOn with
  | nil => simp
  | append_singleton stretch event inductionHypothesis =>
      have shorter := inductionHypothesis fun other member =>
        noReset other (List.mem_append_left _ member)
      have resets : reset event = false := noReset event (by simp)
      rw [← List.append_assoc, streak_append_singleton, List.countP_append]
      cases hits : hit event <;> simp [next, resets, hits, shorter]

/-- Without resets the streak is the number of hits. -/
theorem streak_of_no_reset
    (history : List α)
    (noReset : ∀ event ∈ history, reset event = false) :
    streak hit reset history = history.countP hit := by
  induction history using List.reverseRecOn with
  | nil => rfl
  | append_singleton history event inductionHypothesis =>
      have shorter := inductionHypothesis fun other member =>
        noReset other (List.mem_append_left _ member)
      have resets : reset event = false := noReset event (by simp)
      rw [streak_append_singleton, List.countP_append, shorter]
      cases hits : hit event <;> simp [next, resets, hits]

/-- One more event completes a burst exactly when the streak reaches its
size. -/
theorem hasBurst_append_singleton_iff
    (size : Nat)
    (history : List α)
    (event : α) :
    HasBurst hit reset size (history ++ [event]) ↔
      HasBurst hit reset size history ∨
        size ≤ streak hit reset (history ++ [event]) := by
  constructor
  · rintro ⟨before, stretch, after, split, noReset, enough⟩
    cases after using List.reverseRecOn with
    | nil =>
        right
        rw [split, List.append_nil]
        exact Nat.le_trans enough (countP_le_streak before stretch noReset)
    | append_singleton after last =>
        left
        rw [← List.append_assoc] at split
        have front := (List.append_inj' split rfl).1
        exact ⟨before, stretch, after, front, noReset, enough⟩
  · rintro (burst | reached)
    · exact burst.append [event]
    · obtain ⟨before, stretch, split, noReset, counted⟩ :=
        @exists_stretch α hit reset (history ++ [event])
      exact ⟨before, stretch, [], by simpa using split, noReset,
        counted ▸ reached⟩

/-- A streak is a burst. -/
theorem hasBurst_of_le_streak
    {size : Nat}
    {history : List α}
    (reached : size ≤ streak hit reset history) :
    HasBurst hit reset size history := by
  obtain ⟨before, stretch, split, noReset, counted⟩ := @exists_stretch α hit reset history
  exact ⟨before, stretch, [], by simpa using split, noReset, counted ▸ reached⟩

/-- Without a hit there is no burst. -/
theorem not_hasBurst_of_no_hit
    {size : Nat}
    (positive : 0 < size)
    {history : List α}
    (noHit : ∀ event ∈ history, hit event = false) :
    ¬ HasBurst hit reset size history := by
  rintro ⟨before, stretch, after, rfl, -, enough⟩
  have none : stretch.countP hit = 0 := by
    rw [List.countP_eq_zero]
    intro event listed hits
    rw [noHit event (List.mem_append_left _ (List.mem_append_right _ listed))] at hits
    exact Bool.false_ne_true hits
  omega

end

/-! ## Histories of which only some events count -/

section

variable {α : Type u} {β : Type v} {hit reset : α → Bool} {pickedHit pickedReset : β → Bool}
variable (pick : α → Option β)
variable (hits : ∀ event, hit event = (pick event).any pickedHit)
variable (resets : ∀ event, reset event = (pick event).any pickedReset)

include hits resets

/-- Events that are neither hits nor resets can be left out of a streak. -/
theorem streak_filterMap (history : List α) :
    streak pickedHit pickedReset (history.filterMap pick) = streak hit reset history := by
  induction history using List.reverseRecOn with
  | nil => rfl
  | append_singleton history event inductionHypothesis =>
      rw [streak_append_singleton, List.filterMap_append, next, hits, resets]
      cases picked : pick event with
      | none =>
          rw [List.filterMap_cons_none picked, List.filterMap_nil, List.append_nil,
            inductionHypothesis]
          rfl
      | some value =>
          rw [List.filterMap_cons_some picked, List.filterMap_nil, streak_append_singleton,
            inductionHypothesis]
          rfl

/-- So they can out of a burst. -/
theorem hasBurst_filterMap_iff
    (size : Nat)
    (history : List α) :
    HasBurst pickedHit pickedReset size (history.filterMap pick) ↔
      HasBurst hit reset size history := by
  induction history using List.reverseRecOn with
  | nil => rw [List.filterMap_nil, hasBurst_nil_iff, hasBurst_nil_iff]
  | append_singleton history event inductionHypothesis =>
      have sameStreak := streak_filterMap pick hits resets (history ++ [event])
      rw [hasBurst_append_singleton_iff, ← sameStreak, ← inductionHypothesis,
        List.filterMap_append]
      cases picked : pick event with
      | none =>
          rw [List.filterMap_cons_none picked, List.filterMap_nil, List.append_nil]
          exact (or_iff_left_of_imp hasBurst_of_le_streak).symm
      | some value =>
          rw [List.filterMap_cons_some picked, List.filterMap_nil,
            hasBurst_append_singleton_iff]

end

end Streak
