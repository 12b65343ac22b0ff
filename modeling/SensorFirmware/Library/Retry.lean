import Mathlib.Data.List.Basic

/-!
# Attempts until success

A task is asked for now and then, and is carried out in rounds.  An attempt may fail, and
then the task is left over for the next round.  An attempt serves everything that was asked
for before it, so there are no more successes than requests, and what was asked for is done
or still left over.
-/

namespace Retry

/-- A round: whether the task is asked for, and how an attempt ends, if there is one. -/
structure Round where
  asked : Bool
  attempt : Option Bool

/-- The attempt of the round failed. -/
def Round.leftOver (round : Round) : Bool := round.attempt == some false

/-- The attempt of the round succeeded. -/
def Round.done (round : Round) : Bool := round.attempt == some true

/-- Each round attempts the task exactly if it is asked for or left over. -/
def AttemptsUntilDone (pending : Bool) : List Round → Prop
  | [] => True
  | round :: rounds =>
      (round.attempt.isSome ↔ round.asked ∨ pending) ∧
        AttemptsUntilDone round.leftOver rounds

/-- The task is left over behind some rounds. -/
def leftOver (pending : Bool) : List Round → Bool
  | [] => pending
  | round :: rounds => leftOver round.leftOver rounds

/-- The ways in which a round goes. -/
theorem Round.cases
    {round : Round}
    {pending : Bool}
    (attempts : round.attempt.isSome ↔ round.asked ∨ pending) :
    (round.asked = false ∧ pending = false ∧ round.attempt = none) ∨
      (round.asked || pending) = true ∧
        (round.attempt = some true ∨ round.attempt = some false) := by
  obtain ⟨asked, attempt⟩ := round
  cases attempt with
  | none =>
      left
      simpa using attempts
  | some success =>
      right
      refine ⟨?_, ?_⟩
      · simpa using attempts
      · cases success with
        | true => exact .inl rfl
        | false => exact .inr rfl

theorem countP_cons
    (property : Round → Bool)
    (round : Round)
    (rounds : List Round) :
    (round :: rounds).countP property = rounds.countP property + (property round).toNat := by
  cases holds : property round with
  | false => rw [List.countP_cons_of_neg (by simp [holds]), Bool.toNat_false, Nat.add_zero]
  | true => rw [List.countP_cons_of_pos holds, Bool.toNat_true]

variable {pending : Bool} {rounds : List Round}

/-- No more successes than requests, not even if what is left over is counted. -/
theorem successes_add_leftOver_le
    (attempts : AttemptsUntilDone pending rounds) :
    rounds.countP Round.done + (leftOver pending rounds).toNat ≤
      rounds.countP Round.asked + pending.toNat := by
  induction rounds generalizing pending with
  | nil => simp [leftOver]
  | cons round rounds inductionHypothesis =>
      obtain ⟨first, rest⟩ := attempts
      have later := inductionHypothesis rest
      have least : round.done.toNat + round.leftOver.toNat ≤
          round.asked.toNat + pending.toNat := by
        rcases Round.cases first with ⟨-, -, idle⟩ | ⟨wanted, success | failure⟩
        · simp [Round.done, Round.leftOver, idle]
        · simp only [Round.done, Round.leftOver, success]
          cases asked : round.asked <;> cases pending <;> simp_all
        · simp only [Round.done, Round.leftOver, failure]
          cases asked : round.asked <;> cases pending <;> simp_all
      rw [countP_cons, countP_cons, leftOver]
      omega

/-- An attempt is a success or a failure. -/
theorem countP_attempts (rounds : List Round) :
    rounds.countP (·.attempt.isSome) =
      rounds.countP Round.done + rounds.countP Round.leftOver := by
  induction rounds with
  | nil => rfl
  | cons round rounds inductionHypothesis =>
      obtain ⟨asked, attempt⟩ := round
      have split : attempt.isSome.toNat = (Round.mk asked attempt).done.toNat +
          (Round.mk asked attempt).leftOver.toNat := by
        cases attempt with
        | none => rfl
        | some success => cases success <;> rfl
      rw [countP_cons, countP_cons, countP_cons, inductionHypothesis, split]
      omega

/-- So only requests and failures cause attempts. -/
theorem attempts_le
    (attempts : AttemptsUntilDone pending rounds) :
    rounds.countP (·.attempt.isSome) ≤
      rounds.countP Round.asked + rounds.countP Round.leftOver + pending.toNat := by
  have successes := successes_add_leftOver_le attempts
  rw [countP_attempts]
  omega

/-- What is left over is done later or still left over. -/
theorem done_or_leftOver_of_pending
    (attempts : AttemptsUntilDone true rounds) :
    (∃ round ∈ rounds, round.done = true) ∨ leftOver true rounds = true := by
  induction rounds with
  | nil => exact .inr rfl
  | cons round rounds inductionHypothesis =>
      obtain ⟨first, rest⟩ := attempts
      rcases Round.cases first with ⟨-, absent, -⟩ | ⟨-, success | failure⟩
      · cases absent
      · exact .inl ⟨round, List.mem_cons_self, by simp [Round.done, success]⟩
      · have left : round.leftOver = true := by simp [Round.leftOver, failure]
        rw [left] at rest
        rw [leftOver, left]
        refine (inductionHypothesis rest).imp_left ?_
        rintro ⟨later, listed, success⟩
        exact ⟨later, List.mem_cons_of_mem round listed, success⟩

/-- Nothing that was asked for is forgotten. -/
theorem done_or_leftOver
    {before after : List Round}
    {round : Round}
    (attempts : AttemptsUntilDone pending (before ++ round :: after))
    (asked : round.asked = true) :
    (∃ later ∈ round :: after, later.done = true) ∨
      leftOver pending (before ++ round :: after) = true := by
  induction before generalizing pending with
  | nil =>
      -- the request counts as if the task had been left over before
      have wanted : AttemptsUntilDone true (round :: after) := by
        refine ⟨?_, attempts.2⟩
        rw [attempts.1, asked]
        simp
      exact done_or_leftOver_of_pending wanted
  | cons first before inductionHypothesis =>
      exact inductionHypothesis attempts.2

end Retry
