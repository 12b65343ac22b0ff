import Mathlib.Data.List.Chain

/-!
# Waiting for a counter

A counter goes on by one in every unit of time and starts again at zero when it reaches its
range.  A loop polls it and ends with the first poll that shows enough steps since the
start.  It never ends a whole unit early, and it ends in time when the polls are close
enough for the counter not to start again between two of them.
-/

namespace CounterWait

section

variable (unit range : Nat)

/-- What the counter shows at a time. -/
def reading (time : Nat) : Nat := time / unit % range

/-- The steps since the start that the counter shows. -/
def shown (start now : Nat) : Nat :=
  (reading unit range now + (range - reading unit range start)) % range

/-- The poll that ends the loop. -/
def endOfWait (amount start : Nat) (polls : List Nat) : Option Nat :=
  polls.find? fun now => amount ≤ shown unit range start now

end

section

variable {unit range : Nat}

theorem shown_eq
    (positive : 0 < range)
    {start now : Nat}
    (later : start ≤ now) :
    shown unit range start now = (now / unit - start / unit) % range := by
  have ordered : start / unit ≤ now / unit := Nat.div_le_div_right later
  obtain ⟨steps, sum⟩ := Nat.exists_eq_add_of_le ordered
  have below : start / unit % range < range := Nat.mod_lt _ positive
  rw [shown, reading, reading, sum, Nat.add_sub_cancel_left]
  generalize start / unit = first at below ⊢
  have whole := Nat.div_add_mod first range
  have moved : first + steps + (range - first % range) =
      steps + range * (first / range + 1) := by
    rw [Nat.mul_succ]
    omega
  rw [Nat.mod_add_mod, moved, Nat.add_mul_mod_self_left]

/-- The loop does not end a whole unit early. -/
theorem endOfWait_late
    (unitPositive : 0 < unit)
    (positive : 0 < range)
    {amount start now : Nat}
    {polls : List Nat}
    (later : ∀ poll ∈ polls, start ≤ poll)
    (ends : endOfWait unit range amount start polls = some now) :
    start + amount * unit < now + unit := by
  have enough := List.find?_some ends
  have after := later now (List.mem_of_find?_eq_some ends)
  rw [decide_eq_true_eq, shown_eq positive after] at enough
  have steps : amount ≤ now / unit - start / unit := enough.trans (Nat.mod_le _ _)
  have product := Nat.mul_le_mul_right unit steps
  rw [Nat.sub_mul] at product
  have startBelow : start < start / unit * unit + unit := Nat.lt_div_mul_add unitPositive
  have startOrdered :=
    Nat.mul_le_mul_right unit (Nat.div_le_div_right after : start / unit ≤ _)
  have nowAbove := Nat.div_mul_le_self now unit
  omega

/-- Polls that are close come behind what they begin with. -/
theorem le_of_close
    {start gap : Nat}
    {polls : List Nat}
    (close : (start :: polls).IsChain fun earlier poll =>
      earlier ≤ poll ∧ poll ≤ earlier + gap) :
    ∀ poll ∈ polls, start ≤ poll := by
  have ordered : (start :: polls).IsChain (· ≤ ·) := close.imp fun _ _ near => near.1
  exact fun poll listed => ordered.rel_cons listed

/-- The loop ends no later than any poll behind the amount, and no more than a gap behind
it. -/
theorem endOfWait_inTime
    (unitPositive : 0 < unit)
    {amount gap start : Nat}
    (fits : amount * unit + gap + unit < range * unit)
    {previous : Nat}
    (after : start ≤ previous)
    (early : previous ≤ start + amount * unit)
    {polls : List Nat}
    (close : (previous :: polls).IsChain fun earlier poll =>
      earlier ≤ poll ∧ poll ≤ earlier + gap)
    (goesOn : ∃ poll ∈ polls, start + amount * unit ≤ poll) :
    ∃ now, endOfWait unit range amount start polls = some now ∧
      now ≤ start + amount * unit + gap ∧
      ∀ poll ∈ polls, start + amount * unit ≤ poll → now ≤ poll := by
  induction polls generalizing previous with
  | nil =>
      obtain ⟨poll, listed, -⟩ := goesOn
      exact absurd listed List.not_mem_nil
  | cons poll polls inductionHypothesis =>
      obtain ⟨⟨ordered, near⟩, rest⟩ := List.isChain_cons_cons.mp close
      have positive : 0 < range := by
        apply Nat.pos_of_ne_zero
        rintro rfl
        omega
      have startBelow : start < start / unit * unit + unit :=
        Nat.lt_div_mul_add unitPositive
      have pollAbove := Nat.div_mul_le_self poll unit
      -- the counter has not started again since the start
      have inRange : poll / unit < start / unit + range := by
        apply Nat.lt_of_mul_lt_mul_right (a := unit)
        rw [Nat.add_mul]
        omega
      have steps : shown unit range start poll = poll / unit - start / unit := by
        rw [shown_eq positive (by omega), Nat.mod_eq_of_lt (by omega)]
      by_cases enough : amount ≤ shown unit range start poll
      · refine ⟨poll, List.find?_cons_of_pos (decide_eq_true enough), by omega, ?_⟩
        intro other listed _
        rcases List.mem_cons.mp listed with rfl | behind
        · exact Nat.le_refl other
        · exact le_of_close rest other behind
      · have missing : poll / unit + 1 ≤ start / unit + amount := by omega
        have product := Nat.mul_le_mul_right unit missing
        have pollBelow : poll < poll / unit * unit + unit :=
          Nat.lt_div_mul_add unitPositive
        have startAbove := Nat.div_mul_le_self start unit
        rw [Nat.add_mul, Nat.add_mul, Nat.one_mul] at product
        have notYet : poll < start + amount * unit := by omega
        have later : ∃ other ∈ polls, start + amount * unit ≤ other := by
          obtain ⟨other, listed, far⟩ := goesOn
          rcases List.mem_cons.mp listed with rfl | behind
          · exact absurd far (Nat.not_le.mpr notYet)
          · exact ⟨other, behind, far⟩
        obtain ⟨now, ends, bounded, first⟩ :=
          inductionHypothesis (ordered.trans' after) notYet.le rest later
        refine ⟨now, ?_, bounded, ?_⟩
        · rw [endOfWait, List.find?_cons_of_neg (by simpa using enough)]
          exact ends
        · intro other listed far
          rcases List.mem_cons.mp listed with rfl | behind
          · exact absurd far (Nat.not_le.mpr notYet)
          · exact first other behind far

end

end CounterWait
