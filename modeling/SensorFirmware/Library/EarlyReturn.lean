import Mathlib.Data.List.Basic

/-!
# Programs that may return early

A program works on a state and ends with a value, or it leaves early with a result.
A triple relates the states before it to both kinds of end.  There is one rule for
each way to build a program, so that a proof follows the text of the program.
-/

/-- A program on states that ends with a value or leaves early. -/
abbrev EarlyReturn (σ ρ α : Type) : Type := ExceptT ρ (StateM σ) α

namespace EarlyReturn

variable {σ ρ α β τ : Type}

/-- How a program ends, and in which state. -/
def runFrom (program : EarlyReturn σ ρ α) (state : σ) : Except ρ α × σ :=
  (program.run.run state).run

/-- Leave early unless a condition holds, after a clean-up. -/
def returnUnless (done : Bool) (cleanUp : EarlyReturn σ ρ Unit) (result : ρ) :
    EarlyReturn σ ρ Unit :=
  if done then pure ()
  else do
    cleanUp
    throw result

/-- The loop `for (i = 0; i < count; ++i)` whose body may leave early. -/
def forLoop (body : Nat → EarlyReturn σ ρ Unit) : Nat → EarlyReturn σ ρ Unit
  | 0 => pure ()
  | count + 1 => do
      forLoop body count
      body count

/-- From every state that meets the precondition, the program ends with a value and
a state that meet the postcondition, or it leaves early as the last condition says. -/
def Triple
    (pre : σ → Prop)
    (program : EarlyReturn σ ρ α)
    (post : α → σ → Prop)
    (left : ρ → σ → Prop) : Prop :=
  ∀ state, pre state →
    match runFrom program state with
    | (.ok value, after) => post value after
    | (.error result, after) => left result after

/-! ## Running composed programs -/

theorem runFrom_bind
    (program : EarlyReturn σ ρ α)
    (next : α → EarlyReturn σ ρ β)
    (state : σ) :
    runFrom (program >>= next) state =
      match runFrom program state with
      | (.ok value, after) => runFrom (next value) after
      | (.error result, after) => (.error result, after) := by
  simp only [runFrom, ExceptT.run_bind, StateT.run_bind, Id.run_bind]
  rcases (program.run.run state).run with ⟨_ | _, _⟩ <;> rfl

/-- A program goes on where its first part ends. -/
theorem runFrom_bind_of_ok
    {program : EarlyReturn σ ρ α}
    {state after : σ}
    {value : α}
    (first : runFrom program state = (.ok value, after))
    (next : α → EarlyReturn σ ρ β) :
    runFrom (program >>= next) state = runFrom (next value) after := by
  rw [runFrom_bind, first]

/-! ## Rules -/

section

variable {pre : σ → Prop} {left : ρ → σ → Prop}

theorem triple_pure
    {value : α}
    {post : α → σ → Prop}
    (holds : ∀ state, pre state → post value state) :
    Triple pre (pure value) post left :=
  holds

theorem triple_throw
    {result : ρ}
    {post : α → σ → Prop}
    (holds : ∀ state, pre state → left result state) :
    Triple pre (throw result) post left :=
  holds

theorem triple_get
    {post : σ → σ → Prop}
    (holds : ∀ state, pre state → post state state) :
    Triple pre get post left :=
  holds

theorem triple_modify
    {update : σ → σ}
    {post : PUnit → σ → Prop}
    (holds : ∀ state, pre state → post ⟨⟩ (update state)) :
    Triple pre (modify update) post left :=
  holds

theorem triple_modifyGet
    {update : σ → α × σ}
    {post : α → σ → Prop}
    (holds : ∀ state, pre state → post (update state).1 (update state).2) :
    Triple pre (modifyGet update) post left :=
  holds

/-- In sequence the first program reaches a condition from which the second goes on. -/
theorem triple_bind
    {program : EarlyReturn σ ρ α}
    {next : α → EarlyReturn σ ρ β}
    {mid : α → σ → Prop}
    {post : β → σ → Prop}
    (first : Triple pre program mid left)
    (second : ∀ value, Triple (mid value) (next value) post left) :
    Triple pre (program >>= next) post left := by
  intro state meets
  have middle := first state meets
  rw [runFrom_bind]
  match runFrom program state, middle with
  | (.ok value, after), reached => exact second value after reached
  | (.error _, _), reached => exact reached

/-- The same for two statements. -/
theorem triple_seq
    {program : EarlyReturn σ ρ Unit}
    {next : EarlyReturn σ ρ β}
    {mid : σ → Prop}
    {post : β → σ → Prop}
    (first : Triple pre program (fun _ => mid) left)
    (second : Triple mid next post left) :
    Triple pre (program >>= fun _ => next) post left :=
  triple_bind first fun _ => second

theorem triple_ite
    {condition : Prop}
    [Decidable condition]
    {yes no : EarlyReturn σ ρ α}
    {post : α → σ → Prop}
    (ifTrue : condition → Triple pre yes post left)
    (ifFalse : ¬condition → Triple pre no post left) :
    Triple pre (if condition then yes else no) post left := by
  split
  case isTrue holds => exact ifTrue holds
  case isFalse fails => exact ifFalse fails

/-- A weaker promise for more states. -/
theorem Triple.weaken
    {program : EarlyReturn σ ρ α}
    {stronger : σ → Prop}
    {post weakerPost : α → σ → Prop}
    {weakerLeft : ρ → σ → Prop}
    (triple : Triple pre program post left)
    (before : ∀ state, stronger state → pre state)
    (after : ∀ value state, post value state → weakerPost value state)
    (early : ∀ result state, left result state → weakerLeft result state) :
    Triple stronger program weakerPost weakerLeft := by
  intro state meets
  have reached := triple state (before state meets)
  match runFrom program state, reached with
  | (.ok value, last), ends => exact after value last ends
  | (.error result, last), ends => exact early result last ends

/-- A fact that the precondition gives and that no state enters may be assumed. -/
theorem triple_of_fact
    {fact : Prop}
    {program : EarlyReturn σ ρ α}
    {post : α → σ → Prop}
    (triple : fact → Triple pre program post left) :
    Triple (fun state => fact ∧ pre state) program post left :=
  fun state ⟨holds, meets⟩ => triple holds state meets

/-- An early return after a clean-up, or none when the condition holds. -/
theorem triple_returnUnless
    {done : Bool}
    {cleanUp : EarlyReturn σ ρ Unit}
    {result : ρ}
    {post : σ → Prop}
    (ifDone : done = true → ∀ state, pre state → post state)
    (ifNot : done = false → Triple pre cleanUp (fun _ => left result) left) :
    Triple pre (returnUnless done cleanUp result) (fun _ => post) left := by
  cases done with
  | true => exact triple_pure (ifDone rfl)
  | false => exact triple_seq (ifNot rfl) (triple_throw fun _ meets => meets)

/-- What each iteration of a loop takes from one index to the next holds at the end. -/
theorem triple_forLoop
    {body : Nat → EarlyReturn σ ρ Unit}
    (invariant : Nat → σ → Prop)
    {count : Nat}
    (kept : ∀ index, index < count →
      Triple (invariant index) (body index) (fun _ => invariant (index + 1)) left) :
    Triple (invariant 0) (forLoop body count) (fun _ => invariant count) left := by
  induction count with
  | zero => exact triple_pure fun _ meets => meets
  | succ count inductionHypothesis =>
      exact triple_seq
        (inductionHypothesis fun index inside => kept index (Nat.lt_succ_of_lt inside))
        (kept count (Nat.lt_succ_self count))

end

/-! ## Frames -/

/-- What is known of a view of the state is known after the program too, which leaves
early with allowed results only. -/
def Keeps (view : σ → τ) (allowed : ρ → Prop) (program : EarlyReturn σ ρ α) : Prop :=
  ∀ known : τ → Prop,
    Triple (fun state => known (view state)) program (fun _ state => known (view state))
      fun result state => allowed result ∧ known (view state)

section

variable {view : σ → τ} {allowed : ρ → Prop}

theorem keeps_pure (value : α) : Keeps view allowed (pure value : EarlyReturn σ ρ α) :=
  fun _ => triple_pure fun _ holds => holds

theorem keeps_throw
    {result : ρ}
    (isAllowed : allowed result) :
    Keeps view allowed (throw result : EarlyReturn σ ρ α) :=
  fun _ => triple_throw fun _ holds => ⟨isAllowed, holds⟩

theorem keeps_get : Keeps view allowed (get : EarlyReturn σ ρ σ) :=
  fun _ => triple_get fun _ holds => holds

theorem keeps_modify
    {update : σ → σ}
    (same : ∀ state, view (update state) = view state) :
    Keeps view allowed (modify update : EarlyReturn σ ρ PUnit) :=
  fun known => triple_modify fun state holds => Eq.mpr (congrArg known (same state)) holds

theorem keeps_modifyGet
    {update : σ → α × σ}
    (same : ∀ state, view (update state).2 = view state) :
    Keeps view allowed (modifyGet update : EarlyReturn σ ρ α) :=
  fun known => triple_modifyGet fun state holds => Eq.mpr (congrArg known (same state)) holds

theorem keeps_bind
    {program : EarlyReturn σ ρ α}
    {next : α → EarlyReturn σ ρ β}
    (first : Keeps view allowed program)
    (second : ∀ value, Keeps view allowed (next value)) :
    Keeps view allowed (program >>= next) :=
  fun known => triple_bind (first known) fun value => second value known

theorem keeps_ite
    {condition : Prop}
    [Decidable condition]
    {yes no : EarlyReturn σ ρ α}
    (ifTrue : Keeps view allowed yes)
    (ifFalse : Keeps view allowed no) :
    Keeps view allowed (if condition then yes else no) :=
  fun known => triple_ite (fun _ => ifTrue known) fun _ => ifFalse known

theorem keeps_returnUnless
    {cleanUp : EarlyReturn σ ρ Unit}
    {result : ρ}
    (cleans : Keeps view allowed cleanUp)
    (isAllowed : allowed result)
    (done : Bool) :
    Keeps view allowed (returnUnless done cleanUp result) :=
  keeps_ite (keeps_pure _) (keeps_bind cleans fun _ => keeps_throw isAllowed)

theorem keeps_forLoop
    {body : Nat → EarlyReturn σ ρ Unit}
    (iteration : ∀ index, Keeps view allowed (body index))
    (count : Nat) :
    Keeps view allowed (forLoop body count) :=
  fun known => triple_forLoop (fun _ state => known (view state))
    fun index _ => iteration index known

end

end EarlyReturn
