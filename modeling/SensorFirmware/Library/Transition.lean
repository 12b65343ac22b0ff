import Mathlib.Data.List.Forall2

/-!
# Runs of a deterministic machine

A machine is a step function on states and inputs.  A run feeds a list of
inputs.  `visited` lists the states after each input, and `AllSteps` says that
every step of a run meets a condition on the state before it and on its input.
An invariant is proved once for one step and then holds along every run.
-/

namespace Transition

section

variable {σ : Type u} {ι : Type v} {ω : Type w} (step : σ → ι → σ)

/-- State after feeding a list of inputs. -/
def run (state : σ) (inputs : List ι) : σ :=
  inputs.foldl step state

/-- States after each input of a run, in order. -/
def visited (state : σ) : List ι → List σ
  | [] => []
  | input :: inputs => step state input :: visited (step state input) inputs

/-- Every step of the run meets the condition. -/
def AllSteps (condition : σ → ι → Prop) (state : σ) : List ι → Prop
  | [] => True
  | input :: inputs =>
      condition state input ∧ AllSteps condition (step state input) inputs

instance decidableAllSteps (condition : σ → ι → Prop)
    [∀ state input, Decidable (condition state input)] (state : σ) :
    (inputs : List ι) → Decidable (AllSteps step condition state inputs)
  | [] => isTrue trivial
  | input :: inputs =>
      have := decidableAllSteps condition (step state input) inputs
      inferInstanceAs (Decidable (_ ∧ _))

/-- What the steps of a run put out, in order. -/
def outputs (output : σ → ι → ω) (state : σ) : List ι → List ω
  | [] => []
  | input :: inputs => output state input :: outputs output (step state input) inputs

@[simp] theorem run_nil (state : σ) : run step state [] = state := rfl

@[simp] theorem run_cons
    (state : σ)
    (input : ι)
    (inputs : List ι) :
    run step state (input :: inputs) = run step (step state input) inputs := rfl

theorem run_append
    (state : σ)
    (first second : List ι) :
    run step state (first ++ second) = run step (run step state first) second :=
  List.foldl_append

/-- The outputs of a run are those of its parts. -/
theorem outputs_append
    (output : σ → ι → ω)
    (state : σ)
    (first second : List ι) :
    outputs step output state (first ++ second) =
      outputs step output state first ++
        outputs step output (run step state first) second := by
  induction first generalizing state with
  | nil => rfl
  | cons input first inductionHypothesis =>
      rw [List.cons_append, outputs, outputs, inductionHypothesis, run_cons,
        List.cons_append]

/-- What is put out only at some steps, with one more step at the end. -/
theorem filterMap_outputs_concat
    (output : σ → ι → Option ω)
    (state : σ)
    (inputs : List ι)
    (input : ι) :
    (outputs step output state (inputs ++ [input])).filterMap id =
      (outputs step output state inputs).filterMap id ++
        (output (run step state inputs) input).toList := by
  rw [outputs_append, List.filterMap_append, outputs, outputs]
  cases output (run step state inputs) input <;> rfl

end

section

variable {σ : Type u} {ι : Type v} {ω : Type w} {step : σ → ι → σ}
variable {condition : σ → ι → Prop}

/-- A longer run meets a condition at its last step too. -/
theorem allSteps_append_singleton
    (state : σ)
    (inputs : List ι)
    (input : ι) :
    AllSteps step condition state (inputs ++ [input]) ↔
      AllSteps step condition state inputs ∧
        condition (run step state inputs) input := by
  induction inputs generalizing state with
  | nil => simp [AllSteps]
  | cons first inputs inductionHypothesis =>
      rw [List.cons_append, AllSteps, AllSteps, inductionHypothesis, run_cons, and_assoc]

/-- The steps of a run are those of its parts. -/
theorem allSteps_append
    (state : σ)
    (first second : List ι) :
    AllSteps step condition state (first ++ second) ↔
      AllSteps step condition state first ∧
        AllSteps step condition (run step state first) second := by
  induction first generalizing state with
  | nil => simp [AllSteps]
  | cons input first inductionHypothesis =>
      rw [List.cons_append, AllSteps, AllSteps, inductionHypothesis, run_cons, and_assoc]

/-- Every step meets a condition exactly when it does wherever the run is cut. -/
theorem allSteps_iff_forall_cut
    (state : σ)
    (inputs : List ι) :
    AllSteps step condition state inputs ↔
      ∀ before input after, inputs = before ++ input :: after →
        condition (run step state before) input := by
  constructor
  · rintro allSteps before input after rfl
    exact ((allSteps_append state before (input :: after)).mp allSteps).2.1
  · intro everywhere
    induction inputs generalizing state with
    | nil => trivial
    | cons input inputs inductionHypothesis =>
        refine ⟨everywhere [] input inputs rfl, inductionHypothesis _ ?_⟩
        rintro before next after rfl
        exact everywhere (input :: before) next after rfl

/-- Conditions that agree under an invariant hold along the same runs. -/
theorem allSteps_congr_of_kept
    {other : σ → ι → Prop}
    (invariant : σ → Prop)
    (kept : ∀ state input, invariant state → invariant (step state input))
    (agree : ∀ state input, invariant state →
      (condition state input ↔ other state input))
    {state : σ}
    (initially : invariant state)
    (inputs : List ι) :
    AllSteps step condition state inputs ↔ AllSteps step other state inputs := by
  induction inputs generalizing state with
  | nil => exact Iff.rfl
  | cons input inputs inductionHypothesis =>
      exact and_congr (agree state input initially)
        (inductionHypothesis (kept state input initially))

/-- An invariant kept by every step that meets the condition holds after any
run whose steps all meet it. -/
theorem AllSteps.run_invariant
    (invariant : σ → Prop)
    (kept : ∀ state input, invariant state → condition state input →
      invariant (step state input))
    {state : σ}
    {inputs : List ι}
    (allSteps : AllSteps step condition state inputs)
    (initially : invariant state) :
    invariant (run step state inputs) := by
  induction inputs generalizing state with
  | nil => exact initially
  | cons input inputs inductionHypothesis =>
      obtain ⟨first, rest⟩ := allSteps
      exact inductionHypothesis rest (kept state input initially first)

/-- Such an invariant holds of every state that the run visits. -/
theorem AllSteps.forall_visited
    (invariant : σ → Prop)
    (kept : ∀ state input, invariant state → condition state input →
      invariant (step state input))
    {state : σ}
    {inputs : List ι}
    (allSteps : AllSteps step condition state inputs)
    (initially : invariant state) :
    ∀ reached ∈ visited step state inputs, invariant reached := by
  induction inputs generalizing state with
  | nil => simp [visited]
  | cons input inputs inductionHypothesis =>
      obtain ⟨first, rest⟩ := allSteps
      have next := kept state input initially first
      rw [visited, List.forall_mem_cons]
      exact ⟨next, inductionHypothesis rest next⟩

/-- An invariant that every step keeps holds after every run. -/
theorem run_invariant
    (invariant : σ → Prop)
    (kept : ∀ state input, invariant state → invariant (step state input))
    {state : σ}
    (initially : invariant state)
    (inputs : List ι) :
    invariant (run step state inputs) := by
  induction inputs generalizing state with
  | nil => exact initially
  | cons input inputs inductionHypothesis =>
      exact inductionHypothesis (kept state input initially)

/-- When the invariant relates the output of every step to its input, the
outputs of a run are related to its inputs one by one. -/
theorem forall₂_outputs_of_kept
    {output : σ → ι → ω}
    {related : ι → ω → Prop}
    (invariant : σ → Prop)
    (kept : ∀ state input, invariant state → invariant (step state input))
    (relates : ∀ state input, invariant state → related input (output state input))
    {state : σ}
    (initially : invariant state)
    (inputs : List ι) :
    List.Forall₂ related inputs (outputs step output state inputs) := by
  induction inputs generalizing state with
  | nil => exact .nil
  | cons input inputs inductionHypothesis =>
      exact .cons (relates state input initially)
        (inductionHypothesis (kept state input initially))

/-- When every step extends a log by a chunk that fits its input and output, a run
extends the log by one fitting chunk for each step, in order. -/
theorem exists_chunks
    {output : σ → ι → ω}
    (log : σ → List α)
    (fits : ι → ω → List α → Prop)
    (extended : ∀ state input, ∃ chunk,
      log (step state input) = log state ++ chunk ∧ fits input (output state input) chunk)
    (state : σ)
    (inputs : List ι) :
    ∃ chunks, log (run step state inputs) = log state ++ chunks.flatten ∧
      List.Forall₂ (fun call chunk => fits call.1 call.2 chunk)
        (inputs.zip (outputs step output state inputs)) chunks := by
  induction inputs generalizing state with
  | nil => exact ⟨[], (List.append_nil _).symm, .nil⟩
  | cons input inputs inductionHypothesis =>
      obtain ⟨chunk, grown, fitting⟩ := extended state input
      obtain ⟨chunks, rest, allFit⟩ := inductionHypothesis (step state input)
      refine ⟨chunk :: chunks, ?_, .cons fitting allFit⟩
      rw [run_cons, rest, grown, List.flatten_cons, List.append_assoc]

theorem length_outputs
    (output : σ → ι → ω)
    (state : σ)
    (inputs : List ι) :
    (outputs step output state inputs).length = inputs.length := by
  induction inputs generalizing state with
  | nil => rfl
  | cons input inputs inductionHypothesis =>
      rw [outputs, List.length_cons, List.length_cons, inductionHypothesis]

/-- The chunks of a log, when an output alone decides whether a chunk fits. -/
theorem exists_chunks_of_outputs
    {output : σ → ι → ω}
    (log : σ → List α)
    (fits : ω → List α → Prop)
    (extended : ∀ state input, ∃ chunk,
      log (step state input) = log state ++ chunk ∧ fits (output state input) chunk)
    (state : σ)
    (inputs : List ι) :
    ∃ chunks, log (run step state inputs) = log state ++ chunks.flatten ∧
      List.Forall₂ fits (outputs step output state inputs) chunks := by
  obtain ⟨chunks, grown, allFit⟩ :=
    exists_chunks log (fun _ => fits) extended state inputs
  refine ⟨chunks, grown, ?_⟩
  have same : (inputs.zip (outputs step output state inputs)).map Prod.snd =
      outputs step output state inputs :=
    List.map_snd_zip (Nat.le_of_eq (length_outputs output state inputs))
  rw [← same, List.forall₂_map_left_iff]
  exact allFit

/-- Where the outputs of a run are cut, its inputs can be cut too. -/
theorem exists_cut_of_outputs
    {output : σ → ι → ω}
    {state : σ}
    {inputs : List ι}
    {before after : List ω}
    {event : ω}
    (cut : outputs step output state inputs = before ++ event :: after) :
    ∃ first input, before = outputs step output state first ∧
      event = output (run step state first) input := by
  induction inputs generalizing state before with
  | nil => exact absurd cut.symm (List.append_ne_nil_of_right_ne_nil _ (List.cons_ne_nil _ _))
  | cons input inputs inductionHypothesis =>
      cases before with
      | nil => exact ⟨[], input, rfl, (List.cons.inj cut).1.symm⟩
      | cons earlier before =>
          obtain ⟨head, rest⟩ := List.cons.inj cut
          obtain ⟨first, last, rfl, same⟩ := inductionHypothesis rest
          exact ⟨input :: first, last, by rw [outputs, head], same⟩

/-- Every state that a run visits has an invariant that every step keeps. -/
theorem forall_visited_of_kept
    (invariant : σ → Prop)
    (kept : ∀ state input, invariant state → invariant (step state input))
    {state : σ}
    (initially : invariant state)
    (inputs : List ι) :
    ∀ reached ∈ visited step state inputs, invariant reached := by
  induction inputs generalizing state with
  | nil => simp [visited]
  | cons input inputs inductionHypothesis =>
      have next := kept state input initially
      rw [visited, List.forall_mem_cons]
      exact ⟨next, inductionHypothesis next⟩

/-- When the condition says exactly which of the admitted steps keep the
invariant, a run of admitted steps visits only states with the invariant exactly
when all its steps meet the condition. -/
theorem forall_visited_iff_allSteps_of_admitted
    (invariant : σ → Prop)
    (admitted : σ → ι → Prop)
    (exact : ∀ state input, admitted state input → invariant state →
      (invariant (step state input) ↔ condition state input))
    {state : σ}
    {inputs : List ι}
    (allAdmitted : AllSteps step admitted state inputs)
    (initially : invariant state) :
    (∀ reached ∈ visited step state inputs, invariant reached) ↔
      AllSteps step condition state inputs := by
  induction inputs generalizing state with
  | nil => simp [visited, AllSteps]
  | cons input inputs inductionHypothesis =>
      obtain ⟨firstAdmitted, restAdmitted⟩ := allAdmitted
      have first := exact state input firstAdmitted initially
      simp only [visited, List.forall_mem_cons, AllSteps]
      constructor
      · rintro ⟨next, rest⟩
        exact ⟨first.mp next, (inductionHypothesis restAdmitted next).mp rest⟩
      · rintro ⟨meets, rest⟩
        have next := first.mpr meets
        exact ⟨next, (inductionHypothesis restAdmitted next).mpr rest⟩

/-- The same for a machine that admits every step. -/
theorem forall_visited_iff_allSteps
    (invariant : σ → Prop)
    (exact : ∀ state input, invariant state →
      (invariant (step state input) ↔ condition state input))
    {state : σ}
    (initially : invariant state)
    (inputs : List ι) :
    (∀ reached ∈ visited step state inputs, invariant reached) ↔
      AllSteps step condition state inputs := by
  have admitted (state : σ) (inputs : List ι) :
      AllSteps step (fun _ _ => True) state inputs := by
    induction inputs generalizing state with
    | nil => trivial
    | cons input inputs inductionHypothesis =>
        exact ⟨trivial, inductionHypothesis (step state input)⟩
  exact forall_visited_iff_allSteps_of_admitted invariant (fun _ _ => True)
    (fun state input _ => exact state input) (admitted state inputs) initially

end

/-! ## Simulation -/

section

variable {σ : Type u} {τ : Type v} {ι : Type w} {ω : Type z}
variable {step : σ → ι → σ} {model : τ → ι → τ}

/-- Machines whose steps keep a relation stay related along every run. -/
theorem run_related
    (related : σ → τ → Prop)
    (kept : ∀ state image input, related state image →
      related (step state input) (model image input))
    {state : σ}
    {image : τ}
    (initially : related state image)
    (inputs : List ι) :
    related (run step state inputs) (run model image inputs) := by
  induction inputs generalizing state image with
  | nil => exact initially
  | cons input inputs inductionHypothesis =>
      exact inductionHypothesis (kept state image input initially)

/-- When related states put out the same, so do the runs from them. -/
theorem outputs_eq_of_related
    {output : σ → ι → ω}
    {modelOutput : τ → ι → ω}
    (related : σ → τ → Prop)
    (kept : ∀ state image input, related state image →
      related (step state input) (model image input))
    (same : ∀ state image input, related state image →
      output state input = modelOutput image input)
    {state : σ}
    {image : τ}
    (initially : related state image)
    (inputs : List ι) :
    outputs step output state inputs = outputs model modelOutput image inputs := by
  induction inputs generalizing state image with
  | nil => rfl
  | cons input inputs inductionHypothesis =>
      rw [outputs, outputs, same state image input initially,
        inductionHypothesis (kept state image input initially)]

end

end Transition
