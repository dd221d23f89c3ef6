import Mathlib.Tactic.Common

/-!
# Runs of a deterministic machine

A machine answers each input with an output and a next state. A run records every step with the
states around it, so that what holds of one step can be lifted to the whole run: invariants, facts
about each step, and observations that add up along the run.
-/

namespace LatentDeck.Run

variable {σ ι ο δ : Type}

/-- One step of a run with the states around it. -/
structure Step (σ ι ο : Type) where
  before : σ
  input : ι
  output : ο
  after : σ

def stepOf (machine : σ → ι → ο × σ) (before : σ) (input : ι) : Step σ ι ο where
  before
  input
  output := (machine before input).1
  after := (machine before input).2

/-- The steps of a machine on a list of inputs. -/
def steps (machine : σ → ι → ο × σ) : σ → List ι → List (Step σ ι ο)
  | _, [] => []
  | before, input :: inputs =>
      stepOf machine before input :: steps machine (machine before input).2 inputs

def final (machine : σ → ι → ο × σ) : σ → List ι → σ
  | before, [] => before
  | before, input :: inputs => final machine (machine before input).2 inputs

variable {machine : σ → ι → ο × σ}

theorem steps_append (start : σ) (earlier later : List ι) :
    steps machine start (earlier ++ later) =
      steps machine start earlier ++ steps machine (final machine start earlier) later := by
  induction earlier generalizing start with
  | nil => rfl
  | cons input inputs ih => exact congrArg (stepOf machine start input :: ·) (ih _)

theorem final_append (start : σ) (earlier later : List ι) :
    final machine start (earlier ++ later) =
      final machine (final machine start earlier) later := by
  induction earlier generalizing start with
  | nil => rfl
  | cons input inputs ih => exact ih _

theorem step_eq (start : σ) (inputs : List ι) :
    ∀ step ∈ steps machine start inputs, step = stepOf machine step.before step.input := by
  induction inputs generalizing start with
  | nil => exact nofun
  | cons input inputs ih =>
    intro step member
    cases member with
    | head => rfl
    | tail _ member => exact ih _ step member

theorem steps_inputs (machine : σ → ι → ο × σ) (start : σ) (inputs : List ι) :
    (steps machine start inputs).map Step.input = inputs := by
  induction inputs generalizing start with
  | nil => rfl
  | cons input inputs ih => exact congrArg (input :: ·) (ih _)

theorem steps_from {start : σ} {inputs : List ι} {earlier later : List (Step σ ι ο)}
    {step : Step σ ι ο} (split : steps machine start inputs = earlier ++ step :: later) :
    ∃ before input after, inputs = before ++ input :: after ∧
      earlier = steps machine start before ∧
      step = stepOf machine (final machine start before) input ∧
      later = steps machine step.after after := by
  induction earlier generalizing start inputs with
  | nil =>
    cases inputs with
    | nil => exact nomatch split
    | cons input inputs =>
      obtain ⟨first, rest⟩ := List.cons.inj split
      exact ⟨[], input, inputs, rfl, rfl, first.symm, by rw [← first, ← rest]; rfl⟩
  | cons other earlier ih =>
    cases inputs with
    | nil => exact nomatch split
    | cons input inputs =>
      obtain ⟨first, rest⟩ := List.cons.inj split
      obtain ⟨before, next, after, inputs_eq, earlier_eq, step_eq, later_eq⟩ := ih rest
      refine ⟨input :: before, next, after, ?_, ?_, step_eq, later_eq⟩
      · rw [inputs_eq]
        rfl
      · rw [earlier_eq, steps, first]

/-- An invariant that every step on which a condition holds preserves, holds around every step
and at the end of a run whose steps all meet the condition. -/
theorem invariant_under (condition : Step σ ι ο → Prop) (invariant : σ → Prop)
    (preserved : ∀ before input, invariant before → condition (stepOf machine before input) →
      invariant (machine before input).2) (inputs : List ι) :
    ∀ start, invariant start → (∀ step ∈ steps machine start inputs, condition step) →
      invariant (final machine start inputs) ∧
        ∀ step ∈ steps machine start inputs, invariant step.before ∧ invariant step.after := by
  induction inputs with
  | nil => exact fun start holds _ => ⟨holds, nofun⟩
  | cons input inputs ih =>
    intro start holds met
    rw [steps, List.forall_mem_cons] at met
    have next := preserved start input holds met.1
    have rest := ih _ next met.2
    rw [steps, List.forall_mem_cons]
    exact ⟨rest.1, ⟨holds, next⟩, rest.2⟩

/-- An invariant between the state and what was observed along the run holds at the end of a run
whose steps all meet the condition under which a step preserves it. -/
theorem observed_under (condition : Step σ ι ο → Prop) (observe : δ → Step σ ι ο → δ)
    (invariant : δ → σ → Prop) (preserved : ∀ seen before input, invariant seen before →
      condition (stepOf machine before input) →
        invariant (observe seen (stepOf machine before input)) (machine before input).2)
    (inputs : List ι) :
    ∀ start seen, invariant seen start → (∀ step ∈ steps machine start inputs, condition step) →
      invariant ((steps machine start inputs).foldl observe seen) (final machine start inputs) := by
  induction inputs with
  | nil => exact fun start seen holds _ => holds
  | cons input inputs ih =>
    intro start seen holds met
    rw [steps, List.forall_mem_cons] at met
    exact ih _ _ (preserved seen start input holds met.1) met.2

theorem at_end {fact : σ → Prop} (inputs : List ι) :
    ∀ start, fact start → (∀ step ∈ steps machine start inputs, fact step.after) →
      fact (final machine start inputs) := by
  induction inputs with
  | nil => exact fun start holds _ => holds
  | cons input inputs ih =>
    intro start _ after
    rw [steps, List.forall_mem_cons] at after
    exact ih _ after.1 after.2

theorem invariant_always (invariant : σ → Prop)
    (preserved : ∀ before input, invariant before → invariant (machine before input).2)
    (inputs : List ι) (start : σ) (holds : invariant start) :
    invariant (final machine start inputs) ∧
      ∀ step ∈ steps machine start inputs, invariant step.before ∧ invariant step.after :=
  invariant_under (fun _ => True) invariant (fun before input held _ => preserved before input held)
    inputs start holds (fun _ _ => trivial)

theorem forall_steps (invariant : σ → Prop) (fact : Step σ ι ο → Prop)
    (preserved : ∀ before input, invariant before → invariant (machine before input).2)
    (follows : ∀ before input, invariant before → fact (stepOf machine before input))
    (inputs : List ι) (start : σ) (holds : invariant start) :
    ∀ step ∈ steps machine start inputs, fact step := by
  intro step member
  have around := (invariant_always invariant preserved inputs start holds).2 step member
  rw [step_eq start inputs step member]
  exact follows _ _ around.1

/-- From each step of a run the next ones are reached by a relation that every step respects. -/
theorem pairwise_steps {invariant : σ → Prop}
    (preserved : ∀ before input, invariant before → invariant (machine before input).2)
    (reaches : σ → σ → Prop) (refl : ∀ state, reaches state state)
    (trans : ∀ {first second third}, reaches first second → reaches second third →
      reaches first third)
    (moves : ∀ before input, invariant before → reaches before (machine before input).2)
    (inputs : List ι) :
    ∀ start, invariant start → (steps machine start inputs).Pairwise fun earlier later =>
      reaches earlier.after later.before := by
  induction inputs with
  | nil => exact fun _ _ => List.Pairwise.nil
  | cons input inputs ih =>
    intro start holds
    have next := preserved start input holds
    refine List.pairwise_cons.mpr ⟨fun step member => ?_, ih _ next⟩
    have reached := invariant_always
      (fun state => invariant state ∧ reaches (machine start input).2 state)
      (fun before input held => ⟨preserved before input held.1,
        trans held.2 (moves before input held.1)⟩) inputs _ ⟨next, refl _⟩
    exact (reached.2 step member).1.2

/-- A log to which each step adds what it shows holds at the end what all steps showed, in order. -/
theorem logged (log : σ → List δ) (shown : Step σ ι ο → List δ) (inputs : List ι) :
    ∀ start, (∀ step ∈ steps machine start inputs, log step.after = log step.before ++ shown step) →
      log (final machine start inputs) =
        log start ++ (steps machine start inputs).flatMap shown := by
  induction inputs with
  | nil => exact fun start _ => (List.append_nil _).symm
  | cons input inputs ih =>
    intro start grows
    rw [steps, List.forall_mem_cons] at grows
    have rest := ih _ grows.2
    have first : log (machine start input).2 = log start ++ shown (stepOf machine start input) :=
      grows.1
    rw [steps, List.flatMap_cons, ← List.append_assoc, ← first]
    exact rest

end LatentDeck.Run
