import Mathlib.Tactic.Common

/-!
# Steps that report a status

A step changes a state and reports a status, which is 0 on success.  Steps are run in a row up to
the first failure, and a step may clean up after its failure.  The triple of a step has one
postcondition for success and one for failure, so the rules below follow both exits.
-/

namespace StatusSteps

/-- A step: the status that it reports and the state after it. -/
abbrev Step (σ : Type*) := σ → Int × σ

variable {σ : Type*}

namespace Step

/-- Run the second step if the first one succeeds. -/
def andThen (first second : Step σ) : Step σ := fun state =>
  if (first state).1 ≠ 0 then first state else second (first state).2

/-- Clean up after a failure, which is still reported. -/
def onFailure (step : Step σ) (cleanUp : σ → σ) : Step σ := fun state =>
  if (step state).1 ≠ 0 then ((step state).1, cleanUp (step state).2) else step state

/-- Run a step only if a condition holds of the state. -/
def onlyIf (condition : σ → Bool) (step : Step σ) : Step σ := fun state =>
  if condition state then step state else (0, state)

theorem andThen_eq_zero_iff (first second : Step σ) (state : σ) :
    (first.andThen second state).1 = 0 ↔
      (first state).1 = 0 ∧ (second (first state).2).1 = 0 := by
  unfold andThen
  split_ifs with failed
  · exact iff_of_false failed fun both => failed both.1
  · exact (and_iff_right (not_not.mp failed)).symm

theorem andThen_of_success {first : Step σ} {state : σ} (succeeds : (first state).1 = 0)
    (second : Step σ) : first.andThen second state = second (first state).2 :=
  if_neg (not_not_intro succeeds)

@[simp]
theorem onFailure_status (step : Step σ) (cleanUp : σ → σ) (state : σ) :
    (step.onFailure cleanUp state).1 = (step state).1 := by
  unfold onFailure
  split_ifs <;> rfl

end Step

/-- From a state that meets the precondition, a step ends in a state that meets the postcondition
of the exit it takes. -/
def Ends (pre : σ → Prop) (step : Step σ) (succeeded failed : σ → Prop) : Prop :=
  ∀ state, pre state →
    ((step state).1 = 0 → succeeded (step state).2) ∧
      ((step state).1 ≠ 0 → failed (step state).2)

namespace Ends

variable {pre middle succeeded failed : σ → Prop} {first second step : Step σ}

theorem success {state : σ} (triple : Ends pre step succeeded failed) (start : pre state)
    (zero : (step state).1 = 0) : succeeded (step state).2 := (triple state start).1 zero

theorem failure {state : σ} (triple : Ends pre step succeeded failed) (start : pre state)
    (nonzero : (step state).1 ≠ 0) : failed (step state).2 := (triple state start).2 nonzero

/-- Strengthen the precondition and weaken the postconditions. -/
theorem imp {pre' succeeded' failed' : σ → Prop} (triple : Ends pre step succeeded failed)
    (before : ∀ state, pre' state → pre state)
    (on_success : ∀ state, succeeded state → succeeded' state)
    (on_failure : ∀ state, failed state → failed' state) :
    Ends pre' step succeeded' failed' := by
  intro state start
  obtain ⟨success, failure⟩ := triple state (before state start)
  exact ⟨fun zero => on_success _ (success zero), fun nonzero => on_failure _ (failure nonzero)⟩

theorem andThen (head : Ends pre first middle failed) (tail : Ends middle second succeeded failed) :
    Ends pre (first.andThen second) succeeded failed := by
  intro state start
  unfold Step.andThen
  split_ifs with nonzero
  · exact ⟨fun zero => absurd zero nonzero, head.failure start⟩
  · exact tail _ (head.success start (not_not.mp nonzero))

/-- A step that cleans up. -/
theorem onFailure {cleanUp : σ → σ} {cleaned : σ → Prop} (triple : Ends pre step succeeded failed)
    (cleans : ∀ state, failed state → cleaned (cleanUp state)) :
    Ends pre (step.onFailure cleanUp) succeeded cleaned := by
  intro state start
  unfold Step.onFailure
  split_ifs with nonzero
  · exact ⟨fun zero => absurd zero nonzero, fun _ => cleans _ (triple.failure start nonzero)⟩
  · exact ⟨triple.success start, fun failed => absurd failed nonzero⟩

/-- A step under a condition. -/
theorem onlyIf {condition : σ → Bool} (triple : Ends pre step succeeded failed)
    (skipped : ∀ state, pre state → condition state = false → succeeded state) :
    Ends pre (step.onlyIf condition) succeeded failed := by
  intro state start
  unfold Step.onlyIf
  split_ifs with runs
  · exact triple state start
  · exact ⟨fun _ => skipped state start (by simpa using runs), fun nonzero => absurd rfl nonzero⟩

theorem always {after : σ → Prop} {state : σ} (triple : Ends pre step after after)
    (start : pre state) : after (step state).2 := by
  by_cases zero : (step state).1 = 0
  · exact triple.success start zero
  · exact triple.failure start zero

end Ends

end StatusSteps
