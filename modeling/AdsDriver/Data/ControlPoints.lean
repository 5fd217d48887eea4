import AdsDriver.Data.Queues
import AdsDriver.Data.StatusSteps
import Mathlib.Logic.Function.Iterate

/-!
# Steps carried out section by section

A machine with control points performs a step when, from an entry, it arrives at the exit that the
status of the step calls for, with the state that the step leaves behind.  The rules follow the ways
in which steps are composed.  Some states are stops: between the entry and the exit there are none,
so a machine that is found at a stop has performed whole steps, one for each stop that it has left.
-/

namespace ControlPoints

open StatusSteps Runs Queues

variable {σ π τ : Type*}

/-- After some steps a machine is at a state, and it has not been at a stop before. -/
def Arrives (next : τ → τ) (stop : τ → Prop) (start finish : τ) : Prop :=
  ∃ count, next^[count] start = finish ∧ ∀ index < count, ¬ stop (next^[index] start)

namespace Arrives

variable {next : τ → τ} {stop : τ → Prop} {start middle finish : τ}

theorem refl (start : τ) : Arrives next stop start start :=
  ⟨0, rfl, fun _ bound => absurd bound (Nat.not_lt_zero _)⟩

theorem head (running : ¬ stop start) (later : Arrives next stop (next start) finish) :
    Arrives next stop start finish := by
  obtain ⟨count, arrived, on_way⟩ := later
  refine ⟨count + 1, arrived, fun index bound => ?_⟩
  cases index with
  | zero => exact running
  | succ index => exact on_way index (by omega)

theorem trans (first : Arrives next stop start middle) (second : Arrives next stop middle finish) :
    Arrives next stop start finish := by
  obtain ⟨count, rfl, on_way⟩ := first
  induction count generalizing start with
  | zero => exact second
  | succ count ih =>
      refine head (on_way 0 (by omega)) (ih (fun index bound => ?_) second)
      exact on_way (index + 1) (by omega)

end Arrives

/-- From an entry a machine performs a step, and arrives at one exit on success and at the other on
failure. -/
def Performs (next : τ → τ) (stop : τ → Prop) (place : π → σ → τ) (entry : π) (step : Step σ)
    (succeeded failed : π) : Prop :=
  ∀ state, Arrives next stop (place entry state)
    (place (if (step state).1 = 0 then succeeded else failed) (step state).2)

namespace Performs

variable {next : τ → τ} {stop : τ → Prop} {place : π → σ → τ}
variable {entry middle succeeded failed : π} {first second step : Step σ}

theorem of_section (running : ∀ state, ¬ stop (place entry state))
    (section_eq : ∀ state, next (place entry state) =
      place (if (step state).1 = 0 then succeeded else failed) (step state).2) :
    Performs next stop place entry step succeeded failed := fun state =>
  .head (running state) (section_eq state ▸ .refl _)

/-- Two steps in a row. -/
theorem andThen (performs : Performs next stop place entry first middle failed)
    (performs' : Performs next stop place middle second succeeded failed) :
    Performs next stop place entry (first.andThen second) succeeded failed := by
  intro state
  have arrives := performs state
  by_cases zero : (first state).1 = 0
  · rw [if_pos zero] at arrives
    rw [Step.andThen_of_success zero]
    exact arrives.trans (performs' _)
  · rw [if_neg zero] at arrives
    rw [Step.andThen, if_pos zero, if_neg zero]
    exact arrives

/-- A step that cleans up after its failure. -/
theorem onFailure {cleaning : π} {cleanUp : σ → σ}
    (performs : Performs next stop place entry step succeeded cleaning)
    (cleans : ∀ state, Arrives next stop (place cleaning state) (place failed (cleanUp state))) :
    Performs next stop place entry (step.onFailure cleanUp) succeeded failed := by
  intro state
  have arrives := performs state
  rw [Step.onFailure_status]
  by_cases zero : (step state).1 = 0
  · rw [if_pos zero] at arrives ⊢
    rw [Step.onFailure, if_neg (not_not_intro zero)]
    exact arrives
  · rw [if_neg zero] at arrives ⊢
    rw [Step.onFailure, if_pos zero]
    exact arrives.trans (cleans _)

end Performs

section Sampled

variable {ι : Type*} (next : τ → ι → τ) (stop : τ → Prop) [DecidablePred stop]

/-- A machine that takes in an input at a stop, and keeps it until the next one. -/
def sampled (pair : τ × ι) (input : ι) : τ × ι :=
  let taken := if stop pair.1 then input else pair.2
  (next pair.1 taken, taken)

/-- The inputs that a run takes in at its stops. -/
abbrev takenIn : τ × ι → List ι → List ι :=
  produced (sampled next stop) fun pair input => if stop pair.1 then [input] else []

variable {next stop}

theorem takenIn_append (start : τ × ι) (front back : List ι) :
    takenIn next stop start (front ++ back) =
      takenIn next stop start front ++
        takenIn next stop (run (sampled next stop) start front) back :=
  produced_append _ _ start front back

theorem run_sampled {start : τ} {taken : ι} (inputs : List ι)
    (on_way : ∀ index < inputs.length, ¬ stop ((next · taken)^[index] start)) :
    run (sampled next stop) (start, taken) inputs =
        ((next · taken)^[inputs.length] start, taken) ∧
      takenIn next stop (start, taken) inputs = [] := by
  induction inputs using List.reverseRecOn with
  | nil => exact ⟨rfl, rfl⟩
  | append_singleton inputs input ih =>
      rw [List.length_append, List.length_singleton] at on_way ⊢
      have before := on_way inputs.length (by omega)
      obtain ⟨run_eq, taken_eq⟩ := ih fun index bound => on_way index (by omega)
      constructor
      · rw [run_concat, run_eq, sampled, Function.iterate_succ_apply']
        simp only [if_neg before]
      · rw [takenIn, produced_concat, run_eq, ← takenIn, taken_eq, if_neg before, List.append_nil]

theorem Arrives.exists_run {start finish : τ} {taken : ι}
    (arrives : Arrives (next · taken) stop (next start taken) finish) (held : ι)
    (stopped : stop start) :
    ∃ inputs, run (sampled next stop) (start, held) inputs = (finish, taken) ∧
      takenIn next stop (start, held) inputs = [taken] := by
  obtain ⟨count, rfl, on_way⟩ := arrives
  have first : sampled next stop (start, held) taken = (next start taken, taken) := by
    rw [sampled, if_pos stopped]
  obtain ⟨run_eq, taken_eq⟩ :=
    run_sampled (List.replicate count taken) (by simpa using on_way)
  refine ⟨taken :: List.replicate count taken, ?_, ?_⟩
  · rw [run_cons, first, run_eq, List.length_replicate]
  · rw [takenIn, produced, first, ← takenIn, taken_eq, if_pos stopped, List.append_nil]

theorem run_sampled_halted {halted : τ} (stays : ∀ input, next halted input = halted) (taken : ι)
    (inputs : List ι) : (run (sampled next stop) (halted, taken) inputs).1 = halted := by
  induction inputs using List.reverseRecOn with
  | nil => rfl
  | append_singleton inputs input ih => rw [run_concat, sampled, ih, stays]

/-- A run that is found at a stop has arrived wherever its first input leads. -/
theorem Arrives.passed {start finish : τ} {taken : ι} {inputs : List ι}
    (arrives : Arrives (next · taken) stop start finish)
    (stopped : stop (run (sampled next stop) (start, taken) inputs).1) :
    ∃ later, later.length ≤ inputs.length ∧
      (run (sampled next stop) (start, taken) inputs).1 =
        (run (sampled next stop) (finish, taken) later).1 ∧
      takenIn next stop (start, taken) inputs = takenIn next stop (finish, taken) later := by
  obtain ⟨count, rfl, on_way⟩ := arrives
  have enough : count ≤ inputs.length := by
    by_contra! short
    rw [(run_sampled _ fun index bound => on_way index (by omega)).1] at stopped
    exact on_way _ short stopped
  have exact_length : (inputs.take count).length = count := List.length_take_of_le enough
  obtain ⟨run_eq, taken_eq⟩ := run_sampled (inputs.take count)
    fun index bound => on_way index (by omega)
  rw [exact_length] at run_eq
  refine ⟨inputs.drop count, (List.drop_sublist _ _).length_le, ?_, ?_⟩
  · conv_lhs => rw [← List.take_append_drop count inputs, run_append, run_eq]
  · conv_lhs => rw [← List.take_append_drop count inputs, takenIn_append, taken_eq, run_eq,
      List.nil_append]

/-- When each step of a whole is taken section by section, or leads to a halt, a run that is found
at a stop has taken whole steps, one with each input that it has taken in. -/
theorem sampled_sound {place : σ → τ} {whole : σ → ι → σ} (stops : ∀ state, stop (place state))
    (leads : ∀ state input,
      Arrives (next · input) stop (next (place state) input) (place (whole state input)) ∨
        ∃ halted, Arrives (next · input) stop (next (place state) input) halted ∧
          ¬ stop halted ∧ ∀ input, next halted input = halted)
    {start : σ} {held : ι} {inputs : List ι}
    (stopped : stop (run (sampled next stop) (place start, held) inputs).1) :
    (run (sampled next stop) (place start, held) inputs).1 =
      place (run whole start (takenIn next stop (place start, held) inputs)) := by
  induction count : inputs.length using Nat.strong_induction_on generalizing start held inputs with
  | _ count ih =>
    cases inputs with
    | nil => rfl
    | cons input inputs =>
        have taken : takenIn next stop (place start, held) (input :: inputs) =
            input :: takenIn next stop (next (place start) input, input) inputs := by
          rw [takenIn, produced, if_pos (stops start), sampled, if_pos (stops start)]
          rfl
        rw [taken]
        rw [run_cons, sampled, if_pos (stops start)] at stopped ⊢
        rcases leads start input with arrives | ⟨halted, arrives, not_stop, stays⟩
        · obtain ⟨later, shorter, same, taken_eq⟩ := arrives.passed stopped
          rw [same] at stopped ⊢
          rw [List.length_cons] at count
          rw [ih later.length (by omega) stopped rfl, taken_eq]
          rfl
        · obtain ⟨later, _, same, _⟩ := arrives.passed stopped
          rw [same, run_sampled_halted stays] at stopped
          exact absurd stopped not_stop

end Sampled

end ControlPoints
