import Mathlib.Data.List.Infix
import Mathlib.Tactic.Common

/-!
# Runs of deterministic machines

A machine is a step function and a run is a list of inputs.  A property holds throughout a run
when it holds after every prefix; when one step keeps it exactly under a condition on the state
before and the input, it holds throughout a run exactly when every step meets the condition.
-/

namespace Runs

variable {σ ι : Type*}

/-- The state after a list of inputs. -/
def run (step : σ → ι → σ) (start : σ) (inputs : List ι) : σ := inputs.foldl step start

@[simp]
theorem run_nil (step : σ → ι → σ) (start : σ) : run step start [] = start := rfl

theorem run_cons (step : σ → ι → σ) (start : σ) (input : ι) (inputs : List ι) :
    run step start (input :: inputs) = run step (step start input) inputs := rfl

@[simp]
theorem run_concat (step : σ → ι → σ) (start : σ) (inputs : List ι) (input : ι) :
    run step start (inputs ++ [input]) = step (run step start inputs) input := by
  simp [run]

theorem run_append (step : σ → ι → σ) (start : σ) (first second : List ι) :
    run step start (first ++ second) = run step (run step start first) second :=
  List.foldl_append

/-- Two machines driven by the same inputs. -/
def paired {τ : Type*} (left : σ → ι → σ) (right : τ → ι → τ) (pair : σ × τ) (input : ι) : σ × τ :=
  (left pair.1 input, right pair.2 input)

theorem run_paired {τ : Type*} (left : σ → ι → σ) (right : τ → ι → τ) (pair : σ × τ)
    (inputs : List ι) :
    run (paired left right) pair inputs = (run left pair.1 inputs, run right pair.2 inputs) := by
  induction inputs using List.reverseRecOn with
  | nil => rfl
  | append_singleton inputs input ih => rw [run_concat, run_concat, run_concat, ih, paired]

/-- A property of all states reached by a run. -/
def Throughout (step : σ → ι → σ) (property : σ → Prop) (start : σ) (inputs : List ι) : Prop :=
  ∀ front, front <+: inputs → property (run step start front)

/-- Every input of a run meets a condition in the state in which it is taken. -/
def EachMeets (step : σ → ι → σ) (condition : σ → ι → Prop) (start : σ) (inputs : List ι) :
    Prop :=
  ∀ front input, front ++ [input] <+: inputs → condition (run step start front) input

theorem prefix_concat_iff {front inputs : List ι} {input : ι} :
    front <+: inputs ++ [input] ↔ front = inputs ++ [input] ∨ front <+: inputs :=
  List.prefix_concat_iff

theorem throughout_concat {step : σ → ι → σ} {property : σ → Prop} {start : σ}
    {inputs : List ι} {input : ι} :
    Throughout step property start (inputs ++ [input]) ↔
      Throughout step property start inputs ∧
        property (step (run step start inputs) input) := by
  constructor
  · intro holds
    refine ⟨fun front reached => holds front (reached.trans (List.prefix_append _ _)), ?_⟩
    simpa using holds _ (List.prefix_refl (inputs ++ [input]))
  · rintro ⟨earlier, last⟩ front reached
    rcases prefix_concat_iff.mp reached with rfl | shorter
    · simpa using last
    · exact earlier front shorter

theorem eachMeets_concat {step : σ → ι → σ} {condition : σ → ι → Prop} {start : σ}
    {inputs : List ι} {input : ι} :
    EachMeets step condition start (inputs ++ [input]) ↔
      EachMeets step condition start inputs ∧ condition (run step start inputs) input := by
  constructor
  · intro meets
    exact ⟨fun front other taken => meets front other (taken.trans (List.prefix_append _ _)),
      meets inputs input (List.prefix_refl _)⟩
  · rintro ⟨earlier, last⟩ front other taken
    rcases prefix_concat_iff.mp taken with same | shorter
    · obtain ⟨rfl, same_input⟩ := List.append_inj' same rfl
      obtain rfl : other = input := by simpa using same_input
      exact last
    · exact earlier front other shorter

theorem eachMeets_nil (step : σ → ι → σ) (condition : σ → ι → Prop) (start : σ) :
    EachMeets step condition start [] := by
  intro front input taken
  simpa using taken.length_le

theorem eachMeets_cons {step : σ → ι → σ} {condition : σ → ι → Prop} {start : σ} {input : ι}
    {inputs : List ι} :
    EachMeets step condition start (input :: inputs) ↔
      condition start input ∧ EachMeets step condition (step start input) inputs := by
  constructor
  · intro meets
    refine ⟨meets [] input (by simp), fun front other taken => ?_⟩
    exact meets (input :: front) other (List.cons_prefix_cons.mpr ⟨rfl, taken⟩)
  · rintro ⟨first, rest⟩ front other taken
    cases front with
    | nil =>
        obtain ⟨rfl, -⟩ := List.cons_prefix_cons.mp taken
        exact first
    | cons head front =>
        obtain ⟨rfl, later⟩ := List.cons_prefix_cons.mp taken
        exact rest front other later

/-- Conditions on one step that can be decided can be decided on runs. -/
def decidableEachMeets {step : σ → ι → σ} {condition : σ → ι → Prop}
    [∀ state input, Decidable (condition state input)] :
    (start : σ) → (inputs : List ι) → Decidable (EachMeets step condition start inputs)
  | _, [] => isTrue (eachMeets_nil _ _ _)
  | start, input :: inputs =>
      have : Decidable (EachMeets step condition (step start input) inputs) :=
        decidableEachMeets (step start input) inputs
      decidable_of_iff (condition start input ∧ EachMeets step condition (step start input) inputs)
        eachMeets_cons.symm

instance {step : σ → ι → σ} {condition : σ → ι → Prop}
    [∀ state input, Decidable (condition state input)] (start : σ) (inputs : List ι) :
    Decidable (EachMeets step condition start inputs) :=
  decidableEachMeets start inputs

/-- A machine that follows another one meets the same conditions. -/
theorem eachMeets_follow {τ : Type*} {step : σ → ι → σ} {step' : τ → ι → τ} (view : τ → σ)
    (follows : ∀ state input, view (step' state input) = step (view state) input)
    (condition : σ → ι → Prop) (start : τ) (inputs : List ι) :
    EachMeets step' (fun state => condition (view state)) start inputs ↔
      EachMeets step condition (view start) inputs := by
  induction inputs generalizing start with
  | nil => exact iff_of_true (eachMeets_nil _ _ _) (eachMeets_nil _ _ _)
  | cons input inputs ih => rw [eachMeets_cons, eachMeets_cons, ih, follows]

/-- Every input of a list meets a condition when those of its two halves do. -/
theorem eachMeets_append {step : σ → ι → σ} {condition : σ → ι → Prop} {start : σ}
    {first second : List ι} :
    EachMeets step condition start (first ++ second) ↔
      EachMeets step condition start first ∧
        EachMeets step condition (run step start first) second := by
  induction second using List.reverseRecOn with
  | nil => simp [eachMeets_nil]
  | append_singleton second input ih =>
      rw [← List.append_assoc, eachMeets_concat, ih, eachMeets_concat, run_append, and_assoc]

/-- Two conditions that agree on one step agree on runs, when the first keeps what the agreement
needs. -/
theorem eachMeets_congr {step : σ → ι → σ} (inv : σ → Prop) {first second : σ → ι → Prop}
    (agree : ∀ state input, inv state → (first state input ↔ second state input))
    (kept : ∀ state input, inv state → first state input → inv (step state input))
    {start : σ} (initially : inv start) (inputs : List ι) :
    EachMeets step first start inputs ↔ EachMeets step second start inputs := by
  induction inputs generalizing start with
  | nil => exact iff_of_true (eachMeets_nil _ _ _) (eachMeets_nil _ _ _)
  | cons input inputs ih =>
      rw [eachMeets_cons, eachMeets_cons, ← agree start input initially]
      exact and_congr_right fun meets => ih (kept start input initially meets)

/-- A property kept by every step that meets an assumption holds in every state of a run whose steps
all meet it. -/
theorem run_induction {step : σ → ι → σ} (property : σ → Prop) {assumption : σ → ι → Prop}
    (kept : ∀ state input, property state → assumption state input → property (step state input))
    {start : σ} (initially : property start) {inputs : List ι}
    (assumed : EachMeets step assumption start inputs) : property (run step start inputs) := by
  induction inputs using List.reverseRecOn with
  | nil => exact initially
  | append_singleton inputs input ih =>
      obtain ⟨earlier, last⟩ := eachMeets_concat.mp assumed
      rw [run_concat]
      exact kept _ _ (ih earlier) last

/-- A property kept by every step holds in every state of a run. -/
theorem run_invariant {step : σ → ι → σ} (property : σ → Prop)
    (kept : ∀ state input, property state → property (step state input)) {start : σ}
    (initially : property start) (inputs : List ι) : property (run step start inputs) :=
  have assumed : EachMeets step (fun _ _ => True) start inputs := fun _ _ _ => trivial
  run_induction property (fun state input holds _ => kept state input holds) initially assumed

/-- When one step keeps a property exactly under a condition, a run keeps it throughout exactly when
each of its steps meets the condition. -/
theorem throughout_iff {step : σ → ι → σ} {inv property : σ → Prop}
    {assumption condition : σ → ι → Prop}
    (inv_kept : ∀ state input, inv state → assumption state input → inv (step state input))
    (step_iff : ∀ state input, inv state → assumption state input → property state →
      (property (step state input) ↔ condition state input))
    {start : σ} (inv_start : inv start) (initially : property start) {inputs : List ι}
    (assumed : EachMeets step assumption start inputs) :
    Throughout step property start inputs ↔ EachMeets step condition start inputs := by
  induction inputs using List.reverseRecOn with
  | nil =>
      constructor
      · exact fun _ => eachMeets_nil _ _ _
      · intro _ front reached
        rw [List.prefix_nil.mp reached]
        exact initially
  | append_singleton inputs input ih =>
      obtain ⟨earlier, last⟩ := eachMeets_concat.mp assumed
      rw [throughout_concat, eachMeets_concat, ih earlier]
      refine and_congr_right fun meets => ?_
      exact step_iff _ _ (run_induction inv inv_kept inv_start earlier) last
        ((ih earlier).mpr meets inputs (List.prefix_refl _))

/-- When one step keeps two machines related exactly under a condition on the first, they stay
related throughout a run exactly when each of its steps meets the condition. -/
theorem related_throughout_iff {τ : Type*} {left : σ → ι → σ} {right : τ → ι → τ}
    (inv : σ → Prop) (related : σ → τ → Prop) {condition : σ → ι → Prop}
    (inv_kept : ∀ state input, inv state → inv (left state input))
    (step_iff : ∀ state other input, inv state → related state other →
      (related (left state input) (right other input) ↔ condition state input))
    {start : σ} {start' : τ} (inv_start : inv start) (initially : related start start')
    (inputs : List ι) :
    (∀ front, front <+: inputs → related (run left start front) (run right start' front)) ↔
      EachMeets left condition start inputs := by
  have both := @throughout_iff _ _ (paired left right) (fun pair => inv pair.1)
    (fun pair => related pair.1 pair.2) (fun _ _ => True) (fun pair => condition pair.1)
    (fun pair input inv _ => inv_kept pair.1 input inv)
    (fun pair input inv _ => step_iff pair.1 pair.2 input inv) (start, start') inv_start initially
    inputs fun _ _ _ => trivial
  simpa only [Throughout, EachMeets, run_paired] using both

/-- When the inputs that count lower a rank, and no input raises it, a run lowers the rank by the
number of these inputs. -/
theorem rank_run_le {step : σ → ι → σ} (inv : σ → Prop) {assumption : σ → ι → Prop}
    (rank : σ → Nat) (counts : ι → Bool)
    (kept : ∀ state input, inv state → assumption state input → inv (step state input))
    (lowers : ∀ state input, inv state → assumption state input →
      rank (step state input) ≤ rank state - if counts input then 1 else 0)
    {start : σ} (initially : inv start) {inputs : List ι}
    (assumed : EachMeets step assumption start inputs) :
    rank (run step start inputs) ≤ rank start - inputs.countP counts := by
  induction inputs generalizing start with
  | nil => exact le_rfl
  | cons input inputs ih =>
      obtain ⟨first, rest⟩ := eachMeets_cons.mp assumed
      have later := ih (kept start input initially first) rest
      have now := lowers start input initially first
      rw [run_cons, List.countP_cons]
      omega

/-- When every step either arrives or goes on without raising a rank, which the inputs that count
lower, a run with enough of these inputs arrives. -/
theorem arrives_run {step : σ → ι → σ} (inv arrived : σ → Prop) {assumption : σ → ι → Prop}
    (rank : σ → Nat) (counts : ι → Bool) (far : ∀ state, inv state → 0 < rank state)
    (nearer : ∀ state input, inv state → assumption state input →
      arrived (step state input) ∨ (inv (step state input) ∧
        rank (step state input) + (if counts input then 1 else 0) ≤ rank state))
    {start : σ} (initially : inv start) {inputs : List ι}
    (assumed : EachMeets step assumption start inputs)
    (enough : rank start ≤ inputs.countP counts) :
    ∃ front, front <+: inputs ∧ arrived (run step start front) := by
  induction inputs generalizing start with
  | nil =>
      have := far start initially
      rw [List.countP_nil] at enough
      omega
  | cons input inputs ih =>
      obtain ⟨first, rest⟩ := eachMeets_cons.mp assumed
      rcases nearer start input initially first with here | ⟨kept, lower⟩
      · exact ⟨[input], by simp, here⟩
      · rw [List.countP_cons] at enough
        obtain ⟨front, reached, there⟩ := ih kept rest (by omega)
        exact ⟨input :: front, by simpa using reached, there⟩

/-- A list with enough inputs that count falls into two with their share. -/
theorem split_countP (counts : ι → Bool) (first : Nat) {second : Nat} {inputs : List ι}
    (enough : first + second ≤ inputs.countP counts) :
    ∃ front back, inputs = front ++ back ∧ first ≤ front.countP counts ∧
      second ≤ back.countP counts := by
  induction inputs generalizing first with
  | nil =>
      rw [List.countP_nil] at enough
      exact ⟨[], [], rfl, by rw [List.countP_nil]; omega, by rw [List.countP_nil]; omega⟩
  | cons input inputs ih =>
      cases first with
      | zero => exact ⟨[], input :: inputs, rfl, by simp, by omega⟩
      | succ first =>
          rw [List.countP_cons] at enough
          cases counted : counts input with
          | true =>
              rw [if_pos counted] at enough
              obtain ⟨front, back, rfl, front_le, back_le⟩ := ih first (by omega)
              refine ⟨input :: front, back, rfl, ?_, back_le⟩
              rw [List.countP_cons, if_pos counted]
              omega
          | false =>
              rw [if_neg (by simp [counted])] at enough
              obtain ⟨front, back, rfl, front_le, back_le⟩ := ih (first + 1) (by omega)
              refine ⟨input :: front, back, rfl, ?_, back_le⟩
              rw [List.countP_cons, if_neg (by simp [counted])]
              omega

end Runs
