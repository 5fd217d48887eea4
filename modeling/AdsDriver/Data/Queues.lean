import AdsDriver.Data.Runs

/-!
# Queues

A machine keeps items that come in until they go out.  When no step loses an item or makes one up,
no run does; and when each step gives out the oldest items first, so does a run.
-/

namespace Queues

open Runs

variable {σ ι ε : Type*}

/-- What the steps of a run produce, in order. -/
def produced (step : σ → ι → σ) (gives : σ → ι → List ε) : σ → List ι → List ε
  | _, [] => []
  | state, input :: inputs => gives state input ++ produced step gives (step state input) inputs

theorem produced_append (step : σ → ι → σ) (gives : σ → ι → List ε) (start : σ)
    (front back : List ι) :
    produced step gives start (front ++ back) =
      produced step gives start front ++ produced step gives (run step start front) back := by
  induction front generalizing start with
  | nil => rfl
  | cons input front ih =>
      rw [List.cons_append, produced, produced, ih, List.append_assoc]
      rfl

theorem produced_concat (step : σ → ι → σ) (gives : σ → ι → List ε) (start : σ) (inputs : List ι)
    (input : ι) :
    produced step gives start (inputs ++ [input]) =
      produced step gives start inputs ++ gives (run step start inputs) input := by
  rw [produced_append, produced, produced, List.append_nil]

/-- A log to which each step appends what it produces. -/
theorem log_run {step : σ → ι → σ} (inv : σ → Prop) (log : σ → List ε) (gives : σ → ι → List ε)
    (inv_kept : ∀ state input, inv state → inv (step state input))
    (grows : ∀ state input, inv state → log (step state input) = log state ++ gives state input)
    {start : σ} (initially : inv start) (inputs : List ι) :
    log (run step start inputs) = log start ++ produced step gives start inputs := by
  induction inputs using List.reverseRecOn with
  | nil => simp [produced]
  | append_singleton inputs input ih =>
      have reached := run_invariant inv inv_kept initially inputs
      rw [run_concat, produced_concat, grows _ input reached, ih, List.append_assoc]

/-- Two lists of items that are the same, up to order or not. -/
structure SameItems (same : List ε → List ε → Prop) : Prop where
  refl : ∀ items, same items items
  trans : ∀ first second third, same first second → same second third → same first third
  append : ∀ first second first' second', same first first' → same second second' →
    same (first ++ second) (first' ++ second')

theorem sameItems_eq : SameItems (@Eq (List ε)) :=
  ⟨fun _ => rfl, fun _ _ _ => .trans, fun _ _ _ _ first second => by rw [first, second]⟩

theorem sameItems_perm : SameItems (@List.Perm ε) :=
  ⟨.refl, fun _ _ _ => .trans, fun _ _ _ _ => .append⟩

/-- When what a step gives out and keeps is what was kept and came in, then what a run has given out
and keeps is what was kept at first and has come in. -/
theorem kept_run {step : σ → ι → σ} {same : List ε → List ε → Prop} (items : SameItems same)
    (inv : σ → Prop) {assumption : σ → ι → Prop} (keeps : σ → List ε)
    (takes gives : σ → ι → List ε)
    (inv_kept : ∀ state input, inv state → assumption state input → inv (step state input))
    (kept : ∀ state input, inv state → assumption state input →
      same (gives state input ++ keeps (step state input)) (keeps state ++ takes state input))
    {start : σ} (initially : inv start) {inputs : List ι}
    (assumed : EachMeets step assumption start inputs) :
    same (produced step gives start inputs ++ keeps (run step start inputs))
      (keeps start ++ produced step takes start inputs) := by
  induction inputs using List.reverseRecOn with
  | nil => simpa [produced] using items.refl (keeps start)
  | append_singleton inputs input ih =>
      obtain ⟨earlier, last⟩ := eachMeets_concat.mp assumed
      have reached := run_induction inv inv_kept initially earlier
      have now := items.append _ _ _ _ (items.refl (produced step gives start inputs))
        (kept _ input reached last)
      have before := items.append _ _ _ _ (ih earlier)
        (items.refl (takes (run step start inputs) input))
      rw [produced_concat, produced_concat, run_concat]
      simp only [List.append_assoc] at now before ⊢
      exact items.trans _ _ _ now before

end Queues
