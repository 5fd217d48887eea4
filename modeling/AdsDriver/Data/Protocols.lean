import AdsDriver.Data.Runs

/-!
# Protocols

A protocol is a relation between states, labelled with a message or silent.  A machine keeps a
protocol under a view of its states when whatever it sends in one step leads from the view of the
state before to that of the state after.  What a protocol excludes is then never sent.
-/

namespace Protocols

open Runs

variable {σ τ ε ι : Type*}

/-- The messages lead from one state of a protocol to another. -/
inductive Path (next : σ → Option ε → σ → Prop) : σ → List ε → σ → Prop
  | refl (state : σ) : Path next state [] state
  | silent {first second last : σ} {sent : List ε} (moved : next first none second)
      (later : Path next second sent last) : Path next first sent last
  | send {first second last : σ} {message : ε} {sent : List ε}
      (moved : next first (some message) second) (later : Path next second sent last) :
      Path next first (message :: sent) last

namespace Path

variable {next : σ → Option ε → σ → Prop} {first middle last : σ} {sent more : List ε} {message : ε}

theorem one_silent (moved : next first none last) : Path next first [] last :=
  .silent moved (.refl last)

theorem one (moved : next first (some message) last) : Path next first [message] last :=
  .send moved (.refl last)

theorem append (before : Path next first sent middle) (after : Path next middle more last) :
    Path next first (sent ++ more) last := by
  induction before with
  | refl => exact after
  | silent moved _ ih => exact .silent moved (ih after)
  | send moved _ ih => exact .send moved (ih after)

theorem of_append (path : Path next first (sent ++ more) last) :
    ∃ middle, Path next first sent middle ∧ Path next middle more last := by
  generalize whole : sent ++ more = messages at path
  induction path generalizing sent with
  | refl state =>
      obtain ⟨rfl, rfl⟩ := List.append_eq_nil_iff.mp whole
      exact ⟨state, .refl state, .refl state⟩
  | silent moved _ ih =>
      obtain ⟨middle, before, after⟩ := ih whole
      exact ⟨middle, .silent moved before, after⟩
  | @send first second last message messages moved later ih =>
      cases sent with
      | nil =>
          obtain rfl : more = message :: messages := whole
          exact ⟨first, .refl first, .send moved later⟩
      | cons head sent =>
          obtain ⟨rfl, rest⟩ := List.cons.inj whole
          obtain ⟨middle, before, after⟩ := ih rest
          exact ⟨middle, .send moved before, after⟩

theorem of_send (path : Path next first (message :: sent) last) :
    ∃ before after, Path next first [] before ∧ next before (some message) after ∧
      Path next after sent last := by
  generalize whole : message :: sent = messages at path
  induction path with
  | refl => cases whole
  | silent moved _ ih =>
      obtain ⟨before, after, silently, sends, later⟩ := ih whole
      exact ⟨before, after, .silent moved silently, sends, later⟩
  | @send first second last _ _ moved later ih =>
      obtain ⟨rfl, rfl⟩ := List.cons.inj whole
      exact ⟨first, second, .refl first, moved, later⟩

/-- Where only some messages lead out of a set of states, a path out of it sends one of them. -/
theorem leaves {inside : σ → Prop} {out : ε → Prop}
    (silent_kept : ∀ before after, inside before → next before none after → inside after)
    (kept : ∀ before message after, inside before → next before (some message) after →
      out message ∨ inside after)
    (path : Path next first sent last) (starts : inside first) (ends : ¬ inside last) :
    ∃ message ∈ sent, out message := by
  induction path with
  | refl => exact absurd starts ends
  | silent moved _ ih => exact ih (silent_kept _ _ starts moved) ends
  | @send _ _ _ message _ moved _ ih =>
      rcases kept _ _ _ starts moved with leaving | inside_after
      · exact ⟨message, List.mem_cons_self, leaving⟩
      · obtain ⟨other, member, leaving⟩ := ih inside_after ends
        exact ⟨other, List.mem_cons_of_mem _ member, leaving⟩

end Path

/-- When every step of a machine keeps a protocol, a run keeps it. -/
theorem path_run {step : τ → ι → τ} {next : σ → Option ε → σ → Prop} (inv : τ → Prop)
    {assumption : τ → ι → Prop} (view : τ → σ) (sent : τ → List ε)
    (kept : ∀ state input, inv state → assumption state input → inv (step state input))
    (follows : ∀ state input, inv state → assumption state input → ∃ messages,
      sent (step state input) = sent state ++ messages ∧
        Path next (view state) messages (view (step state input)))
    {start : τ} (initially : inv start) {inputs : List ι}
    (assumed : EachMeets step assumption start inputs) :
    ∃ messages, sent (run step start inputs) = sent start ++ messages ∧
      Path next (view start) messages (view (run step start inputs)) := by
  induction inputs using List.reverseRecOn with
  | nil => exact ⟨[], (List.append_nil _).symm, .refl _⟩
  | append_singleton inputs input ih =>
      obtain ⟨earlier, last⟩ := eachMeets_concat.mp assumed
      have reached := run_induction inv kept initially earlier
      obtain ⟨messages, sent_eq, path⟩ := ih earlier
      obtain ⟨more, more_eq, further⟩ := follows _ input reached last
      rw [run_concat]
      exact ⟨messages ++ more, by rw [more_eq, sent_eq, List.append_assoc], path.append further⟩

end Protocols
