import Mathlib.Data.List.Infix
import Mathlib.Tactic.Common

/-!
# Readings of a register

A register has a history of values, the present one last.  A reading fits some values; it need
not determine one.  A later reading jumps back when an earlier one fitted the value at some place
of the history and the later one fits only values from before that place.
-/

namespace Readings

variable {α : Type*}

/-- A reading, and the history of the register at that moment. -/
structure Reading (α : Type*) where
  fits : α → Prop
  held : List α

/-- The later reading fits values from before a place whose value the earlier one fitted, and none
from that place on. -/
def Reading.JumpsBack (earlier later : Reading α) : Prop :=
  ∃ (place : Nat) (value : α), earlier.held[place]? = some value ∧ earlier.fits value ∧
    (∃ old ∈ later.held.take place, later.fits old) ∧
    ∀ new ∈ later.held.drop place, ¬ later.fits new

variable {earlier later : Reading α} {current : α}

theorem not_jumpsBack_of_current (grown : earlier.held <+: later.held)
    (last : later.held.getLast? = some current) (fits : later.fits current) :
    ¬ earlier.JumpsBack later := by
  rintro ⟨place, value, at_place, _, _, no_new⟩
  have inside : place < later.held.length :=
    (List.getElem?_eq_some_iff.mp at_place).1.trans_le grown.length_le
  have nonempty : later.held.drop place ≠ [] := by simpa using inside
  have last_drop : (later.held.drop place).getLast nonempty = current := by
    rw [List.getLast_drop]
    exact List.getLast_of_getLast?_eq_some last
  exact no_new current (last_drop ▸ List.getLast_mem nonempty) fits

theorem jumpsBack_of_missed (same : earlier.held = later.held)
    (last : later.held.getLast? = some current) (told : earlier.fits current)
    (old : ∃ value ∈ later.held, later.fits value) (missed : ¬ later.fits current) :
    earlier.JumpsBack later := by
  obtain ⟨front, held_eq⟩ := List.getLast?_eq_some_iff.mp last
  obtain ⟨value, member, fits⟩ := old
  refine ⟨front.length, current, by simp [same, held_eq], told, ⟨value, ?_, fits⟩, ?_⟩
  · rw [held_eq, List.mem_append, List.mem_singleton] at member
    rcases member with in_front | rfl
    · simpa [held_eq] using in_front
    · exact absurd fits missed
  · intro new in_back
    rw [held_eq, List.drop_left, List.mem_singleton] at in_back
    rwa [in_back]

end Readings
