import Mathlib.Data.List.Induction
import Mathlib.Tactic.Common

/-!
# Cells written in turn

A number of cells is written one after the other, round and round.  The latest entry for a cell is
among as many of the last entries of the log as there are cells, and after whole rounds the cells
hold the entries of the last round.
-/

namespace Turns

variable {α : Type*} {cells : Nat} {log : List α} {cell : Nat} {entry : α}

/-- The last entry of a log for a cell, when the cells are written in turn. -/
def latest (cells : Nat) (log : List α) (cell : Nat) : Option α :=
  ((log.zipIdx.filter fun entry => entry.2 % cells = cell).getLast?).map Prod.fst

@[simp]
theorem latest_nil (cells cell : Nat) : latest cells ([] : List α) cell = none := rfl

theorem latest_concat (cells : Nat) (log : List α) (entry : α) (cell : Nat) :
    latest cells (log ++ [entry]) cell =
      if log.length % cells = cell then some entry else latest cells log cell := by
  unfold latest
  rw [List.zipIdx_append, List.filter_append]
  by_cases here : log.length % cells = cell
  · simp [List.zipIdx, here]
  · simp [List.zipIdx, here]

theorem getElem?_concat_eq_some_iff {last : α} {place : Nat} :
    (log ++ [last])[place]? = some entry ↔
      log[place]? = some entry ∨ place = log.length ∧ last = entry := by
  rw [List.getElem?_append]
  split_ifs with inside
  · simp [Nat.ne_of_lt inside]
  · rw [List.getElem?_eq_none (Nat.not_lt.mp inside)]
    rcases Nat.eq_or_lt_of_le (Nat.not_lt.mp inside) with rfl | beyond
    · simp
    · have none_there : ([last] : List α)[place - log.length]? = none :=
        List.getElem?_eq_none (by rw [List.length_singleton]; omega)
      simp [none_there, Nat.ne_of_gt beyond]

/-- The latest entry for a cell is the one for it that is less than a round old. -/
theorem latest_eq_some_iff (some_cells : 0 < cells) :
    latest cells log cell = some entry ↔
      ∃ place, log[place]? = some entry ∧ place % cells = cell ∧ log.length ≤ place + cells := by
  induction log using List.reverseRecOn with
  | nil => simp
  | append_singleton log last ih =>
      rw [latest_concat, List.length_append, List.length_singleton]
      simp only [getElem?_concat_eq_some_iff]
      by_cases here : log.length % cells = cell
      · rw [if_pos here, Option.some_inj]
        constructor
        · rintro rfl
          exact ⟨log.length, .inr ⟨rfl, rfl⟩, here, by omega⟩
        · rintro ⟨place, found | ⟨-, rfl⟩, at_cell, recent⟩
          · -- two places of one cell are a round apart
            have inside : place < log.length := (List.getElem?_eq_some_iff.mp found).1
            have apart : (log.length - place) % cells = 0 := by
              rw [← Nat.sub_mod_eq_zero_of_mod_eq (here.trans at_cell.symm)]
            have := Nat.le_of_dvd (by omega) (Nat.dvd_of_mod_eq_zero apart)
            omega
          · rfl
      · rw [if_neg here, ih]
        constructor
        · rintro ⟨place, found, at_cell, recent⟩
          refine ⟨place, .inl found, at_cell, ?_⟩
          have distinct : log.length ≠ place + cells := by
            rintro whole
            exact here (by rw [whole, Nat.add_mod_right, at_cell])
          omega
        · rintro ⟨place, found | ⟨rfl, -⟩, at_cell, recent⟩
          · exact ⟨place, found, at_cell, by omega⟩
          · exact absurd at_cell here

theorem latest_round {rounds : Nat} (length_eq : log.length = (rounds + 1) * cells)
    (inside : cell < cells) : latest cells log cell = log[rounds * cells + cell]? := by
  have place_lt : rounds * cells + cell < log.length := by
    rw [length_eq, Nat.succ_mul]
    omega
  rw [List.getElem?_eq_getElem place_lt, latest_eq_some_iff (by omega)]
  refine ⟨_, List.getElem?_eq_getElem place_lt, ?_, ?_⟩
  · rw [Nat.mul_comm, Nat.mul_add_mod, Nat.mod_eq_of_lt inside]
  · rw [length_eq, Nat.succ_mul]
    omega

theorem exists_latest (whole : cells ≤ log.length) (inside : cell < cells) :
    ∃ entry, latest cells log cell = some entry := by
  have some_cells : 0 < cells := by omega
  have rounds := Nat.div_add_mod (log.length - 1 - cell) cells
  have short := Nat.mod_lt (log.length - 1 - cell) some_cells
  generalize (log.length - 1 - cell) / cells = round at rounds
  have place_lt : cells * round + cell < log.length := by omega
  refine ⟨_, (latest_eq_some_iff some_cells).mpr
    ⟨cells * round + cell, List.getElem?_eq_getElem place_lt, ?_, by omega⟩⟩
  rw [Nat.mul_add_mod, Nat.mod_eq_of_lt inside]

theorem latest_in_history {history : List α} {selects : α → Bool} (some_cells : 0 < cells)
    (found : latest cells (history.filter selects) cell = some entry) :
    ∃ earlier later, history = earlier ++ entry :: later ∧
      (later.filter selects).length < cells := by
  obtain ⟨place, at_place, -, recent⟩ := (latest_eq_some_iff some_cells).mp found
  obtain ⟨inside, entry_eq⟩ := List.getElem?_eq_some_iff.mp at_place
  have parted : history.filter selects = (history.filter selects).take place ++
      entry :: (history.filter selects).drop (place + 1) := by
    rw [← entry_eq, ← List.drop_eq_getElem_cons inside, List.take_append_drop]
  obtain ⟨front, back, history_eq, -, back_eq⟩ := List.filter_eq_append_iff.mp parted
  obtain ⟨between, later, rfl, -, -, later_eq⟩ := List.filter_eq_cons_iff.mp back_eq
  refine ⟨front ++ between, later, by rw [history_eq, List.append_assoc], ?_⟩
  rw [later_eq, List.length_drop]
  omega

end Turns
