import Mathlib.Data.List.Forall2
import Mathlib.Tactic.Common

/-!
# Loops that rewrite their items and may leave early

`visit body` runs `body` over a list in order, threading a state and replacing each item, until a
body asks to leave; the items not reached stay as they are.  The rules below give what holds of
the state in any case, and what relates each item to its replacement when the loop completes.
-/

namespace EarlyExit

/-- What a loop, or one of its bodies, leaves behind. -/
structure Visited (ε σ β : Type*) where
  /-- The reason for leaving, if the loop left early. -/
  exit : Option ε
  /-- The threaded state. -/
  state : σ
  /-- The rewritten item, or the rewritten list. -/
  result : β

variable {ε σ α : Type*}

/-- Run `body` over the items in order until it asks to leave. -/
def visit (body : σ → α → Visited ε σ α) (state : σ) : List α → Visited ε σ (List α)
  | [] => ⟨none, state, []⟩
  | item :: items =>
      let first := body state item
      match first.exit with
      | some reason => ⟨some reason, first.state, first.result :: items⟩
      | none =>
          let rest := visit body first.state items
          ⟨rest.exit, rest.state, first.result :: rest.result⟩

@[simp]
theorem visit_nil (body : σ → α → Visited ε σ α) (state : σ) :
    visit body state [] = ⟨none, state, []⟩ := rfl

theorem visit_cons_exit {body : σ → α → Visited ε σ α} {state : σ} {item : α} {reason : ε}
    (leaves : (body state item).exit = some reason) (items : List α) :
    visit body state (item :: items) =
      ⟨some reason, (body state item).state, (body state item).result :: items⟩ := by
  simp [visit, leaves]

theorem visit_cons_next {body : σ → α → Visited ε σ α} {state : σ} {item : α}
    (stays : (body state item).exit = none) (items : List α) :
    visit body state (item :: items) =
      let rest := visit body (body state item).state items
      ⟨rest.exit, rest.state, (body state item).result :: rest.result⟩ := by
  simp [visit, stays]

theorem visit_state (body : σ → α → Visited ε σ α) (inv : σ → Prop) {items : List α}
    (body_inv : ∀ item ∈ items, ∀ state, inv state → inv (body state item).state)
    {state : σ} (start : inv state) : inv (visit body state items).state := by
  induction items generalizing state with
  | nil => exact start
  | cons item items ih =>
      have first := body_inv item (by simp) state start
      cases left : (body state item).exit with
      | some reason => simpa only [visit_cons_exit left] using first
      | none =>
          rw [visit_cons_next left]
          exact ih (fun other member => body_inv other (by simp [member])) first

theorem visit_exit {body : σ → α → Visited ε σ α} {items : List α} {state : σ} {reason : ε}
    (leaves : (visit body state items).exit = some reason) :
    ∃ item ∈ items, ∃ before, (body before item).exit = some reason := by
  induction items generalizing state with
  | nil => simp at leaves
  | cons item items ih =>
      cases left : (body state item).exit with
      | some first =>
          rw [visit_cons_exit left] at leaves
          exact ⟨item, by simp, state, left.trans leaves⟩
      | none =>
          rw [visit_cons_next left] at leaves
          obtain ⟨other, member, before, gave⟩ := ih leaves
          exact ⟨other, by simp [member], before, gave⟩

theorem visit_always (body : σ → α → Visited ε σ α) (related : α → α → Prop) {items : List α}
    (body_related : ∀ item ∈ items, ∀ state, related item (body state item).result)
    (unreached : ∀ item ∈ items, related item item) (state : σ) :
    List.Forall₂ related items (visit body state items).result := by
  induction items generalizing state with
  | nil => exact .nil
  | cons item items ih =>
      have rest_related := fun other (member : other ∈ items) =>
        body_related other (List.mem_cons_of_mem _ member)
      have rest_unreached := fun other (member : other ∈ items) =>
        unreached other (List.mem_cons_of_mem _ member)
      cases left : (body state item).exit with
      | some reason =>
          rw [visit_cons_exit left]
          refine .cons (body_related item (by simp) state) ?_
          exact List.forall₂_same.mpr rest_unreached
      | none =>
          rw [visit_cons_next left]
          exact .cons (body_related item (by simp) state) (ih rest_related rest_unreached _)

theorem length_visit (body : σ → α → Visited ε σ α) (state : σ) (items : List α) :
    (visit body state items).result.length = items.length :=
  (visit_always body (fun _ _ => True) (fun _ _ _ => trivial)
    (fun _ _ => trivial) state).length_eq.symm

/-- When the loop completes, every item is related to its replacement.  The relation may speak of
the state, provided that later bodies keep it. -/
theorem visit_completes (body : σ → α → Visited ε σ α) (inv : σ → Prop)
    (related : σ → α → α → Prop) {items : List α}
    (body_inv : ∀ item ∈ items, ∀ state, inv state → inv (body state item).state)
    (body_related : ∀ item ∈ items, ∀ state, inv state → (body state item).exit = none →
      related (body state item).state item (body state item).result)
    (kept : ∀ item ∈ items, ∀ state, inv state → ∀ before after,
      related state before after → related (body state item).state before after)
    {state : σ} (start : inv state) (completes : (visit body state items).exit = none) :
    List.Forall₂ (related (visit body state items).state) items
      (visit body state items).result := by
  induction items generalizing state with
  | nil => exact .nil
  | cons item items ih =>
      cases left : (body state item).exit with
      | some reason => simp [visit_cons_exit left] at completes
      | none =>
          have first_inv := body_inv item (by simp) state start
          have first_related := body_related item (by simp) state start left
          have rest_inv := fun other (member : other ∈ items) =>
            body_inv other (List.mem_cons_of_mem _ member)
          have rest_kept := fun other (member : other ∈ items) =>
            kept other (List.mem_cons_of_mem _ member)
          rw [visit_cons_next left] at completes ⊢
          refine .cons ?_ (ih rest_inv (fun other member => body_related other (by simp [member]))
            rest_kept first_inv completes)
          exact (visit_state body (fun s => inv s ∧ related s item (body state item).result)
            (fun other member s holds => ⟨rest_inv other member s holds.1,
              rest_kept other member s holds.1 _ _ holds.2⟩)
            ⟨first_inv, first_related⟩).2

theorem visit_congr {body other : σ → α → Visited ε σ α}
    (agree : ∀ state item, (body state item).exit = none → other state item = body state item)
    {items : List α} {state : σ} (completes : (visit body state items).exit = none) :
    visit other state items = visit body state items := by
  induction items generalizing state with
  | nil => rfl
  | cons item items ih =>
      cases left : (body state item).exit with
      | some reason => simp [visit_cons_exit left] at completes
      | none =>
          have same := agree state item left
          have stays : (other state item).exit = none := by rw [same, left]
          rw [visit_cons_next left] at completes ⊢
          rw [visit_cons_next stays, same, ih completes]

theorem visit_append {body : σ → α → Visited ε σ α} {front : List α} {state : σ}
    (stays : (visit body state front).exit = none) (back : List α) :
    visit body state (front ++ back) =
      let rest := visit body (visit body state front).state back
      ⟨rest.exit, rest.state, (visit body state front).result ++ rest.result⟩ := by
  induction front generalizing state with
  | nil => rfl
  | cons item front ih =>
      cases left : (body state item).exit with
      | some reason => simp [visit_cons_exit left] at stays
      | none =>
          rw [visit_cons_next left] at stays
          rw [List.cons_append, visit_cons_next left, visit_cons_next left, ih stays]
          rfl

theorem visit_append_exit {body : σ → α → Visited ε σ α} {front : List α} {state : σ} {reason : ε}
    (leaves : (visit body state front).exit = some reason) (back : List α) :
    visit body state (front ++ back) =
      ⟨some reason, (visit body state front).state, (visit body state front).result ++ back⟩ := by
  induction front generalizing state with
  | nil => simp at leaves
  | cons item front ih =>
      cases left : (body state item).exit with
      | some reason' =>
          rw [visit_cons_exit left] at leaves ⊢
          rw [List.cons_append, visit_cons_exit left, ← leaves]
          rfl
      | none =>
          rw [visit_cons_next left] at leaves ⊢
          rw [List.cons_append, visit_cons_next left, ih leaves]
          rfl

/-- A body that also leaves when a number of items has been taken. -/
def counted (body : σ → α → Visited ε σ α) (state : Nat × σ) (item : α) :
    Visited (Option ε) (Nat × σ) α :=
  if state.1 = 0 then ⟨some none, state, item⟩
  else
    let next := body state.2 item
    ⟨next.exit.map some, (state.1 - 1, next.state), next.result⟩

/-- In the middle of a loop the items taken so far have been rewritten and the others have not. -/
theorem visit_counted (body : σ → α → Visited ε σ α) (count : Nat) (state : σ) (items : List α) :
    (visit (counted body) (count, state) items).result =
      (visit body state (items.take count)).result ++ items.drop count := by
  induction items generalizing count state with
  | nil => simp
  | cons item items ih =>
      cases count with
      | zero => simp [visit, counted]
      | succ count =>
          rw [List.take_succ_cons, List.drop_succ_cons]
          cases left : (body state item).exit with
          | some reason =>
              rw [visit_cons_exit left, visit_cons_exit (by simp [counted, left]; rfl)]
              simp [counted]
          | none =>
              rw [visit_cons_next left, visit_cons_next (by simp [counted, left])]
              simpa [counted] using ih count (body state item).state

/-- A body that rewrites the item with one number and counts the items. -/
def numbered (index : Nat) (f : α → α) (count : Nat) (item : α) : Visited ε Nat α :=
  ⟨none, count + 1, if count = index then f item else item⟩

theorem visit_numbered_of_lt {index count : Nat} (passed : index < count) (f : α → α)
    (items : List α) :
    (visit (numbered index f : Nat → α → Visited ε Nat α) count items).result = items := by
  induction items generalizing count with
  | nil => rfl
  | cons item items ih =>
      rw [visit_cons_next rfl]
      dsimp only [numbered]
      rw [if_neg (by omega), ih (by omega)]

theorem visit_numbered (index count : Nat) (f : α → α) (items : List α) :
    (visit (numbered (count + index) f : Nat → α → Visited ε Nat α) count items).result =
      items.modify index f := by
  induction items generalizing index count with
  | nil => simp
  | cons item items ih =>
      rw [visit_cons_next rfl]
      dsimp only [numbered]
      cases index with
      | zero =>
          rw [if_pos (Nat.add_zero count).symm, visit_numbered_of_lt (by omega)]
          rfl
      | succ index =>
          have rest := ih index (count + 1)
          rw [Nat.add_right_comm, Nat.add_assoc] at rest
          rw [if_neg (by omega), rest, List.modify_succ_cons]

theorem modify_append_cons (front back : List α) (item : α) (f : α → α) :
    (front ++ item :: back).modify front.length f = front ++ f item :: back := by
  induction front with
  | nil => rfl
  | cons first front ih =>
      rw [List.cons_append, List.length_cons, List.modify_succ_cons, ih, List.cons_append]

/-- What stands at an index of the right list is related to what stands there in the left one. -/
theorem getElem?_of_forall₂ {β : Type*} {related : α → β → Prop} {left : List α} {right : List β}
    (lists : List.Forall₂ related left right) {index : Nat} {after : β}
    (at_index : right[index]? = some after) :
    ∃ before, left[index]? = some before ∧ related before after := by
  induction lists generalizing index with
  | nil => simp at at_index
  | @cons before other _ _ first _ ih =>
      cases index with
      | zero =>
          obtain rfl : other = after := by simpa using at_index
          exact ⟨before, rfl, first⟩
      | succ index => simpa using ih (by simpa using at_index)

theorem mem_of_forall₂ {β : Type*} {related : α → β → Prop} {left : List α} {right : List β}
    (lists : List.Forall₂ related left right) {after : β} (member : after ∈ right) :
    ∃ before ∈ left, related before after := by
  obtain ⟨index, at_index⟩ := List.mem_iff_getElem?.mp member
  obtain ⟨before, in_left, pair⟩ := getElem?_of_forall₂ lists at_index
  exact ⟨before, List.mem_iff_getElem?.mpr ⟨index, in_left⟩, pair⟩

theorem forall₂_trans {β γ : Type*} {first : α → β → Prop} {second : β → γ → Prop}
    {both : α → γ → Prop} (compose : ∀ x y z, first x y → second y z → both x z)
    {left : List α} {middle : List β} {right : List γ} (lists : List.Forall₂ first left middle)
    (lists' : List.Forall₂ second middle right) : List.Forall₂ both left right := by
  induction lists generalizing right with
  | nil =>
      cases lists'
      exact .nil
  | cons pair _ ih =>
      cases lists' with
      | cons pair' rest => exact .cons (compose _ _ _ pair pair') (ih rest)

theorem map_eq_of_forall₂ {β γ : Type*} {f : α → γ} {g : β → γ} {left : List α} {right : List β}
    (lists : List.Forall₂ (fun before after => f before = g after) left right) :
    left.map f = right.map g := by
  induction lists with
  | nil => rfl
  | cons first _ ih => rw [List.map_cons, List.map_cons, first, ih]

end EarlyExit
