import AdsDriver.Data.EarlyExit
import Mathlib.Order.Lattice

/-!
# Maps visited in key order

A finite map is a list of entries with strictly increasing keys, so lookups, insertion and the
order in which a loop visits the values are all determined by the entries.
-/

open EarlyExit

/-- A finite map whose entries are kept in increasing key order. -/
structure SortedMap (κ α : Type*) [LinearOrder κ] where
  entries : List (κ × α)
  sorted : entries.Pairwise fun left right => left.1 < right.1

namespace SortedMap

variable {κ α : Type*} [LinearOrder κ]

/-- The map without entries. -/
def empty : SortedMap κ α := ⟨[], .nil⟩

instance : Inhabited (SortedMap κ α) := ⟨empty⟩

/-- The value at a key. -/
def find? (map : SortedMap κ α) (key : κ) : Option α :=
  (map.entries.find? fun entry => entry.1 = key).map Prod.snd

/-- The values in key order. -/
def values (map : SortedMap κ α) : List α := map.entries.map Prod.snd

/-- Put an entry at its place in a sorted list, replacing the entry with its key. -/
def insertEntry (key : κ) (value : α) : List (κ × α) → List (κ × α)
  | [] => [(key, value)]
  | entry :: entries =>
      if key < entry.1 then (key, value) :: entry :: entries
      else if key = entry.1 then (key, value) :: entries
      else entry :: insertEntry key value entries

theorem mem_insertEntry {key : κ} {value : α} {entries : List (κ × α)} {entry : κ × α}
    (member : entry ∈ insertEntry key value entries) : entry = (key, value) ∨ entry ∈ entries := by
  induction entries with
  | nil => exact .inl (List.mem_singleton.mp member)
  | cons first entries ih =>
      rw [insertEntry] at member
      split_ifs at member <;> grind

theorem sorted_insertEntry (key : κ) (value : α) {entries : List (κ × α)}
    (sorted : entries.Pairwise fun left right => left.1 < right.1) :
    (insertEntry key value entries).Pairwise fun left right => left.1 < right.1 := by
  induction entries with
  | nil => exact List.pairwise_singleton _ _
  | cons first entries ih =>
      obtain ⟨first_least, rest_sorted⟩ := List.pairwise_cons.mp sorted
      rw [insertEntry]
      split_ifs with before same
      · refine List.pairwise_cons.mpr ⟨?_, sorted⟩
        intro entry member
        rcases List.mem_cons.mp member with rfl | later
        · exact before
        · exact before.trans (first_least entry later)
      · exact List.pairwise_cons.mpr
          ⟨fun entry later => same ▸ first_least entry later, rest_sorted⟩
      · refine List.pairwise_cons.mpr ⟨?_, ih rest_sorted⟩
        intro entry member
        rcases mem_insertEntry member with rfl | old
        · exact lt_of_le_of_ne (not_lt.mp before) (Ne.symm same)
        · exact first_least entry old

/-- Set the value at a key. -/
def insert (map : SortedMap κ α) (key : κ) (value : α) : SortedMap κ α :=
  ⟨insertEntry key value map.entries, sorted_insertEntry key value map.sorted⟩

@[simp]
theorem find?_empty (key : κ) : (empty : SortedMap κ α).find? key = none := rfl

@[simp]
theorem find?_insert_self (map : SortedMap κ α) (key : κ) (value : α) :
    (map.insert key value).find? key = some value := by
  obtain ⟨entries, sorted⟩ := map
  simp only [find?, insert]
  clear sorted
  induction entries with
  | nil => simp [insertEntry]
  | cons first entries ih =>
      rw [insertEntry]
      split_ifs with before same
      · simp
      · simp
      · rw [List.find?_cons_of_neg (by simpa using Ne.symm same), ih]

theorem find?_insert_of_ne (map : SortedMap κ α) {key other : κ} (value : α)
    (distinct : other ≠ key) : (map.insert key value).find? other = map.find? other := by
  obtain ⟨entries, sorted⟩ := map
  simp only [find?, insert]
  clear sorted
  induction entries with
  | nil => simp [insertEntry, Ne.symm distinct]
  | cons first entries ih =>
      rw [insertEntry]
      split_ifs with before same
      · rw [List.find?_cons_of_neg (by simpa using Ne.symm distinct)]
      · rw [List.find?_cons_of_neg (by simpa using Ne.symm distinct),
          List.find?_cons_of_neg (by simpa [← same] using Ne.symm distinct)]
      · by_cases here : first.1 = other
        · simp [here]
        · rw [List.find?_cons_of_neg (by simpa using here),
            List.find?_cons_of_neg (by simpa using here), ih]

theorem find?_eq_some_iff {map : SortedMap κ α} {key : κ} {value : α} :
    map.find? key = some value ↔ (key, value) ∈ map.entries := by
  obtain ⟨entries, sorted⟩ := map
  simp only [find?]
  induction entries with
  | nil => simp
  | cons first entries ih =>
      obtain ⟨first_least, rest_sorted⟩ := List.pairwise_cons.mp sorted
      by_cases here : first.1 = key
      · have not_later : (key, value) ∉ entries := fun later =>
          absurd (first_least _ later) (by simp [here])
        rw [List.find?_cons_of_pos (by simpa using here), List.mem_cons]
        simp only [Option.map_some, Option.some.injEq, not_later, or_false, Prod.ext_iff]
        exact ⟨fun same => ⟨here.symm, same.symm⟩, fun same => same.2.symm⟩
      · rw [List.find?_cons_of_neg (by simpa using here), ih rest_sorted, List.mem_cons]
        simp only [iff_or_self]
        rintro rfl
        exact absurd rfl here

theorem mem_values_iff {map : SortedMap κ α} {value : α} :
    value ∈ map.values ↔ ∃ key, map.find? key = some value := by
  simp [values, find?_eq_some_iff]

/-- When elements tell the key under which they stand, filtering by key gives the list there. -/
theorem filter_flatten_values (map : SortedMap κ (List α)) (keyOf : α → κ)
    (keyed : ∀ key items, map.find? key = some items → ∀ item ∈ items, keyOf item = key) (key : κ) :
    map.values.flatten.filter (fun item => keyOf item = key) = (map.find? key).getD [] := by
  have keyed_entry : ∀ entry ∈ map.entries, ∀ item ∈ entry.2, keyOf item = entry.1 :=
    fun entry member => keyed entry.1 entry.2 (find?_eq_some_iff.mpr member)
  obtain ⟨entries, sorted⟩ := map
  simp only [values, find?] at keyed_entry ⊢
  clear keyed
  induction entries with
  | nil => rfl
  | cons first entries ih =>
      obtain ⟨first_least, rest_sorted⟩ := List.pairwise_cons.mp sorted
      have rest := ih rest_sorted fun entry member => keyed_entry entry (by simp [member])
      have first_key := keyed_entry first (by simp)
      rw [List.map_cons, List.flatten_cons, List.filter_append, rest]
      by_cases here : first.1 = key
      · have absent : entries.find? (fun entry => entry.1 = key) = none := by
          rw [List.find?_eq_none]
          intro entry member
          simpa [here] using (first_least entry member).ne'
        rw [List.find?_cons_of_pos (by simpa using here), absent,
          List.filter_eq_self.mpr fun item member => by simp [first_key item member, here]]
        simp
      · rw [List.find?_cons_of_neg (by simpa using here), List.filter_eq_nil_iff.mpr
          fun item member => by simp [first_key item member, here]]
        simp

/-- Apply a function to every value. -/
def mapValues {β : Type*} (f : α → β) (map : SortedMap κ α) : SortedMap κ β :=
  ⟨map.entries.map fun entry => (entry.1, f entry.2), by
    simpa [List.pairwise_map] using map.sorted⟩

@[simp]
theorem values_mapValues {β : Type*} (f : α → β) (map : SortedMap κ α) :
    (map.mapValues f).values = map.values.map f := by
  simp [values, mapValues]

section Visit

variable {ε σ : Type*}

/-- Visit the elements of every list in the map, in key order, until a body asks to leave. -/
def visitEntries (body : σ → α → Visited ε σ α) (state : σ) (entries : List (κ × List α)) :
    Visited ε σ (List (κ × List α)) :=
  visit (fun state entry =>
    let inner := visit body state entry.2
    ⟨inner.exit, inner.state, (entry.1, inner.result)⟩) state entries

omit [LinearOrder κ] in
theorem keys_visitEntries (body : σ → α → Visited ε σ α) (state : σ)
    (entries : List (κ × List α)) :
    (visitEntries body state entries).result.map Prod.fst = entries.map Prod.fst := by
  have keys : List.Forall₂ (· = ·) (entries.map Prod.fst)
      ((visitEntries body state entries).result.map Prod.fst) := by
    rw [List.forall₂_map_left_iff, List.forall₂_map_right_iff]
    exact visit_always _ (fun before after : κ × List α => before.1 = after.1)
      (fun _ _ _ => rfl) (fun _ _ => rfl) state
  exact (List.forall₂_eq_eq_eq ▸ keys).symm

/-- The loop over all elements, with its outcome stored back in the map. -/
def visitAll (body : σ → α → Visited ε σ α) (state : σ) (map : SortedMap κ (List α)) :
    Visited ε σ (SortedMap κ (List α)) :=
  let outcome := visitEntries body state map.entries
  ⟨outcome.exit, outcome.state, ⟨outcome.result, by
    have key_order := List.pairwise_map.mpr map.sorted
    rw [← keys_visitEntries body state map.entries] at key_order
    exact List.pairwise_map.mp key_order⟩⟩

omit [LinearOrder κ] in
theorem visitEntries_cons_exit {body : σ → α → Visited ε σ α} {state : σ} {entry : κ × List α}
    {reason : ε} (leaves : (visit body state entry.2).exit = some reason)
    (entries : List (κ × List α)) :
    visitEntries body state (entry :: entries) =
      ⟨some reason, (visit body state entry.2).state,
        (entry.1, (visit body state entry.2).result) :: entries⟩ := by
  simp [visitEntries, visit, leaves]

omit [LinearOrder κ] in
theorem visitEntries_cons_next {body : σ → α → Visited ε σ α} {state : σ} {entry : κ × List α}
    (stays : (visit body state entry.2).exit = none) (entries : List (κ × List α)) :
    visitEntries body state (entry :: entries) =
      let rest := visitEntries body (visit body state entry.2).state entries
      ⟨rest.exit, rest.state, (entry.1, (visit body state entry.2).result) :: rest.result⟩ := by
  simp [visitEntries, visit, stays]

omit [LinearOrder κ] in
theorem flatten_visitEntries (body : σ → α → Visited ε σ α) (state : σ)
    (entries : List (κ × List α)) :
    visit body state (entries.map Prod.snd).flatten =
      ⟨(visitEntries body state entries).exit, (visitEntries body state entries).state,
        ((visitEntries body state entries).result.map Prod.snd).flatten⟩ := by
  induction entries generalizing state with
  | nil => rfl
  | cons entry entries ih =>
      rw [List.map_cons, List.flatten_cons]
      cases left : (visit body state entry.2).exit with
      | some reason =>
          rw [visit_append_exit left, visitEntries_cons_exit left]
          rfl
      | none =>
          rw [visit_append left, ih, visitEntries_cons_next left]
          rfl

theorem visitAll_flatten (body : σ → α → Visited ε σ α) (state : σ)
    (map : SortedMap κ (List α)) :
    visit body state map.values.flatten =
      ⟨(map.visitAll body state).exit, (map.visitAll body state).state,
        (map.visitAll body state).result.values.flatten⟩ :=
  flatten_visitEntries body state map.entries

theorem visitAll_exit {body : σ → α → Visited ε σ α} {state : σ} {map : SortedMap κ (List α)}
    {reason : ε} (leaves : (map.visitAll body state).exit = some reason) :
    ∃ item ∈ map.values.flatten, ∃ before, (body before item).exit = some reason :=
  have flat : (visit body state map.values.flatten).exit = some reason := by
    rw [visitAll_flatten]
    exact leaves
  visit_exit flat

theorem visitAll_congr {body other : σ → α → Visited ε σ α}
    (agree : ∀ state item, (body state item).exit = none → other state item = body state item)
    {map : SortedMap κ (List α)} {state : σ} (completes : (map.visitAll body state).exit = none) :
    map.visitAll other state = map.visitAll body state := by
  have same : visitEntries other state map.entries = visitEntries body state map.entries := by
    refine visit_congr (fun state entry stays => ?_) completes
    rw [visit_congr agree stays]
  simp only [visitAll, same]

/-- Rewrite the element with a number, in key order. -/
def modifyAt (map : SortedMap κ (List α)) (index : Nat) (f : α → α) : SortedMap κ (List α) :=
  (map.visitAll (numbered index f : Nat → α → Visited Empty Nat α) 0).result

theorem flatten_values_modifyAt (map : SortedMap κ (List α)) (index : Nat) (f : α → α) :
    (map.modifyAt index f).values.flatten = map.values.flatten.modify index f := by
  have numbered_flat := @visit_numbered Empty _ index 0 f map.values.flatten
  rw [visitAll_flatten] at numbered_flat
  simpa [modifyAt] using numbered_flat

/-- The number of elements under smaller keys. -/
def before (map : SortedMap κ (List α)) (key : κ) : Nat :=
  ((map.entries.filter fun entry => entry.1 < key).map Prod.snd).flatten.length

/-- An element stands among all elements behind those under smaller keys. -/
theorem getElem?_flatten_values {map : SortedMap κ (List α)} {key : κ} {items : List α}
    (found : map.find? key = some items) {index : Nat} (inside : index < items.length) :
    map.values.flatten[map.before key + index]? = items[index]? := by
  rw [find?_eq_some_iff] at found
  obtain ⟨entries, sorted⟩ := map
  simp only [before, values] at found ⊢
  induction entries with
  | nil => simp at found
  | cons entry entries ih =>
      obtain ⟨later, rest_sorted⟩ := List.pairwise_cons.mp sorted
      rcases List.mem_cons.mp found with rfl | in_rest
      · have none_smaller : entries.filter (fun entry => decide (entry.1 < key)) = [] := by
          rw [List.filter_eq_nil_iff]
          intro other member
          simpa using (later other member).le
        simp [none_smaller, List.getElem?_append_left inside]
      · have smaller : entry.1 < key := later _ in_rest
        have rest := ih rest_sorted in_rest
        rw [List.filter_cons_of_pos (by simpa using smaller), List.map_cons, List.map_cons,
          List.flatten_cons, List.flatten_cons, List.length_append, Nat.add_assoc,
          List.getElem?_append_right (by omega), Nat.add_sub_cancel_left, rest]

/-- A map with as many elements under each key as there are items with that key at most has as many
elements as there are items at most. -/
theorem length_flatten_values_le {β : Type*} {map : SortedMap κ (List α)} {items : List β}
    (keyOf : β → κ) (each : ∀ key elements, map.find? key = some elements →
      elements.length ≤ (items.filter fun item => keyOf item = key).length) :
    map.values.flatten.length ≤ items.length := by
  have each_entry : ∀ entry ∈ map.entries,
      entry.2.length ≤ (items.filter fun item => keyOf item = entry.1).length :=
    fun entry member => each entry.1 entry.2 (find?_eq_some_iff.mpr member)
  obtain ⟨entries, sorted⟩ := map
  simp only [values] at each_entry ⊢
  clear each
  induction entries generalizing items with
  | nil => exact Nat.zero_le _
  | cons first entries ih =>
      obtain ⟨first_least, rest_sorted⟩ := List.pairwise_cons.mp sorted
      have here := each_entry first List.mem_cons_self
      -- The items with the first key are counted for it, and the others for the rest.
      have rest := @ih (items.filter fun item => !decide (keyOf item = first.1)) rest_sorted ?_
      · rw [List.map_cons, List.flatten_cons, List.length_append,
          List.length_eq_length_filter_add fun item => decide (keyOf item = first.1)]
        exact Nat.add_le_add here rest
      · intro entry member
        have distinct := (first_least entry member).ne'
        have kept : (items.filter fun item => !decide (keyOf item = first.1)).filter
            (fun item => keyOf item = entry.1) = items.filter fun item => keyOf item = entry.1 := by
          rw [List.filter_filter]
          refine List.filter_congr fun item _ => ?_
          by_cases same : keyOf item = entry.1
          · simp [same, distinct]
          · simp [same]
        rw [kept]
        exact each_entry entry (List.mem_cons_of_mem _ member)

/-- Two maps have the same keys, and related elements at the same places of each list. -/
def Related {β : Type*} (related : α → β → Prop) (left : SortedMap κ (List α))
    (right : SortedMap κ (List β)) : Prop :=
  List.Forall₂ (fun before after => before.1 = after.1 ∧ List.Forall₂ related before.2 after.2)
    left.entries right.entries

theorem Related.find? {β : Type*} {related : α → β → Prop} {left : SortedMap κ (List α)}
    {right : SortedMap κ (List β)} (maps : Related related left right) (key : κ) :
    Option.Rel (List.Forall₂ related) (left.find? key) (right.find? key) := by
  obtain ⟨left, left_sorted⟩ := left
  obtain ⟨right, right_sorted⟩ := right
  simp only [Related, SortedMap.find?] at maps ⊢
  clear left_sorted right_sorted
  induction maps with
  | nil => exact .none
  | @cons before after _ _ first _ ih =>
      by_cases here : before.1 = key
      · rw [List.find?_cons_of_pos (by simpa using here),
          List.find?_cons_of_pos (by simpa [← first.1] using here)]
        exact .some first.2
      · rw [List.find?_cons_of_neg (by simpa using here),
          List.find?_cons_of_neg (by simpa [← first.1] using here)]
        exact ih

/-- Related maps have the same number of elements under smaller keys. -/
theorem Related.before_eq {β : Type*} {related : α → β → Prop} {left : SortedMap κ (List α)}
    {right : SortedMap κ (List β)} (maps : Related related left right) (key : κ) :
    right.before key = left.before key := by
  obtain ⟨left, left_sorted⟩ := left
  obtain ⟨right, right_sorted⟩ := right
  simp only [Related, SortedMap.before] at maps ⊢
  clear left_sorted right_sorted
  induction maps with
  | nil => rfl
  | @cons first second _ _ pair _ ih =>
      obtain ⟨keys, lists⟩ := pair
      by_cases smaller : second.1 < key
      · rw [List.filter_cons_of_pos (by simpa using smaller),
          List.filter_cons_of_pos (by simpa [keys] using smaller), List.map_cons, List.map_cons,
          List.flatten_cons, List.flatten_cons, List.length_append, List.length_append, ih,
          lists.length_eq]
      · rw [List.filter_cons_of_neg (by simpa using smaller),
          List.filter_cons_of_neg (by simpa [keys] using smaller), ih]

theorem eq_empty_of_related {β : Type*} {related : α → β → Prop} {right : SortedMap κ (List β)}
    (maps : Related related (empty : SortedMap κ (List α)) right) : right = empty := by
  obtain ⟨entries, sorted⟩ := right
  cases maps
  rfl

theorem Related.flatten {β : Type*} {related : α → β → Prop} {left : SortedMap κ (List α)}
    {right : SortedMap κ (List β)} (maps : Related related left right) :
    List.Forall₂ related left.values.flatten right.values.flatten := by
  obtain ⟨left, left_sorted⟩ := left
  obtain ⟨right, right_sorted⟩ := right
  simp only [Related, values] at maps ⊢
  clear left_sorted right_sorted
  induction maps with
  | nil => exact .nil
  | cons first _ ih => exact List.rel_append first.2 ih

theorem Related.imp {β : Type*} {first second : α → β → Prop} {left : SortedMap κ (List α)}
    {right : SortedMap κ (List β)}
    (weaker : ∀ before after, first before after → second before after)
    (maps : Related first left right) : Related second left right :=
  List.Forall₂.imp (fun _ _ pair => ⟨pair.1, pair.2.imp fun {_ _} => weaker _ _⟩) maps

theorem Related.refl {related : α → α → Prop} {map : SortedMap κ (List α)}
    (each : ∀ item ∈ map.values.flatten, related item item) : Related related map map := by
  refine List.forall₂_same.mpr fun entry member =>
    ⟨rfl, List.forall₂_same.mpr fun item inside => ?_⟩
  exact each item
    (List.mem_flatten.mpr ⟨entry.2, List.mem_map.mpr ⟨entry, member, rfl⟩, inside⟩)

theorem Related.trans {β γ : Type*} {first : α → β → Prop} {second : β → γ → Prop}
    {both : α → γ → Prop} {left : SortedMap κ (List α)} {middle : SortedMap κ (List β)}
    {right : SortedMap κ (List γ)} (maps : Related first left middle)
    (maps' : Related second middle right)
    (compose : ∀ x y z, first x y → second y z → both x z) : Related both left right :=
  forall₂_trans (fun _ _ _ pair pair' =>
    ⟨pair.1.trans pair'.1, forall₂_trans compose pair.2 pair'.2⟩) maps maps'

theorem Related.symm {β : Type*} {first : α → β → Prop} {second : β → α → Prop}
    {left : SortedMap κ (List α)} {right : SortedMap κ (List β)} (maps : Related first left right)
    (turned : ∀ before after, first before after → second after before) :
    Related second right left :=
  List.Forall₂.flip (List.Forall₂.imp (fun _ _ pair =>
    ⟨pair.1.symm, List.Forall₂.flip (pair.2.imp turned)⟩) maps)

theorem related_mapValues {β : Type*} {related : α → β → Prop} {f : α → β}
    {map : SortedMap κ (List α)} (each : ∀ item ∈ map.values.flatten, related item (f item)) :
    Related related map (map.mapValues (List.map f)) := by
  rw [Related, mapValues, List.forall₂_map_right_iff, List.forall₂_same]
  intro entry member
  refine ⟨rfl, List.forall₂_map_right_iff.mpr
    (List.forall₂_same.mpr fun item inside => each item ?_)⟩
  exact List.mem_flatten.mpr ⟨entry.2, List.mem_map.mpr ⟨entry, member, rfl⟩, inside⟩

theorem visitAll_state (body : σ → α → Visited ε σ α) (inv : σ → Prop)
    (map : SortedMap κ (List α))
    (body_inv : ∀ item ∈ map.values.flatten, ∀ state, inv state → inv (body state item).state)
    {state : σ} (start : inv state) : inv (map.visitAll body state).state :=
  visit_state _ inv (fun entry member _ holds =>
    visit_state body inv (fun item inside => body_inv item
      (List.mem_flatten.mpr ⟨entry.2, List.mem_map.mpr ⟨entry, member, rfl⟩, inside⟩)) holds) start

/-- Every element is related to what the loop leaves in its place, whether or not it is reached. -/
theorem visitAll_always (body : σ → α → Visited ε σ α) (related : α → α → Prop)
    (map : SortedMap κ (List α))
    (body_related : ∀ item ∈ map.values.flatten, ∀ state, related item (body state item).result)
    (unreached : ∀ item ∈ map.values.flatten, related item item) (state : σ) :
    Related related map (map.visitAll body state).result := by
  have inside {entry : κ × List α} (member : entry ∈ map.entries) {item : α}
      (element : item ∈ entry.2) : item ∈ map.values.flatten :=
    List.mem_flatten.mpr ⟨entry.2, List.mem_map.mpr ⟨entry, member, rfl⟩, element⟩
  refine visit_always _ _ ?_ ?_ state
  · intro entry member state
    exact ⟨rfl, visit_always body related
      (fun item element => body_related item (inside member element))
      (fun item element => unreached item (inside member element)) state⟩
  · intro entry member
    exact ⟨rfl, List.forall₂_same.mpr fun item element => unreached item (inside member element)⟩

/-- Rewriting one element related to it keeps the maps related. -/
theorem related_modifyAt {related : α → α → Prop} {f : α → α} (same : ∀ item, related item item)
    (pair : ∀ item, related item (f item)) (map : SortedMap κ (List α)) (index : Nat) :
    Related related map (map.modifyAt index f) := by
  refine visitAll_always _ related map (fun item _ count => ?_) (fun item _ => same item) 0
  dsimp only [numbered]
  split_ifs
  · exact pair item
  · exact same item

/-- When the loop completes, every element is related to its replacement. -/
theorem visitAll_completes (body : σ → α → Visited ε σ α) (inv : σ → Prop)
    (related : σ → α → α → Prop) (map : SortedMap κ (List α))
    (body_inv : ∀ item ∈ map.values.flatten, ∀ state, inv state → inv (body state item).state)
    (body_related : ∀ item ∈ map.values.flatten, ∀ state, inv state →
      (body state item).exit = none →
      related (body state item).state item (body state item).result)
    (kept : ∀ item ∈ map.values.flatten, ∀ state, inv state → ∀ before after,
      related state before after → related (body state item).state before after)
    (state : σ) (start : inv state) (completes : (map.visitAll body state).exit = none) :
    Related (related (map.visitAll body state).state) map (map.visitAll body state).result := by
  have inside {entry : κ × List α} (member : entry ∈ map.entries) {item : α}
      (element : item ∈ entry.2) : item ∈ map.values.flatten :=
    List.mem_flatten.mpr ⟨entry.2, List.mem_map.mpr ⟨entry, member, rfl⟩, element⟩
  refine visit_completes _ inv (fun (state : σ) (before after : κ × List α) =>
    before.1 = after.1 ∧ List.Forall₂ (related state) before.2 after.2) ?_ ?_ ?_ start completes
  · intro entry member state holds
    exact visit_state body inv (fun item element => body_inv item (inside member element)) holds
  · intro entry member state holds stays
    exact ⟨rfl, visit_completes body inv related
      (fun item element => body_inv item (inside member element))
      (fun item element => body_related item (inside member element))
      (fun item element => kept item (inside member element)) holds stays⟩
  · intro entry member state holds before after ⟨same_key, pairs⟩
    refine ⟨same_key, pairs.imp fun {x y} pair => ?_⟩
    exact (visit_state body (fun s => inv s ∧ related s x y)
      (fun item element s now => ⟨body_inv item (inside member element) s now.1,
        kept item (inside member element) s now.1 _ _ now.2⟩)
      ⟨holds, pair⟩).2

theorem eq_of_flatten {left right : SortedMap κ (List α)}
    (shape : Related (fun _ _ => True) left right)
    (same : left.values.flatten = right.values.flatten) : left = right := by
  obtain ⟨left, left_sorted⟩ := left
  obtain ⟨right, right_sorted⟩ := right
  simp only [Related, values] at shape same
  have entries_eq : left = right := by
    clear left_sorted right_sorted
    induction shape with
    | nil => rfl
    | @cons before after _ _ pair _ ih =>
        obtain ⟨key_eq, lists⟩ := pair
        rw [List.map_cons, List.map_cons, List.flatten_cons, List.flatten_cons] at same
        obtain ⟨items_eq, rest⟩ := List.append_inj same lists.length_eq
        rw [ih rest, Prod.ext key_eq items_eq]
  subst entries_eq
  rfl

/-- A loop over the elements of a map has got to an index, with this state and these elements. -/
structure Reached (body : σ → α → Visited ε σ α) (start : σ) (map : SortedMap κ (List α))
    (index : Nat) (state : σ) (map' : SortedMap κ (List α)) : Prop where
  shape : Related (fun _ _ => True) map map'
  stays : (visit body start (map.values.flatten.take index)).exit = none
  state_eq : state = (visit body start (map.values.flatten.take index)).state
  items_eq : map'.values.flatten =
    (visit body start (map.values.flatten.take index)).result ++ map.values.flatten.drop index

namespace Reached

variable {body : σ → α → Visited ε σ α} {start state : σ} {map map' : SortedMap κ (List α)}
variable {index : Nat} {item : α} {reason : ε}

theorem zero (body : σ → α → Visited ε σ α) (start : σ) (map : SortedMap κ (List α)) :
    Reached body start map 0 start map :=
  ⟨.refl fun _ _ => trivial, rfl, rfl, by simp⟩

theorem length_eq (reached : Reached body start map index state map') :
    map'.values.flatten.length = map.values.flatten.length :=
  reached.shape.flatten.length_eq.symm

theorem getElem?_eq (reached : Reached body start map index state map')
    (inside : index < map.values.flatten.length) :
    map'.values.flatten[index]? = map.values.flatten[index]? := by
  have taken : (visit body start (map.values.flatten.take index)).result.length = index := by
    rw [length_visit, List.length_take, Nat.min_eq_left inside.le]
  rw [reached.items_eq, List.getElem?_append_right taken.le, taken, Nat.sub_self,
    List.getElem?_drop, Nat.add_zero]

theorem visit_take_succ (reached : Reached body start map index state map')
    (found : map'.values.flatten[index]? = some item) :
    visit body start (map.values.flatten.take (index + 1)) =
      ⟨(body state item).exit, (body state item).state,
        (visit body start (map.values.flatten.take index)).result ++
          [(body state item).result]⟩ := by
  have inside : index < map.values.flatten.length :=
    reached.length_eq ▸ (List.getElem?_eq_some_iff.mp found).1
  rw [List.take_add_one, ← reached.getElem?_eq inside, found, Option.toList_some,
    visit_append reached.stays, ← reached.state_eq]
  cases left : (body state item).exit with
  | some reason => rw [visit_cons_exit left]
  | none => rw [visit_cons_next left]; rfl

theorem items_modifyAt (reached : Reached body start map index state map')
    (found : map'.values.flatten[index]? = some item) {f : α → α}
    (rewritten : f item = (body state item).result) :
    (map'.modifyAt index f).values.flatten =
      (visit body start (map.values.flatten.take (index + 1))).result ++
        map.values.flatten.drop (index + 1) := by
  have inside : index < map.values.flatten.length :=
    reached.length_eq ▸ (List.getElem?_eq_some_iff.mp found).1
  have taken : (visit body start (map.values.flatten.take index)).result.length = index := by
    rw [length_visit, List.length_take, Nat.min_eq_left inside.le]
  have here := reached.getElem?_eq inside
  rw [found] at here
  obtain ⟨_, item_eq⟩ := List.getElem?_eq_some_iff.mp here.symm
  have modified := modify_append_cons (visit body start (map.values.flatten.take index)).result
    (map.values.flatten.drop (index + 1)) item f
  rw [taken] at modified
  rw [flatten_values_modifyAt, reached.visit_take_succ found, reached.items_eq,
    List.drop_eq_getElem_cons inside, item_eq, modified, rewritten, List.append_assoc,
    List.singleton_append]

theorem shape_modifyAt (reached : Reached body start map index state map') (f : α → α) :
    Related (fun _ _ => True) map (map'.modifyAt index f) :=
  have kept : Related (fun _ _ => True) map' (map'.modifyAt index f) :=
    related_modifyAt (fun _ => trivial) (fun _ => trivial) map' index
  reached.shape.trans kept fun _ _ _ _ _ => trivial

theorem succ (reached : Reached body start map index state map')
    (found : map'.values.flatten[index]? = some item) (next : (body state item).exit = none)
    {f : α → α} (rewritten : f item = (body state item).result) :
    Reached body start map (index + 1) (body state item).state (map'.modifyAt index f) := by
  refine ⟨reached.shape_modifyAt f, ?_, ?_, reached.items_modifyAt found rewritten⟩
  · rw [reached.visit_take_succ found, next]
  · rw [reached.visit_take_succ found]

theorem eq_result {last : SortedMap κ (List α)} (shape : Related (fun _ _ => True) map last)
    (items : last.values.flatten = (map.visitAll body start).result.values.flatten) :
    last = (map.visitAll body start).result :=
  have stored : Related (fun _ _ => True) map (map.visitAll body start).result :=
    visitAll_always body _ map (fun _ _ _ => trivial) (fun _ _ => trivial) start
  eq_of_flatten ((shape.symm fun _ _ _ => trivial).trans stored fun _ _ _ _ _ => trivial) items

/-- The body leaves, and so does the loop. -/
theorem visitAll_exit (reached : Reached body start map index state map')
    (found : map'.values.flatten[index]? = some item)
    (leaves : (body state item).exit = some reason)
    {f : α → α} (rewritten : f item = (body state item).result) :
    map.visitAll body start = ⟨some reason, (body state item).state, map'.modifyAt index f⟩ := by
  have taken := reached.visit_take_succ found
  have flat := map.visitAll_flatten body start
  rw [← List.take_append_drop (index + 1) map.values.flatten,
    visit_append_exit (by rw [taken, leaves]), ← reached.items_modifyAt found rewritten,
    taken] at flat
  obtain ⟨exit_eq, state_eq, items_eq⟩ := Visited.mk.inj flat
  rw [eq_result (reached.shape_modifyAt f) items_eq, exit_eq, state_eq]

theorem visitAll_done (reached : Reached body start map index state map')
    (beyond : map.values.flatten.length ≤ index) :
    map.visitAll body start = ⟨none, state, map'⟩ := by
  obtain ⟨shape, stays, state_eq, items_eq⟩ := reached
  have flat := map.visitAll_flatten body start
  rw [List.take_of_length_le beyond] at stays state_eq items_eq
  rw [List.drop_of_length_le beyond, List.append_nil] at items_eq
  rw [flat] at stays state_eq items_eq
  rw [eq_result shape items_eq, ← stays, state_eq]

end Reached

end Visit

end SortedMap
