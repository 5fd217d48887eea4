import Mathlib.Data.List.Induction
import Mathlib.Data.List.Infix
import Mathlib.Tactic.Common

/-!
# Order-preserving greedy packing

Items are put into bins in the order they come: into the last bin while it is not full, else into
a new one.  A bin may be filled past its limit by its last item only, every bin but the last is
full, and reading the bins in order gives the items back.
-/

namespace Packing

variable {α : Type*}

/-- Put one item into the last bin, or into a new one when there is none or the last is full. -/
def packStep (full : List α → Bool) (bins : List (List α)) (item : α) : List (List α) :=
  match bins.getLast? with
  | none => [[item]]
  | some bin => if full bin then bins ++ [[item]] else bins.dropLast ++ [bin ++ [item]]

@[simp]
theorem packStep_nil (full : List α → Bool) (item : α) : packStep full [] item = [[item]] := rfl

@[simp]
theorem packStep_concat (full : List α → Bool) (front : List (List α)) (bin : List α) (item : α) :
    packStep full (front ++ [bin]) item =
      if full bin then front ++ [bin] ++ [[item]] else front ++ [bin ++ [item]] := by
  simp [packStep]

/-- The outcome of packing `items` greedily. -/
structure Packed (full : List α → Bool) (items : List α) (bins : List (List α)) : Prop where
  /-- The bins hold the items in order. -/
  flatten_eq : bins.flatten = items
  nonempty : ∀ bin ∈ bins, bin ≠ []
  /-- A bin was not full before its last item. -/
  room : ∀ bin ∈ bins, full bin.dropLast = false
  /-- A bin is left behind only when it is full. -/
  filled : ∀ bin ∈ bins.dropLast, full bin = true

theorem packed_nil (full : List α → Bool) : Packed full [] [] :=
  ⟨rfl, by simp, by simp, by simp⟩

/-- One step of the packer keeps the packing invariant. -/
theorem Packed.step {full : List α → Bool} {items : List α} {bins : List (List α)}
    (packed : Packed full items bins) (empty_free : full [] = false) (item : α) :
    Packed full (items ++ [item]) (packStep full bins item) := by
  obtain rfl | ⟨front, bin, rfl⟩ := bins.eq_nil_or_concat'
  · have items_nil : items = [] := packed.flatten_eq.symm
    subst items_nil
    exact ⟨rfl, by simp, by simpa using empty_free, by simp⟩
  · have flatten_eq := packed.flatten_eq
    have nonempty := packed.nonempty
    have room := packed.room
    have filled := packed.filled
    simp only [List.dropLast_concat] at filled
    rw [packStep_concat]
    split <;> rename_i bin_full
    · refine ⟨?_, ?_, ?_, ?_⟩
      · rw [List.flatten_append, flatten_eq]
        simp
      · intro other member
        rcases List.mem_append.mp member with earlier | last
        · exact nonempty other earlier
        · simp [List.mem_singleton.mp last]
      · intro other member
        rcases List.mem_append.mp member with earlier | last
        · exact room other earlier
        · obtain rfl := List.mem_singleton.mp last
          exact empty_free
      · intro other member
        rw [List.dropLast_concat] at member
        rcases List.mem_append.mp member with earlier | last
        · exact filled other earlier
        · obtain rfl := List.mem_singleton.mp last
          exact bin_full
    · refine ⟨?_, ?_, ?_, ?_⟩
      · rw [← flatten_eq]
        simp
      · intro other member
        rcases List.mem_append.mp member with earlier | last
        · exact nonempty other (List.mem_append_left _ earlier)
        · obtain rfl := List.mem_singleton.mp last
          simp
      · intro other member
        rcases List.mem_append.mp member with earlier | last
        · exact room other (List.mem_append_left _ earlier)
        · obtain rfl := List.mem_singleton.mp last
          simpa using bin_full
      · intro other member
        rw [List.dropLast_concat] at member
        exact filled other member

/-- The bins into which `items` are packed. -/
def pack (full : List α → Bool) (items : List α) : List (List α) :=
  items.foldl (packStep full) []

@[simp]
theorem pack_nil (full : List α → Bool) : pack full [] = [] := rfl

theorem pack_concat (full : List α → Bool) (items : List α) (item : α) :
    pack full (items ++ [item]) = packStep full (pack full items) item := by
  rw [pack, List.foldl_concat, ← pack]

/-- Packing one item after another keeps the packing invariant. -/
theorem packed_pack {full : List α → Bool} (empty_free : full [] = false) (items : List α) :
    Packed full items (pack full items) := by
  induction items using List.reverseRecOn with
  | nil => exact packed_nil full
  | append_singleton items item ih =>
      rw [pack_concat]
      exact ih.step empty_free item

/-- The bins packed depend on the limit for lists of the items only. -/
theorem Packed.congr {full full' : List α → Bool} {items : List α} {bins : List (List α)}
    (packed : Packed full items bins)
    (same : ∀ bin, (∀ item ∈ bin, item ∈ items) → full bin = full' bin) :
    Packed full' items bins := by
  have in_items {bin : List α} (member : bin ∈ bins) : ∀ item ∈ bin, item ∈ items := by
    intro item held
    rw [← packed.flatten_eq]
    exact List.mem_flatten.mpr ⟨bin, member, held⟩
  refine ⟨packed.flatten_eq, packed.nonempty, ?_, ?_⟩
  · intro bin member
    rw [← same _ fun item held => in_items member item (List.mem_of_mem_dropLast held)]
    exact packed.room bin member
  · intro bin member
    rw [← same bin (in_items (List.mem_of_mem_dropLast member))]
    exact packed.filled bin member

section Unique

variable {full : List α → Bool}

/-- The last item packed was put there by the last step. -/
theorem Packed.unstep (removing : ∀ bin, full bin = false → full bin.dropLast = false)
    {items : List α} {item : α} {bins : List (List α)}
    (packed : Packed full (items ++ [item]) bins) :
    ∃ before, Packed full items before ∧ bins = packStep full before item := by
  obtain rfl | ⟨front, bin, rfl⟩ := bins.eq_nil_or_concat'
  · simpa using packed.flatten_eq
  have flatten_eq := packed.flatten_eq
  have nonempty := packed.nonempty
  have room := packed.room
  have filled := packed.filled
  obtain rfl | ⟨init, last, rfl⟩ := bin.eq_nil_or_concat'
  · exact absurd rfl (nonempty [] (by simp))
  obtain ⟨items_eq, rfl⟩ : front.flatten ++ init = items ∧ last = item := by
    obtain ⟨items_eq, last_eq⟩ := List.append_inj' (by simpa using flatten_eq :
      front.flatten ++ init ++ [last] = items ++ [item]) rfl
    exact ⟨items_eq, by simpa using last_eq⟩
  simp only [List.dropLast_concat] at filled
  have init_room : full init = false := by simpa using room (init ++ [last]) (by simp)
  have front_nonempty : ∀ other ∈ front, other ≠ [] := fun other member =>
    nonempty other (List.mem_append_left _ member)
  have front_room : ∀ other ∈ front, full other.dropLast = false := fun other member =>
    room other (List.mem_append_left _ member)
  cases init with
  | nil =>
      refine ⟨front, ⟨by simpa using items_eq, front_nonempty, front_room, fun other member =>
        filled other (List.mem_of_mem_dropLast member)⟩, ?_⟩
      obtain rfl | ⟨earlier, previous, rfl⟩ := front.eq_nil_or_concat'
      · rfl
      · simp [filled previous (by simp)]
  | cons first rest =>
      refine ⟨front ++ [first :: rest], ⟨by simpa using items_eq, ?_, ?_, by simpa using filled⟩,
        by simp [init_room]⟩
      · intro other member
        rcases List.mem_append.mp member with earlier | held
        · exact front_nonempty other earlier
        · simp [List.mem_singleton.mp held]
      · intro other member
        rcases List.mem_append.mp member with earlier | held
        · exact front_room other earlier
        · obtain rfl := List.mem_singleton.mp held
          exact removing _ init_room

/-- There is one way to pack items, when a bin with room keeps it without its last item. -/
theorem Packed.eq_pack (removing : ∀ bin, full bin = false → full bin.dropLast = false)
    {items : List α} {bins : List (List α)} (packed : Packed full items bins) :
    bins = pack full items := by
  induction items using List.reverseRecOn generalizing bins with
  | nil =>
      have nonempty := packed.nonempty
      have flatten_eq := packed.flatten_eq
      cases bins with
      | nil => rfl
      | cons bin bins =>
          obtain ⟨bin_eq, _⟩ : bin = [] ∧ _ := by simpa using flatten_eq
          exact absurd bin_eq (nonempty bin (by simp))
  | append_singleton items item ih =>
      obtain ⟨before, packed_before, rfl⟩ := packed.unstep removing
      rw [pack_concat, ih packed_before]

end Unique

section Fewest

variable {full : List α → Bool}

theorem eq_nil_of_fits (within : ∀ inner outer : List α, inner.Sublist outer →
      full outer = false → full inner = false)
    {front bin back : List α} (bin_full : full bin = true)
    (fits : full (front ++ bin ++ back).dropLast = false) : back = [] := by
  obtain rfl | ⟨init, last, rfl⟩ := back.eq_nil_or_concat'
  · rfl
  · rw [← List.append_assoc, List.dropLast_concat] at fits
    have inside : bin.Sublist (front ++ bin ++ init) :=
      (List.sublist_append_right front bin).trans (List.sublist_append_left _ init)
    exact absurd ((within bin _ inside fits).symm.trans bin_full) Bool.false_ne_true

theorem Packed.tail {items bin : List α} {bins : List (List α)}
    (packed : Packed full items (bin :: bins)) : Packed full bins.flatten bins := by
  refine ⟨rfl, fun other member => packed.nonempty other (List.mem_cons_of_mem _ member),
    fun other member => packed.room other (List.mem_cons_of_mem _ member), ?_⟩
  intro other member
  refine packed.filled other ?_
  cases bins with
  | nil => exact absurd member List.not_mem_nil
  | cons second bins => exact List.mem_cons_of_mem _ member

/-- Packing the end of some items takes no more bins than any other way to put all of them into bins
in order, none of which is full before its last item. -/
theorem Packed.length_le (within : ∀ inner outer : List α, inner.Sublist outer →
      full outer = false → full inner = false)
    {items : List α} {bins others : List (List α)} (packed : Packed full items bins)
    (covers : items <:+ others.flatten) (fits : ∀ bin ∈ others, full bin.dropLast = false) :
    bins.length ≤ others.length := by
  induction bins generalizing items others with
  | nil => exact Nat.zero_le _
  | cons bin bins ih =>
      have flatten_eq := packed.flatten_eq
      rw [List.flatten_cons] at flatten_eq
      cases others with
      | nil =>
          obtain ⟨bin_nil, _⟩ := List.append_eq_nil_iff.mp
            (flatten_eq.trans (List.suffix_nil.mp covers))
          exact absurd bin_nil (packed.nonempty bin List.mem_cons_self)
      | cons other others =>
          -- The first bin reaches at least as far as the other first bin.
          have reaches : bins ≠ [] → bins.flatten <:+ others.flatten := by
            intro more
            have bin_full := packed.filled bin (by
              rw [List.dropLast_cons_of_ne_nil more]
              exact List.mem_cons_self)
            obtain ⟨front, whole⟩ := covers
            rw [← flatten_eq, List.flatten_cons, ← List.append_assoc] at whole
            rcases List.suffix_or_suffix_of_suffix (List.suffix_append (front ++ bin) bins.flatten)
              (whole ▸ List.suffix_append other others.flatten) with shorter | ⟨back, rest_eq⟩
            · exact shorter
            · rw [← rest_eq, ← List.append_assoc] at whole
              have other_eq := List.append_cancel_right whole
              have back_nil := eq_nil_of_fits within bin_full
                (other_eq ▸ fits other List.mem_cons_self)
              rw [← rest_eq, back_nil]
              exact List.suffix_rfl
          rw [List.length_cons, List.length_cons]
          by_cases more : bins = []
          · simp [more]
          · exact Nat.succ_le_succ (ih packed.tail (reaches more) fun inner member =>
              fits inner (List.mem_cons_of_mem _ member))

end Fewest

/-- The last occurrence of `item` over all bins is in bin `index`, after `front`. -/
def LastAt (bins : List (List α)) (item : α) (index : Nat) (front : List α) : Prop :=
  ∃ back, bins[index]? = some (front ++ item :: back) ∧ item ∉ back ∧
    ∀ bin ∈ bins.drop (index + 1), item ∉ bin

theorem lastAt_packStep_self (full : List α → Bool) (bins : List (List α)) (item : α) :
    ∃ front, (packStep full bins item).getLast? = some (front ++ [item]) ∧
      LastAt (packStep full bins item) item ((packStep full bins item).length - 1) front := by
  obtain rfl | ⟨front, bin, rfl⟩ := bins.eq_nil_or_concat'
  · exact ⟨[], rfl, [], rfl, by simp, by simp⟩
  · rw [packStep_concat]
    split
    · refine ⟨[], by simp, [], by simp, by simp, ?_⟩
      intro later member
      rw [List.drop_of_length_le (by simp)] at member
      simp at member
    · exact ⟨bin, by simp, [], by simp, by simp, by simp⟩

/-- Packing another item moves no last occurrence. -/
theorem LastAt.step {bins : List (List α)} {item : α} {index : Nat} {front : List α}
    (last : LastAt bins item index front) (full : List α → Bool) {other : α}
    (distinct : item ≠ other) : LastAt (packStep full bins other) item index front := by
  obtain ⟨back, at_index, not_back, not_later⟩ := last
  obtain rfl | ⟨before, bin, rfl⟩ := bins.eq_nil_or_concat'
  · simp at at_index
  rw [packStep_concat]
  have inside : index < (before ++ [bin]).length := (List.getElem?_eq_some_iff.mp at_index).1
  split
  · refine ⟨back, by rw [List.getElem?_append_left inside, at_index], not_back, ?_⟩
    intro later member
    rw [List.drop_append_of_le_length (by omega)] at member
    rcases List.mem_append.mp member with earlier | new
    · exact not_later later earlier
    · simp_all
  · simp only [List.length_append, List.length_singleton] at inside
    by_cases in_last : index = before.length
    · subst in_last
      have bin_eq : bin = front ++ item :: back := by simpa using at_index
      refine ⟨back ++ [other], by simp [bin_eq], by simp [not_back, distinct], by simp⟩
    · have earlier : index < before.length := by omega
      rw [List.getElem?_append_left earlier] at at_index
      refine ⟨back, by rw [List.getElem?_append_left earlier, at_index], not_back, ?_⟩
      intro later member
      rw [List.drop_append_of_le_length (by omega)] at member not_later
      rcases List.mem_append.mp member with old | new
      · exact not_later later (List.mem_append_left _ old)
      · have absent := not_later bin (by simp)
        obtain rfl := List.mem_singleton.mp new
        simp [absent, distinct]

end Packing
