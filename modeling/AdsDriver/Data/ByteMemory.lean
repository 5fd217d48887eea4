import Mathlib.Data.Nat.Digits.Defs

/-!
# Byte memories

Copies to the front of a destination, windows of a memory, concatenated blocks and fixed-width
little-endian words.  Offsets of blocks are prefix sums of block lengths, so a block is recovered
from the concatenation by the lengths of the blocks before it.
-/

namespace ByteMemory

/-- A byte sequence in address order. -/
abbrev Bytes := List UInt8

section Copies

variable {α : Type*}

/-- Copy `source` over the front of `dest`; a longer source runs past the destination's end. -/
def overwrite (source dest : List α) : List α := source ++ dest.drop source.length

/-- The `length` elements of a memory that start at `offset`. -/
def window (offset length : Nat) (memory : List α) : List α := (memory.drop offset).take length

theorem length_overwrite {source dest : List α} (fits : source.length ≤ dest.length) :
    (overwrite source dest).length = dest.length := by
  simp only [overwrite, List.length_append, List.length_drop]
  omega

theorem take_overwrite {count : Nat} {source : List α} (dest : List α)
    (short : count ≤ source.length) : (overwrite source dest).take count = source.take count := by
  rw [overwrite, List.take_append_of_le_length short]

theorem drop_overwrite {source dest : List α} :
    (overwrite source dest).drop source.length = dest.drop source.length := by
  simp [overwrite]

theorem overwrite_of_length_le {source dest : List α} (covers : dest.length ≤ source.length) :
    overwrite source dest = source := by
  rw [overwrite, List.drop_of_length_le covers, List.append_nil]

theorem overwrite_overwrite {first second dest : List α} (covers : first.length ≤ second.length) :
    overwrite second (overwrite first dest) = overwrite second dest := by
  simp only [overwrite]
  congr 1
  rw [List.drop_append, List.drop_of_length_le covers, List.nil_append, List.drop_drop]
  congr 1
  omega

theorem length_window {offset length : Nat} {memory : List α}
    (inside : offset + length ≤ memory.length) : (window offset length memory).length = length := by
  simp only [window, List.length_take, List.length_drop]
  omega

theorem take_window (count offset length : Nat) (memory : List α) :
    (window offset length memory).take count = window offset (min count length) memory := by
  simp [window, List.take_take]

theorem window_append_right (front : List α) (offset length : Nat) (memory : List α) :
    window (front.length + offset) length (front ++ memory) = window offset length memory := by
  rw [window, List.drop_append, List.drop_of_length_le (by omega), List.nil_append, window]
  congr 2
  omega

theorem window_append_left {offset length : Nat} {front : List α} (memory : List α)
    (inside : offset + length ≤ front.length) :
    window offset length (front ++ memory) = window offset length front := by
  rw [window, List.drop_append_of_le_length (by omega),
    List.take_append_of_le_length (by simp only [List.length_drop]; omega), window]

end Copies

theorem window_flatten {α : Type*} {blocks : List (List α)} {index : Nat} {block : List α}
    (at_index : blocks[index]? = some block) :
    window ((blocks.take index).map List.length).sum block.length blocks.flatten = block := by
  obtain ⟨inside, rfl⟩ := List.getElem?_eq_some_iff.mp at_index
  have split_blocks : blocks = blocks.take index ++ blocks[index] :: blocks.drop (index + 1) := by
    rw [← List.drop_eq_getElem_cons inside, List.take_append_drop]
  have front_length : (blocks.take index).flatten.length =
      ((blocks.take index).map List.length).sum := List.length_flatten
  have shifted := window_append_right (blocks.take index).flatten 0 blocks[index].length
    (blocks[index] ++ (blocks.drop (index + 1)).flatten)
  rw [front_length, Nat.add_zero] at shifted
  have whole := congrArg List.flatten split_blocks
  rw [List.flatten_append, List.flatten_cons] at whole
  rw [whole, shifted]
  simp [window]

theorem sum_length_of_uniform {α : Type*} {width : Nat} {blocks : List (List α)}
    (uniform : ∀ block ∈ blocks, block.length = width) :
    (blocks.map List.length).sum = width * blocks.length := by
  have replicated : blocks.map List.length = List.replicate blocks.length width :=
    List.eq_replicate_iff.mpr ⟨by simp, by simpa using uniform⟩
  simp [replicated, Nat.mul_comm]

/-- The natural number with the given little-endian bytes. -/
def leNat (bytes : Bytes) : Nat := Nat.ofDigits 256 (bytes.map UInt8.toNat)

/-- The low `width` bytes of a number, least significant first. -/
def leBytes : Nat → Nat → Bytes
  | 0, _ => []
  | width + 1, number => UInt8.ofNat number :: leBytes width (number / 256)

@[simp]
theorem length_leBytes (width number : Nat) : (leBytes width number).length = width := by
  induction width generalizing number with
  | zero => rfl
  | succ width ih => simp [leBytes, ih]

theorem leNat_cons (byte : UInt8) (bytes : Bytes) :
    leNat (byte :: bytes) = byte.toNat + 256 * leNat bytes := by
  simp [leNat, Nat.ofDigits_cons]

theorem leNat_append (low high : Bytes) :
    leNat (low ++ high) = leNat low + 256 ^ low.length * leNat high := by
  simp [leNat, Nat.ofDigits_append]

theorem leNat_eq_zero_iff (bytes : Bytes) : leNat bytes = 0 ↔ ∀ byte ∈ bytes, byte = 0 := by
  induction bytes with
  | nil => simp [leNat]
  | cons byte bytes ih =>
      have zero_iff : byte.toNat = 0 ↔ byte = 0 := by rw [← UInt8.toNat_inj]; rfl
      rw [leNat_cons, List.forall_mem_cons, ← ih, ← zero_iff]
      omega

theorem leNat_lt (bytes : Bytes) : leNat bytes < 256 ^ bytes.length := by
  have bound := Nat.ofDigits_lt_base_pow_length (b := 256) (l := bytes.map UInt8.toNat)
    (by decide) (by simpa using fun byte _ => byte.toNat_lt)
  simpa [leNat] using bound

theorem leNat_window_lt (offset width : Nat) (memory : Bytes) :
    leNat (window offset width memory) < 256 ^ width :=
  (leNat_lt _).trans_le (Nat.pow_le_pow_right (by decide) (List.length_take_le _ _))

theorem leNat_leBytes (width number : Nat) :
    leNat (leBytes width number) = number % 256 ^ width := by
  induction width generalizing number with
  | zero => simp [leBytes, leNat, Nat.mod_one]
  | succ width ih =>
      have carried :
          number % (256 * 256 ^ width) = number % 256 + 256 * (number / 256 % 256 ^ width) :=
        Nat.mod_mul
      have low : (UInt8.ofNat number).toNat = number % 256 := UInt8.toNat_ofNat'
      rw [leBytes, leNat_cons, ih, low, Nat.pow_succ', carried]

theorem leBytes_leNat (bytes : Bytes) : leBytes bytes.length (leNat bytes) = bytes := by
  induction bytes with
  | nil => rfl
  | cons byte bytes ih =>
      have small : byte.toNat < 256 := byte.toNat_lt
      have low : UInt8.ofNat (byte.toNat + 256 * leNat bytes) = byte := by
        apply UInt8.toNat_inj.mp
        rw [UInt8.toNat_ofNat']
        omega
      have high : (byte.toNat + 256 * leNat bytes) / 256 = leNat bytes := by omega
      rw [List.length_cons, leBytes, leNat_cons, low, high, ih]

theorem take_leBytes {narrow width : Nat} (fits : narrow ≤ width) (number : Nat) :
    (leBytes width number).take narrow = leBytes narrow number := by
  induction narrow generalizing width number with
  | zero => rfl
  | succ narrow ih =>
      obtain ⟨width, rfl⟩ := Nat.exists_eq_add_of_le' (Nat.zero_lt_of_lt fits)
      rw [leBytes, List.take_succ_cons, leBytes, ih (by omega)]

theorem leNat_leBytes_of_lt {width number : Nat} (bound : number < 256 ^ width) :
    leNat (leBytes width number) = number := by
  rw [leNat_leBytes, Nat.mod_eq_of_lt bound]

end ByteMemory
