import AdsDriver.Data.ByteMemory

/-!
# Masked writes

A masked write replaces the bits of a word that its mask selects.  Words are bit vectors of any
width; memory holds them as little-endian bytes, of which the last ones may be cut off.
-/

namespace Masks

open ByteMemory

variable {width : Nat}

/-- A word with the bits of a mask replaced by those of another word. -/
def replaceBits (word val mask : BitVec width) : BitVec width :=
  (word &&& ~~~mask) ||| (val &&& mask)

@[simp]
theorem getLsbD_replaceBits (word val mask : BitVec width) (index : Nat) :
    (replaceBits word val mask).getLsbD index =
      bif mask.getLsbD index then val.getLsbD index else word.getLsbD index := by
  by_cases inside : index < width
  · simp only [replaceBits, BitVec.getLsbD_or, BitVec.getLsbD_and, BitVec.getLsbD_not, inside]
    cases mask.getLsbD index <;> simp
  · simp [BitVec.getLsbD_of_ge _ index (Nat.le_of_not_lt inside)]

theorem replaceBits_allOnes (word val : BitVec width) :
    replaceBits word val (BitVec.allOnes width) = val := by
  simp [replaceBits]

theorem or_and_or_not (word val mask : BitVec width) :
    (word ||| (val &&& mask)) &&& (val ||| ~~~mask) = replaceBits word val mask := by
  apply BitVec.eq_of_getLsbD_eq
  intro index inside
  simp only [getLsbD_replaceBits, BitVec.getLsbD_or, BitVec.getLsbD_and, BitVec.getLsbD_not,
    inside, decide_true, Bool.true_and]
  cases mask.getLsbD index <;> cases word.getLsbD index <;> cases val.getLsbD index <;> rfl

theorem replaceBits_eq_iff (first second val mask : BitVec width) :
    replaceBits first val mask = replaceBits second val mask ↔
      first &&& ~~~mask = second &&& ~~~mask := by
  simp only [BitVec.eq_of_getLsbD_eq_iff, getLsbD_replaceBits, BitVec.getLsbD_and,
    BitVec.getLsbD_not]
  refine forall₂_congr fun index inside => ?_
  cases mask.getLsbD index <;> simp [inside]

theorem setWidth_replaceBits {narrow : Nat} (le : narrow ≤ width) (word val mask : BitVec width) :
    (replaceBits word val mask).setWidth narrow =
      replaceBits (word.setWidth narrow) (val.setWidth narrow) (mask.setWidth narrow) := by
  rw [replaceBits, BitVec.setWidth_or, BitVec.setWidth_and, BitVec.setWidth_and,
    BitVec.setWidth_not le]
  rfl

theorem and_and_eq_iff (bits first second : BitVec width) :
    bits &&& first &&& second = bits &&& second ↔
      bits &&& second &&& ~~~first = BitVec.ofNat width 0 := by
  simp only [BitVec.eq_of_getLsbD_eq_iff, BitVec.getLsbD_and, BitVec.getLsbD_not,
    BitVec.getLsbD_zero]
  refine forall₂_congr fun index inside => ?_
  cases bits.getLsbD index <;> cases first.getLsbD index <;> cases second.getLsbD index <;>
    simp [inside]

/-- The low bytes of two words are the same exactly when their low bits are. -/
theorem leBytes_toNat_inj {bytes : Nat} (first second : BitVec width) :
    leBytes bytes first.toNat = leBytes bytes second.toNat ↔
      first.setWidth (8 * bytes) = second.setWidth (8 * bytes) := by
  have power : 256 ^ bytes = 2 ^ (8 * bytes) := by rw [pow_mul]; norm_num
  rw [← BitVec.toNat_inj, BitVec.toNat_setWidth, BitVec.toNat_setWidth, ← power,
    ← leNat_leBytes, ← leNat_leBytes]
  constructor
  · exact congrArg leNat
  · intro same
    rw [← leBytes_leNat (leBytes bytes first.toNat), ← leBytes_leNat (leBytes bytes second.toNat),
      same, length_leBytes, length_leBytes]

/-- The word stored in a memory. -/
def word (width : Nat) (memory : Bytes) : BitVec width := BitVec.ofNat width (leNat memory)

end Masks
