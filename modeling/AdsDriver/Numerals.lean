import AdsDriver.Address
import Mathlib.Data.List.Basic

/-!
# Numerals

What a decimal or `0x`-hexadecimal numeral denotes, as a whole text.  `std::stol` reads it to the
same number as long as this fits into a `long`; what else `std::stol` reads is no numeral.
-/

namespace AdsDriver

/-- Whether a character is a digit in a base. -/
def isDigit (base : Nat) (char : Char) : Bool := (digitValue char).any (· < base)

/-- The number with the given digits, the most significant first. -/
def digitsValue (base : Nat) (text : Str) : Nat :=
  text.foldl (fun value char => value * base + (digitValue char).getD 0) 0

/-- The number that a text denotes in a base, if it consists of digits. -/
def numeral? (base : Nat) (text : Str) : Option Nat :=
  if text ≠ [] ∧ text.all (isDigit base) = true then some (digitsValue base text) else none

/-- The number that a decimal or `0x`-hexadecimal numeral denotes. -/
def number? (text : Str) : Option Nat :=
  if text.take 2 = "0x".toList then numeral? 16 (text.drop 2) else numeral? 10 text

theorem numeral?_eq_some_iff {base : Nat} {text : Str} {number : Nat} :
    numeral? base text = some number ↔
      text ≠ [] ∧ text.all (isDigit base) = true ∧ digitsValue base text = number := by
  unfold numeral?
  split_ifs with digits
  · simp only [Option.some.injEq]
    exact ⟨fun value => ⟨digits.1, digits.2, value⟩, fun numeral => numeral.2.2⟩
  · refine iff_of_false (by simp) ?_
    rintro ⟨nonempty, all, _⟩
    exact digits ⟨nonempty, all⟩

theorem digitsOf_of_all {base : Nat} {text : Str} (digits : text.all (isDigit base) = true) :
    digitsOf base text = text.map fun char => (digitValue char).getD 0 := by
  induction text with
  | nil => rfl
  | cons char rest ih =>
      obtain ⟨first, later⟩ : isDigit base char = true ∧ rest.all (isDigit base) = true := by
        simpa using digits
      obtain ⟨digit, value, small⟩ : ∃ digit, digitValue char = some digit ∧ digit < base := by
        simpa [isDigit, Option.any_eq_true] using first
      rw [digitsOf, value]
      simp only [small, if_true, ih later, List.map_cons, value, Option.getD_some]

theorem foldl_digitsOf {base : Nat} {text : Str} (digits : text.all (isDigit base) = true) :
    (digitsOf base text).foldl (fun value digit => value * base + digit) 0 =
      digitsValue base text := by
  rw [digitsOf_of_all digits, List.foldl_map, digitsValue]

theorem digitsOf_ne_nil {base : Nat} {text : Str} (nonempty : text ≠ [])
    (digits : text.all (isDigit base) = true) : digitsOf base text ≠ [] := by
  rw [digitsOf_of_all digits]
  simpa using nonempty

theorem isDigit_ten {char : Char} (digit : isDigit 10 char = true) : '0' ≤ char ∧ char ≤ '9' := by
  unfold isDigit digitValue at digit
  split_ifs at digit with decimal lower upper
  · exact decimal
  · rw [Option.any_some, decide_eq_true_eq] at digit
    omega
  · rw [Option.any_some, decide_eq_true_eq] at digit
    omega
  · cases digit

theorem digitValue_of_decimal {char : Char} (decimal : char.isDigit = true) :
    digitValue char = some (char.toNat - '0'.toNat) := by
  obtain ⟨low, high⟩ := Char.isDigit_iff_toNat.mp decimal
  exact if_pos ⟨low, high⟩

theorem isSpace_of_isDigit {char : Char} (digit : isDigit 10 char = true) :
    isSpace char = false := by
  obtain ⟨low, high⟩ := isDigit_ten digit
  have above : 48 ≤ char.toNat := low
  have not_blank : char ≠ ' ' := by
    rintro rfl
    exact absurd above (by decide)
  simp only [isSpace, Bool.or_eq_false_iff, decide_eq_false_iff_not, Bool.and_eq_false_iff]
  exact ⟨not_blank, .inr (by omega)⟩

theorem numeral?_toDigits (number : Nat) :
    numeral? 10 (Nat.toDigits 10 number) = some number := by
  refine numeral?_eq_some_iff.mpr ⟨Nat.toDigits_ne_nil, ?_, ?_⟩
  · rw [List.all_eq_true]
    intro char member
    have decimal := Nat.isDigit_of_mem_toDigits (by decide) (by decide) member
    obtain ⟨_, high⟩ := Char.isDigit_iff_toNat.mp decimal
    have nine : '9'.toNat = 57 := rfl
    have zero : '0'.toNat = 48 := rfl
    simp only [isDigit, digitValue_of_decimal decimal, Option.any_some, decide_eq_true_eq]
    omega
  · have value := Nat.ofDigitChars_toDigits (n := number) (b := 10) (by decide) (by decide)
    rw [Nat.ofDigitChars_eq_foldl] at value
    conv_rhs => rw [← value]
    refine List.foldl_ext _ _ _ fun sum char member => ?_
    have decimal := Nat.isDigit_of_mem_toDigits (by decide) (by decide) member
    rw [digitValue_of_decimal decimal, Option.getD_some, Nat.mul_comm]

/-- A number as `std::stol` gives it to its caller. -/
def asLong (number : Nat) : Except ParseException Int :=
  if number < 2 ^ 63 then .ok number else .error .outOfRange

/-- Texts that start with a digit have neither white space nor a sign in front. -/
theorem stol_of_digit {base : Nat} {first : Char} {rest : Str} (digit : isDigit 10 first = true)
    (nonempty : digitsOf base (skipHexPrefix base (first :: rest)) ≠ []) :
    stol (first :: rest) base =
      asLong ((digitsOf base (skipHexPrefix base (first :: rest))).foldl
        (fun value digit => value * base + digit) 0) := by
  obtain ⟨low, _⟩ := isDigit_ten digit
  have above : 48 ≤ first.toNat := low
  have no_minus : first ≠ '-' := by
    rintro rfl
    exact absurd above (by decide)
  have no_plus : first ≠ '+' := by
    rintro rfl
    exact absurd above (by decide)
  have unspaced : (first :: rest).dropWhile isSpace = first :: rest := by
    rw [List.dropWhile_cons_of_neg]
    simp [isSpace_of_isDigit digit]
  unfold stol
  simp only [unspaced, List.head?_cons, Option.some.injEq, no_minus, no_plus, or_self, if_false]
  generalize digitsOf base (skipHexPrefix base (first :: rest)) = digits at nonempty
  cases digits with
  | nil => exact absurd rfl nonempty
  | cons digit digits =>
      simp only [asLong]
      generalize List.foldl (fun value digit => value * base + digit) 0 (digit :: digits) = number
      by_cases small : number < 2 ^ 63
      · rw [if_pos ⟨by omega, by exact_mod_cast small⟩, if_pos small]
      · rw [if_neg (by rintro ⟨_, below⟩; exact small (by exact_mod_cast below)), if_neg small]

theorem skipHexPrefix_ten (text : Str) : skipHexPrefix 10 text = text := by
  unfold skipHexPrefix
  split <;> simp_all

theorem stol_numeral {text : Str} {number : Nat} (written : numeral? 10 text = some number) :
    stol text 10 = asLong number := by
  obtain ⟨nonempty, digits, rfl⟩ := numeral?_eq_some_iff.mp written
  obtain ⟨first, rest, rfl⟩ := List.exists_cons_of_ne_nil nonempty
  have whole := skipHexPrefix_ten (first :: rest)
  have first_digit : isDigit 10 first = true := by
    simp only [List.all_cons, Bool.and_eq_true] at digits
    exact digits.1
  rw [stol_of_digit first_digit (by rw [whole]; exact digitsOf_ne_nil nonempty digits), whole,
    foldl_digitsOf digits]

theorem stol_hexNumeral {text : Str} {number : Nat} (written : numeral? 16 text = some number) :
    stol ("0x".toList ++ text) 16 = asLong number := by
  obtain ⟨nonempty, digits, rfl⟩ := numeral?_eq_some_iff.mp written
  have some_digit := digitsOf_ne_nil nonempty digits
  have skipped : skipHexPrefix 16 ('0' :: 'x' :: text) = text := by
    simp [skipHexPrefix, some_digit]
  change stol ('0' :: 'x' :: text) 16 = _
  rw [stol_of_digit (by decide) (by rwa [skipped]), skipped, foldl_digitsOf digits]

/-- `parse_dec_or_hex_int` takes a numeral modulo `2 ^ 32`, up to the largest `long`. -/
theorem parseDecOrHexInt_number {text : Str} {number : Nat} (written : number? text = some number) :
    parseDecOrHexInt text =
      if number < 2 ^ 63 then .ok (number % 2 ^ 32) else .error .outOfRange := by
  have narrowed : (asLong number >>= fun value => pure (value % 2 ^ 32).toNat) =
      if number < 2 ^ 63 then Except.ok (number % 2 ^ 32) else .error .outOfRange := by
    unfold asLong
    split_ifs
    · rfl
    · rfl
  rw [← narrowed]
  unfold number? at written
  unfold parseDecOrHexInt
  split_ifs at written with hexadecimal
  · have whole : text = "0x".toList ++ text.drop 2 := by
      rw [← hexadecimal, List.take_append_drop]
    rw [if_pos hexadecimal, whole, stol_hexNumeral written]
  · rw [if_neg hexadecimal, stol_numeral written]

end AdsDriver
