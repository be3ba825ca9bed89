import Mathlib.Algebra.Group.Nat.Defs
import Wikidown.Text.Number

/-!
# Decimal numbers written and read

A number that is written in decimal digits is read back, as long as it has few enough of them.
-/

namespace Wikidown

set_option autoImplicit false

theorem decimal_is_digit {value : Nat} {c : Char} (member : c ∈ decimalText value) :
    c.isDigit = true :=
  Nat.isDigit_of_mem_toDigits (by decide) (by decide) member

theorem digit_value_of_ascii {c : Char} (digit : c.isDigit = true) :
    digitValue? c = some (c.toNat - 48) := by
  have bounds : 48 ≤ c.toNat ∧ c.toNat ≤ 57 := Char.isDigit_iff_toNat.mp digit
  have found : digitZeros.find? (fun start => start ≤ c.toNat && c.toNat < start + 10) =
      some 48 := by
    have zero : (decide (48 ≤ c.toNat) && decide (c.toNat < 48 + 10)) = true := by
      simp only [Bool.and_eq_true, decide_eq_true_eq]
      omega
    exact List.find?_cons_of_pos zero
  rw [digitValue?, found, Option.map_some]

theorem is_digit_of_ascii {c : Char} (digit : c.isDigit = true) : isDigit c = true := by
  rw [isDigit, digit_value_of_ascii digit]
  rfl

theorem decimal_value_text (value : Nat) : decimalValue (decimalText value) = value := by
  have folded : ∀ (digits : Text) (start : Nat), (∀ c ∈ digits, c.isDigit = true) →
      digits.foldl (fun value c => 10 * value + (digitValue? c).getD 0) start =
        Nat.ofDigitChars 10 digits start := by
    intro digits
    induction digits with
    | nil => simp
    | cons c digits ih =>
        intro start numeral
        rw [List.foldl_cons, digit_value_of_ascii (numeral c (by simp)), Nat.ofDigitChars_cons]
        exact ih _ fun d member => numeral d (by simp [member])
  rw [decimalValue, folded _ 0 fun c => decimal_is_digit]
  exact Nat.ofDigitChars_toDigits (by decide) (by decide)

/-- A number of few enough digits is read. -/
theorem bounded_number_text {value : Nat} (small : value < 10 ^ digitLimit) :
    boundedNumber (decimalText value) = .ok value := by
  have size : (decimalText value).length ≤ digitLimit :=
    (Nat.length_toDigits_le_iff (by decide) (by decide)).mpr small
  rw [boundedNumber, if_neg (Nat.not_lt.mpr size), decimal_value_text]

/-- Ten parts and fewer have numbers that are short enough to be read. -/
theorem few_le_digit_limit {count : Nat} (few : count ≤ 10) : count ≤ 10 ^ digitLimit :=
  Nat.le_trans few (Nat.le_self_pow (by decide) 10)

theorem decimal_text_ne_nil (value : Nat) : decimalText value ≠ [] := Nat.toDigits_ne_nil

end Wikidown
