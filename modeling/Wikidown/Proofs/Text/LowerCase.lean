import Mathlib.Data.Char
import Wikidown.Text.LowerCase

/-!
# Words in capital or small letters

The sign of a unit is the only character beyond ASCII with a small letter of ASCII, which is `k`. So a text is a word
of other letters, once in small letters, exactly when it is that word but for capital letters of ASCII.
-/

namespace Wikidown

set_option autoImplicit false

theorem paired_ranges_high : ∀ range ∈ pairedRanges, 128 ≤ range.1 ∧ range.2 + 1 < 0xD800 := by decide

/-- All ranges but the one of ASCII stand beyond it, as do their small letters. -/
theorem shifted_ranges_high : ∀ range ∈ shiftedRanges, range = (0x41, 0x5A, 32) ∨
    (128 ≤ range.1 ∧ (range.2.1 + range.2.2 < 0xD800 ∨
      (0xDFFF < range.1 ∧ range.2.1 + range.2.2 < 0x110000))) := by decide

theorem to_nat_of_nat {point : Nat} (valid : point.isValidChar) : (Char.ofNat point).toNat = point := by
  rw [Char.ofNat, dif_pos valid]
  rfl

theorem is_upper_iff {c : Char} : (c.val ≥ 'A'.val ∧ c.val ≤ 'Z'.val) ↔ 0x41 ≤ c.toNat ∧ c.toNat ≤ 0x5A :=
  and_congr UInt32.le_iff_toNat_le UInt32.le_iff_toNat_le

theorem lower_of_capital {c : Char} (capital : 0x41 ≤ c.toNat ∧ c.toNat ≤ 0x5A) :
    c.toLower = Char.ofNat (c.toNat + 32) := by
  have shifted : c.toLower = ⟨c.val + ('a'.val - 'A'.val), _⟩ := dif_pos (is_upper_iff.mpr capital)
  rw [← Char.toNat_inj, to_nat_of_nat (.inl (by omega)), shifted]
  have bound : c.val.toNat ≤ 0x5A := capital.2
  have sum : (c.val + 32).toNat = (c.val.toNat + 32) % 2 ^ 32 := UInt32.toNat_add _ _
  rw [Nat.mod_eq_of_lt (by omega)] at sum
  exact sum

theorem lower_of_other {c : Char} (other : ¬ (0x41 ≤ c.toNat ∧ c.toNat ≤ 0x5A)) : c.toLower = c :=
  dif_neg (is_upper_iff.not.mpr other)

/-- A character of ASCII has its small letter there, and one beyond it has none there, apart from the sign of a
unit. -/
theorem lower_char_cases (c : Char) :
    lowerChar c = c.toLower ∨ (128 ≤ c.toNat ∧ (lowerChar c = 'k' ∨ 128 ≤ (lowerChar c).toNat)) := by
  rw [lowerChar]
  dsimp only
  split
  · next kelvin => exact .inr ⟨by omega, .inl rfl⟩
  · split
    · next paired =>
      obtain ⟨range, member, inside⟩ := List.any_eq_true.mp paired
      obtain ⟨high, low⟩ := paired_ranges_high range member
      simp only [Bool.and_eq_true, decide_eq_true_eq] at inside
      refine .inr ⟨by omega, .inr ?_⟩
      rw [to_nat_of_nat (.inl (by omega))]
      omega
    · split
      · next first last distance found =>
        have inside := List.find?_some found
        simp only [Bool.and_eq_true, decide_eq_true_eq] at inside
        rcases shifted_ranges_high _ (List.mem_of_find?_eq_some found) with ascii | ⟨high, valid⟩
        · obtain ⟨rfl, rfl, rfl⟩ : first = 0x41 ∧ last = 0x5A ∧ distance = 32 := by simpa using ascii
          exact .inl (lower_of_capital inside).symm
        · dsimp only at high valid
          have point : (c.toNat + distance).isValidChar := valid.imp (by omega) (by omega)
          refine .inr ⟨by omega, .inr ?_⟩
          rw [to_nat_of_nat point]
          omega
      · next none =>
        have outside := List.find?_eq_none.mp none (0x41, 0x5A, 32) (by decide)
        exact .inl (lower_of_other (by simpa using outside)).symm

/-- The words that no character beyond ASCII is part of, also if capital letters are made small. -/
def AsciiWord (word : Text) : Prop := ∀ c ∈ word, c.toNat < 128 ∧ c ≠ 'k'

instance (word : Text) : Decidable (AsciiWord word) := List.decidableBAll _ word

theorem lower_char_eq_iff {c d : Char} (ascii : d.toNat < 128) (other : d ≠ 'k') :
    lowerChar c = d ↔ c.toLower = d := by
  rcases lower_char_cases c with same | ⟨high, small⟩
  · rw [same]
  · have apart : c.toLower ≠ d := by
      rintro rfl
      rw [lower_of_other (by omega)] at ascii
      omega
    refine iff_of_false ?_ apart
    rintro rfl
    rcases small with kelvin | beyond
    · exact other kelvin
    · omega

theorem lower_text_eq_iff {word : Text} (ascii : AsciiWord word) (text : Text) :
    lowerText text = word ↔ text.map Char.toLower = word := by
  induction word generalizing text with
  | nil => simp [lowerText]
  | cons d word ih =>
      rw [AsciiWord, List.forall_mem_cons] at ascii
      cases text with
      | nil => simp [lowerText]
      | cons c text =>
          rw [lowerText, List.map_cons, List.map_cons, List.cons.injEq, List.cons.injEq,
            lower_char_eq_iff ascii.1.1 ascii.1.2, ← lowerText, ih ascii.2]

end Wikidown
