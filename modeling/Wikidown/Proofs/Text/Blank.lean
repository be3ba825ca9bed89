import Mathlib.Data.List.TakeWhile
import Wikidown.Proofs.Text.Lines
import Wikidown.Text.Blank

/-!
# Trimmed texts
-/

namespace Wikidown

set_option autoImplicit false

theorem trim_start_suffix (text : Text) : trimStart text <:+ text := List.dropWhile_suffix isBlank

theorem trim_end_begins (text : Text) : trimEnd text <+: text := by
  have ends := List.dropWhile_suffix (l := text.reverse) isBlank
  rw [← List.reverse_prefix, List.reverse_reverse] at ends
  exact ends

/-- Trimming at the start leaves the last character, if it leaves any. -/
theorem trim_start_last (text : Text) :
    trimStart text = [] ∨ (trimStart text).getLast? = text.getLast? := by
  by_cases empty : trimStart text = []
  · exact .inl empty
  · obtain ⟨front, shape⟩ := trim_start_suffix text
    rw [← List.getLast?_append_of_ne_nil front empty, shape]
    exact .inr rfl

/-- Trimming at the end leaves the first character, if it leaves any. -/
theorem trim_end_first (text : Text) : trimEnd text = [] ∨ (trimEnd text).head? = text.head? := by
  by_cases empty : trimEnd text = []
  · exact .inl empty
  · obtain ⟨back, shape⟩ := trim_end_begins text
    rw [← List.head?_append_of_ne_nil (trimEnd text) empty, shape]
    exact .inr rfl

theorem trim_inside (text : Text) : trim text <:+: text :=
  (trim_end_begins _).isInfix.trans (trim_start_suffix text).isInfix

theorem trim_start_cons_blank {c : Char} (blank : isBlank c = true) (text : Text) :
    trimStart (c :: text) = trimStart text := by
  rw [trimStart, List.dropWhile_cons_of_pos blank, trimStart]

theorem trim_start_cons_visible {c : Char} (visible : isBlank c = false) (text : Text) :
    trimStart (c :: text) = c :: text := by
  rw [trimStart, List.dropWhile_cons_of_neg (by simp [visible])]

theorem trim_end_concat_blank {c : Char} (blank : isBlank c = true) (text : Text) :
    trimEnd (text ++ [c]) = trimEnd text := by
  rw [trimEnd, List.reverse_concat, List.dropWhile_cons_of_pos blank, trimEnd]

theorem trim_end_concat_visible {c : Char} (visible : isBlank c = false) (text : Text) :
    trimEnd (text ++ [c]) = text ++ [c] := by
  rw [trimEnd, List.reverse_concat, List.dropWhile_cons_of_neg (by simp [visible]),
    List.reverse_cons, List.reverse_reverse]

theorem trim_end_eq_nil_iff {text : Text} : trimEnd text = [] ↔ ∀ c ∈ text, isBlank c = true := by
  simp [trimEnd, List.dropWhile_eq_nil_iff]

/-- Behind something visible, trimming at the end stays behind it. -/
theorem trim_end_append (front : Text) {back : Text} (visible : ∃ c ∈ back, isBlank c = false) :
    trimEnd (front ++ back) = front ++ trimEnd back := by
  induction back using List.reverseRecOn with
  | nil => simp at visible
  | append_singleton back c ih =>
      rw [← List.append_assoc]
      cases blank : isBlank c with
      | false => rw [trim_end_concat_visible blank, trim_end_concat_visible blank, List.append_assoc]
      | true =>
          rw [trim_end_concat_blank blank, trim_end_concat_blank blank]
          refine ih ?_
          obtain ⟨d, member, shown⟩ := visible
          rw [List.mem_append, List.mem_singleton] at member
          rcases member with inside | rfl
          · exact ⟨d, inside, shown⟩
          · rw [blank] at shown
            exact absurd shown (by decide)

theorem trim_end_append_of_blank (front : Text) {back : Text} (blank : ∀ c ∈ back, isBlank c = true) :
    trimEnd (front ++ back) = trimEnd front := by
  induction back using List.reverseRecOn with
  | nil => rw [List.append_nil]
  | append_singleton back c ih =>
      rw [← List.append_assoc, trim_end_concat_blank (blank c (by simp)),
        ih fun d member => blank d (by simp [member])]

theorem trim_start_of_blank {text : Text} (blank : ∀ c ∈ text, isBlank c = true) :
    trimStart text = [] := List.dropWhile_eq_nil_iff.mpr blank

/-- Before something visible, trimming at the start stays before it. -/
theorem trim_start_append {front : Text} (visible : ∃ c ∈ front, isBlank c = false) (back : Text) :
    trimStart (front ++ back) = trimStart front ++ back := by
  have kept : (front.dropWhile isBlank).isEmpty = false := by
    rw [List.isEmpty_eq_false_iff, ne_eq, List.dropWhile_eq_nil_iff]
    intro blank
    obtain ⟨c, member, shown⟩ := visible
    rw [blank c member] at shown
    exact absurd shown (by decide)
  rw [trimStart, List.dropWhile_append, if_neg (by simp [kept]), trimStart]

theorem trim_start_append_of_blank {front : Text} (blank : ∀ c ∈ front, isBlank c = true)
    (back : Text) : trimStart (front ++ back) = trimStart back := by
  induction front with
  | nil => rfl
  | cons c front ih =>
      rw [List.cons_append, trim_start_cons_blank (blank c (by simp)),
        ih fun d member => blank d (by simp [member])]

theorem trim_start_append_visible {c : Char} (shown : isBlank c = false) (front back : Text) :
    trimStart (front ++ c :: back) = trimStart front ++ c :: back := by
  by_cases visible : ∃ d ∈ front, isBlank d = false
  · exact trim_start_append visible (c :: back)
  · have blank : ∀ d ∈ front, isBlank d = true := by simpa using visible
    rw [trim_start_append_of_blank blank, trim_start_of_blank blank, trim_start_cons_visible shown]
    rfl

/-- Blanks around a text are trimmed with its own. -/
theorem trim_between_blanks {front back : Text} (blankFront : ∀ c ∈ front, isBlank c = true)
    (text : Text) (blankBack : ∀ c ∈ back, isBlank c = true) : trim (front ++ (text ++ back)) = trim text := by
  rw [trim, trim_start_append_of_blank blankFront]
  by_cases visible : ∃ c ∈ text, isBlank c = false
  · rw [trim_start_append visible, trim_end_append_of_blank _ blankBack, trim]
  · have blank : ∀ c ∈ text, isBlank c = true := by simpa using visible
    rw [trim_start_append_of_blank blank, trim_start_of_blank blankBack, trim, trim_start_of_blank blank]

/-! ## What is trimmed -/

theorem trim_start_split (text : Text) :
    ∃ blanks, text = blanks ++ trimStart text ∧ ∀ c ∈ blanks, isBlank c = true :=
  ⟨text.takeWhile isBlank, List.takeWhile_append_dropWhile.symm, fun _ => List.mem_takeWhile_imp⟩

theorem trim_end_split (text : Text) :
    ∃ blanks, text = trimEnd text ++ blanks ∧ ∀ c ∈ blanks, isBlank c = true := by
  obtain ⟨blanks, split, blank⟩ := trim_start_split text.reverse
  refine ⟨blanks.reverse, ?_, fun c member => blank c (List.mem_reverse.mp member)⟩
  have back := congrArg List.reverse split
  rwa [List.reverse_reverse, List.reverse_append] at back

theorem trim_of_trim_start (text : Text) : trim (trimStart text) = trim text := by
  obtain ⟨blanks, split, blank⟩ := trim_start_split text
  have kept := @trim_between_blanks _ [] blank (trimStart text) (by simp)
  rw [List.append_nil, ← split] at kept
  exact kept.symm

theorem trim_of_trim_end (text : Text) : trim (trimEnd text) = trim text := by
  obtain ⟨blanks, split, blank⟩ := trim_end_split text
  have kept := @trim_between_blanks [] _ (by simp) (trimEnd text) blank
  rw [List.nil_append, ← split] at kept
  exact kept.symm

theorem trim_of_trim (text : Text) : trim (trim text) = trim text :=
  (trim_of_trim_end (trimStart text)).trans (trim_of_trim_start text)

theorem trim_end_of_trim_end (text : Text) : trimEnd (trimEnd text) = trimEnd text := by
  obtain ⟨blanks, split, blank⟩ := trim_end_split text
  have kept := trim_end_append_of_blank (trimEnd text) blank
  rw [← split] at kept
  exact kept.symm

/-- Trimming takes nothing visible away. -/
theorem mem_trim_iff {c : Char} (shown : isBlank c = false) {text : Text} : c ∈ trim text ↔ c ∈ text := by
  refine ⟨fun member => (trim_inside text).subset member, fun member => ?_⟩
  obtain ⟨front, split, blank⟩ := trim_start_split text
  obtain ⟨back, splitToo, blankToo⟩ := trim_end_split (trimStart text)
  rw [split, List.mem_append, splitToo, List.mem_append] at member
  rcases member with before | inside | behind
  · rw [blank c before] at shown
    exact absurd shown (by decide)
  · exact inside
  · rw [blankToo c behind] at shown
    exact absurd shown (by decide)

theorem visible_trim {text : Text} (visible : ∃ c ∈ text, isBlank c = false) :
    ∃ c ∈ trim text, isBlank c = false := by
  obtain ⟨c, member, shown⟩ := visible
  exact ⟨c, (mem_trim_iff shown).mpr member, shown⟩

theorem trim_of_visible {text : Text} (visible : ∀ c ∈ text, isBlank c = false) : trim text = text := by
  have start : trimStart text = text := by
    cases text with
    | nil => rfl
    | cons c rest => exact trim_start_cons_visible (visible c List.mem_cons_self) rest
  rw [trim, start]
  rcases List.eq_nil_or_concat' text with rfl | ⟨front, last, rfl⟩
  · rfl
  · exact trim_end_concat_visible (visible last (by simp)) front

/-- A text that is trimmed and not empty has something visible in it. -/
theorem visible_of_trimmed {text : Text} (trimmed : trim text = text) (nonempty : text ≠ []) :
    ∃ c ∈ text, isBlank c = false := by
  by_contra none
  have blank : ∀ c ∈ text, isBlank c = true := fun c member => by
    simpa using fun shown => none ⟨c, member, shown⟩
  rw [trim, trim_start_of_blank blank] at trimmed
  exact nonempty trimmed.symm

theorem trim_eq_nil_iff {text : Text} : trim text = [] ↔ ∀ c ∈ text, isBlank c = true := by
  constructor
  · intro empty
    by_contra visible
    obtain ⟨c, member, _⟩ := visible_trim (by simpa using visible)
    rw [empty] at member
    exact List.not_mem_nil member
  · intro blank
    rw [trim, trim_start_of_blank blank]
    rfl

end Wikidown
