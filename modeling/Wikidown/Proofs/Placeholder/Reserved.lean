import Mathlib.Data.Bool.AllAny
import Wikidown.Layout.Table
import Wikidown.Placeholder
import Wikidown.Proofs.Text.Lines

/-!
# Texts without the word of the placeholders

A placeholder is found again because no text around it contains what placeholders begin with. An
empty header of a table leaves characters out, so as long as such a header may be written a text
must lack the word without those characters too. The same holds of every word that no rule of a
conversion writes, such as a placeholder with a number of its own or a carriage return.
-/

namespace Wikidown

set_option autoImplicit false

open Layout

/-- What every placeholder begins with. -/
def mark : Text := "\x7b\x7bBACKLOG2MD_".toList

/-- The word in every placeholder. -/
def reservedWord : Text := "BACKLOG2MD_".toList

/-- The words that tell placeholders from other text. -/
inductive Reserved : Text → Prop
  | opening : Reserved mark
  | label : Reserved reservedWord

/-- What the headers of tables may show of a text: all of it where the first row is promoted, else
what the empty headers leave. -/
def visible (promoteFirstRow : Bool) (text : Text) : Text :=
  if promoteFirstRow then text else Table.emptyHeader text

/-- A text that lacks the mark; the header which its last line gets shows one. -/
def assembledPlaceholder : Text :=
  "\x7bcode\x7d\nx\n\x7b/code\x7d\n\n|:\x7b:\x7bBACKLOG2MD_CODE-0\x7d\x7d".toList

def Lacks (promoteFirstRow : Bool) (word text : Text) : Prop :=
  ¬ word <:+: visible promoteFirstRow text

/-- The characters of the words that are followed through a conversion: those of placeholders, with
the digits of every script, and the carriage return. -/
def isTraced (c : Char) : Bool := isDigit c || c.isUpper || "\x7b\x7d_-\r".toList.contains c

/-- The traced characters that no rule writes. -/
def anchors : Text := ['_', '\r']

/-- A word that no rule of a conversion writes: it is made of traced characters, one of them an
anchor, and neither the dashes that an empty header leaves out before it nor the number of an item
behind it complete it. -/
structure Traced (word : Text) : Prop where
  letters : ∀ c ∈ word, isTraced c = true
  anchored : ∃ c ∈ word, anchors.contains c = true
  starts : word.head? ≠ some '-'
  ends : ∀ c, word.getLast? = some c → c.isDigit = false

/-- Whether a character stands in no traced word, and an empty header keeps it and what is before it
apart from what is behind it. -/
def separates (c : Char) : Bool := !isTraced c && c != ':'

namespace Traced

variable {word : Text}

/-- The underscore at the end of a word is its anchor. -/
theorem of_underscore (letters : word.all isTraced = true) (starts : word.head? ≠ some '-')
    (last : word.getLast? = some '_') : Traced word where
  letters := List.all_eq_true.mp letters
  anchored := ⟨'_', List.mem_of_getLast? last, by decide⟩
  starts := starts
  ends c found := by
    obtain rfl : '_' = c := Option.some.inj (last.symm.trans found)
    decide

theorem opening : Traced mark := of_underscore (by decide) (by decide) (by decide)

theorem label : Traced reservedWord := of_underscore (by decide) (by decide) (by decide)

theorem ne_nil (traced : Traced word) : word ≠ [] := by
  obtain ⟨c, member, _⟩ := traced.anchored
  exact List.ne_nil_of_mem member

theorem no_colon (traced : Traced word) : ':' ∉ word :=
  fun member => absurd (traced.letters ':' member) (by decide)

theorem not_mem (traced : Traced word) {c : Char} (apart : separates c = true) : c ∉ word := by
  intro member
  rw [separates, traced.letters c member] at apart
  simp at apart

end Traced

theorem Reserved.traced {word : Text} (reserved : Reserved word) : Traced word := by
  cases reserved
  · exact .opening
  · exact .label

section EmptyHeader

variable (promote : Bool)

theorem empty_header_colon (text : Text) :
    Table.emptyHeader (':' :: text) = Table.emptyHeader (text.dropWhile (· == '-')) := by
  rw [Table.emptyHeader, if_pos rfl]

theorem empty_header_cons {c : Char} (kept : c ≠ ':') (text : Text) :
    Table.emptyHeader (c :: text) = c :: Table.emptyHeader text := by
  rw [Table.emptyHeader, if_neg kept]

theorem empty_header_append (front back : Text) :
    ∃ kept, (kept = back ∨ kept = back.dropWhile (· == '-')) ∧
      Table.emptyHeader (front ++ back) = Table.emptyHeader front ++ Table.emptyHeader kept := by
  induction size : front.length using Nat.strong_induction_on generalizing front with
  | _ size ih =>
      cases front with
      | nil => exact ⟨back, .inl rfl, by simp [Table.emptyHeader]⟩
      | cons c front =>
          by_cases colon : c = ':'
          · subst colon
            rw [List.cons_append, empty_header_colon, empty_header_colon, List.dropWhile_append]
            split
            · next dashes =>
                refine ⟨back.dropWhile (· == '-'), .inr rfl, ?_⟩
                rw [List.isEmpty_iff.mp dashes, Table.emptyHeader]
                rfl
            · have bound := (List.dropWhile_suffix (l := front) (· == '-')).length_le
              exact ih _ (by simp at size; omega) (front.dropWhile (· == '-')) rfl
          · obtain ⟨kept, choice, shape⟩ := ih front.length (by simp [← size]) front rfl
            refine ⟨kept, choice, ?_⟩
            rw [List.cons_append, empty_header_cons colon, empty_header_cons colon, shape,
              List.cons_append]

theorem visible_append (front back : Text) :
    ∃ kept, (kept = back ∨ kept = back.dropWhile (· == '-')) ∧
      visible promote (front ++ back) = visible promote front ++ visible promote kept := by
  cases promote with
  | true => exact ⟨back, .inl rfl, rfl⟩
  | false => exact empty_header_append front back

theorem visible_cons {c : Char} (kept : c ≠ ':') (text : Text) :
    visible promote (c :: text) = c :: visible promote text := by
  cases promote with
  | true => rfl
  | false => exact empty_header_cons kept text

theorem visible_append_cons {c : Char} (kept : c ≠ ':') (dash : c ≠ '-') (front back : Text) :
    visible promote (front ++ c :: back) = visible promote front ++ c :: visible promote back := by
  obtain ⟨rest, choice, shape⟩ := visible_append promote front (c :: back)
  have same : rest = c :: back := by
    rcases choice with rfl | rfl
    · rfl
    · simp [dash]
  rw [shape, same, visible_cons promote kept]

/-- An empty header keeps a text without colons. -/
theorem visible_of_no_colon {text : Text} (plain : ':' ∉ text) : visible promote text = text := by
  induction text with
  | nil => cases promote <;> simp [visible, Table.emptyHeader]
  | cons c text ih =>
      rw [List.mem_cons, not_or] at plain
      rw [visible_cons promote (Ne.symm plain.1), ih plain.2]

end EmptyHeader

namespace Lacks

variable {promote : Bool} {word front back text part : Text} {c : Char}

theorem nil (traced : Traced word) : Lacks promote word [] := by
  rw [Lacks, visible_of_no_colon promote (by simp), List.infix_nil]
  exact traced.ne_nil

theorem left (lacks : Lacks promote word (front ++ back)) : Lacks promote word front := by
  obtain ⟨kept, _, shape⟩ := visible_append promote front back
  rw [Lacks, shape] at lacks
  exact fun inside => lacks (List.infix_append_of_infix_left inside)

/-- No traced word begins with a dash, so dashes at the front of a text hide none. -/
theorem infix_drop_dashes (traced : Traced word) (inside : word <:+: visible promote text) :
    word <:+: visible promote (text.dropWhile (· == '-')) := by
  induction text with
  | nil => exact inside
  | cons c text ih =>
      by_cases dash : c = '-'
      · subst dash
        rw [visible_cons promote (by decide)] at inside
        have later : word <:+: visible promote text := by
          refine (List.infix_cons_iff.mp inside).resolve_left fun starts => traced.starts ?_
          obtain ⟨rest, shape⟩ := starts
          cases word with
          | nil => exact absurd rfl traced.ne_nil
          | cons d word => exact congrArg some (List.cons.inj shape).1
        simpa using ih later
      · simpa [dash] using inside

theorem right (traced : Traced word) (lacks : Lacks promote word (front ++ back)) :
    Lacks promote word back := by
  obtain ⟨kept, choice, shape⟩ := visible_append promote front back
  rw [Lacks, shape] at lacks
  intro inside
  rcases choice with rfl | rfl
  · exact lacks (List.infix_append_of_infix_right inside)
  · exact lacks (List.infix_append_of_infix_right (infix_drop_dashes traced inside))

theorem of_inside (traced : Traced word) (lacks : Lacks promote word text)
    (inside : part <:+: text) : Lacks promote word part := by
  obtain ⟨front, back, rfl⟩ := inside
  exact right traced (left lacks)

theorem across_iff (nonempty : word ≠ []) (other : c ∉ word) (colon : c ≠ ':') (dash : c ≠ '-') :
    Lacks promote word (front ++ c :: back) ↔
      Lacks promote word front ∧ Lacks promote word back := by
  rw [Lacks, visible_append_cons promote colon dash, infix_across nonempty other, not_or]
  rfl

theorem between_iff (traced : Traced word) (apart : separates c = true) :
    Lacks promote word (front ++ c :: back) ↔
      Lacks promote word front ∧ Lacks promote word back := by
  have kept : c ≠ ':' ∧ c ≠ '-' := by
    constructor <;> rintro rfl <;> exact absurd apart (by decide)
  exact across_iff traced.ne_nil (traced.not_mem apart) kept.1 kept.2

theorem cons_iff (traced : Traced word) (apart : separates c = true) :
    Lacks promote word (c :: text) ↔ Lacks promote word text := by
  have split := @between_iff promote word [] text c traced apart
  rw [List.nil_append] at split
  rw [split, and_iff_right (nil traced)]

/-- A text lacks a word that none of its lines has. -/
theorem unlines_iff (traced : Traced word) {content : List Line} :
    Lacks promote word (unlines content) ↔ ∀ line ∈ content, Lacks promote word line := by
  induction content with
  | nil => exact iff_of_true (nil traced) (by simp)
  | cons line content ih =>
      rw [List.forall_mem_cons]
      by_cases single : content = []
      · simp [single, unlines_singleton]
      · rw [unlines_cons single, between_iff traced (by decide), ih]

theorem of_separates (traced : Traced word) (apart : text.all separates = true) :
    Lacks promote word text := by
  induction text with
  | nil => exact nil traced
  | cons c text ih =>
      simp only [List.all_cons, Bool.and_eq_true] at apart
      exact (cons_iff traced apart.1).mpr (ih apart.2)

theorem mem_visible (member : c ∈ visible promote text) : c ∈ text := by
  cases promote with
  | true => exact member
  | false =>
      induction size : text.length using Nat.strong_induction_on generalizing text with
      | _ size ih =>
          cases text with
          | nil => simp [visible, Table.emptyHeader] at member
          | cons d text =>
              by_cases colon : d = ':'
              · subst colon
                rw [visible, if_neg (by decide), empty_header_colon] at member
                have suffix := List.dropWhile_suffix (l := text) (· == '-')
                have bound := suffix.length_le
                have inside := ih (text.dropWhile (· == '-')).length
                  (by simp only [List.length_cons] at size; omega) member rfl
                exact List.mem_cons_of_mem _ (suffix.subset inside)
              · rw [visible_cons false colon, List.mem_cons] at member
                rcases member with rfl | later
                · exact List.mem_cons_self
                · exact List.mem_cons_of_mem _ (ih text.length (by simp [← size]) later rfl)

theorem of_disjoint (traced : Traced word) (disjoint : ∀ c ∈ text, anchors.contains c = false) :
    Lacks promote word text := by
  intro inside
  obtain ⟨c, member, anchor⟩ := traced.anchored
  rw [disjoint c (mem_visible (inside.subset member))] at anchor
  exact absurd anchor (by decide)

/-- A text that lacks a word without the characters which empty headers leave out lacks it with them
as well. -/
theorem promoted (traced : Traced word) (lacks : Lacks promote word text) :
    Lacks true word text := by
  rintro ⟨front, back, shape⟩
  have same : front ++ (word ++ back) = text := by
    rw [← List.append_assoc]
    exact shape
  subst same
  refine (right traced lacks).left ?_
  rw [visible_of_no_colon promote traced.no_colon]

/-- A text without the label of placeholders has none of their openings. -/
theorem opening (reserved : Reserved word) (lacks : Lacks true word text) : Lacks true mark text := by
  have inside : word <:+: mark := by
    cases reserved
    · exact List.infix_rfl
    · exact ⟨"\x7b\x7b".toList, [], rfl⟩
  exact fun marked => lacks (inside.trans marked)

/-- Digits complete no traced word. -/
theorem append_digits (traced : Traced word) {digits : Text}
    (numeral : ∀ d ∈ digits, d.isDigit = true) (lacks : Lacks promote word text) :
    Lacks promote word (text ++ digits) := by
  obtain ⟨stem, last, rfl⟩ : ∃ stem last, word = stem ++ [last] :=
    ⟨_, _, (List.dropLast_concat_getLast traced.ne_nil).symm⟩
  have other : last ∉ digits := fun member =>
    absurd (numeral last member) (by simp [traced.ends last (by simp)])
  have noColon : ':' ∉ digits := fun member => absurd (numeral _ member) (by decide)
  have noDash : digits.dropWhile (· == '-') = digits := by
    cases digits with
    | nil => rfl
    | cons d digits =>
        have other : d ≠ '-' := by
          rintro rfl
          exact absurd (numeral '-' (by simp)) (by decide)
        simp [other]
  obtain ⟨kept, choice, shape⟩ := visible_append promote text digits
  have same : kept = digits := by
    rcases choice with rfl | rfl
    · rfl
    · exact noDash
  rw [Lacks, shape, same, visible_of_no_colon promote noColon]
  intro inside
  rcases List.infix_append_iff.mp inside with here | later | ⟨first, second, split, ends, starts⟩
  · exact lacks here
  · exact absurd (later.subset (by simp)) other
  · rcases List.eq_nil_or_concat second with rfl | ⟨second, closing, rfl⟩
    · rw [List.append_nil] at split
      exact lacks (split ▸ ends.isInfix)
    · rw [List.concat_eq_append, ← List.append_assoc] at split
      obtain rfl : last = closing := List.singleton_inj.mp (List.append_inj_right' split rfl)
      exact absurd (starts.subset (by simp)) other

end Lacks

/-- What may be written between any two texts that lack a word. -/
def Stands (promote : Bool) (word text : Text) : Prop :=
  ∀ front back, Lacks promote word front → Lacks promote word back →
    Lacks promote word (front ++ text ++ back)

namespace Stands

variable {promote : Bool} {word text inner : Text}

theorem of_separates (traced : Traced word) (nonempty : text ≠ [])
    (apart : text.all separates = true) : Stands promote word text := by
  intro front back lacksFront lacksBack
  obtain ⟨c, text, rfl⟩ := List.exists_cons_of_ne_nil nonempty
  simp only [List.all_cons, Bool.and_eq_true] at apart
  rw [List.append_assoc, List.cons_append, Lacks.between_iff traced apart.1]
  refine ⟨lacksFront, ?_⟩
  induction text with
  | nil => exact lacksBack
  | cons d text ih =>
      simp only [List.all_cons, Bool.and_eq_true] at apart
      exact (Lacks.cons_iff traced apart.2.1).mpr
        (ih (by simp) ⟨apart.1, apart.2.2⟩)

/-- A text that lacks the word, between two texts that stand anywhere. -/
theorem around {opening closing : Text} (opens : Stands promote word opening) (closes : Stands promote word closing)
    (lacks : Lacks promote word inner) : Stands promote word (opening ++ inner ++ closing) := by
  intro front back lacksFront lacksBack
  have behind : Lacks promote word (inner ++ closing ++ back) := closes inner back lacks lacksBack
  have whole := opens front (inner ++ closing ++ back) lacksFront behind
  simpa using whole

end Stands

end Wikidown
