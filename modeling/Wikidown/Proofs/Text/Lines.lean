import Mathlib.Data.List.Infix
import Wikidown.Text.Lines

/-!
The algebra of lines. Cutting a text at a separator is the library's `splitOn` and putting it back
is `intercalate`; what the other modules use is how lines behave at a line feed.
-/

namespace Wikidown

set_option autoImplicit false

theorem pieces_eq_split_on (separator : Char) (text : Text) :
    pieces separator text = text.splitOn separator := by
  induction text with
  | nil => rfl
  | cons c text ih =>
      rw [List.splitOn_cons_eq_if_modifyHead, ← ih]
      by_cases same : c = separator
      · simp [pieces, same]
      · obtain ⟨piece, more, shape⟩ := List.exists_cons_of_ne_nil (pieces_ne_nil separator text)
        simp [pieces, same, shape]

theorem joined_eq_intercalate (separator : Char) (parts : List Text) :
    joined separator parts = [separator].intercalate parts := by
  induction parts with
  | nil => rfl
  | cons part more ih =>
      cases more with
      | nil => simp [joined, List.intercalate]
      | cons next more =>
          change part ++ separator :: joined separator (next :: more) = _
          rw [ih]
          simp [List.intercalate, List.intersperse]

theorem lines_ne_nil (text : Text) : lines text ≠ [] := pieces_ne_nil '\n' text

theorem unlines_lines (text : Text) : unlines (lines text) = text := joined_pieces '\n' text

theorem lines_nil : lines [] = [[]] := rfl

theorem unlines_singleton (line : Line) : unlines [line] = line := rfl

theorem pieces_append_separator (separator : Char) (front back : Text) :
    pieces separator (front ++ separator :: back) = pieces separator front ++ pieces separator back := by
  simp only [pieces_eq_split_on]
  exact List.splitOn_append_cons_self front back

theorem pieces_of_whole {separator : Char} {text : Text} (whole : separator ∉ text) :
    pieces separator text = [text] := by
  rw [pieces_eq_split_on]
  exact List.splitOn_eq_singleton whole

/-- Parts without the separator are the pieces of the text that they are joined to. -/
theorem pieces_joined {separator : Char} {parts : List Text} (nonempty : parts ≠ [])
    (whole : ∀ part ∈ parts, separator ∉ part) : pieces separator (joined separator parts) = parts := by
  rw [pieces_eq_split_on, joined_eq_intercalate]
  exact List.splitOn_intercalate separator whole nonempty

theorem lines_append_newline (front back : Text) :
    lines (front ++ '\n' :: back) = lines front ++ lines back := pieces_append_separator '\n' front back

theorem lines_cons_newline (text : Text) : lines ('\n' :: text) = [] :: lines text :=
  lines_append_newline [] text

theorem lines_of_no_newline {line : Line} (whole : '\n' ∉ line) : lines line = [line] :=
  pieces_of_whole whole

theorem lines_unlines {content : List Line} (nonempty : content ≠ [])
    (whole : ∀ line ∈ content, '\n' ∉ line) : lines (unlines content) = content :=
  pieces_joined nonempty whole

theorem unlines_cons_cons (line next : Line) (more : List Line) :
    unlines (line :: next :: more) = line ++ '\n' :: unlines (next :: more) := rfl

theorem unlines_cons {line : Line} {more : List Line} (nonempty : more ≠ []) :
    unlines (line :: more) = line ++ '\n' :: unlines more := joined_cons nonempty

theorem joined_cons_char (separator c : Char) (part : Text) (more : List Text) :
    joined separator ((c :: part) :: more) = c :: joined separator (part :: more) := by
  cases more <;> rfl

theorem unlines_cons_char (c : Char) (line : Line) (more : List Line) :
    unlines ((c :: line) :: more) = c :: unlines (line :: more) := joined_cons_char '\n' c line more

theorem joined_append {separator : Char} {front back : List Text} (someFront : front ≠ [])
    (someBack : back ≠ []) :
    joined separator (front ++ back) = joined separator front ++ separator :: joined separator back := by
  induction front with
  | nil => contradiction
  | cons part front ih =>
      by_cases single : front = []
      · rw [single, List.singleton_append, joined_cons someBack]
        rfl
      · rw [List.cons_append, joined_cons (by simp [single]), joined_cons single, ih single, List.append_assoc]
        rfl

theorem unlines_append {front back : List Line} (someFront : front ≠ []) (someBack : back ≠ []) :
    unlines (front ++ back) = unlines front ++ '\n' :: unlines back := joined_append someFront someBack

/-- What stands at the end of the last line stands at the end of the text. -/
theorem unlines_append_last (front : List Line) (line back : Line) :
    unlines (front ++ [line ++ back]) = unlines (front ++ [line]) ++ back := by
  by_cases single : front = []
  · subst single
    rfl
  · rw [unlines_append single (by simp), unlines_append single (by simp)]
    simp [unlines_singleton]

theorem mem_joined {separator : Char} {parts : List Text} {c : Char} (member : c ∈ joined separator parts) :
    c = separator ∨ ∃ part ∈ parts, c ∈ part := by
  induction parts with
  | nil => exact absurd member List.not_mem_nil
  | cons part parts ih =>
      by_cases single : parts = []
      · rw [single, joined] at member
        exact .inr ⟨part, List.mem_cons_self, member⟩
      · rw [joined_cons single, List.mem_append, List.mem_cons] at member
        rcases member with here | between | behind
        · exact .inr ⟨part, List.mem_cons_self, here⟩
        · exact .inl between
        · rcases ih behind with between | ⟨other, inside, here⟩
          · exact .inl between
          · exact .inr ⟨other, List.mem_cons_of_mem part inside, here⟩

theorem mem_joined_of_mem {separator : Char} {parts : List Text} {part : Text} {c : Char}
    (inside : part ∈ parts) (member : c ∈ part) : c ∈ joined separator parts := by
  induction parts with
  | nil => exact absurd inside List.not_mem_nil
  | cons first parts ih =>
      by_cases single : parts = []
      · rw [single, List.mem_singleton] at inside
        rwa [single, joined, ← inside]
      · rw [joined_cons single, List.mem_append, List.mem_cons]
        rcases List.mem_cons.mp inside with rfl | behind
        · exact .inl member
        · exact .inr (.inr (ih behind))

theorem mem_of_mem_piece {separator : Char} {text piece : Text} {c : Char}
    (inside : piece ∈ pieces separator text) (member : c ∈ piece) : c ∈ text := by
  rw [← joined_pieces separator text]
  exact mem_joined_of_mem inside member

theorem exists_mem_piece {separator c : Char} {text : Text} (member : c ∈ text) (other : c ≠ separator) :
    ∃ piece ∈ pieces separator text, c ∈ piece := by
  rw [← joined_pieces separator text] at member
  exact (mem_joined member).resolve_left other

theorem not_mem_unlines {content : List Line} {c : Char} (other : c ≠ '\n')
    (absent : ∀ line ∈ content, c ∉ line) : c ∉ unlines content := by
  intro member
  rcases mem_joined member with feed | ⟨line, inside, here⟩
  · exact other feed
  · exact absent line inside here

theorem not_mem_of_lines {text : Text} {c : Char} (other : c ≠ '\n') (absent : ∀ line ∈ lines text, c ∉ line) :
    c ∉ text := by
  rw [← unlines_lines text]
  exact not_mem_unlines other absent

theorem infix_of_mem_lines {text : Text} {line : Line} (member : line ∈ lines text) :
    line <:+: text := by
  obtain ⟨front, back, shape⟩ := List.append_of_mem member
  rw [← unlines_lines text, shape]
  by_cases noFront : front = []
  · by_cases noBack : back = []
    · simp [noFront, noBack, unlines_singleton]
    · rw [noFront, List.nil_append, unlines_cons noBack]
      exact List.infix_append_of_infix_left List.infix_rfl
  · rw [unlines_append noFront (by simp)]
    by_cases noBack : back = []
    · rw [noBack, unlines_singleton]
      exact (List.suffix_cons _ _).isInfix.trans (List.suffix_append _ _).isInfix
    · rw [unlines_cons noBack]
      exact ⟨unlines front ++ ['\n'], '\n' :: unlines back, by simp⟩

/-- A word goes not across a character that is none of its own. -/
theorem infix_across {word front back : Text} {c : Char} (nonempty : word ≠ []) (other : c ∉ word) :
    word <:+: front ++ c :: back ↔ word <:+: front ∨ word <:+: back := by
  constructor
  · intro inside
    rcases List.infix_append_iff.mp inside with here | later | ⟨first, second, rfl, ends, starts⟩
    · exact .inl here
    · rcases List.infix_cons_iff.mp later with starts | later
      · obtain ⟨d, word, rfl⟩ := List.exists_cons_of_ne_nil nonempty
        exact absurd (List.cons_prefix_cons.mp starts).1 fun same => other (by simp [same])
      · exact .inr later
    · cases second with
      | nil => exact .inl (by simpa using ends.isInfix)
      | cons d second =>
          exact absurd (List.cons_prefix_cons.mp starts).1 fun same => other (by simp [same])
  · rintro (here | later)
    · exact List.infix_append_of_infix_left here
    · exact List.infix_append_of_infix_right (List.infix_cons later)

/-- A word that stands in lines put together stands in one of them. -/
theorem infix_of_unlines {word : Text} {content : List Line} (nonempty : word ≠ []) (feed : '\n' ∉ word)
    (inside : word <:+: unlines content) : ∃ line ∈ content, word <:+: line := by
  induction content with
  | nil => exact absurd (List.infix_nil.mp inside) nonempty
  | cons line content ih =>
      by_cases single : content = []
      · exact ⟨line, List.mem_cons_self, by rwa [single, unlines_singleton] at inside⟩
      · rw [unlines_cons single, infix_across nonempty feed] at inside
        rcases inside with here | below
        · exact ⟨line, List.mem_cons_self, here⟩
        · obtain ⟨other, member, place⟩ := ih below
          exact ⟨other, List.mem_cons_of_mem line member, place⟩

/-- Texts that are put together with line feeds have the lines of all of them. -/
theorem lines_unlines_flatMap {texts : List Text} (nonempty : texts ≠ []) :
    lines (unlines texts) = texts.flatMap lines := by
  induction texts with
  | nil => contradiction
  | cons text texts ih =>
      cases texts with
      | nil => simp [unlines_singleton]
      | cons next texts =>
          rw [unlines_cons_cons, lines_append_newline, ih (by simp)]
          rfl

theorem flatMap_lines_of_whole {content : List Line} (whole : ∀ line ∈ content, '\n' ∉ line) :
    content.flatMap lines = content :=
  (List.flatMap_congr fun line member => lines_of_no_newline (whole line member)).trans
    ((List.flatMap_pure_eq_map id content).trans (List.map_id content))

theorem blank_lines_whole (count : Nat) : ∀ line ∈ List.replicate count ([] : Line), '\n' ∉ line := by
  intro line member
  rw [List.eq_of_mem_replicate member]
  exact List.not_mem_nil

theorem lines_cons {c : Char} {text : Text} {first : Line} {more : List Line} (visible : c ≠ '\n')
    (shape : lines text = first :: more) : lines (c :: text) = (c :: first) :: more := by
  simp only [lines, pieces, if_neg visible]
  rw [show pieces '\n' text = first :: more from shape]

theorem separator_not_mem_piece {separator : Char} {text piece : Text}
    (member : piece ∈ pieces separator text) : separator ∉ piece := by
  induction text generalizing piece with
  | nil =>
      rw [pieces, List.mem_singleton] at member
      simp [member]
  | cons c text ih =>
      rw [pieces] at member
      split at member
      · rcases List.mem_cons.mp member with rfl | behind
        · simp
        · exact ih behind
      · next other =>
        split at member
        · next empty => exact absurd empty (pieces_ne_nil separator text)
        · next first more shape =>
          rcases List.mem_cons.mp member with rfl | behind
          · rw [List.mem_cons, not_or]
            exact ⟨Ne.symm other, ih (shape ▸ List.mem_cons_self)⟩
          · exact ih (shape ▸ List.mem_cons_of_mem _ behind)

theorem no_newline_of_mem_lines {text : Text} {line : Line} (member : line ∈ lines text) :
    '\n' ∉ line := separator_not_mem_piece member

/-- A text without a line feed before another text stands at the front of its first line. -/
theorem lines_append {front text : Text} {first : Line} {more : List Line}
    (whole : '\n' ∉ front) (shape : lines text = first :: more) :
    lines (front ++ text) = (front ++ first) :: more := by
  induction front with
  | nil => exact shape
  | cons c front ih =>
      simp only [List.mem_cons, not_or] at whole
      exact lines_cons (Ne.symm whole.1) (ih whole.2)

theorem exists_last_line (text : Text) : ∃ first last, lines text = first ++ [last] := by
  obtain ⟨first, last, shape⟩ := List.eq_nil_or_concat (lines text) |>.resolve_left (lines_ne_nil text)
  exact ⟨first, last, by simpa using shape⟩

theorem last_line_suffix {text : Text} {first : List Line} {last : Line}
    (shape : lines text = first ++ [last]) : last <:+ text := by
  rw [← unlines_lines text, shape]
  by_cases single : first = []
  · simp [single, unlines_singleton]
  · rw [unlines_append single (by simp), unlines_singleton]
    exact (List.suffix_cons '\n' last).trans (List.suffix_append _ _)

/-- Where two texts meet, the last line of one and the first of the other are one line. -/
theorem lines_join {front back : Text} {first more : List Line} {last next : Line}
    (ends : lines front = first ++ [last]) (begins : lines back = next :: more) :
    lines (front ++ back) = first ++ (last ++ next) :: more := by
  have whole : '\n' ∉ last := @no_newline_of_mem_lines front last (by simp [ends])
  rw [← unlines_lines front, ends]
  by_cases single : first = []
  · rw [single, List.nil_append, unlines_singleton, lines_append whole begins]
    rfl
  · rw [unlines_append single (by simp), unlines_singleton, List.append_assoc, List.cons_append,
      lines_append_newline, lines_append whole begins, lines_unlines single]
    intro line member
    exact @no_newline_of_mem_lines front line (by simp [ends, member])

theorem unlines_map_lines (texts : List Text) (change : Text → Text)
    (nonempty : texts ≠ []) (shape : ∀ front back,
      change (front ++ '\n' :: back) = change front ++ '\n' :: change back) :
    change (unlines texts) = unlines (texts.map change) := by
  induction texts with
  | nil => contradiction
  | cons text texts ih =>
      cases texts with
      | nil => rfl
      | cons next texts =>
          rw [unlines_cons_cons, shape, ih (by simp)]
          rfl

theorem lines_replace_lines (render : Line → List Line) (text : Text)
    (nonempty : ∀ line, render line ≠ [])
    (whole : ∀ line, '\n' ∉ line → ∀ other ∈ render line, '\n' ∉ other) :
    lines (replaceLines render text) = (lines text).flatMap render := by
  refine lines_unlines ?_ ?_
  · intro empty
    obtain ⟨line, more, shape⟩ := List.exists_cons_of_ne_nil (lines_ne_nil text)
    rw [shape] at empty
    exact nonempty line (List.append_eq_nil_iff.mp empty).1
  · intro other member
    obtain ⟨line, inside, here⟩ := List.mem_flatMap.mp member
    exact whole line (no_newline_of_mem_lines inside) other here

end Wikidown
