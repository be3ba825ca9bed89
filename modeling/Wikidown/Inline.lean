import Wikidown.Text.Blank
import Wikidown.Text.Substitution

/-!
The inline notation: emphasis, links, colours and embedded files inside a paragraph, a heading, a
table row or a list item. The rules run one after another over the whole text. Escaping `<` stays
at the top, because the colour rule writes a tag of its own.
-/

namespace Wikidown.Inline

set_option autoImplicit false

/-- A marked span, padded so that its marks stand free of the words around it. -/
def marked (mark inner : Text) : Text := ' ' :: (mark ++ trim inner ++ mark ++ [' '])

def link (label target : Text) : Text := '[' :: (trim label ++ "](".toList ++ target ++ [')'])

def image (name : Text) : Text := "![".toList ++ name ++ [']']

def attachment (label target : Text) : Text := '[' :: (label ++ "][".toList ++ target ++ [']'])

/-- A coloured span; Markdown has no colours, so it is written as a tag. -/
def colored (color inner : Text) : Text :=
  "<span style=\x22color: ".toList ++ color ++ ";\x22>".toList ++ inner ++ "</span>".toList

/-- The coloured words: blanks may stand before the brace that opens them. -/
def colorBody? (text : Text) : Option (Text × Text) :=
  (after? "\x7b".toList (trimStart text)).bind (upTo? (after? "\x7d".toList))

/-- The colour name and the coloured words; the name ends at the first parenthesis of the line that
such words follow. -/
def colorSpan? (text : Text) : Option (Text × Text × Text) :=
  upTo? (fun tail => (after? ")".toList tail).bind colorBody?) text

theorem color_body_length {text inner rest : Text}
    (found : colorBody? text = some (inner, rest)) : rest.length ≤ text.length := by
  obtain ⟨tail, brace, closed⟩ := Option.bind_eq_some_iff.mp found
  obtain ⟨ending, rfl, last⟩ := up_to_found closed
  have blanks : (trimStart text).length ≤ text.length := (List.dropWhile_suffix isBlank).length_le
  have front := after_length brace
  have back := after_length last
  simp only [List.length_append] at front
  omega

/-- The colour notation at the front of a text; its name is read in either case. -/
def colorStep? (text : Text) : Option (Text × Text) :=
  ((afterAnyCase? "&color(".toList text).bind colorSpan?).map fun (color, inner, rest) =>
    (colored color inner, rest)

theorem color_step_length {text written rest : Text}
    (found : colorStep? text = some (written, rest)) : rest.length < text.length := by
  simp only [colorStep?, Option.map_eq_some_iff, Prod.mk.injEq] at found
  obtain ⟨⟨color, inner, tail⟩, span, _, rfl⟩ := found
  obtain ⟨body, name, read⟩ := Option.bind_eq_some_iff.mp span
  obtain ⟨ending, rfl, closed⟩ := up_to_found read
  obtain ⟨words, parenthesis, finished⟩ := Option.bind_eq_some_iff.mp closed
  have size := after_any_case_length name
  have front := after_length parenthesis
  have back : tail.length ≤ words.length := color_body_length finished
  have opening : ("&color(".toList).length = 7 := rfl
  simp only [List.length_append] at size
  show tail.length < text.length
  omega

def colorRule : Substitution := ⟨colorStep?, color_step_length⟩

def rules : List Substitution :=
  [ -- a tag is shown as it was written
    .enclosed "<".toList ">".toList fun inner => "&lt;".toList ++ inner ++ "&gt;".toList,
    .literal "<".toList "&lt;".toList,
    -- strong comes before emphasis: its mark is a pair of the other one
    .enclosed "''".toList "''".toList (marked "**".toList),
    .enclosed "'".toList "'".toList (marked "*".toList),
    .enclosed "%%".toList "%%".toList (marked "~~".toList),
    .pair "[[".toList (fun c => c == ':' || c == '>') "]]".toList link,
    colorRule,
    .enclosed "#image(".toList ")".toList image,
    .enclosed "#thumbnail(".toList ")".toList image,
    .pair "#attach(".toList (· == ':') ")".toList attachment,
    -- the marks above pad themselves
    .literal "  ".toList " ".toList ]

/-- Convert the inline notation of a text. -/
def convert (text : Text) : Text := Substitution.applyAll rules text

/-- The text after each of the rules. -/
def steps (text : Text) : List Text :=
  (rules.foldl
    (fun (current, seen) rule => (rule.apply current, rule.apply current :: seen))
    (text, [])).2.reverse

end Wikidown.Inline
