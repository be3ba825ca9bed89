import Wikidown.Inline
import Wikidown.Placeholder
import Wikidown.Text.Lines
import Wikidown.Text.Number

/-!
Restoring writes each part in the place of its placeholder: code between fences, a quote with a mark
before each line, a paragraph with its inline notation converted. Text that only looks like a
placeholder stays as it is.
-/

namespace Wikidown

set_option autoImplicit false

/-- The digits of the placeholder that `text` begins with, and what follows the placeholder. -/
def readToken? (kind : Kind) (text : Text) : Option (Text × Text) :=
  (after? kind.opening text).bind fun tail =>
    if (tail.takeWhile isDigit).isEmpty then none
    else (after? tokenClosing (tail.dropWhile isDigit)).map fun rest =>
      (tail.takeWhile isDigit, rest)

theorem read_token_length {kind : Kind} {text digits rest : Text}
    (found : readToken? kind text = some (digits, rest)) : rest.length < text.length := by
  obtain ⟨tail, front, more⟩ := Option.bind_eq_some_iff.mp found
  split at more
  · simp at more
  · simp only [Option.map_eq_some_iff, Prod.mk.injEq] at more
    obtain ⟨_, closed, _, rfl⟩ := more
    have size := after_length front
    have back := after_length closed
    have digitsLe : (tail.dropWhile isDigit).length ≤ tail.length :=
      (List.dropWhile_suffix isDigit).length_le
    have closing : tokenClosing.length = 2 := rfl
    omega

/-- A blank line that stands at one side of a placeholder is not doubled by the line feed which the
rendered part has there. `written` is the text before the placeholder, last character first. -/
def withoutDoubledBlank (written rest rendered : Text) : Text :=
  let started :=
    if startsWith "\n\n".toList written then (after? "\n".toList rendered).getD rendered
    else rendered
  if startsWith "\n\n".toList rest then (before? "\n".toList started).getD started else started

/-- Write each part of `parts` in the place of its placeholder. `written` is the text so far, last
character first. -/
def restoreFrom (kind : Kind) (parts : List Text) (render : Text → Except NumberTooLong Text)
    (written : Text) : Text → Except NumberTooLong Text
  | [] => .ok written.reverse
  | c :: text =>
      match _ : readToken? kind (c :: text) with
      | none => restoreFrom kind parts render (c :: written) text
      | some (digits, rest) => do
          let index ← boundedNumber digits
          match parts[index]? with
          | none =>
              let kept := kind.opening ++ digits ++ tokenClosing
              restoreFrom kind parts render (kept.reverse ++ written) rest
          | some part =>
              let rendered ← render part
              let fitted := withoutDoubledBlank written rest rendered
              restoreFrom kind parts render (fitted.reverse ++ written) rest
termination_by text => text.length
decreasing_by
  · simp
  · exact read_token_length ‹readToken? kind (c :: text) = some (digits, rest)›
  · exact read_token_length ‹readToken? kind (c :: text) = some (digits, rest)›

def restore (kind : Kind) (parts : List Text) (render : Text → Except NumberTooLong Text)
    (text : Text) : Except NumberTooLong Text :=
  restoreFrom kind parts render [] text

/-- The mark of a line that opens or closes a code block. -/
def fence : Text := "\x60\x60\x60".toList

/-- A code block: the content as it is, between two fences. -/
def renderCode (content : Text) : Text :=
  match trim content with
  | [] => unlines [[], fence, fence, []]
  | body => unlines [[], fence, body, fence, []]

/-- A quote: each line behind a mark, with the code in it restored first. -/
def renderQuote (store : Store) (content : Text) : Except NumberTooLong Text := do
  let body ← restore .code store.code (fun code => .ok (renderCode code))
    (Inline.convert (trim content))
  return unlines ([[]] ++ (lines body).map ("> ".toList ++ ·) ++ [[]])

def renderParagraph (content : Text) : Text := Inline.convert (trim content)

/-- Restore the parts of all kinds: code, then quotes, then paragraphs. -/
def restoreAll (store : Store) (text : Text) : Except NumberTooLong Text := do
  let withCode ← restore .code store.code (fun code => .ok (renderCode code)) text
  let withQuotes ← restore .quote store.quote (renderQuote store) withCode
  restore .paragraph store.paragraph (fun paragraph => .ok (renderParagraph paragraph)) withQuotes

end Wikidown
