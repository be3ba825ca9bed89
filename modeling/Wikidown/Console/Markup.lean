import Wikidown.Console.Emoji

/-!
The markup of messages. A tag in brackets sets the style of the words after it, or ends a style; it
begins with a small letter, a number sign, a slash or an at sign. After a backslash a tag stands for
its own text, and two backslashes before it stand for one. Other brackets are plain text.
-/

namespace Wikidown.Markup

set_option autoImplicit false

/-- A part of a message: plain text, or a tag with the number of backslashes before it. -/
inductive Part where
  | plain (text : Text)
  | tag (backslashes : Nat) (text : Text)
deriving DecidableEq, Repr

def isTagStart (c : Char) : Bool := ('a' ≤ c && c ≤ 'z') || c == '#' || c == '/' || c == '@'

def isBracket (c : Char) : Bool := c == '[' || c == ']'

/-- The tag that `text` begins with, and what follows it. -/
def readTag? : (text : Text) → Option (Text × Text)
  | '[' :: c :: text =>
      if isTagStart c then
        (after? "]".toList (text.dropWhile (!isBracket ·))).map fun rest =>
          ('[' :: c :: text.takeWhile (!isBracket ·) ++ [']'], rest)
      else none
  | _ => none

theorem read_tag_length {text tag rest : Text} (found : readTag? text = some (tag, rest)) :
    rest.length < text.length := by
  unfold readTag? at found
  split at found
  · next c text =>
      split at found
      · simp only [Option.map_eq_some_iff, Prod.mk.injEq] at found
        obtain ⟨tail, closed, _, rfl⟩ := found
        have size := after_length closed
        have bound := (List.dropWhile_suffix (l := text) (!isBracket ·)).length_le
        simp only [List.length_cons]
        omega
      · simp at found
  · simp at found

def isBackslash (c : Char) : Bool := c == '\\'

/-- One more character of plain text before other parts. -/
def consPlain (c : Char) : List Part → List Part
  | .plain text :: more => .plain (c :: text) :: more
  | more => .plain [c] :: more

/-- The parts of a message. -/
def parts : Text → List Part
  | [] => []
  | c :: text =>
      match _ : readTag? ((c :: text).dropWhile isBackslash) with
      | some (tag, rest) => .tag ((c :: text).takeWhile isBackslash).length tag :: parts rest
      | none => consPlain c (parts text)
termination_by text => text.length
decreasing_by
  · have step := read_tag_length ‹readTag? _ = some (tag, rest)›
    have bound := (List.dropWhile_suffix (l := c :: text) isBackslash).length_le
    omega
  · simp

/-- A part whose tag stands for its own text. -/
def Part.escaped : Part → Text
  | .plain text => text
  | .tag backslashes text => List.replicate (2 * backslashes + 1) '\\' ++ text

/-- A text as markup. A single backslash at its end is doubled, in case a tag comes next. -/
def escape (text : Text) : Text :=
  let marked := (parts text).flatMap Part.escaped
  if endsWith "\\".toList marked && !endsWith "\\\\".toList marked then marked ++ "\\".toList
  else marked

/-- The controls that messages are shown without: bell, backspace, vertical tab, form feed and
carriage return. -/
def isControl (c : Char) : Bool := [0x07, 0x08, 0x0B, 0x0C, 0x0D].contains c.toNat

/-- A stretch of text as it is shown. -/
def shownText (text : Text) : Text := (Emoji.rule.apply text).filter (!isControl ·)

/-- A part as it is shown, without its style. In plain text a backslash before a bracket is left
out. -/
def Part.shown : Part → Text
  | .plain text => shownText ((Substitution.literal "\\[".toList "[".toList).apply text)
  | .tag backslashes text =>
      List.replicate (backslashes / 2) '\\' ++ if backslashes % 2 = 1 then shownText text else []

/-- A message as it is shown, without styles. -/
def shown (message : Text) : Text := (parts message).flatMap Part.shown

/-- Words in a style. -/
def styled (style : String) (content : Text) : Text :=
  '[' :: style.toList ++ ']' :: content ++ "[/".toList ++ style.toList ++ [']']

/-- The words that a report of a failure begins with. -/
def alarm (words : String) : Text := styled "bold red" (words ++ ":").toList ++ [' ']

end Wikidown.Markup
