import Wikidown.Text.Digit
import Wikidown.Text.Substitution

/-!
Line breaks inside a line, and the ampersands that begin no character reference.
-/

namespace Wikidown.Layout

set_option autoImplicit false

def lineBreakRule : Substitution := .literal "&br;".toList " <br>".toList

/-- Whether `text` begins with characters that `test` accepts, at least one, and a semicolon. -/
def someThenSemicolon (test : Char → Bool) (text : Text) : Bool :=
  !(text.takeWhile test).isEmpty && startsWith ";".toList (text.dropWhile test)

/-- Whether an ampersand before `text` begins a character reference: by name, by decimal or by
hexadecimal number. -/
def isReferenceTail (text : Text) : Bool :=
  someThenSemicolon Char.isAlpha text ||
    match text with
    | '#' :: c :: rest =>
        someThenSemicolon isDigit (c :: rest) ||
          ((c == 'x' || c == 'X') && someThenSemicolon isHexDigit rest)
    | _ => false

def ampersandRule : Substitution :=
  .opened "&".toList
    (fun text => if isReferenceTail text then none else some ("&amp;".toList, text))
    (by decide)
    (by
      intro text written rest found
      split at found
      · simp at found
      · simp_all)

end Wikidown.Layout
