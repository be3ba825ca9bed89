import Wikidown.Text.Digit
import Wikidown.Text.Shapeless

/-!
Texts in quotation marks, for messages. Characters that have no shape of their own, and those that
would end the quotation, are written as escapes.
-/

namespace Wikidown

set_option autoImplicit false

/-- The mark around a text: the double one only around a text that holds the single one alone. -/
def quotationMark (text : Text) : Char :=
  if text.contains '\x27' && !text.contains '\x22' then '\x22' else '\x27'

/-- A character between two of the given marks. -/
def quotedChar (mark c : Char) : Text :=
  if c = mark || c = '\\' then ['\\', c]
  else if c = '\n' then "\\n".toList
  else if c = '\r' then "\\r".toList
  else if c = '\t' then "\\t".toList
  else if !isShapeless c then [c]
  else if c.toNat < 0x100 then "\\x".toList ++ hexText c.toNat 2
  else if c.toNat < 0x10000 then "\\u".toList ++ hexText c.toNat 4
  else "\\U".toList ++ hexText c.toNat 8

/-- A text in quotation marks. -/
def quoted (text : Text) : Text :=
  let mark := quotationMark text
  mark :: (text.flatMap (quotedChar mark) ++ [mark])

end Wikidown
