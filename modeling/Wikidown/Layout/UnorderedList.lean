import Wikidown.Inline
import Wikidown.Text.Lines

/-!
Unordered lists and horizontal rules: a line that begins with dashes is an item of the level that
they count, or a rule if nothing follows them.
-/

namespace Wikidown.Layout

set_option autoImplicit false

def unorderedItem (line : Line) : Line :=
  let level := (line.takeWhile (· == '-')).length
  let content := line.dropWhile (· == '-')
  if level = 0 || content.isEmpty then line
  else List.replicate (4 * (level - 1)) ' ' ++ "- ".toList ++ trim (Inline.convert content)

end Wikidown.Layout
