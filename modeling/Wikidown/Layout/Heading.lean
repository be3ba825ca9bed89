import Wikidown.Inline
import Wikidown.Text.Lines

/-!
Headings: a line that begins with stars is a heading of the level that they count. It stands
between blank lines.
-/

namespace Wikidown.Layout

set_option autoImplicit false

def heading (line : Line) : List Line :=
  match line.takeWhile (· == '*') with
  | [] => [line]
  | markers =>
      let title := Inline.convert (trim (line.dropWhile (· == '*')))
      [[], List.replicate markers.length '#' ++ ' ' :: title, []]

end Wikidown.Layout
