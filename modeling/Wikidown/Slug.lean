import Wikidown.Slug.Reference
import Wikidown.Slug.Transliteration
import Wikidown.Text.Lines

/-!
Slugs name the files of pages: the words of a title in lower case, of ASCII letters and digits,
with a hyphen between each two.
-/

namespace Wikidown

set_option autoImplicit false

namespace Slug

/-- A comma between two digits groups them and is left out. -/
def withoutGrouping : Text → Text
  | before :: ',' :: after :: rest =>
      if isDigit before && isDigit after then before :: withoutGrouping (after :: rest)
      else before :: ',' :: withoutGrouping (after :: rest)
  | c :: rest => c :: withoutGrouping rest
  | [] => []

/-- The runs of letters and digits of a text. -/
def words (text : Text) : List Text :=
  (pieces '-' (text.map fun c => if c.isAlphanum then c else '-')).filter fun word => !word.isEmpty

/-- The title with hyphens for apostrophes, in ASCII, and with its character references read. -/
def readable (title : Text) : Text :=
  let hyphenated := title.map fun c => if c = '\x27' then '-' else c
  decodeReferences (hyphenated.flatMap transliterate)

end Slug

/-- The slug of a title; it is empty if the title has no letter and no digit. -/
def slugify (title : Text) : Text :=
  let plain := (Slug.readable title).flatMap fun c => (Slug.decompose c).map Char.toLower
  joined '-' (Slug.words (Slug.withoutGrouping (plain.filter (· != '\x27'))))

end Wikidown
