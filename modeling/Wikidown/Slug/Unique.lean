import Wikidown.Text.Digit

/-!
Unique slugs: a title whose slug is taken gets the first free one with a number behind it. How slugs
are made of titles is left open here.
-/

namespace Wikidown

set_option autoImplicit false

/-- The slug that a title would have if none were taken. -/
def baseSlug (slugOf : Text → Text) (title : Text) : Text :=
  match slugOf title with
  | [] => "untitled".toList
  | slug => slug

def numberedSlug (base : Text) (number : Nat) : Text := base ++ '-' :: decimalText number

/-- The first free slug of a title. Among the base and as many numbers as there are slugs in
`taken`, one is free. -/
def uniqueSlug (slugOf : Text → Text) (title : Text) (taken : List Text) : Text :=
  let base := baseSlug slugOf title
  let candidates := base :: (List.range taken.length).map fun index => numberedSlug base (index + 1)
  (candidates.find? fun slug => !taken.contains slug).getD base

/-- The slugs of several titles, each of them taken for the titles after it. -/
def uniqueSlugs (slugOf : Text → Text) : (titles taken : List Text) → List Text
  | [], _ => []
  | title :: rest, taken =>
      let slug := uniqueSlug slugOf title taken
      slug :: uniqueSlugs slugOf rest (slug :: taken)

end Wikidown
