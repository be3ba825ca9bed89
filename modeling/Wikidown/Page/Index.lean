import Wikidown.Text.Blank

/-!
The index of the pages that were converted together, and the page that the target of a link names.
-/

namespace Wikidown

set_option autoImplicit false

/-- The name of a page's file in the output directory. -/
def pageFile (slug : Text) : Text := slug ++ ".md".toList

namespace Page

/-- A page under the key by which links without its exact title find it. -/
structure Entry where
  key : Text
  slug : Text
  title : Text
deriving DecidableEq, Repr

/-- Pages in the order in which their keys came first. -/
abbrev Index := List Entry

namespace Index

/-- Put a page into the index; one with the same key gives up its place to it. -/
def insert (entry : Entry) : Index → Index
  | [] => [entry]
  | other :: rest =>
      if other.key = entry.key then entry :: rest else other :: insert entry rest

def ofList (entries : List Entry) : Index :=
  entries.foldl (fun index entry => insert entry index) []

end Index

/-- The characters of the name of a protocol, after its first letter. -/
def isSchemeChar (c : Char) : Bool := c.isAlphanum || c == '+' || c == '.' || c == '-'

/-- Whether a target names no page: it begins with a protocol or is an anchor in the same page. -/
def isExternal : Text → Bool
  | '#' :: _ => true
  | c :: rest => c.isAlpha && startsWith ":".toList (rest.dropWhile isSchemeChar)
  | [] => false

/-- The file of the page that a link's target names. The first page with the exact title wins over
the one with the slug of the target as its key. -/
def resolve (slugOf : Text → Text) (index : Index) (target : Text) : Option Text :=
  let name := trim target
  if name.isEmpty || isExternal name then none
  else
    let titled := index.find? fun entry => entry.title = name
    let entry := titled.or (index.find? fun entry => entry.key = slugOf name)
    entry.map fun found => pageFile found.slug

end Page

end Wikidown
