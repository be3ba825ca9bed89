import Wikidown.Proofs.Placeholder.Restored

/-!
# Every part comes back

A conversion loses no part of a document and shows none twice: each placeholder stands once in the
arranged document or in a quote of it, and what is written there is the part.
-/

namespace Wikidown

set_option autoImplicit false

/-- A document each part of which has its one place. -/
structure Document.Restores (promoteFirstRow : Bool) (source : Text) (page : Woven)
    (quotes : List Woven) : Prop extends Document.Assembles promoteFirstRow source page quotes where
  complete : Anatomy.Complete source page quotes

/-- A quote with code in it, between two paragraphs. -/
def quoteWithCode : Text :=
  "a\n\x7bquote\x7d\nb\n\x7bcode\x7d\nc\n\x7b/code\x7d\n\x7b/quote\x7d\nd".toList

/-- A colour whose word is the placeholder of the code behind it. -/
def coloredPlaceholder : Text :=
  "\x7bquote\x7d\n&color(red)\n\x7bcode\x7d\nx\n\x7b/code\x7d\n\x7b/quote\x7d".toList

end Wikidown
