import Wikidown.Layout
import Wikidown.Placeholder.Mask
import Wikidown.Placeholder.Restore

/-!
A document in wiki notation and its conversion to Markdown: the text is brought to one form of line
endings, its code, quotes and paragraphs are masked, the layout is converted, runs of blank lines
are collapsed, and what was masked is restored.
-/

namespace Wikidown

set_option autoImplicit false

/-- The options of a conversion: whether lines end with a carriage return and a line feed, and
whether the first row of a table without a header becomes its header. -/
structure Options where
  crlf : Bool := false
  promoteFirstRow : Bool := false
deriving DecidableEq, Repr

/-- A line that asks for the table of contents becomes the Markdown directive and a blank line. -/
def contentsDirective (line : Line) : List Line :=
  if line = "#contents".toList then ["[toc]".toList, []] else [line]

/-- One form of line endings, and an empty line before and after the document. -/
def normalize (source : Text) : Text :=
  let unified := (Substitution.literal "\r\n".toList "\n".toList).apply source
  replaceLines contentsDirective ('\n' :: unified ++ "\n\n".toList)

/-- Two line feeds for every three, once over the text. -/
def collapseOnce (text : Text) : Text :=
  (Substitution.literal "\n\n\n".toList "\n\n".toList).apply text

/-- No more than one blank line in a row: three line feeds become two until there are no three. -/
def collapseBlankLines (text : Text) : Text :=
  if (collapseOnce text).length < text.length then collapseBlankLines (collapseOnce text)
  else text
termination_by text.length

/-- The line endings that the options ask for. -/
def withLineEndings (crlf : Bool) (text : Text) : Text :=
  if crlf then (Substitution.literal "\n".toList "\r\n".toList).apply text else text

namespace Document

def masked (source : Text) : Masked := .ofText (normalize source)

/-- The document in Markdown, with placeholders in it. -/
def arranged (promoteFirstRow : Bool) (source : Text) : Text :=
  collapseBlankLines (Layout.convert promoteFirstRow (masked source).text)

/-- The document in Markdown, with the blank lines that the conversion has put around it. -/
def restored (promoteFirstRow : Bool) (source : Text) : Except NumberTooLong Text :=
  restoreAll (masked source).store (arranged promoteFirstRow source)

end Document

/-- Convert a document to Markdown. Only the number of a placeholder that the source itself writes
can make it fail, by being too long. -/
def convert (options : Options) (source : Text) : Except NumberTooLong Text :=
  (Document.restored options.promoteFirstRow source).map fun text =>
    withLineEndings options.crlf (trim text)

end Wikidown
