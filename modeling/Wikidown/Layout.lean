import Wikidown.Layout.Escape
import Wikidown.Layout.Heading
import Wikidown.Layout.OrderedList
import Wikidown.Layout.Table
import Wikidown.Layout.UnorderedList

/-!
The layout of a document: its headings, tables and lists. The rules run one after another over the
whole document, each on the result of the one before.
-/

namespace Wikidown.Layout

set_option autoImplicit false

def rules (promoteFirstRow : Bool) : List (Text → Text) :=
  [ -- carriage returns that are left are line feeds
    (Substitution.literal "\n\r".toList "\n".toList).apply,
    (Substitution.literal "\r".toList "\n".toList).apply,
    replaceLines heading,
    Table.shape.replaceBlocks Table.separate,
    Table.shape.replaceBlocks Table.align,
    onLines (·.map Table.dataRow),
    onLines (Table.headerRows false),
    Table.cellShape.replaceBlocks Table.convertCells,
    Table.shape.replaceBlocks Table.surround,
    onLines (Table.supplyHeader promoteFirstRow),
    OrderedList.shape.replaceBlocks OrderedList.separate,
    OrderedList.shape.replaceBlocks OrderedList.items,
    onLines (·.map unorderedItem),
    lineBreakRule.apply,
    -- last: the references that the other rules write stay as they are
    ampersandRule.apply ]

/-- The text after each of the rules. -/
def steps (promoteFirstRow : Bool) (text : Text) : List Text :=
  ((rules promoteFirstRow).foldl
    (fun (current, seen) rule => (rule current, rule current :: seen))
    (text, [])).2.reverse

/-- Apply all rules of the layout. -/
def convert (promoteFirstRow : Bool) (text : Text) : Text :=
  (rules promoteFirstRow).foldl (fun current rule => rule current) text

end Wikidown.Layout
