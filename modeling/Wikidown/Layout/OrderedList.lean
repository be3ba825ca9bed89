import Wikidown.Block
import Wikidown.Inline
import Wikidown.Layout.Counters
import Wikidown.Text.Digit

/-!
Ordered lists: a run of lines from one that begins with a plus sign to the next blank line. The plus
signs of an item count its level; in Markdown the item has a number and four spaces of indentation
for each level above the first.
-/

namespace Wikidown.Layout.OrderedList

set_option autoImplicit false

/-- A list ends before an empty line with another line below it. Those two lines are taken along
with the list, so the second opens no list. -/
def shape : BlockShape where
  opening := "+".toList
  closing := []
  endsBefore
    | [] :: _ :: _ => true
    | _ => false
  inert _ := 2

/-- One more blank line after each list. -/
def separate (body : List Line) : List Line := shape.blockLines body ++ [[]]

/-- One space between the markers of an item and its text. -/
def spaceMarkers (line : Line) : Line :=
  match line.takeWhile (· == '+') with
  | [] => line
  | markers => markers ++ ' ' :: trim (line.dropWhile (· == '+'))

/-- Four spaces for each marker that is left at the start of a line. -/
def indentMarkers (line : Line) : Line :=
  List.replicate (4 * (line.takeWhile (· == '+')).length) ' ' ++ line.dropWhile (· == '+')

def replaceFirst (pattern value : Text) : Text → Text
  | [] => []
  | c :: text =>
      match after? pattern (c :: text) with
      | some rest => value ++ rest
      | none => c :: replaceFirst pattern value text

/-- The level of a line: the number of characters before its first space. -/
def level (line : Line) : Nat := (line.takeWhile (· != ' ')).length

/-- Number the lines of a list and convert their inline notation. -/
def number (counters : Counters) : List Line → List Line
  | [] => []
  | line :: rest =>
      let (value, counted) := counters.next (level line)
      Inline.convert (replaceFirst "+ ".toList (decimalText value ++ ". ".toList) line) ::
        number counted rest

/-- The lines of a list in Markdown. -/
def items (body : List Line) : List Line :=
  let content := '+' :: trim (unlines body)
  let spaced := trim (unlines ((lines content).map spaceMarkers))
  (number {} (lines spaced)).map indentMarkers

end Wikidown.Layout.OrderedList
