import Wikidown.Block
import Wikidown.Inline

/-!
Tables. A row is a line between two bars; a header row has the letter `h` after the last bar. A
Markdown table needs a header row and an alignment row above its data rows, and blank lines around
it. The rules run one after another over the whole document, each on the rows that the one before
has left.
-/

namespace Wikidown.Layout.Table

set_option autoImplicit false

/-- A table ends with the first row that is closed and before a line that is no row. -/
def shape : BlockShape where
  opening := "|".toList
  closing := "|".toList
  endsBefore
    | [] => false
    | next :: _ => !startsWith "|".toList next

/-- A blank line after each table. -/
def separate (body : List Line) : List Line := shape.blockLines body ++ [[]]

def alignmentRow (columns : Nat) : Line :=
  (List.replicate columns "|:--".toList).flatten ++ ['|']

/-- Whether a row other than the last is a header row. -/
def hasHeaderRow (body : List Line) : Bool := body.dropLast.any (endsWith "|h".toList)

/-- The number of cells in the first row of a table. -/
def columns (body : List Line) : Nat := ((shape.blockLines body).headD []).count '|' - 1

/-- An alignment row above each table without a header row. -/
def align (body : List Line) : List Line :=
  if hasHeaderRow body then shape.blockLines body
  else alignmentRow (columns body) :: shape.blockLines body

/-- The cells of a row with one space in each that is empty at an end. -/
def padEnds (cells : Text) : Text :=
  let started := if startsWith "|".toList cells then ' ' :: cells else cells
  match before? "|".toList started, before? "|\n".toList started with
  | some front, _ => front ++ "| ".toList
  | none, some front => front ++ "| \n".toList
  | none, none => started

/-- The cells of a row without the marks of row headers, and with a space in empty cells. -/
def cleanCells (cells : Text) : Text :=
  let unmarked := (Substitution.literal "|~".toList "|".toList).apply cells
  let unmarked := (after? "~".toList unmarked).getD unmarked
  padEnds ((Substitution.literal "||".toList "| |".toList).apply unmarked)

/-- What stands before `closing` at the end of a line, and the one blank that may follow it. -/
def beforeTail? (closing : Text) (line : Line) : Option (Text × Option Char) :=
  match before? closing line, line.getLast? with
  | some front, _ => some (front, none)
  | none, some last =>
      if isBlank last then (before? closing line.dropLast).map fun front => (front, some last)
      else none
  | none, none => none

/-- The cells of a row that `closing` ends. -/
def cells? (closing : Text) (line : Line) : Option (Text × Option Char) :=
  (after? "|".toList line).bind (beforeTail? closing)

def dataRow (line : Line) : Line :=
  match cells? "|".toList line with
  | some (cells, tail) => '|' :: (cleanCells cells ++ '|' :: tail.toList)
  | none => line

/-- Each header row with its alignment row. With `afterHeader`, the line before was a header row
without a blank at its end; an empty line is left out there. -/
def headerRows : (afterHeader : Bool) → List Line → List Line
  | _, [] => []
  | afterHeader, line :: rest =>
      if afterHeader && line.isEmpty then headerRows false rest
      else
        match cells? "|h".toList line with
        | none => line :: headerRows false rest
        | some (cells, tail) =>
            [] :: ('|' :: (cleanCells cells ++ ['|'])) ::
              alignmentRow (pieces '|' cells).length :: headerRows tail.isNone rest

/-- For the conversion of cells a table ends where another character follows, which is no bar. Of
an empty line after the table, the line below it is taken along. -/
def cellShape : BlockShape where
  opening := "|".toList
  closing := "|".toList
  endsBefore
    | [] => false
    | [[]] => false
    | next :: _ => !startsWith "|".toList next
  inert
    | [] :: _ => 2
    | _ => 0

/-- The inline notation of a table, converted in one go. -/
def convertCells (body : List Line) : List Line :=
  cellShape.blockLines (lines (Inline.convert (unlines body))) ++ [[]]

def surround (body : List Line) : List Line := [[]] ++ shape.blockLines body ++ [[]]

/-- The segments of an alignment row without their colons and dashes. -/
def emptyHeader (alignment : Line) : Line :=
  match alignment with
  | [] => []
  | c :: rest =>
      if c = ':' then emptyHeader (rest.dropWhile (· == '-')) else c :: emptyHeader rest
termination_by alignment.length
decreasing_by
  · have bound : (rest.dropWhile (· == '-')).length ≤ rest.length :=
      (List.dropWhile_suffix (· == '-')).length_le
    simp only [List.length_cons]
    omega
  · simp

/-- A header above each alignment row that has none: the first row, if it is promoted, else an empty
one. -/
def supplyHeader (promoteFirstRow : Bool) : List Line → List Line
  | [] :: alignment :: row :: rest =>
      if startsWith "|:".toList alignment then
        if promoteFirstRow then
          [] :: row :: alignment :: (supplyHeader promoteFirstRow (row :: rest)).tail
        else
          [] :: emptyHeader alignment :: alignment :: supplyHeader promoteFirstRow (row :: rest)
      else [] :: supplyHeader promoteFirstRow (alignment :: row :: rest)
  | line :: rest => line :: supplyHeader promoteFirstRow rest
  | [] => []
termination_by content => content.length

end Wikidown.Layout.Table
