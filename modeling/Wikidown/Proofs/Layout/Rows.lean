import Wikidown.Proofs.Layout.Cells
import Wikidown.Proofs.Layout.Plain

/-!
# Closed rows

A row that begins and ends with a bar is a row to every rule for tables. This module says what those
rules do with closed rows alone; where the rows stand in a document does not matter to it.
-/

namespace Wikidown

set_option autoImplicit false

open Layout Layout.Table

/-- The text of a cell. A tilde at its front would mark a header. -/
structure Cell where
  text : Text
  nonempty : text ≠ [] := by decide
  unbarred : '|' ∉ text := by decide
  whole : '\n' ∉ text := by decide
  uniform : '\r' ∉ text := by decide
  unmarked : ¬ mark <:+: text := by decide
  unheaded : text.head? ≠ some '~' := by decide

/-- The cells of a row, of which there is at least one. -/
structure Row where
  cells : List Cell
  nonempty : cells ≠ [] := by simp

/-- A table without a header row. -/
structure HeaderlessTable where
  first : Row
  rest : List Row

namespace Row

variable (row : Row)

/-- The cells with a bar between each two of them. -/
def inner : Text := joined '|' (row.cells.map Cell.text)

def source : Line := '|' :: (row.inner ++ ['|'])

/-- What the inline notation and the escapes make of a row. -/
def rendered : Line := escape (Inline.convert row.source)

end Row

namespace HeaderlessTable

def rows (table : HeaderlessTable) : List Row := table.first :: table.rest

/-- The lines of a table. -/
def source (table : HeaderlessTable) : List Line := table.rows.map Row.source

def columns (table : HeaderlessTable) : Nat := table.first.cells.length

/-- The lines of a table in Markdown: its header, the alignment row, and the rows below. -/
def rendered (promoteFirstRow : Bool) (table : HeaderlessTable) : List Line :=
  if promoteFirstRow then
    table.first.rendered :: alignmentRow table.columns :: table.rest.map Row.rendered
  else
    List.replicate (table.columns + 1) '|' :: alignmentRow table.columns ::
      table.rows.map Row.rendered

end HeaderlessTable

/-! ## Cells -/

section Joined

variable {texts : List Text}

theorem joined_apart {Part : Type} {parts : List Part} {shown : Part → Text} {c : Char} (bar : c ≠ '|')
    (absent : ∀ part, c ∉ shown part) : c ∉ joined '|' (parts.map shown) := by
  intro member
  rcases mem_joined member with same | ⟨text, inside, here⟩
  · exact bar same
  · obtain ⟨part, _, rfl⟩ := List.mem_map.mp inside
    exact absent part here

theorem joined_lacks (unmarked : ∀ text ∈ texts, ¬ mark <:+: text) : Lacks true mark (joined '|' texts) := by
  induction texts with
  | nil => exact .nil .opening
  | cons text texts ih =>
      rw [List.forall_mem_cons] at unmarked
      by_cases single : texts = []
      · subst single
        exact unmarked.1
      · rw [joined_cons single]
        exact (Lacks.between_iff .opening (by decide)).mpr ⟨unmarked.1, ih unmarked.2⟩

end Joined

/-- What stands between the first bar of a row and its end. -/
theorem cells_ended (closing inner : Text) : cells? closing ('|' :: (inner ++ closing)) = some (inner, none) := by
  have front : after? "|".toList ('|' :: (inner ++ closing)) = some (inner ++ closing) := after_append ['|'] _
  rw [cells?, front, Option.bind_some, beforeTail?, before_append]

namespace Row

variable (row : Row)

theorem inner_apart {c : Char} (bar : c ≠ '|') (absent : ∀ cell : Cell, c ∉ cell.text) : c ∉ row.inner :=
  joined_apart bar absent

theorem source_apart {c : Char} (bar : c ≠ '|') (absent : ∀ cell : Cell, c ∉ cell.text) :
    c ∉ row.source := by
  simp [source, bar, row.inner_apart bar absent]

theorem count_inner : row.inner.count '|' + 1 = row.cells.length := by
  obtain ⟨cells, nonempty⟩ := row
  induction cells with
  | nil => contradiction
  | cons cell cells ih =>
      have none : cell.text.count '|' = 0 := List.count_eq_zero.mpr cell.unbarred
      by_cases single : cells = []
      · subst single
        exact congrArg (· + 1) none
      · have later := ih single
        have split : inner ⟨cell :: cells, nonempty⟩ = cell.text ++ '|' :: inner ⟨cells, single⟩ :=
          joined_cons (by simpa using single)
        rw [split, List.count_append, none, List.count_cons_self, Nat.zero_add, later]
        rfl

/-- A row in which nothing is empty and nothing marked needs no cleaning. -/
theorem clean_cells : cleanCells row.inner = row.inner := by
  have nonempty : row.cells.map Cell.text ≠ [] := by simpa using row.nonempty
  have texts : (row.cells.map Cell.text).map withoutMark = row.cells.map Cell.text := by
    rw [List.map_map]
    exact List.map_congr_left fun cell _ => without_mark_of_head cell.unheaded
  have cleaned := clean_cells_joined nonempty (List.forall_mem_map.mpr fun cell _ => cell.unbarred)
    (List.forall_mem_map.mpr fun cell _ => cell.whole)
  rwa [texts, spaced_of_visible (List.forall_mem_map.mpr fun cell _ => cell.nonempty)] at cleaned

theorem data_row : dataRow row.source = row.source := by
  have found : cells? "|".toList row.source = some (row.inner, none) := cells_ended "|".toList row.inner
  rw [dataRow, found]
  simp only [row.clean_cells, Option.toList_none]
  rfl

theorem source_lacks : Lacks true mark row.source := by
  have bar : separates '|' = true := by decide
  have inside : Lacks true mark row.inner :=
    joined_lacks (List.forall_mem_map.mpr fun cell _ => cell.unmarked)
  exact (Lacks.cons_iff .opening bar).mpr
    ((Lacks.between_iff .opening bar).mpr ⟨inside, .nil .opening⟩)

end Row

/-! ## Alignment rows -/

/-- The cell of an alignment row. -/
def leftAligned : Cell := { text := ":--".toList }

theorem alignment_row_succ (columns : Nat) :
    alignmentRow (columns + 1) = '|' :: (":--".toList ++ alignmentRow columns) := rfl

theorem alignment_row_eq (columns : Nat) : alignmentRow (columns + 1) =
    Row.source ⟨List.replicate (columns + 1) leftAligned, by simp [List.replicate_succ]⟩ := by
  induction columns with
  | zero => rfl
  | succ columns ih =>
      have split : joined '|' ((List.replicate (columns + 1 + 1) leftAligned).map Cell.text) =
          leftAligned.text ++ '|' :: joined '|' ((List.replicate (columns + 1) leftAligned).map Cell.text) :=
        joined_cons (by simp [List.replicate_succ])
      rw [alignment_row_succ, ih, Row.source, Row.source, Row.inner, Row.inner, split]
      rfl

theorem mem_alignment_row {columns : Nat} {c : Char} (member : c ∈ alignmentRow columns) :
    c ∈ "|:-".toList := by
  have letters : ∀ c ∈ "|:--".toList, c ∈ "|:-".toList := List.all_iff_forall_prop.mp (by decide)
  rcases List.mem_append.mp member with inside | last
  · obtain ⟨_, segment, here⟩ := List.mem_flatten.mp inside
    rw [List.eq_of_mem_replicate segment] at here
    exact letters c here
  · rw [List.mem_singleton.mp last]
    decide

theorem alignment_row_apart {columns : Nat} {c : Char} (other : c ∉ "|:-".toList) :
    c ∉ alignmentRow columns :=
  fun member => other (mem_alignment_row member)

theorem convert_alignment_row (columns : Nat) :
    Inline.convert (alignmentRow columns) = alignmentRow columns := by
  refine Inline.convert_of_plain (fun c known => alignment_row_apart ?_) fun inside => ?_
  · have apart : ∀ c ∈ "<\x27%[&#".toList, c ∉ "|:-".toList :=
      List.all_iff_forall_prop.mp (by decide)
    exact apart c known
  · exact @alignment_row_apart columns ' ' (by decide) (inside.subset (by decide))

theorem escape_alignment_row (columns : Nat) : escape (alignmentRow columns) = alignmentRow columns :=
  escape_of_absent (alignment_row_apart (by decide))

theorem empty_header_alignment_row (columns : Nat) :
    emptyHeader (alignmentRow columns) = List.replicate (columns + 1) '|' := by
  have bar (rest : Text) : emptyHeader ('|' :: rest) = '|' :: emptyHeader rest :=
    empty_header_cons (by decide) rest
  have dashes (rest : Text) : ("--".toList ++ '|' :: rest).dropWhile (· == '-') = '|' :: rest := rfl
  induction columns with
  | zero => exact (bar []).trans (by rw [emptyHeader]; rfl)
  | succ columns ih =>
      have begins : ∃ rest, alignmentRow columns = '|' :: rest := by
        cases columns with
        | zero => exact ⟨[], rfl⟩
        | succ columns => exact ⟨_, alignment_row_succ columns⟩
      obtain ⟨rest, shape⟩ := begins
      have colon : emptyHeader (":--".toList ++ alignmentRow columns) = emptyHeader (alignmentRow columns) := by
        rw [shape]
        exact (empty_header_colon _).trans (congrArg emptyHeader (dashes rest))
      rw [alignment_row_succ, bar, colon, ih]
      rfl

/-- The header rows of Markdown tables come from rows with a letter behind the last bar. -/
theorem no_header_of_bar (front : Line) : cells? "|h".toList (front ++ ['|']) = none := by
  have open_ (cells : Line) : beforeTail? "|h".toList (cells ++ ['|']) = none := by
    have apart : before? "|h".toList (cells ++ ['|']) = none :=
      before_eq_none_of_not_suffix (not_suffix_of_last rfl List.getLast?_concat (by decide))
    have visible : isBlank '|' = false := by decide
    rw [beforeTail?, apart, List.getLast?_concat]
    simp [visible]
  cases front with
  | nil => rfl
  | cons c front =>
      by_cases bar : c = '|'
      · subst bar
        exact open_ front
      · exact cells_of_unbarred (by simpa using bar) _

/-! ## Closed rows -/

/-- A line that begins with a bar and ends with another. -/
def Closed (line : Line) : Prop := '\n' ∉ line ∧ ∃ cells, line = '|' :: (cells ++ ['|'])

namespace Closed

variable {line : Line} {rows : List Line}

theorem source (row : Row) : Closed row.source := ⟨row.source_apart (by decide) Cell.whole, row.inner, rfl⟩

theorem alignment_row (columns : Nat) : Closed (alignmentRow (columns + 1)) := by
  rw [alignment_row_eq]
  exact .source _

theorem head (closed : Closed line) : line.head? = some '|' := by
  obtain ⟨_, cells, rfl⟩ := closed
  rfl

theorem ne_nil (closed : Closed line) : line ≠ [] := by
  obtain ⟨_, cells, rfl⟩ := closed
  exact List.cons_ne_nil _ _

theorem no_header (closed : Closed line) : cells? "|h".toList line = none := by
  obtain ⟨_, cells, rfl⟩ := closed
  exact no_header_of_bar ('|' :: cells)

theorem unheaded (closed : Closed line) : ¬ "|h".toList <:+ line := by
  obtain ⟨_, cells, rfl⟩ := closed
  have last : ('|' :: (cells ++ ['|'])).getLast? = some '|' := by rw [← List.cons_append, List.getLast?_concat]
  have closes : "|h".toList.getLast? = some 'h' := rfl
  exact not_suffix_of_last closes last (by decide)

theorem convert (closed : Closed line) : Closed (Inline.convert line) := by
  obtain ⟨whole, cells, rfl⟩ := closed
  exact ⟨(Inline.convert_fills whole).1, Inline.convert cells, convert_bars cells⟩

theorem escape (closed : Closed line) : Closed (escape line) := by
  obtain ⟨whole, cells, rfl⟩ := closed
  have breaks : lineBreakRule.apply ('|' :: (cells ++ ['|'])) =
      '|' :: (lineBreakRule.apply cells ++ ['|']) := by
    have stops : lineBreakRule.StopsAt ['|'] := Substitution.literal_stops (by decide)
    rw [Substitution.apply_cons_other line_break_in_line.starts (by decide),
      Substitution.apply_append stops, Substitution.apply_cons_other line_break_in_line.starts (by decide),
      Substitution.apply_nil]
  have stops : ampersandRule.StopsAt ['|'] :=
    ampersand_stops (by decide) (by decide) (by decide) (by decide) []
  refine ⟨(escape_fills whole).1, ampersandRule.apply (lineBreakRule.apply cells), ?_⟩
  rw [Layout.escape, breaks, Substitution.apply_cons_other ampersand_in_line.starts (by decide),
    Substitution.apply_append stops, Substitution.apply_cons_other ampersand_in_line.starts (by decide),
    Substitution.apply_nil]

/-- The inline notation stays within a row. -/
theorem convert_unlines (closed : ∀ row ∈ rows, Closed row) :
    Inline.convert (unlines rows) = unlines (rows.map Inline.convert) := by
  induction rows with
  | nil => exact Inline.convert_of_plain (by simp [unlines, joined]) (by decide)
  | cons row rows ih =>
      rw [List.forall_mem_cons] at closed
      cases rows with
      | nil => rfl
      | cons next rows =>
          have later := ih closed.2
          obtain ⟨_, cells, shape⟩ := closed.2 next List.mem_cons_self
          rw [shape, unlines_cons_char] at later
          have split := convert_above_bar 0 row (unlines ((cells ++ ['|']) :: rows))
          have bar := @convert_keep ['|'] (List.forall_mem_singleton.mpr (by decide))
            (unlines ((cells ++ ['|']) :: rows))
          rw [unlines_cons_cons, shape, unlines_cons_char, List.map_cons, List.map_cons, unlines_cons_cons,
            ← List.map_cons, ← later]
          exact split.trans (congrArg (Inline.convert row ++ '\n' :: ·) bar.symm)

end Closed

end Wikidown
