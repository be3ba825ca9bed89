import Wikidown.Proofs.Layout.HeadedTables

/-!
# Rows with spaces behind them

The rules for single rows take a blank at the end of a row along, and give it back behind the last bar of
the row, or leave it out behind a header row.
-/

namespace Wikidown

set_option autoImplicit false

open Layout Layout.Table

/-- The text of a cell that is made of visible characters without a meaning in tables, in the inline
notation or in the escapes, such as letters and digits. -/
structure PlainCell where
  text : Text
  nonempty : text ≠ []
  visible : ∀ c ∈ text, isBlank c = false
  plain : ∀ c ∈ "|~:<\x27%[&#\x7b".toList, c ∉ text

/-- The cells of a row, of which there is at least one, and whether a space stands behind the row. -/
structure SpacedRow where
  cells : List PlainCell
  nonempty : cells ≠ []
  spaced : Bool

namespace SpacedRow

variable (row : SpacedRow)

/-- The cells with a bar between each two of them. -/
def inner : Text := joined '|' (row.cells.map PlainCell.text)

def tail : Text := if row.spaced then [' '] else []

/-- A row without the space behind it. -/
def closed : Line := '|' :: (row.inner ++ ['|'])

def source : Line := row.closed ++ row.tail

def headerSource : Line := '|' :: (row.inner ++ "|h".toList ++ row.tail)

def alignment : Line := alignmentRow row.cells.length

/-- A header row with the alignment row below it. -/
def opened : List Line := [row.closed, row.alignment]

def unspaced : SpacedRow := { row with spaced := false }

end SpacedRow

/-! ## Lines without notation -/

/-- A line that neither the inline notation nor the escapes change. -/
structure Quiet (line : Line) : Prop where
  absent : ∀ c ∈ "\n\r<\x27%[&#\x7b".toList, c ∉ line
  spaces : line.count ' ' ≤ 1

namespace Quiet

variable {line : Line} {content : List Line}

theorem whole (quiet : Quiet line) : '\n' ∉ line := quiet.absent '\n' (by decide)

theorem uniform (quiet : Quiet line) : '\r' ∉ line := quiet.absent '\r' (by decide)

theorem escape (quiet : Quiet line) : escape line = line := escape_of_absent (quiet.absent '&' (by decide))

theorem convert_unlines (quiet : ∀ line ∈ content, Quiet line) :
    Inline.convert (unlines content) = unlines content := by
  have kept : ∀ c ∈ "<\x27%[&#".toList, c ≠ '\n' ∧ c ∈ "\n\r<\x27%[&#\x7b".toList :=
    List.all_iff_forall_prop.mp (by decide)
  refine Inline.convert_of_plain (fun c known => ?_) fun pair => ?_
  · exact not_mem_unlines (kept c known).1 fun line member => (quiet line member).absent c (kept c known).2
  · obtain ⟨line, member, inside⟩ := infix_of_unlines (by decide) (by decide) pair
    have two := inside.sublist.count_le ' '
    have one := (quiet line member).spaces
    have count : "  ".toList.count ' ' = 2 := rfl
    omega

end Quiet

/-! ## Single rows -/

namespace PlainCell

theorem blank_absent (cell : PlainCell) {c : Char} (blank : isBlank c = true) : c ∉ cell.text := by
  intro member
  rw [cell.visible c member] at blank
  exact absurd blank (by decide)

def cell (cell : PlainCell) : Cell where
  text := cell.text
  nonempty := cell.nonempty
  unbarred := cell.plain '|' (by decide)
  whole := cell.blank_absent (by decide)
  uniform := cell.blank_absent (by decide)
  unmarked inside := cell.plain '\x7b' (by decide) (inside.subset (by decide))
  unheaded begins := cell.plain '~' (by decide) (List.mem_of_mem_head? begins)

end PlainCell

namespace SpacedRow

variable (row : SpacedRow)

/-- A row with another end in place of its last bar. -/
def ended (closing : Text) : Line := '|' :: (row.inner ++ closing ++ row.tail)

theorem source_ended : row.source = row.ended "|".toList := rfl

theorem header_source_ended : row.headerSource = row.ended "|h".toList := rfl

theorem closed_unspaced : row.closed = row.unspaced.source := (List.append_nil _).symm

/-- The same cells as those of any row. -/
def base : Row := ⟨row.cells.map PlainCell.cell, by simpa using row.nonempty⟩

theorem inner_base : row.base.inner = row.inner := by
  rw [Row.inner, base, List.map_map]
  rfl

theorem closed_base : row.closed = row.base.source := by
  rw [Row.source, inner_base]
  rfl

theorem closed_closed : Closed row.closed := by
  rw [closed_base]
  exact .source _

theorem tail_absent {c : Char} (other : c ≠ ' ') : c ∉ row.tail := by
  rw [tail]
  split <;> simp [other]

theorem inner_absent {c : Char} (bar : c ≠ '|') (odd : isBlank c = true ∨ c ∈ "|~:<\x27%[&#\x7b".toList) :
    c ∉ row.inner :=
  joined_apart bar fun cell => odd.elim cell.blank_absent (cell.plain c)

theorem ended_quiet {closing : Text} (known : ∀ c ∈ closing, c ∈ "|h".toList) : Quiet (row.ended closing) := by
  have bars : ∀ c ∈ "\n\r<\x27%[&#\x7b ".toList, c ∉ "|h".toList := List.all_iff_forall_prop.mp (by decide)
  have odd : ∀ c ∈ "\n\r<\x27%[&#\x7b ".toList, isBlank c = true ∨ c ∈ "|~:<\x27%[&#\x7b".toList :=
    List.all_iff_forall_prop.mp (by decide)
  have front : ∀ c ∈ "\n\r<\x27%[&#\x7b ".toList, c ∉ '|' :: (row.inner ++ closing) := by
    intro c member
    have bar : c ≠ '|' := fun same => bars c member (by simp [same])
    rw [List.mem_cons, List.mem_append, not_or, not_or]
    exact ⟨bar, row.inner_absent bar (odd c member), fun ends => bars c member (known c ends)⟩
  have split : row.ended closing = '|' :: (row.inner ++ closing) ++ row.tail := rfl
  refine ⟨fun c member inside => ?_, ?_⟩
  · have apart : c ≠ ' ' := fun space => absurd (space ▸ member) (by decide)
    rw [split, List.mem_append] at inside
    exact inside.elim (front c (List.mem_append_left [' '] member)) (row.tail_absent apart)
  · have none : ('|' :: (row.inner ++ closing)).count ' ' = 0 := List.count_eq_zero.mpr (front ' ' (by decide))
    rw [split, List.count_append, none, tail]
    split <;> simp

theorem source_quiet : Quiet row.source := row.ended_quiet (List.all_iff_forall_prop.mp (by decide))

theorem header_source_quiet : Quiet row.headerSource :=
  row.ended_quiet (List.all_iff_forall_prop.mp (by decide))

theorem closed_quiet : Quiet row.closed := by
  rw [closed_unspaced]
  exact row.unspaced.source_quiet

/-! ## Ends of rows -/

section Ends

variable {closing other : Text} {c d : Char}

theorem ended_cells (closing other : Text) :
    cells? closing (row.ended other) = beforeTail? closing (row.inner ++ other ++ row.tail) := by
  have front : after? "|".toList (row.ended other) = some (row.inner ++ other ++ row.tail) := after_append ['|'] _
  rw [cells?, front, Option.bind_some]

/-- Of a space at the end, the row is read without it. -/
theorem before_tail_space (closes : closing.getLast? = some c) (visible : c ≠ ' ') (text : Text) :
    beforeTail? closing (text ++ [' ']) = (before? closing text).map fun front => (front, some ' ') := by
  have open_ : before? closing (text ++ [' ']) = none :=
    before_eq_none_of_not_suffix (not_suffix_of_last closes List.getLast?_concat visible)
  have blank : isBlank ' ' = true := by decide
  rw [beforeTail?, open_, List.getLast?_concat, List.dropLast_concat]
  exact if_pos blank

theorem last_of_closing (closes : closing.getLast? = some c) : (row.inner ++ closing).getLast? = some c := by
  rw [List.getLast?_append, closes]
  rfl

/-- The cells of a row are found with the space behind it. -/
theorem cells_found (closes : closing.getLast? = some c) (visible : c ≠ ' ') :
    cells? closing (row.ended closing) = some (row.inner, row.tail.head?) := by
  rw [ended_cells, tail]
  split
  · rw [before_tail_space closes visible, before_append]
    rfl
  · rw [List.append_nil, beforeTail?, before_append]
    rfl

/-- A row with another end has no such cells. -/
theorem cells_none (closes : closing.getLast? = some c) (last : other.getLast? = some d) (apart : c ≠ d)
    (visible : c ≠ ' ') (shown : isBlank d = false) : cells? closing (row.ended other) = none := by
  have open_ : before? closing (row.inner ++ other) = none :=
    before_eq_none_of_not_suffix (not_suffix_of_last closes (row.last_of_closing last) apart)
  rw [ended_cells, tail]
  split
  · rw [before_tail_space closes visible, open_]
    rfl
  · rw [List.append_nil, beforeTail?, open_, row.last_of_closing last]
    simp only [shown, Bool.false_eq_true, if_false]

end Ends

theorem clean_cells : cleanCells row.inner = row.inner := by
  rw [← inner_base, row.base.clean_cells]

theorem data_row_source : dataRow row.source = row.source := by
  have found : cells? "|".toList row.source = some (row.inner, row.tail.head?) :=
    row.cells_found (c := '|') rfl (by decide)
  rw [dataRow, found]
  simp only [row.clean_cells]
  rw [source, closed, tail]
  split <;> simp

theorem data_row_header_source : dataRow row.headerSource = row.headerSource := by
  have none : cells? "|".toList row.headerSource = none :=
    row.cells_none (c := '|') (d := 'h') rfl rfl (by decide) (by decide) (by decide)
  rw [dataRow, none]

theorem no_header_source : cells? "|h".toList row.source = none :=
  row.cells_none (c := 'h') (d := '|') rfl rfl (by decide) (by decide) (by decide)

theorem header_rows_source (rest : List Line) : headerRows false (row.headerSource :: rest) =
    [] :: row.closed :: row.alignment :: headerRows row.tail.head?.isNone rest := by
  have found : cells? "|h".toList row.headerSource = some (row.inner, row.tail.head?) :=
    row.cells_found (c := 'h') rfl (by decide)
  have count : (pieces '|' row.inner).length = row.cells.length := by
    rw [inner, pieces_joined (by simpa using row.nonempty)
      (List.forall_mem_map.mpr fun cell _ => cell.plain '|' (by decide)), List.length_map]
  rw [headerRows, Bool.false_and, if_neg (by decide), found]
  simp only [row.clean_cells, count]
  rfl

theorem source_unheaded : ¬ "|h".toList <:+ row.source := by
  have closes : "|h".toList.getLast? = some 'h' := rfl
  rw [source, tail]
  split
  · exact not_suffix_of_last closes List.getLast?_concat (by decide)
  · rw [List.append_nil]
    exact row.closed_closed.unheaded

theorem spaced_header_unheaded (spaced : row.spaced = true) : ¬ "|h".toList <:+ row.headerSource := by
  have closes : "|h".toList.getLast? = some 'h' := rfl
  rw [headerSource, tail, if_pos spaced, ← List.cons_append]
  exact not_suffix_of_last closes List.getLast?_concat (by decide)

/-! ## Alignment rows -/

theorem columns_succ : ∃ count, row.cells.length = count + 1 :=
  Nat.exists_eq_succ_of_ne_zero fun none => row.nonempty (List.length_eq_zero_iff.mp none)

theorem alignment_closed : Closed row.alignment := by
  obtain ⟨count, same⟩ := row.columns_succ
  rw [alignment, same]
  exact .alignment_row count

theorem empty_header_alignment : emptyHeader row.alignment = List.replicate (row.cells.length + 1) '|' :=
  empty_header_alignment_row _

theorem alignment_aligned : startsWith "|:".toList row.alignment = true := by
  obtain ⟨count, same⟩ := row.columns_succ
  rw [alignment, same]
  rfl

theorem alignment_quiet : Quiet row.alignment := by
  have odd : ∀ c ∈ "\n\r<\x27%[&#\x7b ".toList, c ∉ "|:-".toList := List.all_iff_forall_prop.mp (by decide)
  have none : row.alignment.count ' ' = 0 := List.count_eq_zero.mpr (alignment_row_apart (odd ' ' (by decide)))
  exact ⟨fun c member => alignment_row_apart (odd c (List.mem_append_left [' '] member)), by omega⟩

theorem data_row_alignment : dataRow row.alignment = row.alignment := by
  obtain ⟨count, same⟩ := row.columns_succ
  rw [alignment, same, alignment_row_eq]
  exact Row.data_row _

/-- An alignment row is as wide as the row that its columns are counted in. -/
theorem alignment_of_count {closing : Text} (one : closing.count '|' = 1) :
    alignmentRow ((row.ended closing).count '|' - 1) = row.alignment := by
  have none : row.tail.count '|' = 0 := List.count_eq_zero.mpr (row.tail_absent (by decide))
  have cells := row.base.count_inner
  rw [inner_base, base, List.length_map] at cells
  rw [ended, List.count_cons_self, List.count_append, List.count_append, one, none, alignment, ← cells]
  rfl

/-- A row is no alignment row. -/
theorem not_aligned {closing : Text} (known : ':' ∉ closing) :
    ¬ startsWith "|:".toList (row.ended closing) = true := by
  rw [ended, MarkedRow.starts_aligned_iff]
  intro colon
  have member := List.mem_of_mem_head? colon
  rw [List.mem_append, List.mem_append] at member
  rcases member with (inner | ends) | space
  · exact row.inner_absent (by decide) (.inr (by decide)) inner
  · exact known ends
  · exact row.tail_absent (by decide) space

theorem closed_not_aligned : ¬ startsWith "|:".toList row.closed = true := by
  rw [closed_unspaced]
  exact row.unspaced.not_aligned (by decide)

end SpacedRow

end Wikidown
