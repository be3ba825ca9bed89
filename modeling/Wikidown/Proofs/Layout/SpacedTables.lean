import Wikidown.Proofs.Layout.SpacedRows

/-!
# The layout of tables with spaces behind their rows

The search for tables does not take a blank at the end of a row along: a table ends only with a row that
has nothing behind its last bar, and a row above that one is a header row for it only if nothing stands
behind its mark.
-/

namespace Wikidown

set_option autoImplicit false

open Layout Layout.Table

/-- A table of at least one row, with or without a header row above it. -/
structure SpacedTable where
  header : Option SpacedRow
  rows : List SpacedRow
  nonempty : rows ≠ []

namespace SpacedTable

variable (table : SpacedTable)

def first : SpacedRow := table.rows.head table.nonempty

def last : SpacedRow := table.rows.getLast table.nonempty

def source : List Line := table.header.toList.map SpacedRow.headerSource ++ table.rows.map SpacedRow.source

/-- The table with no space behind any row. -/
def unspaced : SpacedTable :=
  ⟨table.header.map SpacedRow.unspaced, table.rows.map SpacedRow.unspaced, by simpa using table.nonempty⟩

/-- The rows without the space behind the last one. -/
def trimmed : List Line := table.rows.dropLast.map SpacedRow.source ++ [table.last.closed]

/-- The table that an alignment row makes above a header row that is not found as one. -/
def detached (promote : Bool) (header : SpacedRow) : List Line :=
  if promote then [header.alignment] else [emptyHeader header.alignment, header.alignment]

/-- The lines of a table in Markdown. Without a header row, a table is found if no space stands behind its
last row. With one, a space behind the header row alone makes the header row appear as a data row. -/
def written (promote : Bool) : List Line :=
  match table.header with
  | none =>
      if table.last.spaced then table.trimmed
      else headed promote table.first.alignment (table.trimmed.headD []) ++ table.trimmed.tail
  | some header =>
      (if header.spaced && !table.last.spaced then detached promote header ++ [[]] else []) ++
        (header.opened ++ table.trimmed)

end SpacedTable


/-! ## Rows among blank lines -/

namespace Layout.Table

variable {rows : List Line} {below : Nat}

/-- Rows with blank lines above and below them. -/
def amongBlanks (above : Nat) (rows : List Line) (below : Nat) : Text :=
  unlines (List.replicate above [] ++ (rows ++ List.replicate below []))

theorem lines_among (above : Nat) (whole : ∀ row ∈ rows, '\n' ∉ row) :
    lines (amongBlanks (above + 1) rows below) =
      List.replicate (above + 1) [] ++ (rows ++ List.replicate below []) :=
  lines_unlines (by simp [List.replicate_succ]) (whole_among_blanks whole _ _)

theorem separate_among (run : Run rows) (above below : Nat) : Table.shape.replaceBlocks separate
    (amongBlanks (above + 1) rows (below + 1)) = amongBlanks (above + 1) rows (below + 2) := by
  refine (replace_run shape_barred run above below rfl fun _ => separate_run).trans ?_
  rw [List.append_assoc]
  rfl

theorem surround_among (run : Run rows) (above below : Nat) : Table.shape.replaceBlocks surround
    (amongBlanks (above + 1) rows (below + 1)) = amongBlanks (above + 2) rows (below + 2) := by
  refine (replace_run shape_barred run above below rfl fun _ => surround_run).trans ?_
  have blank : List.replicate (above + 2) ([] : Line) = List.replicate (above + 1) [] ++ [[]] := List.replicate_succ'
  rw [amongBlanks, blank]
  simp only [List.append_assoc]
  rfl

theorem convert_cells_quiet {body : List Line} (isBody : BodyOf cellShape rows body) (nonempty : rows ≠ [])
    (quiet : ∀ row ∈ rows, Quiet row) : convertCells body = rows ++ [[]] := by
  rw [convert_cells_eq, isBody.text, Quiet.convert_unlines quiet,
    lines_unlines nonempty fun row member => (quiet row member).whole]

theorem convert_cells_among (run : Run rows) (quiet : ∀ row ∈ rows, Quiet row) (above below : Nat) :
    cellShape.replaceBlocks convertCells (amongBlanks (above + 1) rows (below + 2)) =
      amongBlanks (above + 1) rows (below + 3) := by
  refine (replace_run cell_shape_barred run above (below + 1) rfl fun _ isBody =>
    convert_cells_quiet isBody run.ne_nil quiet).trans ?_
  rw [List.append_assoc]
  rfl

/-- Each line of a document that no line rule changes. -/
theorem map_among {change : Line → Line} (whole : ∀ row ∈ rows, '\n' ∉ row) (empty : change [] = [])
    (kept : ∀ row ∈ rows, change row = row) (above : Nat) :
    onLines (·.map change) (amongBlanks (above + 1) rows below) = amongBlanks (above + 1) rows below := by
  have rows : rows.map change = rows := (List.map_congr_left kept).trans (List.map_id _)
  rw [onLines, lines_among above whole, List.map_append, List.map_append, List.map_replicate, List.map_replicate,
    empty, rows]
  rfl

theorem supply_header_among {row : Line} {more : List Line} (unaligned : ¬ startsWith "|:".toList row = true)
    (whole : ∀ line ∈ row :: more, '\n' ∉ line) (bars : ∀ line ∈ row :: more, line.head? = some '|')
    (promote : Bool) (above below : Nat) :
    onLines (supplyHeader promote) (amongBlanks (above + 1) (row :: more) (below + 1)) =
      amongBlanks (above + 1) (row :: more) (below + 1) := by
  have filled : ∀ line ∈ row :: more, line ≠ [] := by
    rintro line member rfl
    exact absurd (bars [] member) (by simp)
  rw [onLines, lines_among above whole, supply_header_unaligned unaligned filled]
  rfl

end Layout.Table

namespace SpacedTable

variable (table : SpacedTable)

/-- The rows below the header row. -/
def data : List Line := table.rows.map SpacedRow.source

theorem data_split : table.data = table.rows.dropLast.map SpacedRow.source ++ [table.last.source] := by
  have split := List.dropLast_append_getLast table.nonempty
  rw [data, last, ← List.map_singleton, ← List.map_append, split]

theorem data_quiet : ∀ line ∈ table.data, Quiet line :=
  List.forall_mem_map.mpr fun row _ => row.source_quiet

theorem data_head : ∀ line ∈ table.data, line.head? = some '|' :=
  List.forall_mem_map.mpr fun _ _ => rfl

theorem data_ne_nil : table.data ≠ [] := by simpa [data] using table.nonempty

theorem data_no_header : ∀ line ∈ table.data, cells? "|h".toList line = none :=
  List.forall_mem_map.mpr fun row _ => row.no_header_source

variable {table} {front : List Line}

/-- Lines that may stand above the rows of a table. -/
structure Above (front : List Line) : Prop where
  quiet : ∀ line ∈ front, Quiet line
  barred : ∀ line ∈ front, line.head? = some '|'

theorem Above.data_quiet (above : Above front) : ∀ line ∈ front ++ table.data, Quiet line :=
  List.forall_mem_append.mpr ⟨above.quiet, table.data_quiet⟩

theorem Above.data_whole (above : Above front) : ∀ line ∈ front ++ table.data, '\n' ∉ line :=
  fun line member => (above.data_quiet line member).whole

/-- The rows are found as a table where no space stands behind the last one. -/
theorem Above.run_data (above : Above front) (closed : table.last.spaced = false) : Run (front ++ table.data) where
  whole := above.data_whole
  barred := List.forall_mem_append.mpr ⟨above.barred, table.data_head⟩
  ended := by
    refine ⟨front ++ table.rows.dropLast.map SpacedRow.source, table.last.inner, ?_⟩
    rw [data_split, SpacedRow.source, SpacedRow.tail, closed]
    simp [SpacedRow.closed]

/-- They are not found as one where a space stands there. -/
theorem Above.unended_data (above : Above front) {shape : BlockShape} (barred : Barred shape)
    (spaced : table.last.spaced = true) (below : Nat) :
    Unended shape (front ++ table.data ++ List.replicate below []) := by
  have last : table.last.source.getLast? = some ' ' := by
    rw [SpacedRow.source, SpacedRow.tail, if_pos spaced, List.getLast?_concat]
  have open_ : Unended shape (table.last.source :: List.replicate below []) :=
    ⟨fun _ => not_suffix_of_last rfl last (by decide), Unended.blanks shape below⟩
  have split : front ++ table.data ++ List.replicate below [] =
      (front ++ table.rows.dropLast.map SpacedRow.source) ++ table.last.source :: List.replicate below [] := by
    rw [data_split]
    simp
  rw [split]
  refine open_.above_row barred ?_
  have rows := table.data_head
  rw [data_split] at rows
  rw [List.append_assoc]
  exact List.forall_mem_append.mpr ⟨above.barred, rows⟩

/-! ## The rules one after another -/

theorem rules_tables (promote : Bool) (text : Text) :
    ((rules promote).drop 3 |>.take 7).foldl (fun current rule => rule current) text =
      onLines (supplyHeader promote) (Table.shape.replaceBlocks surround (cellShape.replaceBlocks convertCells
        (onLines (headerRows false) (onLines (·.map dataRow) (Table.shape.replaceBlocks align
          (Table.shape.replaceBlocks separate text)))))) := rfl

/-- No rule for tables finds the rows where a space stands behind the last one. -/
theorem replace_open (above : Above front) {shape : BlockShape} (barred : Barred shape)
    (spaced : table.last.spaced = true) (render : List Line → List Line) (count below : Nat) :
    shape.replaceBlocks render (amongBlanks (count + 1) (front ++ table.data) below) =
      amongBlanks (count + 1) (front ++ table.data) below := by
  have unended : Unended shape (List.replicate count [] ++ (front ++ table.data ++ List.replicate below [])) := by
    refine (above.unended_data barred spaced below).above fun line member => ?_
    rw [List.eq_of_mem_replicate member]
    decide
  exact replace_unended barred render (whole_among_blanks above.data_whole (count + 1) below) unended

theorem data_rows_below (above : Above front) (kept : ∀ line ∈ front, dataRow line = line) (count below : Nat) :
    onLines (·.map dataRow) (amongBlanks (count + 1) (front ++ table.data) below) =
      amongBlanks (count + 1) (front ++ table.data) below :=
  map_among above.data_whole rfl (List.forall_mem_append.mpr
    ⟨kept, List.forall_mem_map.mpr fun row _ => row.data_row_source⟩) count

theorem blanks_unheaded (count : Nat) :
    ∀ line ∈ List.replicate count ([] : Line), cells? "|h".toList line = none := by
  intro line member
  rw [List.eq_of_mem_replicate member]
  rfl

theorem header_rows_data (below : Nat) (afterHeader : Bool) :
    headerRows afterHeader (table.data ++ List.replicate below []) = table.data ++ List.replicate below [] := by
  have rows := header_rows_of_none (List.forall_mem_append.mpr ⟨table.data_no_header, blanks_unheaded below⟩)
  obtain ⟨first, more, shape⟩ := List.exists_cons_of_ne_nil table.data_ne_nil
  obtain ⟨cells, rfl⟩ := List.head?_eq_some_iff.mp (table.data_head first (by simp [shape]))
  rw [shape] at rows ⊢
  cases afterHeader <;> exact rows

/-- Rows stay below lines that are no header rows. -/
theorem header_rows_below (above : Above front) (unheaded : ∀ line ∈ front, cells? "|h".toList line = none)
    (count below : Nat) : onLines (headerRows false) (amongBlanks (count + 1) (front ++ table.data) below) =
      amongBlanks (count + 1) (front ++ table.data) below := by
  rw [onLines, lines_among count above.data_whole, header_rows_append (blanks_unheaded _), List.append_assoc,
    header_rows_append unheaded, header_rows_data, amongBlanks, List.append_assoc front]

theorem above_header (header : SpacedRow) : Above [header.headerSource] where
  quiet := List.forall_mem_singleton.mpr header.header_source_quiet
  barred := List.forall_mem_singleton.mpr rfl

theorem above_alignment (row : SpacedRow) : Above [row.alignment] where
  quiet := List.forall_mem_singleton.mpr row.alignment_quiet
  barred := List.forall_mem_singleton.mpr row.alignment_closed.head

theorem above_opened (header : SpacedRow) : Above header.opened where
  quiet := List.forall_mem_cons.mpr ⟨header.closed_quiet, (above_alignment header).quiet⟩
  barred := List.forall_mem_cons.mpr ⟨rfl, (above_alignment header).barred⟩

/-- A header row becomes a blank line and two rows. -/
theorem header_rows_header (header : SpacedRow) (count below : Nat) :
    onLines (headerRows false) (amongBlanks (count + 1) ([header.headerSource] ++ table.data) below) =
      amongBlanks (count + 2) (header.opened ++ table.data) below := by
  have rows := header.header_rows_source (table.data ++ List.replicate below [])
  have blank : List.replicate (count + 2) ([] : Line) = List.replicate (count + 1) [] ++ [[]] := List.replicate_succ'
  rw [header_rows_data] at rows
  rw [onLines, lines_among count (above_header header).data_whole, header_rows_append (blanks_unheaded _),
    amongBlanks, blank, List.append_assoc (List.replicate (count + 1) [])]
  exact congrArg (fun lines => unlines (List.replicate (count + 1) [] ++ lines)) rows

/-- What the rules below those for single rows make of rows that are found as a table. -/
theorem framed_closed (above : Above front) (closed : table.last.spaced = false) (count below : Nat) :
    Table.shape.replaceBlocks surround (cellShape.replaceBlocks convertCells
        (amongBlanks (count + 1) (front ++ table.data) (below + 2))) =
      amongBlanks (count + 2) (front ++ table.data) (below + 4) := by
  rw [convert_cells_among (above.run_data closed) above.data_quiet, surround_among (above.run_data closed)]

theorem framed_open (above : Above front) (spaced : table.last.spaced = true) (count below : Nat) :
    Table.shape.replaceBlocks surround (cellShape.replaceBlocks convertCells
        (amongBlanks (count + 1) (front ++ table.data) below)) =
      amongBlanks (count + 1) (front ++ table.data) below := by
  rw [replace_open above cell_shape_barred spaced, replace_open above shape_barred spaced]

/-! ## Tables without a header row -/

theorem above_nothing : Above [] := ⟨by simp, by simp⟩

/-- A table whose last row has a space behind it is not found. -/
theorem tables_of_open (spaced : table.last.spaced = true) (promote : Bool) :
    ((rules promote).drop 3 |>.take 7).foldl (fun current rule => rule current) (amongBlanks 1 table.data 2) =
      amongBlanks 1 table.data 2 := by
  obtain ⟨first, more, rows⟩ := List.exists_cons_of_ne_nil table.nonempty
  have data : table.data = first.source :: more.map SpacedRow.source := by
    rw [SpacedTable.data, rows, List.map_cons]
  have whole : ∀ line ∈ table.data, '\n' ∉ line := fun line member => (table.data_quiet line member).whole
  have bars := table.data_head
  rw [data] at whole bars
  have plain : ¬ startsWith "|:".toList first.source = true := first.not_aligned (by decide)
  have supplied := supply_header_among plain whole bars promote 0 1
  rw [← data] at supplied
  have replace {shape : BlockShape} (barred : Barred shape) (render : List Line → List Line) :
      shape.replaceBlocks render (amongBlanks 1 table.data 2) = amongBlanks 1 table.data 2 :=
    replace_open above_nothing barred spaced render 0 2
  have rows : onLines (·.map dataRow) (amongBlanks 1 table.data 2) = amongBlanks 1 table.data 2 :=
    data_rows_below above_nothing (by simp) 0 2
  have headers : onLines (headerRows false) (amongBlanks 1 table.data 2) = amongBlanks 1 table.data 2 :=
    header_rows_below above_nothing (by simp) 0 2
  rw [rules_tables, replace shape_barred, replace shape_barred, rows, headers, replace cell_shape_barred,
    replace shape_barred]
  exact supplied

theorem align_data (closed : table.last.spaced = false) (below : Nat) :
    Table.shape.replaceBlocks align (amongBlanks 1 table.data (below + 1)) =
      amongBlanks 1 ([table.first.alignment] ++ table.data) (below + 1) := by
  have unheaded : ∀ row ∈ table.data, ¬ "|h".toList <:+ row :=
    List.forall_mem_map.mpr fun row _ => row.source_unheaded
  have first : table.data.headD [] = table.first.source := by
    obtain ⟨header, rows, nonempty⟩ := table
    obtain ⟨first, more, rfl⟩ := List.exists_cons_of_ne_nil nonempty
    rfl
  refine replace_run shape_barred (above_nothing.run_data closed) 0 below rfl fun body isBody => ?_
  rw [List.nil_append] at isBody
  rw [align_run isBody unheaded, first, SpacedRow.source_ended, SpacedRow.alignment_of_count _ rfl]
  rfl

theorem data_cons (table : SpacedTable) : table.data = table.first.source :: table.data.tail := by
  obtain ⟨header, rows, nonempty⟩ := table
  obtain ⟨first, more, rfl⟩ := List.exists_cons_of_ne_nil nonempty
  rfl

/-- A table without a header row is found where no space stands behind its last row, and gets a header. -/
theorem tables_of_closed (closed : table.last.spaced = false) (promote : Bool) :
    ((rules promote).drop 3 |>.take 7).foldl (fun current rule => rule current) (amongBlanks 1 table.data 2) =
      amongBlanks 2 (headed promote table.first.alignment table.first.source ++ table.data.tail) 5 := by
  have above := above_alignment table.first
  have separated : Table.shape.replaceBlocks separate (amongBlanks 1 table.data 2) = amongBlanks 1 table.data 3 :=
    separate_among (above_nothing.run_data closed) 0 1
  have filled : ∀ line ∈ table.data, line ≠ [] := by
    rintro line member rfl
    exact absurd (table.data_head [] member) (by simp)
  rw [data_cons, List.forall_mem_cons] at filled
  have supplied : supplyHeader promote ([] :: [] :: table.first.alignment :: (table.data ++ List.replicate 5 [])) =
      [] :: [] ::
        (headed promote table.first.alignment table.first.source ++ table.data.tail ++ List.replicate 5 []) := by
    rw [supply_header_blank, data_cons, List.cons_append,
      supply_header_aligned table.first.alignment_aligned filled.1, supply_header_filled filled.2,
      supply_header_blanks, List.append_assoc]
    rfl
  rw [rules_tables, separated, align_data closed 2,
    data_rows_below above (List.forall_mem_singleton.mpr table.first.data_row_alignment) 0,
    header_rows_below above (List.forall_mem_singleton.mpr table.first.alignment_closed.no_header) 0,
    framed_closed above closed, onLines, lines_among _ above.data_whole]
  exact congrArg unlines supplied

/-! ## Tables with a header row -/

section Headed

variable (header : SpacedRow)

theorem data_rows_header (below : Nat) :
    onLines (·.map dataRow) (amongBlanks 1 ([header.headerSource] ++ table.data) below) =
      amongBlanks 1 ([header.headerSource] ++ table.data) below :=
  data_rows_below (above_header header) (List.forall_mem_singleton.mpr header.data_row_header_source) 0 below

theorem supply_header_opened (promote : Bool) (count below : Nat) :
    onLines (supplyHeader promote) (amongBlanks (count + 1) (header.opened ++ table.data) (below + 1)) =
      amongBlanks (count + 1) (header.opened ++ table.data) (below + 1) :=
  supply_header_among header.closed_not_aligned (above_opened header).data_whole
    (List.forall_mem_append.mpr ⟨(above_opened header).barred, table.data_head⟩) promote count below

/-- A header row is found as such without a table. -/
theorem tables_of_header_open (spaced : table.last.spaced = true) (promote : Bool) :
    ((rules promote).drop 3 |>.take 7).foldl (fun current rule => rule current)
        (amongBlanks 1 ([header.headerSource] ++ table.data) 2) =
      amongBlanks 2 (header.opened ++ table.data) 2 := by
  have replace (render : List Line → List Line) :
      Table.shape.replaceBlocks render (amongBlanks 1 ([header.headerSource] ++ table.data) 2) =
        amongBlanks 1 ([header.headerSource] ++ table.data) 2 :=
    replace_open (above_header header) shape_barred spaced render 0 2
  rw [rules_tables, replace, replace, data_rows_header, header_rows_header header 0,
    framed_open (above_opened header) spaced 1, supply_header_opened header promote 1 1]

theorem align_header (unspaced : header.spaced = false) (closed : table.last.spaced = false) (below : Nat) :
    Table.shape.replaceBlocks align (amongBlanks 1 ([header.headerSource] ++ table.data) (below + 1)) =
      amongBlanks 1 ([header.headerSource] ++ table.data) (below + 1) := by
  have marked : "|h".toList <:+ header.headerSource.tail := by
    rw [SpacedRow.headerSource, SpacedRow.tail, unspaced]
    exact ⟨header.inner, (List.append_nil _).symm⟩
  refine replace_run shape_barred ((above_header header).run_data closed) 0 below rfl fun body isBody => ?_
  rw [data_cons] at isBody ⊢
  exact align_headed isBody marked

/-- A header row without a space behind it stays above the rows of its table. -/
theorem tables_of_header_closed (unspaced : header.spaced = false) (closed : table.last.spaced = false)
    (promote : Bool) :
    ((rules promote).drop 3 |>.take 7).foldl (fun current rule => rule current)
        (amongBlanks 1 ([header.headerSource] ++ table.data) 2) =
      amongBlanks 3 (header.opened ++ table.data) 5 := by
  rw [rules_tables, separate_among ((above_header header).run_data closed) 0 1, align_header header unspaced closed 2,
    data_rows_header, header_rows_header header 0, framed_closed (above_opened header) closed 1 1,
    supply_header_opened header promote 2 4]

/-- A header row with a space behind it is the first row of a table for the rule that writes alignment rows. -/
theorem align_spaced_header (spaced : header.spaced = true) (closed : table.last.spaced = false) (below : Nat) :
    Table.shape.replaceBlocks align (amongBlanks 1 ([header.headerSource] ++ table.data) (below + 1)) =
      amongBlanks 1 ([header.alignment, header.headerSource] ++ table.data) (below + 1) := by
  have unheaded : ∀ row ∈ [header.headerSource] ++ table.data, ¬ "|h".toList <:+ row :=
    List.forall_mem_append.mpr ⟨List.forall_mem_singleton.mpr (header.spaced_header_unheaded spaced),
      List.forall_mem_map.mpr fun row _ => row.source_unheaded⟩
  refine replace_run shape_barred ((above_header header).run_data closed) 0 below rfl fun body isBody => ?_
  rw [align_run isBody unheaded, List.singleton_append, List.headD_cons, SpacedRow.header_source_ended,
    SpacedRow.alignment_of_count _ rfl]
  rfl

/-- The alignment row stands on its own where the header row has got a blank line above it. -/
def separated (header : SpacedRow) (table : SpacedTable) (above between below : Nat) : List Line :=
  List.replicate above [] ++ (header.alignment :: (List.replicate between [] ++
    (header.opened ++ table.data ++ List.replicate below [])))

theorem separated_whole (above between below : Nat) :
    ∀ line ∈ separated header table above between below, '\n' ∉ line := by
  refine List.forall_mem_append.mpr
    ⟨blank_lines_whole _, List.forall_mem_cons.mpr ⟨header.alignment_quiet.whole, ?_⟩⟩
  exact List.forall_mem_append.mpr ⟨blank_lines_whole _,
    List.forall_mem_append.mpr ⟨(above_opened header).data_whole, blank_lines_whole _⟩⟩

theorem lines_separated (above between below : Nat) :
    lines (unlines (separated header table above between below)) = separated header table above between below :=
  lines_unlines (by simp [separated]) (separated_whole header above between below)

theorem header_rows_spaced (below : Nat) :
    onLines (headerRows false) (amongBlanks 1 ([header.alignment, header.headerSource] ++ table.data) below) =
      unlines (separated header table 1 1 below) := by
  have whole : ∀ line ∈ [header.alignment, header.headerSource] ++ table.data, '\n' ∉ line :=
    List.forall_mem_cons.mpr ⟨header.alignment_quiet.whole, (above_header header).data_whole⟩
  have unheaded : ∀ line ∈ [[], header.alignment], cells? "|h".toList line = none :=
    List.forall_mem_cons.mpr ⟨rfl, List.forall_mem_singleton.mpr header.alignment_closed.no_header⟩
  have rows := header_rows_append unheaded (header.headerSource :: (table.data ++ List.replicate below []))
  rw [SpacedRow.header_rows_source, header_rows_data] at rows
  rw [onLines, lines_among 0 whole]
  exact congrArg unlines rows

theorem alignment_run : Run [header.alignment] :=
  .of_closed (List.cons_ne_nil _ _) (List.forall_mem_singleton.mpr header.alignment_closed)

theorem convert_cells_separated (closed : table.last.spaced = false) :
    cellShape.replaceBlocks convertCells (unlines (separated header table 1 1 3)) =
      unlines (separated header table 1 2 4) := by
  have above := above_alignment header
  have inert : ∀ line ∈ (List.replicate 3 ([] : Line)).take (cellShape.inert (List.replicate 3 [])), line = [] :=
    fun line member => List.eq_of_mem_replicate (List.mem_of_mem_take member)
  have rows := result_of_run cell_shape_barred (above.run_data closed)
    (show cellShape.endsBefore _ = true from rfl) inert fun body isBody =>
      convert_cells_quiet isBody (above.run_data closed).ne_nil above.data_quiet
  have all := @result_of_run_inert _ ([header.alignment] ++ table.data ++ List.replicate 3 []) (alignment_run header)
    _ _ header.closed fun body isBody => convert_cells_quiet isBody (List.cons_ne_nil _ _) above.quiet
  rw [rows, result_of_end cell_shape_barred] at all
  rw [BlockShape.replace_blocks_eq, lines_separated]
  refine congrArg (fun lines => unlines ([] :: lines)) (all.trans ?_)
  simp [SpacedRow.opened]

theorem surround_separated (closed : table.last.spaced = false) :
    Table.shape.replaceBlocks surround (unlines (separated header table 1 2 4)) =
      unlines (separated header table 2 4 5) := by
  have rows := result_of_run shape_barred ((above_opened header).run_data closed)
    (show Table.shape.endsBefore (List.replicate 4 []) = true from rfl) (by simp [Table.shape])
    fun _ isBody => surround_run isBody
  have alone := @result_of_run _ _ (List.replicate 2 [] ++ (header.opened ++ table.data ++
    List.replicate 4 [])) shape_barred (alignment_run header) _ _ rfl (by simp [Table.shape])
      fun _ isBody => surround_run isBody
  rw [result_of_blanks shape_barred, rows, result_of_end shape_barred] at alone
  rw [BlockShape.replace_blocks_eq, lines_separated]
  refine congrArg (fun lines => unlines ([] :: lines)) (alone.trans ?_)
  simp [List.replicate_succ]

/-- The alignment row that stands on its own gets an empty header, or changes places with a blank line. -/
theorem supply_separated (promote : Bool) : ∃ above between,
    onLines (supplyHeader promote) (unlines (separated header table 2 4 5)) =
      unlines (List.replicate (above + 2) [] ++ (detached promote header ++ (List.replicate (between + 1) [] ++
        (header.opened ++ table.data ++ List.replicate 5 [])))) := by
  have filled : ∀ line ∈ header.opened ++ table.data, line ≠ [] := by
    rintro line member rfl
    have bars := List.forall_mem_append.mpr ⟨(above_opened header).barred, table.data_head⟩
    exact absurd (bars [] member) (by simp)
  have rows (count : Nat) := @supply_header_unaligned promote _ _ header.closed_not_aligned filled count 4
  have below : supplyHeader promote ([] :: (List.replicate 3 [] ++ (header.opened ++ table.data ++
      List.replicate 5 []))) = List.replicate 4 [] ++ (header.opened ++ table.data ++
        List.replicate 5 []) := rows 3
  have top : separated header table 2 4 5 = [] :: [] :: header.alignment :: [] :: (List.replicate 3 [] ++
      (header.opened ++ table.data ++ List.replicate 5 [])) := rfl
  rw [onLines, lines_separated, top, supply_header_blank, supplyHeader, if_pos header.alignment_aligned, below]
  cases promote with
  | false => exact ⟨0, 3, rfl⟩
  | true => exact ⟨1, 2, rfl⟩

/-- A header row with a space behind it stands above its table without being found as its header. -/
theorem tables_of_spaced_header (spaced : header.spaced = true) (closed : table.last.spaced = false)
    (promote : Bool) : ∃ above between,
    ((rules promote).drop 3 |>.take 7).foldl (fun current rule => rule current)
        (amongBlanks 1 ([header.headerSource] ++ table.data) 2) =
      unlines (List.replicate (above + 2) [] ++ (detached promote header ++ (List.replicate (between + 1) [] ++
        (header.opened ++ table.data ++ List.replicate 5 [])))) := by
  have rows : onLines (·.map dataRow) (amongBlanks 1 ([header.alignment, header.headerSource] ++ table.data) 3) =
      amongBlanks 1 ([header.alignment, header.headerSource] ++ table.data) 3 := by
    have above : Above [header.alignment, header.headerSource] :=
      ⟨List.forall_mem_cons.mpr ⟨header.alignment_quiet, (above_header header).quiet⟩,
        List.forall_mem_cons.mpr ⟨header.alignment_closed.head, (above_header header).barred⟩⟩
    exact data_rows_below above (List.forall_mem_cons.mpr
      ⟨header.data_row_alignment, List.forall_mem_singleton.mpr header.data_row_header_source⟩) 0 3
  obtain ⟨above, between, supplied⟩ := @supply_separated table header promote
  refine ⟨above, between, ?_⟩
  rw [rules_tables, separate_among ((above_header header).run_data closed) 0 1,
    align_spaced_header header spaced closed 2, rows, header_rows_spaced, convert_cells_separated header closed,
    surround_separated header closed, supplied]

end Headed

end SpacedTable

end Wikidown
