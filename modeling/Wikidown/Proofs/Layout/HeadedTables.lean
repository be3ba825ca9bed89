import Wikidown.Proofs.Composition.Arranged
import Wikidown.Proofs.Layout.MarkedRows
import Wikidown.Proofs.Layout.Tables

/-!
# The layout of tables with headers

A header row opens a table but does not end one: above other rows it is part of a table from the
start, and on its own it becomes one only when its alignment row has been written below it. By then the
cells of tables have been looked for once, and the blank line below has given way.
-/

namespace Wikidown

set_option autoImplicit false

open Layout Layout.Table

/-- A header row and the rows below it. -/
structure HeadedTable where
  header : MarkedRow
  rows : List MarkedRow

namespace HeadedTable

variable (table : HeadedTable)

def source : List Line := table.header.headerSource :: table.rows.map MarkedRow.source

def columns : Nat := table.header.cells.length

/-- The header row, the alignment row and the rows below, each with its inline notation converted. -/
def rendered : List Line :=
  table.header.rendered :: alignmentRow table.columns :: table.rows.map MarkedRow.rendered

/-- The header row as it comes to stand above its alignment row. The inline notation of a table is
converted with its rows, so not where it has none. -/
def top : Line :=
  if table.rows.isEmpty then table.header.cleaned else Inline.convert table.header.cleaned

def converted : List Line :=
  table.top :: alignmentRow table.columns :: table.rows.map fun row => Inline.convert row.cleaned

/-- The rows of a table. Where its header row looks like an alignment row, its alignment row is taken
for the first row below. -/
def supplied (promote : Bool) : List Line :=
  (if table.header.aligned then headed promote table.top (alignmentRow table.columns)
    else [table.top, alignmentRow table.columns]) ++
      table.rows.map fun row => Inline.convert row.cleaned

def written (promote : Bool) : List Line := (table.supplied promote).map escape

end HeadedTable

namespace HeadedTable

variable {promote : Bool} (table : HeadedTable)

theorem columns_succ : ∃ count, table.columns = count + 1 :=
  Nat.exists_eq_succ_of_ne_zero fun none => table.header.nonempty (List.length_eq_zero_iff.mp none)

theorem alignment_closed : Closed (alignmentRow table.columns) := by
  obtain ⟨count, same⟩ := table.columns_succ
  rw [same]
  exact .alignment_row count

theorem source_whole : ∀ line ∈ table.source, '\n' ∉ line := by
  have header := table.header.inner_apart (by decide) (by decide) MarkedCell.whole
  refine List.forall_mem_cons.mpr ⟨by simp [MarkedRow.headerSource, header], ?_⟩
  exact List.forall_mem_map.mpr fun row _ => row.source_closed.1

theorem source_uniform : ∀ line ∈ table.source, '\r' ∉ line := by
  have inner (row : MarkedRow) := row.inner_apart (by decide) (by decide) MarkedCell.uniform
  refine List.forall_mem_cons.mpr ⟨by simp [MarkedRow.headerSource, inner], ?_⟩
  exact List.forall_mem_map.mpr fun row _ => by simp [MarkedRow.source, inner]

theorem source_head : ∀ line ∈ table.source, line.head? = some '|' :=
  List.forall_mem_cons.mpr ⟨rfl, List.forall_mem_map.mpr fun _ _ => rfl⟩

theorem lines_below_blank {content : List Line} (whole : ∀ line ∈ content, '\n' ∉ line) (below : Nat) :
    lines (unlines ([] :: (content ++ List.replicate below []))) = [] :: (content ++ List.replicate below []) :=
  lines_unlines (List.cons_ne_nil _ _) (whole_among_blanks whole 1 below)

/-- The rows of a table when only those below its header row have been cleaned. -/
def opened : List Line := table.header.headerSource :: table.rows.map MarkedRow.cleaned

/-- The rows of a table before their inline notation is converted. -/
def cleaned : List Line :=
  table.header.cleaned :: alignmentRow table.columns :: table.rows.map MarkedRow.cleaned

theorem cleaned_closed : ∀ row ∈ table.cleaned, Closed row :=
  List.forall_mem_cons.mpr ⟨table.header.cleaned_closed, List.forall_mem_cons.mpr ⟨table.alignment_closed,
    List.forall_mem_map.mpr fun row _ => row.cleaned_closed⟩⟩

theorem converted_closed : ∀ row ∈ table.converted, Closed row := by
  refine List.forall_mem_cons.mpr ⟨?_, List.forall_mem_cons.mpr ⟨table.alignment_closed,
    List.forall_mem_map.mpr fun row _ => row.cleaned_closed.convert⟩⟩
  unfold top
  split
  · exact table.header.cleaned_closed
  · exact table.header.cleaned_closed.convert

theorem header_rows_blank (rest : List Line) : headerRows false ([] :: rest) = [] :: headerRows false rest :=
  header_rows_append (List.forall_mem_singleton.mpr rfl) rest

/-! ## A header row above other rows -/

section Rows

variable (filled : table.rows ≠ [])

include filled

/-- A header row opens a table that the last of its rows ends. -/
theorem source_run : Run table.source where
  whole := table.source_whole
  barred := table.source_head
  ended := by
    obtain ⟨above, last, rows⟩ := (List.eq_nil_or_concat' table.rows).resolve_left filled
    exact ⟨table.header.headerSource :: above.map MarkedRow.source, last.inner, by simp [source, rows, MarkedRow.source]⟩

theorem separate_source : Table.shape.replaceBlocks separate (unlines ([] :: (table.source ++ [[], []]))) =
    unlines ([] :: (table.source ++ [[], [], []])) := by
  have found := replace_run shape_barred (table.source_run filled) 0 1 rfl fun body => separate_run
  refine found.trans ?_
  rw [List.append_assoc]
  rfl

theorem align_source : Table.shape.replaceBlocks align (unlines ([] :: (table.source ++ [[], [], []]))) =
    unlines ([] :: (table.source ++ [[], [], []])) := by
  have kept (body : List Line) (isBody : BodyOf Table.shape table.source body) : align body = table.source := by
    obtain ⟨row, more, rows⟩ := List.exists_cons_of_ne_nil filled
    rw [source, rows, List.map_cons] at isBody ⊢
    exact align_headed isBody ⟨table.header.inner, rfl⟩
  exact replace_run shape_barred (table.source_run filled) 0 2 rfl kept

/-- The blank line below a table is left where rows stand below its header. -/
theorem header_rows_of_rows : headerRows false ([] :: (table.opened ++ List.replicate 3 [])) =
    List.replicate 2 [] ++ (table.cleaned ++ List.replicate 3 []) := by
  obtain ⟨row, more, shape⟩ := List.exists_cons_of_ne_nil filled
  have first : headerRows true (row.cleaned :: (more.map MarkedRow.cleaned ++ List.replicate 3 [])) =
      headerRows false (row.cleaned :: (more.map MarkedRow.cleaned ++ List.replicate 3 [])) := rfl
  have blank : ∀ line ∈ List.replicate 3 ([] : Line), cells? "|h".toList line = none := by
    intro line member
    rw [List.eq_of_mem_replicate member]
    rfl
  have none : ∀ line ∈ table.rows.map MarkedRow.cleaned ++ List.replicate 3 [], cells? "|h".toList line = none :=
    List.forall_mem_append.mpr
      ⟨List.forall_mem_map.mpr fun row _ => row.cleaned_closed.no_header, blank⟩
  have below := header_rows_of_none none
  rw [shape, List.map_cons, List.cons_append, ← first, ← List.cons_append, ← List.map_cons, ← shape] at below
  rw [opened, List.cons_append, header_rows_blank, table.header.header_rows, below]
  rfl

end Rows

theorem opened_whole : ∀ line ∈ table.opened, '\n' ∉ line :=
  List.forall_mem_cons.mpr ⟨table.source_whole _ List.mem_cons_self,
    List.forall_mem_map.mpr fun row _ => row.cleaned_closed.1⟩

theorem data_rows_source (below : Nat) :
    onLines (·.map dataRow) (unlines ([] :: (table.source ++ List.replicate below []))) =
      unlines ([] :: (table.opened ++ List.replicate below [])) := by
  have empty : dataRow [] = [] := rfl
  have rows : (table.rows.map MarkedRow.source).map dataRow = table.rows.map MarkedRow.cleaned := by
    rw [List.map_map]
    exact List.map_congr_left fun row _ => row.data_row
  rw [onLines, lines_below_blank table.source_whole, source, opened,
    List.map_cons, List.map_append, List.map_cons, List.map_replicate, empty,
    table.header.data_row_header, rows]

theorem header_rows_opened (below : Nat) :
    onLines (headerRows false) (unlines ([] :: (table.opened ++ List.replicate below []))) =
      unlines (headerRows false ([] :: (table.opened ++ List.replicate below []))) := by
  rw [onLines, lines_below_blank table.opened_whole]

theorem convert_cells_cleaned (filled : table.rows ≠ []) : cellShape.replaceBlocks convertCells
      (unlines (List.replicate 2 [] ++ (table.cleaned ++ List.replicate 3 []))) =
    unlines (List.replicate 2 [] ++ (table.converted ++ List.replicate 4 [])) := by
  have nonempty : table.cleaned ≠ [] := List.cons_ne_nil _ _
  have same : table.cleaned.map Inline.convert = table.converted := by
    rw [cleaned, converted, top, if_neg (by simpa using filled), List.map_cons, List.map_cons,
      convert_alignment_row, List.map_map]
    rfl
  have found := replace_run cell_shape_barred (.of_closed nonempty table.cleaned_closed) 1 2 rfl
    fun body isBody => convert_cells_run isBody nonempty table.cleaned_closed
  rw [same] at found
  refine found.trans ?_
  rw [List.append_assoc]
  rfl

theorem surround_converted (below : Nat) : Table.shape.replaceBlocks surround
      (unlines (List.replicate 2 [] ++ (table.converted ++ List.replicate (below + 1) []))) =
    unlines (List.replicate 3 [] ++ (table.converted ++ List.replicate (below + 2) [])) := by
  have nonempty : table.converted ≠ [] := List.cons_ne_nil _ _
  have found := replace_run shape_barred (.of_closed nonempty table.converted_closed) 1 below rfl
    fun body isBody => surround_run isBody
  refine found.trans ?_
  simp [List.replicate_succ]

/-! ## A header row on its own -/

section Single

variable (single : table.rows = [])

include single

/-- A header row ends no table. -/
theorem replace_single (render : List Line → List Line) :
    Table.shape.replaceBlocks render (unlines ([] :: (table.source ++ [[], []]))) =
      unlines ([] :: (table.source ++ [[], []])) := by
  have open_ : ∀ line ∈ table.source, ¬ ['|'] <:+ line := by
    rw [source, single, List.map_nil, List.forall_mem_singleton]
    exact not_suffix_of_last rfl table.header.header_source_last (by decide)
  exact replace_unended shape_barred render (whole_among_blanks table.source_whole 1 2)
    ((Unended.blanks Table.shape 2).above open_)

/-- Nothing is below a header row on its own that a table could end before. -/
theorem convert_cells_single : cellShape.replaceBlocks convertCells
      (unlines (List.replicate 2 [] ++ (table.converted ++ [[]]))) =
    unlines (List.replicate 2 [] ++ (table.converted ++ [[]])) := by
  have converted : table.converted = [table.top, alignmentRow table.columns] := by
    rw [converted, single, List.map_nil]
  have bars : ∀ row ∈ [table.top] ++ [alignmentRow table.columns], row.head? = some '|' := fun row member =>
    (table.converted_closed row (by rwa [converted])).head
  have below : Unended cellShape (alignmentRow table.columns :: [[]]) :=
    ⟨fun ends => absurd ends (by decide), Unended.blanks cellShape 1⟩
  have unended : Unended cellShape ([] :: (table.converted ++ [[]])) := by
    rw [converted]
    exact ⟨fun _ bar => absurd bar (by decide), below.above_row cell_shape_barred bars⟩
  exact replace_unended cell_shape_barred convertCells
    (whole_among_blanks (fun row member => (table.converted_closed row member).1) 2 1) unended

theorem header_rows_single : headerRows false ([] :: (table.opened ++ List.replicate 2 [])) =
    List.replicate 2 [] ++ (table.converted ++ [[]]) := by
  have dropped : headerRows true (List.replicate 2 []) = [[]] := rfl
  rw [header_rows_blank, opened, converted, top, single, List.map_nil, List.map_nil, List.singleton_append,
    table.header.header_rows, dropped]
  rfl

end Single

/-! ## The rules for tables -/

/-- What the rules for tables do before they look for missing headers. -/
theorem rules_converted (promote : Bool) : ∃ below,
    ((rules promote).drop 3 |>.take 6).foldl (fun current rule => rule current)
        (unlines ([] :: (table.source ++ [[], []]))) =
      unlines (List.replicate 3 [] ++ (table.converted ++ List.replicate (below + 2) [])) := by
  simp only [rules, List.drop_succ_cons, List.drop_zero, List.take_succ_cons, List.take_zero,
    List.foldl_cons, List.foldl_nil]
  by_cases single : table.rows = []
  · refine ⟨0, ?_⟩
    have rows := table.data_rows_source 2
    have headers := table.header_rows_opened 2
    rw [table.header_rows_single single] at headers
    rw [table.replace_single single, table.replace_single single]
    refine (congrArg _ (congrArg _ (congrArg _ rows))).trans ?_
    rw [headers, table.convert_cells_single single]
    exact table.surround_converted 0
  · refine ⟨3, ?_⟩
    have rows := table.data_rows_source 3
    have headers := table.header_rows_opened 3
    rw [table.header_rows_of_rows single] at headers
    rw [table.separate_source single, table.align_source single]
    refine (congrArg _ (congrArg _ (congrArg _ rows))).trans ?_
    rw [headers, table.convert_cells_cleaned single]
    exact table.surround_converted 3

/-! ## Headers -/

theorem top_aligned : startsWith "|:".toList table.top = table.header.aligned := by
  unfold top
  split
  · rfl
  · exact table.header.convert_aligned

theorem supply_converted (promote : Bool) (below : Nat) :
    onLines (supplyHeader promote)
        (unlines (List.replicate 3 [] ++ (table.converted ++ List.replicate (below + 2) []))) =
      unlines (List.replicate 3 [] ++ (table.supplied promote ++ List.replicate (below + 2) [])) := by
  have filled : ∀ row ∈ table.converted, row ≠ [] := fun row member =>
    (table.converted_closed row member).ne_nil
  have behind : supplyHeader promote ((table.rows.map fun row => Inline.convert row.cleaned) ++
      List.replicate (below + 2) []) =
        (table.rows.map fun row => Inline.convert row.cleaned) ++ List.replicate (below + 2) [] := by
    rw [supply_header_filled fun row member => filled row (by simp [converted, member]), supply_header_blanks]
  have supplied : supplyHeader promote ([] :: (table.converted ++ List.replicate (below + 2) [])) =
      [] :: (table.supplied promote ++ List.replicate (below + 2) []) := by
    cases aligned : table.header.aligned with
    | true =>
        have top := table.top_aligned.trans aligned
        rw [converted, List.cons_append, List.cons_append, supply_header_aligned top table.alignment_closed.ne_nil,
          behind, HeadedTable.supplied, aligned, if_pos rfl, List.append_assoc]
    | false =>
        have top : ¬ startsWith "|:".toList table.top = true := by
          rw [table.top_aligned, aligned]
          decide
        rw [HeadedTable.supplied, aligned, if_neg (by decide)]
        exact supply_header_unaligned top filled 0 (below + 1)
  have content := lines_unlines (by simp)
    (whole_among_blanks (fun row member => (table.converted_closed row member).1) 3 (below + 2))
  rw [onLines, content]
  refine congrArg unlines ?_
  refine (@supply_header_blank promote _).trans (congrArg ([] :: ·) ?_)
  exact (@supply_header_blank promote _).trans (congrArg ([] :: ·) supplied)

theorem empty_header_closed {row : Line} (closed : Closed row) : Closed (emptyHeader row) := by
  obtain ⟨whole, cells, rfl⟩ := closed
  have bar : emptyHeader ['|'] = ['|'] := by
    rw [empty_header_cons (by decide), emptyHeader]
  obtain ⟨kept, same, split⟩ := empty_header_append cells ['|']
  have ends : emptyHeader (cells ++ ['|']) = emptyHeader cells ++ ['|'] := by
    rw [split]
    rcases same with rfl | rfl
    · rw [bar]
    · exact congrArg (emptyHeader cells ++ ·) bar
  refine ⟨fun feed => whole (@Lacks.mem_visible false _ _ feed), emptyHeader cells, ?_⟩
  rw [empty_header_cons (by decide), ends]

theorem supplied_closed (promote : Bool) : ∀ row ∈ table.supplied promote, Closed row := by
  have converted := table.converted_closed
  rw [HeadedTable.converted, List.forall_mem_cons, List.forall_mem_cons] at converted
  obtain ⟨top, alignment, rows⟩ := converted
  refine List.forall_mem_append.mpr ⟨?_, rows⟩
  cases table.header.aligned <;> cases promote <;>
    simp [headed, top, alignment, empty_header_closed]

theorem written_closed (promote : Bool) : ∀ row ∈ table.written promote, Closed row :=
  List.forall_mem_map.mpr fun row member => (table.supplied_closed promote row member).escape

/-! ## The layout -/

theorem only_rows_source : OnlyRows (unlines ([] :: (table.source ++ [[], []]))) :=
  .among_blanks table.source_whole table.source_uniform table.source_head 0 2

/-- The layout of a table with a header row. -/
theorem convert_source (promote : Bool) : ∃ below,
    Layout.convert promote (unlines ([] :: (table.source ++ [[], []]))) =
      unlines (List.replicate 3 [] ++ (table.written promote ++ List.replicate (below + 2) [])) := by
  obtain ⟨below, tables⟩ := table.rules_converted promote
  refine ⟨below, ?_⟩
  have closed := table.supplied_closed promote
  have rows : ∀ line ∈ List.replicate 3 [] ++ (table.supplied promote ++ List.replicate (below + 2) []),
      BlankOrRow line :=
    List.forall_mem_append.mpr ⟨blank_or_row_replicate 3, List.forall_mem_append.mpr
      ⟨fun row member => .inr (closed row member).head, blank_or_row_replicate (below + 2)⟩⟩
  have all : ((rules promote).drop 3 |>.take 7).foldl (fun current rule => rule current)
      (unlines ([] :: (table.source ++ [[], []]))) =
        unlines (List.replicate 3 [] ++ (table.supplied promote ++ List.replicate (below + 2) [])) := by
    have cut : ((rules promote).drop 3).take 7 = ((rules promote).drop 3).take 6 ++
        [onLines (supplyHeader promote)] := rfl
    rw [cut, List.foldl_append, tables]
    exact table.supply_converted promote below
  have empty : escape [] = [] := escape_of_absent (by decide)
  rw [table.only_rows_source.convert (by simp)
    (whole_among_blanks (fun row member => (closed row member).1) 3 (below + 2)) rows all]
  rw [List.map_append, List.map_append, List.map_replicate, List.map_replicate, empty]
  rfl

end HeadedTable

end Wikidown
