import Wikidown.Proofs.Layout.HeadedTables
import Wikidown.Proofs.Tables

/-!
# Conversion of tables with headers

A table with a header row is converted to the header row, an alignment row and the rows below, unless the
header row looks like an alignment row itself, or has inline notation and stands on its own.
-/

namespace Wikidown

set_option autoImplicit false

open Layout Layout.Table

namespace HeadedTable

variable {promote : Bool} (table : HeadedTable)

theorem source_ne_nil : table.source ≠ [] := List.cons_ne_nil _ _

theorem supplied_ne_nil (promote : Bool) : table.supplied promote ≠ [] := by
  unfold supplied headed
  cases table.header.aligned <;> cases promote <;> simp

theorem written_ne_nil (promote : Bool) : table.written promote ≠ [] := by
  simpa [written] using table.supplied_ne_nil promote

theorem lines_source : lines (unlines table.source) = table.source :=
  lines_unlines table.source_ne_nil table.source_whole

theorem only_rows : OnlyRows (unlines table.source) where
  uniform := not_mem_unlines (by decide) table.source_uniform
  barred line member := by
    rw [lines_source] at member
    exact .inr (table.source_head line member)

theorem masked_source : Document.masked (unlines table.source) =
    ⟨unlines ([] :: (table.source ++ [[], []])), .empty⟩ := by
  rw [table.only_rows.masked, lines_source]

theorem arranged_source (promote : Bool) : Document.arranged promote (unlines table.source) =
    doubleFeed ++ (unlines (table.written promote) ++ doubleFeed) := by
  have filled : ∀ line ∈ table.written promote, '\n' ∉ line ∧ line ≠ [] := fun line member =>
    ⟨(table.written_closed promote line member).1, (table.written_closed promote line member).ne_nil⟩
  obtain ⟨below, converted⟩ := table.convert_source promote
  rw [Document.arranged, masked_source, converted, collapse_eq_squeeze]
  exact squeeze_framed 3 below (table.written_ne_nil promote) filled

/-! ## What a table lacks -/

/-- Nothing in a table can be read as a placeholder, in its empty header neither. -/
def Readable (promote : Bool) : Prop :=
  table.header.aligned = true → promote = false → Lacks false mark table.header.cleaned

theorem top_lacks {kept : Bool} (lacks : Lacks kept mark table.header.cleaned) : Lacks kept mark table.top := by
  unfold top
  split
  · exact lacks
  · exact Inline.convert_lacks .opening lacks

theorem written_lacks (readable : table.Readable promote) :
    ∀ line ∈ table.written promote, Lacks true mark line := by
  have top := table.top_lacks table.header.cleaned_lacks
  have alignment := @alignment_row_lacks true mark .opening table.columns
  have headers : ∀ line ∈ (if table.header.aligned then headed promote table.top (alignmentRow table.columns)
      else [table.top, alignmentRow table.columns]), Lacks true mark line := by
    cases aligned : table.header.aligned with
    | false => simp [top, alignment]
    | true =>
        cases promote with
        | true => simp [headed, top, alignment]
        | false =>
            have empty := empty_header_lacks (table.top_lacks (readable aligned rfl))
            simp [headed, top, alignment, empty]
  have rows : ∀ line ∈ table.rows.map fun row => Inline.convert row.cleaned, Lacks true mark line :=
    List.forall_mem_map.mpr fun row _ => Inline.convert_lacks .opening row.cleaned_lacks
  exact List.forall_mem_map.mpr fun line member =>
    escape_lacks .opening (List.forall_mem_append.mpr ⟨headers, rows⟩ line member)

theorem arranged_lacks (readable : table.Readable promote) :
    Lacks true mark (Document.arranged promote (unlines table.source)) := by
  have lacks := (Lacks.unlines_iff .opening).mpr (table.written_lacks readable)
  have feed : Lacks true mark ['\n'] := (Lacks.cons_iff .opening (by decide)).mpr (.nil .opening)
  have below : Lacks true mark (unlines (table.written promote) ++ doubleFeed) :=
    (Lacks.between_iff .opening (by decide)).mpr ⟨lacks, feed⟩
  rw [arranged_source]
  exact (Lacks.cons_iff .opening (by decide)).mpr ((Lacks.cons_iff .opening (by decide)).mpr below)

theorem restored_source (readable : table.Readable promote) :
    Document.restored promote (unlines table.source) =
      .ok (doubleFeed ++ (unlines (table.written promote) ++ doubleFeed)) := by
  rw [table.only_rows.restored (table.arranged_lacks readable), arranged_source]

theorem trim_written (promote : Bool) :
    trim (doubleFeed ++ (unlines (table.written promote) ++ doubleFeed)) = unlines (table.written promote) :=
  (BarEnds.of_rows (table.written_ne_nil promote) (table.written_closed promote)).trim_below doubleFeed
    blank_double_feed

/-! ## The lines of a table -/

theorem written_rows (promote : Bool) : table.written promote =
    (if table.header.aligned then headed promote table.top (alignmentRow table.columns)
      else [table.top, alignmentRow table.columns]).map escape ++ table.rows.map MarkedRow.rendered := by
  rw [written, supplied, List.map_append, List.map_map]
  rfl

theorem escape_top_iff : escape table.top = table.header.rendered ↔
    (table.rows = [] → escape table.header.cleaned = table.header.rendered) := by
  by_cases single : table.rows = []
  · simp [top, single]
  · simp [top, single, MarkedRow.rendered]

/-- The tables that have exactly the lines of their rows. -/
theorem written_eq_rendered_iff (promote : Bool) : table.written promote = table.rendered ↔
    (table.header.aligned = true → promote = true ∧ table.header.rendered = alignmentRow table.columns) ∧
      (table.rows = [] → escape table.header.cleaned = table.header.rendered) := by
  have alignment := escape_alignment_row table.columns
  rw [← escape_top_iff, written_rows, rendered]
  cases aligned : table.header.aligned with
  | false => simp [alignment]
  | true =>
      cases promote with
      | true =>
          -- The alignment row stands first, so the header row has to be the same.
          simp only [headed, if_true, List.map_cons, List.map_nil, alignment, List.cons_append, List.nil_append,
            List.cons.injEq, and_true, true_and, forall_const]
          constructor
          · rintro ⟨same, shown⟩
            exact ⟨same.symm, shown.trans same⟩
          · rintro ⟨same, shown⟩
            exact ⟨same.symm, shown.trans same⟩
      | false =>
          -- The empty header is one line too many.
          refine iff_of_false (fun same => ?_) fun shown => absurd (shown.1 rfl).1 (by decide)
          have lengths := congrArg List.length same
          simp [headed] at lengths

theorem rendered_whole : ∀ line ∈ table.rendered, '\n' ∉ line := by
  have row (row : MarkedRow) : '\n' ∉ row.rendered := row.cleaned_closed.convert.escape.1
  refine List.forall_mem_cons.mpr ⟨row _, List.forall_mem_cons.mpr ⟨table.alignment_closed.1, ?_⟩⟩
  exact List.forall_mem_map.mpr fun one _ => row one

theorem unlines_written_iff (promote : Bool) :
    unlines (table.written promote) = unlines table.rendered ↔ table.written promote = table.rendered := by
  refine ⟨fun same => ?_, congrArg unlines⟩
  have shown := congrArg lines same
  rwa [lines_unlines (table.written_ne_nil promote) fun row member => (table.written_closed promote row member).1,
    lines_unlines (show table.rendered ≠ [] from List.cons_ne_nil _ _) table.rendered_whole] at shown

end HeadedTable

/-- A table with a header row is converted to the lines of its rows exactly if no colon begins its header
row, or the header row is the same as the alignment row with which it changes places, and if on its own the
header row has no inline notation. -/
theorem convert_headed_table (options : Options) (table : HeadedTable)
    (readable : table.Readable options.promoteFirstRow) :
    convert options (unlines table.source) =
      .ok (withLineEndings options.crlf (unlines (table.written options.promoteFirstRow))) ∧
    (convert options (unlines table.source) = .ok (withLineEndings options.crlf (unlines table.rendered)) ↔
      ((∃ cell ∈ table.header.cells.head?, cell.text.head? = some ':') →
        options.promoteFirstRow = true ∧ table.header.rendered = alignmentRow table.columns) ∧
      (table.rows = [] → escape table.header.cleaned = table.header.rendered)) := by
  have converted : convert options (unlines table.source) =
      .ok (withLineEndings options.crlf (unlines (table.written options.promoteFirstRow))) := by
    rw [convert, table.restored_source readable]
    exact congrArg (fun text => Except.ok (withLineEndings options.crlf text)) (table.trim_written _)
  refine ⟨converted, ?_⟩
  rw [converted, Except.ok.injEq, (with_line_endings_injective options.crlf).eq_iff,
    table.unlines_written_iff, table.written_eq_rendered_iff, MarkedRow.aligned_iff]

/-- A header row with marked cells and inline notation above two rows of other lengths. -/
def markedTable : HeadedTable :=
  { header := { cells := [{ headed := true, text := "\x27\x27a\x27\x27".toList }, { text := "b & c".toList }] }
    rows := [{ cells := [{ headed := true, text := "%%d%%&br;e".toList }] },
      { cells := [{ text := "1".toList }, { text := "2".toList }, { text := "3".toList }] }] }

/-- A header row whose first cell begins with a colon. -/
def colonTable : HeadedTable :=
  { header := { cells := [{ text := ":a".toList }] }, rows := [{ cells := [{ text := "d".toList }] }] }

/-- A header row on its own. -/
def boldTable : HeadedTable :=
  { header := { cells := [{ text := "\x27\x27a\x27\x27".toList }] }, rows := [] }

theorem convert_marked_and_colon_tables :
    unlines markedTable.source = "|~\x27\x27a\x27\x27|b & c|h\n|~%%d%%&br;e|\n|1|2|3|".toList ∧
    unlines markedTable.rendered = "| **a** |b &amp; c|\n|:--|:--|\n| ~~d~~  <br>e|\n|1|2|3|".toList ∧
    convert {} (unlines markedTable.source) = .ok (unlines markedTable.rendered) ∧
    convert {} (unlines colonTable.source) = .ok "|a|\n|:a|\n|:--|\n|d|".toList := by
  have readable : Lacks false mark colonTable.header.cleaned := by
    unfold Lacks
    decide +kernel
  have marked := convert_headed_table {} markedTable fun aligned => absurd aligned (by decide)
  have colon := convert_headed_table {} colonTable fun _ _ => readable
  have written : unlines (colonTable.written false) = "|a|\n|:a|\n|:--|\n|d|".toList := by decide +kernel
  refine ⟨by decide, by decide +kernel, marked.2.mpr ⟨?_, ?_⟩, ?_⟩
  · exact fun colon => absurd (markedTable.header.aligned_iff.mpr colon) (by decide)
  · exact fun single => absurd single (by decide)
  · exact colon.1.trans (congrArg Except.ok written)

/-- A header row that looks like an alignment row gets a header of its own, or changes places with its
alignment row, and the inline notation of a header row on its own stays as it is. -/
theorem headed_tables_differ :
    (unlines colonTable.source = "|:a|h\n|d|".toList ∧
      unlines colonTable.rendered = "|:a|\n|:--|\n|d|".toList ∧
      (convert {} (unlines colonTable.source)).toOption = some "|a|\n|:a|\n|:--|\n|d|".toList ∧
      (convert { promoteFirstRow := true } (unlines colonTable.source)).toOption =
        some "|:--|\n|:a|\n|d|".toList) ∧
    (unlines boldTable.source = "|\x27\x27a\x27\x27|h".toList ∧
      unlines boldTable.rendered = "| **a** |\n|:--|".toList ∧
      (convert {} (unlines boldTable.source)).toOption = some "|\x27\x27a\x27\x27|\n|:--|".toList) := by
  decide +kernel

end Wikidown
