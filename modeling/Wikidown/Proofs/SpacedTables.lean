import Mathlib.Data.List.DropRight
import Wikidown.Proofs.Layout.SpacedTables
import Wikidown.Proofs.Tables

/-!
# Conversion of tables with spaces behind their rows

A space behind a row above the last one goes along with the row. Behind the last row it keeps a table
without a header row from being found, and behind the header row it parts the header row from a table that
is found.
-/

namespace Wikidown

set_option autoImplicit false

open Layout Layout.Table

/-- A line without the spaces at its end. -/
def withoutEndSpace (line : Line) : Line := line.rdropWhile (· == ' ')

def withoutEndSpaces (text : Text) : Text := onLines (·.map withoutEndSpace) text

/-! ## Rows without the spaces behind them -/

theorem stripped_bar {line : Line} (ends : line.getLast? = some '|') : withoutEndSpace line = line := by
  obtain ⟨front, rfl⟩ := List.getLast?_eq_some_iff.mp ends
  exact List.rdropWhile_concat_neg _ _ _ (by decide)

namespace SpacedRow

variable (row : SpacedRow)

theorem stripped_closed : withoutEndSpace row.closed = row.closed := by
  refine stripped_bar ?_
  rw [closed, ← List.cons_append, List.getLast?_concat]

theorem stripped_source : withoutEndSpace row.source = row.closed := by
  have same := row.stripped_closed
  rw [source, tail]
  split
  · exact (List.rdropWhile_concat_pos _ _ _ (by decide)).trans same
  · rwa [List.append_nil]

theorem stripped_alignment : withoutEndSpace row.alignment = row.alignment := by
  obtain ⟨-, cells, shape⟩ := row.alignment_closed
  exact stripped_bar (by rw [shape, ← List.cons_append, List.getLast?_concat])

theorem stripped_opened : row.opened.map withoutEndSpace = row.opened := by
  rw [opened, List.map_cons, List.map_singleton, stripped_closed, stripped_alignment]

theorem stripped_empty_header : withoutEndSpace (emptyHeader row.alignment) = emptyHeader row.alignment := by
  refine stripped_bar ?_
  rw [row.empty_header_alignment, List.replicate_succ', List.getLast?_concat]

end SpacedRow

namespace SpacedTable

variable {table : SpacedTable} {front : List Line}

/-! ## Documents -/

theorem source_eq (table : SpacedTable) :
    table.source = table.header.toList.map SpacedRow.headerSource ++ table.data := rfl

theorem above_headers (table : SpacedTable) : Above (table.header.toList.map SpacedRow.headerSource) where
  quiet := List.forall_mem_map.mpr fun row _ => row.header_source_quiet
  barred := List.forall_mem_map.mpr fun _ _ => rfl

theorem source_head (table : SpacedTable) : ∀ line ∈ table.source, line.head? = some '|' :=
  List.forall_mem_append.mpr ⟨table.above_headers.barred, table.data_head⟩

theorem only_rows (table : SpacedTable) : OnlyRows (unlines table.source) :=
  .of_lines (by simp [source_eq, data_ne_nil]) table.above_headers.data_whole
    (fun line member => (table.above_headers.data_quiet line member).uniform)
    fun line member => .inr (table.source_head line member)

theorem lines_source (table : SpacedTable) : lines (unlines table.source) = table.source :=
  lines_unlines (by simp [source_eq, data_ne_nil]) table.above_headers.data_whole

/-- A line that the rules for tables write among quiet rows. -/
structure Written (line : Line) : Prop where
  quiet : Quiet line
  barred : BlankOrRow line

theorem written_blanks (count : Nat) : ∀ line ∈ List.replicate count ([] : Line), Written line := by
  intro line member
  rw [List.eq_of_mem_replicate member]
  exact ⟨⟨by simp, by simp⟩, .inl rfl⟩

theorem Above.written (above : Above front) : ∀ line ∈ front, Written line :=
  fun line member => ⟨above.quiet line member, .inr (above.barred line member)⟩

theorem Above.filled (above : Above front) : ∀ line ∈ front, '\n' ∉ line ∧ line ≠ [] := by
  refine fun line member => ⟨(above.quiet line member).whole, ?_⟩
  rintro rfl
  exact absurd (above.barred [] member) (by simp)

theorem above_data (table : SpacedTable) (above : Above front) : Above (front ++ table.data) :=
  ⟨above.data_quiet, List.forall_mem_append.mpr ⟨above.barred, table.data_head⟩⟩

theorem written_among {content : List Line} (written : ∀ line ∈ content, Written line) (above below : Nat) :
    ∀ line ∈ List.replicate above [] ++ (content ++ List.replicate below []), Written line :=
  List.forall_mem_append.mpr ⟨written_blanks _, List.forall_mem_append.mpr ⟨written, written_blanks _⟩⟩

/-- The conversion of a table from what the rules for tables make of it. -/
theorem convert_of_tables {options : Options} {supplied shown : List Line} {front back : Text}
    (tables : ((rules options.promoteFirstRow).drop 3 |>.take 7).foldl (fun current rule => rule current)
      (amongBlanks 1 table.source 2) = unlines supplied)
    (nonempty : supplied ≠ []) (written : ∀ line ∈ supplied, Written line)
    (squeezed : squeeze (unlines supplied) = front ++ (unlines shown ++ back))
    (blankFront : ∀ c ∈ front, isBlank c = true) (blankBack : ∀ c ∈ back, isBlank c = true)
    (bars : BarEnds (unlines shown)) :
    convert options (unlines table.source) = .ok (withLineEndings options.crlf (unlines shown)) := by
  have rows : OnlyRows (amongBlanks 1 table.source 2) :=
    .among_blanks table.above_headers.data_whole
      (fun line member => (table.above_headers.data_quiet line member).uniform) table.source_head 0 2
  have kept : supplied.map escape = supplied :=
    (List.map_congr_left fun line member => (written line member).quiet.escape).trans (List.map_id _)
  have layout := rows.convert nonempty (fun line member => (written line member).quiet.whole)
    (fun line member => (written line member).barred) tables
  have arranged : Document.arranged options.promoteFirstRow (unlines table.source) =
      front ++ (unlines shown ++ back) := by
    rw [kept] at layout
    rw [Document.arranged, table.only_rows.masked, lines_source, collapse_eq_squeeze, ← squeezed]
    exact congrArg squeeze layout
  have brace : '\x7b' ∉ unlines supplied :=
    not_mem_unlines (by decide) fun line member => (written line member).quiet.absent _ (by decide)
  have lacks : Lacks true mark (Document.arranged options.promoteFirstRow (unlines table.source)) := by
    rw [arranged, ← squeezed]
    exact fun inside => brace (squeeze_subset _ (inside.subset (by decide)))
  have trimmed := bars.trim_below front blankBack
  rw [trim_start_of_blank blankFront, List.nil_append] at trimmed
  rw [convert, table.only_rows.restored lacks, arranged]
  exact congrArg (fun text => Except.ok (withLineEndings options.crlf text)) trimmed

/-! ## The last row -/

/-- The space behind the last row stands at the end of the document. -/
theorem unlines_data (table : SpacedTable) (front : List Line) :
    unlines (front ++ table.data) = unlines (front ++ table.trimmed) ++ table.last.tail := by
  have split : front ++ table.data = front ++ table.rows.dropLast.map SpacedRow.source ++
      [table.last.closed ++ table.last.tail] := by
    rw [data_split, List.append_assoc]
    rfl
  rw [split, unlines_append_last, List.append_assoc]
  rfl

theorem trimmed_of_closed (closed : table.last.spaced = false) : table.trimmed = table.data := by
  rw [data_split, SpacedRow.source, SpacedRow.tail, closed, if_neg (by decide), List.append_nil]
  rfl

/-- Rows without a space behind the last one are found as a table. -/
theorem run_trimmed (table : SpacedTable) (above : Above front) : Run (front ++ table.trimmed) := by
  have rows := table.data_head
  have quiet := table.data_quiet
  rw [data_split, List.forall_mem_append] at rows quiet
  have last : Run [table.last.closed] :=
    .of_closed (List.cons_ne_nil _ _) (List.forall_mem_singleton.mpr table.last.closed_closed)
  refine (last.above (fun line member => (quiet.1 line member).whole) rows.1).above ?_ above.barred
  exact fun line member => (above.quiet line member).whole

theorem tail_blank (row : SpacedRow) : ∀ c ∈ row.tail, isBlank c = true := by
  rw [SpacedRow.tail]
  split
  · exact List.forall_mem_singleton.mpr (by decide)
  · exact fun c member => absurd member List.not_mem_nil

/-- The conversion of a table below rows that stay together with it. -/
theorem convert_of_rows {options : Options} {count below : Nat} (above : Above front)
    (tables : ((rules options.promoteFirstRow).drop 3 |>.take 7).foldl (fun current rule => rule current)
      (amongBlanks 1 table.source 2) = amongBlanks count (front ++ table.data) (below + 2)) :
    convert options (unlines table.source) =
      .ok (withLineEndings options.crlf (unlines (front ++ table.trimmed))) := by
  have nonempty : front ++ table.data ≠ [] := by simp [data_ne_nil]
  have squeezed := squeeze_framed count below nonempty (table.above_data above).filled
  rw [unlines_data, List.append_assoc (unlines (front ++ table.trimmed))] at squeezed
  refine convert_of_tables tables (by simp [data_ne_nil])
    (written_among (table.above_data above).written count (below + 2)) squeezed (fun c member => ?_) ?_
    (.of_run (table.run_trimmed above))
  · rw [List.eq_of_mem_replicate member]
    decide
  · exact List.forall_mem_append.mpr ⟨tail_blank _, blank_double_feed⟩

/-! ## Tables without a header row -/

theorem above_empty_header (row : SpacedRow) : Above [emptyHeader row.alignment, row.alignment] := by
  have bars := row.empty_header_alignment
  have header : Quiet (emptyHeader row.alignment) := by
    have bar {c : Char} (member : c ∈ emptyHeader row.alignment) : c = '|' := by
      rw [bars] at member
      exact List.eq_of_mem_replicate member
    refine ⟨fun c known inside => absurd (bar inside ▸ known) (by decide), ?_⟩
    rw [List.count_eq_zero.mpr fun inside => absurd (bar inside) (by decide)]
    exact Nat.zero_le 1
  have alignment := above_alignment row
  exact ⟨List.forall_mem_cons.mpr ⟨header, alignment.quiet⟩,
    List.forall_mem_cons.mpr ⟨by rw [bars]; rfl, alignment.barred⟩⟩

theorem above_promoted (row : SpacedRow) : Above [row.source, row.alignment] where
  quiet := List.forall_mem_cons.mpr ⟨row.source_quiet, (above_alignment row).quiet⟩
  barred := List.forall_mem_cons.mpr ⟨rfl, (above_alignment row).barred⟩

/-- The rows of a table that has got a header. -/
theorem run_headed (closed : table.last.spaced = false) (promote : Bool) :
    Run (headed promote table.first.alignment table.first.source ++ table.data.tail) := by
  cases promote with
  | false =>
      have run := (above_empty_header table.first).run_data closed
      rwa [data_cons] at run
  | true =>
      obtain ⟨header, rows, nonempty⟩ := table
      obtain ⟨first, more, rfl⟩ := List.exists_cons_of_ne_nil nonempty
      have above := above_promoted first
      cases more with
      | nil =>
          exact (alignment_run first).above (List.forall_mem_singleton.mpr first.source_quiet.whole)
            (List.forall_mem_singleton.mpr rfl)
      | cons next more => exact @Above.run_data ⟨none, next :: more, List.cons_ne_nil _ _⟩ _ above closed

theorem headed_quiet (table : SpacedTable) (promote : Bool) :
    ∀ line ∈ headed promote table.first.alignment table.first.source ++ table.data.tail, Quiet line := by
  cases promote with
  | false =>
      have rows := @Above.data_quiet table _ (above_empty_header table.first)
      rwa [data_cons] at rows
  | true =>
      exact List.forall_mem_append.mpr ⟨(above_promoted table.first).quiet,
        fun line member => table.data_quiet line (List.mem_of_mem_tail member)⟩

section Headerless

variable (headerless : table.header = none)

include headerless

theorem source_headerless : table.source = [] ++ table.data := by rw [source_eq, headerless]; rfl

theorem written_open (spaced : table.last.spaced = true) (promote : Bool) :
    table.written promote = [] ++ table.trimmed := by
  simp [SpacedTable.written, headerless, spaced]

theorem convert_open (spaced : table.last.spaced = true) (options : Options) :
    convert options (unlines table.source) =
      .ok (withLineEndings options.crlf (unlines (table.written options.promoteFirstRow))) := by
  have tables := tables_of_open spaced options.promoteFirstRow
  rw [written_open headerless spaced]
  refine @convert_of_rows table [] options 1 0 above_nothing ?_
  rw [source_headerless headerless]
  exact tables

theorem written_closed (closed : table.last.spaced = false) (promote : Bool) :
    table.written promote = headed promote table.first.alignment table.first.source ++ table.data.tail := by
  have trimmed := trimmed_of_closed closed
  rw [data_cons] at trimmed
  simp [SpacedTable.written, headerless, closed, trimmed]

theorem convert_closed (closed : table.last.spaced = false) (options : Options) :
    convert options (unlines table.source) =
      .ok (withLineEndings options.crlf (unlines (table.written options.promoteFirstRow))) := by
  have run := table.run_headed closed options.promoteFirstRow
  have quiet := table.headed_quiet options.promoteFirstRow
  have tables := tables_of_closed closed options.promoteFirstRow
  rw [← written_closed headerless closed] at run quiet tables
  have above : Above (table.written options.promoteFirstRow) := ⟨quiet, run.barred⟩
  refine @convert_of_tables table options _ _ doubleFeed doubleFeed ?_ (by simp) (written_among above.written 2 5)
    (squeeze_framed 2 3 run.ne_nil above.filled) blank_double_feed blank_double_feed (.of_run run)
  rw [source_headerless headerless]
  exact tables

end Headerless

/-! ## Tables with a header row -/

theorem above_detached (promote : Bool) (header : SpacedRow) : Above (detached promote header) := by
  cases promote with
  | false => exact above_empty_header header
  | true => exact above_alignment header

/-- An alignment row on its own is found as a table. -/
theorem run_detached (promote : Bool) (header : SpacedRow) : Run (detached promote header) := by
  have run := alignment_run header
  cases promote with
  | false =>
      have empty := above_empty_header header
      exact run.above (List.forall_mem_singleton.mpr (empty.quiet _ List.mem_cons_self).whole)
        (List.forall_mem_singleton.mpr (empty.barred _ List.mem_cons_self))
  | true => exact run

section Headed

variable {header : SpacedRow} (headed : table.header = some header)

include headed

theorem source_headed : table.source = [header.headerSource] ++ table.data := by
  rw [source_eq, headed]
  rfl

theorem written_together (together : (header.spaced && !table.last.spaced) = false) (promote : Bool) :
    table.written promote = header.opened ++ table.trimmed := by
  simp [SpacedTable.written, headed, together]

theorem written_detached (spaced : header.spaced = true) (closed : table.last.spaced = false) (promote : Bool) :
    table.written promote = detached promote header ++ [] :: (header.opened ++ table.trimmed) := by
  simp [SpacedTable.written, headed, spaced, closed]

/-- A header row that is found as such stays above its table. -/
theorem convert_together (together : (header.spaced && !table.last.spaced) = false) (options : Options) :
    convert options (unlines table.source) =
      .ok (withLineEndings options.crlf (unlines (table.written options.promoteFirstRow))) := by
  have above := above_opened header
  rw [written_together headed together]
  cases last : table.last.spaced with
  | true =>
      refine @convert_of_rows table _ options 2 0 above ?_
      rw [source_headed headed]
      exact tables_of_header_open header last options.promoteFirstRow
  | false =>
      have unspaced : header.spaced = false := by simpa [last] using together
      refine @convert_of_rows table _ options 3 3 above ?_
      rw [source_headed headed]
      exact tables_of_header_closed header unspaced last options.promoteFirstRow

/-- Where it is not, another alignment row stands above it. -/
theorem convert_detached (spaced : header.spaced = true) (closed : table.last.spaced = false) (options : Options) :
    convert options (unlines table.source) =
      .ok (withLineEndings options.crlf (unlines (table.written options.promoteFirstRow))) := by
  obtain ⟨above, between, tables⟩ := tables_of_spaced_header header spaced closed options.promoteFirstRow
  have rows := table.above_data (above_opened header)
  have top := above_detached options.promoteFirstRow header
  have topRun := run_detached options.promoteFirstRow header
  have run := (above_opened header).run_data closed
  have squeezed := squeeze_apart (above + 2) between 3 topRun.ne_nil run.ne_nil top.filled rows.filled
  have two : min (above + 2) 2 = 2 := Nat.min_eq_right (Nat.le_add_left 2 above)
  have joined : unlines (detached options.promoteFirstRow header ++ [] :: (header.opened ++ table.data)) =
      unlines (detached options.promoteFirstRow header) ++
        (doubleFeed ++ unlines (header.opened ++ table.data)) := by
    rw [unlines_append topRun.ne_nil (List.cons_ne_nil _ _), unlines_cons run.ne_nil]
    rfl
  have bars := (BarEnds.of_run topRun).append (.of_run run) doubleFeed
  rw [← source_headed headed] at tables
  rw [two] at squeezed
  rw [written_detached headed spaced closed, trimmed_of_closed closed]
  refine convert_of_tables tables (by simp) ?_ squeezed blank_double_feed blank_double_feed (joined ▸ bars)
  exact List.forall_mem_append.mpr
    ⟨written_blanks _, List.forall_mem_append.mpr ⟨top.written, written_among rows.written _ 5⟩⟩

end Headed

theorem convert_source (options : Options) (table : SpacedTable) : convert options (unlines table.source) =
    .ok (withLineEndings options.crlf (unlines (table.written options.promoteFirstRow))) := by
  cases headed : table.header with
  | none =>
      cases last : table.last.spaced with
      | true => exact convert_open headed last options
      | false => exact convert_closed headed last options
  | some header =>
      cases together : header.spaced && !table.last.spaced with
      | false => exact convert_together headed together options
      | true =>
          rw [Bool.and_eq_true, Bool.not_eq_true'] at together
          exact convert_detached headed together.1 together.2 options

/-! ## Tables without the spaces -/

theorem unspaced_last (table : SpacedTable) : table.unspaced.last.spaced = false := by
  have last : table.unspaced.last = table.last.unspaced := List.getLast_map _
  rw [last]
  rfl

theorem data_unspaced (table : SpacedTable) : table.unspaced.data = table.rows.map SpacedRow.closed := by
  have rows : table.unspaced.data = (table.rows.map SpacedRow.unspaced).map SpacedRow.source := rfl
  rw [rows, List.map_map]
  exact List.map_congr_left fun row _ => row.closed_unspaced.symm

theorem trimmed_unspaced (table : SpacedTable) : table.unspaced.trimmed = table.rows.map SpacedRow.closed := by
  rw [trimmed_of_closed table.unspaced_last, data_unspaced]

theorem stripped_data (table : SpacedTable) :
    table.data.map withoutEndSpace = table.rows.map SpacedRow.closed := by
  rw [data, List.map_map]
  exact List.map_congr_left fun row _ => row.stripped_source

theorem stripped_trimmed (table : SpacedTable) :
    table.trimmed.map withoutEndSpace = table.rows.map SpacedRow.closed := by
  have rows := table.stripped_data
  rw [data_split, List.map_append, List.map_singleton, SpacedRow.stripped_source] at rows
  rw [trimmed, List.map_append, List.map_singleton, SpacedRow.stripped_closed, rows]

/-- A table that is found gets the same header as without the spaces. -/
theorem stripped_headerless (headerless : table.header = none) (closed : table.last.spaced = false)
    (promote : Bool) :
    (table.written promote).map withoutEndSpace = table.unspaced.written promote := by
  have none : table.unspaced.header = none := by rw [unspaced, headerless, Option.map_none]
  have first : table.unspaced.first = table.first.unspaced := List.head_map _
  have top : (headed promote table.first.alignment table.first.source).map withoutEndSpace =
      headed promote table.unspaced.first.alignment table.unspaced.first.source := by
    rw [first, ← SpacedRow.closed_unspaced]
    cases promote <;> simp only [headed, if_true, Bool.false_eq_true, if_false, List.map_cons, List.map_nil,
      SpacedRow.stripped_source, SpacedRow.stripped_alignment, SpacedRow.stripped_empty_header] <;> rfl
  rw [written_closed headerless closed, written_closed none table.unspaced_last, List.map_append, List.map_tail,
    top, stripped_data, data_unspaced]

theorem stripped_together {header : SpacedRow} (headed : table.header = some header)
    (together : (header.spaced && !table.last.spaced) = false) (promote : Bool) :
    (table.written promote).map withoutEndSpace = table.unspaced.written promote := by
  have same : table.unspaced.header = some header.unspaced := by rw [unspaced, headed, Option.map_some]
  rw [written_together headed together, written_together same rfl, List.map_append, header.stripped_opened,
    stripped_trimmed, trimmed_unspaced]
  rfl

theorem trimmed_length (table : SpacedTable) : table.trimmed.length = table.rows.length := by
  have lengths := congrArg List.length table.stripped_trimmed
  rwa [List.length_map, List.length_map] at lengths

/-- A table that is not found has no header. -/
theorem length_open (headerless : table.header = none) (spaced : table.last.spaced = true) (promote : Bool) :
    (table.written promote).length < (table.unspaced.written promote).length := by
  have none : table.unspaced.header = none := by rw [unspaced, headerless, Option.map_none]
  have some := List.length_pos_iff.mpr table.nonempty
  rw [written_open headerless spaced, written_closed none table.unspaced_last, List.nil_append, trimmed_length,
    List.length_append, List.length_tail, data_unspaced, List.length_map]
  cases promote <;>
    simp only [headed, if_true, Bool.false_eq_true, if_false, List.length_cons, List.length_nil] <;> omega

/-- A header row that is not found gets another alignment row. -/
theorem length_detached {header : SpacedRow} (headed : table.header = some header) (spaced : header.spaced = true)
    (closed : table.last.spaced = false) (promote : Bool) :
    (table.unspaced.written promote).length < (table.written promote).length := by
  have same : table.unspaced.header = some header.unspaced := by rw [unspaced, headed, Option.map_some]
  have lengths : table.unspaced.trimmed.length = table.rows.length := by rw [trimmed_unspaced, List.length_map]
  rw [written_detached headed spaced closed, written_together same rfl]
  simp only [SpacedRow.opened, List.length_append, List.length_cons, List.length_nil, lengths, trimmed_length]
  omega

/-- The spaces make no difference unless a headerless table ends with one, or the header row has one and the
last row has none. -/
theorem stripped_iff (table : SpacedTable) (promote : Bool) :
    (table.written promote).map withoutEndSpace = table.unspaced.written promote ↔
      (table.header = none → table.last.spaced = false) ∧
        ∀ header ∈ table.header, header.spaced = true → table.last.spaced = true := by
  cases headed : table.header with
  | none =>
      simp only [true_implies, Option.not_mem_none, false_implies, implies_true, and_true]
      refine ⟨fun same => Bool.eq_false_iff.mpr fun spaced => ?_,
        fun closed => stripped_headerless headed closed promote⟩
      have lengths := congrArg List.length same
      have fewer := length_open headed spaced promote
      rw [List.length_map] at lengths
      omega
  | some header =>
      simp only [reduceCtorEq, false_implies, true_and, Option.mem_def, Option.some.injEq, forall_eq']
      constructor
      · intro same spaced
        by_contra closed
        have lengths := congrArg List.length same
        have more := length_detached headed spaced (Bool.eq_false_iff.mpr closed) promote
        rw [List.length_map] at lengths
        omega
      · intro goes
        refine stripped_together headed ?_ promote
        cases spaced : header.spaced with
        | false => rfl
        | true => rw [goes spaced]; rfl

theorem written_lines (table : SpacedTable) (promote : Bool) :
    table.written promote ≠ [] ∧ ∀ line ∈ table.written promote, '\n' ∉ line := by
  cases headed : table.header with
  | none =>
      cases last : table.last.spaced with
      | true =>
          rw [written_open headed last]
          exact ⟨(table.run_trimmed above_nothing).ne_nil, (table.run_trimmed above_nothing).whole⟩
      | false =>
          rw [written_closed headed last]
          exact ⟨(run_headed last promote).ne_nil, (run_headed last promote).whole⟩
  | some header =>
      have rows := table.run_trimmed (above_opened header)
      cases together : header.spaced && !table.last.spaced with
      | false =>
          rw [written_together headed together]
          exact ⟨rows.ne_nil, rows.whole⟩
      | true =>
          rw [Bool.and_eq_true, Bool.not_eq_true'] at together
          rw [written_detached headed together.1 together.2]
          exact ⟨by simp, List.forall_mem_append.mpr ⟨(run_detached promote header).whole,
            List.forall_mem_cons.mpr ⟨List.not_mem_nil, rows.whole⟩⟩⟩

theorem without_end_spaces_iff (table : SpacedTable) (promote : Bool) :
    withoutEndSpaces (unlines (table.written promote)) = unlines (table.unspaced.written promote) ↔
      (table.written promote).map withoutEndSpace = table.unspaced.written promote := by
  obtain ⟨nonempty, whole⟩ := table.written_lines promote
  obtain ⟨nonemptyUnspaced, wholeUnspaced⟩ := table.unspaced.written_lines promote
  have stripped : ∀ line ∈ (table.written promote).map withoutEndSpace, '\n' ∉ line :=
    List.forall_mem_map.mpr fun line member inside => whole line member ((List.rdropWhile_prefix _ _).subset inside)
  rw [withoutEndSpaces, onLines, lines_unlines nonempty whole]
  refine ⟨fun same => ?_, congrArg unlines⟩
  have content := congrArg lines same
  rwa [lines_unlines (by simpa using nonempty) stripped, lines_unlines nonemptyUnspaced wholeUnspaced] at content

end SpacedTable

/-- What a table with spaces behind its rows is converted to. Without the spaces at the ends of its lines this
is the table without the spaces, unless a table without a header row has a space behind its last row, or one
with a header row has a space behind it and none behind its last row. -/
theorem convert_spaced_table (options : Options) (table : SpacedTable) :
    convert options (unlines table.source) =
        .ok (withLineEndings options.crlf (unlines (table.written options.promoteFirstRow))) ∧
      convert options (unlines table.unspaced.source) =
        .ok (withLineEndings options.crlf (unlines (table.unspaced.written options.promoteFirstRow))) ∧
      (withoutEndSpaces (unlines (table.written options.promoteFirstRow)) =
          unlines (table.unspaced.written options.promoteFirstRow) ↔
        (table.header = none → table.last.spaced = false) ∧
          ∀ header ∈ table.header, header.spaced = true → table.last.spaced = true) :=
  ⟨SpacedTable.convert_source options table, SpacedTable.convert_source options table.unspaced,
    (table.without_end_spaces_iff _).trans (table.stripped_iff _)⟩

/-- A space behind its only row keeps a table from being found, and one behind the header row makes a table
of its own above it. -/
theorem spaces_behind_rows_matter :
    ((convert {} "|a|".toList).toOption = some "||\n|:--|\n|a|".toList ∧
      (convert {} "|a| ".toList).toOption = some "|a|".toList) ∧
    ((convert {} "|a|h\n|b|".toList).toOption = some "|a|\n|:--|\n|b|".toList ∧
      (convert {} "|a|h \n|b|".toList).toOption = some "||\n|:--|\n\n|a|\n|:--|\n|b|".toList ∧
      (convert { promoteFirstRow := true } "|a|h \n|b|".toList).toOption =
        some "|:--|\n\n|a|\n|:--|\n|b|".toList) := by
  decide +kernel

end Wikidown
