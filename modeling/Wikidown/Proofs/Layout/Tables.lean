import Wikidown.Proofs.Composition.Arranged
import Wikidown.Proofs.Layout.Runs
import Wikidown.Proofs.Placeholder.Bare

/-!
# The layout of tables without headers

Each rule of the layout takes the tables of a document one by one: it changes the rows of each, or the
blank lines around each, and finds them again below the blank lines that the rules before it have put
there.
-/

namespace Wikidown.Layout.Table

set_option autoImplicit false

/-- Parts of a document with blank lines above and below each of them, and an empty line at the end. -/
def spread {Part : Type} (shown : Part → List Line) (above below : Nat) (parts : List Part) :
    List Line :=
  parts.flatMap (fun part => List.replicate above [] ++ (shown part ++ List.replicate below [])) ++ [[]]

section Spread

variable {Part : Type} {shown changed : Part → List Line} {above below : Nat} {parts : List Part}

theorem spread_cons (part : Part) : spread shown above below (part :: parts) =
    List.replicate above [] ++ (shown part ++
      (List.replicate below [] ++ spread shown above below parts)) := by
  rw [spread, List.flatMap_cons, List.append_assoc, List.append_assoc, List.append_assoc, ← spread]

theorem spread_ne_nil : spread shown above below parts ≠ [] := by simp [spread]

theorem mem_spread {line : Line} (member : line ∈ spread shown above below parts) :
    line = [] ∨ ∃ part ∈ parts, line ∈ shown part := by
  induction parts with
  | nil => exact .inl (List.mem_singleton.mp member)
  | cons part parts ih =>
      rw [spread_cons, List.mem_append, List.mem_append, List.mem_append] at member
      rcases member with blank | here | blank | behind
      · exact .inl (List.eq_of_mem_replicate blank)
      · exact .inr ⟨part, List.mem_cons_self, here⟩
      · exact .inl (List.eq_of_mem_replicate blank)
      · exact (ih behind).imp_right fun ⟨other, inside, here⟩ =>
          ⟨other, List.mem_cons_of_mem part inside, here⟩

/-- A change of single lines that leaves empty ones. -/
theorem map_spread {change : Line → Line} (empty : change [] = []) :
    (spread shown above below parts).map change =
      spread (fun part => (shown part).map change) above below parts := by
  induction parts with
  | nil => simp [spread, empty]
  | cons part parts ih =>
      rw [spread_cons, spread_cons, List.map_append, List.map_append, List.map_append, ih,
        List.map_replicate, List.map_replicate, empty]

theorem spread_congr (same : ∀ part, shown part = changed part) :
    spread shown above below parts = spread changed above below parts := by
  rw [funext same]

end Spread

/-! ## Rows among blank lines -/

/-- A line that is blank or begins like a row. -/
def BlankOrRow (line : Line) : Prop := line = [] ∨ line.head? = some '|'

section BlankOrRow

variable {content : List Line}

theorem BlankOrRow.head_ne {line : Line} (tabular : BlankOrRow line) {c : Char} (other : '|' ≠ c) :
    line.head? ≠ some c := by
  rcases tabular with rfl | bar
  · simp
  · simpa [bar] using other

theorem BlankOrRow.structural {line : Line} (tabular : BlankOrRow line) : Structural line := by
  intro c begins
  rcases tabular with rfl | bar
  · simp at begins
  · rw [bar, Option.some.injEq] at begins
    rw [← begins]
    rfl

theorem blank_or_row_replicate (count : Nat) :
    ∀ line ∈ List.replicate count ([] : Line), BlankOrRow line :=
  fun _ member => .inl (List.eq_of_mem_replicate member)

end BlankOrRow

/-! ## Tables at a stage of the layout -/

/-- Closed rows for each table. -/
structure Stage (shown : HeaderlessTable → List Line) : Prop where
  nonempty : ∀ table, shown table ≠ []
  closed : ∀ table, ∀ row ∈ shown table, Closed row

namespace Stage

variable {shown changed : HeaderlessTable → List Line} {above below : Nat}
  {tables : List HeaderlessTable}

theorem whole (stage : Stage shown) :
    ∀ line ∈ [] :: spread shown above below tables, '\n' ∉ line := by
  intro line member
  rcases List.mem_cons.mp member with rfl | behind
  · exact List.not_mem_nil
  · rcases mem_spread behind with rfl | ⟨table, _, here⟩
    · exact List.not_mem_nil
    · exact (stage.closed table line here).1

theorem filled (stage : Stage shown) (table : HeaderlessTable) :
    ∀ line ∈ shown table, '\n' ∉ line ∧ line ≠ [] :=
  fun line member => ⟨(stage.closed table line member).1, (stage.closed table line member).ne_nil⟩

theorem run (stage : Stage shown) (table : HeaderlessTable) : Run (shown table) :=
  .of_closed (stage.nonempty table) (stage.closed table)

theorem lines_spread (stage : Stage shown) :
    lines (unlines ([] :: spread shown above below tables)) = [] :: spread shown above below tables :=
  lines_unlines (by simp) stage.whole

/-- A rule for tables changes the rows of each and puts blank lines above and below it. -/
theorem replace_blocks {shape : BlockShape} {render : List Line → List Line} (stage : Stage shown)
    (below more less : Nat) (barred : Barred shape)
    (ends : ∀ line rest, shape.endsBefore ([] :: line :: rest) = true)
    (inert : ∀ rest, ∀ line ∈ (List.replicate (below + 1) [] ++ rest).take
      (shape.inert (List.replicate (below + 1) [] ++ rest)), line = [])
    (renders : ∀ table body, BodyOf shape (shown table) body →
      render body = List.replicate more [] ++ (changed table ++ List.replicate less [])) :
    shape.replaceBlocks render (unlines ([] :: spread shown above (below + 1) tables)) =
      unlines ([] :: spread changed (above + more) (less + (below + 1)) tables) := by
  have found : (shape.segmentsFrom (spread shown above (below + 1) tables)).flatMap
      (BlockShape.result render) = spread changed (above + more) (less + (below + 1)) tables := by
    induction tables with
    | nil => exact result_of_end barred render 1
    | cons table tables ih =>
        have behind : shape.endsBefore (List.replicate (below + 1) [] ++
            spread shown above (below + 1) tables) = true := by
          obtain ⟨line, rest, shape⟩ := List.exists_cons_of_ne_nil
            (show List.replicate below [] ++ spread shown above (below + 1) tables ≠ [] by
              simp [spread_ne_nil])
          rw [List.replicate_succ, List.cons_append, shape]
          exact ends line rest
        have found := result_of_run barred (stage.run table) behind (inert _) (renders table)
        rw [spread_cons, result_of_blanks barred, found, result_of_blanks barred, ih, spread_cons]
        simp only [List.replicate_add, List.append_assoc]
  rw [BlockShape.replace_blocks_eq, stage.lines_spread, BlockShape.segments, List.flatMap_cons, found]
  rfl

theorem blank_or_row (stage : Stage shown) : ∀ line ∈ [] :: spread shown above below tables, BlankOrRow line := by
  refine List.forall_mem_cons.mpr ⟨.inl rfl, fun line member => ?_⟩
  rcases mem_spread member with rfl | ⟨table, _, here⟩
  · exact .inl rfl
  · exact Or.inr (stage.closed table line here).head

end Stage

/-! ## Headers -/

section Supply

variable {promote : Bool} {alignment row : Line} {rest : List Line}

theorem supply_header_filled {content : List Line} (filled : ∀ line ∈ content, line ≠ []) :
    supplyHeader promote (content ++ rest) = content ++ supplyHeader promote rest := by
  induction content with
  | nil => rfl
  | cons line content ih =>
      rw [List.forall_mem_cons] at filled
      rw [List.cons_append, supplyHeader.eq_2 promote line (content ++ rest)
        fun _ _ _ empty _ => filled.1 empty, ih filled.2]
      rfl

theorem supply_header_blank : supplyHeader promote ([] :: [] :: rest) =
    [] :: supplyHeader promote ([] :: rest) := by
  cases rest with
  | nil => rw [supplyHeader.eq_2 promote [] [[]] (by simp)]
  | cons row rest =>
      have unaligned : ¬ startsWith "|:".toList [] = true := by decide
      rw [supplyHeader, if_neg unaligned]

/-- Blank lines above another one are passed over. -/
theorem supply_header_above_blank (count : Nat) : supplyHeader promote (List.replicate count [] ++ [] :: rest) =
    List.replicate count [] ++ supplyHeader promote ([] :: rest) := by
  induction count with
  | zero => rfl
  | succ count ih =>
      have next : List.replicate count [] ++ [] :: rest = [] :: (List.replicate count [] ++ rest) := by
        rw [← List.singleton_append, ← List.append_assoc, ← List.replicate_succ', List.replicate_succ]
        rfl
      rw [next] at ih
      rw [List.replicate_succ, List.cons_append, next, supply_header_blank, ih]
      rfl

theorem supply_header_blanks (count : Nat) :
    supplyHeader promote (List.replicate count []) = List.replicate count [] := by
  cases count with
  | zero => rw [List.replicate_zero, supplyHeader]
  | succ count =>
      have last : supplyHeader promote [[]] = [[]] := by
        rw [supplyHeader.eq_2 promote [] [] (by simp), supplyHeader]
      rw [List.replicate_succ', supply_header_above_blank, last]

/-- Rows of which the first is no alignment row keep what is above them. -/
theorem supply_header_unaligned {more : List Line} (unaligned : ¬ startsWith "|:".toList row = true)
    (filled : ∀ line ∈ row :: more, line ≠ []) (above below : Nat) :
    supplyHeader promote (List.replicate (above + 1) [] ++ (row :: more ++ List.replicate (below + 1) [])) =
      List.replicate (above + 1) [] ++ (row :: more ++ List.replicate (below + 1) []) := by
  have passed := @supply_header_filled promote (List.replicate (below + 1) []) (row :: more) filled
  rw [supply_header_blanks] at passed
  obtain ⟨next, rest, shape⟩ := List.exists_cons_of_ne_nil
    (show more ++ List.replicate (below + 1) [] ≠ [] by simp)
  rw [List.cons_append, shape] at passed ⊢
  rw [List.replicate_succ', List.append_assoc, List.singleton_append, supply_header_above_blank, supplyHeader,
    if_neg unaligned, passed]

/-- The rows at the top of a table whose alignment row stands above all of them. -/
def headed (promote : Bool) (alignment row : Line) : List Line :=
  if promote then [row, alignment] else [emptyHeader alignment, alignment, row]

theorem supply_header_aligned (aligned : startsWith "|:".toList alignment = true) (filled : row ≠ []) :
    supplyHeader promote ([] :: alignment :: row :: rest) =
      [] :: (headed promote alignment row ++ supplyHeader promote rest) := by
  have passed : supplyHeader promote (row :: rest) = row :: supplyHeader promote rest :=
    @supply_header_filled promote rest [row] (by simpa using filled)
  rw [supplyHeader, if_pos aligned, passed, headed]
  cases promote <;> rfl

end Supply

theorem alignment_row_aligned (columns : Nat) :
    startsWith "|:".toList (alignmentRow (columns + 1)) = true := rfl

end Wikidown.Layout.Table

namespace Wikidown

open Layout Layout.Table

/-- A text of rows and empty lines. -/
structure OnlyRows (text : Text) : Prop where
  uniform : '\r' ∉ text
  barred : ∀ line ∈ lines text, BlankOrRow line

theorem OnlyRows.undirected (rows : OnlyRows rest) : "#contents".toList ∉ lines rest := by
  intro member
  rcases rows.barred _ member with empty | bar
  · exact absurd empty (by decide)
  · exact absurd bar (by decide)

theorem OnlyRows.of_lines {content : List Line} (nonempty : content ≠ []) (whole : ∀ line ∈ content, '\n' ∉ line)
    (uniform : ∀ line ∈ content, '\r' ∉ line) (barred : ∀ line ∈ content, BlankOrRow line) :
    OnlyRows (unlines content) where
  uniform := not_mem_unlines (by decide) uniform
  barred := by rwa [lines_unlines nonempty whole]

theorem OnlyRows.among_blanks {content : List Line} (whole : ∀ line ∈ content, '\n' ∉ line)
    (uniform : ∀ line ∈ content, '\r' ∉ line) (barred : ∀ line ∈ content, line.head? = some '|') (above below : Nat) :
    OnlyRows (unlines (List.replicate (above + 1) [] ++ (content ++ List.replicate below []))) := by
  have blank (count : Nat) : ∀ line ∈ List.replicate count ([] : Line), '\r' ∉ line := by
    intro line member
    rw [List.eq_of_mem_replicate member]
    exact List.not_mem_nil
  refine .of_lines (by simp [List.replicate_succ]) (whole_among_blanks whole _ _) ?_ ?_
  · exact List.forall_mem_append.mpr ⟨blank _, List.forall_mem_append.mpr ⟨uniform, blank _⟩⟩
  · exact List.forall_mem_append.mpr ⟨blank_or_row_replicate _, List.forall_mem_append.mpr
      ⟨fun line member => .inr (barred line member), blank_or_row_replicate _⟩⟩

/-- Nothing but the rules for tables and the escapes changes rows and blank lines. -/
theorem OnlyRows.convert {promote : Bool} {text : Text} {supplied : List Line} (rows : OnlyRows text)
    (nonempty : supplied ≠ []) (whole : ∀ line ∈ supplied, '\n' ∉ line)
    (barred : ∀ line ∈ supplied, BlankOrRow line)
    (tables : ((rules promote).drop 3 |>.take 7).foldl (fun current rule => rule current) text =
      unlines supplied) :
    Layout.convert promote text = unlines (supplied.map escape) := by
  have headings : replaceLines heading text = text :=
    headings_of_unstarred fun line member => (rows.barred line member).head_ne (by decide)
  have lists (render : List Line → List Line) :
      OrderedList.shape.replaceBlocks render (unlines supplied) = unlines supplied := by
    refine replace_blocks_of_unopened fun line member => ?_
    rw [lines_unlines nonempty whole] at member
    have other : line.head? ≠ some '+' := (barred line member).head_ne (by decide)
    exact after_eq_none_of_head other []
  have items : supplied.map (fun line => escape (unorderedItem line)) = supplied.map escape :=
    List.map_congr_left fun line member =>
      congrArg escape (Block.unordered_item_unmarked ((barred line member).head_ne (by decide)))
  have cut : rules promote = (rules promote).take 2 ++ (replaceLines heading ::
      (((rules promote).drop 3).take 7 ++ (OrderedList.shape.replaceBlocks OrderedList.separate ::
        OrderedList.shape.replaceBlocks OrderedList.items :: (rules promote).drop 12))) := rfl
  rw [Layout.convert, cut, List.foldl_append, List.foldl_cons, List.foldl_append, List.foldl_cons,
    List.foldl_cons, returns_of_uniform rows.uniform, headings, tables, lists, lists, below_blocks nonempty whole, items]

end Wikidown

namespace Wikidown.HeaderlessTable

open Layout Layout.Table

variable {promote : Bool} (table : HeaderlessTable) (tables : List HeaderlessTable)

/-- A table with its alignment row above the others. -/
def aligned : HeaderlessTable :=
  ⟨⟨List.replicate table.columns leftAligned, by simpa [columns] using table.first.nonempty⟩, table.rows⟩

theorem columns_succ : table.columns = table.columns - 1 + 1 :=
  (Nat.sub_add_cancel (List.length_pos_iff.mpr table.first.nonempty)).symm

theorem columns_aligned : startsWith "|:".toList (alignmentRow table.columns) = true := by
  rw [table.columns_succ]
  exact alignment_row_aligned _

theorem source_aligned : table.aligned.source = alignmentRow table.columns :: table.source := by
  have first : alignmentRow table.columns = table.aligned.first.source := by
    have row := alignment_row_eq (table.columns - 1)
    simp only [← table.columns_succ] at row
    exact row
  rw [first]
  rfl

theorem align_source {body : List Line} (isBody : BodyOf Table.shape table.source body) :
    align body = table.aligned.source := by
  have cells : table.first.source.count '|' - 1 = table.columns := by
    have inner := table.first.count_inner
    rw [columns, ← inner, Row.source, List.count_cons_self, List.count_append]
    rfl
  have unheaded : ∀ row ∈ table.source, ¬ "|h".toList <:+ row :=
    List.forall_mem_map.mpr fun row _ => (Closed.source row).unheaded
  rw [align_run isBody unheaded, source_aligned, ← cells]
  rfl

theorem source_uniform : ∀ line ∈ table.source, '\r' ∉ line := by
  intro line member
  obtain ⟨row, _, rfl⟩ := List.mem_map.mp member
  exact row.source_apart (by decide) Cell.uniform

theorem data_rows_source : table.source.map dataRow = table.source := by
  rw [source, List.map_map]
  exact List.map_congr_left fun row _ => row.data_row

theorem source_stage : Stage HeaderlessTable.source where
  nonempty table := by simp [source, rows]
  closed table row member := by
    obtain ⟨one, _, rfl⟩ := List.mem_map.mp member
    exact .source one

/-- The rows of a table with its alignment row, converted. -/
def converted : List Line := alignmentRow table.columns :: table.source.map Inline.convert

theorem converted_rows : table.converted = alignmentRow table.columns ::
    Inline.convert table.first.source :: table.rest.map fun row => Inline.convert row.source := by
  simp [converted, source, HeaderlessTable.rows]

theorem aligned_stage : Stage fun table => table.aligned.source :=
  ⟨fun table => source_stage.nonempty table.aligned, fun table => source_stage.closed table.aligned⟩

theorem converted_eq : table.converted = table.aligned.source.map Inline.convert := by
  rw [source_aligned, List.map_cons, convert_alignment_row, converted]

theorem converted_stage : Stage HeaderlessTable.converted where
  nonempty table := by simp [converted]
  closed table row member := by
    rw [converted_eq] at member
    obtain ⟨one, inside, rfl⟩ := List.mem_map.mp member
    exact (source_stage.closed table.aligned one inside).convert

/-- The rows of a table with its header. -/
def supplied (promote : Bool) (table : HeaderlessTable) : List Line :=
  headed promote (alignmentRow table.columns) (Inline.convert table.first.source) ++
    table.rest.map fun row => Inline.convert row.source

theorem rendered_eq : table.rendered promote = (table.supplied promote).map escape := by
  have bars : escape (List.replicate (table.columns + 1) '|') = List.replicate (table.columns + 1) '|' :=
    escape_of_absent fun member => absurd (List.eq_of_mem_replicate member) (by decide)
  cases promote with
  | true => simp [rendered, supplied, headed, escape_alignment_row, Row.rendered]
  | false =>
      simp [rendered, supplied, headed, escape_alignment_row, empty_header_alignment_row, bars, rows,
        Row.rendered]

theorem supplied_stage (promote : Bool) : Stage (HeaderlessTable.supplied promote) := by
  have bars (columns : Nat) : Closed (List.replicate (columns + 2) '|') := by
    refine ⟨by simp, List.replicate columns '|', ?_⟩
    rw [List.replicate_succ, List.replicate_succ']
  constructor
  case nonempty => intro table; cases promote <;> simp [supplied, headed]
  case closed =>
    intro table row member
    have alignment : Closed (alignmentRow table.columns) := by
      rw [table.columns_succ]
      exact .alignment_row _
    have header : Closed (emptyHeader (alignmentRow table.columns)) := by
      rw [empty_header_alignment_row, table.columns_succ]
      exact bars _
    have first : Closed (Inline.convert table.first.source) := (Closed.source _).convert
    rcases List.mem_append.mp member with top | below
    · cases promote <;> simp only [headed, List.mem_cons, List.not_mem_nil, or_false, if_true,
        Bool.false_eq_true, if_false] at top
      · rcases top with rfl | rfl | rfl
        · exact header
        · exact alignment
        · exact first
      · rcases top with rfl | rfl
        · exact first
        · exact alignment
    · obtain ⟨one, _, rfl⟩ := List.mem_map.mp below
      exact (Closed.source one).convert

theorem rendered_stage (promote : Bool) : Stage (HeaderlessTable.rendered promote) where
  nonempty table := by simp [rendered_eq, (supplied_stage promote).nonempty table]
  closed table row member := by
    rw [rendered_eq] at member
    obtain ⟨one, inside, rfl⟩ := List.mem_map.mp member
    exact ((supplied_stage promote).closed table one inside).escape

theorem supply_header_spread : supplyHeader promote ([] :: spread HeaderlessTable.converted 1 4 tables) =
    [] :: spread (HeaderlessTable.supplied promote) 1 4 tables := by
  induction tables with
  | nil => exact supply_header_blanks 2
  | cons table tables ih =>
      have filled : ∀ row ∈ table.rest.map (fun row => Inline.convert row.source), row ≠ [] := by
        intro row member
        obtain ⟨one, _, rfl⟩ := List.mem_map.mp member
        exact (Closed.source one).convert.ne_nil
      have blank (rest : List Line) : supplyHeader promote (List.replicate 4 [] ++ rest) =
          List.replicate 3 [] ++ supplyHeader promote ([] :: rest) := supply_header_above_blank 3
      have top := @supply_header_aligned promote _ _ (table.rest.map (fun row => Inline.convert row.source) ++
        (List.replicate 4 [] ++ spread HeaderlessTable.converted 1 4 tables)) table.columns_aligned
          (Closed.source table.first).convert.ne_nil
      rw [supply_header_filled filled, blank, ih] at top
      rw [spread_cons, spread_cons, converted_rows, supplied]
      refine (@supply_header_blank promote _).trans (congrArg ([] :: ·) (top.trans ?_))
      simp [List.replicate_succ]

/-! ## The rules one after another -/

theorem separate_spread : Table.shape.replaceBlocks separate
      (unlines ([] :: spread HeaderlessTable.source 0 1 tables)) =
    unlines ([] :: spread HeaderlessTable.source 0 2 tables) :=
  source_stage.replace_blocks 0 0 1 shape_barred
    (fun _ _ => rfl) (by simp [Table.shape]) fun _ _ isBody => separate_run isBody

theorem align_spread : Table.shape.replaceBlocks align
      (unlines ([] :: spread HeaderlessTable.source 0 2 tables)) =
    unlines ([] :: spread (fun table => table.aligned.source) 0 2 tables) := by
  refine source_stage.replace_blocks 1 0 0 shape_barred
    (fun _ _ => rfl) (by simp [Table.shape]) fun table body isBody => ?_
  rw [align_source table isBody]
  simp

theorem data_rows_spread : (spread (fun table => table.aligned.source) 0 2 tables).map dataRow =
    spread (fun table => table.aligned.source) 0 2 tables := by
  rw [map_spread (by rfl)]
  exact spread_congr fun table => table.aligned.data_rows_source

theorem header_rows_spread : headerRows false ([] :: spread (fun table => table.aligned.source) 0 2 tables) =
    [] :: spread (fun table => table.aligned.source) 0 2 tables := by
  refine header_rows_of_none fun line member => ?_
  have empty : cells? "|h".toList [] = none := rfl
  rcases List.mem_cons.mp member with rfl | behind
  · exact empty
  · rcases mem_spread behind with rfl | ⟨table, _, here⟩
    · exact empty
    · exact (source_stage.closed table.aligned line here).no_header

theorem convert_cells_spread : cellShape.replaceBlocks convertCells
      (unlines ([] :: spread (fun table => table.aligned.source) 0 2 tables)) =
    unlines ([] :: spread HeaderlessTable.converted 0 3 tables) := by
  refine aligned_stage.replace_blocks 1 0 1 cell_shape_barred
    (fun _ _ => rfl) (fun rest line member => ?_) fun table body isBody => ?_
  · simpa [cellShape, List.replicate_succ] using member
  · rw [convert_cells_run isBody (aligned_stage.nonempty table) (aligned_stage.closed table), converted_eq]
    rfl

theorem surround_spread : Table.shape.replaceBlocks surround
      (unlines ([] :: spread HeaderlessTable.converted 0 3 tables)) =
    unlines ([] :: spread HeaderlessTable.converted 1 4 tables) := by
  refine converted_stage.replace_blocks 2 1 1 shape_barred
    (fun _ _ => rfl) (by simp [Table.shape]) fun table body isBody => ?_
  rw [surround_run isBody, List.append_assoc]
  rfl

theorem escape_spread : ([] :: spread (HeaderlessTable.supplied promote) 1 4 tables).map escape =
    [] :: spread (HeaderlessTable.rendered promote) 1 4 tables := by
  have empty : escape [] = [] := escape_of_absent (by decide)
  rw [List.map_cons, empty, map_spread empty]
  exact congrArg ([] :: ·) (spread_congr fun table => (rendered_eq table).symm)

theorem only_rows_spread : OnlyRows (unlines ([] :: spread HeaderlessTable.source 0 1 tables)) := by
  refine .of_lines (List.cons_ne_nil _ _) source_stage.whole
    (List.forall_mem_cons.mpr ⟨List.not_mem_nil, fun line member => ?_⟩) source_stage.blank_or_row
  rcases mem_spread member with rfl | ⟨table, _, own⟩
  · exact List.not_mem_nil
  · exact table.source_uniform line own

/-- The layout of tables without headers. -/
theorem convert_spread : Layout.convert promote (unlines ([] :: spread HeaderlessTable.source 0 1 tables)) =
    unlines ([] :: spread (HeaderlessTable.rendered promote) 1 4 tables) := by
  have rows : onLines (·.map dataRow) (unlines ([] :: spread (fun table => table.aligned.source) 0 2 tables)) =
      unlines ([] :: spread (fun table => table.aligned.source) 0 2 tables) := by
    rw [onLines, aligned_stage.lines_spread, List.map_cons, data_rows_spread]
    rfl
  have headers : onLines (headerRows false)
      (unlines ([] :: spread (fun table => table.aligned.source) 0 2 tables)) =
        unlines ([] :: spread (fun table => table.aligned.source) 0 2 tables) := by
    rw [onLines, aligned_stage.lines_spread, header_rows_spread]
  have supply : onLines (supplyHeader promote) (unlines ([] :: spread HeaderlessTable.converted 1 4 tables)) =
      unlines ([] :: spread (HeaderlessTable.supplied promote) 1 4 tables) := by
    rw [onLines, converted_stage.lines_spread, supply_header_spread]
  have tables : ((rules promote).drop 3 |>.take 7).foldl (fun current rule => rule current)
      (unlines ([] :: spread HeaderlessTable.source 0 1 tables)) =
        unlines ([] :: spread (HeaderlessTable.supplied promote) 1 4 tables) := by
    simp only [rules, List.drop_succ_cons, List.drop_zero, List.take_succ_cons, List.take_zero,
      List.foldl_cons, List.foldl_nil]
    rw [separate_spread, align_spread, rows, headers, convert_cells_spread, surround_spread, supply]
  rw [(only_rows_spread _).convert (List.cons_ne_nil _ _) (supplied_stage promote).whole
    (supplied_stage promote).blank_or_row tables, escape_spread]

end Wikidown.HeaderlessTable
