import Wikidown.Proofs.Layout.Ended
import Wikidown.Proofs.Layout.Tables

/-!
# Tables below other content

The rows of a table stand at the end of a document, below an empty line. Each rule of the layout makes
of them what it makes of them in a document of their own, whatever it makes of the lines above.
-/

namespace Wikidown.Layout

set_option autoImplicit false

open Table

/-- A text that ends with some rows, with an empty line above them and at least two below. -/
def Below (rows : List Line) (text : Text) : Prop :=
  ∃ above count, lines text = above ++ [] :: (rows ++ List.replicate (count + 2) [])

variable {promote : Bool} {text : Text} {rows above : List Line}

theorem below_unlines (whole : ∀ row ∈ rows, '\n' ∉ row) (above : List Line) (count : Nat) :
    Below rows (unlines (above ++ [] :: (rows ++ List.replicate (count + 2) []))) := by
  refine ⟨above.flatMap lines, count, ?_⟩
  rw [lines_unlines_flatMap (by simp), List.flatMap_append, List.flatMap_cons, List.flatMap_append,
    flatMap_lines_of_whole whole, flatMap_lines_of_whole (blank_lines_whole _)]
  rfl

/-! ## The alignment row -/

section Aligned

open HeaderlessTable

variable {table : HeaderlessTable}

/-- A document with rows below other lines. -/
def framed (above rows : List Line) (count : Nat) : List Line :=
  [] :: (above ++ [] :: (rows ++ List.replicate count []))

theorem lines_framed {count : Nat} (wholeAbove : ∀ line ∈ above, '\n' ∉ line)
    (whole : ∀ row ∈ rows, '\n' ∉ row) :
    lines (unlines (framed above rows count)) = framed above rows count := by
  refine lines_unlines (List.cons_ne_nil _ _) ?_
  simp only [framed, List.forall_mem_cons, List.forall_mem_append]
  exact ⟨List.not_mem_nil, wholeAbove, List.not_mem_nil, whole, blank_lines_whole count⟩

theorem result_of_table {rows : List Line} {render : List Line → List Line} {shown : List Line} (count : Nat)
    (nonempty : rows ≠ []) (closed : ∀ row ∈ rows, Closed row)
    (renders : ∀ body, BodyOf shape rows body → render body = shown) :
    (shape.segmentsFrom (rows ++ List.replicate (count + 2) [])).flatMap (BlockShape.result render) =
      shown ++ List.replicate (count + 2) [] := by
  rw [result_of_run shape_barred (.of_closed nonempty closed) rfl (by simp [shape]) renders,
    result_of_end shape_barred]

theorem separated_framed (ended : Ended above) (content : lines text = framed above table.source 2) :
    ∃ shown, Ended shown ∧
      Table.shape.replaceBlocks separate text = unlines (framed shown table.source 3) := by
  obtain ⟨shown, endedBelow, separates⟩ := separate_ended ended
  have below := result_of_table 0 (source_stage.nonempty table) (source_stage.closed table)
    fun _ => separate_run
  refine ⟨shown, endedBelow, ?_⟩
  rw [BlockShape.replace_blocks_eq, content, framed, BlockShape.segments, List.flatMap_cons, separates,
    below, List.append_assoc]
  rfl

theorem aligned_framed (ended : Ended above) : ∃ shown,
    (∀ line ∈ shown.getLast?, Shut line) ∧ (∀ line ∈ shown, '\n' ∉ line) ∧
      Table.shape.replaceBlocks align (unlines (framed above table.source 3)) =
        unlines (framed shown table.aligned.source 3) := by
  obtain ⟨shown, ⟨shut, whole⟩, aligns⟩ := align_ended ended
  have below := result_of_table 1 (source_stage.nonempty table) (source_stage.closed table)
    fun _ => align_source table
  refine ⟨shown, shut, whole, ?_⟩
  rw [BlockShape.replace_blocks_eq,
    lines_framed ended.whole fun row member => (source_stage.closed table row member).1, framed,
    BlockShape.segments, List.flatMap_cons, aligns, below]
  rfl

theorem data_rows_framed (table : HeaderlessTable) (whole : ∀ line ∈ above, '\n' ∉ line) :
    onLines (·.map dataRow) (unlines (framed above table.source 3)) =
      unlines (framed (above.map dataRow) table.source 3) := by
  rw [onLines, lines_framed whole fun row member => (source_stage.closed table row member).1]
  simp only [framed, List.map_cons, List.map_append, List.map_replicate, data_rows_source]
  rfl

theorem header_rows_framed (table : HeaderlessTable) (whole : ∀ line ∈ above, '\n' ∉ line)
    (shut : ∀ line ∈ above.getLast?, Shut line) : ∃ shown,
    onLines (headerRows false) (unlines (framed above table.source 3)) =
      unlines (framed shown table.source 3) := by
  obtain ⟨shown, heads⟩ := header_rows_above false (fun _ => rfl) shut
  have empty : cells? "|h".toList [] = none := rfl
  have headless : headerRows false (table.source ++ List.replicate 3 []) =
      table.source ++ List.replicate 3 [] := by
    refine header_rows_of_none (List.forall_mem_append.mpr ⟨fun row member => ?_, fun line member => ?_⟩)
    · exact (source_stage.closed table row member).no_header
    · rw [List.eq_of_mem_replicate member, empty]
  refine ⟨shown, ?_⟩
  rw [onLines, lines_framed whole fun row member => (source_stage.closed table row member).1, framed,
    headerRows, Bool.false_and, if_neg (by decide), empty]
  simp only [heads, headless, framed]

/-- Below lines whose tables have ended, a table without a header gets its alignment row. -/
theorem aligned_below (ended : Ended above) (content : lines text = framed above table.source 2) :
    Below table.aligned.source
      ((((rules promote).drop 3).take 4).foldl (fun current rule => rule current) text) := by
  obtain ⟨separated, endedBelow, separates⟩ := separated_framed ended content
  obtain ⟨shown, shut, whole, aligns⟩ := @aligned_framed separated table endedBelow
  have shutRows : ∀ line ∈ (shown.map dataRow).getLast?, Shut line := by
    rw [List.getLast?_map]
    intro line member
    obtain ⟨last, final, rfl⟩ := Option.map_eq_some_iff.mp member
    exact (shut last final).data_row
  obtain ⟨headed, heads⟩ := header_rows_framed table.aligned
    (List.forall_mem_map.mpr fun line member => data_row_whole (whole line member)) shutRows
  simp only [rules, List.drop_succ_cons, List.drop_zero, List.take_succ_cons, List.take_zero,
    List.foldl_cons, List.foldl_nil]
  rw [separates, aligns, data_rows_framed table.aligned whole, heads]
  exact below_unlines (fun row member => (aligned_stage.closed table row member).1) ([] :: headed) 1

end Aligned

/-! ## Rules that change rows -/

/-- A rule for tables that changes each row on its own, and writes blank lines above and below them. It
does so too where the rows are the end of a table that a line above has left open. -/
structure RowRule (shape : BlockShape) (render : List Line → List Line) (change : Line → Line)
    (more less : Nat) : Prop where
  barred : Barred shape
  ends : ∀ rest, shape.endsBefore ([] :: [] :: rest) = true
  inert : ∀ rest, shape.inert rest = 0 ∨ (more = 0 ∧ shape.inert rest = 2)
  rows : ∀ {rows body : List Line}, rows ≠ [] → (∀ row ∈ rows, Closed row) → BodyOf shape rows body →
    render body = List.replicate more [] ++ (rows.map change ++ List.replicate less [])
  below : ∀ {above rows body : List Line}, rows ≠ [] → (∀ row ∈ rows, Closed row) →
    shape.opening ++ unlines body ++ shape.closing = unlines (above ++ [] :: rows) →
      ∃ shown, render body = shown ++ [] :: (rows.map change ++ List.replicate less [])

section Rows

variable {shape : BlockShape} {render : List Line → List Line} {change : Line → Line} {more less : Nat}
  {rows above body remaining : List Line} {line : Line}

/-- A table that a line above some rows opens ends above them or with the last of them. -/
theorem body_above_rows (barred : Barred shape) (closed : ∀ row ∈ rows, Closed row) (count : Nat)
    (found : shape.body? line (above ++ [] :: (rows ++ List.replicate count [])) = some (body, remaining)) :
    (∃ taken rest, above = taken ++ rest ∧
      remaining = rest ++ [] :: (rows ++ List.replicate count [])) ∨
    (remaining = List.replicate count [] ∧
      shape.opening ++ unlines body ++ shape.closing = unlines (line :: above ++ [] :: rows)) := by
  obtain ⟨front, start, search⟩ := Option.bind_eq_some_iff.mp found
  obtain ⟨taken, split, text, inner, last, closes⟩ := BlockShape.body_from_taken search
  have ends := BlockShape.body_from_ends search
  rw [barred.closing] at closes
  have joined : (above ++ [] :: rows) ++ List.replicate count [] = taken ++ remaining := by
    rw [← split]
    simp
  obtain ⟨rest, cut, rfl⟩ := taken_within (fun line => List.eq_of_mem_replicate) joined closes
  rcases List.append_eq_append_iff.mp cut with ⟨own, rfl, behind⟩ | ⟨own, rfl, rfl⟩
  · cases own with
    | nil =>
        obtain rfl : [] :: rows = rest := behind
        exact .inl ⟨above, [], by simp, rfl⟩
    | cons blank own =>
        obtain rfl : [] = blank := (List.cons.inj behind).1
        have cutRows : rows = own ++ rest := (List.cons.inj behind).2
        cases rest with
        | nil =>
            obtain rfl : rows = own := by rw [cutRows, List.append_nil]
            refine .inr ⟨rfl, ?_⟩
            obtain rfl : line = '|' :: front := by
              rw [barred.opening] at start
              exact after_eq_some.mp start
            rw [barred.opening, List.append_assoc, text]
            exact (unlines_cons_char '|' front (above ++ [] :: rows)).symm
        | cons row rest =>
            -- a table goes on from one row to the next
            obtain ⟨_, cells, rfl⟩ := closed row (by simp [cutRows])
            have goes := barred.goesOn (cells ++ ['|']) (rest ++ List.replicate count [])
            exact absurd (goes.symm.trans ends) (by decide)
  · exact .inl ⟨taken, own, rfl, by simp⟩

/-- A rule writes the changed rows at the end, below an empty line, where some lines stand above them. -/
def Writes (shape : BlockShape) (render : List Line → List Line) (change : Line → Line) (less : Nat)
    (rows : List Line) (count : Nat) (above : List Line) : Prop :=
  ∃ shown, (shape.segmentsFrom (above ++ [] :: (rows ++ List.replicate (count + 2) []))).flatMap
      (BlockShape.result render) =
    shown ++ [] :: (rows.map change ++ List.replicate (less + (count + 2)) [])

namespace RowRule

/-- Rows that a search reaches. -/
theorem reached (rule : RowRule shape render change more less) (nonempty : rows ≠ [])
    (closed : ∀ row ∈ rows, Closed row) (count : Nat) :
    (shape.segmentsFrom (rows ++ List.replicate (count + 2) [])).flatMap (BlockShape.result render) =
      List.replicate more [] ++ (rows.map change ++ List.replicate (less + (count + 2)) []) := by
  have inert : ∀ line ∈ (List.replicate (count + 2) ([] : Line)).take
      (shape.inert (List.replicate (count + 2) [])), line = [] :=
    fun line member => List.eq_of_mem_replicate (List.mem_of_mem_take member)
  have ends : shape.endsBefore (List.replicate (count + 2) []) = true := rule.ends (List.replicate count [])
  rw [result_of_run rule.barred (.of_closed nonempty closed) ends inert fun _ => rule.rows nonempty closed,
    result_of_end rule.barred]
  simp [List.replicate_add]

theorem writes_alone (rule : RowRule shape render change more less) (nonempty : rows ≠ [])
    (closed : ∀ row ∈ rows, Closed row) (count : Nat) : Writes shape render change less rows count [] := by
  have blank := result_of_blanks rule.barred render 1 (rows ++ List.replicate (count + 2) [])
  rw [rule.reached nonempty closed] at blank
  refine ⟨List.replicate more [], blank.trans ?_⟩
  rw [← List.append_assoc, ← List.replicate_add, Nat.add_comm, List.replicate_add, List.append_assoc]
  rfl

/-- Behind a table that takes two lines along, the search goes on below those. -/
theorem writes_behind (rule : RowRule shape render change 0 less) {first : Line} {others rest : List Line}
    (nonempty : others ≠ []) (closed : ∀ row ∈ first :: others, Closed row) (stays : change first = first)
    {count : Nat} (later : ∀ blank next below, rest = blank :: next :: below →
      Writes shape render change less (first :: others) count below) :
    ∃ shown, (((rest ++ [] :: (first :: others ++ List.replicate (count + 2) [])).take 2).map
        Segment.line).flatMap (BlockShape.result render) ++
      (shape.segmentsFrom ((rest ++ [] :: (first :: others ++ List.replicate (count + 2) [])).drop 2)).flatMap
        (BlockShape.result render) =
      shown ++ [] :: ((first :: others).map change ++ List.replicate (less + (count + 2)) []) := by
  match rest, later with
  | [], _ =>
      -- the first row is one of the two lines
      have below := rule.reached nonempty (fun row member => closed row (List.mem_cons_of_mem _ member)) count
      refine ⟨[], ?_⟩
      rw [List.nil_append, List.cons_append, List.drop_succ_cons, List.drop_succ_cons, List.drop_zero,
        below, List.map_cons, stays]
      rfl
  | [blank], _ =>
      have below := rule.reached (List.cons_ne_nil first others) closed count
      refine ⟨[blank], ?_⟩
      rw [List.cons_append, List.nil_append, List.drop_succ_cons, List.drop_succ_cons, List.drop_zero,
        below]
      rfl
  | blank :: next :: below, later =>
      obtain ⟨shown, same⟩ := later blank next below rfl
      refine ⟨blank :: next :: shown, ?_⟩
      rw [List.cons_append, List.cons_append, List.drop_succ_cons, List.drop_succ_cons, List.drop_zero,
        same]
      rfl

theorem writes (rule : RowRule shape render change more less) {first : Line} {others : List Line}
    (nonempty : others ≠ []) (closed : ∀ row ∈ first :: others, Closed row) (stays : change first = first)
    (count : Nat) (above : List Line) : Writes shape render change less (first :: others) count above := by
  induction size : above.length using Nat.strong_induction_on generalizing above with
  | _ total ih =>
      cases above with
      | nil => exact rule.writes_alone (List.cons_ne_nil first others) closed count
      | cons line above =>
          cases found : shape.body? line (above ++ [] :: (first :: others ++ List.replicate (count + 2) [])) with
          | none =>
              obtain ⟨shown, same⟩ := ih above.length (by simp [← size]) above rfl
              refine ⟨line :: shown, ?_⟩
              rw [List.cons_append, BlockShape.segments_from_of_none found, List.flatMap_cons, same]
              rfl
          | some result =>
              obtain ⟨body, remaining⟩ := result
              rw [Writes, List.cons_append, BlockShape.segments_from_of_some found, List.flatMap_cons]
              -- the table ends above the rows, or it takes all of them in
              rcases body_above_rows rule.barred closed (count + 2) found with
                ⟨taken, rest, rfl, rfl⟩ | ⟨rfl, text⟩
              · have shorter : rest.length < total := by
                  simp only [List.length_cons, List.length_append] at size
                  omega
                rcases rule.inert (rest ++ [] :: (first :: others ++ List.replicate (count + 2) [])) with
                  none | ⟨rfl, two⟩
                · obtain ⟨shown, same⟩ := ih rest.length shorter rest rfl
                  rw [none, List.take_zero, List.drop_zero, List.map_nil, List.nil_append, same]
                  exact ⟨render body ++ shown, by rw [List.append_assoc]; rfl⟩
                · have later : ∀ blank next below, rest = blank :: next :: below →
                      Writes shape render change less (first :: others) count below := by
                    rintro blank next below rfl
                    exact ih below.length ((Nat.le_add_right below.length 2).trans_lt shorter) below rfl
                  obtain ⟨shown, same⟩ := rule.writes_behind nonempty closed stays later
                  rw [two, List.flatMap_append, same]
                  exact ⟨render body ++ shown, by rw [List.append_assoc]; rfl⟩
              · obtain ⟨shown, written⟩ := rule.below (List.cons_ne_nil first others) closed text
                rw [segments_from_inert rule.barred fun line member =>
                    List.eq_of_mem_replicate (List.mem_of_mem_take member),
                  result_of_end rule.barred, BlockShape.result, written]
                exact ⟨shown, by simp [List.replicate_add]⟩

end RowRule

theorem RowRule.replace_blocks (rule : RowRule shape render change more less) {first : Line}
    {others : List Line} (nonempty : others ≠ []) (closed : ∀ row ∈ first :: others, Closed row)
    (stays : change first = first) (changed : ∀ row, Closed row → Closed (change row))
    (below : Below (first :: others) text) :
    Below ((first :: others).map change) (shape.replaceBlocks render text) := by
  obtain ⟨above, count, content⟩ := below
  have found : ∃ shown, (shape.segments (lines text)).flatMap (BlockShape.result render) =
      shown ++ [] :: ((first :: others).map change ++ List.replicate (less + (count + 2)) []) := by
    rw [content]
    cases above with
    | nil =>
        have blank := result_of_blanks rule.barred render 1 (first :: others ++ List.replicate (count + 2) [])
        obtain ⟨shown, same⟩ := rule.writes nonempty closed stays count []
        exact ⟨shown, blank.symm.trans same⟩
    | cons line above =>
        obtain ⟨shown, same⟩ := rule.writes nonempty closed stays count above
        exact ⟨line :: shown, congrArg (line :: ·) same⟩
  obtain ⟨shown, same⟩ := found
  rw [BlockShape.replace_blocks_eq, same]
  have whole : ∀ row ∈ (first :: others).map change, '\n' ∉ row :=
    List.forall_mem_map.mpr fun row member => (changed row (closed row member)).1
  exact below_unlines whole shown (less + count)

end Rows

/-- Rows at the end of a table are converted below what stands above them in the table. -/
theorem convert_cells_below (nonempty : rows ≠ []) (closed : ∀ row ∈ rows, Closed row) {body : List Line}
    (text : cellShape.opening ++ unlines body ++ cellShape.closing = unlines (above ++ [] :: rows)) :
    ∃ shown, convertCells body = shown ++ [] :: (rows.map Inline.convert ++ [[]]) := by
  obtain ⟨row, others, rfl⟩ := List.exists_cons_of_ne_nil nonempty
  obtain ⟨_, cells, shape⟩ := closed row List.mem_cons_self
  have opened : above ≠ [] := by
    rintro rfl
    exact absurd (List.cons.inj text).1 (by decide)
  have bar := @convert_keep ['|'] (List.forall_mem_singleton.mpr (by decide))
    (unlines ((cells ++ ['|']) :: others))
  have rowsConverted : '|' :: Inline.convert (unlines ((cells ++ ['|']) :: others)) =
      unlines ((row :: others).map Inline.convert) := by
    rw [← Closed.convert_unlines closed, shape, unlines_cons_char]
    exact bar.symm
  have split := convert_above_bar 1 (unlines above) (unlines ((cells ++ ['|']) :: others))
  have joined : unlines (above ++ [] :: row :: others) =
      unlines above ++ (List.replicate 2 '\n' ++ '|' :: unlines ((cells ++ ['|']) :: others)) := by
    rw [unlines_append opened (by simp), unlines_cons_cons, shape, unlines_cons_char]
    rfl
  have whole : ∀ shown ∈ (row :: others).map Inline.convert, '\n' ∉ shown :=
    List.forall_mem_map.mpr fun one inside => (closed one inside).convert.1
  have feeds : lines (Inline.convert (unlines above) ++
      (List.replicate 2 '\n' ++ unlines ((row :: others).map Inline.convert))) =
        lines (Inline.convert (unlines above)) ++ [] :: (row :: others).map Inline.convert :=
    (lines_append_newline _ _).trans (congrArg (lines (Inline.convert (unlines above)) ++ [] :: ·)
      (lines_unlines (List.cons_ne_nil _ _) whole))
  refine ⟨lines (Inline.convert (unlines above)), ?_⟩
  rw [convert_cells_eq, text, joined, split, rowsConverted, feeds, List.append_assoc]
  rfl

theorem convert_cells_rule : RowRule cellShape convertCells Inline.convert 0 1 where
  barred := cell_shape_barred
  ends _ := rfl
  inert rest := by
    rcases rest with _ | ⟨_ | ⟨c, line⟩, rest⟩
    · exact .inl rfl
    · exact .inr ⟨rfl, rfl⟩
    · exact .inl rfl
  rows nonempty closed isBody := convert_cells_run isBody nonempty closed
  below nonempty closed text := convert_cells_below nonempty closed text

theorem surround_rule : RowRule Table.shape surround id 1 1 where
  barred := shape_barred
  ends _ := rfl
  inert _ := .inl rfl
  rows _ _ isBody := by
    rw [surround_run isBody, List.map_id, List.append_assoc]
    rfl
  below := by
    intro above rows body nonempty closed text
    refine ⟨[] :: above.flatMap lines, ?_⟩
    rw [surround, BlockShape.blockLines, text, lines_unlines_flatMap (by simp), List.flatMap_append,
      List.flatMap_cons, flatMap_lines_of_whole fun row member => (closed row member).1, List.map_id,
      lines_nil]
    simp

end Wikidown.Layout
