import Wikidown.Proofs.Block
import Wikidown.Proofs.Placeholder.Layout
import Wikidown.Proofs.Placeholder.Rendered

/-!
# The layout of headings and unordered lists

In a document without tables and numbered lists each line is converted on its own.
-/

namespace Wikidown.Layout

set_option autoImplicit false

variable {promote : Bool} {line : Line} {content : List Line} {text : Text}

/-- A line that opens neither a table nor a numbered list. -/
def Plain (line : Line) : Prop := line.head? ≠ some '|' ∧ line.head? ≠ some '+'

/-- The line breaks and the ampersands of a line. -/
def escape (line : Line) : Line := ampersandRule.apply (lineBreakRule.apply line)

theorem after_eq_none_of_head {c : Char} (other : line.head? ≠ some c) (opening : Text) :
    after? (c :: opening) line = none := by
  refine after_eq_none_of_not_prefix ?_
  rintro ⟨rest, rfl⟩
  exact other rfl

/-- Lines none of which opens a block are passed over. -/
theorem result_of_unopened {shape : BlockShape} (render : List Line → List Line)
    (unopened : ∀ line ∈ content, after? shape.opening line = none) (rest : List Line) :
    (shape.segmentsFrom (content ++ rest)).flatMap (BlockShape.result render) =
      content ++ (shape.segmentsFrom rest).flatMap (BlockShape.result render) := by
  rw [BlockShape.segments_from_of_unopened unopened, List.flatMap_append, List.flatMap_map]
  exact congrArg (· ++ _) ((List.flatMap_pure_eq_map id _).trans (List.map_id _))

theorem results_of_unopened {shape : BlockShape} (render : List Line → List Line)
    (unopened : ∀ line ∈ content, after? shape.opening line = none) :
    (shape.segmentsFrom content).flatMap (BlockShape.result render) = content := by
  rw [BlockShape.segments_from_unopened unopened, List.flatMap_map]
  exact (List.flatMap_pure_eq_map id _).trans (List.map_id _)

/-- Where no block both opens and ends, there are no blocks to replace. -/
theorem replace_blocks_of_no_body {shape : BlockShape} {render : List Line → List Line}
    (nothing : ∀ line rest, line :: rest <:+ (lines text).tail → shape.body? line rest = none) :
    shape.replaceBlocks render text = text := by
  have kept : (shape.segments (lines text)).flatMap (BlockShape.result render) = lines text := by
    obtain ⟨first, rest, shown⟩ := List.exists_cons_of_ne_nil (lines_ne_nil text)
    rw [shown, List.tail_cons] at nothing
    rw [shown, BlockShape.segments, BlockShape.segments_from_of_no_body nothing, List.flatMap_cons,
      List.flatMap_map]
    exact congrArg (first :: ·) ((List.flatMap_pure_eq_map id _).trans (List.map_id _))
  rw [BlockShape.replace_blocks_eq, kept, unlines_lines]

/-- Where no line opens a block, there are no blocks to replace. -/
theorem replace_blocks_of_unopened {shape : BlockShape} {render : List Line → List Line}
    (unopened : ∀ line ∈ lines text, after? shape.opening line = none) :
    shape.replaceBlocks render text = text := by
  refine replace_blocks_of_no_body fun line rest below => ?_
  have member : line ∈ lines text := List.mem_of_mem_tail (below.subset List.mem_cons_self)
  exact BlockShape.body_of_unopened (unopened line member)

theorem cells_of_unbarred (unbarred : line.head? ≠ some '|') (closing : Text) :
    Table.cells? closing line = none := by
  have opening : after? "|".toList line = none := after_eq_none_of_head unbarred []
  rw [Table.cells?, opening]
  rfl

theorem data_row_of_unbarred (unbarred : line.head? ≠ some '|') : Table.dataRow line = line := by
  rw [Table.dataRow, cells_of_unbarred unbarred]

theorem header_rows_append (none : ∀ line ∈ content, Table.cells? "|h".toList line = none) (rest : List Line) :
    Table.headerRows false (content ++ rest) = content ++ Table.headerRows false rest := by
  induction content with
  | nil => rfl
  | cons line content ih =>
      rw [List.forall_mem_cons] at none
      rw [List.cons_append, Table.headerRows, Bool.false_and, if_neg (by decide), none.1]
      exact congrArg (line :: ·) (ih none.2)

theorem header_rows_of_none (none : ∀ line ∈ content, Table.cells? "|h".toList line = none) :
    Table.headerRows false content = content := by
  have alone := header_rows_append none []
  rwa [List.append_nil, Table.headerRows, List.append_nil] at alone

theorem supply_header_of_unbarred (unbarred : ∀ line ∈ content, line.head? ≠ some '|') :
    Table.supplyHeader promote content = content := by
  have unaligned : ∀ {line : Line}, line.head? ≠ some '|' → ¬ startsWith "|:".toList line = true := by
    intro line other aligned
    have none : after? "|:".toList line = none := after_eq_none_of_head other [':']
    rw [startsWith, none] at aligned
    exact absurd aligned (by decide)
  induction content using Table.supplyHeader.induct promote with
  | case1 alignment row rest aligned _ _ =>
      exact absurd aligned (unaligned (unbarred alignment (by simp)))
  | case2 alignment row rest aligned _ _ =>
      exact absurd aligned (unaligned (unbarred alignment (by simp)))
  | case3 alignment row rest closed ih =>
      rw [List.forall_mem_cons] at unbarred
      rw [Table.supplyHeader, if_neg closed, ih unbarred.2]
  | case4 line rest other ih =>
      rw [List.forall_mem_cons] at unbarred
      rw [Table.supplyHeader.eq_2 promote line rest other, ih unbarred.2]
  | case5 => rw [Table.supplyHeader]

theorem heading_plain (plain : Plain line) : ∀ shown ∈ heading line, Plain shown := by
  intro shown member
  unfold heading at member
  split at member
  · rwa [List.mem_singleton.mp member]
  · next none =>
      obtain ⟨c, more, marked⟩ := List.exists_cons_of_ne_nil none
      simp only [marked, List.mem_cons, List.not_mem_nil, or_false] at member
      rcases member with rfl | rfl | rfl
      · exact ⟨by simp, by simp⟩
      · exact ⟨by simp [List.replicate_succ], by simp [List.replicate_succ]⟩
      · exact ⟨by simp, by simp⟩

theorem heading_whole (whole : '\n' ∉ line) : ∀ shown ∈ heading line, '\n' ∉ shown := by
  intro shown member
  unfold heading at member
  split at member
  · rwa [List.mem_singleton.mp member]
  · have wholeTitle : '\n' ∉ line.dropWhile (· == '*') := fun inside =>
      whole ((List.dropWhile_suffix _).subset inside)
    have title := (Inline.convert_fills (Inline.trim_whole wholeTitle)).1
    simp only [List.mem_cons, List.not_mem_nil, or_false] at member
    rcases member with rfl | rfl | rfl
    · simp
    · simp [title]
    · simp

theorem heading_ne_nil (line : Line) : heading line ≠ [] := by
  unfold heading
  split <;> simp

/-- The rules for tables leave a text without rows as it is. -/
theorem tables_of_unbarred (unbarred : ∀ line ∈ lines text, line.head? ≠ some '|') :
    ((rules promote).drop 3 |>.take 7).foldl (fun current rule => rule current) text = text := by
  have table (render : List Line → List Line) : Table.shape.replaceBlocks render text = text :=
    replace_blocks_of_unopened fun line member => after_eq_none_of_head (unbarred line member) []
  have cells (render : List Line → List Line) : Table.cellShape.replaceBlocks render text = text :=
    replace_blocks_of_unopened fun line member => after_eq_none_of_head (unbarred line member) []
  have rows : onLines (·.map Table.dataRow) text = text := by
    have same : (lines text).map Table.dataRow = lines text :=
      (List.map_congr_left fun line member => data_row_of_unbarred (unbarred line member)).trans
        (List.map_id _)
    rw [onLines, same, unlines_lines]
  have headers : onLines (Table.headerRows false) text = text := by
    rw [onLines, header_rows_of_none fun line member => cells_of_unbarred (unbarred line member) _,
      unlines_lines]
  have supplied : onLines (Table.supplyHeader promote) text = text := by
    rw [onLines, supply_header_of_unbarred unbarred, unlines_lines]
  simp only [rules, List.drop_succ_cons, List.drop_zero, List.take_succ_cons, List.take_zero,
    List.foldl_cons, List.foldl_nil, table, cells, rows, headers, supplied]

/-- The rules for tables and numbered lists leave plain lines as they are. -/
theorem blocks_of_plain (plain : ∀ line ∈ lines text, Plain line) :
    ((rules promote).drop 3 |>.take 9).foldl (fun current rule => rule current) text = text := by
  have numbered (render : List Line → List Line) : OrderedList.shape.replaceBlocks render text = text :=
    replace_blocks_of_unopened fun line member => after_eq_none_of_head (plain line member).2 []
  have cut : ((rules promote).drop 3).take 9 = ((rules promote).drop 3).take 7 ++
      [OrderedList.shape.replaceBlocks OrderedList.separate,
        OrderedList.shape.replaceBlocks OrderedList.items] := rfl
  rw [cut, List.foldl_append, tables_of_unbarred fun line member => (plain line member).1]
  simp only [List.foldl_cons, List.foldl_nil, numbered]

/-- The lines of a converted line that is plain. -/
def converted (line : Line) : List Line :=
  (heading line).map fun shown => escape (unorderedItem shown)

/-- The rules for carriage returns leave a text without them as it is. -/
theorem returns_of_uniform (uniform : '\r' ∉ text) :
    ((rules promote).take 2).foldl (fun current rule => rule current) text = text := by
  have absent (pattern value : Text) (visible : pattern ≠ []) (member : '\r' ∈ pattern) :
      (Substitution.literal pattern value visible).apply text = text :=
    Substitution.literal_apply_of_absent visible fun inside => uniform (inside.subset member)
  simp only [rules, List.take_succ_cons, List.take_zero, List.foldl_cons, List.foldl_nil]
  rw [absent "\n\r".toList _ _ (by decide), absent "\r".toList _ _ (by decide)]

theorem heading_of_unstarred (other : line.head? ≠ some '*') : heading line = [line] := by
  have none : line.takeWhile (· == '*') = [] := by
    cases line with
    | nil => rfl
    | cons c line => simp_all
  rw [heading, none]

theorem headings_of_unstarred (unstarred : ∀ line ∈ lines text, line.head? ≠ some '*') :
    replaceLines heading text = text := by
  rw [replaceLines, onLines, List.flatMap_congr fun line member => heading_of_unstarred (unstarred line member)]
  exact (congrArg unlines ((List.flatMap_pure_eq_map id _).trans (List.map_id _))).trans (unlines_lines text)

/-- The rules below those for blocks convert each line on its own. -/
theorem below_blocks (nonempty : content ≠ []) (whole : ∀ line ∈ content, '\n' ∉ line) :
    ((rules promote).drop 12).foldl (fun current rule => rule current) (unlines content) =
      unlines (content.map fun line => escape (unorderedItem line)) := by
  simp only [rules, List.drop_succ_cons, List.drop_zero, List.foldl_cons, List.foldl_nil, onLines]
  rw [lines_unlines nonempty whole, line_break_in_line.apply_unlines (by simpa using nonempty),
    ampersand_in_line.apply_unlines (by simpa using nonempty), List.map_map, List.map_map]
  rfl

/-- The layout of a document without tables, numbered lists and carriage returns. -/
theorem convert_of_plain (returns : '\r' ∉ text) (plain : ∀ line ∈ lines text, Plain line) :
    convert promote text = unlines ((lines text).flatMap converted) := by
  have headings : lines (replaceLines heading text) = (lines text).flatMap heading :=
    lines_replace_lines heading text heading_ne_nil fun _ => heading_whole
  have plainToo : ∀ line ∈ lines (replaceLines heading text), Plain line := by
    intro line member
    rw [headings] at member
    obtain ⟨above, inside, shown⟩ := List.mem_flatMap.mp member
    exact heading_plain (plain above inside) line shown
  have back := @below_blocks promote (lines (replaceLines heading text)) (lines_ne_nil _)
    fun line => no_newline_of_mem_lines
  have cut : rules promote = (rules promote).take 2 ++ (replaceLines heading ::
      (((rules promote).drop 3).take 9 ++ (rules promote).drop 12)) := rfl
  rw [unlines_lines] at back
  rw [convert, cut, List.foldl_append, List.foldl_cons, List.foldl_append, returns_of_uniform returns,
    blocks_of_plain plainToo, back, headings, List.map_flatMap]
  rfl

theorem escape_of_absent (absent : '&' ∉ line) : escape line = line := by
  rw [escape, Substitution.apply_of_absent line_break_in_line.starts absent,
    Substitution.apply_of_absent ampersand_in_line.starts absent]

theorem escape_cons {c : Char} (other : c ≠ '&') (line : Line) : escape (c :: line) = c :: escape line := by
  rw [escape, Substitution.apply_cons_other line_break_in_line.starts other,
    Substitution.apply_cons_other ampersand_in_line.starts other]
  rfl

theorem escape_keep {front : Text} (absent : '&' ∉ front) (text : Text) :
    escape (front ++ text) = front ++ escape text := by
  rw [escape, Substitution.apply_append_of_absent line_break_in_line.starts absent,
    Substitution.apply_append_of_absent ampersand_in_line.starts absent]
  rfl

theorem ampersand_fills : ampersandRule.FillsLines := by
  intro text written rest found whole
  obtain ⟨rfl, rfl⟩ := ampersand_step found
  rw [List.mem_append, not_or] at whole ⊢
  exact ⟨by decide, by decide, whole.2⟩

theorem escape_fills (whole : '\n' ∉ line) :
    '\n' ∉ escape line ∧ (line ≠ [] → escape line ≠ []) := by
  have breaks : lineBreakRule.FillsLines := Substitution.literal_fills (by decide) (by decide)
  obtain ⟨broken, shown⟩ := breaks.apply whole
  obtain ⟨escaped, shownToo⟩ := ampersand_fills.apply broken
  exact ⟨escaped, fun nonempty => shownToo (shown nonempty)⟩

theorem escape_lacks {word : Text} (traced : Traced word) (lacks : Lacks promote word line) :
    Lacks promote word (escape line) :=
  ampersand_in_line.keeps.apply traced [] _ (line_break_in_line.keeps.apply traced [] line lacks)

theorem converted_lacks {word : Text} (traced : Traced word) (lacks : Lacks promote word line) :
    ∀ shown ∈ converted line, Lacks promote word shown := by
  intro shown member
  obtain ⟨above, inside, rfl⟩ := List.mem_map.mp member
  exact escape_lacks traced
    (unordered_item_lacks traced (heading_lacks traced lacks above inside))

theorem converted_nil : converted [] = [[]] := by
  have none : heading [] = [[]] := rfl
  have blank : escape (unorderedItem []) = [] := escape_of_absent (by decide)
  rw [converted, none, List.map_singleton, blank]

theorem converted_token (kind : Kind) (index : Nat) : converted (token kind index) = [token kind index] := by
  have item : unorderedItem (token kind index) = token kind index :=
    unordered_item_of_token [] (by decide) kind index
  rw [converted, heading_of_token, List.map_singleton, item, escape_of_absent (not_mem_token (by decide))]

end Wikidown.Layout
