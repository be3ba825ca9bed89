import Wikidown.Proofs.Layout.Below
import Wikidown.Proofs.Layout.NumberedLists

/-!
# Ordered lists above a table

An ordered list goes on to the next empty line. Where an empty line stands below each line that opens
one, no list takes a table in that stands below all of them.
-/

namespace Wikidown.Layout

set_option autoImplicit false

open Table

/-- An empty line stands below each line that can open an ordered list. -/
def ListsEnd : List Line → Prop
  | [] => True
  | line :: rest => (line.head? = some '+' → [] ∈ rest) ∧ ListsEnd rest

/-- A text that ends with some rows and at least two blank lines, and above the rows no list is open. -/
def BelowLists (rows : List Line) (text : Text) : Prop :=
  ∃ above count, lines text = above ++ (rows ++ List.replicate (count + 2) []) ∧
    above ≠ [] ∧ ListsEnd above

variable {promote : Bool} {text : Text} {rows above below front : List Line} {line : Line}

theorem lists_end_append (blank : [] ∈ below) (ends : ListsEnd below) : ListsEnd (front ++ below) := by
  induction front with
  | nil => exact ends
  | cons line front ih => exact ⟨fun _ => List.mem_append_right front blank, ih⟩

theorem lists_end_of_append (ends : ListsEnd (front ++ below)) : ListsEnd below := by
  induction front with
  | nil => exact ends
  | cons line front ih => exact ih ends.2

theorem lines_above_rows {count : Nat} (whole : ∀ line ∈ above, '\n' ∉ line)
    (wholeRows : ∀ row ∈ rows, '\n' ∉ row) (nonempty : above ≠ []) :
    lines (unlines (above ++ (rows ++ List.replicate count []))) =
      above ++ (rows ++ List.replicate count []) := by
  refine lines_unlines (by simp [nonempty]) ?_
  simp only [List.forall_mem_append]
  exact ⟨whole, wholeRows, blank_lines_whole count⟩

/-! ## The header of the table -/

section Header

variable {alignment row : Line} {rest : List Line}

/-- The lines above a header, with a blank line as one of them. -/
structure AboveHeader (shown : List Line) : Prop where
  blank : [] ∈ shown
  ends : ListsEnd shown
  whole : ∀ line ∈ shown, '\n' ∉ line

theorem AboveHeader.cons {shown : List Line} (header : AboveHeader shown) (whole : '\n' ∉ line) :
    AboveHeader (line :: shown) :=
  ⟨List.mem_cons_of_mem line header.blank, ⟨fun _ => header.blank, header.ends⟩,
    List.forall_mem_cons.mpr ⟨whole, header.whole⟩⟩

/-- An empty header above an alignment row. -/
theorem AboveHeader.emptied {shown : List Line} (header : AboveHeader shown) (whole : '\n' ∉ line) :
    AboveHeader ([] :: emptyHeader line :: line :: shown) :=
  ((header.cons whole).cons fun feed => whole (@Lacks.mem_visible false _ _ feed)).cons List.not_mem_nil

/-- An alignment row that changes places with the row below it. -/
theorem AboveHeader.promoted {first : Line} {shown : List Line} (header : AboveHeader (first :: shown))
    (unmarked : line.head? ≠ some '+') (whole : '\n' ∉ line) :
    AboveHeader ([] :: first :: line :: shown) := by
  have wholeShown := List.forall_mem_cons.mp header.whole
  refine ⟨List.mem_cons_self, ?_, ?_⟩
  · refine ⟨by simp, fun opened => ?_, fun marked => absurd marked unmarked, header.ends.2⟩
    exact List.mem_cons_of_mem _ (header.ends.1 opened)
  · simp only [List.forall_mem_cons]
    exact ⟨List.not_mem_nil, wholeShown.1, whole, wholeShown.2⟩

/-- Where an alignment row stands above some lines, it gets its header above what becomes of those. -/
theorem supply_header_again {rest shown tail : List Line} (opens : startsWith "|:".toList line = true)
    (whole : '\n' ∉ line) (nonempty : rest ≠ []) (header : AboveHeader shown)
    (same : supplyHeader promote rest = shown ++ tail) : ∃ more, AboveHeader more ∧
      supplyHeader promote ([] :: line :: rest) = more ++ tail := by
  obtain ⟨next, behind, rfl⟩ := List.exists_cons_of_ne_nil nonempty
  have written := @supplyHeader.eq_1 promote line next behind
  rw [if_pos opens, same] at written
  cases promote with
  | false => exact ⟨_, header.emptied whole, written⟩
  | true =>
      obtain ⟨more, begins⟩ := @supply_header_head true next behind
      obtain ⟨first, shown, rfl⟩ := List.exists_cons_of_ne_nil (List.ne_nil_of_mem header.blank)
      obtain rfl : first = next := (List.cons.inj (same.symm.trans begins)).1
      obtain ⟨marker, rfl⟩ := starts_with_iff.mp opens
      exact ⟨_, header.promoted (by simp) whole, written⟩

/-- Whatever headers are supplied above it, a table below an empty line gets its own. -/
theorem supply_header_above (aligned : startsWith "|:".toList alignment = true) (filled : row ≠ [])
    (rest above : List Line) (whole : ∀ line ∈ above, '\n' ∉ line) :
    ∃ shown, AboveHeader shown ∧ supplyHeader promote (above ++ [] :: alignment :: row :: rest) =
      shown ++ (headed promote alignment row ++ supplyHeader promote rest) := by
  induction size : above.length using Nat.strong_induction_on generalizing above with
  | _ size ih =>
      cases above with
      | nil =>
          refine ⟨[[]], ⟨List.mem_singleton_self _, ?_, by simp⟩, supply_header_aligned aligned filled⟩
          exact ⟨fun marker => absurd marker (by simp), trivial⟩
      | cons line above =>
          rw [List.forall_mem_cons] at whole
          obtain ⟨shown, header, same⟩ := ih above.length (by simp [← size]) above whole.2 rfl
          by_cases empty : line = []
          · subst empty
            cases above with
            | nil =>
                refine ⟨[] :: shown, header.cons List.not_mem_nil, ?_⟩
                exact supply_header_blank.trans (congrArg ([] :: ·) same)
            | cons other above =>
                by_cases opens : startsWith "|:".toList other = true
                · rw [List.forall_mem_cons] at whole
                  obtain ⟨shown, header, same⟩ := ih above.length
                    (by simp only [← size, List.length_cons]; omega) above whole.2.2 rfl
                  exact supply_header_again opens whole.2.1 (by simp) header same
                · obtain ⟨next, behind, shape⟩ := List.exists_cons_of_ne_nil
                    (show above ++ [] :: alignment :: row :: rest ≠ [] by simp)
                  refine ⟨[] :: shown, header.cons List.not_mem_nil, ?_⟩
                  rw [List.cons_append, shape] at same
                  rw [List.cons_append, List.cons_append, shape, supplyHeader, if_neg opens, same]
                  rfl
          · refine ⟨line :: shown, header.cons whole.1, ?_⟩
            have passed := @supply_header_filled promote (above ++ [] :: alignment :: row :: rest) [line]
              (by simpa using empty)
            exact passed.trans (congrArg (line :: ·) same)

end Header

theorem supply_header_below {alignment row : Line} {others : List Line}
    (aligned : startsWith "|:".toList alignment = true)
    (closed : ∀ line ∈ alignment :: row :: others, Closed line)
    (headClosed : ∀ line ∈ headed promote alignment row, Closed line)
    (below : Below (alignment :: row :: others) text) :
    BelowLists (headed promote alignment row ++ others) (onLines (supplyHeader promote) text) := by
  obtain ⟨above, count, content⟩ := below
  simp only [List.forall_mem_cons] at closed
  have whole : ∀ line ∈ above, '\n' ∉ line := fun line member =>
    no_newline_of_mem_lines (by rw [content]; exact List.mem_append_left _ member)
  have filled : ∀ line ∈ others, line ≠ [] := fun line member => (closed.2.2 line member).ne_nil
  have rest : supplyHeader promote (others ++ List.replicate (count + 2) []) =
      others ++ List.replicate (count + 2) [] := by
    rw [supply_header_filled filled, supply_header_blanks]
  obtain ⟨shown, header, same⟩ := @supply_header_above promote alignment row aligned closed.2.1.ne_nil
    (others ++ List.replicate (count + 2) []) above whole
  have wholeRows : ∀ line ∈ headed promote alignment row ++ others, '\n' ∉ line :=
    List.forall_mem_append.mpr ⟨fun line member => (headClosed line member).1,
      fun line member => (closed.2.2 line member).1⟩
  have nonempty := List.ne_nil_of_mem header.blank
  refine ⟨shown, count, ?_, nonempty, header.ends⟩
  rw [onLines, content, List.cons_append, List.cons_append, same, rest, ← List.append_assoc (headed _ _ _),
    lines_above_rows header.whole wholeRows nonempty]

/-! ## Lists above the table -/

/-- A list takes the empty line below it along, and the line below that one. -/
theorem result_of_list (render : List Line → List Line) (marker : Line) {inner : List Line}
    (filled : [] ∉ inner) (next : Line) (rest : List Line) :
    (OrderedList.shape.segmentsFrom (('+' :: marker) :: (inner ++ [] :: next :: rest))).flatMap
        (BlockShape.result render) =
      render (marker :: inner) ++
        [] :: next :: (OrderedList.shape.segmentsFrom rest).flatMap (BlockShape.result render) := by
  have found : OrderedList.shape.body? ('+' :: marker) (inner ++ [] :: next :: rest) =
      some (marker :: inner, [] :: next :: rest) :=
    OrderedList.body_from_filled marker next rest fun line member empty => filled (empty ▸ member)
  rw [BlockShape.segments_from_of_some found]
  rfl

/-- A list above some rows ends above them. -/
theorem lists_above {render : List Line → List Line} (nonempty : below ≠ [])
    (unmarked : ∀ line ∈ below, line.head? ≠ some '+') (ends : ListsEnd above) :
    ∃ shown, (OrderedList.shape.segmentsFrom (above ++ below)).flatMap (BlockShape.result render) =
        shown ++ below ∧ ListsEnd shown ∧ ([] ∈ above → [] ∈ shown) := by
  have kept (content : List Line) (other : ∀ line ∈ content, line.head? ≠ some '+') :
      (OrderedList.shape.segmentsFrom content).flatMap (BlockShape.result render) = content :=
    results_of_unopened render fun line member => after_eq_none_of_head (other line member) []
  induction size : above.length using Nat.strong_induction_on generalizing above with
  | _ size ih =>
      cases above with
      | nil => exact ⟨[], kept below unmarked, trivial, id⟩
      | cons line above =>
          by_cases marked : line.head? = some '+'
          · obtain ⟨marker, rfl⟩ := List.head?_eq_some_iff.mp marked
            obtain ⟨inner, behind, rfl, filled⟩ := List.eq_append_cons_of_mem (ends.1 rfl)
            have behindEnds := lists_end_of_append ends.2
            cases behind with
            | nil =>
                obtain ⟨next, rest, rfl⟩ := List.exists_cons_of_ne_nil nonempty
                rw [List.forall_mem_cons] at unmarked
                refine ⟨render (marker :: inner) ++ [[]], ?_, ?_, fun _ => by simp⟩
                · rw [List.cons_append, List.append_assoc, List.singleton_append,
                    result_of_list render marker filled, kept rest unmarked.2, List.append_assoc]
                  rfl
                · exact lists_end_append (List.mem_singleton_self _) behindEnds
            | cons other behind =>
                obtain ⟨shown, same, endsShown, blank⟩ := ih behind.length
                  (by simp only [List.length_cons, List.length_append] at size; omega) behindEnds.2.2 rfl
                refine ⟨render (marker :: inner) ++ [] :: other :: shown, ?_, ?_, fun _ => by simp⟩
                · rw [List.cons_append, List.append_assoc, List.cons_append, List.cons_append,
                    result_of_list render marker filled, same, List.append_assoc]
                  rfl
                · refine lists_end_append List.mem_cons_self ⟨by simp, fun marker => ?_, endsShown⟩
                  exact blank (behindEnds.2.1 marker)
          · obtain ⟨shown, same, endsShown, blank⟩ := ih above.length (by simp [← size]) ends.2 rfl
            refine ⟨line :: shown, ?_, ⟨fun marker => absurd marker marked, endsShown⟩, fun member => ?_⟩
            · have passed := @result_of_unopened [line] OrderedList.shape render
                (List.forall_mem_singleton.mpr (after_eq_none_of_head marked [])) (above ++ below)
              exact passed.trans (congrArg (line :: ·) same)
            · rcases List.mem_cons.mp member with rfl | later
              · exact List.mem_cons_self
              · exact List.mem_cons_of_mem line (blank later)

/-- A rule for ordered lists leaves rows as they are. -/
theorem replace_lists_above (render : List Line → List Line) (nonempty : rows ≠ [])
    (unmarked : ∀ row ∈ rows, row.head? ≠ some '+') (below : BelowLists rows text) :
    ∃ above count, (OrderedList.shape.segments (lines text)).flatMap (BlockShape.result render) =
      above ++ (rows ++ List.replicate (count + 2) []) ∧ above ≠ [] ∧ ListsEnd above := by
  obtain ⟨above, count, content, front, ends⟩ := below
  obtain ⟨first, above, rfl⟩ := List.exists_cons_of_ne_nil front
  have unmarkedBelow : ∀ line ∈ rows ++ List.replicate (count + 2) [], line.head? ≠ some '+' := by
    refine List.forall_mem_append.mpr ⟨unmarked, fun line member => ?_⟩
    rw [List.eq_of_mem_replicate member]
    simp
  obtain ⟨shown, same, endsShown, blank⟩ := @lists_above above (rows ++ List.replicate (count + 2) [])
    render (by simp [nonempty]) unmarkedBelow ends.2
  refine ⟨first :: shown, count, ?_, List.cons_ne_nil _ _, fun marker => blank (ends.1 marker), endsShown⟩
  rw [content, List.cons_append, BlockShape.segments, List.flatMap_cons, same]
  rfl

theorem separate_below (nonempty : rows ≠ []) (unmarked : ∀ row ∈ rows, row.head? ≠ some '+')
    (below : BelowLists rows text) :
    BelowLists rows (OrderedList.shape.replaceBlocks OrderedList.separate text) := by
  obtain ⟨above, count, same, front, ends⟩ :=
    replace_lists_above OrderedList.separate nonempty unmarked below
  have whole : ∀ line ∈ above ++ (rows ++ List.replicate (count + 2) []), '\n' ∉ line := by
    intro line member
    rw [← same] at member
    obtain ⟨segment, inside, here⟩ := List.mem_flatMap.mp member
    cases segment with
    | line content =>
        obtain rfl := List.mem_singleton.mp here
        have source := BlockShape.mem_of_segment_line (by decide)
          (fun line => no_newline_of_mem_lines) inside
        exact no_newline_of_mem_lines source
    | block body =>
        rcases List.mem_append.mp here with own | blank
        · exact no_newline_of_mem_lines own
        · simp [List.mem_singleton.mp blank]
  refine ⟨above, count, ?_, front, ends⟩
  rw [BlockShape.replace_blocks_eq, same, lines_unlines (by simp [front]) whole]

/-! ## The whole layout -/

open HeaderlessTable

theorem supplied_shown (promote : Bool) (table : HeaderlessTable) :
    (table.supplied promote).map (fun line => escape (unorderedItem line)) = table.rendered promote := by
  rw [rendered_eq]
  refine List.map_congr_left fun line member => congrArg escape (Block.unordered_item_unmarked ?_)
  rw [((supplied_stage promote).closed table line member).head]
  decide

theorem supplied_unmarked (promote : Bool) (table : HeaderlessTable) :
    ∀ row ∈ table.supplied promote, row.head? ≠ some '+' := by
  intro row member
  rw [((supplied_stage promote).closed table row member).head]
  decide

/-- The rules for tables below the alignment row. -/
theorem supplied_below (promote : Bool) {table : HeaderlessTable} (aligned : Below table.aligned.source text) :
    BelowLists (table.supplied promote)
      ((((rules promote).drop 7).take 3).foldl (fun current rule => rule current) text) := by
  have alignedRows := aligned_stage.closed table
  have convertedRows := converted_stage.closed table
  rw [source_aligned] at aligned alignedRows
  have cells := convert_cells_rule.replace_blocks (source_stage.nonempty table) alignedRows
    (convert_alignment_row table.columns) (fun _ => Closed.convert) aligned
  rw [← source_aligned, ← converted_eq, converted_rows] at cells
  rw [converted_rows] at convertedRows
  have surrounded := surround_rule.replace_blocks (List.cons_ne_nil _ _) convertedRows rfl (fun _ => id) cells
  rw [List.map_id] at surrounded
  exact supply_header_below table.columns_aligned convertedRows
    (fun row member => (supplied_stage promote).closed table row (List.mem_append_left _ member)) surrounded

/-- The rules below those for numbered lists take each row on its own. -/
theorem rendered_supplied (promote : Bool) (table : HeaderlessTable) (count : Nat) (filled : above ≠ []) :
    ∃ shown, shown ≠ [] ∧ ((rules promote).drop 12).foldl (fun current rule => rule current)
        (unlines (above ++ (table.supplied promote ++ List.replicate (count + 2) []))) =
      unlines (shown ++ (table.rendered promote ++ List.replicate (count + 2) [])) := by
  have wholeBelow : ∀ line ∈ table.supplied promote ++ List.replicate (count + 2) [], '\n' ∉ line :=
    List.forall_mem_append.mpr
      ⟨fun row member => ((supplied_stage promote).closed table row member).1, blank_lines_whole _⟩
  have split : lines (unlines (above ++ (table.supplied promote ++ List.replicate (count + 2) []))) =
      above.flatMap lines ++ (table.supplied promote ++ List.replicate (count + 2) []) := by
    rw [lines_unlines_flatMap (by simp [filled]), List.flatMap_append, flatMap_lines_of_whole wholeBelow]
  have written := @below_blocks promote _ (lines_ne_nil _) fun line =>
    @no_newline_of_mem_lines (unlines (above ++ (table.supplied promote ++ List.replicate (count + 2) []))) line
  have blank : escape (unorderedItem []) = [] := escape_of_absent (by decide)
  rw [unlines_lines, split, List.map_append, List.map_append, supplied_shown, List.map_replicate, blank]
    at written
  refine ⟨(above.flatMap lines).map fun line => escape (unorderedItem line), ?_, written⟩
  obtain ⟨line, more, rfl⟩ := List.exists_cons_of_ne_nil filled
  simp [lines_ne_nil]

/-- Below lines whose tables have ended, the layout of a table without a header is its layout in a
document of its own. -/
theorem convert_below (promote : Bool) {table : HeaderlessTable} (ended : Ended above)
    (content : lines (((rules promote).take 3).foldl (fun current rule => rule current) text) =
      framed above table.source 2) :
    ∃ shown count, shown ≠ [] ∧ convert promote text =
      unlines (shown ++ (table.rendered promote ++ List.replicate (count + 2) [])) := by
  have cut : rules promote = (rules promote).take 3 ++ (((rules promote).drop 3).take 4 ++
      (((rules promote).drop 7).take 3 ++ ([OrderedList.shape.replaceBlocks OrderedList.separate,
        OrderedList.shape.replaceBlocks OrderedList.items] ++ (rules promote).drop 12))) := rfl
  have supplied := supplied_below promote (@aligned_below promote _ _ table ended content)
  have nonempty := (supplied_stage promote).nonempty table
  have unmarked := supplied_unmarked promote table
  obtain ⟨above, count, items, filled, _⟩ := replace_lists_above OrderedList.items nonempty unmarked
    (separate_below nonempty unmarked supplied)
  obtain ⟨shown, some, written⟩ := rendered_supplied promote table count filled
  refine ⟨shown, count, some, ?_⟩
  rw [convert, cut, List.foldl_append, List.foldl_append, List.foldl_append, List.foldl_append,
    List.foldl_cons, List.foldl_cons, List.foldl_nil, BlockShape.replace_blocks_eq, items]
  exact written

end Wikidown.Layout
