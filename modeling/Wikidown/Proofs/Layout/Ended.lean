import Wikidown.Proofs.Layout.Runs

/-!
# Tables that have ended

A search for tables goes on from a row to the first closed row that no other row follows, however far
below that one stands. Where every table has ended at the end of some lines, what stands below an empty
line is searched on its own: the tables above and the tables below get their alignment rows apart from
each other.
-/

namespace Wikidown.Layout.Table

set_option autoImplicit false

variable {line first : Line} {content taken body rest above below : List Line}

/-- A line that opens no table. -/
def Unbarred (line : Line) : Prop := line.head? ≠ some '|'

/-- Lines that are one table to a search, whatever stands below them that is no row. -/
structure IsTable (first : Line) (taken body : List Line) : Prop where
  found : ∀ below, shape.endsBefore below = true → shape.body? first (taken ++ below) = some (body, below)
  whole : ∀ line ∈ first :: taken, '\n' ∉ line

/-- Lines all of whose tables have ended where the lines end. -/
inductive Ended : List Line → Prop
  | nil : Ended []
  | line {line : Line} {rest : List Line} (unbarred : Unbarred line) (whole : '\n' ∉ line)
      (ended : Ended rest) : Ended (line :: rest)
  | table {first : Line} {taken body rest : List Line} (table : IsTable first taken body)
      (apart : ∀ line ∈ rest.head?, Unbarred line) (ended : Ended rest) : Ended (first :: (taken ++ rest))

theorem ends_before_iff : shape.endsBefore (line :: rest) = true ↔ Unbarred line := by
  have starts : startsWith ['|'] line = true ↔ line.head? = some '|' := by
    rw [starts_with_iff]
    constructor
    · rintro ⟨behind, rfl⟩
      rfl
    · intro head
      obtain ⟨behind, rfl⟩ := List.head?_eq_some_iff.mp head
      exact ⟨behind, rfl⟩
  change (!startsWith ['|'] line) = true ↔ Unbarred line
  rw [Unbarred, ne_eq, ← starts]
  simp

theorem ends_before_apart (apart : ∀ line ∈ rest.head?, Unbarred line) :
    shape.endsBefore (rest ++ [] :: below) = true := by
  cases rest with
  | nil => rfl
  | cons line rest => exact ends_before_iff.mpr (apart line rfl)

theorem IsTable.block_lines (table : IsTable first taken body) : shape.blockLines body = first :: taken := by
  have found := table.found [[]] rfl
  have whole : ∀ line ∈ first :: (taken ++ [[]]), '\n' ∉ line := by
    intro line member
    rw [← List.cons_append, List.mem_append] at member
    rcases member with inside | last
    · exact table.whole line inside
    · simp [List.mem_singleton.mp last]
  have source := BlockShape.body_source (by decide) whole found
  exact List.append_cancel_right source

theorem IsTable.closes (table : IsTable first taken body) :
    ∃ inner last, first :: taken = inner ++ [last ++ ['|']] := by
  obtain ⟨front, start, search⟩ := Option.bind_eq_some_iff.mp (table.found [[]] rfl)
  obtain ⟨own, split, _, inner, last, closed⟩ := BlockShape.body_from_taken search
  obtain rfl := List.append_cancel_right split
  obtain rfl : first = '|' :: front := after_eq_some.mp start
  cases inner with
  | nil =>
      obtain ⟨rfl, rfl⟩ := List.cons.inj closed
      exact ⟨[], '|' :: last, rfl⟩
  | cons line inner =>
      obtain ⟨rfl, rfl⟩ := List.cons.inj closed
      exact ⟨('|' :: front) :: inner, last, rfl⟩

theorem Ended.whole (ended : Ended content) : ∀ line ∈ content, '\n' ∉ line := by
  induction ended with
  | nil => exact fun line member => absurd member List.not_mem_nil
  | line _ whole _ ih => exact List.forall_mem_cons.mpr ⟨whole, ih⟩
  | table found _ _ ih =>
      rw [← List.cons_append]
      exact List.forall_mem_append.mpr ⟨found.whole, ih⟩

/-- No blank line closes a table. -/
theorem taken_within {blanks remaining inner : List Line} {front last : Line}
    (blank : ∀ line ∈ blanks, line = []) (split : rest ++ blanks = taken ++ remaining)
    (closes : front :: taken = inner ++ [last ++ ['|']]) :
    ∃ more, rest = taken ++ more ∧ remaining = more ++ blanks := by
  rcases List.append_eq_append_iff.mp split with ⟨more, rfl, shape⟩ | ⟨more, rfl, shape⟩
  · rcases List.eq_nil_or_concat more with rfl | ⟨others, final, rfl⟩
    · exact ⟨[], by simp, by simpa using shape.symm⟩
    · have ends := congrArg List.getLast? closes
      rw [List.concat_eq_append, ← List.append_assoc, ← List.cons_append, List.getLast?_concat,
        List.getLast?_concat, Option.some.injEq] at ends
      have empty := blank final (by rw [shape]; simp)
      rw [ends] at empty
      exact absurd empty (by simp)
  · exact ⟨more, rfl, shape⟩

/-- Where no row is left over by the search, all tables have ended. -/
theorem ended_of_segments {blanks : List Line} (blank : ∀ line ∈ blanks, line = [])
    (whole : ∀ line ∈ content, '\n' ∉ line)
    (closed : ∀ line, Segment.line line ∈ shape.segmentsFrom (content ++ [] :: blanks) → Unbarred line) :
    Ended content := by
  induction size : content.length using Nat.strong_induction_on generalizing content with
  | _ size ih =>
      cases content with
      | nil => exact .nil
      | cons line rest =>
          rw [List.forall_mem_cons] at whole
          cases found : shape.body? line (rest ++ [] :: blanks) with
          | none =>
              rw [List.cons_append, BlockShape.segments_from_of_none found] at closed
              refine .line (closed line List.mem_cons_self) whole.1
                (ih rest.length (by simp [← size]) whole.2 ?_ rfl)
              exact fun other member => closed other (List.mem_cons_of_mem _ member)
          | some result =>
              obtain ⟨body, remaining⟩ := result
              rw [List.cons_append, BlockShape.segments_from_of_some found] at closed
              obtain ⟨front, start, search⟩ := Option.bind_eq_some_iff.mp found
              obtain ⟨taken, split, _, inner, last, closes⟩ := BlockShape.body_from_taken search
              -- the search has stopped among the lines, since no blank line is closed
              obtain ⟨more, rfl, rfl⟩ := taken_within (List.forall_mem_cons.mpr ⟨rfl, blank⟩) split closes
              have near (next : Line) (rest other : List Line) :
                  shape.endsBefore (next :: rest) = shape.endsBefore (next :: other) := rfl
              have ends := BlockShape.body_from_ends search
              rw [split] at search
              have table : IsTable line taken body := by
                refine ⟨fun below ended => ?_, fun other member => ?_⟩
                · rw [BlockShape.body_of_after start]
                  exact BlockShape.body_from_above near search ended
                · rcases List.mem_cons.mp member with rfl | inside
                  · exact whole.1
                  · exact whole.2 other (List.mem_append_left _ inside)
              refine .table table (fun next head => ?_) (ih more.length ?_ ?_ ?_ rfl)
              · obtain ⟨behind, rfl⟩ := List.head?_eq_some_iff.mp head
                exact ends_before_iff.mp ends
              · simp only [List.length_cons, List.length_append] at size
                omega
              · exact fun other member => whole.2 other (List.mem_append_right _ member)
              · exact fun other member => closed other (List.mem_cons_of_mem _ member)

/-! ## Rules above an empty line -/

/-- Above an empty line, a rule for tables has the same result whatever stands below. -/
theorem Ended.replaced {render : List Line → List Line} {Goal : List Line → Prop} (ended : Ended above)
    (nil : Goal [])
    (line : ∀ line shown, Unbarred line → '\n' ∉ line → Goal shown → Goal (line :: shown))
    (table : ∀ first taken body shown, IsTable first taken body → Goal shown → Goal (render body ++ shown)) :
    ∃ shown, Goal shown ∧ ∀ below,
      (shape.segmentsFrom (above ++ [] :: below)).flatMap (BlockShape.result render) =
        shown ++ [] :: (shape.segmentsFrom below).flatMap (BlockShape.result render) := by
  have passed (line : Line) (rest : List Line) (unbarred : Unbarred line) :
      (shape.segmentsFrom (line :: rest)).flatMap (BlockShape.result render) =
        line :: (shape.segmentsFrom rest).flatMap (BlockShape.result render) :=
    @result_of_unopened [line] shape render
      (List.forall_mem_singleton.mpr (after_eq_none_of_head unbarred [])) rest
  induction ended with
  | nil => exact ⟨[], nil, fun below => passed [] below (by simp [Unbarred])⟩
  | @line other rest unbarred whole _ ih =>
      obtain ⟨shown, goal, same⟩ := ih
      refine ⟨other :: shown, line other shown unbarred whole goal, fun below => ?_⟩
      rw [List.cons_append, passed other _ unbarred, same below]
      rfl
  | @table first taken body rest found apart _ ih =>
      obtain ⟨shown, goal, same⟩ := ih
      refine ⟨render body ++ shown, table first taken body shown found goal, fun below => ?_⟩
      have here := found.found (rest ++ [] :: below) (ends_before_apart apart)
      rw [List.cons_append, List.append_assoc, BlockShape.segments_from_of_some here, List.append_assoc,
        ← same below]
      rfl

/-- The blank line below each table leaves the tables as they are. -/
theorem separate_ended (ended : Ended above) : ∃ shown, Ended shown ∧ ∀ below,
    (shape.segmentsFrom (above ++ [] :: below)).flatMap (BlockShape.result separate) =
      shown ++ [] :: (shape.segmentsFrom below).flatMap (BlockShape.result separate) := by
  apply ended.replaced .nil fun line shown unbarred whole => .line unbarred whole
  intro first taken body shown found goal
  rw [separate, found.block_lines, List.append_assoc]
  exact .table found (by simp [Unbarred]) (.line (by simp [Unbarred]) List.not_mem_nil goal)

/-- A line that is no row, or that is closed. -/
def Shut (line : Line) : Prop := Unbarred line ∨ ∃ front, line = front ++ ['|']

/-- No table that has ended ends with a header row. -/
theorem align_ended (ended : Ended above) : ∃ shown,
    ((∀ line ∈ shown.getLast?, Shut line) ∧ ∀ line ∈ shown, '\n' ∉ line) ∧ ∀ below,
      (shape.segmentsFrom (above ++ [] :: below)).flatMap (BlockShape.result align) =
      shown ++ [] :: (shape.segmentsFrom below).flatMap (BlockShape.result align) := by
  refine @Ended.replaced above align (fun shown => (∀ line ∈ shown.getLast?, Shut line) ∧
    ∀ line ∈ shown, '\n' ∉ line) ended (by simp) ?_ ?_
  · intro line shown unbarred whole ⟨shut, wholeBelow⟩
    refine ⟨fun last final => ?_, List.forall_mem_cons.mpr ⟨whole, wholeBelow⟩⟩
    cases shown with
    | nil =>
        obtain rfl : line = last := by simpa using final
        exact .inl unbarred
    | cons next shown => exact shut last (by simpa using final)
  · intro first taken body shown found ⟨shut, wholeBelow⟩
    obtain ⟨inner, row, closes⟩ := found.closes
    have rows : ∃ front, align body = front ++ [row ++ ['|']] := by
      rw [align, found.block_lines, closes]
      split
      · exact ⟨inner, rfl⟩
      · exact ⟨alignmentRow (columns body) :: inner, rfl⟩
    refine ⟨fun last final => ?_, List.forall_mem_append.mpr ⟨?_, wholeBelow⟩⟩
    · obtain ⟨front, rows⟩ := rows
      cases shown with
      | nil =>
          rw [rows, List.append_nil, List.getLast?_concat, Option.mem_some_iff] at final
          exact .inr ⟨row, final.symm⟩
      | cons next shown =>
          refine shut last ?_
          rwa [List.getLast?_append_of_ne_nil _ (List.cons_ne_nil next shown)] at final
    · rw [align, found.block_lines]
      split
      · exact found.whole
      · exact List.forall_mem_cons.mpr ⟨alignment_row_apart (by decide), found.whole⟩

theorem pad_ends_whole {cells : Text} (whole : '\n' ∉ cells) : '\n' ∉ padEnds cells := by
  have started : '\n' ∉ if startsWith "|".toList cells then ' ' :: cells else cells := by
    split <;> simp [whole]
  unfold padEnds
  generalize (if startsWith "|".toList cells then ' ' :: cells else cells) = row at started
  dsimp only
  split
  · next closed =>
      rw [before_eq_some.mp closed, List.mem_append, not_or] at started
      rw [List.mem_append, not_or]
      exact ⟨started.1, by decide⟩
  · next closed =>
      rw [before_eq_some.mp closed] at started
      simp at started
  · exact started

theorem clean_cells_whole {cells : Text} (whole : '\n' ∉ cells) : '\n' ∉ cleanCells cells := by
  have markers : (Substitution.literal "|~".toList "|".toList).FillsLines :=
    Substitution.literal_fills (by decide) (by decide)
  have gaps : (Substitution.literal "||".toList "| |".toList).FillsLines :=
    Substitution.literal_fills (by decide) (by decide)
  have unmarked := (markers.apply whole).1
  rw [cleanCells]
  refine pad_ends_whole (gaps.apply ?_).1
  cases found : after? "~".toList ((Substitution.literal "|~".toList "|".toList).apply cells) with
  | none => exact unmarked
  | some rest =>
      rw [after_eq_some.mp found, List.mem_append, not_or] at unmarked
      exact unmarked.2

theorem data_row_whole (whole : '\n' ∉ line) : '\n' ∉ dataRow line := by
  unfold dataRow
  split
  · next cells tail found =>
      rw [cells_shape found] at whole
      simp only [List.cons_append, List.mem_cons, List.mem_append, not_or] at whole
      have clean := clean_cells_whole whole.2.1.1
      simp [clean, whole.2.2]
  · exact whole

theorem Shut.data_row (shut : Shut line) : Shut (dataRow line) := by
  rcases shut with unbarred | ⟨front, rfl⟩
  · rw [data_row_of_unbarred unbarred]
    exact .inl unbarred
  · rw [dataRow]
    split
    · next cells tail found =>
        have none : tail = none := by
          obtain ⟨rest, opened, closed⟩ := Option.bind_eq_some_iff.mp found
          have shape : front ++ ['|'] = '|' :: rest := after_eq_some.mp opened
          cases front with
          | nil =>
              obtain ⟨_, rfl⟩ := List.cons.inj shape
              exact absurd (show none = some (cells, tail) from closed) (by simp)
          | cons c front =>
              obtain ⟨_, rfl⟩ := List.cons.inj shape
              have ends : beforeTail? "|".toList (front ++ ['|']) = some (front, none) := by
                rw [beforeTail?, show before? "|".toList (front ++ ['|']) = some front from
                  before_append ['|'] front]
              exact (Prod.mk.inj (Option.some.inj (ends.symm.trans closed))).2.symm
        exact .inr ⟨'|' :: cleanCells cells, by rw [none]; rfl⟩
    · exact .inr ⟨front, rfl⟩

theorem Shut.no_header (shut : Shut line) : cells? "|h".toList line = none := by
  rcases shut with unbarred | ⟨front, rfl⟩
  · exact cells_of_unbarred unbarred _
  · exact no_header_of_bar front

/-- Header rows above an empty line, if the last line above it is none. -/
theorem header_rows_above (afterHeader : Bool) (alone : above = [] → afterHeader = false)
    (shut : ∀ line ∈ above.getLast?, Shut line) :
    ∃ shown, ∀ below, headerRows afterHeader (above ++ [] :: below) =
      shown ++ [] :: headerRows false below := by
  induction above generalizing afterHeader with
  | nil =>
      have empty : cells? "|h".toList [] = none := rfl
      refine ⟨[], fun below => ?_⟩
      rw [alone rfl, List.nil_append, headerRows, Bool.false_and, if_neg (by decide), empty]
      rfl
  | cons line above ih =>
      have shutBelow : ∀ line ∈ above.getLast?, Shut line := by
        intro last final
        refine shut last ?_
        cases above with
        | nil => exact absurd final (by simp)
        | cons next above => rwa [List.getLast?_cons_cons]
      by_cases left : (afterHeader && line.isEmpty) = true
      · obtain ⟨shown, same⟩ := ih false (fun _ => rfl) shutBelow
        exact ⟨shown, fun below => by rw [List.cons_append, headerRows, if_pos left, same]⟩
      · cases header : cells? "|h".toList line with
        | none =>
            obtain ⟨shown, same⟩ := ih false (fun _ => rfl) shutBelow
            refine ⟨line :: shown, fun below => ?_⟩
            rw [List.cons_append, headerRows, if_neg left, header, same below]
            rfl
        | some row =>
            obtain ⟨cells, tail⟩ := row
            have more : above = [] → tail.isNone = false := by
              rintro rfl
              have none := (shut line rfl).no_header
              rw [header] at none
              exact absurd none (by simp)
            obtain ⟨shown, same⟩ := ih tail.isNone more shutBelow
            refine ⟨[] :: ('|' :: (cleanCells cells ++ ['|'])) ::
              alignmentRow (pieces '|' cells).length :: shown, fun below => ?_⟩
            rw [List.cons_append, headerRows, if_neg left, header]
            simp only [same below, List.cons_append]

end Wikidown.Layout.Table
