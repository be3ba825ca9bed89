import Wikidown.Proofs.Layout.Rows
import Wikidown.Proofs.Placeholder.Spacing

/-!
# Runs of closed rows

Rows that follow each other are one table to the rules that look for tables, if something else stands
below them.
-/

namespace Wikidown.Layout.Table

set_option autoImplicit false

/-- A table begins with a bar, ends with one, and goes on before a row. -/
structure Barred (shape : BlockShape) : Prop where
  opening : shape.opening = ['|']
  closing : shape.closing = ['|']
  goesOn : ∀ line rest, shape.endsBefore (('|' :: line) :: rest) = false

theorem shape_barred : Barred shape := ⟨rfl, rfl, fun _ _ => rfl⟩

theorem cell_shape_barred : Barred cellShape := ⟨rfl, rfl, fun _ _ => rfl⟩

/-- Rows of which the last one is closed. -/
structure Run (rows : List Line) : Prop where
  whole : ∀ row ∈ rows, '\n' ∉ row
  barred : ∀ row ∈ rows, row.head? = some '|'
  ended : ∃ above cells, rows = above ++ ['|' :: (cells ++ ['|'])]

/-- The body of the block that consists of some rows: of the rows above the last one only the bar in front
of the first is missing. -/
structure BodyOf (shape : BlockShape) (rows body : List Line) : Prop where
  lines : shape.blockLines body = rows
  above : body.dropLast = ((rows.headD []).tail :: rows.tail).dropLast

variable {shape : BlockShape} {rows body rest : List Line}

theorem Run.of_closed (nonempty : rows ≠ []) (closed : ∀ row ∈ rows, Closed row) : Run rows where
  whole row member := (closed row member).1
  barred row member := (closed row member).head
  ended := by
    obtain ⟨above, last, rfl⟩ := (List.eq_nil_or_concat' rows).resolve_left nonempty
    obtain ⟨_, cells, rfl⟩ := closed last (by simp)
    exact ⟨above, cells, rfl⟩

theorem Run.ne_nil (run : Run rows) : rows ≠ [] := by
  obtain ⟨above, cells, rfl⟩ := run.ended
  simp

/-- Rows of any kind may stand above a run. -/
theorem Run.above {front : List Line} (run : Run rows) (whole : ∀ row ∈ front, '\n' ∉ row)
    (bars : ∀ row ∈ front, row.head? = some '|') : Run (front ++ rows) where
  whole := List.forall_mem_append.mpr ⟨whole, run.whole⟩
  barred := List.forall_mem_append.mpr ⟨bars, run.barred⟩
  ended := by
    obtain ⟨above, cells, rfl⟩ := run.ended
    exact ⟨front ++ above, cells, (List.append_assoc _ _ _).symm⟩

/-- A block goes on from its first row to the last one. -/
theorem body_from_run (barred : Barred shape) {first last : Line} {more inner : List Line}
    (split : first :: more = inner ++ [last ++ ['|']]) (bars : ∀ row ∈ more, row.head? = some '|')
    (ends : shape.endsBefore rest = true) :
    shape.bodyFrom? first (more ++ rest) = some (inner ++ [last], rest) := by
  induction inner generalizing first more with
  | nil =>
      obtain ⟨rfl, rfl⟩ := List.cons.inj split
      have found := @BlockShape.body_from_closed last rest shape ends
      rwa [barred.closing] at found
  | cons line inner ih =>
      obtain ⟨rfl, shown⟩ := List.cons.inj split
      obtain ⟨next, below, rfl⟩ := List.exists_cons_of_ne_nil (show more ≠ [] by simp [shown])
      rw [List.forall_mem_cons] at bars
      obtain ⟨cells, rfl⟩ := List.head?_eq_some_iff.mp bars.1
      have goes : shape.lastLine? first (('|' :: cells) :: (below ++ rest)) = none := by
        rw [BlockShape.lastLine?, barred.goesOn]
        rfl
      rw [List.cons_append, BlockShape.bodyFrom?, goes]
      simp only [ih shown bars.2]
      rfl

/-- A search for tables takes a run of rows as one table. -/
theorem body_of_run (barred : Barred shape) (run : Run rows) (ends : shape.endsBefore rest = true) :
    ∃ first more body, rows = first :: more ∧ BodyOf shape rows body ∧
      shape.body? first (more ++ rest) = some (body, rest) := by
  obtain ⟨first, more, rfl⟩ := List.exists_cons_of_ne_nil run.ne_nil
  have bars := run.barred
  rw [List.forall_mem_cons] at bars
  obtain ⟨start, rfl⟩ := List.head?_eq_some_iff.mp bars.1
  obtain ⟨inner, last, split⟩ : ∃ inner last, start :: more = inner ++ [last ++ ['|']] := by
    obtain ⟨above, cells, ended⟩ := run.ended
    cases above with
    | nil =>
        obtain ⟨shown, rfl⟩ := List.cons.inj ended
        exact ⟨[], cells, by rw [(List.cons.inj shown).2]; rfl⟩
    | cons line above =>
        obtain ⟨-, rfl⟩ := List.cons.inj ended
        exact ⟨start :: above, '|' :: cells, rfl⟩
  have whole : ∀ line ∈ inner ++ [last ++ shape.closing], '\n' ∉ line := by
    have rows := run.whole
    rw [List.forall_mem_cons] at rows
    rw [barred.closing, ← split, List.forall_mem_cons]
    exact ⟨fun member => rows.1 (List.mem_cons_of_mem _ member), rows.2⟩
  have block := BlockShape.block_lines_of_last shape (by rw [barred.opening]; decide) whole
    (by rw [barred.closing, ← split])
  have opens : after? shape.opening ('|' :: start) = some start := by
    rw [barred.opening]
    exact after_append ['|'] start
  refine ⟨'|' :: start, more, inner ++ [last], rfl, ⟨?_, ?_⟩, ?_⟩
  · rw [block, barred.opening]
    rfl
  · rw [List.dropLast_concat, List.headD_cons, List.tail_cons, List.tail_cons, split, List.dropLast_concat]
  · rw [BlockShape.body_of_after opens]
    exact body_from_run barred split bars.2 ends

/-- Blank lines open no table, taken along with one or not. -/
theorem segments_from_inert (barred : Barred shape)
    (inert : ∀ line ∈ rest.take (shape.inert rest), line = []) :
    (rest.take (shape.inert rest)).map Segment.line ++
      shape.segmentsFrom (rest.drop (shape.inert rest)) = shape.segmentsFrom rest := by
  have unopened : ∀ line ∈ rest.take (shape.inert rest), after? shape.opening line = none := by
    intro line member
    rw [inert line member, barred.opening]
    rfl
  rw [← BlockShape.segments_from_of_unopened unopened, List.take_append_drop]

theorem segments_from_run (barred : Barred shape) (run : Run rows) (ends : shape.endsBefore rest = true)
    (inert : ∀ line ∈ rest.take (shape.inert rest), line = []) :
    ∃ body, BodyOf shape rows body ∧
      shape.segmentsFrom (rows ++ rest) = .block body :: shape.segmentsFrom rest := by
  obtain ⟨first, more, body, rfl, isBody, found⟩ := body_of_run barred run ends
  refine ⟨body, isBody, ?_⟩
  rw [List.cons_append, BlockShape.segments_from_of_some found, segments_from_inert barred inert]

/-- A search for tables passes over blank lines. -/
theorem result_of_blanks (barred : Barred shape) (render : List Line → List Line) (count : Nat)
    (rest : List Line) :
    (shape.segmentsFrom (List.replicate count [] ++ rest)).flatMap (BlockShape.result render) =
      List.replicate count [] ++ (shape.segmentsFrom rest).flatMap (BlockShape.result render) := by
  refine result_of_unopened render (fun line member => ?_) rest
  rw [List.eq_of_mem_replicate member, barred.opening]
  rfl

theorem result_of_end (barred : Barred shape) (render : List Line → List Line) (count : Nat) :
    (shape.segmentsFrom (List.replicate count [])).flatMap (BlockShape.result render) =
      List.replicate count [] := by
  refine results_of_unopened render fun line member => ?_
  rw [List.eq_of_mem_replicate member, barred.opening]
  rfl

/-! ## What the rules write for a run -/

theorem BodyOf.text (isBody : BodyOf shape rows body) :
    shape.opening ++ unlines body ++ shape.closing = unlines rows := by
  rw [← isBody.lines, BlockShape.blockLines, unlines_lines]

theorem separate_run (isBody : BodyOf Table.shape rows body) : separate body = rows ++ [[]] := by
  rw [separate, isBody.lines]

theorem surround_run (isBody : BodyOf Table.shape rows body) :
    surround body = [[]] ++ rows ++ [[]] := by
  rw [surround, isBody.lines]

theorem BodyOf.mem_above {line : Line} (isBody : BodyOf shape rows body) (member : line ∈ body.dropLast) :
    ∃ row ∈ rows, line <:+ row := by
  rw [isBody.above] at member
  cases rows with
  | nil => exact absurd member List.not_mem_nil
  | cons first more =>
      rcases List.mem_cons.mp (List.mem_of_mem_dropLast member) with rfl | below
      · exact ⟨first, List.mem_cons_self, List.tail_suffix first⟩
      · exact ⟨line, List.mem_cons_of_mem first below, List.suffix_rfl⟩

/-- Rows none of which ends like a header row get an alignment row. -/
theorem align_run (isBody : BodyOf Table.shape rows body) (unheaded : ∀ row ∈ rows, ¬ "|h".toList <:+ row) :
    align body = alignmentRow ((rows.headD []).count '|' - 1) :: rows := by
  have headerless : hasHeaderRow body = false := by
    rw [hasHeaderRow, List.any_eq_false]
    intro line member header
    obtain ⟨row, inside, suffix⟩ := isBody.mem_above member
    exact unheaded row inside ((ends_with_iff.mp header).trans suffix)
  rw [align, headerless, columns, isBody.lines]
  rfl

/-- Rows below a header row are left as they are. -/
theorem align_headed {header next : Line} {more : List Line} (isBody : BodyOf Table.shape (header :: next :: more) body)
    (headed : "|h".toList <:+ header.tail) : align body = header :: next :: more := by
  have first : hasHeaderRow body = true := by
    rw [hasHeaderRow, isBody.above, List.headD_cons, List.tail_cons, List.dropLast_cons_cons, List.any_cons,
      ends_with_iff.mpr headed, Bool.true_or]
  rw [align, if_pos first, isBody.lines]

/-- The cells of a table are converted with its bars. -/
theorem convert_cells_eq (body : List Line) : convertCells body =
    lines (Inline.convert (cellShape.opening ++ unlines body ++ cellShape.closing)) ++ [[]] := by
  have bars := convert_bars (unlines body)
  rw [convertCells, BlockShape.blockLines, unlines_lines]
  exact congrArg (fun text => lines text ++ [[]]) bars.symm

theorem convert_cells_run (isBody : BodyOf cellShape rows body) (nonempty : rows ≠ [])
    (closed : ∀ row ∈ rows, Closed row) :
    convertCells body = rows.map Inline.convert ++ [[]] := by
  have whole : ∀ row ∈ rows.map Inline.convert, '\n' ∉ row :=
    List.forall_mem_map.mpr fun row member => (closed row member).convert.1
  rw [convert_cells_eq, isBody.text, Closed.convert_unlines closed,
    lines_unlines (by simpa using nonempty) whole]

/-! ## Documents of runs -/

/-- What a rule for tables makes of the segments of a run and of what is below it. -/
theorem result_of_run (barred : Barred shape) (run : Run rows) {render : List Line → List Line}
    {changed : List Line} (ends : shape.endsBefore rest = true)
    (inert : ∀ line ∈ rest.take (shape.inert rest), line = [])
    (renders : ∀ body, BodyOf shape rows body → render body = changed) :
    (shape.segmentsFrom (rows ++ rest)).flatMap (BlockShape.result render) =
      changed ++ (shape.segmentsFrom rest).flatMap (BlockShape.result render) := by
  obtain ⟨body, isBody, taken⟩ := segments_from_run barred run ends inert
  rw [taken, List.flatMap_cons, ← renders body isBody]
  rfl

/-- Of a run above a blank line, the conversion of cells takes that line and the next one along. -/
theorem result_of_run_inert (run : Run rows) {render : List Line → List Line} {changed : List Line} (next : Line)
    (renders : ∀ body, BodyOf cellShape rows body → render body = changed) :
    (cellShape.segmentsFrom (rows ++ [] :: next :: rest)).flatMap (BlockShape.result render) =
      changed ++ [] :: next :: (cellShape.segmentsFrom rest).flatMap (BlockShape.result render) := by
  have ends : cellShape.endsBefore ([] :: next :: rest) = true := rfl
  obtain ⟨first, more, body, rfl, isBody, found⟩ := body_of_run cell_shape_barred run ends
  rw [List.cons_append, BlockShape.segments_from_of_some found, ← renders body isBody]
  rfl

theorem whole_among_blanks {content : List Line} (whole : ∀ line ∈ content, '\n' ∉ line) (above below : Nat) :
    ∀ line ∈ List.replicate above [] ++ (content ++ List.replicate below []), '\n' ∉ line :=
  List.forall_mem_append.mpr ⟨blank_lines_whole _, List.forall_mem_append.mpr ⟨whole, blank_lines_whole _⟩⟩

/-- A rule for tables on a run with blank lines above and below. -/
theorem replace_run {render : List Line → List Line} {changed : List Line} (barred : Barred shape) (run : Run rows)
    (above below : Nat) (ends : shape.endsBefore (List.replicate (below + 1) []) = true)
    (renders : ∀ body, BodyOf shape rows body → render body = changed) :
    shape.replaceBlocks render
        (unlines (List.replicate (above + 1) [] ++ (rows ++ List.replicate (below + 1) []))) =
      unlines (List.replicate (above + 1) [] ++ (changed ++ List.replicate (below + 1) [])) := by
  have inert : ∀ line ∈ (List.replicate (below + 1) ([] : Line)).take
      (shape.inert (List.replicate (below + 1) [])), line = [] :=
    fun line member => List.eq_of_mem_replicate (List.mem_of_mem_take member)
  rw [BlockShape.replace_blocks_eq, lines_unlines (by simp) (whole_among_blanks run.whole _ _), List.replicate_succ,
    List.cons_append, BlockShape.segments, List.flatMap_cons, result_of_blanks barred,
    result_of_run barred run ends inert renders, result_of_end barred]
  rfl

/-! ## Rows that no table ends with -/

/-- No line that a table may end with has a bar at its end. -/
def Unended (shape : BlockShape) : List Line → Prop
  | [] => True
  | line :: rest => (shape.endsBefore rest = true → ¬ ['|'] <:+ line) ∧ Unended shape rest

theorem Unended.blanks (shape : BlockShape) (count : Nat) : Unended shape (List.replicate count []) := by
  induction count with
  | zero => trivial
  | succ count ih => exact ⟨fun _ bar => absurd bar (by decide), ih⟩

theorem Unended.above {content : List Line} (unended : Unended shape rest)
    (open_ : ∀ line ∈ content, ¬ ['|'] <:+ line) : Unended shape (content ++ rest) := by
  induction content with
  | nil => exact unended
  | cons line content ih =>
      rw [List.forall_mem_cons] at open_
      exact ⟨fun _ => open_.1, ih open_.2⟩

/-- A table goes on through rows above a row. -/
theorem Unended.above_row (barred : Barred shape) {row : Line} (unended : Unended shape (row :: rest))
    (bars : ∀ line ∈ rows ++ [row], line.head? = some '|') : Unended shape (rows ++ row :: rest) := by
  induction rows with
  | nil => exact unended
  | cons line rows ih =>
      rw [List.cons_append, List.forall_mem_cons] at bars
      obtain ⟨next, below, split⟩ := List.exists_cons_of_ne_nil (show rows ++ [row] ≠ [] by simp)
      obtain ⟨cells, shown⟩ := List.head?_eq_some_iff.mp (bars.2 next (by simp [split]))
      refine ⟨fun ends => ?_, ih bars.2⟩
      have goes := barred.goesOn cells (below ++ rest)
      rw [← shown, ← List.cons_append, ← split, List.append_assoc] at goes
      exact absurd (ends.symm.trans goes) (by decide)

theorem Unended.no_body_from (barred : Barred shape) {line : Line} (unended : Unended shape (line :: rest)) :
    shape.bodyFrom? line rest = none := by
  have last {line : Line} {rest : List Line} (open_ : shape.endsBefore rest = true → ¬ ['|'] <:+ line) :
      shape.lastLine? line rest = none := by
    unfold BlockShape.lastLine?
    split
    · next ends =>
        rw [barred.closing]
        exact before_eq_none_of_not_suffix (open_ ends)
    · rfl
  induction rest generalizing line with
  | nil => rw [BlockShape.bodyFrom?, last unended.1]; rfl
  | cons next rest ih =>
      rw [BlockShape.bodyFrom?, last unended.1]
      simp only [ih unended.2, Option.map_none]

theorem Unended.no_body (barred : Barred shape) {line : Line} (unended : Unended shape (line :: rest)) :
    shape.body? line rest = none := by
  cases opens : after? shape.opening line with
  | none => exact BlockShape.body_of_unopened opens
  | some start =>
      have whole := after_eq_some.mp opens
      rw [BlockShape.body_of_after opens]
      refine Unended.no_body_from barred ⟨fun ends bar => ?_, unended.2⟩
      exact unended.1 ends (bar.trans (by rw [whole]; exact List.suffix_append _ _))

theorem Unended.of_suffix {content : List Line} (unended : Unended shape content) (below : rest <:+ content) :
    Unended shape rest := by
  induction content with
  | nil => rwa [List.suffix_nil.mp below]
  | cons line content ih =>
      rcases List.suffix_cons_iff.mp below with rfl | below
      · exact unended
      · exact ih unended.2 below

/-- A rule for tables finds none where no table ends. -/
theorem replace_unended {content : List Line} (barred : Barred shape) (render : List Line → List Line)
    (whole : ∀ line ∈ [] :: content, '\n' ∉ line) (unended : Unended shape content) :
    shape.replaceBlocks render (unlines ([] :: content)) = unlines ([] :: content) := by
  refine replace_blocks_of_no_body fun line rest below => ?_
  rw [lines_unlines (List.cons_ne_nil _ _) whole, List.tail_cons] at below
  exact (unended.of_suffix below).no_body barred

end Wikidown.Layout.Table
