import Wikidown.Placeholder.Mask
import Wikidown.Proofs.Block

/-!
# Blocks between two delimiters

A run of lines from an opening to its closing is always taken into a block, whatever lines stand
before it: it is a block of its own, or a block that is still open before it ends where the run
ends. What stands around that block does not depend on the run.
-/

namespace Wikidown.Masked

set_option autoImplicit false

variable {opening closing body : Text} {line last : Line} {inner rest : List Line}

/-- The closing of a run stands at the end of its last line. -/
theorem lines_append_closing (text : Text) (whole : '\n' ∉ closing) :
    ∃ inner last, lines text = inner ++ [last] ∧
      lines (text ++ closing) = inner ++ [last ++ closing] := by
  induction text with
  | nil => exact ⟨[], [], rfl, by simpa using lines_of_no_newline whole⟩
  | cons c text ih =>
      obtain ⟨inner, last, shape, closed⟩ := ih
      by_cases same : c = '\n'
      · subst same
        refine ⟨[] :: inner, last, ?_, ?_⟩
        · rw [lines_cons_newline, shape, List.cons_append]
        · rw [List.cons_append, lines_cons_newline, closed, List.cons_append]
      · cases inner with
        | nil => exact ⟨[], c :: last, lines_cons same shape, lines_cons same closed⟩
        | cons first inner =>
            exact ⟨(c :: first) :: inner, last, lines_cons same shape, lines_cons same closed⟩

/-- The lines from an opening to the first closing behind it. -/
def IsRun (opening closing : Text) (content : List Line) : Prop :=
  ∃ body, content = lines (opening ++ body ++ closing) ∧ ¬ closing <:+: opening ++ body

/-- No line of a run ends with the closing but the last. -/
theorem IsRun.cut {content : List Line} (run : IsRun opening closing content)
    (whole : '\n' ∉ closing) :
    ∃ inner last, content = inner ++ [last ++ closing] ∧
      ∀ line ∈ inner, before? closing line = none := by
  obtain ⟨body, rfl, absent⟩ := run
  obtain ⟨inner, last, shape, closed⟩ := lines_append_closing (opening ++ body) whole
  refine ⟨inner, last, closed, fun line member => before_eq_none_of_absent fun inside => ?_⟩
  have part : line <:+: opening ++ body := infix_of_mem_lines (by simp [shape, member])
  exact absent (inside.trans part)

/-- A body without the closing, between its delimiters, is taken into a block. -/
theorem body_of_delimited (wholeOpening : '\n' ∉ opening) (whole : '\n' ∉ closing)
    (absent : ¬ closing <:+: body) :
    ∃ first more, lines (opening ++ body ++ closing) = (opening ++ first) :: more ∧
      ∀ rest ≠ [], (delimited opening closing).bodyFrom? first (more ++ rest) =
        some (lines body, rest) := by
  obtain ⟨inner, last, shape, closed⟩ := lines_append_closing body whole
  have unclosed : ∀ line ∈ inner, before? closing line = none := fun line member =>
    before_eq_none_of_absent fun inside => by
      have part : line <:+: body := infix_of_mem_lines (by simp [shape, member])
      exact absent (inside.trans part)
  have ends : ∀ rest : List Line, rest ≠ [] → (delimited opening closing).endsBefore rest = true := by
    intro rest nonempty
    simpa [delimited] using nonempty
  rw [shape]
  cases inner with
  | nil =>
      refine ⟨last ++ closing, [], ?_, fun rest nonempty => ?_⟩
      · rw [List.append_assoc]
        exact lines_append wholeOpening closed
      · exact BlockShape.body_from_closed (delimited opening closing) (ends rest nonempty)
  | cons first inner =>
      refine ⟨first, inner ++ [last ++ closing], ?_, fun rest nonempty => ?_⟩
      · rw [List.append_assoc]
        exact lines_append wholeOpening closed
      · rw [List.append_assoc]
        exact BlockShape.body_from_reaches (delimited opening closing) (ends rest nonempty)
          unclosed

theorem segments_from_delimited (wholeOpening : '\n' ∉ opening) (whole : '\n' ∉ closing)
    (absent : ¬ closing <:+: body) (nonempty : rest ≠ []) :
    (delimited opening closing).segmentsFrom (lines (opening ++ body ++ closing) ++ rest) =
      .block (lines body) :: (delimited opening closing).segmentsFrom rest := by
  obtain ⟨first, more, shape, found⟩ := body_of_delimited wholeOpening whole absent
  have opened : (delimited opening closing).body? (opening ++ first) (more ++ rest) =
      some (lines body, rest) :=
    (BlockShape.body_of_after (after_append opening first)).trans (found rest nonempty)
  rw [shape, List.cons_append, BlockShape.segments_from_of_some opened]
  rfl

/-- The lines of a run without its opening. -/
theorem IsRun.opened {content : List Line} (run : IsRun opening closing content)
    (wholeOpening : '\n' ∉ opening) (whole : '\n' ∉ closing) :
    ∃ first more, content = (opening ++ first) :: more ∧
      ∀ rest ≠ [], ∃ body, (delimited opening closing).bodyFrom? first (more ++ rest) =
        some (body, rest) := by
  obtain ⟨body, rfl, absent⟩ := run
  obtain ⟨first, more, shape, found⟩ := body_of_delimited wholeOpening whole
    fun inside => absent (List.infix_append_of_infix_right inside)
  exact ⟨first, more, shape, fun rest nonempty => ⟨lines body, found rest nonempty⟩⟩

/-- A block that a line opens ends at a line of its own `front`, or it goes on through all of
them. -/
theorem body_from_front (first : Line) (front : List Line) :
    (∃ body remaining, remaining.length ≤ front.length ∧ ∀ rest : List Line, rest ≠ [] →
      (delimited opening closing).bodyFrom? first (front ++ rest) = some (body, remaining ++ rest)) ∨
    ∀ line ∈ first :: front, before? closing line = none := by
  induction front generalizing first with
  | nil =>
      cases found : before? closing first with
      | none => exact .inr (by simp [found])
      | some last =>
          refine .inl ⟨[last], [], Nat.le_refl 0, fun rest nonempty => ?_⟩
          rw [before_eq_some] at found
          subst found
          exact BlockShape.body_from_closed (delimited opening closing)
            (by simpa [delimited] using nonempty)
  | cons next front ih =>
      cases found : before? closing first with
      | some last =>
          refine .inl ⟨[last], next :: front, Nat.le_refl _, fun rest nonempty => ?_⟩
          rw [before_eq_some] at found
          subst found
          exact BlockShape.body_from_closed (delimited opening closing)
            (by simp [delimited])
      | none =>
          rcases ih next with ⟨body, remaining, shorter, finds⟩ | unclosed
          · refine .inl ⟨first :: body, remaining, by simp; omega, fun rest nonempty => ?_⟩
            have here : (delimited opening closing).lastLine? first (next :: (front ++ rest)) = none :=
              BlockShape.last_line_of_absent _ found
            simp only [List.cons_append, BlockShape.bodyFrom?, here, finds rest nonempty]
            rfl
          · refine .inr fun line member => ?_
            rcases List.mem_cons.mp member with rfl | later
            · exact found
            · exact unclosed line later

/-- A block that is still open before a run goes on to the end of the run. -/
theorem IsRun.taken_in {content front : List Line} {first : Line} (run : IsRun opening closing content)
    (whole : '\n' ∉ closing) (unclosed : ∀ line ∈ first :: front, before? closing line = none)
    (nonempty : rest ≠ []) :
    ∃ body, (delimited opening closing).bodyFrom? first (front ++ content ++ rest) = some (body, rest) := by
  obtain ⟨inner, last, rfl, inside⟩ := run.cut whole
  refine ⟨first :: (front ++ inner) ++ [last], ?_⟩
  have reaches : (delimited opening closing).bodyFrom? first
      ((front ++ inner) ++ (last ++ closing) :: rest) =
        some (first :: (front ++ inner) ++ [last], rest) := by
    refine BlockShape.body_from_reaches (delimited opening closing)
      (by simpa [delimited] using nonempty) fun content member => ?_
    rw [← List.cons_append, List.mem_append] at member
    exact member.elim (unclosed content) (inside content)
  simpa using reaches

/-- Whatever stands before a run, some block takes it in, and the segments around that block are
the same for every run. -/
theorem segments_around_run (wholeOpening : '\n' ∉ opening) (whole : '\n' ∉ closing)
    (front rest : List Line) (nonempty : rest ≠ []) :
    ∃ before after, ∀ run, IsRun opening closing run → ∃ body,
      (delimited opening closing).segmentsFrom (front ++ run ++ rest) =
        before ++ .block body :: after := by
  induction size : front.length using Nat.strong_induction_on generalizing front with
  | _ size ih =>
      cases front with
      | nil =>
          refine ⟨[], (delimited opening closing).segmentsFrom rest, fun run isRun => ?_⟩
          obtain ⟨first, more, rfl, reads⟩ := isRun.opened wholeOpening whole
          obtain ⟨body, found⟩ := reads rest nonempty
          refine ⟨body, BlockShape.segments_from_of_some ?_⟩
          exact (BlockShape.body_of_after (after_append opening first)).trans found
      | cons line front =>
          cases opens : after? (delimited opening closing).opening line with
          | none =>
              obtain ⟨before, after, around⟩ := ih front.length (by simp [← size]) front rfl
              refine ⟨.line line :: before, after, fun run isRun => ?_⟩
              obtain ⟨body, shape⟩ := around run isRun
              refine ⟨body, ?_⟩
              rw [List.cons_append, List.cons_append,
                BlockShape.segments_from_of_none (BlockShape.body_of_unopened opens), shape,
                List.cons_append]
          | some first =>
              rcases @body_from_front opening closing first front with
                ⟨body, remaining, shorter, finds⟩ | unclosed
              · obtain ⟨before, after, around⟩ := ih remaining.length
                  (by simp only [List.length_cons] at size; omega) remaining rfl
                refine ⟨.block body :: before, after, fun run isRun => ?_⟩
                obtain ⟨inside, shape⟩ := around run isRun
                refine ⟨inside, ?_⟩
                have found : (delimited opening closing).body? line (front ++ run ++ rest) =
                    some (body, remaining ++ run ++ rest) := by
                  rw [BlockShape.body_of_after opens, List.append_assoc, List.append_assoc]
                  exact finds (run ++ rest) (by simp [nonempty])
                have split := BlockShape.segments_from_of_some found
                rw [List.cons_append, List.cons_append, split, List.cons_append, ← shape]
                rfl
              · refine ⟨[], (delimited opening closing).segmentsFrom rest, fun run isRun => ?_⟩
                obtain ⟨body, found⟩ := isRun.taken_in whole unclosed nonempty
                exact ⟨body, BlockShape.segments_from_of_some
                  ((BlockShape.body_of_after opens).trans found)⟩

theorem hide_blocks_append (kind : Kind) (next : Nat) (front back : List Segment) :
    hideBlocks kind next (front ++ back) =
      ((hideBlocks kind next front).1 ++
          (hideBlocks kind (next + (hideBlocks kind next front).2.length) back).1,
        (hideBlocks kind next front).2 ++
          (hideBlocks kind (next + (hideBlocks kind next front).2.length) back).2) := by
  induction front generalizing next with
  | nil => simp [hideBlocks]
  | cons segment front ih =>
      cases segment with
      | line content => simp [hideBlocks, ih]
      | block body => simp [hideBlocks, ih, Nat.add_assoc, Nat.add_comm 1]

end Wikidown.Masked
