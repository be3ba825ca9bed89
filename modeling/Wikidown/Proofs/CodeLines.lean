import Wikidown.Proofs.Page.Runs

/-!
# The lines of code in a page

The stretches of a page are a partition of it into code and other text in turn. Which of them a line belongs
to is a matter of the fences above it: a line is in code when it is a fence or an odd number of fences stand
above it.
-/

namespace Wikidown.Page

set_option autoImplicit false

/-- A line of a page, below the lines `above`, lies in a stretch of the page. -/
def LiesIn (content : Text) (above : List Text) (line : Text) (stretch : Stretch) : Prop :=
  ∃ before after left right, stretches content = before ++ stretch :: after ∧
    stretch.text = left ++ line ++ right ∧ above.flatten = before.flatMap Stretch.text ++ left

/-- A line has one place, so it does not lie in two stretches. -/
theorem LiesIn.unique {content line : Text} {above : List Text} {stretch other : Stretch} (nonempty : line ≠ [])
    (here : LiesIn content above line stretch) (there : LiesIn content above line other) : stretch = other := by
  obtain ⟨before, after, left, right, shape, text, place⟩ := here
  obtain ⟨beforeToo, afterToo, leftToo, rightToo, shapeToo, textToo, placeToo⟩ := there
  have visible := List.length_pos_iff.mpr nonempty
  -- a stretch that is over ahead of another one ends ahead of what lies in that
  have apart {earlier later : List Stretch} {first : Stretch} {inside beyond behind : Text}
      (whole : first.text = inside ++ line ++ beyond) (below : above.flatten = earlier.flatMap Stretch.text ++ inside)
      (further : above.flatten = (earlier ++ first :: later).flatMap Stretch.text ++ behind) : False := by
    rw [below, List.flatMap_append, List.append_assoc, List.append_cancel_left_eq, List.flatMap_cons, whole] at further
    have size := congrArg List.length further
    simp only [List.length_append] at size
    omega
  rcases List.append_eq_append_iff.mp (shape.symm.trans shapeToo) with ⟨more, longer, same⟩ | ⟨more, longer, same⟩
  · cases more with
    | nil => exact (List.cons.inj same).1
    | cons first more =>
        obtain ⟨rfl, _⟩ := List.cons.inj same
        exact (apart text place (longer ▸ placeToo)).elim
  · cases more with
    | nil => exact (List.cons.inj same).1.symm
    | cons first more =>
        obtain ⟨rfl, _⟩ := List.cons.inj same
        exact (apart textToo placeToo (longer ▸ place)).elim

/-- Each line of a page lies in a stretch, which is code when the line is a fence or an odd number of fences
stand above the line. -/
theorem exists_lies_in {content line : Text} {above below : List Text}
    (cut : wholeLines content = above ++ line :: below) :
    ∃ stretch, LiesIn content above line stretch ∧
      (stretch.isCode = true ↔ isFence line = true ∨ Odd (above.countP isFence)) := by
  obtain ⟨runs, longest, runsCut, rfl⟩ := exists_cut content
  have shape := runsCut.stretches longest
  have classes := runsCut.classes
  rw [← runsCut.lines, cut, classify_append, Bool.false_bne, classify] at classes
  obtain ⟨before, run, after, left, right, rfl, shade, inside, place⟩ := exists_run_at classes.symm
  rw [classify_text] at place
  refine ⟨run.stretch, ⟨before.map Run.stretch, after.map Run.stretch, left.flatten, right.flatten, ?_, ?_, ?_⟩, ?_⟩
  · rw [shape, List.map_append, List.map_cons]
  · rw [Run.stretch, inside]
    simp
  · rw [place, List.flatten_append, runs_flatten, List.flatMap_map]
    rfl
  · rw [Run.stretch, shade, Bool.or_eq_true, leavesOpen, decide_eq_true_eq, or_comm]

/-- The stretches of a page, joined, are the page; none is empty, and code and other text take turns. Each line
lies in one of them, and that is code exactly when the line is a fence or an odd number of fences stand above
it. -/
theorem page_partitioned (content : Text) :
    (stretches content).flatMap Stretch.text = content ∧
      (∀ stretch ∈ stretches content, stretch.text ≠ []) ∧
      (stretches content).IsChain (fun stretch next => stretch.isCode ≠ next.isCode) ∧
      ∀ above line below, wholeLines content = above ++ line :: below →
        ∃ stretch, LiesIn content above line stretch ∧
          (∀ other, LiesIn content above line other → other = stretch) ∧
          (stretch.isCode = true ↔ isFence line = true ∨ Odd (above.countP isFence)) := by
  obtain ⟨runs, longest, runsCut, rfl⟩ := exists_cut content
  refine ⟨stretches_text _, ?_, ?_, fun above line below cut => ?_⟩
  · rw [runsCut.stretches longest, List.forall_mem_map]
    exact fun run member => runsCut.visible member (longest.nonempty run member)
  · rw [runsCut.stretches longest, List.isChain_map]
    exact longest.alternating
  · obtain ⟨stretch, here, code⟩ := exists_lies_in cut
    have nonempty : line ≠ [] := ne_nil_of_mem_whole_lines (cut ▸ List.mem_append_right above List.mem_cons_self)
    exact ⟨stretch, here, fun other there => there.unique nonempty here, code⟩

/-- A line below a fence in a quotation, with a line separator and a lone carriage return between them. -/
theorem quoted_block_partitioned :
    let page := "a\r> \x60\x60\x60\x0bb\u2028\x60\x60\x60\r\nc".toList
    let above := ["a\r".toList, "> \x60\x60\x60\x0b".toList]
    let line := "b\u2028".toList
    wholeLines page = above ++ line :: ["\x60\x60\x60\r\n".toList, "c".toList] ∧
      ∃ stretch, LiesIn page above line stretch ∧ (∀ other, LiesIn page above line other → other = stretch) ∧
        (stretch.isCode = true ↔ isFence line = true ∨ Odd (above.countP isFence)) :=
  have cut := by decide +kernel
  ⟨cut, (page_partitioned _).2.2.2 _ _ _ cut⟩

end Wikidown.Page
