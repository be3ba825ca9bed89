import Mathlib.Data.List.Chain
import Wikidown.Proofs.Page.Fences

/-!
# Runs of lines

The stretches of a page are the longest runs of lines of one class. Any lines fall into such runs, and merging
lines in runs gives one stretch for each run.
-/

namespace Wikidown.Page

set_option autoImplicit false

/-- Lines in a row that are all code or all other text. -/
structure Run where
  isCode : Bool
  content : List Text

namespace Run

/-- The lines of a run, each with its class. -/
def marked (run : Run) : List (Bool × Text) := run.content.map (run.isCode, ·)

def stretch (run : Run) : Stretch := ⟨run.isCode, run.content.flatten⟩

theorem marked_text (run : Run) : run.marked.map Prod.snd = run.content := by
  rw [marked, List.map_map]
  exact List.map_id _

end Run

/-- The text of runs, by runs. -/
theorem runs_flatten (runs : List Run) :
    (runs.flatMap Run.content).flatten = runs.flatMap fun run => run.content.flatten := by
  simp only [List.flatten_eq_flatMap, List.flatMap_assoc]

/-- Runs that go on as long as the class of the lines is the same. -/
structure Longest (runs : List Run) : Prop where
  nonempty : ∀ run ∈ runs, run.content ≠ []
  alternating : runs.IsChain fun run next => run.isCode ≠ next.isCode

theorem Longest.tail {run : Run} {runs : List Run} (longest : Longest (run :: runs)) : Longest runs where
  nonempty other member := longest.nonempty other (List.mem_cons_of_mem run member)
  alternating := longest.alternating.of_cons

/-- One more line belongs to the first run, or begins one. -/
theorem exists_runs (marked : List (Bool × Text)) :
    ∃ runs, Longest runs ∧ marked = runs.flatMap Run.marked := by
  induction marked with
  | nil => exact ⟨[], ⟨by simp, .nil⟩, rfl⟩
  | cons first marked ih =>
      obtain ⟨isCode, line⟩ := first
      obtain ⟨runs, longest, rfl⟩ := ih
      cases runs with
      | nil => exact ⟨[⟨isCode, [line]⟩], ⟨by simp, .singleton _⟩, rfl⟩
      | cons run runs =>
          by_cases same : run.isCode = isCode
          · refine ⟨⟨isCode, line :: run.content⟩ :: runs, ⟨?_, ?_⟩, ?_⟩
            · exact List.forall_mem_cons.mpr ⟨List.cons_ne_nil _ _, longest.tail.nonempty⟩
            · subst same
              exact List.isChain_cons.mpr (List.isChain_cons.mp longest.alternating)
            · rw [List.flatMap_cons, List.flatMap_cons, Run.marked, same]
              rfl
          · refine ⟨⟨isCode, [line]⟩ :: run :: runs, ⟨?_, ?_⟩, rfl⟩
            · exact List.forall_mem_cons.mpr ⟨List.cons_ne_nil _ _, longest.nonempty⟩
            · exact List.isChain_cons_cons.mpr ⟨Ne.symm same, longest.alternating⟩

/-- The lines of a run become one stretch in front of stretches that begin with the other class. -/
theorem merge_run {run : Run} {back : List (Bool × Text)} (nonempty : run.content ≠ [])
    (other : ∀ next ∈ (merge back).head?, run.isCode ≠ next.isCode) :
    merge (run.marked ++ back) = run.stretch :: merge back := by
  obtain ⟨isCode, content⟩ := run
  induction content with
  | nil => contradiction
  | cons line content ih =>
      by_cases single : content = []
      · subst single
        have shape : (Run.mk isCode [line]).marked ++ back = (isCode, line) :: back := rfl
        rw [shape, merge]
        split
        · next none => simp [none, Run.stretch]
        · next next more found =>
            rw [found] at other
            rw [if_neg (Ne.symm (other next rfl)), found]
            simp [Run.stretch]
      · have shape : (Run.mk isCode (line :: content)).marked ++ back =
            (isCode, line) :: ((Run.mk isCode content).marked ++ back) := rfl
        rw [shape, merge, ih single other]
        exact if_pos rfl

theorem merge_runs {runs : List Run} (longest : Longest runs) :
    merge (runs.flatMap Run.marked) = runs.map Run.stretch := by
  induction runs with
  | nil => rfl
  | cons run runs ih =>
      have behind := ih longest.tail
      rw [List.flatMap_cons, merge_run (longest.nonempty run List.mem_cons_self), behind, List.map_cons]
      intro next first
      rw [behind, List.head?_map, Option.mem_def, Option.map_eq_some_iff] at first
      obtain ⟨other, found, rfl⟩ := first
      exact (List.isChain_cons.mp longest.alternating).1 other found

/-- Runs whose lines are the lines of their text and have its classes, where code is open above them or not. -/
structure Cut (inCode : Bool) (runs : List Run) : Prop where
  lines : wholeLines (runs.flatMap Run.content).flatten = runs.flatMap Run.content
  classes : classify inCode (runs.flatMap Run.content) = runs.flatMap Run.marked

/-- A page is cut into its stretches. -/
theorem Cut.stretches {runs : List Run} (cut : Cut false runs) (longest : Longest runs) :
    Page.stretches (runs.flatMap Run.content).flatten = runs.map Run.stretch := by
  rw [Page.stretches, cut.lines, cut.classes, merge_runs longest]

theorem exists_cut (content : Text) :
    ∃ runs, Longest runs ∧ Cut false runs ∧ (runs.flatMap Run.content).flatten = content := by
  obtain ⟨runs, longest, classes⟩ := exists_runs (classify false (wholeLines content))
  have texts := classify_text false (wholeLines content)
  rw [classes, List.map_flatMap] at texts
  simp only [Run.marked_text] at texts
  have whole : (runs.flatMap Run.content).flatten = content := by rw [texts, whole_lines_flatten]
  exact ⟨runs, longest, ⟨by rw [whole, texts], by rw [texts, classes]⟩, whole⟩

theorem Cut.visible {inCode : Bool} {runs : List Run} {run : Run} (cut : Cut inCode runs) (member : run ∈ runs)
    (nonempty : run.content ≠ []) : run.content.flatten ≠ [] := by
  obtain ⟨line, more, shape⟩ := List.exists_cons_of_ne_nil nonempty
  have inside : line ∈ wholeLines (runs.flatMap Run.content).flatten := by
    rw [cut.lines]
    exact List.mem_flatMap.mpr ⟨run, member, by rw [shape]; exact List.mem_cons_self⟩
  rw [shape, List.flatten_cons]
  exact List.append_ne_nil_of_left_ne_nil (ne_nil_of_mem_whole_lines inside) _

theorem cut_singleton_iff {inCode : Bool} {run : Run} :
    Cut inCode [run] ↔ wholeLines run.content.flatten = run.content ∧ classify inCode run.content = run.marked := by
  have single : [run].flatMap Run.content = run.content ∧ [run].flatMap Run.marked = run.marked :=
    ⟨List.flatMap_singleton _ _, List.flatMap_singleton _ _⟩
  constructor
  · rintro ⟨lines, classes⟩
    rw [single.1] at lines classes
    exact ⟨lines, single.2 ▸ classes⟩
  · rintro ⟨lines, classes⟩
    exact ⟨by rw [single.1, lines], by rw [single.1, single.2, classes]⟩

/-- A cut at the end of its first run: a line ends there, unless the run is the last one. -/
theorem cut_cons_iff {inCode : Bool} {run : Run} {runs : List Run} (below : runs.flatMap Run.content ≠ []) :
    Cut inCode (run :: runs) ↔ Cut inCode [run] ∧ Cut (inCode != leavesOpen run.content) runs ∧
      Broken run.content.flatten (runs.flatMap Run.content).flatten := by
  rw [cut_singleton_iff]
  constructor
  · rintro ⟨lines, classes⟩
    rw [List.flatMap_cons, List.flatMap_cons, classify_append] at classes
    have sizes : (classify inCode run.content).length = run.marked.length := by
      have texts := congrArg List.length ((classify_text inCode run.content).trans run.marked_text.symm)
      rwa [List.length_map, List.length_map] at texts
    obtain ⟨here, behind⟩ := List.append_inj classes sizes
    rw [List.flatMap_cons, List.flatten_append] at lines
    obtain ⟨own, broken⟩ := lines_above lines below
    rw [whole_lines_append_of_broken broken, own, List.append_cancel_left_eq] at lines
    exact ⟨⟨own, here⟩, ⟨lines, behind⟩, broken⟩
  · rintro ⟨⟨own, here⟩, ⟨lines, behind⟩, broken⟩
    refine ⟨?_, ?_⟩
    · rw [List.flatMap_cons, List.flatten_append, whole_lines_append_of_broken broken, own, lines]
    · rw [List.flatMap_cons, classify_append, here, behind, List.flatMap_cons]

/-- Each line belongs to one of the runs. -/
theorem exists_run_at {runs : List Run} {front back : List (Bool × Text)} {one : Bool × Text}
    (split : runs.flatMap Run.marked = front ++ one :: back) :
    ∃ before run after left right, runs = before ++ run :: after ∧ run.isCode = one.1 ∧
      run.content = left ++ one.2 :: right ∧ front.map Prod.snd = before.flatMap Run.content ++ left := by
  induction runs generalizing front with
  | nil => simp at split
  | cons run runs ih =>
      rw [List.flatMap_cons] at split
      rcases List.append_eq_append_iff.mp split with ⟨more, rfl, behind⟩ | ⟨more, here, behind⟩
      · obtain ⟨before, found, after, left, right, rfl, shade, content, above⟩ := ih behind
        refine ⟨run :: before, found, after, left, right, rfl, shade, content, ?_⟩
        rw [List.map_append, run.marked_text, above, List.flatMap_cons, List.append_assoc]
      · cases more with
        | nil =>
            obtain ⟨before, found, after, left, right, rfl, shade, content, above⟩ := @ih [] behind.symm
            refine ⟨run :: before, found, after, left, right, rfl, shade, content, ?_⟩
            rw [List.append_nil] at here
            rw [← here, run.marked_text, List.flatMap_cons, List.append_assoc, ← above]
            simp
        | cons first more =>
            obtain ⟨rfl, _⟩ := List.cons.inj behind
            have content := congrArg (List.map Prod.snd) here
            rw [run.marked_text, List.map_append, List.map_cons] at content
            have member : one ∈ run.marked := here ▸ List.mem_append_right front List.mem_cons_self
            obtain ⟨_, _, rfl⟩ := List.mem_map.mp member
            exact ⟨[], run, runs, _, _, rfl, rfl, content, rfl⟩

end Wikidown.Page
