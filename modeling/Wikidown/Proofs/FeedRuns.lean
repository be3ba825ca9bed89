import Mathlib.Computability.StateTransition
import Mathlib.Data.List.SplitBy
import Wikidown.Proofs.Collapse

/-!
# Collapsing run by run

Blank lines are collapsed in rounds. A round writes two line feeds for every three, from left to right, so a run
of line feeds may still be too long after it, and another round follows. The rounds come to an end, and at the end
each run of three or more line feeds is written with two, whatever its length was.
-/

namespace Wikidown

set_option autoImplicit false

open StateTransition

/-! ## Rounds -/

/-- A round of collapsing, as long as three line feeds stand in a row somewhere. -/
def collapseRound? (text : Text) : Option Text :=
  if tripleFeed <:+: text then some (collapseOnce text) else none

theorem collapse_once_of_single {text : Text} (single : ¬ tripleFeed <:+: text) : collapseOnce text = text :=
  Substitution.literal_apply_of_absent (by decide) single

/-- A round makes the text shorter exactly when there is something for it to do. -/
theorem collapse_once_shorter_iff {text : Text} :
    (collapseOnce text).length < text.length ↔ tripleFeed <:+: text := by
  refine ⟨fun shorter => ?_, collapse_once_shorter⟩
  by_contra single
  rw [collapse_once_of_single single] at shorter
  exact Nat.lt_irrefl _ shorter

/-- The rounds on a text come to an end, with its blank lines collapsed. -/
theorem collapse_rounds_end (text : Text) : collapseBlankLines text ∈ eval collapseRound? text := by
  -- the text gets shorter with each round but the last, so the induction is on its length
  induction text using collapseBlankLines.induct with
  | case1 text shorter ih =>
      have round : collapseRound? text = some (collapseOnce text) := if_pos (collapse_once_shorter_iff.mp shorter)
      rw [collapseBlankLines, if_pos shorter, reaches_eval (Relation.ReflTransGen.single round)]
      exact ih
  | case2 text stable =>
      have last : collapseRound? text = none := if_neg (mt collapse_once_shorter_iff.mpr stable)
      rw [collapseBlankLines, if_neg stable]
      exact mem_eval.mpr ⟨Relation.ReflTransGen.refl, last⟩

/-! ## Runs -/

/-- A text cut into runs of line feeds and stretches without a line feed. A run goes on as long as line feeds
follow. -/
structure FeedCut (text : Text) (runs : List Text) : Prop where
  whole : runs.flatten = text
  nonempty : ∀ run ∈ runs, run ≠ []
  alike : ∀ run ∈ runs, (∀ c ∈ run, c = '\n') ∨ '\n' ∉ run
  longest : runs.IsChain fun run next => ('\n' ∈ run ↔ '\n' ∉ next)

/-- The runs of line feeds in a text, and the stretches between them. -/
def feedRuns (text : Text) : List Text := text.splitBy fun c d => (c == '\n') == (d == '\n')

/-- A run of three or more line feeds is written with two. -/
def shortened (run : Text) : Text :=
  if '\n' ∈ run ∧ 3 ≤ run.length then "\n\n".toList else run

theorem shortened_feeds (count : Nat) :
    shortened (List.replicate count '\n') = List.replicate (min count 2) '\n' := by
  by_cases long : 3 ≤ count
  · have feed : '\n' ∈ List.replicate count '\n' := List.mem_replicate.mpr ⟨by omega, rfl⟩
    rw [shortened, if_pos ⟨feed, by rwa [List.length_replicate]⟩, Nat.min_eq_right (by omega)]
    rfl
  · rw [shortened, if_neg (fun found => long (by simpa using found.2)), Nat.min_eq_left (by omega)]

/-- Characters in a row of which each is a line feed like the one before it, or not like that one. -/
theorem alike_of_chain {run : Text} (chain : run.IsChain fun c d => ((c == '\n') == (d == '\n')) = true) :
    (∀ c ∈ run, c = '\n') ∨ '\n' ∉ run := by
  induction run with
  | nil => exact .inr List.not_mem_nil
  | cons c run ih =>
      cases run with
      | nil =>
          by_cases feed : c = '\n'
          · exact .inl (by simpa using feed)
          · exact .inr (by simpa using Ne.symm feed)
      | cons d run =>
          obtain ⟨same, behind⟩ := List.isChain_cons_cons.mp chain
          have same : c = '\n' ↔ d = '\n' := by simpa using same
          rcases ih behind with feeds | others
          · have feed := same.mpr (feeds d List.mem_cons_self)
            exact .inl (List.forall_mem_cons.mpr ⟨feed, feeds⟩)
          · have other : c ≠ '\n' := fun feed => others (same.mp feed ▸ List.mem_cons_self)
            exact .inr (List.not_mem_cons_of_ne_of_not_mem (Ne.symm other) others)

/-- One character of a run tells whether there are line feeds in it. -/
theorem feed_mem_iff {run : Text} {c : Char} (alike : (∀ d ∈ run, d = '\n') ∨ '\n' ∉ run) (member : c ∈ run) :
    '\n' ∈ run ↔ c = '\n' := by
  refine ⟨fun inside => ?_, fun feed => feed ▸ member⟩
  rcases alike with feeds | others
  · exact feeds c member
  · exact absurd inside others

theorem feed_runs_cut (text : Text) : FeedCut text (feedRuns text) := by
  have alike : ∀ run ∈ feedRuns text, (∀ c ∈ run, c = '\n') ∨ '\n' ∉ run :=
    fun run member => alike_of_chain (List.isChain_of_mem_splitBy member)
  refine ⟨List.flatten_splitBy _ text, fun run member => List.ne_nil_of_mem_splitBy member, alike, ?_⟩
  refine (List.isChain_getLast_head_splitBy _ text).imp_of_mem_imp fun run next here there => ?_
  rintro ⟨nonempty, nonemptyNext, change⟩
  have change : ¬ (run.getLast nonempty = '\n' ↔ next.head nonemptyNext = '\n') := by simpa using change
  rw [feed_mem_iff (alike run here) (List.getLast_mem nonempty),
    feed_mem_iff (alike next there) (List.head_mem nonemptyNext)]
  exact (not_iff_comm.mp (not_iff.mp change)).symm

namespace FeedCut

variable {text run : Text} {runs : List Text}

theorem tail (cut : FeedCut text (run :: runs)) : FeedCut runs.flatten runs where
  whole := rfl
  nonempty other member := cut.nonempty other (List.mem_cons_of_mem run member)
  alike other member := cut.alike other (List.mem_cons_of_mem run member)
  longest := cut.longest.of_cons

/-- Behind a run of line feeds something else follows. -/
theorem head_behind (cut : FeedCut text (run :: runs)) (feed : '\n' ∈ run) : runs.flatten.head? ≠ some '\n' := by
  cases runs with
  | nil => simp
  | cons next runs =>
      have other : '\n' ∉ next := (List.isChain_cons_cons.mp cut.longest).1.mp feed
      have nonempty : next ≠ [] := cut.nonempty next (by simp)
      rw [List.flatten_cons, List.head?_append_of_ne_nil _ nonempty]
      exact fun first => other (List.mem_of_head? first)

/-- What is squeezed out of a text are the line feeds of each run beyond two. -/
theorem squeezed (cut : FeedCut text runs) : squeeze text = runs.flatMap shortened := by
  induction runs generalizing text with
  | nil => rw [← cut.whole]; rfl
  | cons run runs ih =>
      have behind := ih cut.tail
      rw [← cut.whole, List.flatten_cons, List.flatMap_cons]
      rcases cut.alike run List.mem_cons_self with feeds | others
      · have feed : '\n' ∈ run := by
          obtain ⟨c, member⟩ := List.exists_mem_of_ne_nil run (cut.nonempty run List.mem_cons_self)
          exact feeds c member ▸ member
        have begins := cut.head_behind feed
        rw [List.eq_replicate_of_mem feeds, squeeze_run _ begins, behind, shortened_feeds]
      · have single : ¬ tripleFeed <:+: run := fun inside => others (inside.subset (by decide))
        have ends : run.getLast? ≠ some '\n' := fun last => others (List.mem_of_getLast? last)
        rw [squeeze_append single ends, behind, shortened, if_neg (fun long => others long.1)]

end FeedCut

example : (feedRuns "a\n\n\n\n\n\n\nb\n\nc\n".toList).flatMap shortened = "a\n\nb\n\nc\n".toList := by decide

/-- Collapsing blank lines comes to an end. It writes each run of three or more line feeds with two and leaves all
else as it is, so there are no three in a row afterwards, and nothing is left to do for a second time. -/
theorem feed_runs_collapsed (text : Text) :
    eval collapseRound? text = Part.some (collapseBlankLines text) ∧
      FeedCut text (feedRuns text) ∧
      collapseBlankLines text = (feedRuns text).flatMap shortened ∧
      ¬ tripleFeed <:+: collapseBlankLines text ∧
      collapseBlankLines (collapseBlankLines text) = collapseBlankLines text := by
  have cut := feed_runs_cut text
  have single := collapse_no_triple text
  refine ⟨Part.eq_some_iff.mpr (collapse_rounds_end text), cut, ?_, single, ?_⟩
  -- no round changes what the text is when it is squeezed, and at the end it is squeezed already
  · rw [collapse_eq_squeeze, cut.squeezed]
  · rw [collapse_eq_squeeze (collapseBlankLines text), squeeze_of_single single]

end Wikidown
