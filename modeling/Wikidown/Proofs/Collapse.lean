import Mathlib.Data.Bool.AllAny
import Wikidown.Document
import Wikidown.Proofs.Text.Rewrite

/-!
# Runs of blank lines

Collapsing leaves no two blank lines in a row, and it takes away empty lines only.
-/

namespace Wikidown

set_option autoImplicit false

/-- Three line feeds, which two blank lines in a row are written with. -/
def tripleFeed : Text := "\n\n\n".toList

theorem mem_triple_feed : ∀ c ∈ tripleFeed, c = '\n' := List.all_iff_forall_prop.mp (by decide)

/-- The lines of a text that are not empty. -/
def filledLines (text : Text) : List Line := (lines text).filter (!·.isEmpty)

theorem filled_lines_append_newline (front back : Text) :
    filledLines (front ++ '\n' :: back) = filledLines front ++ filledLines back := by
  rw [filledLines, lines_append_newline, List.filter_append, filledLines, filledLines]

theorem filled_lines_feeds (front back : Text) :
    filledLines (front ++ tripleFeed ++ back) = filledLines (front ++ "\n\n".toList ++ back) := by
  have two : front ++ "\n\n".toList ++ back = front ++ '\n' :: '\n' :: back := by simp
  have three : front ++ tripleFeed ++ back = front ++ '\n' :: '\n' :: '\n' :: back := by
    simp [tripleFeed]
  have empty : ∀ text : Text, filledLines ('\n' :: text) = filledLines text := fun text =>
    filled_lines_append_newline [] text
  rw [two, three, filled_lines_append_newline, filled_lines_append_newline, empty, empty]

/-- Lines with something on each of them have no blank line. -/
theorem single_of_filled {text : Text} (filled : ∀ line ∈ lines text, line ≠ []) :
    ¬ tripleFeed <:+: text := by
  rintro ⟨front, back, rfl⟩
  have split : front ++ tripleFeed ++ back = front ++ '\n' :: '\n' :: '\n' :: back := by
    simp [tripleFeed]
  refine filled [] ?_ rfl
  rw [split, lines_append_newline, lines_cons_newline]
  simp

theorem triple_feed_length (rest : Text) : (tripleFeed ++ rest).length = rest.length + 3 := by
  rw [List.length_append, Nat.add_comm]
  rfl

theorem collapse_once_nil : collapseOnce [] = [] := Substitution.apply_nil _

theorem collapse_once_feeds (rest : Text) :
    collapseOnce (tripleFeed ++ rest) = '\n' :: '\n' :: collapseOnce rest :=
  Substitution.literal_apply_found tripleFeed "\n\n".toList rest (by decide)

theorem collapse_once_cons {c : Char} {text : Text} (other : ¬ tripleFeed <+: c :: text) :
    collapseOnce (c :: text) = c :: collapseOnce text :=
  Substitution.literal_apply_cons (by decide) other

/-- What does not tell three line feeds from two is the same before and after one pass. -/
theorem collapse_once_invariant {Seen : Type} {look : Text → Seen}
    (feeds : ∀ front back, look (front ++ tripleFeed ++ back) = look (front ++ "\n\n".toList ++ back))
    (front text : Text) : look (front ++ collapseOnce text) = look (front ++ text) := by
  induction size : text.length using Nat.strong_induction_on generalizing front text with
  | _ total ih =>
      cases text with
      | nil => rw [collapse_once_nil]
      | cons c text =>
          by_cases here : tripleFeed <+: c :: text
          · obtain ⟨rest, shape⟩ := here
            rw [← shape, triple_feed_length] at size
            have later := ih rest.length (by omega) (front ++ "\n\n".toList) rest rfl
            rw [← feeds front rest, List.append_assoc, List.append_assoc] at later
            rw [← shape, collapse_once_feeds]
            exact later
          · have later := ih text.length (by simp [← size]) (front ++ [c]) text rfl
            rw [collapse_once_cons here]
            simpa using later

theorem collapse_once_length_le (text : Text) : (collapseOnce text).length ≤ text.length := by
  induction size : text.length using Nat.strong_induction_on generalizing text with
  | _ total ih =>
      cases text with
      | nil => rw [collapse_once_nil, ← size]
      | cons c text =>
          by_cases feeds : tripleFeed <+: c :: text
          · obtain ⟨rest, shape⟩ := feeds
            rw [← shape, triple_feed_length] at size
            have later := ih rest.length (by omega) rest rfl
            rw [← shape, collapse_once_feeds]
            simp only [List.length_cons]
            omega
          · have later := ih text.length (by simp [← size]) text rfl
            rw [collapse_once_cons feeds]
            simp only [List.length_cons] at size ⊢
            omega

theorem collapse_once_shorter {text : Text} (feeds : tripleFeed <:+: text) :
    (collapseOnce text).length < text.length := by
  induction text with
  | nil => exact absurd (List.eq_nil_of_infix_nil feeds) (by decide)
  | cons c text ih =>
      by_cases here : tripleFeed <+: c :: text
      · obtain ⟨rest, shape⟩ := here
        have bound := collapse_once_length_le rest
        rw [← shape, collapse_once_feeds, triple_feed_length]
        simp only [List.length_cons]
        omega
      · have later := ih ((List.infix_cons_iff.mp feeds).resolve_left here)
        rw [collapse_once_cons here]
        simpa using later

theorem collapse_no_triple (text : Text) : ¬ tripleFeed <:+: collapseBlankLines text := by
  induction text using collapseBlankLines.induct with
  | case1 text shorter ih => rwa [collapseBlankLines, if_pos shorter]
  | case2 text stable =>
      rw [collapseBlankLines, if_neg stable]
      exact fun feeds => stable (collapse_once_shorter feeds)

theorem collapse_invariant {Seen : Type} {look : Text → Seen}
    (feeds : ∀ front back, look (front ++ tripleFeed ++ back) = look (front ++ "\n\n".toList ++ back))
    (text : Text) : look (collapseBlankLines text) = look text := by
  induction text using collapseBlankLines.induct with
  | case1 text shorter ih =>
      rw [collapseBlankLines, if_pos shorter, ih]
      exact collapse_once_invariant feeds [] text
  | case2 text stable => rw [collapseBlankLines, if_neg stable]

theorem filled_lines_collapse (text : Text) :
    filledLines (collapseBlankLines text) = filledLines text :=
  collapse_invariant filled_lines_feeds text

/-- The text without those line feeds that have two others right behind them. -/
def squeeze : Text → Text
  | [] => []
  | c :: text => if tripleFeed <+: c :: text then squeeze text else c :: squeeze text

theorem squeeze_cons {c : Char} {text : Text} (other : ¬ tripleFeed <+: c :: text) :
    squeeze (c :: text) = c :: squeeze text := by
  rw [squeeze, if_neg other]

theorem squeeze_subset (text : Text) : squeeze text ⊆ text := by
  induction text with
  | nil => exact List.Subset.refl _
  | cons c text ih =>
      rw [squeeze]
      split
      · exact List.Subset.trans ih (List.subset_cons_self c text)
      · exact List.cons_subset_cons c ih

theorem squeeze_of_single {text : Text} (single : ¬ tripleFeed <:+: text) : squeeze text = text := by
  induction text with
  | nil => rfl
  | cons c text ih =>
      rw [List.infix_cons_iff, not_or] at single
      rw [squeeze_cons single.1, ih single.2]

theorem squeeze_triple (rest : Text) : squeeze (tripleFeed ++ rest) = squeeze ("\n\n".toList ++ rest) := by
  have shape : tripleFeed ++ rest = '\n' :: ("\n\n".toList ++ rest) := rfl
  rw [shape, squeeze, if_pos ⟨rest, rfl⟩]

theorem squeeze_feeds (front back : Text) :
    squeeze (front ++ tripleFeed ++ back) = squeeze (front ++ "\n\n".toList ++ back) := by
  induction front with
  | nil => exact squeeze_triple back
  | cons c front ih =>
      have same : tripleFeed <+: c :: (front ++ tripleFeed ++ back) ↔
          tripleFeed <+: c :: (front ++ "\n\n".toList ++ back) := by
        rw [List.prefix_iff_eq_take, List.prefix_iff_eq_take]
        match front with
        | [] => rfl
        | [_] => rfl
        | _ :: _ :: _ => rfl
      rw [List.cons_append, List.cons_append, List.cons_append, List.cons_append, squeeze, squeeze, ih]
      simp only [same]

theorem squeeze_append {text rest : Text} (single : ¬ tripleFeed <:+: text)
    (ends : text.getLast? ≠ some '\n') : squeeze (text ++ rest) = text ++ squeeze rest := by
  induction text with
  | nil => rfl
  | cons c text ih =>
      have other : ¬ tripleFeed <+: c :: (text ++ rest) := by
        rintro ⟨tail, shape⟩
        have split : tripleFeed ++ tail = (c :: text) ++ rest := shape
        rcases List.append_eq_append_iff.mp split with ⟨more, inside, _⟩ | ⟨more, across, _⟩
        · exact single ⟨[], more, inside.symm⟩
        · obtain ⟨front, last, whole⟩ := List.eq_nil_or_concat (c :: text) |>.resolve_left (by simp)
          have feed : last = '\n' := mem_triple_feed last (by rw [across, whole]; simp)
          exact ends (by rw [whole, feed]; simp)
      rw [List.cons_append, squeeze_cons other]
      rw [List.infix_cons_iff, not_or] at single
      cases text with
      | nil => rfl
      | cons d text => rw [ih single.2 (by simpa using ends)]; rfl

/-- A run of line feeds is squeezed to two. -/
theorem squeeze_run (count : Nat) {rest : Text} (begins : rest.head? ≠ some '\n') :
    squeeze (List.replicate count '\n' ++ rest) =
      List.replicate (min count 2) '\n' ++ squeeze rest := by
  have short : ∀ c d : Char, ¬ tripleFeed <+: c :: d :: rest := by
    rintro c d ⟨tail, shape⟩
    exact begins (by rw [← (List.cons.inj (List.cons.inj shape).2).2]; rfl)
  induction count with
  | zero => rfl
  | succ count ih =>
      match count with
      | 0 =>
          have other : ¬ tripleFeed <+: '\n' :: rest := by
            rintro ⟨tail, shape⟩
            exact begins (by rw [← (List.cons.inj shape).2]; rfl)
          exact squeeze_cons other
      | 1 =>
          have other : ¬ tripleFeed <+: '\n' :: '\n' :: rest := short '\n' '\n'
          have later := congrArg ('\n' :: ·) ih
          exact (squeeze_cons other).trans later
      | count + 2 =>
          have three : tripleFeed <+: '\n' :: (List.replicate (count + 2) '\n' ++ rest) :=
            ⟨List.replicate count '\n' ++ rest, rfl⟩
          have bound : min (count + 2 + 1) 2 = min (count + 2) 2 := by omega
          rw [bound, ← ih, List.replicate_succ, List.cons_append, squeeze, if_pos three]

/-- What stands in a line below others is squeezed on its own. -/
theorem squeeze_above (front : Text) {below : Text} (begins : below.head? ≠ some '\n') :
    ∃ shown, squeeze (front ++ '\n' :: below) = shown ++ '\n' :: squeeze below := by
  induction front with
  | nil => exact ⟨[], squeeze_run 1 begins⟩
  | cons c front ih =>
      obtain ⟨shown, same⟩ := ih
      rw [List.cons_append, squeeze, same]
      split
      · exact ⟨shown, rfl⟩
      · exact ⟨c :: shown, rfl⟩

/-- Collapsing takes away exactly the line feeds of a run beyond two. -/
theorem collapse_eq_squeeze (text : Text) : collapseBlankLines text = squeeze text := by
  rw [← collapse_invariant squeeze_feeds text, squeeze_of_single (collapse_no_triple text)]

end Wikidown
