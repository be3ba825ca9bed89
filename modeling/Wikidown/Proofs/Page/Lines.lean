import Mathlib.Data.Bool.AllAny
import Wikidown.Page.Link
import Wikidown.Proofs.Text.Rewrite

/-!
# Lines of pages

Where a line of a page ends, the lines above and below are those of the texts above and below. Whether a line is
a fence is decided by the marks that it begins with, so the fences of a page are found from the characters that
lines begin at.
-/

namespace Wikidown.Page

set_option autoImplicit false

/-! ## Lines that end between two texts -/

/-- A line ends at the end of `front`, in front of `back`. -/
def Broken (front back : Text) : Prop :=
  ∀ last ∈ front.getLast?, isLineEnd last = true ∧ ¬ (last = '\r' ∧ back.head? = some '\n')

theorem whole_lines_cons {c : Char} {text : Text} (apart : ¬ (c = '\r' ∧ text.head? = some '\n')) :
    wholeLines (c :: text) =
      if isLineEnd c then [c] :: wholeLines text
      else match wholeLines text with
        | [] => [[c]]
        | line :: more => (c :: line) :: more := by
  rw [wholeLines.eq_def (c :: text)]
  split
  · next none => simp at none
  · next rest same =>
    obtain ⟨rfl, rfl⟩ := List.cons.inj same
    exact absurd ⟨rfl, rfl⟩ apart
  · next d rest _ same =>
    obtain ⟨rfl, rfl⟩ := List.cons.inj same
    rfl

theorem whole_lines_ne_nil {text : Text} (nonempty : text ≠ []) : wholeLines text ≠ [] := by
  intro none
  have kept := whole_lines_flatten text
  rw [none] at kept
  exact nonempty kept.symm

theorem ne_nil_of_mem_whole_lines {text line : Text} (member : line ∈ wholeLines text) : line ≠ [] := by
  fun_induction wholeLines text with
  | case1 => exact absurd member List.not_mem_nil
  | case2 text ih =>
      rcases List.mem_cons.mp member with rfl | later
      · simp
      · exact ih later
  | case3 c text apart ends ih =>
      rcases List.mem_cons.mp member with rfl | later
      · simp
      · exact ih later
  | case4 c text apart inside none ih =>
      rw [List.mem_singleton.mp member]
      simp
  | case5 c text apart inside first more shape ih =>
      rcases List.mem_cons.mp member with rfl | later
      · simp
      · exact ih (shape ▸ List.mem_cons_of_mem first later)

theorem Broken.tail {c : Char} {front back : Text} (broken : Broken (c :: front) back) : Broken front back := by
  cases front with
  | nil => simp [Broken]
  | cons d front => simpa [Broken] using broken

theorem whole_lines_append_of_broken {front back : Text} (broken : Broken front back) :
    wholeLines (front ++ back) = wholeLines front ++ wholeLines back := by
  induction size : front.length using Nat.strong_induction_on generalizing front with
  | _ size ih =>
      cases front with
      | nil => rfl
      | cons c front =>
          have tail := ih front.length (by simp [← size]) broken.tail rfl
          by_cases pair : c = '\r' ∧ front.head? = some '\n'
          · obtain ⟨rfl, begins⟩ := pair
            obtain ⟨front, rfl⟩ := List.head?_eq_some_iff.mp begins
            have shorter : front.length < ('\r' :: '\n' :: front).length := by
              rw [List.length_cons, List.length_cons]
              omega
            have tail := ih front.length (size ▸ shorter) broken.tail.tail rfl
            rw [List.cons_append, List.cons_append, wholeLines, tail, wholeLines, List.cons_append]
          · have pairToo : ¬ (c = '\r' ∧ (front ++ back).head? = some '\n') := by
              rintro ⟨rfl, begins⟩
              cases front with
              | nil => exact (broken '\r' rfl).2 ⟨rfl, begins⟩
              | cons d front => exact pair ⟨rfl, begins⟩
            rw [List.cons_append, whole_lines_cons pairToo, whole_lines_cons pair, tail]
            split
            · rfl
            · next inside =>
                have nonempty : front ≠ [] := by
                  rintro rfl
                  exact inside (broken c rfl).1
                obtain ⟨line, more, shape⟩ := List.exists_cons_of_ne_nil (whole_lines_ne_nil nonempty)
                rw [shape]
                rfl

theorem Broken.cons {c : Char} {front back : Text} (broken : Broken front back)
    (ends : front = [] → isLineEnd c = true ∧ ¬ (c = '\r' ∧ back.head? = some '\n')) : Broken (c :: front) back := by
  cases front with
  | nil =>
      intro last same
      obtain rfl := Option.some.inj same
      exact ends rfl
  | cons d front => simpa [Broken] using broken

theorem broken_nil (back : Text) : Broken [] back := fun last member => by simp at member

/-- Lines above others end above them, and are lines by themselves. -/
theorem lines_above {content : Text} {front back : List Text} (cut : wholeLines content = front ++ back)
    (below : back ≠ []) : wholeLines front.flatten = front ∧ Broken front.flatten back.flatten := by
  fun_induction wholeLines content generalizing front with
  | case1 => exact absurd (List.append_eq_nil_iff.mp cut.symm).2 below
  | case2 text ih =>
      cases front with
      | nil => exact ⟨rfl, broken_nil _⟩
      | cons first front =>
          obtain ⟨rfl, behind⟩ := List.cons.inj cut
          obtain ⟨own, broken⟩ := ih behind
          refine ⟨by rw [List.flatten_cons, List.cons_append, List.cons_append, wholeLines, List.nil_append, own], ?_⟩
          exact (broken.cons fun _ => ⟨by decide, by simp⟩).cons (by simp)
  | case3 c text apart ends ih =>
      cases front with
      | nil => exact ⟨rfl, broken_nil _⟩
      | cons first front =>
          obtain ⟨rfl, behind⟩ : [c] = first ∧ wholeLines text = front ++ back := List.cons.inj cut
          obtain ⟨own, broken⟩ := ih behind
          have flat : text = front.flatten ++ back.flatten := by
            rw [← List.flatten_append, ← behind, whole_lines_flatten]
          have lone : ¬ (c = '\r' ∧ text.head? = some '\n') := fun ⟨same, begins⟩ =>
            let ⟨rest, shape⟩ := List.head?_eq_some_iff.mp begins
            apart rest same shape
          have alone : ¬ (c = '\r' ∧ front.flatten.head? = some '\n') := fun ⟨same, begins⟩ =>
            lone ⟨same, by rw [flat, List.head?_append, begins]; rfl⟩
          rw [List.flatten_cons, List.singleton_append]
          refine ⟨by rw [whole_lines_cons alone, if_pos ends, own], broken.cons fun empty => ⟨ends, ?_⟩⟩
          rwa [flat, empty, List.nil_append] at lone
  | case4 c text apart inside empty ih =>
      cases front with
      | nil => exact ⟨rfl, broken_nil _⟩
      | cons first front =>
          obtain ⟨_, behind⟩ : [c] = first ∧ [] = front ++ back := List.cons.inj cut
          exact absurd (List.append_eq_nil_iff.mp behind.symm).2 below
  | case5 c text apart inside first more shape ih =>
      cases front with
      | nil => exact ⟨rfl, broken_nil _⟩
      | cons line front =>
          obtain ⟨rfl, rfl⟩ : c :: first = line ∧ more = front ++ back := List.cons.inj cut
          obtain ⟨own, broken⟩ := @ih (first :: front) shape
          have visible : (first :: front).flatten ≠ [] := by
            have nonempty : first ≠ [] := ne_nil_of_mem_whole_lines (shape ▸ List.mem_cons_self)
            simp [nonempty]
          have other : c ≠ '\r' := fun same => inside (by rw [same]; decide)
          refine ⟨?_, broken.cons fun empty => absurd empty visible⟩
          show wholeLines (c :: (first :: front).flatten) = _
          rw [whole_lines_cons fun pair => other pair.1, if_neg inside, own]

/-! ## Fences -/

theorem is_fence_marked {line : Text} (tight : line.head? ≠ some ' ') : isFence ('>' :: line) = isFence line := by
  rw [isFence.eq_def ('>' :: line)]
  split
  · next rest same =>
      obtain ⟨_, rfl⟩ := List.cons.inj same
      exact absurd rfl tight
  · next rest _ same =>
      obtain ⟨_, rfl⟩ := List.cons.inj same
      rfl
  · next unmarked => exact absurd rfl (unmarked line)

theorem is_fence_unmarked {line : Text} (unmarked : line.head? ≠ some '>') :
    isFence line = startsWith "\x60\x60\x60".toList line := by
  rw [isFence.eq_def]
  split
  · exact absurd rfl unmarked
  · exact absurd rfl unmarked
  · rfl

/-- A character that stands in no fence. -/
def Strange (c : Char) : Prop := c ∉ "> \x60".toList

theorem strange_of_line_end {c : Char} (ends : isLineEnd c = true) : Strange c := by
  have others : ∀ d ∈ "> \x60".toList, isLineEnd d = false := List.all_iff_forall_prop.mp (by decide)
  intro member
  rw [others c member] at ends
  exact absurd ends (by decide)

/-- Whatever stands behind a character of no fence, it is no part of one. -/
theorem is_fence_append {c : Char} (strange : Strange c) (front back : Text) :
    isFence (front ++ c :: back) = isFence front := by
  have apart : c ≠ '>' ∧ c ≠ ' ' ∧ c ∉ "\x60\x60\x60".toList := by simpa [Strange] using strange
  fun_induction isFence front with
  | case1 front ih => exact ih
  | case2 front marked ih =>
      rw [List.cons_append, is_fence_marked, ih]
      cases front with
      | nil => simpa using apart.2.1
      | cons d front => simpa using fun same => marked front (by rw [same])
  | case3 front _ marked =>
      have unmarked : (front ++ c :: back).head? ≠ some '>' := by
        cases front with
        | nil => simpa using apart.1
        | cons d front => simpa using fun same => marked front (by rw [same])
      rw [is_fence_unmarked unmarked, startsWith, startsWith, after_append_tail apart.2.2, Option.isSome_map]

theorem is_fence_strange {c : Char} (strange : Strange c) (text : Text) : isFence (c :: text) = false :=
  is_fence_append strange [] text

/-- A page begins with a fence if its first line is one. -/
theorem is_fence_first {text line : Text} {more : List Text} (cut : wholeLines text = line :: more) :
    isFence text = isFence line := by
  have whole := whole_lines_flatten text
  rw [cut, List.flatten_cons] at whole
  by_cases single : more = []
  · rw [single, List.flatten_nil, List.append_nil] at whole
    rw [whole]
  · obtain ⟨_, broken⟩ := @lines_above text [line] more cut single
    rw [List.flatten_singleton] at broken
    obtain ⟨front, last, rfl⟩ := (List.eq_nil_or_concat' line).resolve_left
      (ne_nil_of_mem_whole_lines (cut ▸ List.mem_cons_self))
    have strange := strange_of_line_end (broken last (List.getLast?_concat)).1
    rw [← whole, List.append_assoc, List.singleton_append, is_fence_append strange, is_fence_append strange]

/-- Whether a line begins at a character behind `previous`. -/
def beginsLine (previous : Option Char) (c : Char) : Bool :=
  previous.all fun last => isLineEnd last && !(last == '\r' && c == '\n')

/-- Whether one of the lines that begin in a text behind the character `previous` is a fence. -/
def hasFence : (previous : Option Char) → Text → Bool
  | _, [] => false
  | previous, c :: text => (beginsLine previous c && isFence (c :: text)) || hasFence (some c) text

theorem has_fence_below {last : Char} {text : Text} (broken : Broken [last] text) :
    hasFence (some last) text = hasFence none text := by
  cases text with
  | nil => rfl
  | cons c text =>
      obtain ⟨ends, apart⟩ := broken last rfl
      have begins : beginsLine (some last) c = true := by simpa [beginsLine, ends, ← not_and_or] using apart
      rw [hasFence, hasFence, begins]
      rfl

theorem has_fence_within {previous c : Char} (inside : isLineEnd previous = false) (text : Text) :
    hasFence (some previous) (c :: text) = hasFence (some c) text := by
  simp [hasFence, beginsLine, inside]

/-- The lines of a text that are fences, by the characters that lines begin at. -/
theorem has_fence_iff (text : Text) :
    hasFence none text = (wholeLines text).any isFence ∧
      ∀ previous, isLineEnd previous = false →
        hasFence (some previous) text = (wholeLines text).tail.any isFence := by
  fun_induction wholeLines text with
  | case1 => exact ⟨rfl, fun _ _ => rfl⟩
  | case2 text ih =>
      have pair : hasFence (some '\r') ('\n' :: text) = (wholeLines text).any isFence := by
        rw [hasFence, has_fence_below fun last same => ?_, ih.1]
        · rfl
        · obtain rfl := Option.some.inj same
          exact ⟨by decide, by simp⟩
      refine ⟨?_, fun previous inside => ?_⟩
      · rw [hasFence, pair, is_fence_strange (strange_of_line_end (by decide)), List.any_cons,
          is_fence_strange (strange_of_line_end (by decide)), Bool.and_false]
      · rw [has_fence_within inside, pair]
        rfl
  | case3 c text apart ends ih =>
      have below : hasFence (some c) text = (wholeLines text).any isFence := by
        rw [has_fence_below fun last same => ?_, ih.1]
        obtain rfl := Option.some.inj same
        refine ⟨ends, fun paired => ?_⟩
        obtain ⟨rest, shape⟩ := List.head?_eq_some_iff.mp paired.2
        exact apart rest paired.1 shape
      have strange := strange_of_line_end ends
      refine ⟨?_, fun previous inside => ?_⟩
      · rw [hasFence, below, is_fence_strange strange, List.any_cons, is_fence_strange strange, Bool.and_false]
      · rw [has_fence_within inside, below]
        rfl
  | case4 c text apart inside none ih =>
      have empty : text = [] := by
        by_contra nonempty
        exact whole_lines_ne_nil nonempty none
      subst empty
      refine ⟨?_, fun previous within => by rw [has_fence_within within]; rfl⟩
      rw [hasFence, List.any_cons]
      rfl
  | case5 c text apart inside line more shape ih =>
      have visible : isLineEnd c = false := by simpa using inside
      have below : hasFence (some c) text = more.any isFence := by
        rw [ih.2 c visible, shape, List.tail_cons]
      have cut : wholeLines (c :: text) = (c :: line) :: more := by
        rw [whole_lines_cons, if_neg inside, shape]
        rintro ⟨same, begins⟩
        obtain ⟨rest, written⟩ := List.head?_eq_some_iff.mp begins
        exact apart rest same written
      refine ⟨?_, fun previous within => ?_⟩
      · rw [hasFence, below, is_fence_first cut, List.any_cons]
        rfl
      · rw [has_fence_within within, below]
        rfl

/-- Fences begin on one side of a character of no fence. -/
theorem has_fence_across {c : Char} (strange : Strange c) (previous : Option Char) (front back : Text) :
    hasFence previous (front ++ c :: back) = (hasFence previous front || hasFence (some c) back) := by
  induction front generalizing previous with
  | nil => rw [List.nil_append, hasFence.eq_1, hasFence.eq_2, is_fence_strange strange, Bool.and_false]
  | cons d front ih =>
      have here := is_fence_append strange (d :: front) back
      rw [List.cons_append] at here
      rw [List.cons_append, hasFence, here, ih, hasFence, Bool.or_assoc]

theorem has_fence_of_no_line_end {previous : Char} {text : Text}
    (inside : ∀ c ∈ previous :: text, isLineEnd c = false) : hasFence (some previous) text = false := by
  induction text generalizing previous with
  | nil => rfl
  | cons c text ih =>
      rw [List.forall_mem_cons] at inside
      rw [has_fence_within inside.1, ih inside.2]

end Wikidown.Page
