import Mathlib.Data.List.Forall2
import Mathlib.Data.List.ModifyLast
import Wikidown.Layout.Table
import Wikidown.Proofs.Block
import Wikidown.Proofs.Text.Rewrite

/-!
# Cells of rows

A row is cleaned cell by cell: a tilde in front of a cell is left out, and an empty cell gets a space.
The spaces are written between two bars at a time, and a bar that has been read for one cell is not read
again for the next. So of empty cells that follow each other inside a row every second stays empty.
-/

namespace Wikidown.Layout.Table

set_option autoImplicit false

/-- A cell without the mark of a header. -/
def withoutMark (cell : Text) : Text := (after? "~".toList cell).getD cell

/-- A cell with a space in it where it is empty. -/
def filled (cell : Text) : Text := if cell.isEmpty then [' '] else cell

/-- The cells of a row without the marks of headers. -/
def cellsWithoutMarks (cells : Text) : List Text := (pieces '|' cells).map withoutMark

/-- The cells behind the first with spaces between two bars: the cell behind one that gets a space stays
as it is. -/
def spacedBehind : List Text → List Text
  | [] :: next :: rest => [' '] :: next :: spacedBehind rest
  | cell :: next :: rest => cell :: spacedBehind (next :: rest)
  | rest => rest

/-- The cells of a row with spaces, at both ends too; a cell on its own has no bar beside it. -/
def spaced : List Text → List Text
  | first :: next :: rest => filled first :: (spacedBehind (next :: rest)).modifyLast filled
  | cells => cells

variable {first last cell : Text} {rest cells : List Text}

/-! ## Joined cells -/

theorem literal_unbarred {pattern value front : Text} (bar : pattern.head? = some '|') (visible : pattern ≠ [])
    (unbarred : '|' ∉ front) (rest : Text) :
    (Substitution.literal pattern value visible).apply (front ++ rest) =
      front ++ (Substitution.literal pattern value visible).apply rest :=
  Substitution.apply_append_of_absent ((Substitution.literal_opens _ _ _).starts_with bar) unbarred rest

theorem literal_unbarred_alone {pattern value : Text} (bar : pattern.head? = some '|') (visible : pattern ≠ [])
    (unbarred : '|' ∉ cell) : (Substitution.literal pattern value visible).apply cell = cell :=
  Substitution.apply_of_absent ((Substitution.literal_opens _ _ _).starts_with bar) unbarred

/-- A bar stays where the cell behind it does not begin with the other character of the pattern. -/
theorem literal_bar {value text : Text} {d : Char} (other : text.head? ≠ some d) :
    (Substitution.literal ['|', d] value (by simp)).apply ('|' :: text) =
      '|' :: (Substitution.literal ['|', d] value (by simp)).apply text := by
  refine Substitution.literal_apply_cons (by simp) ?_
  rintro ⟨back, shape⟩
  exact other (by rw [← (List.cons.inj shape).2]; rfl)

theorem joined_head (nonempty : first ≠ []) (rest : List Text) :
    (joined '|' (first :: rest)).head? = first.head? := by
  cases rest with
  | nil => rfl
  | cons next rest => exact List.head?_append_of_ne_nil _ nonempty

theorem joined_ne_nil (nonempty : first ≠ []) (rest : List Text) : joined '|' (first :: rest) ≠ [] := by
  intro empty
  have head := joined_head nonempty rest
  rw [empty] at head
  exact nonempty (List.head?_eq_none_iff.mp head.symm)

theorem head_unbarred (unbarred : '|' ∉ cell) : cell.head? ≠ some '|' := fun bar =>
  unbarred (List.mem_of_mem_head? bar)

/-- Two bars in a row stand only where a cell is empty and others follow it. -/
theorem joined_bar_head (unbarred : '|' ∉ first) (visible : first ≠ [] ∨ rest = []) :
    (joined '|' (first :: rest)).head? ≠ some '|' := by
  by_cases empty : first = []
  · rw [visible.resolve_left fun nonempty => nonempty empty]
    exact head_unbarred unbarred
  · rw [joined_head empty]
    exact head_unbarred unbarred

/-! ## Marks -/

theorem without_mark_tilde (cell : Text) : withoutMark ('~' :: cell) = cell := rfl

theorem without_mark_of_head (other : cell.head? ≠ some '~') : withoutMark cell = cell := by
  have unopened : ¬ "~".toList <+: cell := fun ⟨rest, shape⟩ => other (by rw [← shape]; rfl)
  rw [withoutMark, after_eq_none_of_not_prefix unopened, Option.getD_none]

theorem without_mark_suffix (cell : Text) : withoutMark cell <:+ cell := by
  by_cases marked : cell.head? = some '~'
  · obtain ⟨rest, rfl⟩ := List.head?_eq_some_iff.mp marked
    exact List.suffix_cons '~' rest
  · rw [without_mark_of_head marked]

theorem without_marks_lack {c : Char} (lacks : ∀ cell ∈ cells, c ∉ cell) :
    ∀ cell ∈ cells.map withoutMark, c ∉ cell :=
  List.forall_mem_map.mpr fun cell member inside => lacks cell member ((without_mark_suffix cell).subset inside)

/-- The marks of all cells but the first stand behind bars. -/
theorem literal_marks (unbarred : '|' ∉ first) (unbarredRest : ∀ cell ∈ rest, '|' ∉ cell) :
    (Substitution.literal "|~".toList "|".toList).apply (joined '|' (first :: rest)) =
      joined '|' (first :: rest.map withoutMark) := by
  induction rest generalizing first with
  | nil => exact literal_unbarred_alone rfl (by decide) unbarred
  | cons cell rest ih =>
      rw [List.forall_mem_cons] at unbarredRest
      rw [List.map_cons, joined_cons (List.cons_ne_nil _ _), joined_cons (List.cons_ne_nil _ _),
        literal_unbarred rfl (by decide) unbarred]
      refine congrArg (first ++ ·) ?_
      by_cases marked : cell.head? = some '~'
      · obtain ⟨text, rfl⟩ := List.head?_eq_some_iff.mp marked
        have text_unbarred : '|' ∉ text := fun member => unbarredRest.1 (List.mem_cons_of_mem _ member)
        rw [joined_cons_char, without_mark_tilde, ← ih text_unbarred unbarredRest.2]
        exact Substitution.literal_apply_found "|~".toList "|".toList _ (by decide)
      · have apart : (joined '|' (cell :: rest)).head? ≠ some '~' := by
          by_cases empty : cell = []
          · subst empty
            cases rest <;> simp [joined]
          · rwa [joined_head empty]
        rw [without_mark_of_head marked, ← ih unbarredRest.1 unbarredRest.2]
        exact literal_bar apart

theorem without_mark_joined (first : Text) (rest : List Text) :
    withoutMark (joined '|' (first :: rest)) = joined '|' (withoutMark first :: rest) := by
  by_cases marked : first.head? = some '~'
  · obtain ⟨text, rfl⟩ := List.head?_eq_some_iff.mp marked
    rw [joined_cons_char, without_mark_tilde, without_mark_tilde]
  · rw [without_mark_of_head marked]
    refine without_mark_of_head ?_
    by_cases empty : first = []
    · subst empty
      cases rest <;> simp [joined]
    · rwa [joined_head empty]

/-! ## Spaces -/

/-- Two bars are read for an empty cell, and the search goes on behind the second. -/
theorem literal_gaps (unbarred : '|' ∉ first) (unbarredRest : ∀ cell ∈ rest, '|' ∉ cell) :
    (Substitution.literal "||".toList "| |".toList).apply (joined '|' (first :: rest)) =
      joined '|' (first :: spacedBehind rest) := by
  induction rest using spacedBehind.induct generalizing first with
  | case1 next rest ih =>
      simp only [List.forall_mem_cons] at unbarredRest
      rw [spacedBehind, joined_cons (List.cons_ne_nil _ _), joined_cons (List.cons_ne_nil _ _),
        literal_unbarred rfl (by decide) unbarred, joined_cons (List.cons_ne_nil _ _),
        joined_cons (List.cons_ne_nil _ _), ← ih unbarredRest.2.1 unbarredRest.2.2]
      exact congrArg (first ++ ·) (Substitution.literal_apply_found "||".toList "| |".toList _ (by decide))
  | case2 cell next rest visible ih =>
      rw [List.forall_mem_cons] at unbarredRest
      have behind := ih unbarredRest.1 unbarredRest.2
      rw [spacedBehind.eq_2 cell next rest visible, joined_cons (List.cons_ne_nil _ _),
        joined_cons (List.cons_ne_nil cell _), literal_unbarred rfl (by decide) unbarred, ← behind]
      exact congrArg (first ++ ·) (literal_bar (joined_bar_head unbarredRest.1 (.inl visible)))
  | case3 rest several some =>
      have kept : spacedBehind rest = rest := spacedBehind.eq_3 rest several some
      rw [kept]
      cases rest with
      | nil => exact literal_unbarred_alone rfl (by decide) unbarred
      | cons last rest =>
          cases rest with
          | nil =>
              rw [List.forall_mem_singleton] at unbarredRest
              have alone : (Substitution.literal "||".toList "| |".toList).apply last = last :=
                literal_unbarred_alone rfl (by decide) unbarredRest
              rw [joined_cons (List.cons_ne_nil _ _), literal_unbarred rfl (by decide) unbarred]
              refine congrArg (first ++ ·) ((literal_bar (head_unbarred unbarredRest)).trans ?_)
              exact congrArg ('|' :: ·) alone
          | cons next rest => exact absurd rfl (some last next rest)

/-! ## Both ends -/

theorem filled_of_ne_nil (visible : cell ≠ []) : filled cell = cell := by
  rw [filled, if_neg (by simpa using visible)]

theorem filled_ne_nil (cell : Text) : filled cell ≠ [] := by
  unfold filled
  split
  · exact List.cons_ne_nil _ _
  · next visible => simpa using visible

theorem starts_bar_iff (unbarred : '|' ∉ first) (several : rest ≠ []) :
    startsWith "|".toList (joined '|' (first :: rest)) = true ↔ first = [] := by
  have begins (text : Text) : startsWith "|".toList text = true ↔ text.head? = some '|' := by
    rw [startsWith, Option.isSome_iff_exists, List.head?_eq_some_iff]
    exact exists_congr fun _ => after_eq_some
  rw [begins]
  constructor
  · exact fun bar => by_contra fun visible => joined_bar_head unbarred (.inl visible) bar
  · rintro rfl
    rw [joined_cons several]
    rfl

theorem before_bar_empty (several : cells ≠ []) :
    before? "|".toList (joined '|' (cells ++ [[]])) = some (joined '|' cells) := by
  rw [joined_append several (List.cons_ne_nil _ _)]
  exact before_append ['|'] _

theorem before_bar_visible (several : cells ≠ []) (unbarred : '|' ∉ last) (visible : last ≠ []) :
    before? "|".toList (joined '|' (cells ++ [last])) = none := by
  cases found : before? "|".toList (joined '|' (cells ++ [last])) with
  | none => rfl
  | some front =>
      obtain ⟨text, c, rfl⟩ := (List.eq_nil_or_concat' last).resolve_left visible
      have ends := congrArg List.getLast? (before_eq_some.mp found)
      have split : joined '|' (cells ++ [text ++ [c]]) = joined '|' cells ++ '|' :: text ++ [c] := by
        rw [joined_append several (List.cons_ne_nil _ _), List.append_assoc]
        rfl
      rw [split, List.getLast?_concat, List.getLast?_append_of_ne_nil _ (by decide)] at ends
      obtain rfl : c = '|' := Option.some.inj ends
      exact absurd (List.mem_append_right _ List.mem_cons_self) unbarred

/-- The first cell and the last get a space where they are empty. -/
theorem pad_ends_several {next : Text} (unbarred : ∀ cell ∈ first :: next :: rest, '|' ∉ cell)
    (whole : '\n' ∉ joined '|' (first :: next :: rest)) :
    padEnds (joined '|' (first :: next :: rest)) =
      joined '|' (filled first :: (next :: rest).modifyLast filled) := by
  obtain ⟨front, last, split⟩ :=
    (List.eq_nil_or_concat' (next :: rest)).resolve_left (List.cons_ne_nil _ _)
  rw [split] at unbarred whole ⊢
  have several : front ++ [last] ≠ [] := by simp
  have started : (if startsWith "|".toList (joined '|' (first :: (front ++ [last])))
      then ' ' :: joined '|' (first :: (front ++ [last])) else joined '|' (first :: (front ++ [last]))) =
        joined '|' (filled first :: front ++ [last]) := by
    by_cases empty : first = []
    · subst empty
      rw [if_pos ((starts_bar_iff List.not_mem_nil several).mpr rfl)]
      exact (joined_cons_char '|' ' ' [] _).symm
    · rw [if_neg fun bar => empty ((starts_bar_iff (unbarred first List.mem_cons_self) several).mp bar),
        filled_of_ne_nil empty]
      rfl
  have unbarredLast : '|' ∉ last := unbarred last (by simp)
  have feed : before? "|\n".toList (joined '|' (filled first :: front ++ [last])) = none := by
    refine before_eq_none_of_absent fun inside => whole ?_
    have member : '\n' ∈ joined '|' (filled first :: front ++ [last]) := inside.subset (by decide)
    rw [← started] at member
    split at member
    · exact (List.mem_cons.mp member).resolve_left (by decide)
    · exact member
  rw [padEnds]
  simp only [started, feed, List.modifyLast_concat]
  by_cases empty : last = []
  · subst empty
    have spaced : joined '|' (filled first :: (front ++ [filled []])) = joined '|' (filled first :: front) ++ "| ".toList :=
      joined_append (List.cons_ne_nil _ front) (List.cons_ne_nil _ _)
    rw [before_bar_empty (List.cons_ne_nil _ _), spaced]
  · rw [before_bar_visible (List.cons_ne_nil _ _) unbarredLast empty, filled_of_ne_nil empty]
    rfl

theorem pad_ends_alone (unbarred : '|' ∉ cell) : padEnds cell = cell := by
  have absent {closing : Text} (bar : '|' ∈ closing) : ¬ closing <:+: cell := fun inside =>
    unbarred (inside.subset bar)
  have start : startsWith "|".toList cell = false := by
    rw [startsWith, after_eq_none_of_not_prefix fun front => absent (by decide) front.isInfix]
    rfl
  rw [padEnds]
  simp only [start, before_eq_none_of_absent (absent (show '|' ∈ "|".toList by decide)),
    before_eq_none_of_absent (absent (show '|' ∈ "|\n".toList by decide)), Bool.false_eq_true, if_false]

/-! ## Cleaned cells -/

/-- A cell as it is, or with a space where it is empty. -/
def Shown (cell shown : Text) : Prop := shown = cell ∨ shown = filled cell

theorem Shown.lacks {shown : Text} {c : Char} (found : Shown cell shown) (space : c ≠ ' ') (lacks : c ∉ cell) :
    c ∉ shown := by
  rcases found with rfl | rfl
  · exact lacks
  · unfold filled
    split
    · simpa using space
    · exact lacks

theorem Shown.filled {shown : Text} (found : Shown cell shown) : Shown cell (filled shown) := by
  rcases found with rfl | rfl
  · exact .inr rfl
  · exact .inr (filled_of_ne_nil (filled_ne_nil cell))

section Shown

variable {shown : List Text}

theorem modify_last_cons (first : Text) (several : rest ≠ []) :
    (first :: rest).modifyLast filled = first :: rest.modifyLast filled :=
  List.modifyLast_append_of_right_ne_nil filled [first] rest several

theorem all_shown_lack {c : Char} (found : List.Forall₂ Shown cells shown) (space : c ≠ ' ')
    (lacks : ∀ cell ∈ cells, c ∉ cell) : ∀ cell ∈ shown, c ∉ cell := by
  induction found with
  | nil => exact lacks
  | cons here _ ih =>
      rw [List.forall_mem_cons] at lacks
      exact List.forall_mem_cons.mpr ⟨here.lacks space lacks.1, ih lacks.2⟩

theorem last_shown (found : List.Forall₂ Shown cells shown) :
    List.Forall₂ Shown cells (shown.modifyLast filled) := by
  induction found with
  | nil => exact .nil
  | @cons cell text cells shown here below ih =>
      by_cases single : shown = []
      · subst single
        rw [List.forall₂_nil_right_iff] at below
        subst below
        exact .cons here.filled .nil
      · rw [modify_last_cons text single]
        exact .cons here ih

theorem spaced_behind_shown (cells : List Text) : List.Forall₂ Shown cells (spacedBehind cells) := by
  induction cells using spacedBehind.induct with
  | case1 next rest ih => exact .cons (.inr rfl) (.cons (.inl rfl) ih)
  | case2 cell next rest visible ih =>
      rw [spacedBehind.eq_2 cell next rest visible]
      exact .cons (.inl rfl) ih
  | case3 rest several some =>
      rw [spacedBehind.eq_3 rest several some]
      exact List.forall₂_same.mpr fun cell _ => .inl rfl

theorem spaced_shown (cells : List Text) : List.Forall₂ Shown cells (spaced cells) := by
  cases cells with
  | nil => exact .nil
  | cons first rest =>
      cases rest with
      | nil => exact .cons (.inl rfl) .nil
      | cons next rest => exact .cons (.inr rfl) (last_shown (spaced_behind_shown _))

/-- Cells are all shown with something in them if all empty ones have got their space. -/
theorem all_filled_iff (found : List.Forall₂ Shown cells shown) :
    (∀ cell ∈ shown, cell ≠ []) ↔ shown = cells.map filled := by
  induction found with
  | nil => simp
  | @cons cell text cells shown here _ ih =>
      have same : text ≠ [] ↔ text = filled cell := by
        constructor
        · rcases here with rfl | rfl
          · exact fun visible => (filled_of_ne_nil visible).symm
          · exact fun _ => rfl
        · rintro rfl
          exact filled_ne_nil cell
      rw [List.forall_mem_cons, ih, same, List.map_cons, List.cons.injEq]

end Shown

/-- A row is cleaned cell by cell. -/
theorem clean_cells_joined (nonempty : cells ≠ []) (unbarred : ∀ cell ∈ cells, '|' ∉ cell)
    (whole : ∀ cell ∈ cells, '\n' ∉ cell) :
    cleanCells (joined '|' cells) = joined '|' (spaced (cells.map withoutMark)) := by
  obtain ⟨first, rest, rfl⟩ := List.exists_cons_of_ne_nil nonempty
  have unbarredToo := without_marks_lack unbarred
  have wholeToo := without_marks_lack whole
  rw [List.map_cons, List.forall_mem_cons] at unbarredToo wholeToo
  rw [List.forall_mem_cons] at unbarred
  have marks := literal_marks unbarred.1 unbarred.2
  have gaps := literal_gaps unbarredToo.1 unbarredToo.2
  have cleaned : cleanCells (joined '|' (first :: rest)) =
      padEnds (joined '|' (withoutMark first :: spacedBehind (rest.map withoutMark))) := by
    rw [cleanCells]
    simp only [marks]
    rw [← gaps, ← without_mark_joined]
    rfl
  rw [cleaned, List.map_cons]
  have shown := spaced_behind_shown (rest.map withoutMark)
  cases behind : spacedBehind (rest.map withoutMark) with
  | nil =>
      rw [behind, List.forall₂_nil_right_iff] at shown
      rw [shown]
      exact pad_ends_alone unbarredToo.1
  | cons next more =>
      have unbarredBehind := all_shown_lack shown (by decide) unbarredToo.2
      have wholeBehind := all_shown_lack shown (by decide) wholeToo.2
      rw [behind] at shown unbarredBehind wholeBehind
      have all : ∀ cell ∈ withoutMark first :: next :: more, '\n' ∉ cell :=
        List.forall_mem_cons.mpr ⟨wholeToo.1, wholeBehind⟩
      have feed : '\n' ∉ joined '|' (withoutMark first :: next :: more) := fun member => by
        rcases mem_joined member with bar | ⟨cell, inside, here⟩
        · exact absurd bar (by decide)
        · exact all cell inside here
      rw [pad_ends_several (List.forall_mem_cons.mpr ⟨unbarredToo.1, unbarredBehind⟩) feed, ← behind]
      cases several : rest.map withoutMark with
      | nil =>
          rw [several, List.forall₂_nil_left_iff] at shown
          exact absurd shown (List.cons_ne_nil _ _)
      | cons second others => rfl

/-! ## Empty cells -/

theorem spaced_behind_ne_nil (visible : rest ≠ []) : spacedBehind rest ≠ [] := by
  intro none
  have shown := spaced_behind_shown rest
  rw [none, List.forall₂_nil_right_iff] at shown
  exact visible shown

/-- Two empty cells in a row stand in front of others or among them. -/
theorem empty_pair_cons (cell : Text) (cells : List Text) :
    [[], []] <:+: cell :: cells ↔ (cell = [] ∧ cells.head? = some []) ∨ [[], []] <:+: cells := by
  rw [List.infix_cons_iff, List.cons_prefix_cons, List.head?_eq_some_iff]
  refine or_congr_left (and_congr eq_comm ⟨?_, ?_⟩)
  · rintro ⟨rest, shape⟩
    exact ⟨rest, shape.symm⟩
  · rintro ⟨rest, shape⟩
    exact ⟨rest, shape.symm⟩

/-- Between the first cell and the last, one of two empty cells in a row stays empty, and no other does. -/
theorem behind_visible_iff (rest : List Text) :
    (∀ cell ∈ (spacedBehind rest).modifyLast filled, cell ≠ []) ↔ ¬ [[], []] <:+: rest.dropLast := by
  induction rest using spacedBehind.induct with
  | case1 next rest ih =>
      rw [spacedBehind, modify_last_cons _ (List.cons_ne_nil _ _), List.dropLast_cons_of_ne_nil (List.cons_ne_nil _ _),
        empty_pair_cons, List.forall_mem_cons]
      by_cases single : rest = []
      · subst single
        have last : (next :: spacedBehind []).modifyLast filled = [filled next] := rfl
        simp [last, filled_ne_nil]
      · rw [modify_last_cons next (spaced_behind_ne_nil single), List.forall_mem_cons, ih,
          List.dropLast_cons_of_ne_nil single, empty_pair_cons, List.head?_cons]
        by_cases visible : next = [] <;> simp [visible]
  | case2 cell next rest visible ih =>
      have nonempty : cell ≠ [] := visible
      rw [spacedBehind.eq_2 cell next rest visible,
        modify_last_cons cell (spaced_behind_ne_nil (List.cons_ne_nil _ _)), List.forall_mem_cons, ih,
        List.dropLast_cons_of_ne_nil (List.cons_ne_nil _ _), empty_pair_cons]
      simp [nonempty]
  | case3 rest several some =>
      rw [spacedBehind.eq_3 rest several some]
      rcases rest with _ | ⟨last, _ | ⟨next, rest⟩⟩
      · simp [List.modifyLast, List.modifyLast.go]
      · have alone : ([last] : List Text).modifyLast filled = [filled last] := rfl
        simp [alone, filled_ne_nil]
      · exact absurd rfl (some last next rest)

theorem all_visible_iff (nonempty : cells ≠ []) :
    (∀ cell ∈ spaced cells, cell ≠ []) ↔ cells ≠ [[]] ∧ ¬ [[], []] <:+: cells.tail.dropLast := by
  rcases cells with _ | ⟨first, _ | ⟨next, rest⟩⟩
  · contradiction
  · simp [spaced]
  · rw [spaced, List.forall_mem_cons, behind_visible_iff, List.tail_cons]
    simp [filled_ne_nil]

/-- Cells that are not empty need no spaces. -/
theorem spaced_of_visible (visible : ∀ cell ∈ cells, cell ≠ []) : spaced cells = cells := by
  by_cases none : cells = []
  · rw [none, spaced]
    exact fun _ _ _ several => absurd several.symm (List.cons_ne_nil _ _)
  · have apart : ¬ [[], []] <:+: cells.tail.dropLast := fun inside =>
      visible [] (List.mem_of_mem_tail (List.mem_of_mem_dropLast (inside.subset List.mem_cons_self))) rfl
    have several : cells ≠ [[]] := fun single => visible [] (single ▸ List.mem_cons_self) rfl
    rw [(all_filled_iff (spaced_shown cells)).mp ((all_visible_iff none).mpr ⟨several, apart⟩)]
    exact (List.map_congr_left fun cell member => filled_of_ne_nil (visible cell member)).trans (List.map_id _)

/-- What becomes of the cells of a row. All empty ones get their space if the row is not a single empty
cell and if no two that follow each other are empty between the first and the last. -/
theorem cleaned_cell_by_cell {cells : Text} (whole : '\n' ∉ cells) :
    pieces '|' (cleanCells cells) = spaced (cellsWithoutMarks cells) ∧
      (pieces '|' (cleanCells cells)).length = (pieces '|' cells).length ∧
      (pieces '|' (cleanCells cells) = (cellsWithoutMarks cells).map filled ↔
        cellsWithoutMarks cells ≠ [[]] ∧ ¬ [[], []] <:+: (cellsWithoutMarks cells).tail.dropLast) ∧
      ((∀ cell ∈ pieces '|' (cleanCells cells), cell ≠ []) ↔
        cellsWithoutMarks cells ≠ [[]] ∧ ¬ [[], []] <:+: (cellsWithoutMarks cells).tail.dropLast) := by
  have nonempty : cellsWithoutMarks cells ≠ [] := by simp [cellsWithoutMarks, pieces_ne_nil]
  have unbarred : ∀ cell ∈ pieces '|' cells, '|' ∉ cell := fun cell => separator_not_mem_piece
  have wholeCells : ∀ cell ∈ pieces '|' cells, '\n' ∉ cell := fun cell member feed =>
    whole (mem_of_mem_piece member feed)
  have shown := spaced_shown (cellsWithoutMarks cells)
  have cleaned : cleanCells cells = joined '|' (spaced (cellsWithoutMarks cells)) := by
    have row := clean_cells_joined (pieces_ne_nil '|' cells) unbarred wholeCells
    rwa [joined_pieces] at row
  have split : pieces '|' (cleanCells cells) = spaced (cellsWithoutMarks cells) := by
    rw [cleaned]
    refine pieces_joined (fun none => nonempty ?_) (all_shown_lack shown (by decide) (without_marks_lack unbarred))
    rwa [none, List.forall₂_nil_right_iff] at shown
  have visible := all_visible_iff nonempty
  rw [split]
  refine ⟨rfl, ?_, (all_filled_iff shown).symm.trans visible, visible⟩
  rw [← shown.length_eq, cellsWithoutMarks, List.length_map]

/-- A row with marked cells and with empty cells at both ends and inside. -/
theorem cleaned_marked_row : '\n' ∉ "~|~a||~~b|".toList ∧
    pieces '|' (cleanCells "~|~a||~~b|".toList) =
      [" ".toList, "a".toList, " ".toList, "~b".toList, " ".toList] := by
  refine ⟨by decide, ?_⟩
  have filledCells := (cleaned_cell_by_cell (show '\n' ∉ "~|~a||~~b|".toList by decide)).2.2.1.mpr (by decide)
  exact filledCells.trans (by decide)

/-- The second of two empty cells that follow each other stays empty, and so does an empty cell on its own. -/
theorem adjacent_cells_left_empty :
    (pieces '|' (cleanCells "a|||b".toList) = ["a".toList, " ".toList, [], "b".toList] ∧
      (cellsWithoutMarks "a|||b".toList).map filled = ["a".toList, " ".toList, " ".toList, "b".toList]) ∧
    (pieces '|' (cleanCells []) = [[]] ∧ (cellsWithoutMarks []).map filled = [" ".toList]) := by
  decide +kernel

end Wikidown.Layout.Table
