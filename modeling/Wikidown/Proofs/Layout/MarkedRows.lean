import Wikidown.Proofs.Layout.Runs

/-!
# Rows with marked cells

A tilde in front of a cell marks a header and is left out. What a row begins with once its cells are
converted, it has begun with before: the inline notation writes no colon where there was none.
-/

namespace Wikidown

set_option autoImplicit false

open Layout Layout.Table

/-- The text of a cell, and whether a tilde stands in front of it. -/
structure MarkedCell where
  headed : Bool := false
  text : Text
  nonempty : text ≠ [] := by decide
  unbarred : '|' ∉ text := by decide
  whole : '\n' ∉ text := by decide
  uniform : '\r' ∉ text := by decide
  unmarked : ¬ mark <:+: text := by decide
  unheaded : headed = true ∨ text.head? ≠ some '~' := by decide

def MarkedCell.source (cell : MarkedCell) : Text := if cell.headed then '~' :: cell.text else cell.text

/-- The cells of a row, of which there is at least one. -/
structure MarkedRow where
  cells : List MarkedCell
  nonempty : cells ≠ [] := by simp

namespace MarkedRow

variable (row : MarkedRow)

/-- The cells with a bar between each two of them. -/
def inner : Text := joined '|' (row.cells.map MarkedCell.source)

def source : Line := '|' :: (row.inner ++ ['|'])

def headerSource : Line := '|' :: (row.inner ++ "|h".toList)

/-- A row without the marks of its cells. -/
def cleaned : Line := '|' :: (joined '|' (row.cells.map MarkedCell.text) ++ ['|'])

/-- What the inline notation and the escapes make of a row. -/
def rendered : Line := escape (Inline.convert row.cleaned)

end MarkedRow

/-! ## Cells -/

namespace MarkedCell

variable (cell : MarkedCell)

theorem source_unbarred : '|' ∉ cell.source := by
  unfold source
  split
  · simp [cell.unbarred]
  · exact cell.unbarred

theorem source_apart {c : Char} (tilde : c ≠ '~') (absent : c ∉ cell.text) : c ∉ cell.source := by
  unfold source
  split
  · simp [tilde, absent]
  · exact absent

theorem without_mark_source : withoutMark cell.source = cell.text := by
  unfold source
  split
  · exact without_mark_tilde cell.text
  · next plain => exact without_mark_of_head (cell.unheaded.resolve_left plain)

end MarkedCell

/-! ## Colons -/

/-- Whatever a substitution writes begins with a character other than the given one. -/
def Substitution.BeginsApart (rule : Substitution) (c : Char) : Prop :=
  ∀ text written rest, rule.step? text = some (written, rest) → ∃ d more, written = d :: more ∧ d ≠ c

theorem Substitution.BeginsApart.apply {rule : Substitution} {c : Char} (apart : rule.BeginsApart c)
    {text : Text} (other : text.head? ≠ some c) : (rule.apply text).head? ≠ some c := by
  cases text with
  | nil => simp [apply_nil]
  | cons d text =>
      cases found : rule.step? (d :: text) with
      | none => simpa [apply_of_none found] using other
      | some result =>
          obtain ⟨written, rest⟩ := result
          obtain ⟨first, more, rfl, different⟩ := apart _ _ _ found
          simpa [apply_of_some found] using different

theorem Inline.rules_begin_apart : ∀ rule ∈ Inline.rules, rule.BeginsApart ':' := by
  have enclosed {opening closing : Text} {render : Text → Text} {visible : opening ≠ []}
      (shown : ∀ inner, ∃ d more, render inner = d :: more ∧ d ≠ ':') :
      (Substitution.enclosed opening closing render visible).BeginsApart ':' := by
    intro text written rest found
    obtain ⟨inner, _, rfl⟩ := Substitution.enclosed_shape found
    exact shown inner
  have pair {opening closing : Text} {divides : Char → Bool} {render : Text → Text → Text}
      {visible : opening ≠ []} (shown : ∀ first second, ∃ d more, render first second = d :: more ∧ d ≠ ':') :
      (Substitution.pair opening divides closing render visible).BeginsApart ':' := by
    intro text written rest found
    obtain ⟨first, _, second, _, _, rfl⟩ := Substitution.pair_shape found
    exact shown first second
  have literal {pattern : Text} {d : Char} {more : Text} {visible : pattern ≠ []} (apart : d ≠ ':') :
      (Substitution.literal pattern (d :: more) visible).BeginsApart ':' := by
    intro text written rest found
    rw [Substitution.literal_step, Option.map_eq_some_iff] at found
    obtain ⟨_, _, same⟩ := found
    exact ⟨d, more, (Prod.mk.inj same).1.symm, apart⟩
  have colors : colorRule.BeginsApart ':' := by
    intro text written rest found
    obtain ⟨_, name, _, inner, _, rfl, _⟩ := color_step_shape found
    exact ⟨'<', _, rfl, by decide⟩
  intro rule member
  simp only [rules, List.mem_cons, List.not_mem_nil, or_false] at member
  rcases member with rfl | rfl | rfl | rfl | rfl | rfl | rfl | rfl | rfl | rfl | rfl
  · exact enclosed fun _ => ⟨'&', _, rfl, by decide⟩
  · exact literal (by decide)
  · exact enclosed fun _ => ⟨' ', _, rfl, by decide⟩
  · exact enclosed fun _ => ⟨' ', _, rfl, by decide⟩
  · exact enclosed fun _ => ⟨' ', _, rfl, by decide⟩
  · exact pair fun _ _ => ⟨'[', _, rfl, by decide⟩
  · exact colors
  · exact enclosed fun _ => ⟨'!', _, rfl, by decide⟩
  · exact enclosed fun _ => ⟨'!', _, rfl, by decide⟩
  · exact pair fun _ _ => ⟨'[', _, rfl, by decide⟩
  · exact literal (by decide)

/-- A converted text begins with a colon if the text does. -/
theorem Inline.convert_head_colon (text : Text) :
    (Inline.convert text).head? = some ':' ↔ text.head? = some ':' := by
  have kept (other : text.head? ≠ some ':') : (Inline.convert text).head? ≠ some ':' :=
    @Substitution.apply_all_keeps rules (fun text => text.head? ≠ some ':') text
      (fun rule member _ => (rules_begin_apart rule member).apply) other
  constructor
  · exact fun colon => by_contra fun other => kept other colon
  · intro colon
    obtain ⟨rest, rfl⟩ := List.head?_eq_some_iff.mp colon
    have plain : ∀ c ∈ [':'], c ∉ openings := List.forall_mem_singleton.mpr (by decide)
    exact congrArg List.head? (Table.convert_keep plain rest)

namespace MarkedRow

variable (row : MarkedRow)

/-- Whether a row looks like an alignment row. -/
def aligned : Bool := startsWith "|:".toList row.cleaned

theorem starts_aligned_iff (line : Line) : startsWith "|:".toList ('|' :: line) = true ↔ line.head? = some ':' := by
  rw [starts_with_iff]
  cases line with
  | nil => simp
  | cons c line => simp [List.cons_prefix_cons, eq_comm]

theorem cleaned_head (rest : Text) : (joined '|' (row.cells.map MarkedCell.text) ++ rest).head? =
    row.cells.head?.bind fun cell => cell.text.head? := by
  obtain ⟨cells, nonempty⟩ := row
  obtain ⟨cell, more, rfl⟩ := List.exists_cons_of_ne_nil nonempty
  have visible : joined '|' ((cell :: more).map MarkedCell.text) ≠ [] := joined_ne_nil cell.nonempty _
  rw [List.head?_append_of_ne_nil _ visible]
  exact joined_head cell.nonempty _

theorem aligned_iff : row.aligned = true ↔ ∃ cell ∈ row.cells.head?, cell.text.head? = some ':' := by
  rw [aligned, cleaned, starts_aligned_iff, cleaned_head, Option.bind_eq_some_iff]
  rfl

/-- It looks so when it is converted if it does before. -/
theorem convert_aligned : startsWith "|:".toList (Inline.convert row.cleaned) = row.aligned := by
  have bar : ∀ c ∈ ['|'], c ∉ openings := List.forall_mem_singleton.mpr (by decide)
  have split : Inline.convert row.cleaned =
      '|' :: Inline.convert (joined '|' (row.cells.map MarkedCell.text) ++ ['|']) := Table.convert_keep bar _
  rw [Bool.eq_iff_iff, split, starts_aligned_iff, Inline.convert_head_colon, aligned, cleaned,
    starts_aligned_iff]

theorem clean_cells : cleanCells row.inner = joined '|' (row.cells.map MarkedCell.text) := by
  have nonempty : row.cells.map MarkedCell.source ≠ [] := by simpa using row.nonempty
  have texts : (row.cells.map MarkedCell.source).map withoutMark = row.cells.map MarkedCell.text := by
    rw [List.map_map]
    exact List.map_congr_left fun cell _ => cell.without_mark_source
  have cleaned := clean_cells_joined nonempty (List.forall_mem_map.mpr fun cell _ => cell.source_unbarred)
    (List.forall_mem_map.mpr fun cell _ => cell.source_apart (by decide) cell.whole)
  rwa [texts, spaced_of_visible (List.forall_mem_map.mpr fun cell _ => cell.nonempty)] at cleaned

theorem data_row : dataRow row.source = row.cleaned := by
  have found : cells? "|".toList row.source = some (row.inner, none) := cells_ended "|".toList row.inner
  rw [dataRow, found]
  simp only [row.clean_cells, Option.toList_none]
  rfl

theorem header_last : (row.inner ++ "|h".toList).getLast? = some 'h' := by
  rw [List.getLast?_append_of_ne_nil _ (by decide)]
  rfl

theorem header_source_last : row.headerSource.getLast? = some 'h' := by
  rw [headerSource, List.getLast?_cons, row.header_last]
  rfl

theorem header_unclosed : before? "|".toList (row.inner ++ "|h".toList) = none :=
  before_eq_none_of_not_suffix (not_suffix_of_last rfl row.header_last (by decide))

/-- A header row is no data row. -/
theorem data_row_header : dataRow row.headerSource = row.headerSource := by
  have visible : isBlank 'h' = false := by decide
  have none : cells? "|".toList row.headerSource = none := by
    rw [cells?, headerSource, show after? "|".toList ('|' :: (row.inner ++ "|h".toList)) =
      some (row.inner ++ "|h".toList) from after_append ['|'] _, Option.bind_some, beforeTail?,
      row.header_unclosed, row.header_last]
    simp [visible]
  rw [dataRow, none]

/-- The two rows that a header row becomes. -/
theorem header_rows (rest : List Line) : headerRows false (row.headerSource :: rest) =
    [] :: row.cleaned :: alignmentRow row.cells.length :: headerRows true rest := by
  have found : cells? "|h".toList row.headerSource = some (row.inner, none) :=
    cells_ended "|h".toList row.inner
  have count : (pieces '|' row.inner).length = row.cells.length := by
    rw [inner, pieces_joined (by simpa using row.nonempty)
      (List.forall_mem_map.mpr fun cell _ => cell.source_unbarred), List.length_map]
  rw [headerRows, Bool.false_and, if_neg (by decide), found]
  simp only [row.clean_cells, count, Option.isNone_none]
  rfl

theorem inner_apart {c : Char} (bar : c ≠ '|') (tilde : c ≠ '~') (absent : ∀ cell : MarkedCell, c ∉ cell.text) :
    c ∉ row.inner :=
  joined_apart bar fun cell => cell.source_apart tilde (absent cell)

theorem source_closed : Closed row.source := by
  have inside := row.inner_apart (by decide) (by decide) MarkedCell.whole
  exact ⟨by simp [source, inside], row.inner, rfl⟩

theorem cleaned_closed : Closed row.cleaned := by
  have inside : '\n' ∉ joined '|' (row.cells.map MarkedCell.text) :=
    joined_apart (by decide) MarkedCell.whole
  exact ⟨by simp [cleaned, inside], _, rfl⟩

theorem cleaned_lacks : Lacks true mark row.cleaned := by
  have inside : Lacks true mark (joined '|' (row.cells.map MarkedCell.text)) :=
    joined_lacks (List.forall_mem_map.mpr fun cell _ => cell.unmarked)
  exact (Lacks.cons_iff .opening (by decide)).mpr
    ((Lacks.between_iff .opening (by decide)).mpr ⟨inside, .nil .opening⟩)

end MarkedRow

end Wikidown
