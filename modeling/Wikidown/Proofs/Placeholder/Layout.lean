import Wikidown.Layout
import Wikidown.Proofs.Placeholder.OrderedList
import Wikidown.Proofs.Placeholder.Table

/-!
# Placeholders under the layout

Every rule of the layout keeps the placeholders of a document in their order. Only the colours in a
table may take one away.
-/

namespace Wikidown.Layout

set_option autoImplicit false

variable {promote : Bool} {word : Text} {content : List Line} {keys : List (Kind × Nat)}

section Returns

/-- A line without the carriage return at its front. -/
def withoutReturn : Line → Line
  | [] => []
  | c :: line => if c = '\r' then line else c :: line

/-- The rule for a line feed before a carriage return takes the return at the front of each line but
the first. -/
theorem returns_unlines (line : Line) (more : List Line)
    (whole : ∀ other ∈ line :: more, '\n' ∉ other) :
    (Substitution.literal "\n\r".toList "\n".toList).apply (unlines (line :: more)) =
      unlines (line :: more.map withoutReturn) := by
  have starts : (Substitution.literal "\n\r".toList "\n".toList).StartsWith '\n' :=
    (Substitution.literal_opens _ _ _).starts_with rfl
  induction more generalizing line with
  | nil => exact Substitution.apply_of_absent starts (whole line (by simp))
  | cons next more ih =>
      have wholeMore : ∀ other ∈ more, '\n' ∉ other := fun other member =>
        whole other (by simp [member])
      have wholeNext : '\n' ∉ next := whole next (by simp)
      rw [unlines_cons_cons, Substitution.apply_append_of_absent starts (whole line (by simp)),
        List.map_cons, unlines_cons_cons]
      refine congrArg (line ++ ·) ?_
      cases next with
      | nil =>
          have below := ih [] (by simpa using wholeMore)
          have other : ¬ "\n\r".toList <+: '\n' :: unlines ([] :: more) := by
            cases more <;> simp [unlines, joined, List.cons_prefix_cons]
          rw [Substitution.literal_apply_cons _ other, below]
          rfl
      | cons c next =>
          rw [List.mem_cons, not_or] at wholeNext
          rw [unlines_cons_char]
          by_cases same : c = '\r'
          · have below := ih next (by simpa [wholeNext.2] using wholeMore)
            subst same
            rw [withoutReturn, if_pos rfl, ← below]
            exact Substitution.literal_apply_found "\n\r".toList "\n".toList _ (by decide)
          · have below := ih (c :: next) (by simpa [wholeNext] using wholeMore)
            have other : ¬ "\n\r".toList <+: '\n' :: c :: unlines (next :: more) := by
              simp [List.cons_prefix_cons, Ne.symm same]
            rw [Substitution.literal_apply_cons _ other, ← unlines_cons_char, below, withoutReturn,
              if_neg same]

end Returns

theorem heading_lacks {line : Line} (traced : Traced word) (lacks : Lacks promote word line) :
    ∀ shown ∈ heading line, Lacks promote word shown := by
  intro shown member
  unfold heading at member
  split at member
  · rw [List.mem_singleton.mp member]
    exact lacks
  · have level : ∀ depth, Lacks promote word (List.replicate depth '#') := by
      intro depth
      refine .of_disjoint traced fun c member => ?_
      rw [List.eq_of_mem_replicate member]
      decide
    have title : Lacks promote word (Inline.convert (trim (line.dropWhile (· == '*')))) := by
      refine Inline.convert_lacks traced (lacks.of_inside traced ?_)
      exact (trim_inside _).trans (List.dropWhile_suffix _).isInfix
    simp only [List.mem_cons, List.not_mem_nil, or_false] at member
    rcases member with rfl | rfl | rfl
    · exact .nil traced
    · exact (Lacks.between_iff traced (by decide)).mpr ⟨level _, title⟩
    · exact .nil traced

theorem heading_of_token (kind : Kind) (index : Nat) :
    heading (token kind index) = [token kind index] := by
  have unmarked : (token kind index).takeWhile (· == '*') = [] := by cases kind <;> rfl
  rw [heading, unmarked]

theorem unordered_item_lacks {line : Line} (traced : Traced word)
    (lacks : Lacks promote word line) : Lacks promote word (unorderedItem line) := by
  unfold unorderedItem
  dsimp only
  split
  · exact lacks
  · have content : Lacks promote word (trim (Inline.convert (line.dropWhile (· == '-')))) := by
      refine Lacks.of_inside traced (Inline.convert_lacks traced ?_) (trim_inside _)
      exact lacks.of_inside traced (List.dropWhile_suffix _).isInfix
    rw [List.append_assoc]
    generalize 4 * _ = depth
    induction depth with
    | zero =>
        change Lacks promote word (['-'] ++ ' ' :: trim (Inline.convert _))
        have dash : Lacks promote word ['-'] :=
          .of_disjoint traced (List.all_iff_forall_prop.mp (by decide))
        exact (Lacks.between_iff traced (by decide)).mpr ⟨dash, content⟩
    | succ depth ih => exact (Lacks.cons_iff traced (by decide)).mpr ih

theorem unordered_item_of_token (front : Text) (known : front ∈ itemized) (kind : Kind)
    (index : Nat) : unorderedItem (front ++ token kind index) = front ++ token kind index := by
  have unmarked : (front ++ token kind index).takeWhile (· == '-') = [] := by
    rcases List.mem_pair.mp known with rfl | rfl
    · cases kind <;> rfl
    · rfl
  rw [unorderedItem, unmarked]
  rfl

theorem some_then_semicolon_append {test : Char → Bool} {c : Char} (other : test c = false)
    (semicolon : c ∉ ";".toList) (text more : Text) :
    someThenSemicolon test (text ++ c :: more) = someThenSemicolon test text := by
  have closed : startsWith ";".toList (text.dropWhile test ++ c :: more) =
      startsWith ";".toList (text.dropWhile test) := by
    rw [startsWith, after_append_tail semicolon, Option.isSome_map, startsWith]
  rw [someThenSemicolon, take_while_append_stop other, drop_while_append_stop other, closed,
    someThenSemicolon]

/-- A character reference ends before a character that stands in none. -/
theorem reference_tail_append {c : Char} (alpha : c.isAlpha = false) (digit : isDigit c = false)
    (hexDigit : isHexDigit c = false) (other : c ∉ "#;".toList) (text more : Text) :
    isReferenceTail (text ++ c :: more) = isReferenceTail text := by
  have number : c ≠ '#' := ne_of_mem_of_not_mem (by decide) other |>.symm
  have semicolon : c ∉ ";".toList := fun member => other (List.mem_cons_of_mem _ member)
  unfold isReferenceTail
  rw [some_then_semicolon_append alpha semicolon]
  refine congrArg (someThenSemicolon Char.isAlpha text || ·) ?_
  match text with
  | [] => simp [number]
  | [d] =>
      by_cases hash : d = '#'
      · subst hash
        have decimal : someThenSemicolon isDigit (c :: more) = false :=
          some_then_semicolon_append digit semicolon [] more
        have letter : ∀ d : Char, d.isAlpha = true → (c == d) = false := by
          rintro d known
          refine beq_false_of_ne fun same => ?_
          rw [same, known] at alpha
          exact absurd alpha (by decide)
        simp [decimal, letter 'x' (by decide), letter 'X' (by decide)]
      · simp [hash]
  | d :: e :: rest =>
      by_cases hash : d = '#'
      · subst hash
        have decimal := @some_then_semicolon_append isDigit c digit semicolon (e :: rest) more
        have hexadecimal := @some_then_semicolon_append isHexDigit c hexDigit semicolon rest more
        simp only [List.cons_append] at decimal ⊢
        rw [decimal, hexadecimal]
      · simp [hash]

theorem ampersand_opens : ampersandRule.Opens "&".toList fun text =>
    if isReferenceTail text then none else some ("&amp;".toList, text) :=
  fun _ => rfl

theorem ampersand_step {text written rest : Text} (found : ampersandRule.step? text = some (written, rest)) :
    text = "&".toList ++ rest ∧ written = "&amp;".toList := by
  obtain ⟨tail, shape, guarded⟩ := Option.bind_eq_some_iff.mp ((ampersand_opens text).symm.trans found)
  split at guarded
  · simp at guarded
  · obtain ⟨rfl, rfl⟩ := Prod.mk.inj (Option.some.inj guarded)
    exact ⟨after_eq_some.mp shape, rfl⟩

theorem ampersand_stops {c : Char} (alpha : c.isAlpha = false) (digit : isDigit c = false)
    (hexDigit : isHexDigit c = false) (other : c ∉ "&#;".toList) (more : Text) :
    ampersandRule.StopsAt (c :: more) := by
  have outside : c ∉ "#;".toList := fun member => other (List.mem_cons_of_mem _ member)
  refine ampersand_opens.stops (fun same => other ?_) fun text => ?_
  · exact List.mem_singleton.mp same ▸ List.mem_cons_self
  · rw [reference_tail_append alpha digit hexDigit outside]
    split <;> rfl

theorem ampersand_in_line : ampersandRule.InLine '&' where
  starts := ampersand_opens.starts_with rfl
  strange := by decide
  visible := by decide
  stops more := ampersand_stops (by decide) (by decide) (by decide) (by decide) more
  keeps := by
    intro promote word traced text written rest found lacks
    obtain ⟨rfl, rfl⟩ := ampersand_step found
    exact ⟨.of_separates traced (by decide) (by decide), lacks.right traced⟩

theorem line_break_in_line : lineBreakRule.InLine '&' :=
  Substitution.literal_in_line rfl (by decide) (by decide) (by decide) (by decide)

/-- The text before its cells are converted. -/
def aboveCells (promoteFirstRow : Bool) (text : Text) : Text :=
  ((rules promoteFirstRow).take 7).foldl (fun current rule => rule current) text

/-- The text after its cells are converted. -/
def belowCells (promoteFirstRow : Bool) (text : Text) : Text :=
  ((rules promoteFirstRow).drop 8).foldl (fun current rule => rule current) text

/-- No colour in a table takes a placeholder in. -/
def TablesSparePlaceholders (promoteFirstRow : Bool) (text : Text) : Prop :=
  ∀ body, .block body ∈ Table.cellShape.segments (lines (aboveCells promoteFirstRow text)) →
    Inline.SparesPlaceholders (unlines (Table.cellShape.blockLines body))

theorem convert_stages (promoteFirstRow : Bool) (text : Text) :
    convert promoteFirstRow text = belowCells promoteFirstRow
      (Table.cellShape.replaceBlocks Table.convertCells (aboveCells promoteFirstRow text)) := by
  have cut : rules promoteFirstRow = (rules promoteFirstRow).take 7 ++
      Table.cellShape.replaceBlocks Table.convertCells :: (rules promoteFirstRow).drop 8 := rfl
  have folded := congrArg (List.foldl (fun current rule => rule current) text) cut
  rw [List.foldl_append, List.foldl_cons] at folded
  exact folded

section Carries

variable {text : Text}

theorem bare_whole : ∀ front ∈ bare, '\n' ∉ front := by decide

theorem itemized_whole : ∀ front ∈ itemized, '\n' ∉ front := by decide

theorem returns_carry (traced : Traced word)
    (carries : Carries promote word bare (lines text) keys) :
    Carries promote word bare
      (lines ((Substitution.literal "\n\r".toList "\n".toList).apply text)) keys := by
  obtain ⟨line, more, shape⟩ := List.exists_cons_of_ne_nil (lines_ne_nil text)
  have whole : ∀ other ∈ line :: more, '\n' ∉ other := by
    rw [← shape]
    exact fun other member => no_newline_of_mem_lines member
  rw [← unlines_lines text, shape, returns_unlines line more whole]
  rw [shape] at carries
  refine Carries.lines_unlines traced bare_whole ?_
  have below : ∀ {later : List (Kind × Nat)}, Carries promote word bare more later →
      Carries promote word bare (more.map withoutReturn) later := by
    intro later rest
    refine rest.map (fun line lacks => ?_) fun front known kind index => ?_
    · cases line with
      | nil => exact lacks
      | cons c line =>
          rw [withoutReturn]
          split
          · exact Lacks.right traced (by simpa using lacks : Lacks promote word ([c] ++ line))
          · exact lacks
    · rw [List.mem_singleton.mp known]
      cases kind <;> rfl
  rcases Carries.cons_iff.mp carries with
    ⟨lacks, rest⟩ | ⟨front, known, kind, index, later, rfl, rfl, rest⟩
  · exact .quiet lacks (below rest)
  · exact .token known kind index (below rest)

theorem headings_carry (traced : Traced word)
    (carries : Carries promote word bare (lines text) keys) :
    Carries promote word bare (lines (replaceLines heading text)) keys := by
  refine Carries.lines_unlines traced bare_whole ?_
  refine carries.flatMap (fun line lacks => heading_lacks traced lacks) ?_
  intro front known kind index
  rw [List.mem_singleton.mp known]
  exact heading_of_token kind index

theorem separate_carries (traced : Traced word) (shape : BlockShape)
    (wholeOpening : '\n' ∉ shape.opening) (carries : Carries promote word bare (lines text) keys) :
    Carries promote word bare
      (lines (shape.replaceBlocks (fun body => shape.blockLines body ++ [[]]) text)) keys := by
  refine BlockShape.replace_blocks_carries_all traced wholeOpening bare_whole ?_ carries
  intro body kept here
  rw [← List.append_nil kept]
  exact here.append (.quiet (.nil traced) .nil)

theorem align_carries (traced : Traced word)
    (carries : Carries promote word bare (lines text) keys) :
    Carries promote word bare (lines (Table.shape.replaceBlocks Table.align text)) keys := by
  refine BlockShape.replace_blocks_carries_all traced (by decide) bare_whole ?_ carries
  intro body kept here
  unfold Table.align
  split
  · exact here
  · exact .quiet (Table.alignment_row_lacks traced _) here

theorem surround_carries (traced : Traced word)
    (carries : Carries promote word bare (lines text) keys) :
    Carries promote word bare (lines (Table.shape.replaceBlocks Table.surround text)) keys := by
  refine BlockShape.replace_blocks_carries_all traced (by decide) bare_whole ?_ carries
  intro body kept here
  have empty : Carries promote word bare [[]] [] := .quiet (.nil traced) .nil
  have around := (empty.append here).append empty
  rw [List.append_nil, List.nil_append] at around
  exact around

theorem cells_carry (traced : Traced word)
    (carries : Carries promote word bare (lines text) keys)
    (allowed : word = mark ∨ ∀ body, .block body ∈ Table.cellShape.segments (lines text) →
      Inline.SparesPlaceholders (unlines (Table.cellShape.blockLines body))) :
    CarriesSome promote word bare
      (∀ body, .block body ∈ Table.cellShape.segments (lines text) →
        Inline.SparesPlaceholders (unlines (Table.cellShape.blockLines body)))
      (lines (Table.cellShape.replaceBlocks Table.convertCells text)) keys := by
  refine BlockShape.replace_blocks_carries _ traced (by decide) (fun front known => known)
    bare_whole (fun body member kept here => ?_) carries
  exact Table.convert_cells_carries traced body here
    (allowed.imp_right fun spares => spares body member)

theorem items_carry (traced : Traced word)
    (carries : Carries promote word bare (lines text) keys) :
    Carries promote word itemized
      (lines (OrderedList.shape.replaceBlocks OrderedList.items text)) keys := by
  obtain ⟨kept, _, same, numbered⟩ :=
    BlockShape.replace_blocks_carries (fun _ => True) traced (by decide) (by decide) itemized_whole
      (fun body _ kept here => (OrderedList.items_carry traced body here).all _) carries
  rw [← same fun _ _ => trivial]
  exact numbered

/-- The rules before the cells are converted. -/
theorem above_cells_carries (traced : Traced word)
    (carries : Carries promote word bare (lines text) keys) :
    Carries promote word bare (lines (aboveCells promote text)) keys := by
  have feeds : (Substitution.literal "\r".toList "\n".toList).InLine '\r' :=
    Substitution.literal_in_line rfl (by decide) (by decide) (by decide) (by decide)
  have unified := feeds.carries traced (by decide) (returns_carry traced carries)
  have headed := headings_carry traced unified
  have aligned := align_carries traced
    (separate_carries traced Table.shape (by decide) headed)
  have rows := Carries.lines_unlines traced bare_whole (Table.data_rows_carry traced aligned)
  simp only [aboveCells, rules, List.take_succ_cons, List.take_zero, List.foldl_cons, List.foldl_nil]
  exact Carries.lines_unlines traced bare_whole (Table.header_rows_carry traced false rows)

/-- The rules after the cells are converted. -/
theorem below_cells_carries (traced : Traced word)
    (carries : Carries promote word bare (lines text) keys) :
    Carries true word itemized (lines (belowCells promote text)) keys := by
  have supplied := Carries.lines_unlines traced bare_whole
    (Table.supply_header_carries traced (surround_carries traced carries))
  have numbered := items_carry traced
    (separate_carries traced OrderedList.shape (by decide) supplied)
  have items := Carries.lines_unlines traced itemized_whole
    (numbered.map (fun line lacks => unordered_item_lacks traced lacks) unordered_item_of_token)
  have apart : ∀ front ∈ itemized, '&' ∉ front ∧ '\n' ∉ front := by decide
  simp only [belowCells, rules, List.drop_succ_cons, List.drop_zero, List.foldl_cons, List.foldl_nil]
  exact ampersand_in_line.carries traced apart (line_break_in_line.carries traced apart items)

/-- The layout keeps the placeholders of a text in their order, and all of them unless a colour in a
table takes one in. -/
theorem convert_carries (traced : Traced word)
    (carries : Carries promote word bare (lines text) keys)
    (allowed : word = mark ∨ TablesSparePlaceholders promote text) :
    CarriesSome true word itemized (TablesSparePlaceholders promote text)
      (lines (convert promote text)) keys := by
  obtain ⟨kept, part, same, converted⟩ :=
    cells_carry traced (above_cells_carries traced carries) allowed
  rw [convert_stages]
  exact ⟨kept, part, same, below_cells_carries traced converted⟩

end Carries

end Wikidown.Layout
