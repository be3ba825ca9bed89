import Wikidown.Proofs.Placeholder.Blocks
import Wikidown.Proofs.Placeholder.Colors

/-!
# Placeholders in tables

The rules of the tables write rows anew, put rows and empty lines between others, and convert all
cells of a table in one go. A placeholder inside a table stands on a line between its rows.
-/

namespace Wikidown.Layout.Table

set_option autoImplicit false

variable {promote : Bool} {word : Text} {content : List Line} {keys : List (Kind × Nat)}

theorem alignment_row_lacks (traced : Traced word) (columns : Nat) :
    Lacks promote word (alignmentRow columns) := by
  refine .of_disjoint traced fun c member => ?_
  have cells : ∀ c ∈ "|:--".toList, anchors.contains c = false :=
    List.all_iff_forall_prop.mp (by decide)
  simp only [alignmentRow, List.mem_append, List.mem_flatten, List.mem_replicate,
    List.mem_singleton] at member
  rcases member with ⟨_, ⟨_, rfl⟩, inside⟩ | rfl
  · exact cells c inside
  · decide

theorem cells_shape {closing line cells : Text} {tail : Option Char}
    (found : cells? closing line = some (cells, tail)) :
    line = '|' :: cells ++ closing ++ tail.toList := by
  obtain ⟨rest, front, ends⟩ := Option.bind_eq_some_iff.mp found
  rw [after_eq_some.mp front]
  unfold beforeTail? at ends
  split at ends
  · next closed =>
      obtain ⟨rfl, rfl⟩ := Prod.mk.inj (Option.some.inj ends)
      rw [before_eq_some.mp closed]
      simp
  · next last open_ final =>
      split at ends
      · simp only [Option.map_eq_some_iff, Prod.mk.injEq] at ends
        obtain ⟨_, closed, rfl, rfl⟩ := ends
        have shape : rest.dropLast ++ [last] = rest := by
          obtain ⟨init, rfl⟩ := List.getLast?_eq_some_iff.mp final
          simp
        rw [← shape, before_eq_some.mp closed]
        simp
      · simp at ends
  · simp at ends

theorem cells_of_token (closing : Text) (kind : Kind) (index : Nat) :
    cells? closing (token kind index) = none := by
  cases found : cells? closing (token kind index) with
  | none => rfl
  | some result =>
      have bar : '|' ∈ token kind index := by simp [cells_shape found]
      exact absurd bar (not_mem_token (by decide))

theorem pad_ends_lacks {cells : Text} (traced : Traced word)
    (lacks : Lacks promote word cells) : Lacks promote word (padEnds cells) := by
  unfold padEnds
  have started : Lacks promote word
      (if startsWith "|".toList cells then ' ' :: cells else cells) := by
    split
    · exact (Lacks.cons_iff traced (by decide)).mpr lacks
    · exact lacks
  generalize (if startsWith "|".toList cells then ' ' :: cells else cells) = row at started
  have ended : ∀ front closing, row = front ++ closing → ∀ padded : Text, padded ≠ [] →
      padded.all separates = true → Lacks promote word (front ++ padded) := by
    rintro front closing rfl padded nonempty apart
    have stands : Stands promote word padded := .of_separates traced nonempty apart
    simpa using stands front [] started.left (.nil traced)
  dsimp only
  split
  · next closed => exact ended _ _ (before_eq_some.mp closed) _ (by decide) (by decide)
  · next closed => exact ended _ _ (before_eq_some.mp closed) _ (by decide) (by decide)
  · exact started

theorem clean_cells_lacks {cells : Text} (traced : Traced word)
    (lacks : Lacks promote word cells) : Lacks promote word (cleanCells cells) := by
  have markers : (Substitution.literal "|~".toList "|".toList).Keeps :=
    Substitution.literal_keeps (by decide) (by decide)
  have gaps : (Substitution.literal "||".toList "| |".toList).Keeps :=
    Substitution.literal_keeps (by decide) (by decide)
  have unmarked := markers.apply traced [] cells lacks
  refine pad_ends_lacks traced (gaps.apply traced [] _ ?_)
  cases found : after? "~".toList ((Substitution.literal "|~".toList "|".toList).apply cells) with
  | none => exact unmarked
  | some rest =>
      rw [List.nil_append, after_eq_some.mp found] at unmarked
      exact unmarked.right traced

theorem row_lacks {cells : Text} {tail : Option Char} {closing : Text} (traced : Traced word)
    {line : Line} (found : cells? closing line = some (cells, tail))
    (lacks : Lacks promote word line) :
    Lacks promote word ('|' :: (cleanCells cells ++ '|' :: tail.toList)) ∧
      Lacks promote word ('|' :: (cleanCells cells ++ ['|'])) := by
  rw [cells_shape found] at lacks
  have bar : separates '|' = true := by decide
  have inner : Lacks promote word cells :=
    (Lacks.cons_iff traced bar).mp lacks.left.left
  have clean := clean_cells_lacks traced inner
  constructor
  · exact (Lacks.cons_iff traced bar).mpr
      ((Lacks.between_iff traced bar).mpr ⟨clean, lacks.right traced⟩)
  · exact (Lacks.cons_iff traced bar).mpr
      ((Lacks.between_iff traced bar).mpr ⟨clean, .nil traced⟩)

theorem data_rows_carry (traced : Traced word)
    (carries : Carries promote word bare content keys) :
    Carries promote word bare (content.map dataRow) keys := by
  refine carries.map (fun line lacks => ?_) fun front known kind index => ?_
  · unfold dataRow
    split
    · next found => exact (row_lacks traced found lacks).1
    · exact lacks
  · rw [List.mem_singleton.mp known, List.nil_append, dataRow, cells_of_token]

theorem header_rows_carry (traced : Traced word) (afterHeader : Bool)
    (carries : Carries promote word bare content keys) :
    Carries promote word bare (headerRows afterHeader content) keys := by
  induction carries generalizing afterHeader with
  | nil =>
      rw [headerRows]
      exact .nil
  | @quiet line content keys lacks rest ih =>
      rw [headerRows]
      split
      · exact ih false
      · split
        · exact .quiet lacks (ih false)
        · next found =>
            exact .quiet (.nil traced) (.quiet (row_lacks traced found lacks).2
              (.quiet (alignment_row_lacks traced _) (ih _)))
  | @token front content keys known kind index rest ih =>
      have filled : (token kind index).isEmpty = false := by simp [token_ne_nil]
      rw [List.mem_singleton.mp known, List.nil_append, headerRows, filled, Bool.and_false,
        if_neg (by decide), cells_of_token]
      exact .alone kind index (ih false)

/-- An alignment row is shown in an empty header without its colons and the dashes behind them; in
the rows that are promoted all characters stay. -/
theorem empty_header_lacks {line : Line} (lacks : Lacks false word line) :
    Lacks true word (emptyHeader line) := lacks

theorem supply_header_head (line : Line) (rest : List Line) :
    ∃ more, supplyHeader promote (line :: rest) = line :: more := by
  rw [supplyHeader.eq_def]
  split
  · next alignment row rest shape =>
      obtain ⟨rfl, rfl⟩ := List.cons.inj shape
      split
      · split <;> exact ⟨_, rfl⟩
      · exact ⟨_, rfl⟩
  · next shape =>
      obtain ⟨rfl, rfl⟩ := List.cons.inj shape
      exact ⟨_, rfl⟩
  · next shape => exact absurd shape (by simp)

theorem supply_header_carries (traced : Traced word)
    (carries : Carries promote word bare content keys) :
    Carries true word bare (supplyHeader promote content) keys := by
  have empty : Lacks true word [] := .nil traced
  have below : ∀ {alignment : Line} {rest : List Line} {keys : List (Kind × Nat)},
      startsWith "|:".toList alignment = true →
        Carries promote word bare ([] :: alignment :: rest) keys →
          Lacks promote word alignment ∧ Carries promote word bare rest keys := by
    intro alignment rest keys opens carries
    obtain ⟨tail, found⟩ := Option.isSome_iff_exists.mp opens
    exact carries.of_empty_cons.quiet_of_strange (c := '|') (by decide)
      (by simp [after_eq_some.mp found])
  induction content using supplyHeader.induct promote generalizing keys with
  | case1 alignment row rest opens promoted ih =>
      obtain ⟨lacks, later⟩ := below opens carries
      obtain ⟨more, shape⟩ := @supply_header_head promote row rest
      have moved := ih later
      rw [shape] at moved
      rw [supplyHeader, if_pos opens, if_pos promoted, shape, List.tail_cons]
      rcases Carries.cons_iff.mp moved with
        ⟨rowLacks, rest⟩ | ⟨front, known, kind, index, later, rfl, rfl, rest⟩
      · exact .quiet empty (.quiet rowLacks (.quiet (lacks.promoted traced) rest))
      · exact .quiet empty (.token known kind index (.quiet (lacks.promoted traced) rest))
  | case2 alignment row rest opens unpromoted ih =>
      obtain ⟨lacks, later⟩ := below opens carries
      have shown : Lacks true word (emptyHeader alignment) := by
        rw [Bool.not_eq_true] at unpromoted
        exact empty_header_lacks (unpromoted ▸ lacks)
      rw [supplyHeader, if_pos opens, if_neg unpromoted]
      exact .quiet empty (.quiet shown (.quiet (lacks.promoted traced) (ih later)))
  | case3 alignment row rest closed ih =>
      rw [supplyHeader, if_neg closed]
      exact .quiet empty (ih carries.of_empty_cons)
  | case4 line rest other ih =>
      rw [supplyHeader.eq_2 promote line rest other]
      rcases Carries.cons_iff.mp carries with
        ⟨lacks, rest⟩ | ⟨front, known, kind, index, later, rfl, rfl, rest⟩
      · exact .quiet (lacks.promoted traced) (ih rest)
      · exact .token known kind index (ih rest)
  | case5 =>
      rw [supplyHeader]
      exact carries.promoted traced

theorem after_any_case_append_tail {opening tail : Text} {c : Char} (apart : c.toLower ∉ opening)
    (text : Text) :
    afterAnyCase? opening (text ++ c :: tail) = (afterAnyCase? opening text).map (· ++ c :: tail) := by
  induction opening generalizing text with
  | nil => rfl
  | cons expected opening ih =>
      simp only [List.mem_cons, not_or] at apart
      cases text with
      | nil => simp [afterAnyCase?, Ne.symm apart.1]
      | cons d text =>
          simp only [List.cons_append, afterAnyCase?]
          split
          · exact ih apart.2 text
          · rfl

/-- Where the inline notation ends: before the last bar of a table, and before a line feed with no
opening brace below it, which a coloured span could go on with. -/
def Ends (c : Char) (more : Text) : Prop :=
  c = '|' ∧ more = [] ∨ c = '\n' ∧ (trimStart more).head? ≠ some '\x7b'

section Ends

variable {c : Char} {more : Text}

theorem Ends.line (ends : Ends c more) : c = '\n' ∨ more = [] := ends.symm.imp And.left And.right

theorem Ends.apart (ends : Ends c more) {text : Text} (bar : '|' ∉ text) (feed : '\n' ∉ text) :
    c ∉ text := by
  rcases ends with ⟨rfl, _⟩ | ⟨rfl, _⟩
  · exact bar
  · exact feed

theorem color_body_append (ends : Ends c more) (text : Text) :
    Inline.colorBody? (text ++ c :: more) =
      (Inline.colorBody? text).map fun (inner, rest) => (inner, rest ++ c :: more) := by
  rw [Inline.colorBody?, Inline.colorBody?]
  by_cases visible : ∃ d ∈ text, isBlank d = false
  · rw [trim_start_append visible, after_append_tail (ends.apart (by decide) (by decide))]
    cases after? "\x7b".toList (trimStart text) with
    | none => rfl
    | some tail =>
        exact up_to_after_append (by decide) (ends.apart (by decide) (by decide)) ends.line tail
  · have blank : ∀ d ∈ text, isBlank d = true := by simpa using visible
    have closed : after? "\x7b".toList (trimStart (c :: more)) = none := by
      refine after_eq_none_of_not_prefix ?_
      rcases ends with ⟨rfl, rfl⟩ | ⟨rfl, other⟩
      · decide
      · rw [trim_start_cons_blank (by decide)]
        rintro ⟨rest, shape⟩
        exact other (by rw [← shape]; rfl)
    rw [trim_start_append_of_blank blank, trim_start_of_blank blank, closed]
    rfl

theorem color_rule_stops (ends : Ends c more) : Inline.colorRule.StopsAt (c :: more) := by
  intro text
  have lower : c.toLower ∉ "&color(".toList := by
    rcases ends with ⟨rfl, _⟩ | ⟨rfl, _⟩ <;> decide
  have next : ∀ tail : Text, (after? ")".toList (tail ++ c :: more)).bind Inline.colorBody? =
      ((after? ")".toList tail).bind Inline.colorBody?).map
        fun (inner, rest) => (inner, rest ++ c :: more) := by
    intro tail
    rw [after_append_tail (ends.apart (by decide) (by decide))]
    cases after? ")".toList tail with
    | none => rfl
    | some rest => exact color_body_append ends rest
  have span : ∀ tail : Text, Inline.colorSpan? (tail ++ c :: more) =
      (Inline.colorSpan? tail).map fun found => (found.1, found.2.1, found.2.2 ++ c :: more) := by
    intro tail
    have nothing : upTo? (fun tail => (after? ")".toList tail).bind Inline.colorBody?) (c :: more) =
        none := by
      refine up_to_eq_none ?_ rfl ends.line
      rw [after_cons_eq_none (by decide) (ends.apart (by decide) (by decide))]
      rfl
    exact up_to_append (fun (inner, rest) => (inner, rest ++ c :: more)) next nothing tail
  change Inline.colorStep? (text ++ c :: more) = (Inline.colorStep? text).map _
  rw [Inline.colorStep?, Inline.colorStep?, after_any_case_append_tail lower]
  cases afterAnyCase? "&color(".toList text with
  | none => rfl
  | some tail =>
      rw [Option.map_some, Option.bind_some, Option.bind_some, span]
      cases Inline.colorSpan? tail <;> rfl

/-- No rule of the inline notation looks beyond the place where it ends. -/
theorem rules_stop (ends : Ends c more) : ∀ rule ∈ Inline.rules, rule.StopsAt (c :: more) := by
  have apart := @Ends.apart c more ends
  intro rule member
  simp only [Inline.rules, List.mem_cons, List.not_mem_nil, or_false] at member
  rcases member with rfl | rfl | rfl | rfl | rfl | rfl | rfl | rfl | rfl | rfl | rfl
  · exact Substitution.enclosed_stops (by decide) (apart (by decide) (by decide)) ends.line
  · exact Substitution.literal_stops (apart (by decide) (by decide))
  · exact Substitution.enclosed_stops (by decide) (apart (by decide) (by decide)) ends.line
  · exact Substitution.enclosed_stops (by decide) (apart (by decide) (by decide)) ends.line
  · exact Substitution.enclosed_stops (by decide) (apart (by decide) (by decide)) ends.line
  · refine Substitution.pair_stops (by decide) (apart (by decide) (by decide)) ?_ ends.line
    rcases ends with ⟨rfl, _⟩ | ⟨rfl, _⟩ <;> decide
  · exact color_rule_stops ends
  · exact Substitution.enclosed_stops (by decide) (apart (by decide) (by decide)) ends.line
  · exact Substitution.enclosed_stops (by decide) (apart (by decide) (by decide)) ends.line
  · refine Substitution.pair_stops (by decide) (apart (by decide) (by decide)) ?_ ends.line
    rcases ends with ⟨rfl, _⟩ | ⟨rfl, _⟩ <;> decide
  · exact Substitution.literal_stops (apart (by decide) (by decide))

end Ends

/-- The characters that the inline notation begins with. -/
def openings : Text := "<\x27%[&# ".toList

theorem rules_start : ∀ rule ∈ Inline.rules, ∃ c ∈ openings, rule.StartsWith c := by
  have known : ∀ k, Inline.start k ∈ openings := by decide
  intro rule member
  rw [Inline.rules_eq, List.mem_append, List.mem_ofFn, List.mem_singleton] at member
  rcases member with ⟨k, rfl⟩ | rfl
  · exact ⟨Inline.start k, known k, Inline.rule_starts k⟩
  · exact ⟨' ', by decide, (Substitution.literal_opens _ _ _).starts_with rfl⟩

/-- The inline notation leaves what none of its rules begins with. -/
theorem rules_keep {front : Text} (other : ∀ c ∈ front, c ∉ openings) (text : Text) :
    ∀ rule ∈ Inline.rules, rule.apply (front ++ text) = front ++ rule.apply text := by
  intro rule member
  obtain ⟨opening, known, starts⟩ := rules_start rule member
  exact Substitution.apply_append_of_absent starts (fun inside => other opening inside known) text

theorem convert_keep {front : Text} (other : ∀ c ∈ front, c ∉ openings) (text : Text) :
    Inline.convert (front ++ text) = front ++ Inline.convert text :=
  @Substitution.apply_all_around _ (front ++ ·) (fun rule member text => rules_keep other text rule member) text

/-- The cells of a table are converted as the table is with its first and its last bar. -/
theorem convert_bars (text : Text) :
    Inline.convert ('|' :: text ++ ['|']) = '|' :: Inline.convert text ++ ['|'] := by
  have keeps := @rules_keep ['|'] (List.forall_mem_singleton.mpr (by decide))
  have stops := @rules_stop '|' [] (.inl ⟨rfl, rfl⟩)
  refine @Substitution.apply_all_around _ (fun text => '|' :: text ++ ['|']) (fun rule member text => ?_) text
  have last : rule.apply ['|'] = ['|'] := by
    have alone := keeps [] rule member
    rwa [List.append_nil, Substitution.apply_nil] at alone
  have front := keeps (text ++ ['|']) rule member
  rwa [Substitution.apply_append (stops rule member), last] at front

/-- What stands above a row is converted on its own. -/
theorem convert_above_bar (count : Nat) (front back : Text) :
    Inline.convert (front ++ (List.replicate (count + 1) '\n' ++ '|' :: back)) =
      Inline.convert front ++ (List.replicate (count + 1) '\n' ++ '|' :: Inline.convert back) := by
  have keeps := @rules_keep (List.replicate (count + 1) '\n' ++ ['|']) <| by
    intro c member
    rcases List.mem_append.mp member with feed | bar
    · rw [List.eq_of_mem_replicate feed]
      decide
    · rw [List.mem_singleton.mp bar]
      decide
  have feeds : ∀ c ∈ List.replicate count '\n', isBlank c = true := by
    intro c member
    rw [List.eq_of_mem_replicate member]
    decide
  have stops (back : Text) := @rules_stop '\n' (List.replicate count '\n' ++ '|' :: back) <| by
    refine .inr ⟨rfl, ?_⟩
    rw [trim_start_append_of_blank feeds, trim_start_cons_visible (by decide)]
    simp
  refine @Substitution.apply_all_apart _
    (fun front back => front ++ (List.replicate (count + 1) '\n' ++ '|' :: back))
    (fun rule member front back => ?_) front back
  have behind := keeps back rule member
  rw [List.append_assoc, List.append_assoc] at behind
  refine (Substitution.apply_append (stops back rule member) front).trans ?_
  exact congrArg (rule.apply front ++ ·) behind

/-- The conversion of the cells of a table keeps the placeholders that no colour takes. -/
theorem convert_cells_carries (traced : Traced word) (body : List Line)
    (carries : Carries promote word bare (cellShape.blockLines body) keys)
    (allowed : word = mark ∨ Inline.SparesPlaceholders (unlines (cellShape.blockLines body))) :
    CarriesSome promote word bare (Inline.SparesPlaceholders (unlines (cellShape.blockLines body)))
      (convertCells body) keys := by
  have text : unlines (cellShape.blockLines body) = '|' :: unlines body ++ ['|'] := unlines_lines _
  rw [text] at allowed ⊢
  have whole : Carries promote word bare (lines ('|' :: unlines body ++ ['|'])) keys := carries
  obtain ⟨kept, part, same, converted⟩ := Inline.convert_carries traced whole allowed
  rw [convert_bars] at converted
  have rows : cellShape.blockLines (lines (Inline.convert (unlines body))) =
      lines ('|' :: Inline.convert (unlines body) ++ ['|']) := by
    rw [BlockShape.blockLines, unlines_lines]
    rfl
  refine ⟨kept, part, same, ?_⟩
  rw [convertCells, rows, ← List.append_nil kept]
  exact converted.append (.quiet (.nil traced) .nil)

end Wikidown.Layout.Table
