import Wikidown.Proofs.Composition.Arranged
import Wikidown.Proofs.Layout.Counters

/-!
# Lines of ordered lists

The rule that numbers the items of a list treats every line of it alike, whatever the line begins with:
one space is put behind its plus signs, its level is read off the characters before its first space, and
a number takes the place of its first plus sign with a space behind it.
-/

namespace Wikidown.Layout.OrderedList

set_option autoImplicit false

/-- Lines without the blanks at the end of the last one. -/
def endTrimmed : List Line → List Line
  | [] => []
  | [line] => [trimEnd line]
  | line :: next :: more => line :: endTrimmed (next :: more)

/-- Something visible stands behind the plus signs of a line. -/
structure Filled (line : Line) : Prop where
  whole : '\n' ∉ line
  visible : ∃ c ∈ line.dropWhile (· == '+'), isBlank c = false

/-- A line of a list with a number. -/
def numberedLine (line : Line) (number : Nat) : Line :=
  indentMarkers (Inline.convert (replaceFirst "+ ".toList (decimalText number ++ ". ".toList) line))

/-- The numbers of lines that follow each other in a list. -/
def numbers (content : List Line) : List Nat :=
  (Counters.run {} (content.map fun line => (level line : Int))).map Prod.fst

variable {line : Line} {content : List Line}

/-! ## Trimmed lists -/

theorem Filled.seen (filled : Filled line) : ∃ c ∈ line, isBlank c = false := by
  obtain ⟨c, member, visible⟩ := filled.visible
  exact ⟨c, (List.dropWhile_suffix _).subset member, visible⟩

theorem end_trimmed_ne_nil (nonempty : content ≠ []) : endTrimmed content ≠ [] := by
  cases content with
  | nil => contradiction
  | cons line more => cases more <;> exact List.cons_ne_nil _ _

/-- Of the lines of a list at most one is trimmed. -/
theorem end_trimmed_found (content : List Line) :
    List.Forall₂ (fun source line => line = source ∨ line = trimEnd source) content (endTrimmed content) := by
  induction content using endTrimmed.induct with
  | case1 => exact .nil
  | case2 only => exact .cons (.inr rfl) .nil
  | case3 first next more ih => exact .cons (.inl rfl) ih

theorem end_trimmed_whole (whole : ∀ line ∈ content, '\n' ∉ line) :
    ∀ line ∈ endTrimmed content, '\n' ∉ line := by
  intro line member
  obtain ⟨source, inside, rfl | rfl⟩ := Masked.exists_of_forall₂_mem (end_trimmed_found content).flip member
  · exact whole _ inside
  · exact fun feed => whole _ inside ((trim_end_begins source).subset feed)

theorem end_trimmed_map {change : Line → Line}
    (stays : ∀ line ∈ content, change (trimEnd line) = trimEnd (change line)) :
    (endTrimmed content).map change = endTrimmed (content.map change) := by
  induction content using endTrimmed.induct with
  | case1 => rfl
  | case2 only => exact congrArg (fun line => [line]) (stays only (by simp))
  | case3 first next more ih =>
      have behind := ih fun line member => stays line (List.mem_cons_of_mem _ member)
      exact congrArg (change first :: ·) behind

/-- Where every line ends with its text, the last one is not trimmed. -/
theorem end_trimmed_of_ended (ended : ∀ line ∈ content, trimEnd line = line) :
    endTrimmed content = content := by
  induction content using endTrimmed.induct with
  | case1 => rfl
  | case2 only => rw [endTrimmed, ended only (by simp)]
  | case3 first next more ih =>
      rw [endTrimmed, ih fun line member => ended line (List.mem_cons_of_mem _ member)]

/-- Blanks at the end of lines with something visible in each are those of the last line. -/
theorem trim_end_unlines (seen : ∀ line ∈ content, ∃ c ∈ line, isBlank c = false) :
    trimEnd (unlines content) = unlines (endTrimmed content) := by
  induction content using endTrimmed.induct with
  | case1 => rfl
  | case2 only => rfl
  | case3 first next more ih =>
      rw [List.forall_mem_cons] at seen
      obtain ⟨c, member, visible⟩ := seen.2 next (by simp)
      have below : ∃ c ∈ unlines (next :: more), isBlank c = false :=
        ⟨c, mem_joined_of_mem (by simp) member, visible⟩
      have split := trim_end_append (first ++ ['\n']) below
      rw [ih seen.2, List.append_assoc, List.append_assoc] at split
      exact split.trans (unlines_cons (end_trimmed_ne_nil (List.cons_ne_nil next more))).symm

theorem trim_start_unlines {more : List Line} (seen : ∃ c ∈ line, isBlank c = false) :
    trimStart (unlines (line :: more)) = unlines (trimStart line :: more) := by
  cases more with
  | nil => rfl
  | cons next more => exact trim_start_append seen _

/-! ## Spaces behind the markers -/

theorem exists_markers (line : Line) :
    ∃ count text, line = List.replicate count '+' ++ text ∧ text.head? ≠ some '+' := by
  refine ⟨(line.takeWhile (· == '+')).length, line.dropWhile (· == '+'), ?_, ?_⟩
  · have markers : line.takeWhile (· == '+') = List.replicate (line.takeWhile (· == '+')).length '+' :=
      List.eq_replicate_length.mpr fun c member => by simpa using List.mem_takeWhile_imp member
    rw [← markers, List.takeWhile_append_dropWhile]
  · intro marked
    have none := List.head?_dropWhile_not (· == '+') line
    rw [marked] at none
    exact absurd none (by decide)

theorem space_markers_unmarked (other : line.head? ≠ some '+') : spaceMarkers line = line := by
  obtain ⟨markers, -⟩ := Block.split_markers other 0
  rw [List.replicate_zero, List.nil_append] at markers
  rw [spaceMarkers, markers]

theorem space_markers_seen (seen : ∃ c ∈ line, isBlank c = false) :
    ∃ c ∈ spaceMarkers line, isBlank c = false := by
  by_cases marked : line.head? = some '+'
  · obtain ⟨rest, shape⟩ := List.head?_eq_some_iff.mp (space_markers_head marked)
    exact ⟨'+', by simp [shape], by decide⟩
  · rwa [space_markers_unmarked marked]

theorem space_markers_marked {text : Line} (other : text.head? ≠ some '+') (deeper : Nat) :
    spaceMarkers (List.replicate (deeper + 1) '+' ++ text) =
      List.replicate (deeper + 1) '+' ++ ' ' :: trim text := by
  obtain ⟨markers, rest⟩ := Block.split_markers other (deeper + 1)
  rw [spaceMarkers, markers, rest]
  rfl

theorem trim_end_unmarked (other : line.head? ≠ some '+') : (trimEnd line).head? ≠ some '+' := by
  rcases trim_end_first line with none | same
  · simp [none]
  · rwa [same]

theorem trim_end_append_head {c : Char} (visible : isBlank c = false) (rest : Text) :
    (trimEnd (c :: rest)).head? = some c := by
  rcases trim_end_first (c :: rest) with none | same
  · rw [trim_end_eq_nil_iff.mp none c List.mem_cons_self] at visible
    exact absurd visible (by decide)
  · exact same

theorem visible_space {text : Line} (visible : ∃ c ∈ text, isBlank c = false) :
    ∃ c ∈ ' ' :: trim text, isBlank c = false := by
  obtain ⟨c, member, shown⟩ := visible_trim visible
  exact ⟨c, List.mem_cons_of_mem _ member, shown⟩

theorem trim_end_marked (deeper : Nat) {text : Line} (visible : ∃ c ∈ text, isBlank c = false) :
    trimEnd (List.replicate (deeper + 1) '+' ++ ' ' :: trim text) =
      List.replicate (deeper + 1) '+' ++ ' ' :: trim text := by
  have space := trim_end_append [' '] (visible_trim visible)
  rw [trim_end_append _ (visible_space visible)]
  refine congrArg _ (space.trans ?_)
  rw [trim, trim_end_of_trim_end]
  rfl

/-- It makes no difference whether a line is trimmed before or after. -/
theorem space_markers_trim_end (filled : Filled line) :
    spaceMarkers (trimEnd line) = trimEnd (spaceMarkers line) := by
  obtain ⟨count, text, rfl, other⟩ := exists_markers line
  have visible := filled.visible
  rw [(Block.split_markers other count).2] at visible
  cases count with
  | zero => rw [List.replicate_zero, List.nil_append, space_markers_unmarked other,
      space_markers_unmarked (trim_end_unmarked other)]
  | succ deeper =>
      rw [trim_end_append _ visible, space_markers_marked (trim_end_unmarked other),
        space_markers_marked other, trim_of_trim_end, trim_end_marked deeper visible]

theorem Filled.space_markers (filled : Filled line) : Filled (spaceMarkers line) := by
  refine ⟨space_markers_whole filled.whole, ?_⟩
  obtain ⟨count, text, rfl, other⟩ := exists_markers line
  have visible := filled.visible
  rw [(Block.split_markers other count).2] at visible
  cases count with
  | zero =>
      rw [List.replicate_zero, List.nil_append, space_markers_unmarked other]
      exact filled.visible
  | succ deeper =>
      have apart : (' ' :: trim text).head? ≠ some '+' := by simp
      rw [space_markers_marked other, (Block.split_markers apart (deeper + 1)).2]
      exact visible_space visible

/-! ## Numbers -/

theorem number_eq (counters : Counters) (content : List Line) :
    (number counters content).map indentMarkers = List.zipWith numberedLine content
      ((counters.run (content.map fun line => (level line : Int))).map Prod.fst) := by
  induction content generalizing counters with
  | nil => rfl
  | cons line content ih =>
      rw [number_cons, List.map_cons, ih]
      rfl

theorem numbers_length (content : List Line) : (numbers content).length = content.length := by
  rw [numbers, List.length_map, Counters.run_length, List.length_map]

theorem numbered_line_whole (whole : '\n' ∉ line) (number : Nat) : '\n' ∉ numberedLine line number := by
  have numeral : '\n' ∉ decimalText number ++ ". ".toList := by
    have digits : '\n' ∉ decimalText number := fun member => absurd (decimal_is_digit member) (by decide)
    simp [digits]
  have counted : '\n' ∉ replaceFirst "+ ".toList (decimalText number ++ ". ".toList) line := by
    rcases replace_first_shape "+ ".toList (decimalText number ++ ". ".toList) line with
      same | ⟨front, back, rfl, shape⟩
    · rwa [same]
    · rw [shape]
      simp only [List.mem_append, not_or] at whole numeral ⊢
      exact ⟨⟨whole.1.1, numeral⟩, whole.2⟩
  have converted := (Inline.convert_fills counted).1
  have rest : '\n' ∉ (Inline.convert (replaceFirst "+ ".toList (decimalText number ++ ". ".toList) line)).dropWhile
      (· == '+') := fun member => converted ((List.dropWhile_suffix _).subset member)
  rw [numberedLine, indentMarkers, List.mem_append, not_or]
  exact ⟨by simp [List.mem_replicate], rest⟩

/-! ## Lists -/

/-- The lines of a list as they are numbered. -/
def spacedLines (source : List Line) : List Line := endTrimmed (source.map spaceMarkers)

/-- The lines of a list with their numbers. -/
def written (source : List Line) : List Line :=
  List.zipWith numberedLine (spacedLines source) (numbers (spacedLines source))

theorem written_whole (whole : ∀ line ∈ content, '\n' ∉ line) : ∀ line ∈ written content, '\n' ∉ line := by
  have spaced : ∀ line ∈ spacedLines content, '\n' ∉ line :=
    end_trimmed_whole (List.forall_mem_map.mpr fun line member => space_markers_whole (whole line member))
  intro line member
  rw [written, ← List.map_uncurry_zip_eq_zipWith] at member
  obtain ⟨⟨source, number⟩, inside, rfl⟩ := List.mem_map.mp member
  exact numbered_line_whole (spaced source (List.of_mem_zip inside).1) number

/-- Trimming the text behind the first plus sign changes nothing that is kept, unless it moves another
plus sign up to the first. -/
theorem space_markers_started {first : Line} (filled : Filled ('+' :: first))
    (apart : (trimStart first).head? = some '+' → first.head? = some '+') :
    Filled ('+' :: trimStart first) ∧
      spaceMarkers ('+' :: trimStart first) = spaceMarkers ('+' :: first) := by
  by_cases marked : first.head? = some '+'
  · obtain ⟨rest, rfl⟩ := List.head?_eq_some_iff.mp marked
    rw [trim_start_cons_visible (by decide)]
    exact ⟨filled, rfl⟩
  · have unmarked : (trimStart first).head? ≠ some '+' := fun moved => marked (apart moved)
    have text := filled.visible
    rw [List.dropWhile_cons_of_pos rfl, ← List.nil_append first,
      ← List.replicate_zero (a := '+'), (Block.split_markers marked 0).2] at text
    refine ⟨⟨?_, ?_⟩, ?_⟩
    · have whole : '\n' ∉ trimStart first := fun member =>
        filled.whole (List.mem_cons_of_mem _ ((trim_start_suffix first).subset member))
      simp [whole]
    · obtain ⟨c, member, visible⟩ := visible_trim text
      refine ⟨c, ?_, visible⟩
      rw [List.dropWhile_cons_of_pos rfl, ← List.nil_append (trimStart first),
        ← List.replicate_zero (a := '+'), (Block.split_markers unmarked 0).2]
      exact (trim_end_begins _).subset member
    · have one (text : Line) : '+' :: text = List.replicate (0 + 1) '+' ++ text := rfl
      rw [one, one, space_markers_marked unmarked, space_markers_marked marked, trim_of_trim_start]

/-- The text of a list is trimmed behind its first plus sign. -/
theorem trim_behind_marker {first : Line} {more : List Line} (firstSeen : ∃ c ∈ first, isBlank c = false)
    (seen : ∀ line ∈ more, ∃ c ∈ line, isBlank c = false) :
    '+' :: trim (unlines (first :: more)) = unlines (endTrimmed (('+' :: trimStart first) :: more)) := by
  have started : ∃ c ∈ trimStart first, isBlank c = false := by
    obtain ⟨c, member, visible⟩ := visible_trim firstSeen
    exact ⟨c, (trim_end_begins _).subset member, visible⟩
  have all : ∃ c ∈ unlines (trimStart first :: more), isBlank c = false := by
    obtain ⟨c, member, visible⟩ := started
    exact ⟨c, mem_joined_of_mem (by simp) member, visible⟩
  have marked : ∀ line ∈ ('+' :: trimStart first) :: more, ∃ c ∈ line, isBlank c = false :=
    List.forall_mem_cons.mpr ⟨⟨'+', by simp, by decide⟩, seen⟩
  rw [trim, trim_start_unlines firstSeen, ← trim_end_unlines marked, unlines_cons_char]
  exact (trim_end_append ['+'] all).symm

/-- Only blanks at the end of its last line are trimmed off a text that begins with a plus sign. -/
theorem lines_trim_seen {first : Line} {more : List Line} (begins : first.head? = some '+')
    (seen : ∀ line ∈ first :: more, ∃ c ∈ line, isBlank c = false)
    (whole : ∀ line ∈ first :: more, '\n' ∉ line) :
    lines (trim (unlines (first :: more))) = endTrimmed (first :: more) := by
  obtain ⟨rest, rfl⟩ := List.head?_eq_some_iff.mp begins
  rw [trim, unlines_cons_char, trim_start_cons_visible (by decide), ← unlines_cons_char, trim_end_unlines seen]
  exact lines_unlines (end_trimmed_ne_nil (List.cons_ne_nil _ _)) (end_trimmed_whole whole)

section Started

variable {first : Line} {more : List Line} (firstSeen : ∃ c ∈ first, isBlank c = false)
  (seen : ∀ line ∈ more, ∃ c ∈ line, isBlank c = false) (whole : ∀ line ∈ first :: more, '\n' ∉ line)

include firstSeen seen whole

/-- The lines of a list once it is trimmed and has its first plus sign back. -/
theorem lines_started :
    lines ('+' :: trim (unlines (first :: more))) = endTrimmed (('+' :: trimStart first) :: more) := by
  rw [List.forall_mem_cons] at whole
  have started : '\n' ∉ '+' :: trimStart first := by
    rw [List.mem_cons, not_or]
    exact ⟨by decide, fun member => whole.1 ((trim_start_suffix first).subset member)⟩
  rw [trim_behind_marker firstSeen seen]
  exact lines_unlines (end_trimmed_ne_nil (List.cons_ne_nil _ _))
    (end_trimmed_whole (List.forall_mem_cons.mpr ⟨started, whole.2⟩))

/-- A list whose lines end with something visible is numbered as the lines that it has once it is trimmed. -/
theorem items_started (ended : ∀ line ∈ ('+' :: trimStart first) :: more, trimEnd line = line) :
    items (first :: more) = written (('+' :: trimStart first) :: more) := by
  have opened := lines_started firstSeen seen whole
  rw [end_trimmed_of_ended ended] at opened
  have all : ∀ line ∈ ('+' :: trimStart first) :: more, '\n' ∉ line := by
    rw [← opened]
    exact fun line => no_newline_of_mem_lines
  have marked : ∀ line ∈ ('+' :: trimStart first) :: more, ∃ c ∈ line, isBlank c = false :=
    List.forall_mem_cons.mpr ⟨⟨'+', List.mem_cons_self, by decide⟩, seen⟩
  have spacedSeen : ∀ line ∈ (('+' :: trimStart first) :: more).map spaceMarkers, ∃ c ∈ line, isBlank c = false :=
    List.forall_mem_map.mpr fun line member => space_markers_seen (marked line member)
  have spacedWhole : ∀ line ∈ (('+' :: trimStart first) :: more).map spaceMarkers, '\n' ∉ line :=
    List.forall_mem_map.mpr fun line member => space_markers_whole (all line member)
  have trimmed := lines_trim_seen (@space_markers_head ('+' :: trimStart first) rfl) spacedSeen spacedWhole
  rw [← List.map_cons] at trimmed
  rw [items]
  simp only [opened, trimmed, number_eq]
  rfl

end Started

/-- A list goes on through lines that are not empty. -/
theorem body_from_filled {inner : List Line} (line next : Line) (rest : List Line)
    (filled : ∀ line ∈ inner, line ≠ []) :
    shape.bodyFrom? line (inner ++ [] :: next :: rest) = some (line :: inner, [] :: next :: rest) := by
  have ends (line : Line) : before? shape.closing line = some line :=
    before_eq_some.mpr (List.append_nil line).symm
  induction inner generalizing line with
  | nil =>
      have last : shape.lastLine? line ([] :: next :: rest) = some line := ends line
      rw [List.nil_append, BlockShape.bodyFrom?, last]
  | cons other inner ih =>
      rw [List.forall_mem_cons] at filled
      obtain ⟨c, tail, rfl⟩ := List.exists_cons_of_ne_nil filled.1
      have goes : shape.lastLine? line ((c :: tail) :: (inner ++ [] :: next :: rest)) = none := rfl
      rw [List.cons_append, BlockShape.bodyFrom?, goes]
      simp only [ih (c :: tail) filled.2, Option.map_some]

/-- In a document without headings and tables, the rules for ordered lists come first. -/
theorem convert_of_lists {promote : Bool} {text : Text} (uniform : '\r' ∉ text)
    (heads : ∀ line ∈ lines text, line.head? ≠ some '*' ∧ line.head? ≠ some '|') :
    Layout.convert promote text = ((rules promote).drop 12).foldl (fun current rule => rule current)
      (shape.replaceBlocks items (shape.replaceBlocks separate text)) := by
  have cut : rules promote = (rules promote).take 2 ++ (replaceLines heading ::
      (((rules promote).drop 3).take 7 ++ (shape.replaceBlocks separate ::
        shape.replaceBlocks items :: (rules promote).drop 12))) := rfl
  refine (congrArg (List.foldl (fun current rule => rule current) text) cut).trans ?_
  rw [List.foldl_append, List.foldl_cons, List.foldl_append, List.foldl_cons, List.foldl_cons,
    returns_of_uniform uniform, headings_of_unstarred fun line member => (heads line member).1,
    tables_of_unbarred fun line member => (heads line member).2]

section Single

variable {first : Line} {more : List Line} (filled : ∀ line ∈ ('+' :: first) :: more, Filled line)

include filled

/-- The first line of a list loses its first plus sign and is trimmed before the sign is put back, so no
further sign may come to stand behind it. -/
theorem lines_behind_marker (apart : (trimStart first).head? = some '+' → first.head? = some '+') :
    (lines ('+' :: trim (unlines (first :: more)))).map spaceMarkers =
      spacedLines (('+' :: first) :: more) := by
  rw [List.forall_mem_cons] at filled
  obtain ⟨started, same⟩ := space_markers_started filled.1 apart
  have seen : ∃ c ∈ first, isBlank c = false := by
    obtain ⟨c, member, visible⟩ := filled.1.visible
    rw [List.dropWhile_cons_of_pos rfl] at member
    exact ⟨c, (List.dropWhile_suffix _).subset member, visible⟩
  have all : ∀ line ∈ ('+' :: trimStart first) :: more, Filled line :=
    List.forall_mem_cons.mpr ⟨started, filled.2⟩
  rw [lines_started seen (fun line member => (filled.2 line member).seen)
      (List.forall_mem_cons.mpr ⟨fun member => filled.1.whole (List.mem_cons_of_mem _ member),
        fun line member => (filled.2 line member).whole⟩),
    end_trimmed_map fun line member => space_markers_trim_end (all line member), List.map_cons, same]
  rfl

/-- Trimming a list once more changes nothing. -/
theorem lines_trim_spaced :
    lines (trim (unlines (spacedLines (('+' :: first) :: more)))) = spacedLines (('+' :: first) :: more) := by
  have spaced : ∀ line ∈ (('+' :: first) :: more).map spaceMarkers, Filled line :=
    List.forall_mem_map.mpr fun line member => (filled line member).space_markers
  rw [spacedLines, ← trim_end_unlines fun line member => (spaced line member).seen, trim_of_trim_end]
  exact lines_trim_seen (@space_markers_head ('+' :: first) rfl) (fun line member => (spaced line member).seen)
    fun line member => (spaced line member).whole

/-- The lines that are written for a list. -/
theorem items_eq (apart : (trimStart first).head? = some '+' → first.head? = some '+') :
    items (first :: more) = written (('+' :: first) :: more) := by
  rw [items]
  simp only [lines_behind_marker filled apart]
  rw [lines_trim_spaced filled, number_eq]
  rfl

theorem block_lines_filled : shape.blockLines (first :: more) = ('+' :: first) :: more := by
  have text : shape.opening ++ unlines (first :: more) ++ shape.closing =
      unlines (('+' :: first) :: more) :=
    (List.append_nil _).trans (unlines_cons_char '+' first more).symm
  rw [BlockShape.blockLines, text]
  exact lines_unlines (by simp) fun line member => (filled line member).whole

/-- A search takes a list with the two lines below it. -/
theorem segments_from_filled (next : Line) (rest : List Line) :
    shape.segmentsFrom (('+' :: first) :: more ++ [] :: next :: rest) =
      .block (first :: more) :: .line [] :: .line next :: shape.segmentsFrom rest := by
  have nonempty : ∀ line ∈ more, line ≠ [] := by
    rintro line member rfl
    obtain ⟨c, inside, _⟩ := (filled [] (List.mem_cons_of_mem _ member)).visible
    exact absurd inside List.not_mem_nil
  have found : shape.body? ('+' :: first) (more ++ [] :: next :: rest) =
      some (first :: more, [] :: next :: rest) := body_from_filled first next rest nonempty
  rw [List.cons_append, BlockShape.segments_from_of_some found]
  rfl

/-- What a rule for lists makes of a single list with blank lines below it. -/
theorem replace_single (render : List Line → List Line) (count : Nat) :
    shape.replaceBlocks render
        (unlines ([] :: (('+' :: first) :: more ++ List.replicate (count + 2) []))) =
      unlines ([] :: (render (first :: more) ++ List.replicate (count + 2) [])) := by
  have whole : ∀ line ∈ [] :: (('+' :: first) :: more ++ List.replicate (count + 2) []), '\n' ∉ line := by
    rw [List.forall_mem_cons, List.forall_mem_append]
    exact ⟨List.not_mem_nil, fun line member => (filled line member).whole, blank_lines_whole _⟩
  have blank : (shape.segmentsFrom (List.replicate count [])).flatMap (BlockShape.result render) =
      List.replicate count [] := by
    refine results_of_unopened render fun line member => ?_
    rw [List.eq_of_mem_replicate member]
    rfl
  rw [BlockShape.replace_blocks_eq, lines_unlines (List.cons_ne_nil _ _) whole, BlockShape.segments,
    List.replicate_succ, List.replicate_succ, segments_from_filled filled]
  simp only [List.flatMap_cons, blank]
  rfl

/-- The first rule for lists adds a blank line below a single list; the second one renders its lines. -/
theorem rules_items :
    shape.replaceBlocks items (shape.replaceBlocks separate
        (unlines ([] :: (('+' :: first) :: more ++ [[], []])))) =
      unlines ([] :: (items (first :: more) ++ [[], [], []])) := by
  have separated := replace_single filled separate 0
  rw [separate, block_lines_filled filled, List.append_assoc] at separated
  exact (congrArg (shape.replaceBlocks items) separated).trans (replace_single filled items 1)

theorem rules_single (apart : (trimStart first).head? = some '+' → first.head? = some '+') :
    shape.replaceBlocks items (shape.replaceBlocks separate
        (unlines ([] :: (('+' :: first) :: more ++ [[], []])))) =
      unlines ([] :: (written (('+' :: first) :: more) ++ [[], [], []])) := by
  rw [rules_items filled, items_eq filled apart]

/-- The layout of a document that is a single list. -/
theorem convert_single {promote : Bool} (apart : (trimStart first).head? = some '+' → first.head? = some '+')
    (uniform : ∀ line ∈ ('+' :: first) :: more, '\r' ∉ line)
    (heads : ∀ line ∈ ('+' :: first) :: more, line.head? ≠ some '*' ∧ line.head? ≠ some '|') :
    Layout.convert promote (unlines ([] :: (('+' :: first) :: more ++ [[], []]))) =
      unlines ([] :: ((written (('+' :: first) :: more)).map (fun line => escape (unorderedItem line)) ++
        [[], [], []])) := by
  have shown : lines (unlines ([] :: (('+' :: first) :: more ++ [[], []]))) =
      [] :: (('+' :: first) :: more ++ [[], []]) := by
    refine lines_unlines (List.cons_ne_nil _ _) (List.forall_mem_cons.mpr ⟨List.not_mem_nil, ?_⟩)
    exact List.forall_mem_append.mpr ⟨fun line member => (filled line member).whole, blank_lines_whole 2⟩
  have everywhere {here : Line → Prop} (empty : here []) (inside : ∀ line ∈ ('+' :: first) :: more, here line) :
      ∀ line ∈ [] :: (('+' :: first) :: more ++ [[], []]), here line :=
    List.forall_mem_cons.mpr ⟨empty, List.forall_mem_append.mpr ⟨inside, by simpa using empty⟩⟩
  have whole : ∀ line ∈ [] :: (written (('+' :: first) :: more) ++ [[], [], []]), '\n' ∉ line :=
    List.forall_mem_cons.mpr ⟨List.not_mem_nil,
      List.forall_mem_append.mpr ⟨written_whole fun line member => (filled line member).whole, blank_lines_whole 3⟩⟩
  have empty : escape (unorderedItem []) = [] := escape_of_absent (by decide)
  rw [convert_of_lists
      (not_mem_unlines (by decide) (everywhere List.not_mem_nil uniform))
      (by rw [shown]; exact everywhere ⟨by simp, by simp⟩ heads),
    rules_single filled apart, below_blocks (List.cons_ne_nil _ _) whole, List.map_cons, List.map_append, empty]
  simp only [List.map_cons, List.map_nil, empty]

end Single

end Wikidown.Layout.OrderedList
