import Wikidown.Layout.OrderedList
import Wikidown.Proofs.Placeholder.Blocks
import Wikidown.Proofs.Placeholder.Colors

/-!
# Placeholders in ordered lists

A placeholder inside an ordered list stays on its line. Only the first item may have no text of its
own, so that the line below it comes to stand behind its number.
-/

namespace Wikidown.Layout.OrderedList

set_option autoImplicit false

variable {promote : Bool} {word : Text} {content : List Line} {keys : List (Kind × Nat)}

theorem space_markers_of_token (kind : Kind) (index : Nat) :
    spaceMarkers (token kind index) = token kind index ∧
      spaceMarkers ('+' :: token kind index) = "+ ".toList ++ token kind index := by
  have unmarked : (token kind index).takeWhile (· == '+') = [] := by cases kind <;> rfl
  have whole : (token kind index).dropWhile (· == '+') = token kind index := by cases kind <;> rfl
  constructor
  · rw [spaceMarkers, unmarked]
  · rw [spaceMarkers, List.takeWhile_cons_of_pos rfl, List.dropWhile_cons_of_pos rfl, unmarked, whole,
      trim_token]
    rfl

theorem space_markers_lacks {line : Line} (traced : Traced word)
    (lacks : Lacks promote word line) : Lacks promote word (spaceMarkers line) := by
  have parts : line.takeWhile (· == '+') ++ line.dropWhile (· == '+') = line :=
    List.takeWhile_append_dropWhile
  rw [← parts] at lacks
  unfold spaceMarkers
  split
  · rw [parts] at lacks
    exact lacks
  · refine (Lacks.between_iff traced (by decide)).mpr ⟨lacks.left, ?_⟩
    exact (lacks.right traced).of_inside traced (trim_inside _)

theorem space_markers_whole {line : Line} (whole : '\n' ∉ line) : '\n' ∉ spaceMarkers line := by
  have marks : '\n' ∉ line.takeWhile (· == '+') := fun member =>
    whole ((List.takeWhile_prefix _).subset member)
  have rest : '\n' ∉ trim (line.dropWhile (· == '+')) := fun member =>
    whole (((trim_inside _).trans (List.dropWhile_suffix _).isInfix).subset member)
  unfold spaceMarkers
  split
  · exact whole
  · simp [marks, rest]

theorem space_markers_head {line : Line} (begins : line.head? = some '+') :
    (spaceMarkers line).head? = some '+' := by
  obtain ⟨rest, rfl⟩ := List.head?_eq_some_iff.mp begins
  rw [spaceMarkers, List.takeWhile_cons_of_pos rfl]
  rfl

theorem indent_markers_of_token (front : Text) (known : front ∈ itemized) (kind : Kind)
    (index : Nat) : indentMarkers (front ++ token kind index) = front ++ token kind index := by
  have unmarked : (front ++ token kind index).takeWhile (· == '+') = [] ∧
      (front ++ token kind index).dropWhile (· == '+') = front ++ token kind index := by
    rcases List.mem_pair.mp known with rfl | rfl
    · cases kind <;> exact ⟨rfl, rfl⟩
    · exact ⟨rfl, rfl⟩
  rw [indentMarkers, unmarked.1, unmarked.2]
  rfl

theorem indent_markers_lacks {line : Line} (traced : Traced word)
    (lacks : Lacks promote word line) : Lacks promote word (indentMarkers line) := by
  have rest : Lacks promote word (line.dropWhile (· == '+')) :=
    lacks.of_inside traced (List.dropWhile_suffix _).isInfix
  unfold indentMarkers
  generalize 4 * (line.takeWhile (· == '+')).length = depth
  induction depth with
  | zero => exact rest
  | succ depth ih => exact (Lacks.cons_iff traced (by decide)).mpr ih

theorem replace_first_shape (pattern value text : Text) :
    replaceFirst pattern value text = text ∨ ∃ front back, text = front ++ pattern ++ back ∧
      replaceFirst pattern value text = front ++ value ++ back := by
  induction text with
  | nil => exact .inl rfl
  | cons c text ih =>
      cases found : after? pattern (c :: text) with
      | some rest =>
          refine .inr ⟨[], rest, after_eq_some.mp found, ?_⟩
          rw [replaceFirst, found]
          rfl
      | none =>
          have step : replaceFirst pattern value (c :: text) = c :: replaceFirst pattern value text := by
            rw [replaceFirst, found]
          rcases ih with same | ⟨front, back, shape, changed⟩
          · exact .inl (by rw [step, same])
          · refine .inr ⟨c :: front, back, by rw [shape]; rfl, ?_⟩
            rw [step, changed]
            rfl

/-- A number and its full stop may stand in the place of markers. -/
theorem replace_first_lacks {line : Line} (traced : Traced word) (value : Nat)
    (lacks : Lacks promote word line) :
    Lacks promote word (replaceFirst "+ ".toList (decimalText value ++ ". ".toList) line) := by
  rcases replace_first_shape "+ ".toList (decimalText value ++ ". ".toList) line with
    same | ⟨front, back, rfl, shape⟩
  · rw [same]
    exact lacks
  · have numbered := Lacks.append_digits traced
      (fun c (member : c ∈ decimalText value) => decimal_is_digit member) lacks.left.left
    have stop : Stands promote word ". ".toList := .of_separates traced (by decide) (by decide)
    have whole := stop _ back numbered (lacks.right traced)
    rw [shape]
    simpa using whole

theorem replace_first_of_absent {pattern value text : Text} {c : Char}
    (front : pattern.head? = some c) (absent : c ∉ text) : replaceFirst pattern value text = text := by
  rcases replace_first_shape pattern value text with same | ⟨before, after, rfl, _⟩
  · exact same
  · have member : c ∈ pattern := List.mem_of_mem_head? front
    simp [member] at absent

theorem convert_token (kind : Kind) (index : Nat) :
    Inline.convert (token kind index) = token kind index ∧
      Inline.convert ("1. ".toList ++ token kind index) = "1. ".toList ++ token kind index := by
  have strange : ∀ c ∈ "<\x27%[&#".toList, inToken c = false :=
    List.all_iff_forall_prop.mp (by decide)
  have other : ∀ c ∈ "<\x27%[&#".toList, c ∉ "1. ".toList :=
    List.all_iff_forall_prop.mp (by decide)
  have blank : ' ' ∉ token kind index := not_mem_token (by decide)
  have apart : ¬ "  ".toList <:+: token kind index := fun inside =>
    blank (inside.subset (by decide))
  constructor
  · exact Inline.convert_of_plain (fun c member => not_mem_token (strange c member)) apart
  · refine Inline.convert_of_plain (fun c member => ?_) ?_
    · rw [List.mem_append, not_or]
      exact ⟨other c member, not_mem_token (strange c member)⟩
    · have single : ¬ [' '] <+: token kind index := fun front => blank (front.subset (by simp))
      rw [show "  ".toList = [' ', ' '] from rfl] at apart ⊢
      simp [List.infix_cons_iff, List.cons_prefix_cons, single, apart]

theorem number_cons (counters : Counters) (line : Line) (rest : List Line) :
    number counters (line :: rest) =
      Inline.convert (replaceFirst "+ ".toList
        (decimalText (counters.next (level line)).1 ++ ". ".toList) line) ::
          number (counters.next (level line)).2 rest := rfl

theorem number_carries (traced : Traced word) (counters : Counters)
    (carries : Carries promote word bare content keys) :
    Carries promote word bare (number counters content) keys := by
  induction carries generalizing counters with
  | nil => exact .nil
  | quiet lacks _ ih =>
      rw [number_cons]
      exact .quiet (Inline.convert_lacks traced (replace_first_lacks traced _ lacks)) (ih _)
  | @token front content keys known kind index _ ih =>
      have unmarked : '+' ∉ token kind index := not_mem_token (by decide)
      rw [List.mem_singleton.mp known, List.nil_append, number_cons,
        replace_first_of_absent rfl unmarked, (convert_token kind index).1]
      exact .alone kind index (ih _)

/-- The lines of a list with a placeholder behind the markers of the first, or with none there. -/
inductive Headed (promote : Bool) (word front : Text) : List Line → List (Kind × Nat) → Prop
  | quiet {first : Line} {more : List Line} {keys : List (Kind × Nat)}
      (lacks : Lacks promote word first) (rest : Carries promote word bare more keys) :
      Headed promote word front (first :: more) keys
  | token (kind : Kind) (index : Nat) {more : List Line} {keys : List (Kind × Nat)}
      (rest : Carries promote word bare more keys) :
      Headed promote word front ((front ++ token kind index) :: more) ((kind, index) :: keys)

/-- With one space behind the markers, a line that was moved up to the first markers is told from
them. -/
theorem space_markers_headed (traced : Traced word) {text : Text}
    (carries : Carries promote word bare (lines text) keys) :
    Headed promote word "+ ".toList ((lines ('+' :: text)).map spaceMarkers) keys := by
  have bars : ∀ {more : List Line} {later : List (Kind × Nat)},
      Carries promote word bare more later →
        Carries promote word bare (more.map spaceMarkers) later := by
    intro more later rest
    refine rest.map (fun line lacks => space_markers_lacks traced lacks) ?_
    intro front known kind index
    rw [List.mem_singleton.mp known, List.nil_append, (space_markers_of_token kind index).1]
  obtain ⟨first, more, shape⟩ := List.exists_cons_of_ne_nil (lines_ne_nil text)
  rw [lines_cons (by decide) shape, List.map_cons]
  rw [shape] at carries
  rcases Carries.cons_iff.mp carries with
    ⟨lacks, rest⟩ | ⟨front, known, kind, index, later, rfl, rfl, rest⟩
  · have marked : Lacks promote word ('+' :: first) := (Lacks.cons_iff traced (by decide)).mpr lacks
    exact .quiet (space_markers_lacks traced marked) (bars rest)
  · rw [List.mem_singleton.mp known, List.nil_append, (space_markers_of_token kind index).2]
    exact .token kind index (bars rest)

/-- Trimming lines of which the first begins with markers leaves that line whole, unless nothing
visible is below it. -/
theorem lines_trim_marked {first : Line} {more : List Line} (begins : first.head? = some '+')
    (whole : ∀ line ∈ first :: more, '\n' ∉ line) :
    lines (trim (unlines (first :: more))) = first :: lines (trimEnd (unlines more)) ∨
      lines (trim (unlines (first :: more))) = [trimEnd first] ∧
        ∀ line ∈ more, ∀ c ∈ line, isBlank c = true := by
  obtain ⟨rest, rfl⟩ := List.head?_eq_some_iff.mp begins
  have wholeFirst : '\n' ∉ '+' :: rest := whole _ (by simp)
  have wholeEnd : '\n' ∉ trimEnd ('+' :: rest) := fun member =>
    wholeFirst ((trim_end_begins _).subset member)
  have started : ∀ text : Text, trim ('+' :: rest ++ text) = trimEnd ('+' :: rest ++ text) := by
    intro text
    rw [trim, List.cons_append, trim_start_cons_visible (by decide)]
  cases more with
  | nil =>
      have only := started []
      rw [List.append_nil] at only
      refine .inr ⟨?_, by simp⟩
      rw [unlines_singleton, only, lines_of_no_newline wholeEnd]
  | cons next more =>
      rw [unlines_cons_cons, started]
      by_cases seen : ∃ c ∈ unlines (next :: more), isBlank c = false
      · obtain ⟨c, member, visible⟩ := seen
        left
        rw [trim_end_append _ ⟨c, List.mem_cons_of_mem _ member, visible⟩,
          show '\n' :: unlines (next :: more) = ['\n'] ++ unlines (next :: more) from rfl,
          trim_end_append ['\n'] ⟨c, member, visible⟩, List.singleton_append,
          lines_append_newline, lines_of_no_newline wholeFirst]
        rfl
      · have blank : ∀ c ∈ unlines (next :: more), isBlank c = true := by
          intro c member
          by_contra visible
          exact seen ⟨c, member, by simpa using visible⟩
        refine .inr ⟨?_, fun line member c inside => ?_⟩
        · have below : ∀ c ∈ '\n' :: unlines (next :: more), isBlank c = true := by
            intro c member
            rcases List.mem_cons.mp member with rfl | inside
            · decide
            · exact blank c inside
          rw [trim_end_append_of_blank _ below, lines_of_no_newline wholeEnd]
        · have cut : lines (unlines (next :: more)) = next :: more :=
            lines_unlines (by simp) fun other place => whole other (List.mem_cons_of_mem _ place)
          have place : line ∈ lines (unlines (next :: more)) := by rwa [cut]
          exact blank c ((infix_of_mem_lines place).subset inside)

theorem Headed.trim {first : Line} {more : List Line} (traced : Traced word)
    (headed : Headed promote word "+ ".toList (first :: more) keys)
    (begins : first.head? = some '+') (whole : ∀ line ∈ first :: more, '\n' ∉ line) :
    Headed promote word "+ ".toList (lines (Wikidown.trim (unlines (first :: more)))) keys := by
  have below : ∀ {later : List (Kind × Nat)}, Carries promote word bare more later →
      Carries promote word bare (lines (unlines more)) later := fun carries =>
    carries.lines_unlines traced (by decide)
  have nothing : ∀ {later : List (Kind × Nat)}, (∀ line ∈ more, ∀ c ∈ line, isBlank c = true) →
      Carries promote word bare more later → later = [] := by
    intro later blank carries
    refine carries.eq_nil_of_absent fun line member inside => ?_
    exact absurd (blank line member '\x7b' (inside.subset (by decide))) (by decide)
  rcases lines_trim_marked begins whole with shape | ⟨shape, blank⟩
  · rw [shape]
    cases headed with
    | quiet lacks rest => exact .quiet lacks (below rest).trim_end
    | token kind index rest => exact .token kind index (below rest).trim_end
  · rw [shape]
    cases headed with
    | quiet lacks rest =>
        obtain rfl := nothing blank rest
        obtain ⟨tail, parts⟩ := trim_end_begins first
        rw [← parts] at lacks
        exact .quiet lacks.left .nil
    | token kind index rest =>
        obtain rfl := nothing blank rest
        rw [trim_end_append _ ⟨'\x7b', brace_mem_token kind index, by decide⟩, trim_end_token]
        exact .token kind index .nil

/-- The first item of a list has the number one. -/
theorem Headed.numbered (traced : Traced word)
    (headed : Headed promote word "+ ".toList content keys) :
    Headed promote word "1. ".toList (number {} content) keys := by
  cases headed with
  | quiet lacks rest =>
      rw [number_cons]
      exact .quiet (Inline.convert_lacks traced (replace_first_lacks traced _ lacks))
        (number_carries traced _ rest)
  | token kind index rest =>
      have one : ∀ line : Line, (Counters.next {} (level line)).1 = 1 := by
        intro line
        have shallow : ¬ (level line : Int) < 0 := by omega
        simp [Counters.next, Counters.countOf, shallow]
      have first : replaceFirst "+ ".toList (decimalText 1 ++ ". ".toList)
          ("+ ".toList ++ Wikidown.token kind index) = "1. ".toList ++ Wikidown.token kind index := rfl
      rw [number_cons, one, first, (convert_token kind index).2]
      exact .token kind index (number_carries traced _ rest)

theorem Headed.carries (headed : Headed promote word "1. ".toList content keys) :
    Carries promote word itemized content keys := by
  cases headed with
  | quiet lacks rest => exact .quiet lacks (rest.mono (by simp [bare, itemized]))
  | token kind index rest =>
      exact .token (by simp [itemized]) kind index (rest.mono (by simp [bare, itemized]))

/-- The numbered lines of a list. -/
theorem items_carry (traced : Traced word) (body : List Line)
    (carries : Carries promote word bare (shape.blockLines body) keys) :
    Carries promote word itemized (items body) keys := by
  have text : shape.blockLines body = lines ('+' :: unlines body) := by
    rw [BlockShape.blockLines]
    exact congrArg lines (List.append_nil _)
  obtain ⟨first, more, cut⟩ := List.exists_cons_of_ne_nil (lines_ne_nil (unlines body))
  rw [text, lines_cons (by decide) cut] at carries
  obtain ⟨marked, below⟩ := carries.quiet_of_strange (c := '+') (by decide) (by simp)
  have plain : Carries promote word bare (lines (unlines body)) keys := by
    rw [cut]
    exact .quiet ((Lacks.cons_iff traced (by decide)).mp marked) below
  have spaced := space_markers_headed traced (plain.trim traced)
  obtain ⟨first, more, shape⟩ := List.exists_cons_of_ne_nil (lines_ne_nil ('+' :: trim (unlines body)))
  have started : first.head? = some '+' := by
    obtain ⟨start, rest, split⟩ := List.exists_cons_of_ne_nil (lines_ne_nil (trim (unlines body)))
    rw [lines_cons (by decide) split] at shape
    rw [← (List.cons.inj shape).1]
    rfl
  have whole : ∀ line ∈ (spaceMarkers first) :: more.map spaceMarkers, '\n' ∉ line := by
    intro line member
    rw [← List.map_cons, ← shape] at member
    obtain ⟨source, place, rfl⟩ := List.mem_map.mp member
    exact space_markers_whole (no_newline_of_mem_lines place)
  rw [shape, List.map_cons] at spaced
  have numbered :=
    ((spaced.trim traced (space_markers_head started) whole).numbered traced).carries
  have rendered := numbered.map (fun line lacks => indent_markers_lacks traced lacks)
    indent_markers_of_token
  rw [← List.map_cons, ← shape] at rendered
  exact rendered

end Wikidown.Layout.OrderedList
