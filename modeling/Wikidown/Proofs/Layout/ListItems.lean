import Wikidown.Proofs.Layout.ListLines

/-!
# Items of a list

An item comes out with its number behind four spaces for each level above its own, and with no plus sign
in front. What its text contains has no part in that: only the signs in front of the text are counted,
and of these the last one gives way to the number.
-/

namespace Wikidown.Layout.OrderedList

set_option autoImplicit false

/-- Characters that open no inline notation stay before a number. -/
theorem decimal_keeps (number : Nat) : ∀ c ∈ decimalText number, c ∉ Table.openings := by
  have none : ∀ c ∈ Table.openings, c.isDigit = false := List.all_iff_forall_prop.mp (by decide)
  intro c member known
  have numeral := decimal_is_digit member
  rw [none c known] at numeral
  exact absurd numeral (by decide)

/-- A number with its stop is no part of what the inline notation changes. -/
theorem convert_number (number : Nat) (text : Line) :
    Inline.convert (decimalText number ++ ". ".toList ++ text) =
      decimalText number ++ '.' :: Inline.convert (' ' :: text) := by
  have plain : ∀ c ∈ decimalText number ++ ['.'], c ∉ Table.openings := by
    intro c member
    rcases List.mem_append.mp member with digit | stop
    · exact decimal_keeps number c digit
    · rw [List.mem_singleton.mp stop]
      decide
  have split : decimalText number ++ ". ".toList ++ text = decimalText number ++ ['.'] ++ ' ' :: text := by
    simp
  rw [split, Table.convert_keep plain, List.append_assoc]
  rfl

theorem numbered_head (number : Nat) (text : Text) :
    ∃ c, c.isDigit = true ∧ (Inline.convert (decimalText number ++ ". ".toList ++ text)).head? = some c := by
  obtain ⟨c, rest, shape⟩ := List.exists_cons_of_ne_nil (decimal_text_ne_nil number)
  refine ⟨c, @decimal_is_digit number c (by rw [shape]; exact List.mem_cons_self), ?_⟩
  rw [List.append_assoc, Table.convert_keep (decimal_keeps number), shape]
  rfl

theorem level_marked (deeper : Nat) (text : Text) :
    level (List.replicate (deeper + 1) '+' ++ ' ' :: text) = deeper + 1 := by
  have markers : ∀ c ∈ List.replicate (deeper + 1) '+', (c != ' ') = true := by
    intro c member
    rw [List.eq_of_mem_replicate member]
    decide
  rw [level, List.takeWhile_append_of_pos markers]
  simp

theorem replace_first_marked (deeper : Nat) (value text : Text) :
    replaceFirst "+ ".toList value (List.replicate (deeper + 1) '+' ++ ' ' :: text) =
      List.replicate deeper '+' ++ (value ++ text) := by
  induction deeper with
  | zero => rfl
  | succ deeper ih =>
      have other : after? "+ ".toList ('+' :: '+' :: (List.replicate deeper '+' ++ ' ' :: text)) = none := rfl
      have step : replaceFirst "+ ".toList value
          ('+' :: '+' :: (List.replicate deeper '+' ++ ' ' :: text)) =
            '+' :: replaceFirst "+ ".toList value ('+' :: (List.replicate deeper '+' ++ ' ' :: text)) := by
        rw [replaceFirst, other]
      exact step.trans (congrArg ('+' :: ·) ih)

/-- An item has its number behind four spaces for each level above its own. -/
theorem numbered_line_marked (deeper number : Nat) (text : Text) :
    numberedLine (List.replicate (deeper + 1) '+' ++ ' ' :: text) number =
      List.replicate (4 * deeper) ' ' ++ Inline.convert (decimalText number ++ ". ".toList ++ text) := by
  have plain : ∀ c ∈ List.replicate deeper '+', c ∉ Table.openings := by
    intro c member
    rw [List.eq_of_mem_replicate member]
    decide
  have other : (Inline.convert (decimalText number ++ ". ".toList ++ text)).head? ≠ some '+' := by
    obtain ⟨c, digit, head⟩ := numbered_head number text
    rw [head]
    rintro same
    obtain rfl := Option.some.inj same
    exact absurd digit (by decide)
  obtain ⟨markers, rest⟩ := Block.split_markers other deeper
  rw [numberedLine, replace_first_marked, Table.convert_keep plain, indentMarkers, markers, rest,
    List.length_replicate]

/-- Plus signs and a text with something visible in it. Blanks around the text are no part of it. -/
structure Item where
  deeper : Nat
  text : Line
  whole : '\n' ∉ text
  visible : ∃ c ∈ text, isBlank c = false
  unmarked : (trim text).head? ≠ some '+'

namespace Item

def source (item : Item) : Line := List.replicate (item.deeper + 1) '+' ++ item.text

/-- An item whose number and indentation have still to be written. -/
def spaced (item : Item) : Line := List.replicate (item.deeper + 1) '+' ++ ' ' :: trim item.text

/-- An item with its number and its indentation. -/
def indented (item : Item) (number : Nat) : Line :=
  List.replicate (4 * item.deeper) ' ' ++
    Inline.convert (decimalText number ++ ". ".toList ++ trim item.text)

/-- The numbers of items that follow each other in a list: those of their levels. -/
def numbers (items : List Item) : List Nat :=
  (Counters.run {} (items.map fun item => ((item.deeper + 1 : Nat) : Int))).map Prod.fst

theorem text_unmarked (item : Item) : item.text.head? ≠ some '+' := by
  intro marked
  obtain ⟨rest, shape⟩ := List.head?_eq_some_iff.mp marked
  refine item.unmarked ?_
  rw [shape, trim, trim_start_cons_visible (by decide)]
  exact trim_end_append_head (by decide) rest

theorem filled (item : Item) : Filled item.source := by
  refine ⟨?_, ?_⟩
  · simp [source, item.whole]
  · rw [source, (Block.split_markers item.text_unmarked (item.deeper + 1)).2]
    exact item.visible

/-- No further plus sign is moved up to the first one. -/
theorem apart (item : Item)
    (marked : (trimStart (List.replicate item.deeper '+' ++ item.text)).head? = some '+') :
    (List.replicate item.deeper '+' ++ item.text).head? = some '+' := by
  cases depth : item.deeper with
  | zero =>
      rw [depth, List.replicate_zero, List.nil_append] at marked
      refine absurd ?_ item.unmarked
      obtain ⟨rest, shape⟩ := List.head?_eq_some_iff.mp marked
      rw [trim, shape]
      exact trim_end_append_head (by decide) rest
  | succ deeper => rfl

theorem space_source (item : Item) : spaceMarkers item.source = item.spaced :=
  space_markers_marked item.text_unmarked item.deeper

theorem trim_end_spaced (item : Item) : trimEnd item.spaced = item.spaced :=
  trim_end_marked item.deeper item.visible

theorem level_item (item : Item) : level item.spaced = item.deeper + 1 :=
  level_marked item.deeper (trim item.text)

theorem numbered_item (item : Item) (number : Nat) : numberedLine item.spaced number = item.indented number :=
  numbered_line_marked item.deeper number (trim item.text)

/-- An item in Markdown begins with its indentation or its number. -/
theorem indented_begins (item : Item) (number : Nat) :
    ∃ c rest, item.indented number = c :: rest ∧ (c = ' ' ∨ c.isDigit = true) := by
  obtain ⟨c, digit, head⟩ := numbered_head number (trim item.text)
  obtain ⟨rest, shape⟩ := List.head?_eq_some_iff.mp head
  rw [indented, shape]
  cases item.deeper with
  | zero => exact ⟨c, rest, rfl, .inr digit⟩
  | succ deeper => exact ⟨' ', _, rfl, .inl rfl⟩

theorem indented_whole (item : Item) (number : Nat) : '\n' ∉ item.indented number := by
  have numeral : '\n' ∉ decimalText number := fun member => absurd (decimal_is_digit member) (by decide)
  have text : '\n' ∉ trim item.text := fun member => item.whole ((trim_inside item.text).subset member)
  have line : '\n' ∉ decimalText number ++ ". ".toList ++ trim item.text := by
    simp [numeral, text]
  rw [indented, List.mem_append, not_or]
  exact ⟨by simp [List.mem_replicate], (Inline.convert_fills line).1⟩

/-! ## Lists of items -/

variable {item : Item} {more items : List Item}

theorem all_filled (items : List Item) : ∀ line ∈ items.map source, Filled line :=
  List.forall_mem_map.mpr fun item _ => item.filled

theorem spaced_all (items : List Item) : spacedLines (items.map source) = items.map spaced := by
  rw [spacedLines, List.map_map, List.map_congr_left fun item _ => item.space_source]
  exact end_trimmed_of_ended (List.forall_mem_map.mpr fun item _ => item.trim_end_spaced)

theorem numbers_spaced (items : List Item) : OrderedList.numbers (items.map spaced) = numbers items := by
  have levels : (items.map spaced).map (fun line => (level line : Int)) =
      items.map fun item => ((item.deeper + 1 : Nat) : Int) := by
    rw [List.map_map]
    exact List.map_congr_left fun item _ => congrArg Nat.cast item.level_item
  rw [OrderedList.numbers, levels, numbers]

/-- The lines that are written for a list of items. -/
theorem written_sources (items : List Item) :
    written (items.map source) = List.zipWith indented items (numbers items) := by
  rw [written, spaced_all, numbers_spaced, List.zipWith_map_left]
  simp only [numbered_item]

theorem indented_all_whole (items : List Item) :
    ∀ line ∈ List.zipWith indented items (numbers items), '\n' ∉ line := by
  intro line member
  rw [← List.map_uncurry_zip_eq_zipWith] at member
  obtain ⟨⟨item, number⟩, _, rfl⟩ := List.mem_map.mp member
  exact item.indented_whole number

end Item

/-- The two rules for ordered lists turn the lines of a list into one line for each item, in the order of
the items, and add a blank line below the list. -/
theorem list_rendered (items : List Item) :
    lines (shape.replaceBlocks OrderedList.items (shape.replaceBlocks separate
          ('\n' :: (unlines (items.map Item.source) ++ "\n\n".toList)))) =
        [] :: (List.zipWith Item.indented items (Item.numbers items) ++ [[], [], []]) ∧
      (Item.numbers items).length = items.length := by
  refine ⟨?_, by rw [Item.numbers, List.length_map, Counters.run_length, List.length_map]⟩
  have whole : ∀ line ∈ [] :: (List.zipWith Item.indented items (Item.numbers items) ++ [[], [], []]),
      '\n' ∉ line := by
    rw [List.forall_mem_cons, List.forall_mem_append]
    exact ⟨List.not_mem_nil, Item.indented_all_whole items, blank_lines_whole 3⟩
  rw [← lines_unlines (List.cons_ne_nil _ _) whole]
  refine congrArg lines ?_
  cases items with
  | nil =>
      have unopened : ∀ line ∈ lines "\n\n\n".toList, after? shape.opening line = none := by decide
      have kept (render : List Line → List Line) : shape.replaceBlocks render "\n\n\n".toList = "\n\n\n".toList :=
        replace_blocks_of_unopened unopened
      exact (congrArg _ (kept separate)).trans (kept OrderedList.items)
  | cons item more =>
      have text : '\n' :: (unlines ((item :: more).map Item.source) ++ "\n\n".toList) =
          unlines ([] :: ((item :: more).map Item.source ++ [[], []])) := by
        rw [unlines_cons (by simp), unlines_append (by simp) (by simp)]
        rfl
      rw [text, ← Item.written_sources]
      exact rules_single (Item.all_filled (item :: more)) item.apart

end Wikidown.Layout.OrderedList
