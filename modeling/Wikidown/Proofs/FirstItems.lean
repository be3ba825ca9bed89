import Wikidown.Proofs.Layout.ListItems

/-!
# First items of lists

The text of a list is trimmed behind its first plus sign. The first item so loses the space between its
sign and its text, and where the text begins with plus signs as well, all of them are read as signs of
the item. An item further down keeps its space, and with it its level and its text.
-/

namespace Wikidown.Layout.OrderedList

set_option autoImplicit false

/-- What is read off a line of a list: the number of signs in front of the last one, and a text. -/
structure Entry where
  deeper : Nat
  text : Line

namespace Entry

def spaced (entry : Entry) : Line := List.replicate (entry.deeper + 1) '+' ++ ' ' :: entry.text

/-- An entry with its number and its indentation. -/
def indented (entry : Entry) (number : Nat) : Line :=
  List.replicate (4 * entry.deeper) ' ' ++ decimalText number ++ '.' :: Inline.convert (' ' :: entry.text)

def levels (entries : List Entry) : List Int := entries.map fun entry => ((entry.deeper + 1 : Nat) : Int)

/-- The lines that are written for entries behind items that have been counted. -/
def rendered (counters : Counters) (entries : List Entry) : List Line :=
  List.zipWith indented entries ((counters.run (levels entries)).map Prod.fst)

end Entry

/-- Plus signs, one space and a text that begins and ends with something visible. -/
structure SpacedItem where
  deeper : Nat
  text : Line
  whole : '\n' ∉ text
  nonempty : text ≠ []
  trimmed : trim text = text

namespace SpacedItem

def entry (item : SpacedItem) : Entry := ⟨item.deeper, item.text⟩

def source (item : SpacedItem) : Line := List.replicate (item.deeper + 1) '+' ++ ' ' :: item.text

/-- A single sign stands in front of a text that begins with signs. -/
def Joined (item : SpacedItem) : Prop := item.deeper = 0 ∧ item.text.head? = some '+'

/-- How an item is read as the first one of a list: signs at the beginning of its text are joined to a
single sign in front of it. -/
def opened (item : SpacedItem) : Entry :=
  if item.deeper = 0 then
    ⟨(item.text.takeWhile (· == '+')).length, trim (item.text.dropWhile (· == '+'))⟩
  else item.entry

/-- The lines of a list without another item above it. A single item that consists of signs only has no
number. -/
def alone (first : SpacedItem) (more : List SpacedItem) : List Line :=
  if first.opened.text = [] ∧ more = [] then [List.replicate (4 * (first.opened.deeper + 1)) ' ']
  else Entry.rendered {} (first.opened :: more.map entry)

/-- The lines of a list behind an item of the first level. -/
def behind (items : List SpacedItem) : List Line :=
  Entry.rendered (({} : Counters).next 1).2 (items.map entry)

end SpacedItem

/-- A word without blanks and without inline notation that begins with no plus sign. -/
structure PlainWord where
  text : Line
  nonempty : text ≠ []
  visible : ∀ c ∈ text, isBlank c = false
  unmarked : text.head? ≠ some '+'
  plain : ∀ c ∈ "<\x27%[&#".toList, c ∉ text

/-- The lines of a document, laid out as lists. -/
def ruled (source : List Line) : List Line :=
  lines (shape.replaceBlocks items (shape.replaceBlocks separate ('\n' :: (unlines source ++ "\n\n".toList))))

/-- Two numbered lines that have one indentation and one text behind their numbers. -/
def SameItem (line other : Line) : Prop :=
  ∃ indentation number otherNumber text,
    line = List.replicate indentation ' ' ++ decimalText number ++ '.' :: text ∧
    other = List.replicate indentation ' ' ++ decimalText otherNumber ++ '.' :: text

namespace Entry

variable {entry : Entry}

theorem numbered_spaced (entry : Entry) (number : Nat) :
    numberedLine entry.spaced number = entry.indented number := by
  rw [spaced, numbered_line_marked, convert_number, indented, List.append_assoc]

/-- The lines of entries are counted and written as the entries. -/
theorem numbered_all (counters : Counters) (entries : List Entry) :
    List.zipWith numberedLine (entries.map spaced)
        ((counters.run ((entries.map spaced).map fun line => (level line : Int))).map Prod.fst) =
      rendered counters entries := by
  have read : (entries.map spaced).map (fun line => (level line : Int)) = levels entries := by
    rw [List.map_map]
    exact List.map_congr_left fun entry _ => congrArg Nat.cast (level_marked entry.deeper entry.text)
  rw [read, List.zipWith_map_left, rendered]
  simp only [numbered_spaced]

theorem rendered_cons (counters : Counters) (entry : Entry) (entries : List Entry) :
    rendered counters (entry :: entries) =
      entry.indented (counters.next ((entry.deeper + 1 : Nat) : Int)).1 ::
        rendered (counters.next ((entry.deeper + 1 : Nat) : Int)).2 entries := rfl

theorem same_indented (entry : Entry) (number other : Nat) :
    SameItem (entry.indented number) (entry.indented other) :=
  ⟨4 * entry.deeper, number, other, Inline.convert (' ' :: entry.text), rfl, rfl⟩

/-- Whatever has been counted before, entries have their indentation and their texts. -/
theorem same_rendered (counters other : Counters) (entries : List Entry) :
    List.Forall₂ SameItem (rendered counters entries) (rendered other entries) := by
  induction entries generalizing counters other with
  | nil => exact .nil
  | cons entry entries ih =>
      rw [rendered_cons, rendered_cons]
      exact .cons (entry.same_indented _ _) (ih _ _)

/-- An indented line is no item of the first level. -/
theorem not_same_shallow {line : Line} (indented : line.head? = some ' ') (top : entry.deeper = 0) (number : Nat) :
    ¬ SameItem line (entry.indented number) := by
  have digit (number : Nat) (rest : Line) : (decimalText number ++ rest).head? ≠ some ' ' := by
    obtain ⟨c, more, shape⟩ := List.exists_cons_of_ne_nil (decimal_text_ne_nil number)
    have numeral := @decimal_is_digit number c (by rw [shape]; exact List.mem_cons_self)
    rw [shape]
    rintro ⟨⟩
    exact absurd numeral (by decide)
  rintro ⟨indentation, own, other, text, rfl, same⟩
  cases indentation with
  | zero => exact digit own _ indented
  | succ indentation =>
      refine digit number ('.' :: Inline.convert (' ' :: entry.text)) ?_
      rw [Entry.indented, top] at same
      exact congrArg List.head? same

end Entry

namespace SpacedItem

variable {item first : SpacedItem} {more : List SpacedItem}

theorem text_seen (item : SpacedItem) : ∃ c ∈ item.text, isBlank c = false :=
  visible_of_trimmed item.trimmed item.nonempty

theorem trim_start_text (item : SpacedItem) : trimStart item.text = item.text := by
  have shorter := (trim_end_begins (trimStart item.text)).length_le
  rw [← trim, item.trimmed] at shorter
  exact (trim_start_suffix item.text).eq_of_length_le shorter

theorem spaced_unmarked (text : Line) : (' ' :: text).head? ≠ some '+' := by simp

theorem source_filled (item : SpacedItem) : Filled item.source := by
  refine ⟨by simp [source, item.whole], ?_⟩
  obtain ⟨c, member, visible⟩ := item.text_seen
  rw [source, (Block.split_markers (spaced_unmarked item.text) (item.deeper + 1)).2]
  exact ⟨c, List.mem_cons_of_mem _ member, visible⟩

theorem source_ended (item : SpacedItem) : trimEnd item.source = item.source := by
  have ended := trim_end_marked item.deeper item.text_seen
  rwa [item.trimmed] at ended

theorem space_source (item : SpacedItem) : spaceMarkers item.source = item.entry.spaced := by
  have space : trim (' ' :: item.text) = trim item.text :=
    congrArg trimEnd (trim_start_cons_blank (by decide) item.text)
  rw [source, space_markers_marked (spaced_unmarked item.text), space, item.trimmed]
  rfl

/-! ## The first line of a list -/

/-- The text behind the first sign of an item. -/
def body (item : SpacedItem) : Line := List.replicate item.deeper '+' ++ ' ' :: item.text

theorem trim_body_shallow (top : item.deeper = 0) : trimStart item.body = item.text := by
  rw [body, top, List.replicate_zero, List.nil_append, trim_start_cons_blank (by decide), trim_start_text]

theorem trim_body_deeper (deeper : item.deeper ≠ 0) : '+' :: trimStart item.body = item.source := by
  obtain ⟨depth, shape⟩ := Nat.exists_eq_succ_of_ne_zero deeper
  rw [source, body, shape, List.replicate_succ, List.cons_append, trim_start_cons_visible (by decide)]
  rfl

theorem body_ended (item : SpacedItem) : trimEnd ('+' :: trimStart item.body) = '+' :: trimStart item.body := by
  by_cases top : item.deeper = 0
  · have ended : trimEnd item.text = item.text := by
      rw [← item.trimmed, trim, trim_end_of_trim_end]
    have split := trim_end_append ['+'] item.text_seen
    rw [ended] at split
    rw [trim_body_shallow top]
    exact split
  · rw [trim_body_deeper top, source_ended]

theorem space_body (item : SpacedItem) : spaceMarkers ('+' :: trimStart item.body) = item.opened.spaced := by
  by_cases top : item.deeper = 0
  · obtain ⟨count, rest, shape, unmarked⟩ := exists_markers item.text
    obtain ⟨markers, text⟩ := Block.split_markers unmarked count
    rw [trim_body_shallow top, opened, if_pos top, shape, markers, text, List.length_replicate]
    exact space_markers_marked unmarked count
  · rw [trim_body_deeper top, space_source, opened, if_neg top]

/-- An item of several signs, or with a text that begins with none, is read as it stands. -/
theorem opened_apart (apart : ¬ item.Joined) : item.opened = item.entry := by
  by_cases top : item.deeper = 0
  · have unmarked : item.text.head? ≠ some '+' := fun marked => apart ⟨top, marked⟩
    obtain ⟨markers, text⟩ := Block.split_markers unmarked 0
    rw [List.replicate_zero, List.nil_append] at markers text
    rw [opened, if_pos top, markers, text, item.trimmed, entry, top]
    rfl
  · rw [opened, if_neg top]

theorem opened_joined (joined : item.Joined) : item.opened.deeper ≠ 0 := by
  obtain ⟨rest, shape⟩ := List.head?_eq_some_iff.mp joined.2
  rw [opened, if_pos joined.1, shape]
  simp

/-! ## Whole lists -/

theorem opened_trimmed (item : SpacedItem) : trim item.opened.text = item.opened.text := by
  by_cases top : item.deeper = 0
  · rw [opened, if_pos top]
    exact trim_of_trim _
  · rw [opened, if_neg top]
    exact item.trimmed

theorem opened_ended (written : item.opened.text ≠ []) : trimEnd item.opened.spaced = item.opened.spaced := by
  have ended := trim_end_marked item.opened.deeper (visible_of_trimmed item.opened_trimmed written)
  rwa [item.opened_trimmed] at ended

/-- A line of signs only is indented, but gets no number. -/
theorem numbered_signs (count number : Nat) :
    numberedLine (List.replicate count '+') number = List.replicate (4 * count) ' ' := by
  have unspaced : ' ' ∉ List.replicate count '+' := by simp [List.mem_replicate]
  have kept : replaceFirst "+ ".toList (decimalText number ++ ". ".toList) (List.replicate count '+') =
      List.replicate count '+' := by
    rcases replace_first_shape "+ ".toList (decimalText number ++ ". ".toList) (List.replicate count '+') with
      same | ⟨front, back, shape, -⟩
    · exact same
    · exact absurd (shape ▸ by simp) unspaced
  have plain : ∀ c ∈ "<\x27%[&#".toList, c ∉ List.replicate count '+' := by
    intro c known member
    rw [List.eq_of_mem_replicate member] at known
    exact absurd known (by decide)
  have signs := Inline.convert_of_plain plain fun pair => unspaced (pair.subset (by decide))
  obtain ⟨markers, rest⟩ := @Block.split_markers '+' [] (by simp) count
  rw [List.append_nil] at markers rest
  rw [numberedLine, kept, signs, indentMarkers, markers, rest, List.length_replicate, List.append_nil]

theorem spaced_opened (first : SpacedItem) (more : List SpacedItem) :
    spacedLines (('+' :: trimStart first.body) :: more.map source) =
      if first.opened.text = [] ∧ more = [] then [List.replicate (first.opened.deeper + 1) '+']
      else (first.opened :: more.map entry).map Entry.spaced := by
  have spaced : (('+' :: trimStart first.body) :: more.map source).map spaceMarkers =
      first.opened.spaced :: more.map source := by
    rw [List.map_cons, space_body, List.map_map]
    exact congrArg _ (List.map_congr_left fun item _ => item.space_source)
  have ended : ∀ line ∈ more.map source, trimEnd line = line :=
    List.forall_mem_map.mpr fun item _ => item.source_ended
  rw [spacedLines, spaced, List.map_cons, List.map_map]
  cases more with
  | nil =>
      by_cases empty : first.opened.text = []
      · have signs : trimEnd (List.replicate (first.opened.deeper + 1) '+' ++ [' ']) =
            List.replicate (first.opened.deeper + 1) '+' := by
          rw [trim_end_concat_blank (by decide), List.replicate_succ', trim_end_concat_visible (by decide)]
        rw [if_pos ⟨empty, rfl⟩, List.map_nil, endTrimmed, Entry.spaced, empty, signs]
      · rw [if_neg fun both => empty both.1, List.map_nil, endTrimmed, opened_ended empty]
        rfl
  | cons next more =>
      rw [if_neg (by simp), List.map_cons, endTrimmed, ← List.map_cons, end_trimmed_of_ended ended]
      rfl

/-- The lines that are written for a list without another item above it. -/
theorem written_opened (first : SpacedItem) (more : List SpacedItem) :
    written (('+' :: trimStart first.body) :: more.map source) = alone first more := by
  rw [written, spaced_opened, alone]
  split
  · rw [numbers, List.map_singleton, Counters.run, List.map_cons]
    exact congrArg (fun line => [line]) (numbered_signs _ _)
  · exact Entry.numbered_all {} _

theorem sources_filled (items : List SpacedItem) : ∀ line ∈ items.map source, Filled line :=
  List.forall_mem_map.mpr fun item _ => item.source_filled

theorem body_whole (item : SpacedItem) : '\n' ∉ item.body := by simp [body, item.whole]

theorem items_opened (first : SpacedItem) (more : List SpacedItem) :
    OrderedList.items (first.body :: more.map source) = alone first more := by
  obtain ⟨c, member, visible⟩ := first.text_seen
  have seen : ∃ c ∈ first.body, isBlank c = false := ⟨c, by simp [body, member], visible⟩
  have whole : ∀ line ∈ first.body :: more.map source, '\n' ∉ line :=
    List.forall_mem_cons.mpr ⟨first.body_whole, fun line member => (sources_filled more line member).whole⟩
  have ended : ∀ line ∈ ('+' :: trimStart first.body) :: more.map source, trimEnd line = line :=
    List.forall_mem_cons.mpr ⟨first.body_ended, List.forall_mem_map.mpr fun item _ => item.source_ended⟩
  rw [items_started seen (fun line member => (sources_filled more line member).seen) whole ended, written_opened]

theorem alone_whole (first : SpacedItem) (more : List SpacedItem) : ∀ line ∈ alone first more, '\n' ∉ line := by
  rw [← written_opened]
  refine written_whole (List.forall_mem_cons.mpr ⟨?_, fun line member => (sources_filled more line member).whole⟩)
  rw [List.mem_cons, not_or]
  exact ⟨by decide, fun member => first.body_whole ((trim_start_suffix _).subset member)⟩

/-- What the two rules for lists make of a list. -/
theorem ruled_sources (first : SpacedItem) (more : List SpacedItem) :
    ruled ((first :: more).map source) = [] :: (alone first more ++ [[], [], []]) := by
  have text : '\n' :: (unlines ((first :: more).map source) ++ "\n\n".toList) =
      unlines ([] :: ((first :: more).map source ++ [[], []])) := by
    rw [unlines_cons (by simp), unlines_append (by simp) (by simp)]
    rfl
  have rules := @rules_items first.body (more.map source) (sources_filled (first :: more))
  have whole : ∀ line ∈ [] :: (alone first more ++ [[], [], []]), '\n' ∉ line :=
    List.forall_mem_cons.mpr ⟨List.not_mem_nil,
      List.forall_mem_append.mpr ⟨alone_whole first more, blank_lines_whole 3⟩⟩
  rw [items_opened] at rules
  rw [ruled, text]
  exact (congrArg lines rules).trans (lines_unlines (List.cons_ne_nil _ _) whole)

/-- The list of an item that is read as it stands. -/
theorem alone_apart (apart : ¬ first.Joined) (more : List SpacedItem) :
    alone first more = Entry.rendered {} ((first :: more).map entry) := by
  rw [alone, opened_apart apart, if_neg fun both => first.nonempty both.1]
  rfl

theorem behind_cons (first : SpacedItem) (more : List SpacedItem) :
    behind (first :: more) = first.entry.indented ((({} : Counters).next 1).2.next ((first.deeper + 1 : Nat) : Int)).1 ::
      Entry.rendered ((({} : Counters).next 1).2.next ((first.deeper + 1 : Nat) : Int)).2 (more.map entry) := rfl

/-- A list has the indentation and the texts that it has behind another item, unless its first item is
joined to signs of its text. -/
theorem same_items_iff (first : SpacedItem) (more : List SpacedItem) :
    List.Forall₂ SameItem (alone first more) (behind (first :: more)) ↔ ¬ first.Joined := by
  refine ⟨fun same joined => ?_, fun apart => ?_⟩
  · obtain ⟨line, rest, shape, indented⟩ :
        ∃ line rest, alone first more = line :: rest ∧ line.head? = some ' ' := by
      obtain ⟨depth, below⟩ := Nat.exists_eq_succ_of_ne_zero (opened_joined joined)
      rw [alone]
      split
      · exact ⟨_, [], rfl, rfl⟩
      · exact ⟨_, _, rfl, by rw [Entry.indented, below]; rfl⟩
    rw [shape, behind_cons, List.forall₂_cons] at same
    exact Entry.not_same_shallow indented joined.1 _ same.1
  · rw [alone_apart apart]
    exact Entry.same_rendered _ _ _

end SpacedItem

namespace PlainWord

def item (word : PlainWord) : SpacedItem where
  deeper := 0
  text := word.text
  whole := fun member => absurd (word.visible _ member) (by decide)
  nonempty := word.nonempty
  trimmed := trim_of_visible word.visible

theorem item_apart (word : PlainWord) : ¬ word.item.Joined := fun joined => word.unmarked joined.2

theorem indented_item (word : PlainWord) : word.item.entry.indented 1 = "1. ".toList ++ word.text := by
  have unspaced : ' ' ∉ word.text := fun member => absurd (word.visible _ member) (by decide)
  have kept : Inline.convert (' ' :: word.text) = ' ' :: word.text := by
    refine Inline.convert_of_plain (fun c known member => ?_) ?_
    · rcases List.mem_cons.mp member with rfl | inside
      · exact absurd known (by decide)
      · exact word.plain c known inside
    · intro pair
      rcases List.infix_cons_iff.mp pair with ⟨rest, start⟩ | inside
      · exact unspaced (by rw [← (List.cons.inj start).2]; exact List.mem_cons_self)
      · exact unspaced (inside.subset (by decide))
  rw [Entry.indented, SpacedItem.entry]
  exact congrArg ("1.".toList ++ ·) kept

end PlainWord

/-- What the two rules for lists make of a list behind an item that is a word, and of the list alone. Both
have the same indentation and the same texts, unless the first item of the list has a single sign and its
text begins with signs: without the word these are joined. -/
theorem first_item_read (word : PlainWord) (first : SpacedItem) (more : List SpacedItem) :
    ruled (("+ ".toList ++ word.text) :: (first :: more).map SpacedItem.source) =
        [] :: ("1. ".toList ++ word.text) :: (SpacedItem.behind (first :: more) ++ [[], [], []]) ∧
      ruled ((first :: more).map SpacedItem.source) = [] :: (SpacedItem.alone first more ++ [[], [], []]) ∧
      (List.Forall₂ SameItem (SpacedItem.alone first more) (SpacedItem.behind (first :: more)) ↔
        ¬ (first.deeper = 0 ∧ first.text.head? = some '+')) := by
  refine ⟨?_, SpacedItem.ruled_sources first more, SpacedItem.same_items_iff first more⟩
  have rules := SpacedItem.ruled_sources word.item (first :: more)
  rw [SpacedItem.alone_apart word.item_apart] at rules
  rw [← word.indented_item]
  exact rules

/-- The sign that an item begins its text with makes it a deeper one when it is the first. -/
theorem sign_of_text_joined :
    ruled ["+ x".toList, "+ +a".toList] = [[], "1. x".toList, "2. +a".toList, [], [], []] ∧
      ruled ["+ +a".toList] = [[], "    1. a".toList, [], [], []] ∧
      ¬ SameItem "    1. a".toList "2. +a".toList := by
  have second : "2. +a".toList = Entry.indented ⟨0, "+a".toList⟩ 2 := by decide +kernel
  refine ⟨by decide +kernel, by decide +kernel, ?_⟩
  rw [second]
  exact Entry.not_same_shallow rfl rfl 2

end Wikidown.Layout.OrderedList
