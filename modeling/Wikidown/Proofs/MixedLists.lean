import Wikidown.Proofs.Layout.NumberedItems
import Wikidown.Proofs.Normalize

/-!
# Unordered items inside ordered lists

The rule that numbers the items of a list takes the lines with dashes in it for items, too: it counts
them at the level that their first word is long, puts a number in the place of a plus sign with a space
behind it, and converts their inline notation. The rule for unordered lists converts them again. An item
keeps the number that it has without those lines, and a line with dashes looks as it does in a document
of its own, where nothing of this shows.
-/

namespace Wikidown

set_option autoImplicit false

open Layout

/-- Dashes and an item of an unordered list with something visible in it. -/
structure DashedItem extends ListLine where
  uniform : '\r' ∉ item
  visible : ∃ c ∈ item, isBlank c = false

/-- A line of an ordered list with unordered items in it. -/
inductive MixedLine where
  | numbered (item : NumberedItem)
  | dashed (item : DashedItem)

namespace MixedLine

def source : MixedLine → Line
  | .numbered item => item.source
  | .dashed item => item.toListLine.source

/-- A line whose number has still to be written. -/
def spaced : MixedLine → Line
  | .numbered item => item.marked.spaced
  | .dashed item => item.toListLine.source

def item? : MixedLine → Option NumberedItem
  | .numbered item => some item
  | .dashed _ => none

/-- What becomes of a line, which the rule for ordered lists finds as `line`, with its number. -/
def shown (line : Line) (number : Nat) : MixedLine → Line
  | .numbered item => item.rendered number
  | .dashed _ => escape (unorderedItem (Inline.convert
      (OrderedList.replaceFirst "+ ".toList (decimalText number ++ ". ".toList) line)))

/-- Lines each as in a document of its own, the items with the given numbers. -/
def apart : List MixedLine → List Nat → List Line
  | .dashed item :: rest, numbers => item.rendered :: apart rest numbers
  | .numbered item :: rest, number :: numbers => item.rendered number :: apart rest numbers
  | _, _ => []

end MixedLine

/-- An ordered list with unordered items below its first item. -/
structure MixedList where
  first : NumberedItem
  rest : List MixedLine

namespace MixedList

def members (list : MixedList) : List MixedLine := .numbered list.first :: list.rest

def items (list : MixedList) : List NumberedItem := list.members.filterMap MixedLine.item?

def source (list : MixedList) : List Line := list.members.map MixedLine.source

/-- The lines of a list as the rule for ordered lists finds them: it trims the last one. -/
def spaced (list : MixedList) : List Line := OrderedList.endTrimmed (list.members.map MixedLine.spaced)

/-- The members of a list with their lines and their numbers. -/
def placed (list : MixedList) : List (MixedLine × Line × Nat) :=
  list.members.zip (list.spaced.zip (OrderedList.numbers list.spaced))

def shown (list : MixedList) : List Line :=
  list.placed.map fun (member, line, number) => member.shown line number

/-- The numbers that the items of a list get. -/
def given (list : MixedList) : List Nat :=
  list.placed.filterMap fun (member, _, number) => member.item?.map fun _ => number

/-- A list whose items are numbered as without the unordered items, and whose unordered items are shown
as on their own. -/
def apart (list : MixedList) : List Line :=
  MixedLine.apart list.members (NumberedItem.numbers list.items)

end MixedList

/-! ## Lines -/

namespace DashedItem

theorem trim_end_source (item : DashedItem) : trimEnd item.toListLine.source =
    List.replicate (item.deeper + 1) '-' ++ trimEnd item.item :=
  trim_end_append _ item.visible

theorem filled (item : DashedItem) : OrderedList.Filled item.toListLine.source := by
  refine ⟨Block.list_line_whole item.toListLine, ?_⟩
  obtain ⟨c, member, visible⟩ := item.visible
  refine ⟨c, ?_, visible⟩
  rw [ListLine.source, List.replicate_succ, List.cons_append, List.dropWhile_cons_of_neg (by decide)]
  exact List.mem_cons_of_mem _ (List.mem_append_right _ member)

end DashedItem

namespace MixedLine

variable {line : Line} {member : MixedLine}

theorem filled : (member : MixedLine) → OrderedList.Filled member.source
  | .numbered item => item.source_filled
  | .dashed item => item.filled

theorem space_source : (member : MixedLine) → OrderedList.spaceMarkers member.source = member.spaced
  | .numbered item => item.marked.space_source
  | .dashed item => OrderedList.space_markers_unmarked (by simp [source, ListLine.source, List.replicate_succ])

theorem uniform : (member : MixedLine) → '\r' ∉ member.source
  | .numbered item => by simp [source, NumberedItem.source, item.uniform]
  | .dashed item => by simp [source, ListLine.source, item.uniform]

theorem head_ne {c : Char} (other : c ∉ ['+', '-']) : member.source.head? ≠ some c := by
  rw [List.mem_pair, not_or] at other
  cases member with
  | numbered item => simpa [source, NumberedItem.source, List.replicate_succ] using Ne.symm other.1
  | dashed item => simpa [source, ListLine.source, List.replicate_succ] using Ne.symm other.2

/-- A line of a list as the rule for ordered lists finds it. -/
def Found (member : MixedLine) (line : Line) : Prop := line = member.spaced ∨ line = trimEnd member.spaced

theorem Found.numbered {item : NumberedItem} (found : Found (.numbered item) line) :
    line = item.marked.spaced := by
  rcases found with same | trimmed
  · exact same
  · exact trimmed.trans item.marked.trim_end_spaced

theorem Found.dashed {item : DashedItem} (found : Found (.dashed item) line) :
    ∃ text, line = List.replicate (item.deeper + 1) '-' ++ text ∧ text <+: item.item ∧ text ≠ [] ∧
      text.head? ≠ some '-' ∧ trim text = trim item.item := by
  have visible : item.item ≠ [] := by
    obtain ⟨c, member, _⟩ := item.visible
    exact List.ne_nil_of_mem member
  rcases found with rfl | rfl
  · exact ⟨item.item, rfl, List.prefix_rfl, visible, item.undashed, rfl⟩
  · have left : trimEnd item.item ≠ [] := by
      obtain ⟨c, member, shown⟩ := item.visible
      intro none
      rw [trim_end_eq_nil_iff.mp none c member] at shown
      exact absurd shown (by decide)
    have head := (trim_end_first item.item).resolve_left left
    exact ⟨trimEnd item.item, item.trim_end_source, trim_end_begins _, left, head ▸ item.undashed,
      trim_of_trim_end _⟩

/-- The rule for ordered lists and those below it turn each line into what is shown for it. -/
theorem shown_eq (number : Nat) (found : member.Found line) :
    escape (unorderedItem (OrderedList.numberedLine line number)) = member.shown line number := by
  cases member with
  | numbered item =>
      rw [found.numbered, item.marked.numbered_item]
      exact congrArg escape (item.unordered_indented number)
  | dashed item =>
      obtain ⟨rest, shape⟩ : ∃ rest, line = '-' :: rest := by
        obtain ⟨text, shape, _⟩ := found.dashed
        exact ⟨_, shape⟩
      have kept : OrderedList.replaceFirst "+ ".toList (decimalText number ++ ". ".toList) line =
          '-' :: OrderedList.replaceFirst "+ ".toList (decimalText number ++ ". ".toList) rest := by
        rw [shape]
        rfl
      have dash : ∀ c ∈ ['-'], c ∉ Table.openings := List.forall_mem_singleton.mpr (by decide)
      have converted (text : Text) : Inline.convert ('-' :: text) = '-' :: Inline.convert text :=
        Table.convert_keep dash text
      rw [OrderedList.numberedLine, shown, kept, converted]
      rfl

/-- A line without a plus sign before a space and without inline notation looks as it does on its own. -/
theorem shown_of_plain {item : DashedItem} (number : Nat) (found : Found (.dashed item) line)
    (unmarked : ¬ "+ ".toList <:+: item.toListLine.source)
    (plain : ∀ c ∈ "<\x27%[&#".toList, c ∉ item.toListLine.source)
    (single : ¬ "  ".toList <:+: item.toListLine.source) :
    (MixedLine.dashed item).shown line number = item.rendered := by
  obtain ⟨text, shape, ⟨rest, split⟩, nonempty, undashed, same⟩ := found.dashed
  have converts {part : Text} (inside : part <:+: item.toListLine.source) : Inline.convert part = part :=
    Inline.convert_of_plain (fun c known member => plain c known (inside.subset member))
      fun double => single (double.trans inside)
  have within : line <:+: item.toListLine.source := by
    rw [shape, ListLine.source, ← split, ← List.append_assoc]
    exact (List.prefix_append _ rest).isInfix
  have part : text <:+: line := by
    rw [shape]
    exact (List.suffix_append _ text).isInfix
  have kept : OrderedList.replaceFirst "+ ".toList (decimalText number ++ ". ".toList) line = line := by
    rcases OrderedList.replace_first_shape "+ ".toList (decimalText number ++ ". ".toList) line with
      same | ⟨front, back, cut, _⟩
    · exact same
    · exact absurd (List.IsInfix.trans ⟨front, back, cut.symm⟩ within) unmarked
  have filled : item.item ≠ [] := by
    rintro empty
    rw [empty, List.append_eq_nil_iff] at split
    exact nonempty split.1
  rw [shown, kept, converts within, shape, Block.unordered_item_dashed undashed nonempty,
    converts (part.trans within), same, ListLine.rendered, if_neg filled,
    converts (List.suffix_append _ item.item).isInfix]

end MixedLine

/-! ## Documents -/

namespace MixedList

variable {promote : Bool} {list : MixedList}

def document (list : MixedList) : Text := unlines list.source

theorem source_filled (list : MixedList) : ∀ line ∈ list.source, OrderedList.Filled line :=
  List.forall_mem_map.mpr fun member _ => member.filled

theorem spaced_eq (list : MixedList) : OrderedList.spacedLines list.source = list.spaced := by
  rw [OrderedList.spacedLines, source, List.map_map]
  exact congrArg OrderedList.endTrimmed (List.map_congr_left fun member _ => member.space_source)

/-- Every member stands beside its own line. -/
theorem placed_found (list : MixedList) : List.Forall₂ MixedLine.Found list.members list.spaced := by
  have found := OrderedList.end_trimmed_found (list.members.map MixedLine.spaced)
  rwa [List.forall₂_map_left_iff] at found

theorem shown_written (list : MixedList) :
    (OrderedList.written list.source).map (fun line => escape (unorderedItem line)) = list.shown := by
  have both {members : List MixedLine} {content : List Line} (numbers : List Nat)
      (found : List.Forall₂ MixedLine.Found members content) :
      (List.zipWith OrderedList.numberedLine content numbers).map (fun line => escape (unorderedItem line)) =
        (members.zip (content.zip numbers)).map fun (member, line, number) => member.shown line number := by
    induction found generalizing numbers with
    | nil => rfl
    | cons here _ ih =>
        cases numbers with
        | nil => rfl
        | cons number numbers =>
            simp only [List.zipWith_cons_cons, List.map_cons, List.zip_cons_cons]
            rw [MixedLine.shown_eq number here, ih]
  rw [OrderedList.written, spaced_eq, both _ list.placed_found]
  rfl

theorem normalize_document (list : MixedList) :
    normalize list.document = unlines ([] :: (list.source ++ [[], []])) := by
  have uniform : '\r' ∉ list.document :=
    not_mem_unlines (by decide) (List.forall_mem_map.mpr fun member _ => member.uniform)
  have content : Wikidown.lines list.document = list.source :=
    lines_unlines (by simp [source, members]) fun line member => (list.source_filled line member).whole
  have undirected : "#contents".toList ∉ Wikidown.lines list.document := by
    rw [content]
    intro inside
    obtain ⟨member, _, same⟩ := List.mem_map.mp inside
    exact member.head_ne (by decide) (congrArg List.head? same)
  rw [← unlines_lines (normalize list.document), lines_normalize uniform undirected, content,
    List.cons_append]

/-- The layout of a list with unordered items in it. -/
theorem convert_document (promote : Bool) (list : MixedList) :
    Layout.convert promote (normalize list.document) = unlines ([] :: (list.shown ++ [[], [], []])) := by
  have heads : ∀ line ∈ list.source, line.head? ≠ some '*' ∧ line.head? ≠ some '|' :=
    List.forall_mem_map.mpr fun member _ => ⟨member.head_ne (by decide), member.head_ne (by decide)⟩
  have uniform : ∀ line ∈ list.source, '\r' ∉ line :=
    List.forall_mem_map.mpr fun member _ => member.uniform
  rw [normalize_document, ← shown_written]
  exact OrderedList.convert_single list.source_filled list.first.marked.apart uniform heads

end MixedList

/-- The layout of an unordered item in a document of its own. -/
theorem DashedItem.convert_alone (promote : Bool) (item : DashedItem) :
    Layout.convert promote (normalize item.toListLine.source) = unlines [[], item.rendered, [], []] := by
  have uniform : '\r' ∉ item.toListLine.source := MixedLine.uniform (.dashed item)
  have content : lines item.toListLine.source = [item.toListLine.source] :=
    lines_of_no_newline (Block.list_line_whole item.toListLine)
  have head {c : Char} (other : c ∉ ['+', '-']) : item.toListLine.source.head? ≠ some c :=
    @MixedLine.head_ne (.dashed item) c other
  have undirected : "#contents".toList ∉ lines item.toListLine.source := by
    rw [content, List.mem_singleton]
    exact fun same => head (by decide) (congrArg List.head? same.symm)
  have shown := lines_normalize uniform undirected
  rw [content] at shown
  have returns : '\r' ∉ normalize item.toListLine.source := by
    refine not_mem_of_lines (by decide) ?_
    rw [shown]
    simpa using uniform
  have plain : ∀ line ∈ lines (normalize item.toListLine.source), Layout.Plain line := by
    rw [shown]
    simp only [List.cons_append, List.nil_append, List.forall_mem_cons, Layout.Plain]
    exact ⟨by simp, ⟨head (by decide), by simp [ListLine.source, List.replicate_succ]⟩, by simp⟩
  rw [Layout.convert_of_plain returns plain, shown]
  simp [Block.converted_list_line, converted_nil]

/-! ## Numbers -/

namespace MixedList

variable {list : MixedList}

theorem spaced_length (list : MixedList) : list.spaced.length = list.members.length :=
  (List.Forall₂.length_eq list.placed_found).symm

theorem members_placed (list : MixedList) : list.placed.map Prod.fst = list.members := by
  refine List.map_fst_zip ?_
  rw [List.length_zip, OrderedList.numbers_length, Nat.min_self, spaced_length]

theorem found_of_placed (list : MixedList) {member : MixedLine} {line : Line} {number : Nat}
    (inside : (member, line, number) ∈ list.placed) : member.Found line := by
  have sizes : list.spaced.length ≤ (OrderedList.numbers list.spaced).length :=
    Nat.le_of_eq (OrderedList.numbers_length list.spaced).symm
  have pairs : list.members.zip list.spaced = list.placed.map (Prod.map id Prod.fst) := by
    rw [placed, ← List.zip_map_right, List.map_fst_zip sizes]
  refine List.forall₂_zip list.placed_found ?_
  rw [pairs]
  exact List.mem_map_of_mem inside

/-- When members come out as each of them does on its own. -/
theorem apart_iff {placed : List (MixedLine × Line × Nat)} {numbers : List Nat}
    (enough : numbers.length = (placed.filterMap fun place => place.1.item?).length) :
    (placed.map fun (member, line, number) => member.shown line number) =
        MixedLine.apart (placed.map Prod.fst) numbers ↔
      (placed.filterMap fun (member, _, number) => member.item?.map fun _ => number) = numbers ∧
        ∀ place ∈ placed, ∀ item, place.1 = .dashed item →
          place.1.shown place.2.1 place.2.2 = item.rendered := by
  induction placed generalizing numbers with
  | nil =>
      rw [List.length_eq_zero_iff.mp enough]
      simp [MixedLine.apart]
  | cons here placed ih =>
      obtain ⟨member, line, number⟩ := here
      rw [List.forall_mem_cons]
      cases member with
      | dashed item =>
          have behind := @ih numbers enough
          rw [List.map_cons, List.map_cons, MixedLine.apart, List.cons.injEq, behind,
            List.filterMap_cons_none rfl]
          simp only [MixedLine.dashed.injEq, forall_eq']
          tauto
      | numbered item =>
          have given : ((MixedLine.numbered item, line, number) :: placed).filterMap
              (fun (member, _, number) => member.item?.map fun _ => number) =
                number :: placed.filterMap fun (member, _, number) => member.item?.map fun _ => number :=
            List.filterMap_cons_some rfl
          have size : numbers.length = (placed.filterMap fun place => place.1.item?).length + 1 := enough
          obtain ⟨first, rest, rfl⟩ := List.exists_of_length_succ numbers size
          have behind := @ih rest (Nat.succ.inj size)
          have own : (MixedLine.numbered item).shown line number = item.rendered first ↔ number = first :=
            ⟨NumberedItem.rendered_inj, fun same => congrArg item.rendered same⟩
          rw [given, List.map_cons, List.map_cons, MixedLine.apart, List.cons.injEq, List.cons.injEq,
            behind, own]
          simp only [reduceCtorEq, false_implies, implies_true, true_and]
          tauto

theorem shown_apart_iff (list : MixedList) :
    list.shown = list.apart ↔ list.given = NumberedItem.numbers list.items ∧
      ∀ place ∈ list.placed, ∀ item, place.1 = .dashed item →
        place.1.shown place.2.1 place.2.2 = item.rendered := by
  have enough : (NumberedItem.numbers list.items).length =
      (list.placed.filterMap fun place => place.1.item?).length := by
    have items : list.placed.filterMap (fun place => place.1.item?) = list.items := by
      rw [items, ← list.members_placed, List.filterMap_map]
      rfl
    rw [items, NumberedItem.numbers, List.length_map, Counters.run_length, List.length_map]
  have found := apart_iff enough
  rwa [members_placed] at found

/-- Where all items are of one level and no unordered item is counted at it, the items have the numbers
of that level. -/
theorem given_of_level {members : List MixedLine} {content : List Line} {depth : Nat} (numbers : List Nat)
    (found : List.Forall₂ MixedLine.Found members content)
    (level : ∀ item, MixedLine.numbered item ∈ members → item.deeper = depth)
    (other : ∀ place ∈ members.zip content, ∀ item, place.1 = .dashed item →
      OrderedList.level place.2 ≠ depth + 1) :
    ((members.zip (content.zip numbers)).filterMap fun (member, _, number) =>
        member.item?.map fun _ => number) =
      (((content.map fun line => (OrderedList.level line : Int)).zip numbers).filter fun item =>
        item.1 == ((depth + 1 : Nat) : Int)).map Prod.snd := by
  induction found generalizing numbers with
  | nil => rfl
  | @cons member line members content here found ih =>
      cases numbers with
      | nil => rfl
      | cons number numbers =>
          have behind := ih numbers (fun item inside => level item (List.mem_cons_of_mem _ inside))
            fun place inside => other place (List.mem_cons_of_mem _ inside)
          simp only [List.map_cons, List.zip_cons_cons]
          cases member with
          | numbered item =>
              have counted : OrderedList.level line = depth + 1 := by
                rw [here.numbered, item.marked.level_item]
                exact congrArg (· + 1) (level item List.mem_cons_self)
              rw [List.filter_cons_of_pos (by simp [counted]), List.map_cons, ← behind]
              exact List.filterMap_cons_some rfl
          | dashed item =>
              have counted : OrderedList.level line ≠ depth + 1 := other _ List.mem_cons_self item rfl
              rw [List.filter_cons_of_neg (by simp only [beq_iff_eq]; omega), ← behind]
              exact List.filterMap_cons_none rfl

theorem given_length (list : MixedList) : list.given.length = list.items.length := by
  rw [given, items, ← list.members_placed, List.filterMap_map, List.length_filterMap_eq_countP,
    List.length_filterMap_eq_countP]
  refine List.countP_congr fun place _ => ?_
  simp

/-- The numbers of items that are all of one level. -/
theorem numbers_of_level {items : List NumberedItem} {depth : Nat} (level : ∀ item ∈ items, item.deeper = depth) :
    NumberedItem.numbers items = List.range' 1 items.length := by
  have counted : ∀ other ∈ items.map fun item => ((item.deeper + 1 : Nat) : Int),
      other = ((depth + 1 : Nat) : Int) :=
    List.forall_mem_map.mpr fun item inside => by rw [level item inside]
  have shallowest := Counters.run_shallowest {} fun other inside => Int.le_of_eq (counted other inside).symm
  have all : (items.map fun item => ((item.deeper + 1 : Nat) : Int)).count ((depth + 1 : Nat) : Int) =
      items.length := by
    rw [List.count_eq_length.mpr fun other inside => (counted other inside).symm, List.length_map]
  rw [List.filter_eq_self.mpr, List.map_snd_zip, all] at shallowest
  · exact shallowest
  · rw [List.length_map, Counters.run_length]
  · intro item inside
    exact beq_iff_eq.mpr (counted item.1 (List.of_mem_zip inside).1)

/-- Items of one level count on past unordered items whose first words are longer. -/
theorem given_of_deeper {depth : Nat} (level : ∀ item ∈ list.items, item.deeper = depth)
    (deeper : ∀ place ∈ list.members.zip list.spaced, ∀ item, place.1 = .dashed item →
      depth + 1 < OrderedList.level place.2) : list.given = NumberedItem.numbers list.items := by
  have own : ∀ item, MixedLine.numbered item ∈ list.members → item.deeper = depth := fun item inside =>
    level item (List.mem_filterMap.mpr ⟨_, inside, rfl⟩)
  have given : list.given = _ := given_of_level (OrderedList.numbers list.spaced) list.placed_found own
    fun place inside item dashed => Nat.ne_of_gt (deeper place inside item dashed)
  have below : ∀ other ∈ list.spaced.map fun line => (OrderedList.level line : Int),
      ((depth + 1 : Nat) : Int) ≤ other := by
    rw [← List.map_snd_zip (Nat.le_of_eq list.spaced_length), List.map_map]
    refine List.forall_mem_map.mpr fun place inside => ?_
    obtain ⟨member, line⟩ := place
    have found := List.forall₂_zip list.placed_found inside
    refine Int.ofNat_le.mpr ?_
    cases member with
    | numbered item =>
        change depth + 1 ≤ OrderedList.level line
        rw [found.numbered, item.marked.level_item, ← own item (List.of_mem_zip inside).1]
        exact Nat.le_refl _
    | dashed item => exact Nat.le_of_lt (deeper _ inside item rfl)
  rw [OrderedList.numbers, Counters.run_shallowest {} below] at given
  have size := list.given_length
  rw [given, List.length_range'] at size
  rw [given, numbers_of_level level, size]
  rfl

/-! ## Lists without unordered items -/

/-- A list without its unordered items. -/
def undashed (list : MixedList) : MixedList where
  first := list.first
  rest := (list.rest.filterMap MixedLine.item?).map .numbered

theorem undashed_source (list : MixedList) : list.undashed.source = list.items.map NumberedItem.source := by
  rw [source, members, undashed, List.map_cons, List.map_map]
  rfl

theorem shown_undashed (list : MixedList) : list.undashed.shown = NumberedItem.renderedAll list.items := by
  rw [← shown_written, undashed_source, NumberedItem.written_sources, List.map_zipWith]
  simp only [NumberedItem.unordered_indented]
  rfl

end MixedList

/-- What the layout makes of an ordered list with unordered items in it, and when each of its lines comes
out as without the others. -/
theorem convert_mixed_list (promote : Bool) (list : MixedList) :
    Layout.convert promote (normalize list.document) = unlines ([] :: (list.shown ++ [[], [], []])) ∧
      Layout.convert promote (normalize list.undashed.document) =
        unlines ([] :: (NumberedItem.renderedAll list.items ++ [[], [], []])) ∧
      (∀ item, .dashed item ∈ list.members →
        Layout.convert promote (normalize item.toListLine.source) = unlines [[], item.rendered, [], []]) ∧
      (list.shown = list.apart ↔ list.given = NumberedItem.numbers list.items ∧
        ∀ place ∈ list.placed, ∀ item, place.1 = .dashed item →
          place.1.shown place.2.1 place.2.2 = item.rendered) ∧
      (∀ depth, (∀ item ∈ list.items, item.deeper = depth) →
        (∀ place ∈ list.members.zip list.spaced, ∀ item, place.1 = .dashed item →
          depth + 1 < OrderedList.level place.2) → list.given = NumberedItem.numbers list.items) ∧
      ∀ place ∈ list.placed, ∀ item, place.1 = .dashed item → ¬ "+ ".toList <:+: item.toListLine.source →
        (∀ c ∈ "<\x27%[&#".toList, c ∉ item.toListLine.source) → ¬ "  ".toList <:+: item.toListLine.source →
          place.1.shown place.2.1 place.2.2 = item.rendered := by
  refine ⟨list.convert_document promote, ?_, fun item _ => item.convert_alone promote,
    list.shown_apart_iff, fun depth => MixedList.given_of_deeper, ?_⟩
  · rw [MixedList.convert_document, MixedList.shown_undashed]
  · rintro ⟨member, line, number⟩ inside item rfl unmarked plain single
    exact MixedLine.shown_of_plain number (list.found_of_placed inside) unmarked plain single

/-- An unordered item is counted as an item of the list around it, and the tags that are written for its
colors are escaped. -/
theorem unordered_item_counted :
    Layout.convert false (normalize "+ a\n- b\n+ c".toList) = "\n1. a\n- b\n3. c\n\n\n".toList ∧
      Layout.convert false (normalize "+ a\n+ c".toList) = "\n1. a\n2. c\n\n\n".toList ∧
      Layout.convert false (normalize "+ a\n- &color(red)\x7bx\x7d".toList) =
        "\n1. a\n- &lt;span style=\"color: red;\"&gt;x&lt;/span&gt;\n\n\n".toList ∧
      Layout.convert false (normalize "- &color(red)\x7bx\x7d".toList) =
        "\n- <span style=\"color: red;\">x</span>\n\n".toList := by
  decide +kernel

end Wikidown
