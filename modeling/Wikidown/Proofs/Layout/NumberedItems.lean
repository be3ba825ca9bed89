import Wikidown.Proofs.Layout.ListItems

/-!
# Items of ordered lists

The items of a list are written with their numbers, and nothing else than the items of the same list
has a part in those numbers.
-/

namespace Wikidown

set_option autoImplicit false

open Layout

/-- An item of an ordered list: plus signs and a text with something visible in it. -/
structure NumberedItem where
  deeper : Nat
  text : Line
  whole : '\n' ∉ text := by decide
  uniform : '\r' ∉ text := by decide
  visible : ∃ c ∈ text, isBlank c = false := by decide
  unmarked : (trim text).head? ≠ some '+' := by decide

namespace NumberedItem

def source (item : NumberedItem) : Line := List.replicate (item.deeper + 1) '+' ++ item.text

/-- An item with its number and its indentation. -/
def indented (item : NumberedItem) (number : Nat) : Line :=
  List.replicate (4 * item.deeper) ' ' ++
    Inline.convert (decimalText number ++ ". ".toList ++ trim item.text)

def rendered (item : NumberedItem) (number : Nat) : Line := escape (item.indented number)

/-- The numbers of items that follow each other in a list. -/
def numbers (items : List NumberedItem) : List Nat :=
  (Counters.run {} (items.map fun item => ((item.deeper + 1 : Nat) : Int))).map Prod.fst

/-- The lines of a list in Markdown. -/
def renderedAll (items : List NumberedItem) : List Line :=
  List.zipWith rendered items (numbers items)

/-- An item as a line of a list. -/
def marked (item : NumberedItem) : OrderedList.Item :=
  ⟨item.deeper, item.text, item.whole, item.visible, item.unmarked⟩

end NumberedItem

namespace NumberedItem

variable {item : NumberedItem}

theorem sources_marked (items : List NumberedItem) :
    items.map source = (items.map marked).map OrderedList.Item.source := by
  rw [List.map_map]
  rfl

theorem source_filled (item : NumberedItem) : OrderedList.Filled item.source := item.marked.filled

theorem sources_filled (items : List NumberedItem) :
    ∀ line ∈ items.map source, OrderedList.Filled line :=
  List.forall_mem_map.mpr fun item _ => item.source_filled

theorem numbers_marked (items : List NumberedItem) :
    OrderedList.Item.numbers (items.map marked) = numbers items := by
  rw [OrderedList.Item.numbers, List.map_map]
  rfl

theorem written_sources (items : List NumberedItem) :
    OrderedList.written (items.map source) = List.zipWith indented items (numbers items) := by
  have sources := OrderedList.Item.written_sources (items.map marked)
  rwa [← sources_marked, numbers_marked, List.zipWith_map_left] at sources

/-- The lines that are written for a list. -/
theorem items_eq (item : NumberedItem) (more : List NumberedItem) :
    OrderedList.items ((List.replicate item.deeper '+' ++ item.text) :: more.map source) =
      List.zipWith indented (item :: more) (numbers (item :: more)) := by
  have rendered := @OrderedList.items_eq (List.replicate item.deeper '+' ++ item.text) (more.map source)
    (sources_filled (item :: more)) item.marked.apart
  exact rendered.trans (written_sources (item :: more))

/-- An item in Markdown begins with its indentation or its number. -/
theorem indented_begins (item : NumberedItem) (number : Nat) :
    ∃ c rest, item.indented number = c :: rest ∧ (c = ' ' ∨ c.isDigit = true) :=
  item.marked.indented_begins number

/-- The rule for unordered lists leaves a numbered item. -/
theorem unordered_indented (item : NumberedItem) (number : Nat) :
    unorderedItem (item.indented number) = item.indented number := by
  obtain ⟨c, rest, shape, begins⟩ := item.indented_begins number
  refine Block.unordered_item_unmarked ?_
  rw [shape, List.head?_cons, ne_eq, Option.some.injEq]
  rintro rfl
  exact absurd begins (by decide)

theorem indented_whole (item : NumberedItem) (number : Nat) : '\n' ∉ item.indented number :=
  item.marked.indented_whole number

/-- An item with two numbers is two lines. -/
theorem rendered_inj {number other : Nat} (same : item.rendered number = item.rendered other) :
    number = other := by
  have shape (number : Nat) : item.rendered number = List.replicate (4 * item.deeper) ' ' ++
      (decimalText number ++ '.' :: escape (Inline.convert (' ' :: trim item.text))) := by
    have front : '&' ∉ List.replicate (4 * item.deeper) ' ' ++ (decimalText number ++ ['.']) := by
      have digits : '&' ∉ decimalText number := fun member => absurd (decimal_is_digit member) (by decide)
      simp [List.mem_replicate, digits]
    have split : List.replicate (4 * item.deeper) ' ' ++
        (decimalText number ++ '.' :: Inline.convert (' ' :: trim item.text)) =
          List.replicate (4 * item.deeper) ' ' ++ (decimalText number ++ ['.']) ++
            Inline.convert (' ' :: trim item.text) := by simp
    rw [rendered, indented, OrderedList.convert_number, split, escape_keep front]
    simp
  rw [shape, shape] at same
  have digits := List.append_cancel_right (List.append_cancel_left same)
  rw [← decimal_value_text number, digits, decimal_value_text]

/-- The first item of the first level has the number one. -/
theorem numbers_first {front : List NumberedItem} (rest : List NumberedItem) (top : item.deeper = 0)
    (below : ∀ other ∈ front, other.deeper ≠ 0) :
    (numbers (front ++ item :: rest))[front.length]? = some 1 := by
  have first : ((item.deeper + 1 : Nat) : Int) ∉
      front.map fun other => ((other.deeper + 1 : Nat) : Int) := by
    intro member
    obtain ⟨other, inside, same⟩ := List.mem_map.mp member
    have deeper := below other inside
    omega
  have one := @Counters.run_first {} _ _ (rest.map fun other => ((other.deeper + 1 : Nat) : Int)) rfl first
  rw [List.length_map] at one
  rw [numbers, List.map_append, List.map_cons]
  exact one

end NumberedItem

end Wikidown
