import Wikidown.Proofs.Layout.NumberedLists
import Wikidown.Proofs.Normalize

/-!
# Ordered lists

A document of ordered lists with a blank line between each two of them. The rules for ordered lists
number every list on its own. They overlook the first item of a list where a single item is all that
the list above it has, unless that one is the first list of the document or stands below a list that
has been overlooked itself.
-/

namespace Wikidown

set_option autoImplicit false

open Layout

namespace NumberedList

/-- The source of lists with a blank line between each two of them. -/
def document (lists : List NumberedList) : Text :=
  doubleFeed.intercalate (lists.map fun list => unlines list.source)

/-- An item that is no part of a list. -/
def loose (item : NumberedItem) : Line := escape item.source

variable {before : Bool} {list : NumberedList} {lists : List NumberedList}

theorem lines_source (list : NumberedList) : lines (unlines list.source) = list.source :=
  lines_unlines (by simp [source, items]) (sources_whole list.items)

theorem lines_document (nonempty : lists ≠ []) :
    Wikidown.lines (document lists) ++ [[], []] = listed lists :=
  lines_intercalate_unlines lines_source nonempty

theorem normalize_document (nonempty : lists ≠ []) :
    normalize (document lists) = unlines ([] :: listed lists) := by
  have inside {line : Line} (member : line ∈ lines (document lists)) :
      line = [] ∨ ∃ item : NumberedItem, line = item.source := by
    refine @mem_listed lists line ?_
    rw [← lines_document nonempty]
    exact List.mem_append_left _ member
  have uniform : '\r' ∉ document lists := by
    refine not_mem_of_lines (by decide) fun line own => ?_
    rcases inside own with rfl | ⟨item, rfl⟩
    · exact List.not_mem_nil
    · exact source_uniform item
  have undirected : "#contents".toList ∉ lines (document lists) := by
    intro member
    rcases inside member with empty | ⟨item, same⟩
    · exact absurd empty (by decide)
    · obtain ⟨rest, begins⟩ := source_begins item
      exact absurd (congrArg List.head? (same.trans begins)) (by simp)
  rw [← unlines_lines (normalize (document lists)), lines_normalize uniform undirected, List.cons_append,
    lines_document nonempty]

theorem rendered_unmarked {items : List NumberedItem} {line : Line}
    (member : line ∈ NumberedItem.renderedAll items) : line.head? ≠ some '+' := by
  rw [← rendered_all] at member
  obtain ⟨above, inside, rfl⟩ := List.mem_map.mp member
  obtain ⟨item, number, rfl⟩ := mem_numbered inside
  obtain ⟨c, rest, shape, begins⟩ := item.indented_begins number
  have apart {other : Char} (space : other ≠ ' ') (digit : other.isDigit = false) : c ≠ other := by
    rintro rfl
    rcases begins with blank | numeral
    · exact space blank
    · rw [digit] at numeral
      exact absurd numeral (by decide)
  rw [shape, escape_cons (apart (by decide) (by decide)), List.head?_cons, ne_eq, Option.some.injEq]
  exact apart (by decide) (by decide)

theorem loose_marked (item : NumberedItem) : (loose item).head? = some '+' := by
  obtain ⟨rest, begins⟩ := source_begins item
  rw [loose, begins, escape_cons (by decide)]
  rfl

/-- Behind a list that is separated, all lists are numbered if each but the last has a second item. -/
theorem all_numbered_behind :
    (∀ line ∈ laidOut NumberedItem.renderedAll loose before lists, line.head? ≠ some '+') ↔
      (before = true ∨ lists = []) ∧ ∀ between ∈ lists.dropLast, between.rest ≠ [] := by
  induction lists generalizing before with
  | nil => simp [laidOut]
  | cons list lists ih =>
      cases before with
      | false =>
          have opens : loose list.first ∈ laidOut NumberedItem.renderedAll loose false (list :: lists) := by
            simp [laidOut]
          constructor
          · exact fun none => absurd (loose_marked list.first) (none _ opens)
          · rintro ⟨separated | empty, _⟩
            · exact absurd separated (by decide)
            · exact absurd empty (List.cons_ne_nil _ _)
      | true =>
          have own : ∀ line ∈ NumberedItem.renderedAll list.items ++
              List.replicate (if list.separates true then 2 else 1) [], line.head? ≠ some '+' := by
            intro line member
            rcases List.mem_append.mp member with here | blank
            · exact rendered_unmarked here
            · simp [List.eq_of_mem_replicate blank]
          have separated : list.separates true = true ↔ list.rest ≠ [] := by
            simp [separates]
          rw [laidOut, if_pos rfl, ← List.append_assoc, List.forall_mem_append, and_iff_right own, ih,
            separated]
          cases lists with
          | nil => simp
          | cons next lists =>
              rw [List.dropLast_cons_cons, List.forall_mem_cons]
              simp

theorem lines_rendered : lines (unlines (laidOutAll NumberedItem.renderedAll loose list lists)) =
    laidOutAll NumberedItem.renderedAll loose list lists := by
  refine lines_unlines (List.cons_ne_nil _ _) fun line member => ?_
  rcases mem_laid_out_all member with rfl | ⟨items, here⟩ | ⟨item, rfl⟩
  · exact List.not_mem_nil
  · rw [← rendered_all] at here
    obtain ⟨above, inside, rfl⟩ := List.mem_map.mp here
    exact (escape_fills (numbered_whole items above inside)).1
  · exact (escape_fills (source_whole item)).1

/-- All lists are numbered if each between the first and the last has a second item. -/
theorem all_numbered :
    (∀ line ∈ laidOutAll NumberedItem.renderedAll loose list lists, line.head? ≠ some '+') ↔
      ∀ between ∈ lists.dropLast, between.rest ≠ [] := by
  have own : ∀ line ∈ NumberedItem.renderedAll list.items, line.head? ≠ some '+' :=
    fun line => rendered_unmarked
  have behind := @all_numbered_behind true lists
  simp only [laidOutAll, List.forall_mem_cons, List.forall_mem_append, behind, true_or, true_and]
  rw [and_iff_right own]
  simp

end NumberedList

/-- What the layout makes of ordered lists, when it makes a numbered list of each of them, and how it
numbers their items. -/
theorem convert_numbered_lists (promote : Bool) (list : NumberedList) (lists : List NumberedList) :
    Layout.convert promote (normalize (NumberedList.document (list :: lists))) =
        unlines (NumberedList.laidOutAll NumberedItem.renderedAll NumberedList.loose list lists) ∧
      ((∀ line ∈ lines (Layout.convert promote (normalize (NumberedList.document (list :: lists)))),
          line.head? ≠ some '+') ↔ ∀ between ∈ lists.dropLast, between.rest ≠ []) ∧
      ∀ (front : List NumberedItem) (item : NumberedItem) (rest : List NumberedItem), item.deeper = 0 →
        (∀ other ∈ front, other.deeper ≠ 0) →
          (NumberedItem.numbers (front ++ item :: rest))[front.length]? = some 1 := by
  have layout : Layout.convert promote (normalize (NumberedList.document (list :: lists))) =
      unlines (NumberedList.laidOutAll NumberedItem.renderedAll NumberedList.loose list lists) := by
    rw [NumberedList.normalize_document (List.cons_ne_nil list lists)]
    exact NumberedList.convert_listed promote list
  refine ⟨layout, ?_, fun front item rest => NumberedItem.numbers_first rest⟩
  rw [layout, NumberedList.lines_rendered]
  exact NumberedList.all_numbered

/-- The rule that separates lists overlooks the second one, and the rule that numbers items overlooks
the third one with it. -/
theorem third_list_overlooked :
    ∃ line ∈ lines (Layout.convert false (normalize "+ a\n\n+ b\n\n+ c".toList)), line.head? = some '+' := by
  decide +kernel

end Wikidown
