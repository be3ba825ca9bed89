import Wikidown.Proofs.Layout.NumberedItems

/-!
# The layout of ordered lists

Each of the two rules for ordered lists takes, with a list, the blank line below it and the line below
that one. Where one blank line is all that stands before the next list, the first item of that list is
taken along and cannot open it. The rule that separates lists overlooks every list before which it has
separated one, unless a further item opens it; and before a list that is not separated, the rule that
numbers items takes the first item of the next one along.
-/

namespace Wikidown

set_option autoImplicit false

open Layout

/-- An ordered list, of at least one item. -/
structure NumberedList where
  first : NumberedItem
  rest : List NumberedItem

namespace NumberedList

def items (list : NumberedList) : List NumberedItem := list.first :: list.rest

def source (list : NumberedList) : List Line := list.items.map NumberedItem.source

/-- Whether a list gets a second blank line below it, depending on whether the list before has got
one. -/
def separates (before : Bool) (list : NumberedList) : Bool := !before || !list.rest.isEmpty

/-- The lines of lists behind another. Where that one is not separated, the first item of the next is
no part of a list. -/
def laidOut (run : List NumberedItem → List Line) (loose : NumberedItem → Line) (before : Bool) :
    List NumberedList → List Line
  | [] => [[]]
  | list :: lists =>
      (if before then run list.items else loose list.first :: run list.rest) ++
        (List.replicate (if list.separates before then 2 else 1) [] ++
          laidOut run loose (list.separates before) lists)

/-- The lines of a document that begins with a list. -/
def laidOutAll (run : List NumberedItem → List Line) (loose : NumberedItem → Line) (list : NumberedList)
    (lists : List NumberedList) : List Line :=
  [] :: (run list.items ++ ([] :: [] :: laidOut run loose true lists))

variable {run : List NumberedItem → List Line} {loose : NumberedItem → Line} {before : Bool}
  {lists : List NumberedList}

theorem laid_out_ne_nil : laidOut run loose before lists ≠ [] := by
  induction lists generalizing before with
  | nil => simp [laidOut]
  | cons list lists ih => simp [laidOut, ih]

theorem map_laid_out {change : Line → Line} (empty : change [] = []) :
    (laidOut run loose before lists).map change =
      laidOut (fun items => (run items).map change) (fun item => change (loose item)) before lists := by
  induction lists generalizing before with
  | nil => simp [laidOut, empty]
  | cons list lists ih =>
      rw [laidOut, laidOut, List.map_append, List.map_append, List.map_replicate, empty, ih]
      cases before <;> rfl

theorem mem_laid_out {line : Line} (member : line ∈ laidOut run loose before lists) :
    line = [] ∨ (∃ items, line ∈ run items) ∨ ∃ item, line = loose item := by
  induction lists generalizing before with
  | nil => exact .inl (List.mem_singleton.mp member)
  | cons list lists ih =>
      rw [laidOut, List.mem_append, List.mem_append] at member
      rcases member with here | blank | behind
      · split at here
        · exact .inr (.inl ⟨_, here⟩)
        · rcases List.mem_cons.mp here with rfl | inside
          · exact .inr (.inr ⟨_, rfl⟩)
          · exact .inr (.inl ⟨_, inside⟩)
      · exact .inl (List.eq_of_mem_replicate blank)
      · exact ih behind

/-! ## Searches for lists -/

theorem source_begins (item : NumberedItem) : ∃ rest, item.source = '+' :: rest := ⟨_, rfl⟩

theorem source_whole (item : NumberedItem) : '\n' ∉ item.source := item.source_filled.whole

theorem source_uniform (item : NumberedItem) : '\r' ∉ item.source := by
  simp [NumberedItem.source, item.uniform]

/-- The body of the block that is made of items. -/
def bodyOf (item : NumberedItem) (more : List NumberedItem) : List Line :=
  (List.replicate item.deeper '+' ++ item.text) :: more.map NumberedItem.source

theorem block_lines_body (item : NumberedItem) (more : List NumberedItem) :
    OrderedList.shape.blockLines (bodyOf item more) = (item :: more).map NumberedItem.source :=
  OrderedList.block_lines_filled (NumberedItem.sources_filled (item :: more))

/-- A search takes a list with the two lines below it. -/
theorem segments_from_items (item : NumberedItem) (more : List NumberedItem) (next : Line)
    (rest : List Line) :
    OrderedList.shape.segmentsFrom ((item :: more).map NumberedItem.source ++ [] :: next :: rest) =
      .block (bodyOf item more) :: .line [] :: .line next :: OrderedList.shape.segmentsFrom rest :=
  OrderedList.segments_from_filled (NumberedItem.sources_filled (item :: more)) next rest

/-- The lines that take the place of items that follow each other. -/
def rendered (render : List Line → List Line) : List NumberedItem → List Line
  | [] => []
  | item :: more => render (bodyOf item more)

/-- What a search finds behind a list: of the line that it takes along, nothing. -/
def segmentsBehind (taken : Bool) (content : List Line) : List Segment :=
  if taken then (content.take 1).map .line ++ OrderedList.shape.segmentsFrom (content.drop 1)
  else OrderedList.shape.segmentsFrom content

/-- What a search makes of items and the lines below them. -/
theorem result_of_run (render : List Line → List Line) (items : List NumberedItem) {rest : List Line}
    (nonempty : rest ≠ []) :
    (OrderedList.shape.segmentsFrom (items.map NumberedItem.source ++ [] :: rest)).flatMap
        (BlockShape.result render) =
      rendered render items ++
        [] :: (segmentsBehind (!items.isEmpty) rest).flatMap (BlockShape.result render) := by
  cases items with
  | nil =>
      have empty : OrderedList.shape.segmentsFrom ([] :: rest) =
          .line [] :: OrderedList.shape.segmentsFrom rest := BlockShape.segments_from_of_none rfl
      exact congrArg (List.flatMap (BlockShape.result render)) empty
  | cons item more =>
      obtain ⟨next, rest, rfl⟩ := List.exists_cons_of_ne_nil nonempty
      rw [segments_from_items]
      rfl

theorem segments_behind_empty (taken : Bool) (rest : List Line) :
    segmentsBehind taken ([] :: rest) = .line [] :: OrderedList.shape.segmentsFrom rest := by
  cases taken
  · exact BlockShape.segments_from_of_none rfl
  · rfl

/-! ## The two rules -/

/-- Lists with one blank line below each. -/
def listed (lists : List NumberedList) : List Line :=
  lists.flatMap (fun list => list.source ++ [[]]) ++ [[]]

theorem listed_cons (list : NumberedList) : listed (list :: lists) = list.source ++ [] :: listed lists := by
  rw [listed, List.flatMap_cons, List.append_assoc, List.append_assoc, ← listed]
  rfl

theorem listed_ne_nil : listed lists ≠ [] := by simp [listed]

def sources (items : List NumberedItem) : List Line := items.map NumberedItem.source

/-- The lines of a list with its numbers and its indentation. -/
def numbered (items : List NumberedItem) : List Line :=
  List.zipWith NumberedItem.indented items (NumberedItem.numbers items)

theorem rendered_separate (items : List NumberedItem) :
    rendered OrderedList.separate items = sources items ++ if items.isEmpty then [] else [[]] := by
  cases items with
  | nil => rfl
  | cons item more =>
      rw [rendered, OrderedList.separate, block_lines_body]
      rfl

theorem rendered_items (items : List NumberedItem) : rendered OrderedList.items items = numbered items := by
  cases items with
  | nil => rfl
  | cons item more => exact NumberedItem.items_eq item more

theorem separate_behind :
    (segmentsBehind before (listed lists)).flatMap (BlockShape.result OrderedList.separate) =
      laidOut sources NumberedItem.source before lists := by
  induction lists generalizing before with
  | nil =>
      rw [show listed [] = [[]] from rfl, segments_behind_empty, BlockShape.segments_from_nil]
      rfl
  | cons list lists ih =>
      rw [listed_cons]
      cases before with
      | false =>
          have found := result_of_run OrderedList.separate list.items (@listed_ne_nil lists)
          rw [rendered_separate, ih] at found
          refine found.trans ?_
          rw [List.append_assoc]
          rfl
      | true =>
          have found := result_of_run OrderedList.separate list.rest (@listed_ne_nil lists)
          rw [rendered_separate, ih] at found
          refine (congrArg (list.first.source :: ·) found).trans ?_
          rw [List.append_assoc]
          cases shape : list.rest <;> simp [laidOut, separates, shape, sources, items]

theorem number_behind :
    (segmentsBehind (!before) (laidOut sources NumberedItem.source before lists)).flatMap
        (BlockShape.result OrderedList.items) =
      laidOut numbered NumberedItem.source before lists := by
  induction lists generalizing before with
  | nil =>
      rw [show laidOut _ _ before [] = [[]] from rfl, segments_behind_empty,
        BlockShape.segments_from_nil]
      rfl
  | cons list lists ih =>
      cases before with
      | false =>
          -- the first item is taken along, and two blank lines stand below the others
          have found := result_of_run OrderedList.items list.rest
            (List.cons_ne_nil [] (laidOut sources NumberedItem.source true lists))
          rw [rendered_items, segments_behind_empty, List.flatMap_cons] at found
          refine (congrArg (list.first.source :: ·) found).trans ?_
          rw [show OrderedList.shape.segmentsFrom _ = segmentsBehind (!true) _ from rfl, ih]
          rfl
      | true =>
          simp only [laidOut, if_true]
          cases list.separates true with
          | false =>
              have found := result_of_run OrderedList.items list.items
                (@laid_out_ne_nil sources NumberedItem.source false lists)
              rw [rendered_items] at found
              refine found.trans ?_
              rw [show (!list.items.isEmpty) = !false from rfl, ih]
              rfl
          | true =>
              have found := result_of_run OrderedList.items list.items
                (List.cons_ne_nil [] (laidOut sources NumberedItem.source true lists))
              rw [rendered_items, segments_behind_empty, List.flatMap_cons] at found
              refine found.trans ?_
              rw [show OrderedList.shape.segmentsFrom _ = segmentsBehind (!true) _ from rfl, ih]
              rfl

/-! ## Documents of lists -/

theorem mem_laid_out_all {list : NumberedList} {line : Line}
    (member : line ∈ laidOutAll run loose list lists) :
    line = [] ∨ (∃ items, line ∈ run items) ∨ ∃ item, line = loose item := by
  simp only [laidOutAll, List.mem_cons, List.mem_append] at member
  rcases member with empty | here | empty | empty | behind
  · exact .inl empty
  · exact .inr (.inl ⟨_, here⟩)
  · exact .inl empty
  · exact .inl empty
  · exact mem_laid_out behind

theorem mem_listed {line : Line} (member : line ∈ listed lists) :
    line = [] ∨ ∃ item : NumberedItem, line = item.source := by
  rcases List.mem_append.mp member with inside | last
  · obtain ⟨list, _, here⟩ := List.mem_flatMap.mp inside
    rcases List.mem_append.mp here with own | blank
    · obtain ⟨item, _, rfl⟩ := List.mem_map.mp own
      exact .inr ⟨item, rfl⟩
    · exact .inl (List.mem_singleton.mp blank)
  · exact .inl (List.mem_singleton.mp last)

theorem lines_listed : lines (unlines ([] :: listed lists)) = [] :: listed lists := by
  refine lines_unlines (List.cons_ne_nil _ _) fun line member => ?_
  rcases List.mem_cons.mp member with rfl | behind
  · exact List.not_mem_nil
  · rcases mem_listed behind with rfl | ⟨item, rfl⟩
    · exact List.not_mem_nil
    · exact source_whole item

theorem lines_laid_out {list : NumberedList} (whole : ∀ items, ∀ line ∈ run items, '\n' ∉ line) :
    lines (unlines (laidOutAll run NumberedItem.source list lists)) =
      laidOutAll run NumberedItem.source list lists := by
  refine lines_unlines (List.cons_ne_nil _ _) fun line member => ?_
  rcases mem_laid_out_all member with rfl | ⟨items, here⟩ | ⟨item, rfl⟩
  · exact List.not_mem_nil
  · exact whole items line here
  · exact source_whole item

theorem sources_whole (items : List NumberedItem) : ∀ line ∈ sources items, '\n' ∉ line :=
  List.forall_mem_map.mpr fun item _ => source_whole item

theorem separate_lists (list : NumberedList) :
    OrderedList.shape.replaceBlocks OrderedList.separate (unlines ([] :: listed (list :: lists))) =
      unlines (laidOutAll sources NumberedItem.source list lists) := by
  have found := result_of_run OrderedList.separate list.items (@listed_ne_nil lists)
  rw [rendered_separate, separate_behind] at found
  rw [BlockShape.replace_blocks_eq, lines_listed, listed_cons, BlockShape.segments, List.flatMap_cons]
  refine congrArg (fun behind => unlines ([] :: behind)) (found.trans ?_)
  rw [List.append_assoc]
  rfl

theorem number_lists (list : NumberedList) :
    OrderedList.shape.replaceBlocks OrderedList.items
        (unlines (laidOutAll sources NumberedItem.source list lists)) =
      unlines (laidOutAll numbered NumberedItem.source list lists) := by
  have found := result_of_run OrderedList.items list.items
    (List.cons_ne_nil [] (laidOut sources NumberedItem.source true lists))
  have behind : (OrderedList.shape.segmentsFrom (laidOut sources NumberedItem.source true lists)).flatMap
      (BlockShape.result OrderedList.items) = laidOut numbered NumberedItem.source true lists :=
    @number_behind true lists
  rw [rendered_items, segments_behind_empty, List.flatMap_cons, behind] at found
  rw [BlockShape.replace_blocks_eq, lines_laid_out sources_whole, laidOutAll, BlockShape.segments,
    List.flatMap_cons]
  exact congrArg (fun behind => unlines ([] :: behind)) found

theorem mem_numbered {items : List NumberedItem} {line : Line} (member : line ∈ numbered items) :
    ∃ (item : NumberedItem) (number : Nat), line = item.indented number := by
  rw [numbered, ← List.map_uncurry_zip_eq_zipWith] at member
  obtain ⟨⟨item, number⟩, _, rfl⟩ := List.mem_map.mp member
  exact ⟨item, number, rfl⟩

theorem numbered_whole (items : List NumberedItem) : ∀ line ∈ numbered items, '\n' ∉ line := by
  intro line member
  obtain ⟨item, number, rfl⟩ := mem_numbered member
  exact item.indented_whole number

theorem rendered_all (items : List NumberedItem) :
    (numbered items).map escape = NumberedItem.renderedAll items := by
  rw [numbered, List.map_zipWith]
  rfl

theorem uniform_listed : '\r' ∉ unlines ([] :: listed lists) := by
  refine not_mem_unlines (by decide) (List.forall_mem_cons.mpr ⟨List.not_mem_nil, fun line member => ?_⟩)
  rcases mem_listed member with rfl | ⟨item, rfl⟩
  · exact List.not_mem_nil
  · exact source_uniform item

/-- The rule for unordered lists leaves numbered items, and items that are no part of a list. -/
theorem unordered_laid_out {list : NumberedList} :
    (laidOutAll numbered NumberedItem.source list lists).map (fun line => escape (unorderedItem line)) =
      laidOutAll NumberedItem.renderedAll (fun item => escape item.source) list lists := by
  have kept : ∀ line ∈ laidOutAll numbered NumberedItem.source list lists,
      escape (unorderedItem line) = escape line := by
    intro line member
    refine congrArg escape ?_
    rcases mem_laid_out_all member with rfl | ⟨items, here⟩ | ⟨item, rfl⟩
    · rfl
    · obtain ⟨item, number, rfl⟩ := mem_numbered here
      exact item.unordered_indented number
    · exact Block.unordered_item_unmarked (by simp [NumberedItem.source, List.replicate_succ])
  have empty : escape [] = [] := escape_of_absent (by decide)
  rw [List.map_congr_left kept, laidOutAll, List.map_cons, List.map_append, List.map_cons, List.map_cons,
    map_laid_out empty, empty, rendered_all, funext rendered_all]
  rfl

/-- The layout of lists with a blank line between each two of them. -/
theorem convert_listed (promote : Bool) (list : NumberedList) :
    Layout.convert promote (unlines ([] :: listed (list :: lists))) =
      unlines (laidOutAll NumberedItem.renderedAll (fun item => escape item.source) list lists) := by
  have heads : ∀ line ∈ lines (unlines ([] :: listed (list :: lists))),
      line.head? ≠ some '*' ∧ line.head? ≠ some '|' := by
    intro line member
    rw [lines_listed] at member
    rcases List.mem_cons.mp member with rfl | behind
    · simp
    · rcases mem_listed behind with rfl | ⟨item, rfl⟩
      · simp
      · simp [NumberedItem.source, List.replicate_succ]
  have whole : ∀ line ∈ laidOutAll numbered NumberedItem.source list lists, '\n' ∉ line := by
    rw [← lines_laid_out numbered_whole]
    exact fun line => no_newline_of_mem_lines
  have below := @below_blocks promote (laidOutAll numbered NumberedItem.source list lists)
    (List.cons_ne_nil _ _) whole
  rw [OrderedList.convert_of_lists uniform_listed heads, separate_lists, number_lists, below,
    unordered_laid_out]

end NumberedList

end Wikidown
