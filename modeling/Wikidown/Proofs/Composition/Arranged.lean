import Wikidown.Proofs.Composition.Masked

/-!
# Arranged blocks

The layout writes headings and lists, each line on its own, and leaves placeholders alone. The blank
lines between the blocks are then brought to one.
-/

namespace Wikidown.Block

set_option autoImplicit false

variable {promote : Bool} {before : Kind → Nat} {block : Block} {blocks : List Block}

theorem split_markers {c : Char} {rest : Text} (other : rest.head? ≠ some c) (count : Nat) :
    (List.replicate count c ++ rest).takeWhile (· == c) = List.replicate count c ∧
      (List.replicate count c ++ rest).dropWhile (· == c) = rest := by
  induction count with
  | zero =>
      cases rest with
      | nil => exact ⟨rfl, rfl⟩
      | cons d rest =>
          have apart : (d == c) = false := by simpa using other
          exact ⟨List.takeWhile_cons_of_neg (by simp [apart]),
            List.dropWhile_cons_of_neg (by simp [apart])⟩
  | succ count ih =>
      have marker : (c == c) = true := beq_self_eq_true c
      rw [List.replicate_succ, List.cons_append, List.takeWhile_cons, List.dropWhile_cons]
      simp only [marker, if_true, ih.1, ih.2, and_self]

theorem unordered_item_unmarked {line : Line} (other : line.head? ≠ some '-') :
    Layout.unorderedItem line = line := by
  have none : line.takeWhile (· == '-') = [] := (split_markers other 0).1
  rw [Layout.unorderedItem, none]
  rfl

theorem converted_heading (heading : Heading) :
    Layout.converted heading.source = [[], heading.rendered, []] := by
  have blank : isBlank ' ' = true := by decide
  obtain ⟨stars, title⟩ := @split_markers '*' (' ' :: heading.title) (by simp) (heading.deeper + 1)
  have shown : Layout.heading heading.source =
      [[], List.replicate (heading.deeper + 1) '#' ++ ' ' :: Inline.convert (trim heading.title), []] := by
    unfold Layout.heading
    rw [Heading.source, stars, title, trim, trim_start_cons_blank blank, ← trim]
    split
    · next none => exact absurd none (by simp [List.replicate_succ])
    · rw [List.length_replicate]
  have none : Layout.escape (Layout.unorderedItem []) = [] := Layout.escape_of_absent (by decide)
  rw [Layout.converted, shown, List.map_cons, List.map_cons, List.map_singleton, none,
    unordered_item_unmarked (by simp [List.replicate_succ]), ← Heading.rendered]

/-- An item behind dashes is shown behind four spaces for each of them but the first. -/
theorem unordered_item_dashed {text : Line} (undashed : text.head? ≠ some '-') (nonempty : text ≠ [])
    (deeper : Nat) : Layout.unorderedItem (List.replicate (deeper + 1) '-' ++ text) =
      List.replicate (4 * deeper) ' ' ++ "- ".toList ++ trim (Inline.convert text) := by
  obtain ⟨dashes, item⟩ := split_markers undashed (deeper + 1)
  simp only [Layout.unorderedItem, dashes, item, List.length_replicate]
  rw [if_neg (by simp [nonempty]), Nat.add_sub_cancel]

theorem converted_list_line (line : ListLine) :
    Layout.converted line.source = [line.rendered] := by
  obtain ⟨-, item⟩ := split_markers line.undashed (line.deeper + 1)
  have unstarred : line.source.takeWhile (· == '*') = [] :=
    (@split_markers '*' line.source (by simp [ListLine.source, List.replicate_succ]) 0).1
  have shown : Layout.heading line.source = [line.source] := by
    rw [Layout.heading, unstarred]
  rw [Layout.converted, shown, List.map_singleton, ListLine.rendered]
  by_cases rule : line.item = []
  · have dashed : ∀ c ∈ line.source, c = '-' := by
      intro c member
      rw [ListLine.source, rule, List.append_nil] at member
      exact List.eq_of_mem_replicate member
    have stays : Layout.unorderedItem line.source = line.source := by
      have nothing : (line.source.dropWhile (· == '-')).isEmpty = true := by
        rw [ListLine.source, item, rule]
        rfl
      rw [Layout.unorderedItem, nothing, Bool.or_true, if_pos rfl]
    rw [if_pos rule, stays, Layout.escape_of_absent fun member => absurd (dashed '&' member) (by decide)]
  · rw [if_neg rule, ListLine.source, unordered_item_dashed line.undashed rule]

theorem heading_filled (heading : Heading) : '\n' ∉ heading.rendered ∧ heading.rendered ≠ [] := by
  have title := (Inline.convert_fills (Inline.trim_whole heading.whole)).1
  have filled := @Layout.escape_fills
    (List.replicate (heading.deeper + 1) '#' ++ ' ' :: Inline.convert (trim heading.title))
    (by simp [title])
  exact ⟨filled.1, filled.2 (by simp)⟩

theorem list_line_filled (line : ListLine) : '\n' ∉ line.rendered ∧ line.rendered ≠ [] := by
  unfold ListLine.rendered
  split
  · exact ⟨list_line_whole line, by simp [ListLine.source, List.replicate_succ]⟩
  · have item := Inline.trim_whole (Inline.convert_fills line.whole).1
    have filled := @Layout.escape_fills
      (List.replicate (4 * line.deeper) ' ' ++ "- ".toList ++ trim (Inline.convert line.item))
      (by simp [item])
    exact ⟨filled.1, filled.2 (by simp)⟩

theorem lines_rendered_list (list : UnorderedList) :
    lines (unlines (list.content.map ListLine.rendered)) = list.content.map ListLine.rendered := by
  refine lines_unlines (by simpa using list.nonempty) fun line member => ?_
  obtain ⟨one, _, rfl⟩ := List.mem_map.mp member
  exact (list_line_filled one).1

theorem written_of_some {kind : Kind} (some : block.kind? = some kind) (shown : Kind → Nat → Text) :
    block.written shown before = block.numbered shown before kind := by
  rw [written, some]

theorem written_of_none (none : block.kind? = none) (shown : Kind → Nat → Text) :
    block.written shown before = lines block.rendered := by
  rw [written, none]

theorem written_filled : ∀ line ∈ block.written token before, '\n' ∉ line ∧ line ≠ [] := by
  intro line member
  cases block with
  | heading one =>
      rw [written_of_none rfl, rendered, lines_of_no_newline (heading_filled one).1,
        List.mem_singleton] at member
      rw [member]
      exact heading_filled one
  | list run =>
      rw [written_of_none rfl, rendered, lines_rendered_list] at member
      obtain ⟨one, _, rfl⟩ := List.mem_map.mp member
      exact list_line_filled one
  | paragraph | code | quote =>
      rw [written_of_some rfl] at member
      obtain ⟨index, _, rfl⟩ := List.mem_map.mp member
      exact ⟨not_mem_token (by decide), token_ne_nil _ index⟩

theorem contents_ne_nil {kind : Kind} (some : block.kind? = some kind) : block.contents ≠ [] := by
  cases block with
  | paragraph run => exact run.nonempty
  | code | quote => simp [contents]
  | heading | list => exact absurd some (by simp [kind?])

theorem written_ne_nil (shown : Kind → Nat → Text) : block.written shown before ≠ [] := by
  cases found : block.kind? with
  | none =>
      rw [written_of_none found]
      exact lines_ne_nil _
  | some kind =>
      rw [written_of_some found, numbered]
      simpa using contents_ne_nil found

/-- How many blank lines the layout puts before a block. -/
def leads : Block → Nat
  | .heading _ => 1
  | .paragraph _ | .list _ | .code _ | .quote _ => 0

/-- How many blank lines stand behind a block besides the one that separates it from the next. -/
def trails : Block → Nat
  | .heading _ | .paragraph _ => 1
  | .list _ | .code _ | .quote _ => 0

def arranged (before : Kind → Nat) (block : Block) : List Line :=
  List.replicate block.leads [] ++ (block.written token before ++ List.replicate block.trails [])

theorem converted_block : (block.hidden before ++ block.ending).flatMap Layout.converted =
    block.arranged before := by
  have tokens : ∀ kind, (block.numbered token before kind).flatMap Layout.converted =
      block.numbered token before kind := by
    intro kind
    rw [numbered, List.flatMap_map]
    exact (List.flatMap_congr fun index _ => Layout.converted_token kind index).trans
      (List.flatMap_pure_eq_map (token kind) _)
  cases block with
  | heading one =>
      have shown : (Block.heading one).hidden before = [one.source] := lines_heading one
      rw [shown, arranged, written_of_none rfl, rendered, lines_of_no_newline (heading_filled one).1]
      simp [ending, converted_heading, leads, trails]
  | list run =>
      have shown : (Block.list run).hidden before = run.content.map ListLine.source := lines_list run
      rw [shown, arranged, written_of_none rfl, rendered, lines_rendered_list]
      simp only [ending, List.append_nil, List.flatMap_map, leads, trails, List.replicate_zero,
        List.nil_append]
      exact (List.flatMap_congr fun line _ => converted_list_line line).trans
        (List.flatMap_pure_eq_map ListLine.rendered _)
  | paragraph run =>
      rw [hidden, masked_of_mem rfl (by decide), List.flatMap_append, tokens, arranged,
        written_of_some rfl]
      simp [ending, Layout.converted_nil, leads, trails]
  | code | quote =>
      rw [hidden, masked_of_mem rfl (by decide), List.flatMap_append, tokens, arranged,
        written_of_some rfl]
      rfl

/-- The lines of a masked block: its own if there is nothing to mask, and placeholders. -/
theorem hidden_line : ∀ line ∈ block.hidden before ++ block.ending, line = [] ∨
    (∃ kind index, line = token kind index) ∨ block.kind? = none ∧ line ∈ lines block.source := by
  intro line member
  rcases List.mem_append.mp member with here | blank
  · cases found : block.kind? with
    | none =>
        rw [hidden, masked_of_none found] at here
        exact .inr (.inr ⟨rfl, here⟩)
    | some kind =>
        have every : kind ∈ [Kind.paragraph, .quote, .code] := by cases kind <;> decide
        rw [hidden, masked_of_mem found every] at here
        obtain ⟨index, _, rfl⟩ := List.mem_map.mp here
        exact .inr (.inl ⟨kind, index, rfl⟩)
  · cases block with
    | paragraph => exact .inl (List.mem_singleton.mp blank)
    | heading | list | code | quote => exact absurd blank List.not_mem_nil

theorem hidden_line_plain : ∀ line ∈ block.hidden before ++ block.ending, Layout.Plain line := by
  intro line member
  rcases hidden_line line member with rfl | ⟨kind, index, rfl⟩ | ⟨none, own⟩
  · exact ⟨by simp, by simp⟩
  · obtain ⟨tail, begins⟩ := token_begins kind index
    have first : (token kind index).head? = some '\x7b' := by
      rw [begins]
      rfl
    rw [Layout.Plain, first]
    exact ⟨by decide, by decide⟩
  · exact ⟨marked_line_begins none (by decide) (by decide) line own,
      marked_line_begins none (by decide) (by decide) line own⟩

theorem hidden_line_lacks {c : Char} (strange : inToken c = false) (absent : c ∉ block.source) :
    ∀ line ∈ block.hidden before ++ block.ending, c ∉ line := by
  intro line member
  rcases hidden_line line member with rfl | ⟨kind, index, rfl⟩ | ⟨_, own⟩
  · exact List.not_mem_nil
  · exact not_mem_token strange
  · exact fun inside => absent ((infix_of_mem_lines own).subset inside)

theorem hidden_line_whole : ∀ line ∈ block.hidden before ++ block.ending, '\n' ∉ line := by
  intro line member
  rcases hidden_line line member with rfl | ⟨kind, index, rfl⟩ | ⟨_, own⟩
  · exact List.not_mem_nil
  · exact not_mem_token (by decide)
  · exact no_newline_of_mem_lines own

theorem convert_sequence (uniform : ∀ block ∈ blocks, '\r' ∉ block.source) :
    Layout.convert promote
        (unlines ([] :: sequence (fun before block => block.hidden before ++ block.ending) before blocks)) =
      unlines ([] :: sequence arranged before blocks) := by
  have each : ∀ line ∈ [] :: sequence (fun before block => block.hidden before ++ block.ending) before blocks,
      '\n' ∉ line ∧ '\r' ∉ line ∧ Layout.Plain line := by
    have empty : '\n' ∉ ([] : Line) ∧ '\r' ∉ ([] : Line) ∧ Layout.Plain [] :=
      ⟨by simp, by simp, by simp, by simp⟩
    intro line member
    rcases List.mem_cons.mp member with rfl | behind
    · exact empty
    · rcases mem_sequence behind with rfl | ⟨block, inside, place, own⟩
      · exact empty
      · exact ⟨hidden_line_whole line own, hidden_line_lacks (by decide) (uniform block inside) line own,
          hidden_line_plain line own⟩
  have content := lines_unlines (by simp) fun line member => (each line member).1
  rw [Layout.convert_of_plain, content, List.flatMap_cons, Layout.converted_nil,
    flatMap_sequence Layout.converted Layout.converted_nil]
  · exact congrArg (fun rows => unlines ([] :: rows))
      (sequence_congr fun block _ before => converted_block)
  · exact not_mem_unlines (by decide) fun line inside => (each line inside).2.1
  · rw [content]
    exact fun line member => (each line member).2.2

theorem unlines_blank_lines (count : Nat) {content : List Line} (nonempty : content ≠ []) :
    unlines (List.replicate count [] ++ content) = List.replicate count '\n' ++ unlines content := by
  induction count with
  | zero => rfl
  | succ count ih =>
      rw [List.replicate_succ, List.cons_append, unlines_cons (by simp [nonempty]), ih]
      rfl

theorem solid_of_filled {content : List Line} (nonempty : content ≠ [])
    (filled : ∀ line ∈ content, '\n' ∉ line ∧ line ≠ []) : Solid (unlines content) := by
  obtain ⟨first, more, begins⟩ := List.exists_cons_of_ne_nil nonempty
  obtain ⟨front, last, ends⟩ := (List.eq_nil_or_concat content).resolve_left nonempty
  rw [List.concat_eq_append] at ends
  have head := solid_of_whole (filled first (by simp [begins])).1 (filled first (by simp [begins])).2
  have tail := solid_of_whole (filled last (by simp [ends])).1 (filled last (by simp [ends])).2
  obtain ⟨c, behind, shape⟩ := List.exists_cons_of_ne_nil head.nonempty
  have starts : unlines content = c :: unlines (behind :: more) := by
    rw [begins, shape, unlines_cons_char]
  refine ⟨?_, ?_, by simp [starts]⟩
  · have same : (unlines content).head? = first.head? := by
      rw [starts, shape]
      rfl
    rw [same]
    exact head.begins
  · have whole := lines_unlines nonempty fun line member => (filled line member).1
    obtain ⟨above, final⟩ := last_line_suffix (whole.trans ends)
    rw [← final, List.getLast?_append_of_ne_nil above tail.nonempty]
    exact tail.ends

/-- How many blank lines stand before blocks. -/
def leadsOf (blocks : List Block) : Nat := (blocks.head?.map leads).getD 0

/-- Collapsing leaves one blank line between blocks. -/
theorem squeeze_sequence (count : Nat) :
    squeeze (List.replicate count '\n' ++ unlines (sequence arranged before blocks)) =
      List.replicate (min (count + leadsOf blocks) 2) '\n' ++ paged token before blocks := by
  induction blocks generalizing before count with
  | nil => exact squeeze_run count (by simp [sequence, unlines_singleton])
  | cons block rest ih =>
      have filled := @written_filled before block
      have solid := solid_of_filled (written_ne_nil token) filled
      have single : ¬ tripleFeed <:+: unlines (block.written token before) := by
        refine single_of_filled fun line member => ?_
        rw [lines_unlines (written_ne_nil token) fun line member => (filled line member).1] at member
        exact (filled line member).2
      have shape : unlines (sequence arranged before (block :: rest)) =
          List.replicate block.leads '\n' ++ (unlines (block.written token before) ++
            (List.replicate (block.trails + 2) '\n' ++
              unlines (sequence arranged (block.next before) rest))) := by
        have blanks : [] :: sequence arranged (block.next before) rest =
            List.replicate 1 [] ++ sequence arranged (block.next before) rest := rfl
        rw [sequence, blanks, arranged, List.append_assoc, List.append_assoc,
          unlines_blank_lines _ (by simp [written_ne_nil]), ← List.append_assoc (List.replicate _ _),
          List.replicate_append_replicate, unlines_append (written_ne_nil token) (by simp),
          unlines_blank_lines _ sequence_ne_nil]
        rfl
      have begins : (unlines (block.written token before) ++
          (List.replicate (block.trails + 2) '\n' ++
            unlines (sequence arranged (block.next before) rest))).head? ≠ some '\n' := by
        rw [List.head?_append_of_ne_nil _ solid.nonempty]
        exact solid.begins
      have later := @ih (block.next before) (block.trails + 2)
      have two : min (block.trails + 2 + leadsOf rest) 2 = 2 := by omega
      rw [two] at later
      rw [shape, ← List.append_assoc, List.replicate_append_replicate, squeeze_run _ begins,
        squeeze_append single solid.ends, later]
      rfl

/-- The page of a document that is made of blocks, with its placeholders. -/
theorem arranged_composed (nonempty : blocks ≠ []) (uniform : '\r' ∉ composed source blocks)
    (undirected : "#contents".toList ∉ lines (composed source blocks)) :
    Document.arranged promote (composed source blocks) =
      List.replicate (min (1 + leadsOf blocks) 2) '\n' ++ paged token (fun _ => 0) blocks := by
  have each : ∀ block ∈ blocks, '\r' ∉ block.source := fun block member inside =>
    uniform ((composed_inside member).subset inside)
  have blank := unlines_blank_lines 1 (@sequence_ne_nil arranged (fun _ => 0) blocks)
  rw [Document.arranged, masked_composed nonempty uniform undirected, convert_sequence each,
    collapse_eq_squeeze, ← squeeze_sequence, ← blank]
  rfl

end Wikidown.Block
