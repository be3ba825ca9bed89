import Wikidown.Proofs.Composition.Blocks
import Wikidown.Proofs.Placeholder.Delimited
import Wikidown.Proofs.Placeholder.Masking

/-!
# Masked blocks

Each pass of masking takes the blocks of one kind and leaves the lines of all others as they are.
-/

namespace Wikidown.Masked

set_option autoImplicit false

variable {kind : Kind} {content : List Line}

theorem hide_blocks_lines (kind : Kind) (next : Nat) (content : List Line) (rest : List Segment) :
    hideBlocks kind next (content.map .line ++ rest) =
      (content ++ (hideBlocks kind next rest).1, (hideBlocks kind next rest).2) := by
  induction content with
  | nil => rfl
  | cons line content ih => rw [List.map_cons, List.cons_append, hideBlocks, ih]; rfl

theorem hide_paragraphs_others (next : Nat) (rest : List Line)
    (others : ∀ line ∈ content, isParagraph line = false) :
    hideParagraphs next (content ++ rest) =
      (content ++ (hideParagraphs next rest).1, (hideParagraphs next rest).2) := by
  induction content with
  | nil => rfl
  | cons line content ih =>
      rw [List.forall_mem_cons] at others
      rw [List.cons_append, hideParagraphs, if_neg (by simp [others.1]), ih others.2]
      rfl

theorem hide_paragraphs_run (next : Nat) (rest : List Line)
    (isText : ∀ line ∈ content, isParagraph line = true) :
    hideParagraphs next (content ++ rest) =
      ((List.range' next content.length).map (token .paragraph) ++
        (hideParagraphs (next + content.length) rest).1,
        content ++ (hideParagraphs (next + content.length) rest).2) := by
  induction content generalizing next with
  | nil => rfl
  | cons line content ih =>
      rw [List.forall_mem_cons] at isText
      have size : next + (line :: content).length = next + 1 + content.length := by
        rw [List.length_cons]
        omega
      rw [List.cons_append, hideParagraphs, if_pos isText.1, ih (next + 1) isText.2, size,
        List.length_cons, List.range'_succ]
      rfl

theorem is_paragraph_token (index : Nat) : isParagraphToken (token .paragraph index) = true := by
  have front : token .paragraph index =
      Kind.paragraph.opening ++ (decimalText index ++ tokenClosing) := by
    rw [token, List.append_assoc]
  have ends : endsWith tokenClosing (decimalText index ++ tokenClosing) = true :=
    ends_with_iff.mpr ⟨decimalText index, rfl⟩
  rw [isParagraphToken, front, after_append]
  exact ends

theorem end_paragraphs_cons {line : Line} (rest : List Line)
    (other : isParagraphToken line = false) :
    endParagraphs (line :: rest) = line :: endParagraphs rest := by
  cases rest with
  | nil => rfl
  | cons next rest => rw [endParagraphs, if_neg (by simp [other])]

theorem end_paragraphs_others (rest : List Line)
    (others : ∀ line ∈ content, isParagraphToken line = false) :
    endParagraphs (content ++ rest) = content ++ endParagraphs rest := by
  induction content with
  | nil => rfl
  | cons line content ih =>
      rw [List.forall_mem_cons] at others
      rw [List.cons_append, end_paragraphs_cons _ others.1, ih others.2]
      rfl

/-- A run of paragraphs before an empty line. -/
theorem end_paragraphs_run (next count : Nat) (rest : List Line) :
    endParagraphs ((List.range' next (count + 1)).map (token .paragraph) ++ [] :: rest) =
      (List.range' next (count + 1)).map (token .paragraph) ++ [] :: [] :: endParagraphs rest := by
  induction count generalizing next with
  | zero =>
      have apart : startsWith "\x7b\x7b".toList [] = false := rfl
      have here : (isParagraphToken (token .paragraph next) &&
          !startsWith "\x7b\x7b".toList []) = true := by
        rw [is_paragraph_token, apart]
        rfl
      have last : (List.range' next (0 + 1)).map (token .paragraph) = [token .paragraph next] := rfl
      rw [last, List.singleton_append, endParagraphs, if_pos here,
        end_paragraphs_cons rest (by decide)]
      rfl
  | succ count ih =>
      have starts : startsWith "\x7b\x7b".toList (token .paragraph (next + 1)) = true := rfl
      have within : (isParagraphToken (token .paragraph next) &&
          !startsWith "\x7b\x7b".toList (token .paragraph (next + 1))) = false := by
        rw [starts]
        exact Bool.and_false _
      have later := ih (next + 1)
      rw [List.range'_succ, List.map_cons, List.cons_append] at later
      rw [List.range'_succ, List.map_cons, List.range'_succ, List.map_cons, List.cons_append,
        List.cons_append, endParagraphs, if_neg (Bool.eq_false_iff.mp within), later]
      rfl

end Wikidown.Masked

namespace Wikidown.Block

set_option autoImplicit false

variable {kind : Kind} {kinds : List Kind} {before : Kind → Nat} {block : Block} {blocks : List Block}

theorem masked_of_none (none : block.kind? = none) : block.masked kinds before = lines block.source := by
  rw [masked, none]

theorem masked_of_fresh (some : block.kind? = some kind) (fresh : kind ∉ kinds) :
    block.masked kinds before = lines block.source := by
  rw [masked, some]
  exact if_neg fresh

theorem masked_of_mem (some : block.kind? = some kind) (member : kind ∈ kinds) :
    block.masked kinds before = block.numbered token before kind := by
  rw [masked, some]
  exact if_pos member

/-- One more kind of parts makes no difference to blocks that are masked as other parts. -/
theorem masked_cons_of_ne (other : block.kind? ≠ some kind) :
    block.masked (kind :: kinds) before = block.masked kinds before := by
  unfold masked
  split
  · next own here =>
      have apart : own ≠ kind := fun same => other (same ▸ here)
      simp [apart]
  · rfl

theorem parts_of_some (some : block.kind? = some kind) : block.parts kind = block.contents :=
  if_pos some

theorem parts_of_ne (other : block.kind? ≠ some kind) : block.parts kind = [] := if_neg other

theorem next_of_some (some : block.kind? = some kind) :
    block.next before kind = before kind + block.contents.length := by
  rw [next, parts_of_some some]

theorem next_of_ne (other : block.kind? ≠ some kind) : block.next before kind = before kind := by
  rw [next, parts_of_ne other]
  rfl

/-- A pass over blocks: those of its kind are found, and no line of the others opens one. -/
theorem hide_sequence {shape : BlockShape} (fresh : kind ∉ kinds)
    (apart : after? shape.opening [] = none)
    (found : ∀ block ∈ blocks, block.kind? = some kind → ∃ body, block.contents = [body] ∧
      ∀ rest ≠ [], shape.segmentsFrom (lines block.source ++ rest) =
        .block (lines body) :: shape.segmentsFrom rest)
    (unopened : ∀ block ∈ blocks, block.kind? ≠ some kind → ∀ before,
      ∀ line ∈ block.masked kinds before, after? shape.opening line = none) :
    Masked.hideBlocks kind (before kind)
        (shape.segmentsFrom (sequence (masked kinds) before blocks)) =
      (sequence (masked (kind :: kinds)) before blocks, blocks.flatMap (parts kind)) := by
  have empty (rest : List Line) : shape.segmentsFrom ([] :: rest) =
      [[]].map .line ++ shape.segmentsFrom rest :=
    @BlockShape.segments_from_of_unopened shape rest [[]] (by simpa using apart)
  induction blocks generalizing before with
  | nil =>
      rw [sequence, empty, Masked.hide_blocks_lines, BlockShape.segments_from_nil]
      rfl
  | cons block rest ih =>
      rw [List.forall_mem_cons] at found unopened
      have later := @ih (block.next before) found.2 unopened.2
      rw [sequence, sequence, List.flatMap_cons]
      by_cases same : block.kind? = some kind
      · obtain ⟨body, single, taken⟩ := found.1 same
        have size : block.next before kind = before kind + 1 := by
          rw [next_of_some same, single]
          rfl
        rw [size] at later
        rw [masked_of_fresh same fresh, taken _ (by simp), empty, Masked.hideBlocks,
          Masked.hide_blocks_lines, later, masked_of_mem same (by simp), parts_of_some same,
          numbered, single, unlines_lines]
        rfl
      · rw [next_of_ne same] at later
        rw [BlockShape.segments_from_of_unopened (unopened.1 same before), empty,
          Masked.hide_blocks_lines, Masked.hide_blocks_lines, later, masked_cons_of_ne same,
          parts_of_ne same]
        rfl

/-- A line of a heading or of a list begins with its marker. -/
theorem marked_line (none : block.kind? = none) :
    ∀ line ∈ lines block.source, line.head? = some '*' ∨ line.head? = some '-' := by
  intro line member
  cases block with
  | heading one =>
      have shape : lines (source (.heading one)) = [one.source] := lines_heading one
      rw [shape, List.mem_singleton] at member
      exact .inl (by rw [member]; rfl)
  | list run =>
      have shape : lines (source (.list run)) = run.content.map ListLine.source := lines_list run
      rw [shape] at member
      obtain ⟨one, _, rfl⟩ := List.mem_map.mp member
      exact .inr rfl
  | paragraph | code | quote => exact absurd none (by simp [kind?])

theorem marked_line_begins (none : block.kind? = none) {c : Char} (star : c ≠ '*') (dash : c ≠ '-') :
    ∀ line ∈ lines block.source, line.head? ≠ some c := by
  intro line member
  rcases marked_line none line member with here | here
  · rw [here]
    simpa using star.symm
  · rw [here]
    simpa using dash.symm

/-- A word that does not go on behind a text begins within it. -/
theorem begins_within {word front back : Text} (apart : ∀ count < word.length, ¬ word.drop count <+: back)
    (begins : word <+: front ++ back) : word <+: front := by
  rcases Nat.lt_or_ge front.length word.length with short | long
  · have cut : front <+: word :=
      List.prefix_of_prefix_length_le (List.prefix_append front _) begins short.le
    refine absurd ?_ (apart front.length short)
    rw [← List.prefix_append_right_inj front]
    rwa [List.prefix_iff_eq_append.mp cut]
  · exact List.prefix_of_prefix_length_le begins (List.prefix_append front _) long

/-- No line of a quote opens a code block: what its closing stands behind is too short to. -/
theorem quote_uncoded (block : QuoteBlock) :
    ∀ line ∈ lines (source (.quote block)), ¬ Masked.codeShape.opening <+: line := by
  obtain ⟨inner, last, shape, closed⟩ :=
    @Masked.lines_append_closing Masked.quoteShape.closing block.body (by decide)
  have uncoded := block.uncoded
  rw [shape] at uncoded
  have ends : ¬ Masked.codeShape.opening <+: last ++ Masked.quoteShape.closing := fun begins =>
    uncoded last (by simp) (begins_within (by decide) begins)
  have later : ∀ line ∈ inner ++ [last ++ Masked.quoteShape.closing],
      ¬ Masked.codeShape.opening <+: line := by
    intro line member
    rcases List.mem_append.mp member with above | final
    · exact uncoded line (by simp [above])
    · rwa [List.mem_singleton.mp final]
  obtain ⟨first, more, begun⟩ := List.exists_cons_of_ne_nil
    (show inner ++ [last ++ Masked.quoteShape.closing] ≠ [] by simp)
  have whole : lines (source (.quote block)) = (Masked.quoteShape.opening ++ first) :: more := by
    rw [source, List.append_assoc]
    exact lines_append (by decide) (closed.trans begun)
  intro line member
  rw [whole, List.mem_cons] at member
  rcases member with rfl | behind
  · rintro ⟨rest, same⟩
    exact absurd (List.cons.inj (List.cons.inj same).2).1 (by decide)
  · exact later line (by rw [begun]; exact List.mem_cons_of_mem first behind)

theorem hide_code : Masked.hideBlocks .code (before .code)
    (Masked.codeShape.segmentsFrom (sequence (masked []) before blocks)) =
      (sequence (masked [.code]) before blocks, blocks.flatMap (parts .code)) := by
  refine hide_sequence (by simp) rfl (fun block _ code => ?_) fun block _ other before line member => ?_
  · cases block with
    | code one =>
        exact ⟨one.body, rfl, fun rest nonempty =>
          Masked.segments_from_delimited (by decide) (by decide) one.unclosed nonempty⟩
    | heading | paragraph | list | quote => exact absurd code (by simp [kind?])
  · cases block with
    | heading | list =>
        exact Layout.after_eq_none_of_head
          (marked_line_begins rfl (by decide) (by decide) line member) _
    | paragraph run =>
        rw [masked_of_fresh rfl (by simp)] at member
        rw [show lines (source (.paragraph run)) = run.content from lines_paragraph run] at member
        exact after_eq_none_of_not_prefix (run.uncoded line member)
    | quote one =>
        rw [masked_of_fresh rfl (by simp)] at member
        exact after_eq_none_of_not_prefix (quote_uncoded one line member)
    | code => exact absurd rfl other

theorem hide_quotes : Masked.hideBlocks .quote (before .quote)
    (Masked.quoteShape.segmentsFrom (sequence (masked [.code]) before blocks)) =
      (sequence (masked [.quote, .code]) before blocks, blocks.flatMap (parts .quote)) := by
  refine hide_sequence (by decide) rfl (fun block _ quote => ?_) fun block _ other before line member => ?_
  · cases block with
    | quote one =>
        exact ⟨one.body, rfl, fun rest nonempty =>
          Masked.segments_from_delimited (by decide) (by decide) one.unclosed nonempty⟩
    | heading | paragraph | list | code => exact absurd quote (by simp [kind?])
  · cases block with
    | heading | list =>
        exact Layout.after_eq_none_of_head
          (marked_line_begins rfl (by decide) (by decide) line member) _
    | paragraph run =>
        rw [masked_of_fresh rfl (by decide)] at member
        rw [show lines (source (.paragraph run)) = run.content from lines_paragraph run] at member
        exact after_eq_none_of_not_prefix (run.unquoted line member)
    | code one =>
        rw [masked_of_mem rfl (by decide)] at member
        obtain ⟨index, _, rfl⟩ := List.mem_map.mp member
        rfl
    | quote => exact absurd rfl other

/-- The lines of blocks that are no paragraphs, when code and quotes are masked. -/
theorem masked_line (other : block.kind? ≠ some .paragraph) :
    ∀ line ∈ block.masked [.quote, .code] before,
      (line.head? = some '*' ∨ line.head? = some '-') ∨
        ∃ kind index, kind ≠ .paragraph ∧ line = token kind index := by
  intro line member
  cases block with
  | heading | list => exact .inl (marked_line rfl line member)
  | code | quote =>
      rw [masked_of_mem rfl (by decide)] at member
      obtain ⟨index, _, rfl⟩ := List.mem_map.mp member
      exact .inr ⟨_, index, by decide, rfl⟩
  | paragraph => exact absurd rfl other

theorem masked_line_no_paragraph (other : block.kind? ≠ some .paragraph) :
    ∀ line ∈ block.masked [.quote, .code] before, Masked.isParagraph line = false := by
  intro line member
  rcases masked_line other line member with (star | dash) | ⟨kind, index, apart, rfl⟩
  · obtain ⟨rest, rfl⟩ := List.head?_eq_some_iff.mp star
    rfl
  · obtain ⟨rest, rfl⟩ := List.head?_eq_some_iff.mp dash
    rfl
  · exact Masked.token_no_paragraph apart index

theorem masked_line_no_token (other : block.kind? ≠ some .paragraph) :
    ∀ line ∈ block.masked [.quote, .code] before, Masked.isParagraphToken line = false := by
  intro line member
  rcases masked_line other line member with (star | dash) | ⟨kind, index, apart, rfl⟩
  · obtain ⟨rest, rfl⟩ := List.head?_eq_some_iff.mp star
    rfl
  · obtain ⟨rest, rfl⟩ := List.head?_eq_some_iff.mp dash
    rfl
  · cases kind with
    | code | quote => rfl
    | paragraph => exact absurd rfl apart

theorem hide_paragraphs_sequence : Masked.hideParagraphs (before .paragraph)
    (sequence (masked [.quote, .code]) before blocks) =
      (sequence (masked [.paragraph, .quote, .code]) before blocks,
        blocks.flatMap (parts .paragraph)) := by
  have empty (next : Nat) (rest : List Line) : Masked.hideParagraphs next ([] :: rest) =
      ([] :: (Masked.hideParagraphs next rest).1, (Masked.hideParagraphs next rest).2) := rfl
  induction blocks generalizing before with
  | nil => rfl
  | cons block rest ih =>
      have later := @ih (block.next before)
      rw [sequence, sequence, List.flatMap_cons]
      by_cases same : block.kind? = some .paragraph
      · have shape : lines block.source = block.contents ∧
            ∀ line ∈ block.contents, Masked.isParagraph line = true := by
          cases block with
          | paragraph run => exact ⟨lines_paragraph run, run.isText⟩
          | heading | list | code | quote => exact absurd same (by simp [kind?])
        rw [next_of_some same] at later
        rw [masked_of_fresh same (by decide), shape.1, Masked.hide_paragraphs_run _ _ shape.2, empty,
          later, masked_of_mem same (by simp), parts_of_some same]
        rfl
      · rw [next_of_ne same] at later
        rw [Masked.hide_paragraphs_others _ _ (masked_line_no_paragraph same), empty, later,
          masked_cons_of_ne same, parts_of_ne same]
        rfl

/-- The blank line that ends a run of paragraphs. -/
def ending : Block → List Line
  | .paragraph _ => [[]]
  | .heading _ | .list _ | .code _ | .quote _ => []

/-- A block with all of its parts masked. -/
def hidden (before : Kind → Nat) (block : Block) : List Line :=
  block.masked [.paragraph, .quote, .code] before

theorem end_paragraphs_sequence : Masked.endParagraphs (sequence hidden before blocks) =
    sequence (fun before block => block.hidden before ++ block.ending) before blocks := by
  induction blocks generalizing before with
  | nil => rfl
  | cons block rest ih =>
      have later := @ih (block.next before)
      have empty : Masked.isParagraphToken [] = false := rfl
      rw [sequence, sequence]
      by_cases same : block.kind? = some .paragraph
      · have run : ∃ count, block.contents.length = count + 1 ∧ block.ending = [[]] := by
          cases block with
          | paragraph run =>
              obtain ⟨first, more, shape⟩ := List.exists_cons_of_ne_nil run.nonempty
              exact ⟨more.length, congrArg List.length shape, rfl⟩
          | heading | list | code | quote => exact absurd same (by simp [kind?])
        obtain ⟨count, size, blank⟩ := run
        rw [hidden, masked_of_mem same (by simp), numbered, size, Masked.end_paragraphs_run, later,
          blank, List.append_assoc]
        rfl
      · have none : block.ending = [] := by
          cases block with
          | paragraph => exact absurd rfl same
          | heading | list | code | quote => rfl
        rw [hidden, masked_cons_of_ne same,
          Masked.end_paragraphs_others _ (masked_line_no_token same),
          Masked.end_paragraphs_cons _ empty, later, none, List.append_nil]

/-- A document that is made of blocks, masked. -/
theorem masked_composed (nonempty : blocks ≠ []) (uniform : '\r' ∉ composed source blocks)
    (undirected : "#contents".toList ∉ lines (composed source blocks)) :
    Document.masked (composed source blocks) =
      { text := unlines ([] :: sequence (fun before block => block.hidden before ++ block.ending)
          (fun _ => 0) blocks)
        store := ⟨blocks.flatMap (parts .code), blocks.flatMap (parts .quote),
          blocks.flatMap (parts .paragraph)⟩ } := by
  have unmasked : sequence (fun _ block => lines block.source) (fun _ => 0) blocks =
      sequence (masked []) (fun _ => 0) blocks := by
    refine sequence_congr fun block _ before => ?_
    unfold masked
    split <;> simp
  have content : lines (normalize (composed source blocks)) =
      [] :: sequence (masked []) (fun _ => 0) blocks := by
    rw [lines_normalize uniform undirected, List.cons_append, lines_composed nonempty, unmasked]
  have code : Masked.hideBlocks .code 0
      (Masked.codeShape.segments ([] :: sequence (masked []) (fun _ => 0) blocks)) =
        ([] :: sequence (masked [.code]) (fun _ => 0) blocks, blocks.flatMap (parts .code)) := by
    have behind := @hide_code (fun _ => 0) blocks
    rw [BlockShape.segments, Masked.hideBlocks, behind]
  have quotes : Masked.hideBlocks .quote 0
      (Masked.quoteShape.segments ([] :: sequence (masked [.code]) (fun _ => 0) blocks)) =
        ([] :: sequence (masked [.quote, .code]) (fun _ => 0) blocks,
          blocks.flatMap (parts .quote)) := by
    have behind := @hide_quotes (fun _ => 0) blocks
    rw [BlockShape.segments, Masked.hideBlocks, behind]
  have paragraphs : Masked.hideParagraphs 0 ([] :: sequence (masked [.quote, .code]) (fun _ => 0) blocks) =
      ([] :: sequence hidden (fun _ => 0) blocks, blocks.flatMap (parts .paragraph)) := by
    have behind := @hide_paragraphs_sequence (fun _ => 0) blocks
    have text : Masked.isParagraph [] = false := rfl
    rw [Masked.hideParagraphs, if_neg (by rw [text]; decide), behind]
    rfl
  simp only [Document.masked, Masked.ofText, content, code, quotes, paragraphs, List.take_succ_cons,
    List.take_zero, List.drop_succ_cons, List.drop_zero, end_paragraphs_sequence]
  rfl

end Wikidown.Block
