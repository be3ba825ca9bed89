import Wikidown.Proofs.Placeholder.Unmasking

/-!
# Masking loses nothing

Each pass of masking is undone by writing its parts back. Only the last one leaves something behind:
the empty lines that it puts below paragraphs.
-/

namespace Wikidown.Masked

set_option autoImplicit false

variable {kind : Kind} {content : List Line}

/-! ## Hidden blocks -/

theorem mem_hide_blocks {segments : List Segment} {line : Line} {next : Nat}
    (member : line ∈ (hideBlocks kind next segments).1) :
    .line line ∈ segments ∨ ∃ index, line = token kind index := by
  induction segments generalizing next with
  | nil => exact absurd member List.not_mem_nil
  | cons segment segments ih =>
      have later {next : Nat} (below : line ∈ (hideBlocks kind next segments).1) :
          .line line ∈ segment :: segments ∨ ∃ index, line = token kind index :=
        (ih below).imp_left (List.mem_cons_of_mem segment)
      cases segment with
      | line here =>
          rcases List.mem_cons.mp member with rfl | below
          · exact .inl List.mem_cons_self
          · exact later below
      | block body =>
          rcases List.mem_cons.mp member with rfl | below
          · exact .inr ⟨next, rfl⟩
          · exact later below

/-- Hiding parts of one kind makes no placeholder of another. -/
theorem hide_blocks_absent {shape : BlockShape} {other : Kind} (wholeOpening : '\n' ∉ shape.opening)
    (apart : kind ≠ other) (whole : ∀ line ∈ content, '\n' ∉ line)
    (absent : ∀ line ∈ content, ¬ other.opening <:+: line) :
    ∀ line ∈ (hideBlocks kind 0 (shape.segments content)).1, ¬ other.opening <:+: line := by
  intro line member
  rcases mem_hide_blocks member with kept | ⟨index, rfl⟩
  · exact absent line (BlockShape.mem_of_segment_line wholeOpening whole kept)
  · exact opening_not_in_token apart index

theorem unlines_map_unlines {groups : List (List Line)} (nonempty : ∀ group ∈ groups, group ≠ []) :
    unlines (groups.map unlines) = unlines groups.flatten := by
  induction groups with
  | nil => rfl
  | cons group groups ih =>
      rw [List.forall_mem_cons] at nonempty
      rw [List.map_cons, List.flatten_cons]
      by_cases single : groups = []
      · rw [single, List.map_nil, unlines_singleton, List.flatten_nil, List.append_nil]
      · have behind : groups.flatten ≠ [] := by
          obtain ⟨next, more, rfl⟩ := List.exists_cons_of_ne_nil single
          simp [nonempty.2 next List.mem_cons_self]
        rw [unlines_cons (by simpa using single), ih nonempty.2, unlines_append nonempty.1 behind]

/-- A pass that hides blocks, undone line by line. Of the parts, `before` were stored already. -/
theorem unmasking_segments {shape : BlockShape} (before : List Text) {segments : List Segment}
    (written : ∀ body, kind.written (unlines body) = unlines (shape.blockLines body))
    (absent : ∀ line, .line line ∈ segments → ¬ kind.opening <:+: line) :
    (hideBlocks kind before.length segments).1.map
        (unmasking kind (before ++ (hideBlocks kind before.length segments).2)).apply =
      segments.map fun segment => unlines (shape.source segment) := by
  induction segments generalizing before with
  | nil => rfl
  | cons segment segments ih =>
      have later := fun line member => absent line (List.mem_cons_of_mem segment member)
      cases segment with
      | line line =>
          rw [hideBlocks, List.map_cons, List.map_cons, ih before later,
            unmasking_of_absent (absent line List.mem_cons_self)]
          rfl
      | block body =>
          have behind := ih (before ++ [unlines body]) later
          rw [List.length_append, List.append_assoc] at behind
          have known : (before ++ unlines body ::
              (hideBlocks kind (before.length + 1) segments).2)[before.length]? =
                some (unlines body) := by simp
          rw [hideBlocks, List.map_cons, List.map_cons, unmasking_token known, written]
          exact congrArg _ behind

/-- Hidden blocks are written back as they were. -/
theorem unmasking_hidden {shape : BlockShape} (wholeOpening : '\n' ∉ shape.opening)
    (written : ∀ body, kind.written (unlines body) = unlines (shape.blockLines body))
    (whole : ∀ line ∈ content, '\n' ∉ line) (absent : ∀ line ∈ content, ¬ kind.opening <:+: line) :
    (unmasking kind (hideBlocks kind 0 (shape.segments content)).2).apply
        (unlines (hideBlocks kind 0 (shape.segments content)).1) = unlines content := by
  have undone := @unmasking_segments kind shape [] (shape.segments content) written
    fun line member => absent line (BlockShape.mem_of_segment_line wholeOpening whole member)
  have nonempty : ∀ group ∈ (shape.segments content).map shape.source, group ≠ [] := by
    intro group member
    obtain ⟨segment, _, rfl⟩ := List.mem_map.mp member
    cases segment with
    | line line => exact List.cons_ne_nil line []
    | block body => exact lines_ne_nil _
  have joined := unlines_map_unlines nonempty
  rw [List.map_map, ← List.flatMap_def, BlockShape.segments_source wholeOpening whole] at joined
  rw [unmasking_unlines, ← joined]
  exact congrArg unlines undone

/-! ## Hidden paragraphs -/

theorem unmasking_paragraphs (before : List Text)
    (absent : ∀ line ∈ content, ¬ Kind.paragraph.opening <:+: line) :
    (hideParagraphs before.length content).1.map
        (unmasking .paragraph (before ++ (hideParagraphs before.length content).2)).apply =
      content := by
  induction content generalizing before with
  | nil => rfl
  | cons line content ih =>
      rw [List.forall_mem_cons] at absent
      rw [hideParagraphs]
      split
      · have behind := ih (before ++ [line]) absent.2
        rw [List.length_append, List.append_assoc] at behind
        have known : (before ++ line ::
            (hideParagraphs (before.length + 1) content).2)[before.length]? = some line := by simp
        rw [List.map_cons, unmasking_token known]
        exact congrArg _ behind
      · rw [List.map_cons, ih before absent.2, unmasking_of_absent absent.1]

/-- Ending paragraphs adds empty lines only. -/
theorem filled_lines_end_paragraphs (content : List Line) :
    (endParagraphs content).flatMap filledLines = content.flatMap filledLines := by
  induction content using endParagraphs.induct with
  | case1 line next rest ends ih =>
      rw [endParagraphs, if_pos ends, List.flatMap_cons, List.flatMap_cons, ih]
      rfl
  | case2 line next rest goes ih =>
      rw [endParagraphs, if_neg goes, List.flatMap_cons, List.flatMap_cons, ih]
  | case3 short other => rw [endParagraphs.eq_2 short other]

/-! ## Numbers of placeholders -/

/-- The code of a document stands around its quotes and in them. -/
theorem numbers_of_expand_perm (inner : List (List (Kind × Nat))) (keys : List (Kind × Nat)) :
    (numbersOf .code keys ++
        (numbersOf .quote keys).flatMap fun index => numbersOf .code (inner.getD index [])).Perm
      (numbersOf .code (expand .quote inner keys)) := by
  induction keys with
  | nil => exact .nil
  | cons key keys ih =>
      obtain ⟨kind, index⟩ := key
      rw [expand_cons, numbers_of_append, numbers_of_cons, numbers_of_cons]
      cases kind with
      | code => exact ih.cons index
      | quote =>
          exact (List.perm_append_comm_assoc (numbersOf .code keys) (numbersOf .code (inner.getD index []))
            _).trans (ih.append_left _)
      | paragraph => exact ih

theorem range_map_inner (inner : List (List (Kind × Nat))) :
    (List.range inner.length).map (fun index => inner.getD index []) = inner := by
  refine List.ext_getElem (by simp) fun index bound known => ?_
  rw [List.getElem_map, List.getElem_range, List.getD_eq_getElem?_getD, List.getElem?_eq_getElem known,
    Option.getD_some]

theorem token_numbers_quotes {parts : List Text} {inner : List (List (Kind × Nat))}
    (quoted : List.Forall₂ (fun part within => Carries true mark bare (lines part) within) parts inner) :
    parts.flatMap (tokenNumbers .code) = inner.flatMap (numbersOf .code) := by
  induction quoted with
  | nil => rfl
  | cons carries _ ih =>
      rw [List.flatMap_cons, List.flatMap_cons, token_numbers_of_carries_lines carries, ih]

/-- The placeholders of a masked text have each number below the count of their kind once. -/
theorem Numbered.numbers_perm {masked : Masked} {keys : List (Kind × Nat)}
    {inner : List (List (Kind × Nat))} (numbered : Numbered true mark masked keys inner) (kind : Kind) :
    (masked.numbers kind).Perm (List.range (masked.store.count kind)) := by
  have onPage := token_numbers_of_carries_lines numbered.text kind
  unfold Masked.numbers
  rw [onPage]
  cases kind with
  | code =>
      have within := congrArg (List.flatMap (numbersOf .code)) (range_map_inner inner)
      have split := numbers_of_expand_perm inner keys
      rw [numbered.codes, numbered.quotes, numbered.quote.length_eq, ← List.flatMap_map, within] at split
      rw [if_pos rfl, token_numbers_quotes numbered.quote]
      exact split
  | quote =>
      rw [if_neg (by decide), List.append_nil, numbered.quotes]
      exact .refl _
  | paragraph =>
      rw [if_neg (by decide), List.append_nil, numbered.paragraphs]
      exact .refl _

/-! ## The law -/

theorem filled_lines_unmasked {text : Text} (unmarked : ¬ mark <:+: text) :
    filledLines (ofText text).unmasked = filledLines text := by
  have wholeText : ∀ line ∈ lines text, '\n' ∉ line := fun line => no_newline_of_mem_lines
  have absent : ∀ kind, ∀ line ∈ lines text, ¬ Kind.opening kind <:+: line :=
    fun kind line member inside =>
      not_opening_of_lacks unmarked kind (inside.trans (infix_of_mem_lines member))
  have wholeCode := @hide_blocks_whole _ codeShape code_foreign.wholeOpening .code 0 wholeText
  have absentCode := fun other apart => @hide_blocks_absent .code _ codeShape other
    code_foreign.wholeOpening apart wholeText (absent other)
  have code := @unmasking_hidden .code _ codeShape code_foreign.wholeOpening
    (fun body => (unlines_lines _).symm) wholeText (absent .code)
  unfold unmasked
  simp only [ofText, Substitution.applyAll, List.foldl_cons, List.foldl_nil]
  generalize hideBlocks .code 0 (codeShape.segments (lines text)) = coded at *
  have absentQuote := @hide_blocks_absent .quote _ quoteShape .paragraph quote_foreign.wholeOpening
    (by decide) wholeCode (absentCode .paragraph (by decide))
  have quote := @unmasking_hidden .quote _ quoteShape quote_foreign.wholeOpening
    (fun body => (unlines_lines _).symm) wholeCode (absentCode .quote (by decide))
  generalize hideBlocks .quote 0 (quoteShape.segments coded.1) = quoted at *
  have paragraph := @unmasking_paragraphs _ [] absentQuote
  rw [List.length_nil, List.nil_append] at paragraph
  generalize hideParagraphs 0 quoted.1 = hidden at *
  -- the empty lines below paragraphs make no difference to the filled lines
  have ended : filledLines (unlines (hidden.1.take 1 ++ endParagraphs (hidden.1.drop 1))) =
      filledLines (unlines hidden.1) := by
    rw [filled_lines_unlines, filled_lines_unlines, List.flatMap_append, filled_lines_end_paragraphs,
      ← List.flatMap_append, List.take_append_drop]
  have first := @filled_lines_unmasking_congr .paragraph hidden.2 _ _ ended
  rw [unmasking_unlines hidden.1, paragraph] at first
  have second := @filled_lines_unmasking_congr .quote quoted.2 _ _ first
  rw [quote] at second
  have third := @filled_lines_unmasking_congr .code coded.2 _ _ second
  rw [code, unlines_lines] at third
  exact third

end Wikidown.Masked

namespace Wikidown

set_option autoImplicit false

/-- Masking loses nothing: with its parts written back, a masked text has the filled lines of the
text that was masked, and each part has one placeholder. -/
theorem masking_loses_nothing (text : Text) (unmarked : ¬ mark <:+: text) :
    filledLines (Masked.ofText text).unmasked = filledLines text ∧
      ∀ kind, ((Masked.ofText text).numbers kind).Perm
        (List.range ((Masked.ofText text).store.count kind)) := by
  refine ⟨Masked.filled_lines_unmasked unmarked, fun kind => ?_⟩
  obtain ⟨keys, inner, numbered⟩ := @Masked.of_text_numbered true mark .opening text unmarked
  exact numbered.numbers_perm kind

/-- A paragraph, a quote in which code holds the opening of another quote, and code that is never
closed. -/
def crossedDelimiters : Text :=
  "a\n\x7bquote\x7d\n\x7bcode\x7d\n\x7bquote\x7d\n\x7b/code\x7d\nb\n\x7b/quote\x7d\n\x7bcode\x7d\nc".toList

theorem masking_loses_nothing_of_crossed :
    ¬ mark <:+: crossedDelimiters ∧
      (∀ kind, (Masked.ofText crossedDelimiters).store.count kind =
        match kind with | .code => 1 | .quote => 1 | .paragraph => 3) ∧
      filledLines (Masked.ofText crossedDelimiters).unmasked = filledLines crossedDelimiters ∧
      ∀ kind, ((Masked.ofText crossedDelimiters).numbers kind).Perm
        (List.range ((Masked.ofText crossedDelimiters).store.count kind)) :=
  ⟨by decide, fun kind => by cases kind <;> decide +kernel,
    masking_loses_nothing crossedDelimiters (by decide)⟩

end Wikidown
