import Mathlib.Data.List.Chain
import Wikidown.Proofs.Layout.Headed
import Wikidown.Proofs.Placeholder.Anatomy

/-!
# The lines of a masked document

Masking leaves lines of few kinds: empty ones, lines that begin with a blank or with a character of
structure, and placeholders that have a line for themselves. A run of paragraphs ends above an empty line
or above a placeholder of another kind.
-/

namespace Wikidown

set_option autoImplicit false

namespace Masked

variable {content : List Line} {opening closing : Text} {line : Line}

/-! ## Documents between empty lines -/

/-- The last line of a document is in no block: a line follows the closing of one. -/
theorem segments_from_concat (content : List Line) (last : Line) :
    ∃ front, (delimited opening closing).segmentsFrom (content ++ [last]) = front ++ [.line last] := by
  induction size : content.length using Nat.strong_induction_on generalizing content with
  | _ size ih =>
      cases content with
      | nil =>
          have alone : (delimited opening closing).body? last [] = none := by
            cases opens : after? (delimited opening closing).opening last with
            | none => exact BlockShape.body_of_unopened opens
            | some first =>
                have endless := @BlockShape.body_from_of_endless (delimited opening closing) first []
                  fun remaining none => by rw [List.suffix_nil.mp none]; rfl
                exact (BlockShape.body_of_after opens).trans endless
          refine ⟨[], ?_⟩
          rw [List.nil_append, BlockShape.segments_from_of_none alone, BlockShape.segments_from_nil,
            List.nil_append]
      | cons line rest =>
          cases found : (delimited opening closing).body? line (rest ++ [last]) with
          | none =>
              obtain ⟨front, behind⟩ := ih rest.length (by simp [← size]) rest rfl
              refine ⟨.line line :: front, ?_⟩
              rw [List.cons_append, BlockShape.segments_from_of_none found, behind, List.cons_append]
          | some result =>
              obtain ⟨body, remaining⟩ := result
              obtain ⟨first, _, inside⟩ := Option.bind_eq_some_iff.mp found
              obtain ⟨taken, split, _⟩ := BlockShape.body_from_taken inside
              have nonempty : remaining ≠ [] := by
                rintro rfl
                exact absurd (BlockShape.body_from_ends inside) (by simp [delimited])
              obtain ⟨more, final, rfl⟩ := (List.eq_nil_or_concat remaining).resolve_left nonempty
              have ends : rest ++ [last] = (taken ++ more) ++ [final] := by simp [split]
              obtain ⟨rfl, same⟩ := List.append_inj' ends rfl
              obtain rfl := List.singleton_inj.mp same
              obtain ⟨front, behind⟩ := ih more.length
                (by simp only [List.length_cons, List.length_append] at size; omega) more rfl
              refine ⟨.block body :: front, ?_⟩
              rw [List.cons_append, BlockShape.segments_from_of_some found, List.cons_append, ← behind,
                List.concat_eq_append]
              rfl

/-- Lines between two empty ones. -/
def Framed (content : List Line) : Prop := ∃ inner, content = [] :: (inner ++ [[]])

theorem framed_normalize (source : Text) : Framed (lines (normalize source)) := by
  have split : lines
      ('\n' :: (Substitution.literal "\r\n".toList "\n".toList).apply source ++ "\n\n".toList) =
        [] :: lines ((Substitution.literal "\r\n".toList "\n".toList).apply source ++ ['\n']) ++ [[]] := by
    rw [List.cons_append, lines_cons_newline, List.cons_append, ← lines_nil, ← lines_append_newline]
    simp
  refine ⟨(lines ((Substitution.literal "\r\n".toList "\n".toList).apply source ++ ['\n'])).flatMap
    contentsDirective, ?_⟩
  rw [normalize, lines_contents, split, List.flatMap_append, List.flatMap_cons]
  rfl

/-- Hiding blocks leaves the empty lines around a document. -/
theorem Framed.hide_blocks (framed : Framed content) (kind : Kind) :
    Framed (hideBlocks kind 0 ((delimited opening closing).segments content)).1 := by
  obtain ⟨inner, rfl⟩ := framed
  obtain ⟨front, ends⟩ := @segments_from_concat opening closing inner []
  refine ⟨(hideBlocks kind 0 front).1, ?_⟩
  rw [BlockShape.segments, ends, hideBlocks, hide_blocks_append]
  rfl

theorem Framed.hide_paragraphs (framed : Framed content) : Framed (hideParagraphs 0 content).1 := by
  obtain ⟨inner, rfl⟩ := framed
  have ends := @hide_paragraphs_above [[]] 0 inner (by simp [isParagraph])
  refine ⟨(hideParagraphs 0 inner).1, ?_⟩
  rw [hideParagraphs, if_neg (by simp [isParagraph]), ends]

theorem Framed.end_paragraphs (framed : Framed content) :
    Framed (content.take 1 ++ endParagraphs (content.drop 1)) := by
  obtain ⟨inner, rfl⟩ := framed
  obtain ⟨ended, same⟩ := end_paragraphs_above inner
  exact ⟨ended, congrArg ([] :: ·) (same [] (by simp))⟩

/-! ## Paragraphs and what follows them -/

theorem mem_hide_paragraphs {next : Nat} (member : line ∈ (hideParagraphs next content).1) :
    line ∈ content ∧ isParagraph line = false ∨ ∃ index, line = token .paragraph index := by
  induction content generalizing next with
  | nil => simp [hideParagraphs] at member
  | cons first content ih =>
      have later {next : Nat} (below : line ∈ (hideParagraphs next content).1) :
          line ∈ first :: content ∧ isParagraph line = false ∨ ∃ index, line = token .paragraph index :=
        (ih below).imp_left (And.imp_left (List.mem_cons_of_mem first))
      rw [hideParagraphs] at member
      split at member
      · rcases List.mem_cons.mp member with rfl | below
        · exact .inr ⟨next, rfl⟩
        · exact later below
      · next other =>
          rcases List.mem_cons.mp member with rfl | below
          · exact .inl ⟨List.mem_cons_self, by simpa using other⟩
          · exact later below

theorem mem_end_paragraphs (member : line ∈ endParagraphs content) : line = [] ∨ line ∈ content := by
  induction content using endParagraphs.induct with
  | case1 first next rest ends ih =>
      rw [endParagraphs, if_pos ends, List.mem_cons, List.mem_cons] at member
      rcases member with rfl | empty | below
      · exact .inr List.mem_cons_self
      · exact .inl empty
      · exact (ih below).imp_right (List.mem_cons_of_mem first)
  | case2 first next rest goes ih =>
      rw [endParagraphs, if_neg goes, List.mem_cons] at member
      rcases member with rfl | below
      · exact .inr List.mem_cons_self
      · exact (ih below).imp_right (List.mem_cons_of_mem first)
  | case3 short other =>
      rw [endParagraphs.eq_2 short other] at member
      exact .inr member

/-- What may follow a line: below a paragraph only an empty line, or one that begins like a placeholder. -/
def MayPrecede (line next : Line) : Prop :=
  isParagraphToken line = true → next = [] ∨ startsWith "\x7b\x7b".toList next = true

theorem may_precede_of_empty (next : Line) : MayPrecede [] next := fun token => absurd token (by decide)

theorem end_paragraphs_first (line : Line) (rest : List Line) :
    ∃ more, endParagraphs (line :: rest) = line :: more := by
  cases rest with
  | nil => exact ⟨[], rfl⟩
  | cons next rest =>
      rw [endParagraphs]
      split <;> exact ⟨_, rfl⟩

/-- With empty lines below its paragraphs, a document has nothing else there but placeholders. -/
theorem end_paragraphs_chain (content : List Line) : (endParagraphs content).IsChain MayPrecede := by
  induction content using endParagraphs.induct with
  | case1 line next rest ends ih =>
      rw [endParagraphs, if_pos ends]
      have below : ([] :: endParagraphs (next :: rest)).IsChain MayPrecede :=
        ih.cons fun other _ => may_precede_of_empty other
      exact below.cons_cons fun _ => .inl rfl
  | case2 line next rest goes ih =>
      rw [endParagraphs, if_neg goes]
      obtain ⟨more, begins⟩ := end_paragraphs_first next rest
      rw [begins] at ih ⊢
      refine ih.cons_cons fun isToken => .inr ?_
      simpa [isToken] using goes
  | case3 short other =>
      rw [endParagraphs.eq_2 short other]
      cases short with
      | nil => exact .nil
      | cons line rest =>
          cases rest with
          | nil => exact .singleton line
          | cons next rest => exact absurd rfl (other line next rest)

/-! ## The lines of a masked text -/

/-- The lines of a text with placeholders for its code, its quotes and its paragraphs, as long as no line
ends a run of paragraphs. -/
def tokenLines (text : Text) : List Line :=
  (hideParagraphs 0 (hideBlocks .quote 0 (quoteShape.segments
    (hideBlocks .code 0 (codeShape.segments (lines text))).1)).1).1

theorem token_lines_whole (text : Text) : ∀ line ∈ tokenLines text, '\n' ∉ line := by
  have wholeCode : ∀ line ∈ (hideBlocks .code 0 (codeShape.segments (lines text))).1, '\n' ∉ line :=
    hide_blocks_whole code_foreign.wholeOpening .code 0 fun _ => no_newline_of_mem_lines
  have wholeQuote := @hide_blocks_whole _ quoteShape quote_foreign.wholeOpening .quote 0 wholeCode
  intro line member
  rcases mem_hide_paragraphs member with ⟨there, _⟩ | ⟨index, rfl⟩
  · exact wholeQuote line there
  · exact not_mem_token (by decide)

theorem lines_of_text {text : Text} (framed : Framed (lines text)) :
    lines (ofText text).text = [] :: endParagraphs ((tokenLines text).drop 1) ∧
      Framed (lines (ofText text).text) := by
  have tokens : Framed (tokenLines text) := (framed.hide_blocks .code).hide_blocks .quote |>.hide_paragraphs
  have ended := tokens.end_paragraphs
  have split : lines (ofText text).text =
      (tokenLines text).take 1 ++ endParagraphs ((tokenLines text).drop 1) := by
    refine lines_unlines ?_ fun line member => ?_
    · obtain ⟨inner, shape⟩ := ended
      exact shape ▸ List.cons_ne_nil _ _
    · rcases List.mem_append.mp member with first | below
      · exact token_lines_whole text line (List.mem_of_mem_take first)
      · rcases mem_end_paragraphs below with rfl | there
        · exact List.not_mem_nil
        · exact token_lines_whole text line (List.mem_of_mem_drop there)
  refine ⟨?_, split ▸ ended⟩
  obtain ⟨inner, shape⟩ := tokens
  rw [split, shape]
  rfl

/-- A line that masking leaves: an empty one, one of structure, or a placeholder of a part in the store. -/
inductive MaskedLine (store : Store) : Line → Prop where
  | empty : MaskedLine store []
  | begun {c : Char} {rest : Line} (begins : isBlank c = true ∨ c ∈ "*|-+>)\x60".toList) :
      MaskedLine store (c :: rest)
  | token {kind : Kind} {index : Nat} (known : index < store.count kind) :
      MaskedLine store (Wikidown.token kind index)

/-- What is no paragraph and no placeholder is empty or begins like structure. -/
theorem masked_line_of_lacks {store : Store} (lacks : ¬ mark <:+: line) (other : isParagraph line = false) :
    MaskedLine store line := by
  cases line with
  | nil => exact .empty
  | cons c rest =>
      have unopened (kind : Kind) : startsWith ("\x7b\x7b".toList ++ kind.label) (c :: rest) = false := by
        rw [Bool.eq_false_iff]
        intro opens
        obtain ⟨tail, found⟩ := Option.isSome_iff_exists.mp opens
        have front : mark <+: "\x7b\x7b".toList ++ kind.label := by cases kind <;> decide
        exact lacks (front.isInfix.trans ⟨[], tail, (after_eq_some.mp found).symm⟩)
      rw [isParagraph, unopened, unopened] at other
      refine .begun ?_
      cases blank : isBlank c with
      | true => exact .inl rfl
      | false =>
          have begins : structural c = true := by simpa [blank] using other
          exact .inr (List.contains_iff_mem.mp begins)

theorem MaskedLine.token_of_braces {store : Store} (shaped : MaskedLine store line)
    (begins : startsWith "\x7b\x7b".toList line = true) :
    ∃ kind index, index < store.count kind ∧ line = Wikidown.token kind index := by
  cases shaped with
  | empty => exact absurd begins (by decide)
  | @begun c rest shape =>
      obtain ⟨tail, found⟩ := Option.isSome_iff_exists.mp begins
      obtain rfl : c = '\x7b' := (List.cons.inj (after_eq_some.mp found)).1
      exact absurd shape (by decide)
  | @token kind index known => exact ⟨kind, index, known, rfl⟩

end Masked

theorem Carries.mem {promote : Bool} {word : Text} {fronts : List Text} {content : List Line}
    {keys : List (Kind × Nat)} (carries : Carries promote word fronts content keys) {line : Line}
    (member : line ∈ content) : Lacks promote word line ∨
      ∃ front ∈ fronts, ∃ key ∈ keys, line = front ++ Wikidown.token key.1 key.2 := by
  induction carries with
  | nil => exact absurd member List.not_mem_nil
  | quiet lacks _ ih =>
      rcases List.mem_cons.mp member with rfl | below
      · exact .inl lacks
      · exact ih below
  | @token front _ keys known kind index _ ih =>
      rcases List.mem_cons.mp member with rfl | below
      · exact .inr ⟨front, known, (kind, index), List.mem_cons_self, rfl⟩
      · refine (ih below).imp_right fun ⟨front, there, key, inside, shape⟩ => ?_
        exact ⟨front, there, key, List.mem_cons_of_mem _ inside, shape⟩

open Masked

theorem masked_line_of_mem {source : Text} (unmarked : ¬ mark <:+: source) {line : Line}
    (member : line ∈ lines (Document.masked source).text) :
    MaskedLine (Document.masked source).store line := by
  obtain ⟨keys, inner, numbered⟩ :=
    @of_text_numbered true mark .opening (normalize source) (normalize_lacks .opening unmarked)
  rcases numbered.text.mem member with lacks | ⟨front, known, key, inside, rfl⟩
  · rw [Document.masked, (lines_of_text (framed_normalize source)).1, List.mem_cons] at member
    rcases member with rfl | below
    · exact .empty
    · rcases mem_end_paragraphs below with rfl | there
      · exact .empty
      · rcases mem_hide_paragraphs (List.mem_of_mem_drop there) with ⟨_, other⟩ | ⟨index, rfl⟩
        · exact masked_line_of_lacks lacks other
        · obtain ⟨tail, shape⟩ := token_begins .paragraph index
          exact absurd (show mark <:+: token .paragraph index from ⟨[], tail, shape.symm⟩) lacks
  · rw [List.mem_singleton.mp known, List.nil_append]
    exact .token (numbered.page_known inside)

/-- A masked document in which each line has one of the known shapes. Below the placeholder of a paragraph
stands an empty line or another placeholder. -/
structure WellShaped (masked : Masked) : Prop where
  line : ∀ line ∈ lines masked.text, MaskedLine masked.store line
  below : ∀ above index below, lines masked.text = above ++ token .paragraph index :: below →
    ∃ next rest, below = next :: rest ∧
      (next = [] ∨ ∃ kind other, other < masked.store.count kind ∧ next = token kind other)

/-- Whatever delimiters a document leaves open, its masked lines have the shapes that the rules of the layout
rely on. -/
theorem masked_lines_shaped (source : Text) (unmarked : ¬ mark <:+: source) :
    WellShaped (Document.masked source) := by
  refine ⟨fun line => masked_line_of_mem unmarked, fun above index below shape => ?_⟩
  obtain ⟨shown, framed⟩ := lines_of_text (framed_normalize source)
  cases below with
  | nil =>
      -- the last line is an empty one
      obtain ⟨inner, ends⟩ := framed
      rw [Document.masked, ends, ← List.cons_append] at shape
      exact absurd (List.singleton_inj.mp (List.append_inj' shape rfl).2).symm (token_ne_nil _ _)
  | cons next rest =>
      refine ⟨next, rest, rfl, ?_⟩
      have chain : (lines (Document.masked source).text).IsChain MayPrecede := by
        rw [Document.masked, shown]
        exact (end_paragraphs_chain _).cons fun other _ => may_precede_of_empty other
      rw [shape, List.isChain_append_cons_cons] at chain
      refine (chain.2.1 (is_paragraph_token index)).imp_right fun begins => ?_
      have member : next ∈ lines (Document.masked source).text := by simp [shape]
      exact (masked_line_of_mem unmarked member).token_of_braces begins

/-- A quote that is never closed, around code with the opening of another one. -/
def unclosedQuote : Text :=
  "a\n\x7bquote\x7db\n*c\n\x7bcode\x7d\n\x7bquote\x7d\n\x7b/code\x7d\nd\n\x7b/quote\x7d e".toList

theorem masked_lines_shaped_of_unclosed :
    ¬ mark <:+: unclosedQuote ∧
      lines (Document.masked unclosedQuote).text =
        [[], token .paragraph 0, token .paragraph 1, [], "*c".toList, token .code 0, token .paragraph 2,
          token .paragraph 3, [], [], []] ∧
      WellShaped (Document.masked unclosedQuote) :=
  ⟨by decide, by decide +kernel, masked_lines_shaped unclosedQuote (by decide)⟩

end Wikidown
