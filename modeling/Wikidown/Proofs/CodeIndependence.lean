import Wikidown.Proofs.Normalize
import Wikidown.Proofs.Placeholder.Delimited

/-!
# Code is opaque to the layout

Two documents that differ in the body of one code block have the same masked text, so every rule
of the layout does the same in both. The block may stand anywhere, behind unclosed delimiters too:
then it is a part of a longer block.
-/

namespace Wikidown

set_option autoImplicit false

open Masked

/-- A document with a code block between two other parts. -/
def withCode (before body after : Text) : Text :=
  before ++ "\n\x7bcode\x7d".toList ++ body ++ "\x7b/code\x7d\n".toList ++ after

/-- The body of a code block that ends nowhere earlier and that normalising leaves as it is. -/
structure PlainBody (body : Text) : Prop where
  unclosed : ¬ "\x7b/code\x7d".toList <:+: body
  uniform : '\r' ∉ body
  undirected : "#contents".toList ∉ lines body

theorem opened_code_unclosed {body : Text} (unclosed : ¬ "\x7b/code\x7d".toList <:+: body) :
    ¬ "\x7b/code\x7d".toList <:+: "\x7bcode\x7d".toList ++ body := by
  simpa [List.infix_cons_iff, List.cons_prefix_cons] using unclosed

/-- The delimiters of a code block make no directive of its lines. -/
theorem undirected_with_delimiters {body : Text} (undirected : "#contents".toList ∉ lines body) :
    "#contents".toList ∉ lines ("\x7bcode\x7d".toList ++ body ++ "\x7b/code\x7d".toList) := by
  obtain ⟨inner, last, shape, closed⟩ :=
    @lines_append_closing "\x7b/code\x7d".toList body (by decide)
  rw [List.append_assoc]
  have ended : "#contents".toList ≠ last ++ "\x7b/code\x7d".toList := by
    intro same
    have ends := congrArg List.getLast? same
    simp at ends
  cases inner with
  | nil =>
      rw [lines_append (by decide) closed]
      simp
  | cons first inner =>
      rw [List.cons_append] at closed
      rw [lines_append (by decide) closed]
      rw [shape] at undirected
      simp only [List.cons_append, List.mem_cons, List.mem_append, not_or] at undirected ⊢
      exact ⟨by simp, undirected.2.1, ended, List.not_mem_nil⟩

/-- The lines of a normalised document around a code block do not depend on its body. -/
theorem lines_normalize_with_code (before after : Text) : ∃ front back, back ≠ [] ∧
    ∀ body, PlainBody body → lines (normalize (withCode before body after)) =
      [] :: front ++ lines ("\x7bcode\x7d".toList ++ body ++ "\x7b/code\x7d".toList) ++ back := by
  obtain ⟨unified, behind⟩ := unified_append_newline before
  refine ⟨(lines unified).flatMap contentsDirective,
    (lines ((Substitution.literal "\r\n".toList "\n".toList).apply after ++
      "\n\n".toList)).flatMap contentsDirective, ?_, fun body plain => ?_⟩
  · rw [← lines_contents]
    exact lines_ne_nil _
  · have uniform : '\r' ∉ "\x7bcode\x7d".toList ++ body ++ "\x7b/code\x7d".toList := by
      simp [plain.uniform]
    have undirected := undirected_with_delimiters plain.undirected
    have shape : withCode before body after = before ++ '\n' ::
        ("\x7bcode\x7d".toList ++ body ++ "\x7b/code\x7d".toList ++ '\n' :: after) := by
      simp [withCode]
    rw [normalize, shape, behind]
    generalize "\x7bcode\x7d".toList ++ body ++ "\x7b/code\x7d".toList = run at uniform undirected
    rw [unified_of_uniform uniform, lines_contents]
    simp only [List.cons_append, List.append_assoc, lines_cons_newline, lines_append_newline,
      List.flatMap_cons, List.flatMap_append, contents_of_undirected undirected]
    rfl

/-- Masking takes the body of the block into one entry of the store, and nothing else of the masked
document depends on it. -/
theorem masked_around_code (before after : Text) :
    ∃ text quote paragraph earlier later, ∀ body, PlainBody body → ∃ part,
      Document.masked (withCode before body after) =
        { text, store := { code := earlier ++ part :: later, quote, paragraph } } := by
  obtain ⟨front, back, nonempty, shape⟩ := lines_normalize_with_code before after
  obtain ⟨first, second, around⟩ := @segments_around_run "\x7bcode\x7d".toList
    "\x7b/code\x7d".toList (by decide) (by decide) front back nonempty
  let front := hideBlocks .code 0 (.line [] :: first)
  let back := hideBlocks .code (front.2.length + 1) second
  let withoutCode := front.1 ++ token .code front.2.length :: back.1
  let quoted := hideBlocks .quote 0 (quoteShape.segments withoutCode)
  let tokens := hideParagraphs 0 quoted.1
  refine ⟨unlines (tokens.1.take 1 ++ endParagraphs (tokens.1.drop 1)), quoted.2, tokens.2, front.2,
    back.2, fun body plain => ?_⟩
  obtain ⟨inside, segments⟩ := around _
    ⟨body, rfl, opened_code_unclosed plain.unclosed⟩
  have hidden : hideBlocks .code 0
      (codeShape.segments (lines (normalize (withCode before body after)))) =
        (withoutCode, front.2 ++ unlines inside :: back.2) := by
    have cut : codeShape.segments (lines (normalize (withCode before body after))) =
        (.line [] :: first) ++ .block inside :: second := by
      rw [shape body plain, List.cons_append, List.cons_append, BlockShape.segments, codeShape,
        segments, List.cons_append]
    rw [cut, hide_blocks_append, Nat.zero_add]
    rfl
  refine ⟨unlines inside, ?_⟩
  rw [Document.masked, Masked.ofText, hidden]

/-- Two masked documents that differ in one entry of their code at most. -/
structure SameButCode (left right : Masked) : Prop where
  text : left.text = right.text
  quote : left.store.quote = right.store.quote
  paragraph : left.store.paragraph = right.store.paragraph
  code : ∃ earlier first second later, left.store.code = earlier ++ first :: later ∧
    right.store.code = earlier ++ second :: later

/-- The body of a code block shows in one entry of the store and nowhere else: the text after each
rule of the layout, and after the collapse of blank lines, is the same for all bodies. -/
theorem layout_independent_of_code (before after one other : Text) (plainOne : PlainBody one)
    (plainOther : PlainBody other) :
    SameButCode (Document.masked (withCode before one after))
        (Document.masked (withCode before other after)) ∧
      ∀ promoteFirstRow,
        Layout.steps promoteFirstRow (Document.masked (withCode before one after)).text =
          Layout.steps promoteFirstRow (Document.masked (withCode before other after)).text ∧
        Document.arranged promoteFirstRow (withCode before one after) =
          Document.arranged promoteFirstRow (withCode before other after) := by
  obtain ⟨text, quote, paragraph, earlier, later, around⟩ := masked_around_code before after
  obtain ⟨first, leftShape⟩ := around one plainOne
  obtain ⟨second, rightShape⟩ := around other plainOther
  rw [leftShape, rightShape]
  refine ⟨⟨rfl, rfl, rfl, earlier, first, second, later, rfl, rfl⟩, fun promoteFirstRow => ?_⟩
  rw [Document.arranged, Document.arranged, leftShape, rightShape]
  exact ⟨rfl, rfl⟩

/-- A body with notation of every kind, behind an opening that is never closed. -/
theorem layout_independent_of_code_behind_open_code :
    PlainBody "x".toList ∧
      PlainBody "\x7bquote\x7d\n* a\n|b|\n\x7bcode\x7d\n\x7b/quote\x7d".toList ∧
      SameButCode
        (Document.masked (withCode "+ c\n\x7bcode\x7dd".toList "x".toList "|e|".toList))
        (Document.masked (withCode "+ c\n\x7bcode\x7dd".toList
          "\x7bquote\x7d\n* a\n|b|\n\x7bcode\x7d\n\x7b/quote\x7d".toList "|e|".toList)) := by
  have short : PlainBody "x".toList := ⟨by decide, by decide, by decide⟩
  have long : PlainBody
      "\x7bquote\x7d\n* a\n|b|\n\x7bcode\x7d\n\x7b/quote\x7d".toList :=
    ⟨by decide, by decide, by decide⟩
  exact ⟨short, long, (layout_independent_of_code _ _ _ _ short long).1⟩

end Wikidown
