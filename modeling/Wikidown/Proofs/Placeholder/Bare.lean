import Wikidown.Proofs.Composition.Masked
import Wikidown.Proofs.Placeholder.Restored

/-!
# Documents without parts

Where each line begins like a line of structure, masking finds nothing to hide, and restoring leaves
the result of the layout as it is.
-/

namespace Wikidown

set_option autoImplicit false

/-- A line that is empty or begins with a character of structure. -/
def Structural (line : Line) : Prop := ∀ c, line.head? = some c → Masked.structural c = true

namespace Structural

variable {line : Line}

theorem head_ne (structural : Structural line) {c : Char} (other : Masked.structural c = false) :
    line.head? ≠ some c := by
  intro begins
  rw [structural c begins] at other
  exact absurd other (by decide)

theorem no_paragraph (structural : Structural line) : Masked.isParagraph line = false := by
  cases line with
  | nil => rfl
  | cons c rest => simp [Masked.isParagraph, structural c rfl]

theorem no_token (structural : Structural line) : Masked.isParagraphToken line = false := by
  have closed : after? Kind.paragraph.opening line = none :=
    Layout.after_eq_none_of_head (structural.head_ne (c := '\x7b') (by decide)) _
  rw [Masked.isParagraphToken, closed]

end Structural

namespace Masked

theorem hide_blocks_of_unopened {shape : BlockShape} {content : List Line} (kind : Kind) (next : Nat)
    (unopened : ∀ line ∈ content, after? shape.opening line = none) :
    hideBlocks kind next (shape.segments content) = (content, []) := by
  cases content with
  | nil => rfl
  | cons first rest =>
      rw [List.forall_mem_cons] at unopened
      have hidden := hide_blocks_lines kind next (first :: rest) []
      rw [BlockShape.segments, BlockShape.segments_from_unopened unopened.2]
      rw [List.append_nil, hideBlocks, List.append_nil] at hidden
      exact hidden

/-- Where no line opens code or a quote, only paragraphs are hidden. -/
theorem of_text_unopened {text : Text} (uncoded : ∀ line ∈ lines text, after? codeShape.opening line = none)
    (unquoted : ∀ line ∈ lines text, after? quoteShape.opening line = none) :
    ofText text = ⟨unlines ((hideParagraphs 0 (lines text)).1.take 1 ++
      endParagraphs ((hideParagraphs 0 (lines text)).1.drop 1)), ⟨[], [], (hideParagraphs 0 (lines text)).2⟩⟩ := by
  simp only [ofText, hide_blocks_of_unopened .code 0 uncoded, hide_blocks_of_unopened .quote 0 unquoted]

theorem of_text_structural {text : Text} (structural : ∀ line ∈ lines text, Structural line) :
    ofText text = ⟨text, .empty⟩ := by
  have unopened (opening : Text) : ∀ line ∈ lines text, after? ('\x7b' :: opening) line = none :=
    fun line member => Layout.after_eq_none_of_head ((structural line member).head_ne (by decide)) _
  have paragraph := @hide_paragraphs_others (lines text) 0 []
    fun line member => (structural line member).no_paragraph
  have ended := @end_paragraphs_others ((lines text).drop 1) []
    fun line member => (structural line (List.mem_of_mem_drop member)).no_token
  have none : endParagraphs [] = [] := rfl
  rw [List.append_nil] at paragraph
  rw [List.append_nil, none, List.append_nil] at ended
  rw [of_text_unopened (unopened _) (unopened _), paragraph, hideParagraphs, List.append_nil, ended,
    List.take_append_drop, unlines_lines]
  rfl

end Masked

/-- Without parts, restoring copies a text that lacks the mark of placeholders. -/
theorem restore_all_empty {text : Text} (lacks : Lacks true mark text) :
    restoreAll .empty text = .ok text := by
  have copied (kind : Kind) (parts : List Text) (render : Text → Except NumberTooLong Text) :
      restore kind parts render text = .ok text := by
    have passes : Passes kind text [] :=
      passes_of_apart (not_opening_of_lacks lacks kind) fun _ _ _ begins => absurd begins (by simp)
    have pass := @restore_from_copy kind parts render [] text [] passes
    rw [List.append_nil, List.append_nil, restore_from_nil, List.reverse_reverse] at pass
    exact pass
  simp only [restoreAll, copied, bind, Except.bind]

end Wikidown
