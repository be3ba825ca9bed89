import Wikidown.Proofs.Placeholder.Restored
import Wikidown.Proofs.Placeholder.Spacing

/-!
# Words that a conversion does not bring in

A traced word that neither a document nor its placeholders show comes in at no stage of a conversion:
it is in no part of the document, and nowhere in what the layout makes of it. Restoring brings it in
only where a rendered part does.
-/

namespace Wikidown

set_option autoImplicit false

variable {promote : Bool} {word : Text}

/-- Placeholders without the word are lines without it. -/
theorem Carries.quieted {content : List Line} {keys : List (Kind × Nat)}
    (hidden : ∀ key ∈ keys, Lacks promote word (Wikidown.token key.1 key.2))
    (carries : Carries promote word bare content keys) : Carries promote word bare content [] := by
  induction carries with
  | nil => exact .nil
  | quiet lacks _ ih => exact .quiet lacks (ih hidden)
  | token known kind index _ ih =>
      rw [List.forall_mem_cons] at hidden
      rw [List.mem_singleton.mp known, List.nil_append]
      exact .quiet hidden.1 (ih hidden.2)

/-- Masking brings the word neither into the text nor into a part. -/
theorem Masked.of_text_lacks (traced : Traced word) {text : Text} (lacks : Lacks promote word text)
    (hidden : ∀ kind index, index < (ofText text).store.count kind →
      Lacks promote word (token kind index)) :
    Lacks promote word (ofText text).text ∧
      ∀ kind, ∀ part ∈ (ofText text).store.parts kind, Lacks promote word part := by
  obtain ⟨keys, inner, numbered⟩ := of_text_numbered traced lacks
  have page := numbered.text.quieted fun key member =>
    hidden key.1 key.2 (numbered.page_known member)
  refine ⟨page.lacks_of_nil traced, fun kind part member => ?_⟩
  cases kind with
  | code => exact numbered.lacks part (List.mem_append_left _ member)
  | quote =>
      obtain ⟨within, place, carries⟩ := exists_of_forall₂_mem numbered.quote member
      have quiet := carries.quieted fun key inside =>
        hidden key.1 key.2 (numbered.quote_known place inside)
      exact quiet.lacks_of_nil traced
  | paragraph => exact numbered.lacks part (List.mem_append_right _ member)

/-- A rule for blocks brings the word in only where its rendering of a block does. -/
theorem BlockShape.replace_blocks_lacks {shape : BlockShape} {render : List Line → List Line}
    {text : Text} (traced : Traced word) (wholeOpening : '\n' ∉ shape.opening)
    (each : ∀ body, (∀ line ∈ shape.blockLines body, Lacks promote word line) →
      ∀ line ∈ render body, Lacks promote word line)
    (lacks : Lacks promote word text) : Lacks promote word (shape.replaceBlocks render text) := by
  have cut : (shape.segments (lines text)).flatMap shape.source = lines text :=
    segments_source wholeOpening fun line member => no_newline_of_mem_lines member
  have quiet : ∀ line ∈ lines text, Lacks promote word line := fun line member =>
    lacks.of_inside traced (infix_of_mem_lines member)
  rw [replace_blocks_eq, Lacks.unlines_iff traced]
  intro line member
  obtain ⟨segment, place, written⟩ := List.mem_flatMap.mp member
  have source : ∀ line ∈ shape.source segment, Lacks promote word line := fun line inside =>
    quiet line (cut ▸ List.mem_flatMap.mpr ⟨segment, place, inside⟩)
  cases segment with
  | line content => exact source line written
  | block body => exact each body source line written

namespace Layout

theorem Table.convert_cells_lacks (traced : Traced word) (body : List Line)
    (lacks : ∀ line ∈ cellShape.blockLines body, Lacks promote word line) :
    ∀ line ∈ convertCells body, Lacks promote word line := by
  have rows (content : List Line) :
      cellShape.blockLines content = lines ('|' :: unlines content ++ ['|']) := rfl
  rw [rows, ← Lacks.unlines_iff traced, unlines_lines] at lacks
  have converted := Inline.convert_lacks traced lacks
  rw [convert_bars] at converted
  intro line member
  rw [convertCells, rows, unlines_lines] at member
  rcases List.mem_append.mp member with row | blank
  · exact converted.of_inside traced (infix_of_mem_lines row)
  · rw [List.mem_singleton.mp blank]
    exact .nil traced

/-- The layout brings no word in, but what an empty header leaves characters out of may show one. -/
theorem convert_lacks (traced : Traced word) {text : Text} (lacks : Lacks promote word text) :
    Lacks true word (convert promote text) := by
  have above := (above_cells_carries traced (.of_lacks traced lacks)).lacks_of_nil traced
  have cells : Lacks promote word
      (Table.cellShape.replaceBlocks Table.convertCells (aboveCells promote text)) :=
    BlockShape.replace_blocks_lacks traced (by decide) (Table.convert_cells_lacks traced) above
  rw [convert_stages]
  exact (below_cells_carries traced (.of_lacks traced cells)).lacks_of_nil traced

end Layout

theorem collapse_lacks (traced : Traced word) {text : Text} (lacks : Lacks promote word text) :
    Lacks promote word (collapseBlankLines text) := by
  have quiet : Carries promote word bare (lines text) [] := .of_lacks traced lacks
  exact (collapse_carries traced quiet).lacks_of_nil traced

theorem Document.arranged_lacks (traced : Traced word) {source : Text}
    (lacks : Lacks promote word (masked source).text) :
    Lacks true word (arranged promote source) :=
  collapse_lacks traced (Layout.convert_lacks traced lacks)

/-! ## Restoring -/

/-- A rendered part that brings the word into no text without it. -/
def Sits (word rendered : Text) : Prop :=
  ∀ front rest, Lacks true word front → Lacks true word rest →
    Lacks true word (front ++ (withoutDoubledBlank front.reverse rest rendered ++ rest))

/-- A part between line feeds stands apart from the text around it, also where a blank line there is
not doubled. -/
theorem sits_of_margins (traced : Traced word) {kind : Kind} (apart : kind ≠ .paragraph) {core : Text}
    (solid : Solid core) (lacks : Lacks true word core) :
    Sits word (kind.margin ++ core ++ kind.margin) := by
  intro front rest lacksFront lacksRest
  have fitted := @fitted_part kind core [] front rest rest solid (by simp) rfl
  have above : ∃ above, Woven.ended kind front = above ++ ['\n'] ∧ Lacks true word above := by
    by_cases feeds : doubleFeed <:+ front
    · rw [Woven.ended_of_feeds kind feeds]
      obtain ⟨above, rfl⟩ := feeds
      have split : above ++ doubleFeed = (above ++ ['\n']) ++ ['\n'] := by simp [doubleFeed]
      rw [split] at lacksFront ⊢
      exact ⟨_, rfl, lacksFront.left⟩
    · exact ⟨front, Woven.ended_of_other apart feeds, lacksFront⟩
  have below : ∃ below, Woven.begun kind rest = '\n' :: below ∧ Lacks true word below := by
    by_cases feeds : doubleFeed <+: rest
    · rw [Woven.begun_of_feeds kind feeds]
      obtain ⟨below, rfl⟩ := feeds
      exact ⟨'\n' :: below, rfl, lacksRest.of_inside traced (List.suffix_cons _ _).isInfix⟩
    · exact ⟨rest, Woven.begun_of_other apart feeds, lacksRest⟩
  obtain ⟨above, shapeAbove, lacksAbove⟩ := above
  obtain ⟨below, shapeBelow, lacksBelow⟩ := below
  have whole : Woven.ended kind front ++ core ++ Woven.begun kind rest =
      above ++ '\n' :: (core ++ '\n' :: below) := by
    simp [shapeAbove, shapeBelow]
  rw [List.nil_append, List.nil_append, whole] at fitted
  rw [fitted, Lacks.between_iff traced (by decide), Lacks.between_iff traced (by decide)]
  exact ⟨lacksAbove, lacks, lacksBelow⟩

section Restore

variable {kind : Kind} {parts : List Text} {render : Text → Except NumberTooLong Text}

/-- Restoring brings the word in only where a rendered part does. -/
theorem restore_from_lacks (traced : Traced word)
    (sits : ∀ part ∈ parts, ∀ rendered, render part = .ok rendered → Sits word rendered)
    {written text result : Text} (lacks : Lacks true word (written.reverse ++ text))
    (restored : restoreFrom kind parts render written text = .ok result) :
    Lacks true word result := by
  induction size : text.length using Nat.strong_induction_on generalizing written text with
  | _ size ih =>
      cases text with
      | nil =>
          rw [restore_from_nil] at restored
          rw [← Except.ok.inj restored, ← List.append_nil written.reverse]
          exact lacks
      | cons c text =>
          cases read : readToken? kind (c :: text) with
          | none =>
              rw [restore_from_unread read] at restored
              refine ih text.length (by simp [← size]) ?_ restored rfl
              simpa using lacks
          | some found =>
              obtain ⟨digits, rest⟩ := found
              have shorter := read_token_length read
              rw [restore_from_read_eq read] at restored
              obtain ⟨index, _, later⟩ := bound_of_ok restored
              have shape := (read_token_shape read).1
              rw [shape] at lacks
              cases known : parts[index]? with
              | none =>
                  rw [known] at later
                  refine ih rest.length (size ▸ shorter) ?_ later rfl
                  simpa using lacks
              | some part =>
                  rw [known] at later
                  obtain ⟨rendered, renders, last⟩ := bound_of_ok later
                  refine ih rest.length (size ▸ shorter) ?_ last rfl
                  have apart := sits part (List.mem_of_getElem? known) rendered renders
                  have behind : Lacks true word rest := (lacks.right traced).right traced
                  simpa using apart written.reverse rest lacks.left behind

theorem restore_lacks (traced : Traced word)
    (sits : ∀ part ∈ parts, ∀ rendered, render part = .ok rendered → Sits word rendered)
    {text result : Text} (lacks : Lacks true word text)
    (restored : restore kind parts render text = .ok result) : Lacks true word result :=
  @restore_from_lacks word kind parts render traced sits [] text result lacks restored

end Restore

theorem code_sits (traced : Traced word) {part rendered : Text} (lacks : Lacks true word (trim part))
    (renders : Except.ok (renderCode part) = (.ok rendered : Except NumberTooLong Text)) :
    Sits word rendered := by
  rw [← Except.ok.inj renders, render_code_eq]
  exact sits_of_margins traced (by decide) (fenced_solid part) (fenced_lacks_trimmed traced lacks)

theorem quote_sits (traced : Traced word) {store : Store}
    (codes : ∀ part ∈ store.code, Lacks true word (trim part)) {part rendered : Text}
    (lacks : Lacks true word (trim part)) (renders : renderQuote store part = .ok rendered) :
    Sits word rendered := by
  obtain ⟨body, restored, rfl⟩ := render_quote_ok_iff.mp renders
  have lacksBody : Lacks true word body :=
    restore_lacks traced (fun part member _ => code_sits traced (codes part member))
      (Inline.convert_lacks traced lacks) restored
  exact sits_of_margins traced (by decide) (cited_solid body) (cited_lacks traced lacksBody)

/-- Restoring all parts brings the word in only where a part or a converted paragraph does. -/
theorem restore_all_lacks (traced : Traced word) {store : Store}
    (parts : ∀ kind, ∀ part ∈ store.parts kind, Lacks true word (trim part))
    (paragraphs : ∀ part ∈ store.paragraph, Sits word (renderParagraph part))
    {text result : Text} (lacks : Lacks true word text)
    (restored : restoreAll store text = .ok result) : Lacks true word result := by
  obtain ⟨withCode, code, later⟩ := bound_of_ok restored
  obtain ⟨withQuotes, quote, last⟩ := bound_of_ok later
  have lacksCode : Lacks true word withCode :=
    restore_lacks traced (fun part member _ => code_sits traced (parts .code part member)) lacks code
  have lacksQuotes : Lacks true word withQuotes :=
    restore_lacks traced
      (fun part member _ => quote_sits traced (parts .code) (parts .quote part member))
      lacksCode quote
  refine restore_lacks traced (fun part member rendered renders => ?_) lacksQuotes last
  exact Except.ok.inj renders ▸ paragraphs part member

end Wikidown
