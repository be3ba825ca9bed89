import Wikidown.Placeholder.Mask
import Wikidown.Proofs.Placeholder.Colors
import Wikidown.Proofs.Placeholder.Restoring

/-!
# Rendered parts

Code stands between fences, each line of a quote behind a mark, and a paragraph is one line. None of
them begins or ends with a line feed, and none brings the word of placeholders with it.
-/

namespace Wikidown

set_option autoImplicit false

/-- A code block as it stands in a document. -/
def fenced (content : Text) : Text :=
  match trim content with
  | [] => unlines [fence, fence]
  | body => unlines [fence, body, fence]

/-- A quote as it stands in a document. -/
def cited (content : Text) : Text := unlines ((lines content).map ("> ".toList ++ ·))

variable {promote : Bool} {word content : Text}

theorem fenced_of_blank (blank : trim content = []) : fenced content = fence ++ '\n' :: fence := by
  rw [fenced, blank]
  rfl

theorem fenced_of_visible (visible : trim content ≠ []) :
    fenced content = fence ++ '\n' :: (trim content ++ '\n' :: fence) := by
  unfold fenced
  split
  · next blank => exact absurd blank visible
  · rfl

theorem render_code_eq (content : Text) :
    renderCode content = Kind.code.margin ++ fenced content ++ Kind.code.margin := by
  by_cases blank : trim content = []
  · rw [renderCode, fenced_of_blank blank, blank]
    rfl
  · rw [fenced_of_visible blank]
    unfold renderCode
    split
    · next empty => exact absurd empty blank
    · simp [unlines, joined, Kind.margin]

theorem fenced_ends (content : Text) : ∃ inner, fenced content = '\x60' :: inner ++ ['\x60'] := by
  by_cases blank : trim content = []
  · exact ⟨"\x60\x60\n\x60\x60".toList, fenced_of_blank blank⟩
  · refine ⟨"\x60\x60\n".toList ++ trim content ++ "\n\x60\x60".toList, ?_⟩
    rw [fenced_of_visible blank]
    simp [fence]

theorem solid_of_ends {first last : Char} {inner : Text} (begins : first ≠ '\n')
    (ends : last ≠ '\n') : Solid (first :: inner ++ [last]) where
  begins := by simpa using begins
  ends := by
    rw [List.getLast?_concat]
    simpa using ends
  nonempty := by simp

theorem fenced_solid (content : Text) : Solid (fenced content) := by
  obtain ⟨inner, shape⟩ := fenced_ends content
  rw [shape]
  exact solid_of_ends (by decide) (by decide)

theorem fenced_lacks_trimmed (traced : Traced word) (lacks : Lacks promote word (trim content)) :
    Lacks promote word (fenced content) := by
  have fences : Lacks promote word fence := .of_separates traced (by decide)
  by_cases blank : trim content = []
  · rw [fenced_of_blank blank]
    exact (Lacks.between_iff traced (by decide)).mpr ⟨fences, fences⟩
  · rw [fenced_of_visible blank]
    refine (Lacks.between_iff traced (by decide)).mpr ⟨fences, ?_⟩
    exact (Lacks.between_iff traced (by decide)).mpr ⟨lacks, fences⟩

theorem fenced_lacks (traced : Traced word) (lacks : Lacks promote word content) :
    Lacks promote word (fenced content) :=
  fenced_lacks_trimmed traced (lacks.of_inside traced (trim_inside content))

theorem lines_cited (content : Text) : lines (cited content) = (lines content).map ("> ".toList ++ ·) := by
  refine lines_unlines (by simp [lines_ne_nil]) ?_
  intro line member
  obtain ⟨inner, inside, rfl⟩ := List.mem_map.mp member
  have whole := no_newline_of_mem_lines inside
  simp [whole]

/-- A quote with a line feed above and below it. -/
theorem cited_padded (content : Text) :
    unlines ([[]] ++ (lines content).map ("> ".toList ++ ·) ++ [[]]) =
      Kind.quote.margin ++ cited content ++ Kind.quote.margin := by
  have nonempty : (lines content).map ("> ".toList ++ ·) ≠ [] := by simp [lines_ne_nil]
  rw [unlines_append (by simp) (by simp), unlines_append (by simp) nonempty]
  simp [unlines_singleton, cited, Kind.margin]

/-- A quote is its converted text with the code in it restored. -/
theorem render_quote_ok_iff {store : Store} {rendered : Text} :
    renderQuote store content = .ok rendered ↔
      ∃ body, restore .code store.code (fun code => .ok (renderCode code))
          (Inline.convert (trim content)) = .ok body ∧
        Kind.quote.margin ++ cited body ++ Kind.quote.margin = rendered := by
  rw [renderQuote]
  cases restore .code store.code (fun code => .ok (renderCode code)) (Inline.convert (trim content)) with
  | error fault =>
      exact iff_of_false (fun same => absurd (show Except.error fault = .ok rendered from same) (by simp))
        (by simp)
  | ok body =>
      simp only [Except.ok.injEq, exists_eq_left', ← cited_padded]
      exact ⟨Except.ok.inj, congrArg Except.ok⟩

theorem cited_lacks (traced : Traced word) (lacks : Lacks promote word content) :
    Lacks promote word (cited content) := by
  have quiet : Carries promote word bare (lines (cited content)) [] := by
    rw [lines_cited]
    refine .of_quiet fun line member => ?_
    obtain ⟨inner, inside, rfl⟩ := List.mem_map.mp member
    have lacksInner : Lacks promote word inner := lacks.of_inside traced (infix_of_mem_lines inside)
    exact (Lacks.cons_iff traced (by decide)).mpr ((Lacks.cons_iff traced (by decide)).mpr lacksInner)
  exact quiet.lacks_of_nil traced

theorem cited_begins (content : Text) : ∃ more, cited content = '>' :: more := by
  obtain ⟨first, more, shape⟩ := List.exists_cons_of_ne_nil (lines_ne_nil content)
  rw [cited, shape, List.map_cons]
  exact ⟨_, unlines_cons_char '>' _ _⟩

theorem cited_solid (content : Text) : Solid (cited content) := by
  obtain ⟨above, last, shape⟩ := exists_last_line content
  have shapeCited : lines (cited content) = above.map ("> ".toList ++ ·) ++ ["> ".toList ++ last] := by
    rw [lines_cited, shape, List.map_append]
    rfl
  have suffix := last_line_suffix shapeCited
  have whole : '\n' ∉ "> ".toList ++ last := @no_newline_of_mem_lines (cited content) _ (by simp [shapeCited])
  obtain ⟨more, begun⟩ := cited_begins content
  refine ⟨by simp [begun], fun feed => ?_, by simp [begun]⟩
  obtain ⟨front, ends⟩ := suffix
  rw [← ends, List.getLast?_append_of_ne_nil front (by simp)] at feed
  exact whole (List.mem_of_getLast? feed)

namespace Substitution

/-- What a substitution writes for something on a line is some text of that line. -/
def FillsLines (rule : Substitution) : Prop :=
  ∀ text written rest : Text, rule.step? text = some (written, rest) → '\n' ∉ text →
    written ≠ [] ∧ '\n' ∉ written ++ rest

variable {rule : Substitution} {text opening closing : Text}

theorem FillsLines.keeps_out (fills : rule.FillsLines) : rule.KeepsOut '\n' :=
  fun text written rest found whole => (fills text written rest found whole).2

theorem FillsLines.apply (fills : rule.FillsLines) (whole : '\n' ∉ text) :
    '\n' ∉ rule.apply text ∧ (text ≠ [] → rule.apply text ≠ []) := by
  refine ⟨fills.keeps_out.apply whole, fun nonempty => ?_⟩
  obtain ⟨c, text, rfl⟩ := List.exists_cons_of_ne_nil nonempty
  cases found : rule.step? (c :: text) with
  | none => simp [apply_of_none found]
  | some result => simp [apply_of_some found, (fills _ _ _ found whole).1]

theorem literal_fills {pattern value : Text} {visible : pattern ≠ []} (nonempty : value ≠ [])
    (whole : '\n' ∉ value) : (literal pattern value visible).FillsLines := by
  intro text written rest found inLine
  rw [literal_step, Option.map_eq_some_iff] at found
  obtain ⟨behind, shape, same⟩ := found
  obtain ⟨rfl, rfl⟩ := Prod.mk.inj same
  rw [after_eq_some.mp shape, List.mem_append, not_or] at inLine
  rw [List.mem_append, not_or]
  exact ⟨nonempty, whole, inLine.2⟩

theorem enclosed_fills {render : Text → Text} {visible : opening ≠ []}
    (fills : ∀ inner, '\n' ∉ inner → render inner ≠ [] ∧ '\n' ∉ render inner) :
    (enclosed opening closing render visible).FillsLines := by
  intro text written rest found inLine
  refine ⟨?_, enclosed_keeps_out (fun inner whole => (fills inner whole).2) _ _ _ found inLine⟩
  obtain ⟨inner, rfl, rfl⟩ := enclosed_shape found
  simp only [List.mem_append, not_or] at inLine
  exact (fills inner inLine.1.1.2).1

theorem pair_fills {divides : Char → Bool} {render : Text → Text → Text} {visible : opening ≠ []}
    (fills : ∀ first second, '\n' ∉ first → '\n' ∉ second →
      render first second ≠ [] ∧ '\n' ∉ render first second) :
    (pair opening divides closing render visible).FillsLines := by
  intro text written rest found inLine
  have out := @pair_keeps_out '\n' opening closing divides render visible
    fun first second left right => (fills first second left right).2
  refine ⟨?_, out _ _ _ found inLine⟩
  obtain ⟨first, divider, second, _, rfl, rfl⟩ := pair_shape found
  simp only [List.mem_append, not_or] at inLine
  exact (fills first second inLine.1.1.1.1.2 inLine.1.1.2).1

end Substitution

namespace Inline

theorem trim_whole {text : Text} (whole : '\n' ∉ text) : '\n' ∉ trim text :=
  fun member => whole ((trim_inside text).subset member)

theorem marked_fills {shown : Text} (whole : '\n' ∉ shown) (inner : Text) (inLine : '\n' ∉ inner) :
    marked shown inner ≠ [] ∧ '\n' ∉ marked shown inner := by
  simp [marked, whole, trim_whole inLine]

theorem link_fills (label target : Text) (wholeLabel : '\n' ∉ label) (wholeTarget : '\n' ∉ target) :
    link label target ≠ [] ∧ '\n' ∉ link label target := by
  simp [link, trim_whole wholeLabel, wholeTarget]

theorem image_fills (name : Text) (whole : '\n' ∉ name) : image name ≠ [] ∧ '\n' ∉ image name := by
  simp [image, whole]

theorem attachment_fills (label target : Text) (wholeLabel : '\n' ∉ label)
    (wholeTarget : '\n' ∉ target) :
    attachment label target ≠ [] ∧ '\n' ∉ attachment label target := by
  simp [attachment, wholeLabel, wholeTarget]

theorem color_rule_fills : colorRule.FillsLines := by
  intro text written rest found inLine
  obtain ⟨opening, name, blanks, inner, rfl, rfl, _, wholeName, wholeInner⟩ := color_step_shape found
  simp only [List.mem_append, not_or] at inLine ⊢
  refine ⟨?_, colored_whole wholeName wholeInner, inLine.2⟩
  unfold colored
  simp

theorem rules_fill : ∀ rule ∈ rules, rule.FillsLines := by
  intro rule member
  simp only [rules, List.mem_cons, List.not_mem_nil, or_false] at member
  rcases member with rfl | rfl | rfl | rfl | rfl | rfl | rfl | rfl | rfl | rfl | rfl
  · exact Substitution.enclosed_fills fun inner whole => by simp [whole]
  · exact Substitution.literal_fills (by decide) (by decide)
  · exact Substitution.enclosed_fills (marked_fills (by decide))
  · exact Substitution.enclosed_fills (marked_fills (by decide))
  · exact Substitution.enclosed_fills (marked_fills (by decide))
  · exact Substitution.pair_fills link_fills
  · exact color_rule_fills
  · exact Substitution.enclosed_fills image_fills
  · exact Substitution.enclosed_fills image_fills
  · exact Substitution.pair_fills attachment_fills
  · exact Substitution.literal_fills (by decide) (by decide)

/-- The inline notation of a line is converted to one line, and to none but of an empty one. -/
theorem convert_fills {text : Text} (whole : '\n' ∉ text) :
    '\n' ∉ convert text ∧ (text ≠ [] → convert text ≠ []) := by
  refine @Substitution.apply_all_keeps rules (fun shown => '\n' ∉ shown ∧ (text ≠ [] → shown ≠ [])) text
    (fun rule member shown filled => ?_) ⟨whole, id⟩
  have here := (rules_fill rule member).apply filled.1
  exact ⟨here.1, fun nonempty => here.2 (filled.2 nonempty)⟩

end Inline

theorem render_paragraph_whole {line : Line} (whole : '\n' ∉ line)
    (paragraph : Masked.isParagraph line = true) :
    '\n' ∉ renderParagraph line ∧ renderParagraph line ≠ [] := by
  have visible : trim line ≠ [] := by
    cases line with
    | nil => simp [Masked.isParagraph] at paragraph
    | cons c line =>
        simp only [Masked.isParagraph, Bool.and_eq_true, Bool.not_eq_true'] at paragraph
        have shown : isBlank c = false := paragraph.1.1.2
        rw [trim, trim_start_cons_visible shown, ne_eq, trim_end_eq_nil_iff]
        intro blank
        rw [blank c (by simp)] at shown
        exact absurd shown (by decide)
  have filled := Inline.convert_fills (Inline.trim_whole whole)
  exact ⟨filled.1, filled.2 visible⟩

theorem solid_of_whole {text : Text} (whole : '\n' ∉ text) (nonempty : text ≠ []) : Solid text where
  begins begun := whole (List.mem_of_mem_head? begun)
  ends ended := whole (List.mem_of_getLast? ended)
  nonempty := nonempty

end Wikidown
