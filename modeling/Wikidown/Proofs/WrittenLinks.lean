import Wikidown.Batch
import Wikidown.Proofs.Block
import Wikidown.Proofs.Page.Fences
import Wikidown.Proofs.Page.Links
import Wikidown.Proofs.Placeholder.Colors

/-!
# Links as they are written and read

The inline notation writes the links of pages, and the updating of links reads them. What is read is what
was written exactly where no bracket stands in the label and no parenthesis in the target that would end
them.
-/

namespace Wikidown

set_option autoImplicit false

open Page

/-- A link in wiki notation without other inline notation in it. -/
structure WikiLink where
  label : Text
  target : Text
  undivided : ':' ∉ label ∧ '>' ∉ label := by decide
  nonempty : target ≠ [] := by decide
  unclosed : ¬ "]]".toList <:+: target := by decide
  whole : '\n' ∉ label ∧ '\n' ∉ target := by decide
  plain : ∀ c ∈ "<\x27%&#".toList, c ∉ label ∧ c ∉ target := by
    exact List.all_iff_forall_prop.mp (by decide)
  single : ¬ "  ".toList <:+: label ∧ ¬ "  ".toList <:+: target := by decide

namespace WikiLink

variable (link : WikiLink)

def source : Text := "[[".toList ++ (link.label ++ '>' :: (link.target ++ "]]".toList))

/-- The link in Markdown. -/
def written : Piece := .link (trim link.label) link.target

/-! ## Writing -/

/-- Two brackets close a target where the target in front of them has none at its end. -/
theorem up_to_brackets {target : Text} (whole : '\n' ∉ target) (unclosed : ¬ "]]".toList <:+: target ++ [']'])
    (rest : Text) : upTo? (after? "]]".toList) (target ++ ("]]".toList ++ rest)) = some (target, rest) := by
  refine up_to_first whole (after_append _ rest) fun front back shape nonempty => ?_
  refine after_eq_none_of_not_prefix fun begins => unclosed ?_
  have inside : "]]".toList <+: back ++ [']'] := by
    refine List.prefix_of_prefix_length_le begins ⟨']' :: rest, by simp⟩ ?_
    simpa [Nat.one_le_iff_ne_zero] using nonempty
  rw [shape, List.append_assoc]
  exact inside.isInfix.trans (List.suffix_append front _).isInfix

/-- The rule for links on a label, a target and what stands behind the two brackets. -/
theorem link_rule_step {label target : Text} (undivided : ':' ∉ label ∧ '>' ∉ label)
    (whole : '\n' ∉ label ∧ '\n' ∉ target) (unclosed : ¬ "]]".toList <:+: target ++ [']']) (rest : Text) :
    Inline.linkRule.step? ("[[".toList ++ (label ++ '>' :: (target ++ ("]]".toList ++ rest)))) =
      some (Inline.link label target, rest) := by
  have other : ∀ c ∈ label, (c == ':' || c == '>') = false := fun c member => by
    simpa using ⟨ne_of_mem_of_not_mem member undivided.1, ne_of_mem_of_not_mem member undivided.2⟩
  have found : Inline.linkRule.step? ("[[".toList ++ label ++ ['>'] ++ target ++ "]]".toList ++ rest) =
      some (Inline.link label target, rest) :=
    Substitution.pair_found (by decide) rfl other whole.1 (up_to_brackets whole.2 unclosed rest)
  simpa only [List.append_assoc, List.cons_append, List.nil_append] using found

/-- A bracket at the end of a target is taken for one of the two that close it, and stands behind the link. -/
theorem apply_source : ∃ target back, link.target = target ++ back ∧
    Inline.linkRule.apply link.source = Inline.link link.label target ++ back ∧
      (back = [] ∧ link.target.getLast? ≠ some ']' ∨ back = [']'] ∧ link.target.getLast? = some ']') := by
  by_cases last : link.target.getLast? = some ']'
  · obtain ⟨target, ends⟩ := List.getLast?_eq_some_iff.mp last
    have whole : '\n' ∉ target := fun feed => link.whole.2 (by simp [ends, feed])
    have step := link_rule_step link.undivided ⟨link.whole.1, whole⟩ (ends ▸ link.unclosed) [']']
    have shape : link.source = "[[".toList ++ (link.label ++ '>' :: (target ++ ("]]".toList ++ [']']))) := by
      simp [source, ends]
    have bracket : Inline.linkRule.apply [']'] = [']'] := by decide +kernel
    refine ⟨target, [']'], ends, ?_, .inr ⟨rfl, last⟩⟩
    rw [shape, Substitution.apply_of_some step, bracket]
  · have unclosed : ¬ "]]".toList <:+: link.target ++ [']'] := by
      rw [List.infix_concat_iff]
      rintro (ends | inside)
      · obtain ⟨front, shape⟩ := ends
        have split : (front ++ [']']) ++ [']'] = link.target ++ [']'] := by simpa using shape
        exact last (by rw [← List.append_cancel_right split, List.getLast?_concat])
      · exact link.unclosed inside
    have step := link_rule_step link.undivided link.whole unclosed []
    rw [List.append_nil] at step
    refine ⟨link.target, [], (List.append_nil _).symm, ?_, .inl ⟨rfl, last⟩⟩
    rw [source, Substitution.apply_of_some step, Substitution.apply_nil]

theorem not_mem_written {c : Char} (known : c ∈ "<\x27%&#".toList) :
    c ∉ link.source ∧ c ∉ Inline.linkRule.apply link.source := by
  have apart : ∀ c ∈ "<\x27%&#".toList, c ∉ "[]()>".toList := List.all_iff_forall_prop.mp (by decide)
  have marks := apart c known
  obtain ⟨target, back, split, written, _⟩ := link.apply_source
  obtain ⟨label, own⟩ := link.plain c known
  have trimmed : c ∉ trim link.label := fun member => label ((trim_inside _).subset member)
  rw [split, List.mem_append, not_or] at own
  simp only [String.reduceToList, List.mem_cons, List.not_mem_nil, or_false, not_or] at marks
  constructor
  · simp [source, split, label, own, marks]
  · simp [written, Inline.link, own, trimmed, marks]

theorem single_written : ¬ "  ".toList <:+: Inline.linkRule.apply link.source := by
  obtain ⟨target, back, split, written, ends⟩ := link.apply_source
  have label : ¬ "  ".toList <:+: trim link.label := fun double => link.single.1 (double.trans (trim_inside _))
  have inner : ¬ "  ".toList <:+: target := fun double =>
    link.single.2 (double.trans (split ▸ (List.prefix_append target back).isInfix))
  have ending : ¬ "  ".toList <:+: back := by
    rcases ends with ⟨rfl, _⟩ | ⟨rfl, _⟩ <;> decide
  have none : ¬ "  ".toList <:+: [] := by decide
  have shape : Inline.link link.label target ++ back =
      [] ++ '[' :: (trim link.label ++ ']' :: ([] ++ '(' :: (target ++ ')' :: back))) := by
    simp [Inline.link]
  rw [written, shape, infix_across (by decide) (by decide), infix_across (by decide) (by decide),
    infix_across (by decide) (by decide), infix_across (by decide) (by decide)]
  simp only [none, label, inner, ending, or_self, not_false_eq_true]

/-- The other inline notation finds nothing in what is written. -/
theorem convert_source : Inline.convert link.source = Inline.linkRule.apply link.source := by
  have above : "<\x27%".toList ⊆ "<\x27%&#".toList := by decide
  have below : "&#".toList ⊆ "<\x27%&#".toList := by decide
  exact Inline.convert_of_links (fun c member => (link.not_mem_written (above member)).1)
    (fun c member => (link.not_mem_written (below member)).2) link.single_written

theorem converted_iff : (∃ label target, Inline.convert link.source = (Piece.link label target).text) ↔
    link.target.getLast? ≠ some ']' := by
  obtain ⟨target, back, split, written, ends⟩ := link.apply_source
  rw [convert_source, written]
  rcases ends with ⟨rfl, other⟩ | ⟨rfl, last⟩
  · refine iff_of_true ⟨trim link.label, target, ?_⟩ other
    rw [List.append_nil]
    rfl
  · refine iff_of_false ?_ (not_not_intro last)
    rintro ⟨label, other, shape⟩
    have final := congrArg List.getLast? shape
    rw [List.getLast?_concat, Piece.text, ← List.cons_append, List.getLast?_concat] at final
    exact absurd final (by decide)

theorem convert_written (ends : link.target.getLast? ≠ some ']') :
    Inline.convert link.source = link.written.text := by
  obtain ⟨target, back, split, written, ⟨rfl, _⟩ | ⟨_, last⟩⟩ := link.apply_source
  · rw [convert_source, written, WikiLink.written, split, List.append_nil, List.append_nil]
    rfl
  · exact absurd last ends

/-! ## Reading -/

theorem readable_iff : Readable (trim link.label) link.target ↔ ']' ∉ link.label ∧ ')' ∉ link.target := by
  have label : ']' ∈ trim link.label ↔ ']' ∈ link.label := mem_trim_iff (by decide)
  constructor
  · exact fun readable => ⟨fun member => readable.unclosed (label.mpr member), readable.unended⟩
  · exact fun ⟨unclosed, unended⟩ =>
      ⟨fun member => unclosed (label.mp member), link.nonempty, unended, link.whole.2⟩

/-- What is written is read back, whatever stands behind it. -/
theorem pieces_iff : (∀ previous rest, previous ≠ some '!' →
      piecesAfter previous (link.written.text ++ rest) = link.written :: piecesAfter (some ')') rest) ↔
    ']' ∉ link.label ∧ ')' ∉ link.target := by
  rw [← readable_iff]
  constructor
  · intro reads
    have alone := reads none [] (by simp)
    rw [List.append_nil, piecesAfter, written, pieces_link_iff (by simp)] at alone
    exact alone
  · exact fun readable previous rest free => readable.pieces free rest

/-- A page of the link. -/
def page (options : Options) : Text := link.written.text ++ Batch.lastLineEnd options

theorem page_pieces (readable : Readable (trim link.label) link.target)
    (inside : ∀ c ∈ link.label ++ link.target, isLineEnd c = false) (options : Options) :
    pagePieces (link.page options) = link.written :: (Batch.lastLineEnd options).map .char := by
  have line : ∀ c ∈ link.written.text, isLineEnd c = false := by
    rw [List.forall_mem_append] at inside
    have label : ∀ c ∈ trim link.label, isLineEnd c = false :=
      fun c member => inside.1 c ((trim_inside _).subset member)
    have marks : ∀ c ∈ "](".toList, isLineEnd c = false := List.all_iff_forall_prop.mp (by decide)
    simp only [written, Piece.text, List.forall_mem_cons, List.forall_mem_append]
    exact ⟨rfl, ⟨⟨label, marks⟩, inside.2⟩, rfl, by simp⟩
  have ends : wholeLines (Batch.lastLineEnd options) = [Batch.lastLineEnd options] := by
    unfold Batch.lastLineEnd
    cases options.crlf <;> decide +kernel
  have text : isFence (link.page options) = false := rfl
  have unopened : '[' ∉ Batch.lastLineEnd options := by
    unfold Batch.lastLineEnd
    cases options.crlf <;> decide
  rw [page, page_pieces_line line ends text, linkPieces, written, readable.pieces (by simp),
    pieces_of_unopened unopened]

theorem redirect_page {options : Options} {resolve? : Text → Option Text} {file : Text}
    (readable : Readable (trim link.label) link.target)
    (inside : ∀ c ∈ link.label ++ link.target, isLineEnd c = false) (resolved : resolve? link.target = some file) :
    redirect resolve? (link.page options) =
        (Piece.link (trim link.label) file).text ++ Batch.lastLineEnd options ∧
      redirected resolve? (link.page options) = 1 := by
  have pieces := link.page_pieces readable inside options
  constructor
  · rw [redirect, pieces, List.flatMap_cons, List.flatMap_map, written, Piece.redirect, resolved]
    simp [Piece.redirect, Piece.text]
  · rw [redirected, pieces, List.countP_cons, List.countP_map, written, Piece.isRedirected, resolved]
    simp [Function.comp_def, Piece.isRedirected]

end WikiLink

/-- A link is written as one in Markdown unless its target ends with a bracket. What is written is read back
as it is, and replaced as a whole, exactly where no bracket stands in the label and no closing parenthesis in
the target. -/
theorem convert_wiki_link (link : WikiLink) :
    ((∃ label target, Inline.convert link.source = (Piece.link label target).text) ↔
      link.target.getLast? ≠ some ']') ∧
    (link.target.getLast? ≠ some ']' → Inline.convert link.source = link.written.text) ∧
    ((∀ previous rest, previous ≠ some '!' →
        piecesAfter previous (link.written.text ++ rest) = link.written :: piecesAfter (some ')') rest) ↔
      ']' ∉ link.label ∧ ')' ∉ link.target) ∧
    (']' ∉ link.label → ')' ∉ link.target → (∀ c ∈ link.label ++ link.target, isLineEnd c = false) →
      ∀ options resolve? file, resolve? link.target = some file →
        redirect resolve? (link.page options) =
            (Piece.link (trim link.label) file).text ++ Batch.lastLineEnd options ∧
          redirected resolve? (link.page options) = 1) :=
  ⟨link.converted_iff, link.convert_written, link.pieces_iff, fun unclosed unended inside _ _ _ resolved =>
    link.redirect_page (link.readable_iff.mpr ⟨unclosed, unended⟩) inside resolved⟩

example : ({ label := " Top page ".toList, target := "Home [2] (a".toList } : WikiLink).written.text =
    "[Top page](Home [2] (a)".toList := by decide +kernel

/-- A parenthesis in the target ends the link early, and with a bracket in the label nothing is read. -/
theorem parenthesis_ends_link :
    Inline.convert "[[a>b (c)]]".toList = "[a](b (c))".toList ∧
      linkPieces "[a](b (c))".toList = [.link "a".toList "b (c".toList, .char ')'] ∧
      redirect (resolve (fun _ => "b-c".toList) [⟨"b-c".toList, "b-c".toList, "b (c)".toList⟩])
          "[a](b (c))\n".toList = "[a](b-c.md))\n".toList ∧
      Inline.convert "[[a]b>c]]".toList = "[a]b](c)".toList ∧
      linkPieces "[a]b](c)".toList = "[a]b](c)".toList.map .char := by
  decide +kernel

end Wikidown
