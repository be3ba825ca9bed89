import Wikidown.Proofs.Layout.Below

/-!
# Documents that end with rows

Masking, the rules for carriage returns and the rule for headings take a document line by line, so
rows below a blank line stay as they are, and what becomes of the lines above does not depend on them.
-/

namespace Wikidown

set_option autoImplicit false

open Layout Layout.Table

variable {rest : Text}

theorem OnlyRows.head (rows : OnlyRows rest) : ∀ line ∈ lines rest ++ List.replicate 2 [], BlankOrRow line :=
  List.forall_mem_append.mpr ⟨rows.barred, blank_or_row_replicate 2⟩

theorem OnlyRows.structural (rows : OnlyRows rest) :
    ∀ line ∈ lines rest ++ List.replicate 2 [], Structural line :=
  fun line member => (rows.head line member).structural

theorem whole_rows (rest : Text) : ∀ line ∈ lines rest ++ List.replicate 2 [], '\n' ∉ line := by
  exact List.forall_mem_append.mpr ⟨fun line => no_newline_of_mem_lines, blank_lines_whole 2⟩

theorem OnlyRows.no_return (rows : OnlyRows rest) :
    ∀ line ∈ lines rest ++ List.replicate 2 [], '\r' ∉ line := by
  refine List.forall_mem_append.mpr ⟨fun line member inside => ?_, fun line member => ?_⟩
  · exact rows.uniform ((infix_of_mem_lines member).subset inside)
  · rw [List.eq_of_mem_replicate member]
    exact List.not_mem_nil

/-! ## Masking -/

namespace Masked

variable {content below : List Line}

theorem hide_paragraphs_above (next : Nat) (content : List Line)
    (others : ∀ line ∈ below, isParagraph line = false) :
    hideParagraphs next (content ++ below) =
      ((hideParagraphs next content).1 ++ below, (hideParagraphs next content).2) := by
  induction content generalizing next with
  | nil =>
      have alone := hide_paragraphs_others next [] others
      rw [List.append_nil] at alone
      exact alone.trans (by rw [hideParagraphs, List.append_nil]; rfl)
  | cons line content ih =>
      rw [List.cons_append, hideParagraphs, hideParagraphs]
      split
      · rw [ih (next + 1)]
        rfl
      · rw [ih next]
        rfl

/-- Whether a run of paragraphs ends above an empty line does not depend on what stands below it. -/
theorem end_paragraphs_above (content : List Line) : ∃ ended, ∀ below : List Line,
    (∀ line ∈ below, isParagraphToken line = false) →
      endParagraphs (content ++ [] :: below) = ended ++ [] :: below := by
  have empty (below : List Line) (others : ∀ line ∈ below, isParagraphToken line = false) :
      endParagraphs ([] :: below) = [] :: below := by
    have all : ∀ line ∈ [] :: below, isParagraphToken line = false := List.forall_mem_cons.mpr ⟨rfl, others⟩
    have alone := end_paragraphs_others [] all
    simpa [endParagraphs] using alone
  induction content with
  | nil => exact ⟨[], empty⟩
  | cons line content ih =>
      obtain ⟨ended, same⟩ := ih
      have step (next : Line) (shape : ∀ below : List Line, ∃ more, content ++ [] :: below = next :: more) :
          ∃ ended, ∀ below : List Line, (∀ line ∈ below, isParagraphToken line = false) →
            endParagraphs (line :: (content ++ [] :: below)) = ended ++ [] :: below := by
        by_cases last : (isParagraphToken line && !startsWith "\x7b\x7b".toList next) = true
        · refine ⟨line :: [] :: ended, fun below others => ?_⟩
          obtain ⟨more, begins⟩ := shape below
          have rest := same below others
          rw [begins] at rest ⊢
          rw [endParagraphs, if_pos last, rest]
          rfl
        · refine ⟨line :: ended, fun below others => ?_⟩
          obtain ⟨more, begins⟩ := shape below
          have rest := same below others
          rw [begins] at rest ⊢
          rw [endParagraphs, if_neg last, rest]
          rfl
      cases content with
      | nil => exact step [] fun below => ⟨below, rfl⟩
      | cons next content => exact step next fun below => ⟨content ++ [] :: below, rfl⟩

end Masked

/-- What no line above opens, no line of the whole opens. -/
theorem OnlyRows.unopened (rows : OnlyRows rest) {above opening : Text} {content : List Line}
    (words : ∀ line ∈ content,
      line = "[toc]".toList ∨ ∀ word, '\n' ∉ word → word <:+: line → word <:+: above)
    (absent : ¬ '\x7b' :: opening <:+: above) (whole : '\n' ∉ opening) :
    ∀ line ∈ framed content (lines rest) 2, after? ('\x7b' :: opening) line = none := by
  rw [framed]
  simp only [List.forall_mem_cons, List.forall_mem_append]
  refine ⟨rfl, fun line member => ?_, rfl, List.forall_mem_append.mp fun line member => ?_⟩
  · refine after_eq_none_of_not_prefix fun front => ?_
    rcases words line member with rfl | inside
    · exact absurd (List.cons_prefix_cons.mp front).1 (by decide)
    · exact absent (inside _ (by simp [whole]) front.isInfix)
  · refine after_eq_none_of_head (fun begins => ?_) opening
    exact absurd (rows.structural line member _ begins) (by decide)

theorem masked_above {above : Text} (uncoded : ¬ Masked.codeShape.opening <:+: above)
    (unquoted : ¬ Masked.quoteShape.opening <:+: above) :
    ∃ content, ∀ rest, OnlyRows rest →
      lines (Document.masked (above ++ '\n' :: '\n' :: rest)).text = framed content (lines rest) 2 := by
  obtain ⟨content, words, normalized⟩ := lines_normalize_above above
  obtain ⟨ended, ends⟩ := Masked.end_paragraphs_above (Masked.hideParagraphs 0 content).1
  refine ⟨ended.flatMap lines, fun rest rows => ?_⟩
  have document : lines (normalize (above ++ '\n' :: '\n' :: rest)) = framed content (lines rest) 2 :=
    normalized rest rows.uniform rows.undirected
  have code : ∀ line ∈ lines (normalize (above ++ '\n' :: '\n' :: rest)),
      after? Masked.codeShape.opening line = none := by
    rw [document]
    exact rows.unopened words uncoded (by decide)
  have quote : ∀ line ∈ lines (normalize (above ++ '\n' :: '\n' :: rest)),
      after? Masked.quoteShape.opening line = none := by
    rw [document]
    exact rows.unopened words unquoted (by decide)
  have others : ∀ line ∈ [] :: (lines rest ++ List.replicate 2 []), Masked.isParagraph line = false :=
    List.forall_mem_cons.mpr ⟨rfl, fun line member => (rows.structural line member).no_paragraph⟩
  have hidden : Masked.hideParagraphs 0 (framed content (lines rest) 2) =
      (framed (Masked.hideParagraphs 0 content).1 (lines rest) 2, (Masked.hideParagraphs 0 content).2) := by
    rw [framed, Masked.hideParagraphs, if_neg (by decide), Masked.hide_paragraphs_above 0 content others]
    rfl
  have below := ends (lines rest ++ List.replicate 2 []) fun line member =>
    (rows.structural line member).no_token
  rw [Document.masked, Masked.of_text_unopened code quote, document, hidden, framed, List.take_succ_cons,
    List.take_zero, List.drop_succ_cons, List.drop_zero, below, List.singleton_append,
    lines_unlines_flatMap (by simp), List.flatMap_cons, List.flatMap_append, List.flatMap_cons,
    flatMap_lines_of_whole (whole_rows rest)]
  rfl

/-! ## The rules above those for tables -/

theorem without_return_of_absent {line : Line} (absent : '\r' ∉ line) : withoutReturn line = line := by
  cases line with
  | nil => rfl
  | cons c line =>
      rw [List.mem_cons, not_or] at absent
      rw [withoutReturn, if_neg (Ne.symm absent.1)]

variable {content : List Line} {text : Text}

theorem framed_whole (framing : lines text = framed content (lines rest) 2) :
    ∀ line ∈ framed content (lines rest) 2, '\n' ∉ line := by
  rw [← framing]
  exact fun line => no_newline_of_mem_lines

theorem returns_framed (rows : OnlyRows rest) (framing : lines text = framed content (lines rest) 2) :
    (Substitution.literal "\n\r".toList "\n".toList).apply text =
      unlines (framed (content.map withoutReturn) (lines rest) 2) := by
  have kept : (lines rest ++ List.replicate 2 []).map withoutReturn = lines rest ++ List.replicate 2 [] :=
    (List.map_congr_left fun line member => without_return_of_absent (rows.no_return line member)).trans
      (List.map_id _)
  have whole := framed_whole framing
  rw [framed] at whole
  rw [← unlines_lines text, framing, framed, returns_unlines [] _ whole, List.map_append, List.map_cons,
    kept]
  rfl

theorem breaks_framed (rows : OnlyRows rest) (content : List Line) :
    lines ((Substitution.literal "\r".toList "\n".toList).apply (unlines (framed content (lines rest) 2))) =
      framed ((content.map (Substitution.literal "\r".toList "\n".toList).apply).flatMap lines)
        (lines rest) 2 := by
  have apart (front back : Text) : (Substitution.literal "\r".toList "\n".toList).apply
      (front ++ '\n' :: back) = (Substitution.literal "\r".toList "\n".toList).apply front ++
        '\n' :: (Substitution.literal "\r".toList "\n".toList).apply back := by
    rw [Substitution.apply_append (Substitution.literal_stops (by decide)),
      Substitution.literal_apply_cons _ (by simp)]
  have kept : (lines rest ++ List.replicate 2 []).map
      (Substitution.literal "\r".toList "\n".toList).apply = lines rest ++ List.replicate 2 [] := by
    refine (List.map_congr_left fun line member => ?_).trans (List.map_id _)
    apply Substitution.literal_apply_of_absent (by decide)
    exact fun inside => rows.no_return line member (inside.subset (by decide))
  have each := unlines_map_lines (framed content (lines rest) 2)
    (Substitution.literal "\r".toList "\n".toList).apply (List.cons_ne_nil _ _) apart
  rw [each, lines_unlines_flatMap (by simp [framed]), framed, List.map_cons, List.map_append,
    List.map_cons, kept, Substitution.apply_nil, List.flatMap_cons, List.flatMap_append,
    List.flatMap_cons, flatMap_lines_of_whole (whole_rows rest)]
  rfl

theorem headings_framed (rows : OnlyRows rest) (content : List Line) :
    (framed content (lines rest) 2).flatMap heading = framed (content.flatMap heading) (lines rest) 2 := by
  have unstarred : ∀ line ∈ lines rest ++ List.replicate 2 [], heading line = [line] :=
    fun line member => heading_of_unstarred ((rows.head line member).head_ne (by decide))
  have kept : (lines rest ++ List.replicate 2 []).flatMap heading = lines rest ++ List.replicate 2 [] := by
    rw [List.flatMap_congr unstarred]
    exact (List.flatMap_pure_eq_map id _).trans (List.map_id _)
  rw [framed, List.flatMap_cons, List.flatMap_append, List.flatMap_cons, kept]
  rfl

theorem headed_above {above : Text} (promote : Bool) (uncoded : ¬ Masked.codeShape.opening <:+: above)
    (unquoted : ¬ Masked.quoteShape.opening <:+: above) :
    ∃ content, ∀ rest, OnlyRows rest →
      lines (((rules promote).take 3).foldl (fun current rule => rule current)
        (Document.masked (above ++ '\n' :: '\n' :: rest)).text) = framed content (lines rest) 2 := by
  obtain ⟨content, masked⟩ := masked_above uncoded unquoted
  refine ⟨(((content.map withoutReturn).map
    (Substitution.literal "\r".toList "\n".toList).apply).flatMap lines).flatMap heading,
    fun rest rows => ?_⟩
  have headings (text : Text) : lines (replaceLines heading text) = (lines text).flatMap heading :=
    lines_replace_lines heading text heading_ne_nil fun _ => heading_whole
  simp only [rules, List.take_succ_cons, List.take_zero, List.foldl_cons, List.foldl_nil]
  rw [returns_framed rows (masked rest rows), headings, breaks_framed rows, headings_framed rows]

end Wikidown
