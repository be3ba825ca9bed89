import Wikidown.Document
import Wikidown.Proofs.Text.Rewrite

/-!
# Normalised documents

Line ends are brought to one form from left to right, so a line feed cuts the work in two; and only
lines that ask for the table of contents are changed.
-/

namespace Wikidown

set_option autoImplicit false

/-- One form of line ends: what stands behind a line feed is brought to it on its own. -/
theorem unified_append_newline (text : Text) : ∃ front, ∀ tail,
    (Substitution.literal "\r\n".toList "\n".toList).apply (text ++ '\n' :: tail) =
      front ++ '\n' :: (Substitution.literal "\r\n".toList "\n".toList).apply tail := by
  induction size : text.length using Nat.strong_induction_on generalizing text with
  | _ size ih =>
      cases text with
      | nil => exact ⟨[], fun tail => Substitution.literal_apply_cons _ (by simp)⟩
      | cons c text =>
          by_cases ended : "\r\n".toList <+: c :: text
          · obtain ⟨rest, shape⟩ := ended
            have shorter : rest.length < (c :: text).length := by
              rw [← shape, List.length_append]
              exact Nat.lt_add_of_pos_left (by decide)
            obtain ⟨front, behind⟩ := ih rest.length (size ▸ shorter) rest rfl
            refine ⟨'\n' :: front, fun tail => ?_⟩
            rw [← shape, List.append_assoc, Substitution.literal_apply_found, behind]
            rfl
          · by_cases lone : c = '\r' ∧ text = []
            · obtain ⟨rfl, rfl⟩ := lone
              exact ⟨[], fun tail => Substitution.literal_apply_found "\r\n".toList "\n".toList tail
                (by decide)⟩
            · obtain ⟨front, behind⟩ := ih text.length (by simp [← size]) text rfl
              refine ⟨c :: front, fun tail => ?_⟩
              have other : ¬ "\r\n".toList <+: c :: (text ++ '\n' :: tail) := by
                cases text with
                | nil => simpa [List.cons_prefix_cons, eq_comm] using lone
                | cons d text => simpa [List.cons_prefix_cons] using ended
              rw [List.cons_append, Substitution.literal_apply_cons _ other, behind,
                List.cons_append]

theorem prefix_of_unified {word text : Text} (feed : '\n' ∉ word)
    (front : word <+: (Substitution.literal "\r\n".toList "\n".toList).apply text) : word <+: text := by
  induction word generalizing text with
  | nil => exact List.nil_prefix
  | cons c word ih =>
      rw [List.mem_cons, not_or] at feed
      cases text with
      | nil => simp [Substitution.apply_nil] at front
      | cons d text =>
          by_cases ended : "\r\n".toList <+: d :: text
          · obtain ⟨rest, shape⟩ := ended
            rw [← shape, Substitution.literal_apply_found] at front
            exact absurd (List.cons_prefix_cons.mp front).1 (Ne.symm feed.1)
          · rw [Substitution.literal_apply_cons _ ended, List.cons_prefix_cons] at front
            exact List.cons_prefix_cons.mpr ⟨front.1, ih feed.2 front.2⟩

/-- A word within a line has been there before the line ends were brought to one form. -/
theorem infix_of_unified {word text : Text} (feed : '\n' ∉ word) (nonempty : word ≠ [])
    (inside : word <:+: (Substitution.literal "\r\n".toList "\n".toList).apply text) :
    word <:+: text := by
  induction size : text.length using Nat.strong_induction_on generalizing text with
  | _ size ih =>
      cases text with
      | nil => rwa [Substitution.apply_nil] at inside
      | cons d text =>
          by_cases ended : "\r\n".toList <+: d :: text
          · obtain ⟨rest, shape⟩ := ended
            have shorter : rest.length < (d :: text).length := by
              rw [← shape, List.length_append]
              exact Nat.lt_add_of_pos_left (by decide)
            rw [← shape, Substitution.literal_apply_found] at inside
            rcases List.infix_cons_iff.mp inside with front | later
            · obtain ⟨c, more, rfl⟩ := List.exists_cons_of_ne_nil nonempty
              exact absurd (List.cons_prefix_cons.mp front).1 fun same => feed (same ▸ List.mem_cons_self)
            · rw [← shape]
              exact (ih rest.length (size ▸ shorter) later rfl).trans (List.suffix_append _ _).isInfix
          · rw [Substitution.literal_apply_cons _ ended] at inside
            rcases List.infix_cons_iff.mp inside with front | later
            · rw [← Substitution.literal_apply_cons _ ended] at front
              exact (prefix_of_unified feed front).isInfix
            · exact (ih text.length (by simp [← size]) later rfl).trans (List.suffix_cons d text).isInfix

theorem lines_contents (text : Text) :
    lines (replaceLines contentsDirective text) = (lines text).flatMap contentsDirective := by
  refine lines_replace_lines _ _ (fun line => ?_) fun line whole other member => ?_
  · unfold contentsDirective
    split <;> simp
  · unfold contentsDirective at member
    split at member
    · rcases List.mem_pair.mp member with rfl | rfl <;> decide
    · rw [List.mem_singleton] at member
      exact member ▸ whole

theorem contents_of_undirected {content : List Line} (undirected : "#contents".toList ∉ content) :
    content.flatMap contentsDirective = content := by
  induction content with
  | nil => rfl
  | cons line content ih =>
      rw [List.mem_cons, not_or] at undirected
      rw [List.flatMap_cons, ih undirected.2, contentsDirective, if_neg (Ne.symm undirected.1)]
      rfl

/-- A text without carriage returns has one form of line ends already. -/
theorem unified_of_uniform {text : Text} (uniform : '\r' ∉ text) (tail : Text) :
    (Substitution.literal "\r\n".toList "\n".toList).apply (text ++ '\n' :: tail) =
      text ++ '\n' :: (Substitution.literal "\r\n".toList "\n".toList).apply tail := by
  induction text with
  | nil => exact Substitution.literal_apply_cons _ (by simp)
  | cons c text ih =>
      rw [List.mem_cons, not_or] at uniform
      rw [List.cons_append, Substitution.literal_apply_cons _ (by simp [uniform.1]),
        ih uniform.2, List.cons_append]

/-- A document with neither carriage returns nor directives, between the lines that are put around
it. -/
theorem lines_normalize {source : Text} (uniform : '\r' ∉ source)
    (undirected : "#contents".toList ∉ lines source) :
    lines (normalize source) = [] :: lines source ++ [[], []] := by
  have unified : (Substitution.literal "\r\n".toList "\n".toList).apply source = source :=
    Substitution.literal_apply_of_absent (by decide) fun inside =>
      uniform (inside.subset (by decide))
  have split : lines ('\n' :: source ++ "\n\n".toList) = [] :: lines source ++ [[], []] := by
    have around : '\n' :: source ++ "\n\n".toList = [] ++ '\n' :: (source ++ '\n' :: ['\n']) := by
      simp
    rw [around, lines_append_newline, lines_append_newline]
    rfl
  rw [normalize, unified, lines_contents, split, contents_of_undirected]
  simp only [List.cons_append, List.mem_cons, List.mem_append, not_or]
  exact ⟨by simp, undirected, by simp⟩

/-- What stands below a blank line is normalised on its own, and lines above it hold no other words
than the text there. -/
theorem lines_normalize_above (above : Text) : ∃ content,
    (∀ line ∈ content, line = "[toc]".toList ∨ ∀ word, '\n' ∉ word → word <:+: line → word <:+: above) ∧
      ∀ rest, '\r' ∉ rest → "#contents".toList ∉ lines rest →
        lines (normalize (above ++ '\n' :: '\n' :: rest)) =
          [] :: (content ++ [] :: (lines rest ++ [[], []])) := by
  obtain ⟨front, behind⟩ := unified_append_newline above
  refine ⟨(lines front).flatMap contentsDirective, fun line member => ?_, fun rest uniform undirected => ?_⟩
  · obtain ⟨other, inside, written⟩ := List.mem_flatMap.mp member
    unfold contentsDirective at written
    split at written
    · rcases List.mem_pair.mp written with rfl | rfl
      · exact .inl rfl
      · exact .inr fun word _ empty => (List.infix_nil.mp empty) ▸ List.nil_infix
    · obtain rfl := List.mem_singleton.mp written
      refine .inr fun word feed within => ?_
      by_cases empty : word = []
      · exact empty ▸ List.nil_infix
      · have unified : word <:+: (Substitution.literal "\r\n".toList "\n".toList).apply (above ++ ['\n']) := by
          rw [behind []]
          exact (within.trans (infix_of_mem_lines inside)).trans (List.prefix_append _ _).isInfix
        rcases (infix_across empty feed).mp (infix_of_unified feed empty unified) with whole | nothing
        · exact whole
        · exact absurd (List.infix_nil.mp nothing) empty
  · have same : (Substitution.literal "\r\n".toList "\n".toList).apply (above ++ '\n' :: '\n' :: rest) =
        front ++ '\n' :: '\n' :: rest := by
      have absent : ¬ "\r\n".toList <:+: '\n' :: rest := by
        intro inside
        have member := inside.subset (show '\r' ∈ "\r\n".toList by decide)
        simp [uniform] at member
      rw [behind, Substitution.literal_apply_of_absent _ absent]
    have split : lines ('\n' :: (front ++ '\n' :: '\n' :: rest) ++ "\n\n".toList) =
        [] :: (lines front ++ [] :: (lines rest ++ [[], []])) := by
      have around : '\n' :: (front ++ '\n' :: '\n' :: rest) ++ "\n\n".toList =
          [] ++ '\n' :: (front ++ '\n' :: ([] ++ '\n' :: (rest ++ '\n' :: ['\n']))) := by
        simp
      rw [around, lines_append_newline, lines_append_newline, lines_append_newline, lines_append_newline]
      rfl
    have below : (lines rest ++ [[], []]).flatMap contentsDirective = lines rest ++ [[], []] := by
      apply contents_of_undirected
      simp only [List.mem_append, List.mem_cons, List.not_mem_nil, or_false, not_or]
      exact ⟨undirected, by simp, by simp⟩
    rw [normalize, same, lines_contents, split, List.flatMap_cons, List.flatMap_append, List.flatMap_cons,
      below]
    rfl

/-- The lines of texts with a blank line between each two of them. -/
theorem lines_intercalate {texts : List Text} (nonempty : texts ≠ []) :
    lines ("\n\n".toList.intercalate texts) ++ [[]] = texts.flatMap fun text => lines text ++ [[]] := by
  induction texts with
  | nil => contradiction
  | cons text texts ih =>
      by_cases single : texts = []
      · subst single
        simp
      · have feeds (rest : Text) : text ++ "\n\n".toList ++ rest = text ++ '\n' :: '\n' :: rest := by simp
        rw [List.intercalate_cons_of_ne_nil single, feeds, lines_append_newline, lines_cons_newline,
          List.append_assoc, List.cons_append, ih single, List.flatMap_cons, List.append_assoc]
        rfl

/-- The lines of parts with a blank line between each two of them, and with two behind the last. -/
theorem lines_intercalate_unlines {Part : Type} {source : Part → List Line}
    (own : ∀ part, lines (unlines (source part)) = source part) {parts : List Part} (nonempty : parts ≠ []) :
    lines ("\n\n".toList.intercalate (parts.map fun part => unlines (source part))) ++ [[], []] =
      parts.flatMap (fun part => source part ++ [[]]) ++ [[]] := by
  have apart := @lines_intercalate (parts.map fun part => unlines (source part)) (by simpa using nonempty)
  have each : (parts.map fun part => unlines (source part)).flatMap (fun text => lines text ++ [[]]) =
      parts.flatMap fun part => source part ++ [[]] := by
    rw [List.flatMap_map]
    exact List.flatMap_congr fun part _ => congrArg (· ++ [[]]) (own part)
  rw [each] at apart
  rw [← apart, List.append_assoc]
  rfl

/-! ## Line endings of the result -/

theorem with_line_endings_cons (crlf : Bool) (c : Char) (text : Text) :
    withLineEndings crlf (c :: text) =
      (if crlf = true ∧ c = '\n' then "\r\n".toList else [c]) ++ withLineEndings crlf text := by
  cases crlf with
  | false => rfl
  | true =>
      by_cases feed : c = '\n'
      · subst feed
        exact Substitution.literal_apply_found "\n".toList _ text (by decide)
      · rw [if_neg fun both => feed both.2]
        refine Substitution.literal_apply_cons (by decide) fun begins => feed ?_
        exact (List.cons_prefix_cons.mp begins).1.symm

theorem with_line_endings_append (crlf : Bool) (front back : Text) :
    withLineEndings crlf (front ++ back) = withLineEndings crlf front ++ withLineEndings crlf back := by
  induction front with
  | nil =>
      cases crlf with
      | false => rfl
      | true => exact (congrArg (· ++ _) (Substitution.apply_nil _)).symm
  | cons c front ih =>
      rw [List.cons_append, with_line_endings_cons, with_line_endings_cons, ih, List.append_assoc]

theorem with_line_endings_head (text : Text) : (withLineEndings true text).head? ≠ some '\n' := by
  cases text with
  | nil =>
      have none : withLineEndings true [] = [] := Substitution.apply_nil _
      simp [none]
  | cons c text =>
      rw [with_line_endings_cons]
      by_cases feed : c = '\n' <;> simp [feed]

/-- The line endings of a text are taken back by bringing them to one form. -/
theorem with_line_endings_undone :
    Function.LeftInverse (Substitution.literal "\r\n".toList "\n".toList).apply (withLineEndings true) := by
  intro text
  induction text with
  | nil => exact (congrArg _ (Substitution.apply_nil _)).trans (Substitution.apply_nil _)
  | cons c text ih =>
      rw [with_line_endings_cons]
      by_cases feed : c = '\n'
      · have found := Substitution.literal_apply_found "\r\n".toList "\n".toList (withLineEndings true text)
          (by decide)
        rw [if_pos ⟨rfl, feed⟩, found, ih, feed]
        rfl
      · have apart : ¬ "\r\n".toList <+: c :: withLineEndings true text := by
          rintro ⟨rest, shape⟩
          refine with_line_endings_head text ?_
          rw [← (List.cons.inj shape).2]
          rfl
        rw [if_neg fun both => feed both.2, List.singleton_append,
          Substitution.literal_apply_cons (by decide) apart, ih]

theorem with_line_endings_injective (crlf : Bool) : Function.Injective (withLineEndings crlf) := by
  cases crlf with
  | false => exact Function.injective_id
  | true => exact with_line_endings_undone.injective

end Wikidown
