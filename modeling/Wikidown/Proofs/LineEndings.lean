import Wikidown.Proofs.Layout.Plain
import Wikidown.Proofs.Normalize
import Wikidown.Proofs.Placeholder.Absent
import Wikidown.Settings.Options

/-!
# Line endings

A document whose lines end with a carriage return and a line feed is converted like the one whose
lines end with a line feed alone, and all lines of a result end in the same way. A carriage return
that stands for a line ending on its own is not read as one: in code, quotes and paragraphs it
stays.
-/

namespace Wikidown

set_option autoImplicit false

/-- Each carriage return has a line feed behind it. -/
def PairedReturns (text : Text) : Prop :=
  ∀ front back, text = front ++ '\r' :: back → back.head? = some '\n'

/-- Each line feed has exactly one carriage return before it. -/
def PairedFeeds (text : Text) : Prop :=
  ∀ front back, text = front ++ '\n' :: back →
    ∃ above, front = above ++ ['\r'] ∧ above.getLast? ≠ some '\r'

/-- Line endings of one form: line feeds alone, or each of them with its carriage return. -/
def UniformEnds (crlf : Bool) (text : Text) : Prop :=
  if crlf then PairedReturns text ∧ PairedFeeds text else '\r' ∉ text

section Written

variable {c : Char} {text : Text}

theorem paired_returns_nil : PairedReturns [] := by simp [PairedReturns]

theorem paired_returns_cons (other : c ≠ '\r') : PairedReturns (c :: text) ↔ PairedReturns text := by
  constructor
  · intro paired front back shape
    exact paired (c :: front) back (by rw [shape, List.cons_append])
  · intro paired front back shape
    rcases List.cons_eq_append_iff.mp shape with ⟨_, same⟩ | ⟨rest, _, behind⟩
    · exact absurd (List.cons.inj same).1.symm other
    · exact paired rest back behind

theorem paired_returns_return :
    PairedReturns ('\r' :: text) ↔ ∃ rest, text = '\n' :: rest ∧ PairedReturns rest := by
  constructor
  · intro paired
    obtain ⟨rest, rfl⟩ : ∃ rest, text = '\n' :: rest :=
      List.head?_eq_some_iff.mp (paired [] text rfl)
    refine ⟨rest, rfl, fun front back shape => ?_⟩
    exact paired ('\r' :: '\n' :: front) back (by rw [shape]; rfl)
  · rintro ⟨rest, rfl, paired⟩ front back shape
    rcases List.cons_eq_append_iff.mp shape with ⟨_, same⟩ | ⟨more, _, behind⟩
    · rw [(List.cons.inj same).2]
      rfl
    · exact (paired_returns_cons (by decide)).mpr paired more back behind

theorem paired_feeds_cons (other : c ≠ '\n') (plain : c ≠ '\r') (paired : PairedFeeds text) :
    PairedFeeds (c :: text) := by
  intro front back shape
  rcases List.cons_eq_append_iff.mp shape with ⟨_, same⟩ | ⟨rest, rfl, behind⟩
  · exact absurd (List.cons.inj same).1.symm other
  · obtain ⟨above, rfl, last⟩ := paired rest back behind
    refine ⟨c :: above, rfl, ?_⟩
    cases above with
    | nil => simpa using plain
    | cons d above => rwa [List.getLast?_cons_cons]

theorem paired_feeds_ending (paired : PairedFeeds text) : PairedFeeds ('\r' :: '\n' :: text) := by
  intro front back shape
  rcases List.cons_eq_append_iff.mp shape with ⟨_, same⟩ | ⟨rest, rfl, behind⟩
  · exact absurd (List.cons.inj same).1 (by decide)
  · rcases List.cons_eq_append_iff.mp behind with ⟨rfl, _⟩ | ⟨more, rfl, below⟩
    · exact ⟨[], rfl, by simp⟩
    · obtain ⟨above, rfl, last⟩ := paired more back below
      refine ⟨'\r' :: '\n' :: above, rfl, ?_⟩
      cases above with
      | nil => simp
      | cons d above => simpa using last

/-- A text without carriage returns gets line endings of one form. -/
theorem with_line_endings_uniform (crlf : Bool) (uniform : '\r' ∉ text) :
    UniformEnds crlf (withLineEndings crlf text) := by
  cases crlf with
  | false => exact uniform
  | true =>
      change PairedReturns _ ∧ PairedFeeds _
      induction text with
      | nil =>
          have none : withLineEndings true [] = [] := Substitution.apply_nil _
          rw [none]
          exact ⟨paired_returns_nil, by simp [PairedFeeds]⟩
      | cons c text ih =>
          rw [List.mem_cons, not_or] at uniform
          obtain ⟨returns, feeds⟩ := ih uniform.2
          rw [with_line_endings_cons]
          by_cases feed : c = '\n'
          · rw [if_pos ⟨rfl, feed⟩]
            exact ⟨paired_returns_return.mpr ⟨_, rfl, returns⟩, paired_feeds_ending feeds⟩
          · rw [if_neg fun both => feed both.2]
            have plain : c ≠ '\r' := Ne.symm uniform.1
            exact ⟨(paired_returns_cons plain).mpr returns, paired_feeds_cons feed plain feeds⟩

end Written

section Read

variable {text source : Text}

theorem return_not_mem_unified (text : Text) : '\r' ∉ Settings.unifyLineEnds text := by
  induction text using Settings.unifyLineEnds.induct with
  | case1 => simp [Settings.unifyLineEnds]
  | case2 text ih =>
      rw [Settings.unifyLineEnds, List.mem_cons, not_or]
      exact ⟨by decide, ih⟩
  | case3 c text other ih =>
      rw [Settings.unifyLineEnds.eq_3 c text other, List.mem_cons, not_or]
      refine ⟨?_, ih⟩
      split
      · decide
      · next plain => exact Ne.symm plain

/-- Where each carriage return has its line feed, nothing else is left to bring to one form. -/
theorem unified_of_paired (paired : PairedReturns text) :
    (Substitution.literal "\r\n".toList "\n".toList).apply text = Settings.unifyLineEnds text := by
  induction text using Settings.unifyLineEnds.induct with
  | case1 => exact Substitution.apply_nil _
  | case2 text ih =>
      obtain ⟨rest, shape, behind⟩ := paired_returns_return.mp paired
      obtain rfl := (List.cons.inj shape).2
      rw [Settings.unifyLineEnds, ← ih behind]
      exact Substitution.literal_apply_found "\r\n".toList "\n".toList text (by decide)
  | case3 c text other ih =>
      have plain : c ≠ '\r' := by
        rintro rfl
        obtain ⟨rest, rfl, _⟩ := paired_returns_return.mp paired
        exact other rest rfl rfl
      have apart : ¬ "\r\n".toList <+: c :: text := fun begins =>
        plain (List.cons_prefix_cons.mp begins).1.symm
      rw [Settings.unifyLineEnds.eq_3 c text other, if_neg plain,
        Substitution.literal_apply_cons (by decide) apart,
        ih ((paired_returns_cons plain).mp paired)]

theorem normalize_of_paired (paired : PairedReturns source) :
    normalize source = normalize (Settings.unifyLineEnds source) := by
  have absent : ¬ "\r\n".toList <:+: Settings.unifyLineEnds source := fun inside =>
    return_not_mem_unified source (inside.subset (by decide))
  rw [normalize, normalize, unified_of_paired paired,
    Substitution.literal_apply_of_absent (by decide) absent]

theorem convert_of_paired (options : Options) (paired : PairedReturns source) :
    convert options source = convert options (Settings.unifyLineEnds source) := by
  have masked : Document.masked source = Document.masked (Settings.unifyLineEnds source) :=
    congrArg Masked.ofText (normalize_of_paired paired)
  rw [convert, convert, Document.restored, Document.restored, Document.arranged, Document.arranged,
    masked]

end Read

/-! ## Results -/

section Results

variable {promote : Bool} {text : Text}

/-- The carriage return as a word. -/
theorem return_traced : Traced ['\r'] where
  letters := List.forall_mem_singleton.mpr (by decide)
  anchored := ⟨'\r', by decide, by decide⟩
  starts := by decide
  ends c last := by
    obtain rfl : '\r' = c := Option.some.inj last
    decide

theorem lacks_return (uniform : '\r' ∉ text) : Lacks promote ['\r'] text := by
  rw [Lacks, List.singleton_infix_iff]
  exact fun member => uniform (Lacks.mem_visible member)

theorem return_not_mem (lacks : Lacks true ['\r'] text) : '\r' ∉ text := by
  rwa [Lacks, List.singleton_infix_iff] at lacks

/-- What is left out of a rendered part is a line feed at one of its ends. -/
theorem without_doubled_blank_subset (written rest rendered : Text) :
    withoutDoubledBlank written rest rendered ⊆ rendered := by
  have front : (if startsWith "\n\n".toList written then (after? "\n".toList rendered).getD rendered
      else rendered) ⊆ rendered := by
    split
    · cases found : after? "\n".toList rendered with
      | none => exact List.Subset.refl _
      | some tail =>
          rw [after_eq_some.mp found]
          exact List.subset_append_right _ _
    · exact List.Subset.refl _
  rw [withoutDoubledBlank]
  generalize (if startsWith "\n\n".toList written then (after? "\n".toList rendered).getD rendered
    else rendered) = started at front
  split
  · cases found : before? "\n".toList started with
    | none => exact front
    | some stem =>
        rw [before_eq_some.mp found] at front
        exact List.Subset.trans (List.subset_append_left _ _) front
  · exact front

theorem sits_of_uniform {rendered : Text} (uniform : '\r' ∉ rendered) : Sits ['\r'] rendered := by
  intro front rest lacksFront lacksRest
  refine lacks_return ?_
  rw [List.mem_append, List.mem_append, not_or, not_or]
  refine ⟨return_not_mem lacksFront, fun member => ?_, return_not_mem lacksRest⟩
  exact uniform (without_doubled_blank_subset _ _ _ member)

/-- The layout begins with bringing lone carriage returns to line feeds. -/
theorem layout_uniform (promote : Bool) (text : Text) :
    '\r' ∉ Layout.convert promote text := by
  have replaced (text : Text) : '\r' ∉ (Substitution.literal "\r".toList "\n".toList).apply text :=
    Substitution.literal_takes_out (by decide) text
  generalize unified : ((Layout.rules promote).take 2).foldl (fun current rule => rule current) text = plain
  have uniform : '\r' ∉ plain := unified ▸ replaced _
  have same : Layout.convert promote text = Layout.convert promote plain := by
    have cut : Layout.rules promote = (Layout.rules promote).take 2 ++ (Layout.rules promote).drop 2 :=
      (List.take_append_drop 2 _).symm
    rw [Layout.convert, Layout.convert, cut, List.foldl_append, List.foldl_append, unified,
      Layout.returns_of_uniform uniform]
  rw [same]
  exact return_not_mem (Layout.convert_lacks return_traced (lacks_return uniform))

/-- A result has line endings of one form if no part has a carriage return between its ends. -/
theorem result_uniform {options : Options} {source result : Text}
    (parts : ∀ kind, ∀ part ∈ (Document.masked source).store.parts kind, '\r' ∉ trim part)
    (converted : convert options source = .ok result) : UniformEnds options.crlf result := by
  rw [convert] at converted
  cases restored : Document.restored options.promoteFirstRow source with
  | error fault =>
      rw [restored] at converted
      cases converted
  | ok text =>
      rw [restored] at converted
      obtain rfl : withLineEndings options.crlf (trim text) = result := Except.ok.inj converted
      have lacks : Lacks true ['\r'] text := by
        refine restore_all_lacks return_traced (fun kind part member => ?_) (fun part member => ?_) ?_
          restored
        · exact lacks_return (parts kind part member)
        · refine sits_of_uniform (return_not_mem ?_)
          exact Inline.convert_lacks return_traced (lacks_return (parts .paragraph part member))
        · exact collapse_lacks return_traced (lacks_return (layout_uniform _ _))
      refine with_line_endings_uniform options.crlf fun member => ?_
      exact return_not_mem lacks ((trim_inside text).subset member)

/-- Masking finds no carriage return where each has its line feed. -/
theorem parts_uniform {source : Text} (paired : PairedReturns source) :
    ∀ kind, ∀ part ∈ (Document.masked source).store.parts kind, '\r' ∉ part := by
  have normal : Lacks true ['\r'] (normalize source) := by
    rw [normalize_of_paired paired]
    exact normalize_lacks return_traced (lacks_return (return_not_mem_unified source))
  have masked := Masked.of_text_lacks return_traced normal fun _ _ _ =>
    lacks_return (not_mem_token (by decide))
  exact fun kind part member => return_not_mem (masked.2 kind part member)

end Results

/-- A document each of whose carriage returns has its line feed is converted like what is read of it
from a file, and its result has line endings of one form. It has a result if it does not show the mark
of placeholders. -/
theorem line_endings_unified (options : Options) (source : Text) (paired : PairedReturns source) :
    convert options source = convert options (Settings.unifyLineEnds source) ∧
      (∀ result, convert options source = .ok result → UniformEnds options.crlf result) ∧
      (¬ mark <:+: visible options.promoteFirstRow source →
        (∀ kind, (Document.masked source).store.count kind ≤ 10 ^ digitLimit) →
          ∃ result, convert options source = .ok result) := by
  refine ⟨convert_of_paired options paired, fun result converted => ?_, fun unmarked few => ?_⟩
  · refine result_uniform (fun kind part member inside => ?_) converted
    exact parts_uniform paired kind part member ((trim_inside part).subset inside)
  · obtain ⟨page, quotes, anatomy, _⟩ := exists_anatomy .opening unmarked (.inl rfl)
    exact ⟨_, anatomy.converted few options.crlf⟩

/-- A heading, a row, code, a quote and a paragraph of two lines. -/
def severalLines : Text :=
  "* Top\n|x|y|h\n\x7bcode\x7d\na\n\nb\n\x7b/code\x7d\n\x7bquote\x7d\nc\n\x7b/quote\x7d\nd\ne".toList

theorem line_endings_unified_of_several_lines :
    ∃ result, convert ⟨true, false⟩ (withLineEndings true severalLines) = .ok result ∧
      convert ⟨true, false⟩ (Settings.unifyLineEnds (withLineEndings true severalLines)) = .ok result ∧
        UniformEnds true result := by
  have paired : PairedReturns (withLineEndings true severalLines) :=
    (@with_line_endings_uniform severalLines true (by decide +kernel)).1
  have few : ∀ kind, (Document.masked (withLineEndings true severalLines)).store.count kind ≤
      10 ^ digitLimit :=
    fun kind => few_le_digit_limit (by cases kind <;> decide +kernel)
  obtain ⟨same, uniform, returns⟩ := line_endings_unified ⟨true, false⟩ _ paired
  obtain ⟨result, converted⟩ := returns (by decide +kernel) few
  exact ⟨result, converted, same ▸ converted, uniform result converted⟩

/-- A carriage return on its own is no line ending in a paragraph. -/
theorem lone_return_kept :
    convert {} "a\rb".toList = .ok "a\rb".toList ∧
      convert {} (Settings.unifyLineEnds "a\rb".toList) = .ok "a\nb".toList := by
  decide +kernel

end Wikidown
