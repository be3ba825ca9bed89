import Wikidown.Proofs.Placeholder.Restored
import Wikidown.Proofs.Placeholder.Spacing

/-!
# Blank lines in a converted document

Code and quotes stand between blank lines, or at an end of the result, and nothing but the content of
code has two blank lines in a row.
-/

namespace Wikidown

set_option autoImplicit false

/-- A stretch of a text between what may stand above and below a block. -/
structure StandsApart (whole above block below : Text) : Prop where
  place : whole = above ++ block ++ below
  above : above = [] ∨
    (∃ front, above = front ++ doubleFeed ∧ front.getLast? ≠ some '\n') ∨
    ∃ front, (front = [] ∨ front.getLast? = some '\n') ∧ above = front ++ "1. \n".toList
  below : below = [] ∨ ∃ rest, below = doubleFeed ++ rest ∧ rest.head? ≠ some '\n'

/-- A part of a page, with its text above and below it, stands apart in the text of the page. At the end
of the text a part loses the blanks at its own end. -/
def Woven.SetsApart (page : Woven) (shown : Kind → Nat → Text) (front : List Inset) (inset : Inset)
    (back : List Inset) : Prop :=
  ∃ above block below, StandsApart (trim (page.text shown)) above block below ∧
    above = trimStart (Woven.text ⟨page.head, front⟩ shown) ∧
    below = trimEnd (inset.after ++ Woven.insetsText shown back) ∧
    (block = shown inset.kind inset.index ∨
      below = [] ∧ block = trimEnd (shown inset.kind inset.index))

theorem single_append {front back : Text} (first : ¬ tripleFeed <:+: front)
    (second : ¬ tripleFeed <:+: back)
    (apart : front.getLast? ≠ some '\n' ∨ back.head? ≠ some '\n') :
    ¬ tripleFeed <:+: front ++ back := by
  intro inside
  rcases List.infix_append_iff.mp inside with here | later | ⟨left, right, split, ends, starts⟩
  · exact first here
  · exact second later
  · rcases List.eq_nil_or_concat left with rfl | ⟨left, last, rfl⟩
    · rw [List.nil_append] at split
      exact second (split ▸ starts.isInfix)
    · cases right with
      | nil =>
          rw [List.append_nil] at split
          exact first (split ▸ ends.isInfix)
      | cons next right =>
          obtain rfl : last = '\n' := mem_triple_feed last (by rw [split]; simp)
          obtain rfl : next = '\n' := mem_triple_feed next (by rw [split]; simp)
          obtain ⟨before, rfl⟩ := ends
          obtain ⟨after, rfl⟩ := starts
          rcases apart with other | other
          · exact other (by simp)
          · exact other rfl

namespace Woven

variable {opens closes : Kind → Prop} {above : Option Kind} {stretch : Text} {insets : List Inset}
  {shown : Kind → Nat → Text}

/-- No two blank lines in a row: not in the stretches, not in the parts, and so not in the text. -/
theorem single_text (top : Fits opens closes above (headKind insets) stretch)
    (behind : Behind opens closes insets)
    (solid : ∀ inset ∈ insets, Solid (shown inset.kind inset.index))
    (single : ∀ inset ∈ insets, ¬ tripleFeed <:+: shown inset.kind inset.index) :
    ¬ tripleFeed <:+: stretch ++ insetsText shown insets := by
  induction insets generalizing above stretch with
  | nil => simpa [insetsText] using top.single
  | cons inset rest ih =>
      rw [List.forall_mem_cons] at solid single
      have later := ih behind.1 behind.2 solid.2 single.2
      have part := single_append single.1 later (.inl solid.1.ends)
      refine single_append top.single part (.inr ?_)
      exact @head_insets_text shown (inset :: rest) (List.forall_mem_cons.mpr solid)

/-- The stretches at a part. -/
theorem fits_at {front back : List Inset} {inset : Inset}
    (top : Fits opens closes above (headKind (front ++ inset :: back)) stretch)
    (behind : Behind opens closes (front ++ inset :: back))
    (solid : ∀ one ∈ front, Solid (shown one.kind one.index)) :
    ∃ before last earlier, text ⟨stretch, front⟩ shown = before ++ last ∧
      before.getLast? ≠ some '\n' ∧ (earlier = none → above = none ∧ before = []) ∧
        Fits opens closes earlier (some inset.kind) last ∧
          Fits opens closes (some inset.kind) (headKind back) inset.after := by
  induction front generalizing above stretch with
  | nil =>
      exact ⟨[], stretch, above, by simp [text, insetsText], by simp, fun none => ⟨none, rfl⟩, top,
        behind.1⟩
  | cons first front ih =>
      rw [List.forall_mem_cons] at solid
      obtain ⟨before, last, earlier, shape, ends, none, here, after⟩ := ih behind.1 behind.2 solid.2
      refine ⟨stretch ++ shown first.kind first.index ++ before, last, earlier, ?_, ?_,
        fun empty => absurd (none empty).1 (by simp), here, after⟩
      · have cut : text ⟨stretch, first :: front⟩ shown =
            stretch ++ shown first.kind first.index ++ text ⟨first.after, front⟩ shown := by
          simp [text, insetsText]
        rw [cut, shape, List.append_assoc _ before]
      · by_cases empty : before = []
        · rw [empty, List.append_nil]
          exact last_append_solid solid.1
        · rwa [List.getLast?_append_of_ne_nil _ empty]

/-- What a part of a kind with blank lines around it has above, without the blanks at the start. -/
theorem above_apart {before last : Text} {earlier : Option Kind} {kind : Kind}
    (fits : Fits opens closes earlier (some kind) last) (done : closes kind)
    (ends : before.getLast? ≠ some '\n') (first : earlier = none → before = []) :
    trimStart (before ++ last) = [] ∨
      (∃ front, trimStart (before ++ last) = front ++ doubleFeed ∧ front.getLast? ≠ some '\n') ∨
        ∃ front, (front = [] ∨ front.getLast? = some '\n') ∧
          trimStart (before ++ last) = front ++ "1. \n".toList := by
  rcases fits.closed kind rfl done with (⟨stem, rfl⟩ | ⟨stem, stemEnds, rfl⟩) | ⟨none, rfl⟩
  · rw [← List.append_assoc]
    by_cases visible : ∃ c ∈ before ++ stem, isBlank c = false
    · refine .inr (.inl ⟨trimStart (before ++ stem), trim_start_append visible doubleFeed, ?_⟩)
      rcases trim_start_last (before ++ stem) with empty | same
      · simp [empty]
      · rw [same]
        by_cases empty : stem = []
        · rwa [empty, List.append_nil]
        · rw [List.getLast?_append_of_ne_nil _ empty]
          intro feed
          obtain ⟨front, rfl⟩ := List.getLast?_eq_some_iff.mp feed
          exact fits.single ⟨front, [], by simp [tripleFeed, doubleFeed]⟩
    · left
      refine trim_start_of_blank fun c member => ?_
      rcases List.mem_append.mp member with inside | feed
      · by_contra shown
        exact visible ⟨c, inside, by simpa using shown⟩
      · exact blank_double_feed c feed
  · refine .inr (.inr ⟨trimStart (before ++ stem), ?_, ?_⟩)
    · rcases stemEnds with rfl | feed
      · -- only at the front of the document does an item stand without a line feed above
        have front : earlier = none := by
          by_contra some
          rcases fits.starts some with ⟨empty, _⟩ | ⟨more, shape⟩
          · exact absurd empty (by simp)
          · exact absurd shape (by simp)
        rw [first front]
        exact .inl rfl
      · have nonempty : stem ≠ [] := by
          rintro rfl
          exact absurd feed (by simp)
        refine (trim_start_last (before ++ stem)).imp_right fun same => ?_
        rw [same, List.getLast?_append_of_ne_nil _ nonempty, feed]
    · rw [← List.append_assoc]
      exact trim_start_append_visible (by decide) (before ++ stem) ". \n".toList
  · rw [first none]
    exact .inl rfl

/-- What a part of a kind with blank lines around it has below, without the blanks at the end. -/
theorem below_apart {after : Text} {kind : Kind} {back : List Inset}
    (fits : Fits opens closes (some kind) (headKind back) after) (done : opens kind)
    (solid : ∀ inset ∈ back, Solid (shown inset.kind inset.index))
    (visible : ∃ c ∈ after ++ insetsText shown back, isBlank c = false) :
    ∃ rest, trimEnd (after ++ insetsText shown back) = doubleFeed ++ rest ∧ rest.head? ≠ some '\n' := by
  rcases fits.opened kind rfl done with ⟨more, rfl⟩ | ⟨last, rfl⟩
  · have shownBehind : ∃ c ∈ more ++ insetsText shown back, isBlank c = false := by
      obtain ⟨c, member, here⟩ := visible
      rw [List.append_assoc] at member
      rcases List.mem_append.mp member with feed | inside
      · rw [blank_double_feed c feed] at here
        exact absurd here (by decide)
      · exact ⟨c, inside, here⟩
    refine ⟨trimEnd (more ++ insetsText shown back), ?_, ?_⟩
    · rw [List.append_assoc, trim_end_append doubleFeed shownBehind]
    · rcases trim_end_first (more ++ insetsText shown back) with empty | same
      · simp [empty]
      · rw [same]
        cases more with
        | nil => exact head_insets_text solid
        | cons c more =>
            intro feed
            obtain rfl : c = '\n' := by simpa using feed
            exact fits.single ⟨[], more, by simp [tripleFeed, doubleFeed]⟩
  · have none : back = [] := by
      cases back with
      | nil => rfl
      | cons inset back => exact absurd last (by simp [headKind])
    subst none
    obtain ⟨c, member, here⟩ := visible
    rw [insetsText, List.append_nil, List.mem_singleton] at member
    rw [member] at here
    exact absurd here (by decide)

end Woven

/-- The kinds of parts with blank lines around them. -/
def blockKind : Kind → Prop := Woven.alsoKind .quote (Woven.alsoKind .code Woven.noKind)

theorem block_kind_of_ne {kind : Kind} (apart : kind ≠ .paragraph) : blockKind kind := by
  cases kind with
  | code => exact .inl (.inr rfl)
  | quote => exact .inr rfl
  | paragraph => exact absurd rfl apart

section Page

variable {promote : Bool} {word source : Text} {page : Woven} {quotes : List Woven}

theorem Anatomy.page_fits (anatomy : Anatomy promote word source page quotes) :
    Woven.Fits blockKind blockKind none (Woven.headKind (spacedPage page).insets)
        (spacedPage page).head ∧
      Woven.Behind blockKind blockKind (spacedPage page).insets := by
  have single : ∀ one ∈ page.stretches, ¬ tripleFeed <:+: one := by
    intro one member feeds
    have inside : one <:+: page.text token := Woven.stretch_inside one member
    rw [anatomy.arranged] at inside
    exact collapse_no_triple _ (feeds.trans inside)
  obtain ⟨top, behind⟩ := anatomy.strung.fits single fun some => absurd rfl some
  have code := Woven.spaced_from_fits .code (by decide) (top.other_above (by simp)) behind
  rw [← Woven.head_kind_spaced_from .code page.head] at code
  have quote := Woven.spaced_from_fits .quote (by decide) (code.1.other_above (by simp)) code.2
  rw [← Woven.head_kind_spaced_from .quote (page.spaced .code).head] at quote
  exact quote

/-- A part but for the content of code has no two blank lines in a row. -/
theorem Anatomy.part_single (anatomy : Anatomy promote word source page quotes)
    {key : Kind × Nat} (member : key ∈ page.keys) :
    ¬ tripleFeed <:+: reveal .code (fun _ => fenced [])
      (partShown (Document.masked source).store quotes) key.1 key.2 := by
  obtain ⟨kind, index⟩ := key
  cases kind with
  | code => exact (by decide : ¬ tripleFeed <:+: fenced [])
  | quote =>
      refine single_of_filled fun line member => ?_
      rw [reveal, if_neg (by simp), partShown, lines_cited] at member
      obtain ⟨inner, _, rfl⟩ := List.mem_map.mp member
      simp
  | paragraph =>
      obtain ⟨part, place, _, shown⟩ := @paragraph_shown source quotes index (anatomy.key_known member)
      obtain ⟨whole, paragraph⟩ := Masked.of_text_paragraph place
      have filled := render_paragraph_whole whole paragraph
      rw [reveal, if_neg (by simp), shown]
      exact fun feeds => filled.1 (feeds.subset (by decide))

theorem block_begins {kind : Kind} (apart : kind ≠ .paragraph) (store : Store)
    (quotes : List Woven) (index : Nat) :
    ∃ c more, partShown store quotes kind index = c :: more ∧ isBlank c = false := by
  cases kind with
  | code =>
      obtain ⟨inner, shape⟩ := fenced_ends (store.code.getD index [])
      exact ⟨'\x60', inner ++ ['\x60'], shape, by decide⟩
  | quote =>
      obtain ⟨more, shape⟩ := cited_begins (quoteBody store (quotes.getD index ⟨[], []⟩))
      exact ⟨'>', more, shape, by decide⟩
  | paragraph => exact absurd rfl apart

/-- Where a block stands in the result. -/
theorem Anatomy.sets_apart (anatomy : Anatomy promote word source page quotes)
    {shown : Kind → Nat → Text} (same : shown = partShown (Document.masked source).store quotes)
    {front back : List Inset} {inset : Inset}
    (place : (spacedPage page).insets = front ++ inset :: back) (apart : inset.kind ≠ .paragraph) :
    (spacedPage page).SetsApart shown front inset back := by
  have solid : ∀ one ∈ front ++ inset :: back, Solid (shown one.kind one.index) := by
    intro one member
    have key : (one.kind, one.index) ∈ (spacedPage page).keys := Woven.mem_keys (place ▸ member)
    rw [keys_spaced_page] at key
    rw [same]
    exact anatomy.part_solid key
  obtain ⟨top, behind⟩ := anatomy.page_fits
  rw [place] at top behind
  obtain ⟨before, last, earlier, shape, ends, none, above, below⟩ := Woven.fits_at top behind
    fun one member => solid one (List.mem_append_left _ member)
  have aboveApart := Woven.above_apart above (block_kind_of_ne apart) ends fun empty => (none empty).2
  rw [← shape] at aboveApart
  obtain ⟨c, more, begins, visible⟩ := block_begins apart (Document.masked source).store quotes inset.index
  rw [← same] at begins
  have whole : trim ((spacedPage page).text shown) =
      trimStart (Woven.text ⟨(spacedPage page).head, front⟩ shown) ++
        trimEnd (shown inset.kind inset.index ++ (inset.after ++ Woven.insetsText shown back)) := by
    have cut : (spacedPage page).text shown = Woven.text ⟨(spacedPage page).head, front⟩ shown ++
        (shown inset.kind inset.index ++ (inset.after ++ Woven.insetsText shown back)) := by
      rw [Woven.text, place, Woven.insets_text_append, ← List.append_assoc]
      rfl
    rw [cut, begins, List.cons_append, trim, trim_start_append_visible visible, trim_end_append]
    exact ⟨c, by simp, visible⟩
  by_cases more : ∃ d ∈ inset.after ++ Woven.insetsText shown back, isBlank d = false
  · refine ⟨_, shown inset.kind inset.index, _, ⟨?_, aboveApart, .inr ?_⟩, rfl, rfl, .inl rfl⟩
    · rw [whole, trim_end_append _ more, List.append_assoc]
    · exact Woven.below_apart below (block_kind_of_ne apart)
        (fun one member => solid one (by simp [member])) more
  · have blank : ∀ d ∈ inset.after ++ Woven.insetsText shown back, isBlank d = true := by
      simpa using more
    have nothing := trim_end_eq_nil_iff.mpr blank
    refine ⟨_, trimEnd (shown inset.kind inset.index), _, ⟨?_, aboveApart, .inl nothing⟩, rfl, rfl,
      .inr ⟨nothing, rfl⟩⟩
    rw [whole, trim_end_append_of_blank _ blank, nothing, List.append_nil]

/-- Without the content of its code, a page has no two blank lines in a row. -/
theorem Anatomy.page_single (anatomy : Anatomy promote word source page quotes) :
    ¬ tripleFeed <:+: (spacedPage page).text (reveal .code (fun _ => fenced [])
      (partShown (Document.masked source).store quotes)) := by
  have known : ∀ inset ∈ (spacedPage page).insets, (inset.kind, inset.index) ∈ page.keys := by
    intro inset member
    rw [← keys_spaced_page]
    exact Woven.mem_keys member
  obtain ⟨top, behind⟩ := anatomy.page_fits
  refine Woven.single_text top behind (fun inset member => ?_)
    fun inset member => anatomy.part_single (known inset member)
  unfold reveal
  split
  · exact fenced_solid []
  · exact anatomy.part_solid (known inset member)

end Page

/-- Code and quotes of a document without the mark of placeholders stand apart in the result, and but
for the content of code it has no two blank lines in a row. -/
theorem blocks_stand_apart (promote : Bool) (source : Text)
    (few : ∀ kind, (Document.masked source).store.count kind ≤ 10 ^ digitLimit)
    (unmarked : ¬ mark <:+: visible promote source) :
    ∃ page quotes, Document.Assembles promote source page quotes ∧
      ∃ shown, shown = partShown (Document.masked source).store quotes ∧
        convert ⟨false, promote⟩ source = .ok (trim ((spacedPage page).text shown)) ∧
        ¬ tripleFeed <:+: trim ((spacedPage page).text (reveal .code (fun _ => fenced []) shown)) ∧
        ∀ front inset back, (spacedPage page).insets = front ++ inset :: back →
          inset.kind ≠ .paragraph → (spacedPage page).SetsApart shown front inset back := by
  obtain ⟨page, quotes, anatomy, _⟩ := exists_anatomy .opening unmarked (.inl rfl)
  refine ⟨page, quotes, anatomy.assembles few, _, rfl, anatomy.converted few false, ?_,
    fun front inset back place apart => anatomy.sets_apart rfl place apart⟩
  exact fun feeds => anatomy.page_single (feeds.trans (trim_inside _))

/-- Code between a list and a quote, with two blank lines in it. -/
def codeBelowList : Text :=
  "+ a\n\x7bcode\x7d\nb\n\n\nc\n\x7b/code\x7d\n\x7bquote\x7d\nd\n\x7b/quote\x7d\ne".toList

theorem blocks_stand_apart_below_list :
    ∃ page quotes, Document.Assembles true codeBelowList page quotes ∧
      ∃ shown, shown = partShown (Document.masked codeBelowList).store quotes ∧
        convert ⟨false, true⟩ codeBelowList = .ok (trim ((spacedPage page).text shown)) ∧
        ¬ tripleFeed <:+: trim ((spacedPage page).text (reveal .code (fun _ => fenced []) shown)) ∧
        ∀ front inset back, (spacedPage page).insets = front ++ inset :: back →
          inset.kind ≠ .paragraph → (spacedPage page).SetsApart shown front inset back := by
  have few : ∀ kind, (Document.masked codeBelowList).store.count kind ≤ 10 ^ digitLimit :=
    fun kind => few_le_digit_limit (by cases kind <;> decide +kernel)
  exact blocks_stand_apart true codeBelowList few (by decide)

/-- An empty item at the front of a list takes in the line below it. -/
def codeBelowEmptyItem : Text := "+\n\x7bcode\x7d\nx\n\x7b/code\x7d".toList

/-- Two places of code without a blank line above it. -/
theorem code_without_blank_line :
    (¬ mark <:+: codeBelowEmptyItem ∧ (convert {} codeBelowEmptyItem).toOption = some
      "1. \n\x60\x60\x60\nx\n\x60\x60\x60".toList) ∧
    (¬ mark <:+: assembledPlaceholder ∧ (convert {} assembledPlaceholder).toOption = some
      ("\x60\x60\x60\nx\n\x60\x60\x60\n\n|\n\x60\x60\x60\nx\n\x60\x60\x60\n\n".toList ++
        "|:\x7b:\x7bBACKLOG2MD_CODE-0\x7d\x7d".toList)) :=
  ⟨⟨by decide, by decide +kernel⟩, by decide, by decide +kernel⟩

end Wikidown
