import Mathlib.Data.List.Forall2
import Wikidown.Document
import Wikidown.Proofs.Placeholder.Blocks
import Wikidown.Proofs.Placeholder.Rewrite

/-!
# Placeholders that masking makes

Masking numbers the parts of each kind in reading order, and each number stands in the masked text
once. Code inside a quote has its placeholder in the stored quote.
-/

namespace Wikidown

set_option autoImplicit false

/-- The numbers of one kind among placeholders, in order. -/
def numbersOf (kind : Kind) (keys : List (Kind × Nat)) : List Nat :=
  keys.filterMap fun key => if key.1 = kind then some key.2 else none

/-- Placeholders with those of one kind replaced by the ones in their parts. -/
def expand (kind : Kind) (inner : List (List (Kind × Nat))) (keys : List (Kind × Nat)) :
    List (Kind × Nat) :=
  keys.flatMap fun key => if key.1 = kind then inner.getD key.2 [] else [key]

namespace Masked

variable {promote : Bool} {word : Text} {keys : List (Kind × Nat)} {content : List Line}
  {opening closing : Text}

/-- Delimiters that no placeholder begins or ends with. -/
structure Foreign (opening closing : Text) : Prop where
  wholeOpening : '\n' ∉ opening
  wholeClosing : '\n' ∉ closing
  begins : ∀ kind index rest, token kind index ≠ opening ++ rest
  ends : ∀ kind index front, token kind index ≠ front ++ closing

theorem token_ends (kind : Kind) (index : Nat) : ∃ front, token kind index = front ++ tokenClosing :=
  ⟨_, rfl⟩

/-- Before the brace at its end a placeholder has another one, and a delimiter has a letter. -/
theorem token_ne_of_letter {letter : Char} (other : letter ≠ '\x7d') (kind : Kind) (index : Nat)
    (front stem : Text) : token kind index ≠ front ++ (stem ++ [letter, '\x7d']) := by
  intro same
  obtain ⟨inner, shape⟩ := token_ends kind index
  rw [shape, ← List.append_assoc] at same
  have last : tokenClosing = [letter, '\x7d'] := List.append_inj_right' same rfl
  exact other (List.cons.inj last).1.symm

theorem code_foreign : Foreign "\x7bcode\x7d".toList "\x7b/code\x7d".toList where
  wholeOpening := by decide
  wholeClosing := by decide
  begins kind index rest := by
    cases kind <;> exact fun same => absurd (List.cons.inj (List.cons.inj same).2).1 (by decide)
  ends kind index front := token_ne_of_letter (by decide) kind index front "\x7b/cod".toList

theorem quote_foreign : Foreign "\x7bquote\x7d".toList "\x7b/quote\x7d".toList where
  wholeOpening := by decide
  wholeClosing := by decide
  begins kind index rest := by
    cases kind <;> exact fun same => absurd (List.cons.inj (List.cons.inj same).2).1 (by decide)
  ends kind index front := token_ne_of_letter (by decide) kind index front "\x7b/quot".toList

/-- Without its delimiters, a block carries the same placeholders. -/
theorem body_carries (traced : Traced word) (foreign : Foreign opening closing) {text : Text}
    (carries : Carries promote word bare (lines (opening ++ text ++ closing)) keys) :
    Carries promote word bare (lines text) keys := by
  obtain ⟨above, last, shape⟩ := exists_last_line (opening ++ text)
  rw [lines_join shape (lines_of_no_newline foreign.wholeClosing)] at carries
  obtain ⟨early, late, rfl, here, ending⟩ := carries.of_append
  have opened : Carries promote word bare (lines (opening ++ text)) (early ++ late) := by
    rw [shape]
    refine here.append ?_
    rcases Carries.cons_iff.mp ending with ⟨lacks, rest⟩ | ⟨front, known, kind, index, _, same, _⟩
    · exact .quiet lacks.left rest
    · rw [List.mem_singleton.mp known, List.nil_append] at same
      exact absurd same.symm (foreign.ends kind index last)
  obtain ⟨first, more, begins⟩ := List.exists_cons_of_ne_nil (lines_ne_nil text)
  rw [lines_append foreign.wholeOpening begins] at opened
  rw [begins]
  rcases Carries.cons_iff.mp opened with ⟨lacks, rest⟩ | ⟨front, known, kind, index, _, same, _⟩
  · exact .quiet (lacks.right traced) rest
  · rw [List.mem_singleton.mp known, List.nil_append] at same
    exact absurd same.symm (foreign.begins kind index first)

theorem numbers_of_cons (kind : Kind) (key : Kind × Nat) :
    numbersOf kind (key :: keys) = (if key.1 = kind then [key.2] else []) ++ numbersOf kind keys := by
  unfold numbersOf
  by_cases same : key.1 = kind <;> simp [same]

theorem expand_cons (kind : Kind) (inner : List (List (Kind × Nat))) (key : Kind × Nat) :
    expand kind inner (key :: keys) =
      (if key.1 = kind then inner.getD key.2 [] else [key]) ++ expand kind inner keys := rfl

theorem numbers_of_append (kind : Kind) (first second : List (Kind × Nat)) :
    numbersOf kind (first ++ second) = numbersOf kind first ++ numbersOf kind second :=
  List.filterMap_append

theorem numbers_of_fresh {kind : Kind} (fresh : ∀ key ∈ keys, key.1 ≠ kind) :
    numbersOf kind keys = [] := by
  rw [numbersOf, List.filterMap_eq_nil_iff]
  exact fun key member => if_neg (fresh key member)

theorem expand_fresh {kind : Kind} (inner : List (List (Kind × Nat)))
    (fresh : ∀ key ∈ keys, key.1 ≠ kind) : expand kind inner keys = keys := by
  induction keys with
  | nil => rfl
  | cons key keys ih =>
      rw [expand_cons, if_neg (fresh key (by simp)),
        ih fun other member => fresh other (by simp [member])]
      rfl

/-- Hiding blocks puts a placeholder in the place of each, in order, and the placeholders that were
there are those around the blocks and in them. -/
theorem hide_blocks_carries (traced : Traced word) (foreign : Foreign opening closing)
    (kind : Kind) (next : Nat) (segments : List Segment) (fresh : ∀ key ∈ keys, key.1 ≠ kind)
    (carries : Carries promote word bare (segments.flatMap (delimited opening closing).source) keys) :
    ∃ outer inner, Carries promote word bare (hideBlocks kind next segments).1 outer ∧
      List.Forall₂ (fun part within => Carries promote word bare (lines part) within)
        (hideBlocks kind next segments).2 inner ∧
      numbersOf kind outer = List.range' next inner.length ∧
      ∀ before : List (List (Kind × Nat)), before.length = next →
        expand kind (before ++ inner) outer = keys := by
  induction segments generalizing next keys with
  | nil =>
      cases carries
      exact ⟨[], [], .nil, .nil, rfl, fun _ _ => rfl⟩
  | cons segment segments ih =>
      rw [List.flatMap_cons] at carries
      obtain ⟨first, later, rfl, here, rest⟩ := carries.of_append
      have freshFirst : ∀ key ∈ first, key.1 ≠ kind := fun key member => fresh key (by simp [member])
      have freshLater : ∀ key ∈ later, key.1 ≠ kind := fun key member => fresh key (by simp [member])
      cases segment with
      | line line =>
          obtain ⟨outer, inner, shown, parts, numbers, flat⟩ := ih next freshLater rest
          refine ⟨first ++ outer, inner, here.append shown, parts, ?_, fun before size => ?_⟩
          · rw [numbers_of_append, numbers_of_fresh freshFirst, numbers]
            rfl
          · rw [expand, List.flatMap_append, ← expand, ← expand, expand_fresh _ freshFirst,
              flat before size]
      | block body =>
          obtain ⟨outer, inner, shown, parts, numbers, flat⟩ := ih (next + 1) freshLater rest
          refine ⟨(kind, next) :: outer, first :: inner, .alone kind next shown,
            .cons (body_carries traced foreign here) parts, ?_, fun before size => ?_⟩
          · rw [numbers_of_cons, if_pos rfl, numbers, List.length_cons, List.range'_succ]
            rfl
          · have behind := flat (before ++ [first]) (by simp [size])
            rw [List.append_assoc, List.singleton_append] at behind
            rw [expand_cons, behind, if_pos rfl]
            simp [List.getD_eq_getElem?_getD, ← size]

/-- The placeholders of code and quotes are no text of paragraphs. -/
theorem token_no_paragraph {kind : Kind} (other : kind ≠ .paragraph) (index : Nat) :
    isParagraph (token kind index) = false := by
  cases kind with
  | code => rfl
  | quote => rfl
  | paragraph => exact absurd rfl other

/-- Hiding paragraphs puts a placeholder in the place of each of their lines, in order. -/
theorem hide_paragraphs_carries (next : Nat) (fresh : ∀ key ∈ keys, key.1 ≠ .paragraph)
    (carries : Carries promote word bare content keys) :
    ∃ outer, Carries promote word bare (hideParagraphs next content).1 outer ∧
      (∀ part ∈ (hideParagraphs next content).2, Lacks promote word part) ∧
      numbersOf .paragraph outer = List.range' next (hideParagraphs next content).2.length ∧
      outer.filter (fun key => key.1 ≠ .paragraph) = keys := by
  induction content generalizing next keys with
  | nil =>
      cases carries
      exact ⟨[], .nil, by simp [hideParagraphs], rfl, rfl⟩
  | cons line content ih =>
      rcases Carries.cons_iff.mp carries with
        ⟨lacks, rest⟩ | ⟨front, known, kind, index, later, rfl, rfl, rest⟩
      · by_cases text : isParagraph line = true
        · obtain ⟨outer, shown, parts, numbers, others⟩ := ih (next + 1) fresh rest
          rw [hideParagraphs, if_pos text]
          refine ⟨(.paragraph, next) :: outer, .alone .paragraph next shown, ?_, ?_, ?_⟩
          · intro part member
            rcases List.mem_cons.mp member with rfl | later
            · exact lacks
            · exact parts part later
          · rw [numbers_of_cons, if_pos rfl, numbers, List.length_cons, List.range'_succ]
            rfl
          · rw [List.filter_cons_of_neg (by simp), others]
        · obtain ⟨outer, shown, parts, numbers, others⟩ := ih next fresh rest
          rw [hideParagraphs, if_neg text]
          exact ⟨outer, .quiet lacks shown, parts, numbers, others⟩
      · have other : kind ≠ .paragraph := fresh (kind, index) (by simp)
        obtain ⟨outer, shown, parts, numbers, others⟩ :=
          ih next (fun key member => fresh key (by simp [member])) rest
        rw [List.mem_singleton.mp known, List.nil_append, hideParagraphs,
          if_neg (by simp [token_no_paragraph other])]
        refine ⟨(kind, index) :: outer, .alone kind index shown, parts, ?_, ?_⟩
        · rw [numbers_of_cons, if_neg other]
          exact numbers
        · rw [List.filter_cons_of_pos (by simpa using other), others]

theorem hide_paragraphs_part (next : Nat) :
    ∀ part ∈ (hideParagraphs next content).2, part ∈ content ∧ isParagraph part = true := by
  induction content generalizing next with
  | nil => simp [hideParagraphs]
  | cons line content ih =>
      intro part member
      rw [hideParagraphs] at member
      split at member
      · next text =>
          rcases List.mem_cons.mp member with rfl | later
          · exact ⟨List.mem_cons_self, text⟩
          · exact ⟨List.mem_cons_of_mem _ (ih (next + 1) part later).1, (ih (next + 1) part later).2⟩
      · exact ⟨List.mem_cons_of_mem _ (ih next part member).1, (ih next part member).2⟩

theorem end_paragraphs_carries (traced : Traced word)
    (carries : Carries promote word bare content keys) :
    Carries promote word bare (endParagraphs content) keys := by
  induction content using endParagraphs.induct generalizing keys with
  | case1 line next rest ends ih =>
      rw [endParagraphs, if_pos ends]
      rcases Carries.cons_iff.mp carries with
        ⟨lacks, later⟩ | ⟨front, known, kind, index, _, rfl, rfl, later⟩
      · exact .quiet lacks (.quiet (.nil traced) (ih later))
      · exact .token known kind index (.quiet (.nil traced) (ih later))
  | case2 line next rest goes ih =>
      rw [endParagraphs, if_neg goes]
      rcases Carries.cons_iff.mp carries with
        ⟨lacks, later⟩ | ⟨front, known, kind, index, _, rfl, rfl, later⟩
      · exact .quiet lacks (ih later)
      · exact .token known kind index (ih later)
  | case3 short other =>
      rw [endParagraphs.eq_2 short other]
      exact carries

theorem hide_blocks_whole {shape : BlockShape} (wholeOpening : '\n' ∉ shape.opening) (kind : Kind)
    (next : Nat) (whole : ∀ line ∈ content, '\n' ∉ line) :
    ∀ line ∈ (hideBlocks kind next (shape.segments content)).1, '\n' ∉ line := by
  have wholeLine : ∀ line, .line line ∈ shape.segments content → '\n' ∉ line := by
    intro line member
    refine whole line ?_
    rw [← BlockShape.segments_source wholeOpening whole]
    exact List.mem_flatMap.mpr ⟨_, member, List.mem_singleton.mpr rfl⟩
  generalize shape.segments content = segments at wholeLine
  induction segments generalizing next with
  | nil => simp [hideBlocks]
  | cons segment segments ih =>
      have later := fun next => ih next fun line member => wholeLine line (by simp [member])
      cases segment with
      | line line =>
          intro other member
          rcases List.mem_cons.mp member with rfl | below
          · exact wholeLine other (by simp)
          · exact later next other below
      | block body =>
          intro other member
          rcases List.mem_cons.mp member with rfl | below
          · exact not_mem_token (by decide)
          · exact later (next + 1) other below

theorem mem_expand_of_other {kind : Kind} {inner : List (List (Kind × Nat))} {key : Kind × Nat}
    (member : key ∈ keys) (other : key.1 ≠ kind) : key ∈ expand kind inner keys :=
  List.mem_flatMap.mpr ⟨key, member, by simp [other]⟩

/-- Each part that is numbered shows its placeholders. -/
theorem mem_expand_of_inner {kind : Kind} {inner : List (List (Kind × Nat))}
    (numbers : numbersOf kind keys = List.range' 0 inner.length) {within : List (Kind × Nat)}
    (part : within ∈ inner) {key : Kind × Nat} (member : key ∈ within) :
    key ∈ expand kind inner keys := by
  obtain ⟨index, bound, rfl⟩ := List.mem_iff_getElem.mp part
  have numbered : index ∈ numbersOf kind keys := by
    rw [numbers, List.mem_range'_1]
    omega
  obtain ⟨⟨other, number⟩, place, found⟩ := List.mem_filterMap.mp numbered
  split at found
  · next same =>
      obtain rfl := Option.some.inj found
      refine List.mem_flatMap.mpr ⟨_, place, ?_⟩
      rw [if_pos same, List.getD_eq_getElem?_getD, List.getElem?_eq_getElem bound]
      exact member
  · simp at found

theorem numbers_of_filter {kind other : Kind} (apart : kind ≠ other) (keys : List (Kind × Nat)) :
    numbersOf kind (keys.filter fun key => key.1 ≠ other) = numbersOf kind keys := by
  induction keys with
  | nil => rfl
  | cons key keys ih =>
      by_cases same : key.1 = other
      · rw [List.filter_cons_of_neg (by simp [same]), ih, numbers_of_cons,
          if_neg (by simp [same, Ne.symm apart])]
        rfl
      · rw [List.filter_cons_of_pos (by simp [same]), numbers_of_cons, ih, numbers_of_cons]

theorem numbers_of_expand_filter (keys : List (Kind × Nat)) (inner : List (List (Kind × Nat))) :
    numbersOf .code (expand .quote inner (keys.filter fun key => key.1 ≠ .paragraph)) =
      numbersOf .code (expand .quote inner keys) := by
  induction keys with
  | nil => rfl
  | cons key keys ih =>
      rw [expand_cons, numbers_of_append, ← ih]
      by_cases same : key.1 = .paragraph
      · rw [List.filter_cons_of_neg (by simp [same]), if_neg (by simp [same]), numbers_of_cons,
          if_neg (by simp [same])]
        rfl
      · rw [List.filter_cons_of_pos (by simp [same]), expand_cons, numbers_of_append]

theorem exists_of_forall₂_mem {α β : Type} {related : α → β → Prop} {front : List α} {back : List β}
    (all : List.Forall₂ related front back) {one : α} (member : one ∈ front) :
    ∃ other ∈ back, related one other := by
  induction all with
  | nil => exact absurd member List.not_mem_nil
  | cons here _ ih =>
      rcases List.mem_cons.mp member with rfl | later
      · exact ⟨_, List.mem_cons_self, here⟩
      · obtain ⟨other, place, holds⟩ := ih later
        exact ⟨other, List.mem_cons_of_mem _ place, holds⟩

/-- The placeholders of a masked text, and those in each of its quotes. -/
structure Numbered (promote : Bool) (word : Text) (masked : Masked) (keys : List (Kind × Nat))
    (inner : List (List (Kind × Nat))) : Prop where
  text : Carries promote word bare (lines masked.text) keys
  quote : List.Forall₂ (fun part within => Carries promote word bare (lines part) within)
    masked.store.quote inner
  within : ∀ within ∈ inner, ∀ key ∈ within, key.1 = .code
  lacks : ∀ part ∈ masked.store.code ++ masked.store.paragraph, Lacks promote word part
  codes : numbersOf .code (expand .quote inner keys) = List.range masked.store.code.length
  quotes : numbersOf .quote keys = List.range masked.store.quote.length
  paragraphs : numbersOf .paragraph keys = List.range masked.store.paragraph.length

/-- Where no placeholder is yet, hiding code leaves one in the place of each part of it. -/
theorem hide_code_carries (traced : Traced word) (whole : ∀ line ∈ content, '\n' ∉ line)
    (carries : Carries promote word bare content []) :
    ∃ keys, Carries promote word bare (hideBlocks .code 0 (codeShape.segments content)).1 keys ∧
      (∀ key ∈ keys, key.1 = .code) ∧
      (∀ part ∈ (hideBlocks .code 0 (codeShape.segments content)).2, Lacks promote word part) ∧
      numbersOf .code keys = List.range (hideBlocks .code 0 (codeShape.segments content)).2.length := by
  rw [← @BlockShape.segments_source codeShape _ code_foreign.wholeOpening whole] at carries
  obtain ⟨keys, inner, shown, parts, numbers, flat⟩ :=
    hide_blocks_carries traced code_foreign .code 0 _ (by simp) carries
  have nothing : expand .code inner keys = [] := flat [] rfl
  refine ⟨keys, shown, fun key member => ?_, fun part member => ?_, ?_⟩
  · by_contra other
    have there := @mem_expand_of_other keys .code inner key member other
    simp [nothing] at there
  · obtain ⟨within, place, carries⟩ := exists_of_forall₂_mem parts member
    have empty : within = [] := List.eq_nil_iff_forall_not_mem.mpr fun key inside => by
      have there := mem_expand_of_inner numbers place inside
      simp [nothing] at there
    rw [empty] at carries
    exact carries.lacks_of_nil traced
  · rw [numbers, parts.length_eq, List.range_eq_range']

/-- Hiding quotes hides the code in them as well. -/
theorem hide_quotes_carries (traced : Traced word) (whole : ∀ line ∈ content, '\n' ∉ line)
    (onlyCode : ∀ key ∈ keys, key.1 = .code) (carries : Carries promote word bare content keys) :
    ∃ outer inner, Carries promote word bare (hideBlocks .quote 0 (quoteShape.segments content)).1 outer ∧
      List.Forall₂ (fun part within => Carries promote word bare (lines part) within)
        (hideBlocks .quote 0 (quoteShape.segments content)).2 inner ∧
      expand .quote inner outer = keys ∧
      (∀ key ∈ outer, key.1 ≠ .paragraph) ∧ (∀ within ∈ inner, ∀ key ∈ within, key.1 = .code) ∧
      numbersOf .quote outer = List.range (hideBlocks .quote 0 (quoteShape.segments content)).2.length := by
  rw [← @BlockShape.segments_source quoteShape _ quote_foreign.wholeOpening whole] at carries
  obtain ⟨outer, inner, shown, parts, numbers, expanded⟩ := hide_blocks_carries traced quote_foreign .quote 0 _
    (fun key member => by rw [onlyCode key member]; decide) carries
  have flat : expand .quote inner outer = keys := expanded [] rfl
  refine ⟨outer, inner, shown, parts, flat, fun key member paragraph => ?_, fun within place key member => ?_, ?_⟩
  · have code := onlyCode key (flat ▸ mem_expand_of_other member (by simp [paragraph]))
    simp [paragraph] at code
  · refine onlyCode key ?_
    rw [← flat]
    exact mem_expand_of_inner numbers place member
  · rw [numbers, parts.length_eq, List.range_eq_range']

theorem of_text_numbered (traced : Traced word) {text : Text}
    (lacks : Lacks promote word text) : ∃ keys inner, Numbered promote word (.ofText text) keys inner := by
  obtain ⟨codeKeys, withoutCode, onlyCode, lacksCode, codeNumbers⟩ :=
    hide_code_carries traced (fun _ => no_newline_of_mem_lines) (.of_lacks traced lacks)
  have wholeCode : ∀ line ∈ (hideBlocks .code 0 (codeShape.segments (lines text))).1, '\n' ∉ line :=
    hide_blocks_whole code_foreign.wholeOpening .code 0 fun _ => no_newline_of_mem_lines
  simp only [ofText]
  generalize hideBlocks .code 0 (codeShape.segments (lines text)) = coded at *
  obtain ⟨quoteKeys, inner, withoutQuotes, quoteParts, flat, noParagraph, within, quoteNumbers⟩ :=
    hide_quotes_carries traced wholeCode onlyCode withoutCode
  generalize hideBlocks .quote 0 (quoteShape.segments coded.1) = quoted at *
  obtain ⟨keys, shown, lacksParagraph, numbers, others⟩ :=
    hide_paragraphs_carries 0 noParagraph withoutQuotes
  generalize hideParagraphs 0 quoted.1 = tokens at *
  -- the rule that ends paragraphs passes by the first line
  rw [← List.take_append_drop 1 tokens.1] at shown
  obtain ⟨first, later, rfl, here, rest⟩ := shown.of_append
  have ended := here.append (end_paragraphs_carries traced rest)
  refine ⟨first ++ later, inner, ended.lines_unlines traced (by decide), quoteParts, within, ?_, ?_,
    ?_, ?_⟩
  · intro part member
    rcases List.mem_append.mp member with code | paragraph
    · exact lacksCode part code
    · exact lacksParagraph part paragraph
  · rw [← numbers_of_expand_filter, others, flat, codeNumbers]
  · rw [← @numbers_of_filter .quote .paragraph (by decide), others, quoteNumbers]
  · rw [numbers, List.range_eq_range']

theorem of_text_paragraph {text : Text} {part : Text}
    (member : part ∈ (ofText text).store.paragraph) : '\n' ∉ part ∧ isParagraph part = true := by
  have wholeCode : ∀ line ∈ (hideBlocks .code 0 (codeShape.segments (lines text))).1, '\n' ∉ line :=
    hide_blocks_whole code_foreign.wholeOpening .code 0 fun _ => no_newline_of_mem_lines
  have wholeQuote := @hide_blocks_whole _ quoteShape quote_foreign.wholeOpening .quote 0 wholeCode
  obtain ⟨inside, paragraph⟩ := hide_paragraphs_part 0 part member
  exact ⟨wholeQuote part inside, paragraph⟩

end Masked

theorem normalize_lacks {promote : Bool} {word source : Text} (traced : Traced word)
    (lacks : Lacks promote word source) : Lacks promote word (normalize source) := by
  have feeds : (Substitution.literal "\r\n".toList "\n".toList).Keeps :=
    Substitution.literal_keeps (by decide) (by decide)
  have unified := feeds.apply traced [] source lacks
  have ended : Lacks promote word ('\n' ::
      (Substitution.literal "\r\n".toList "\n".toList).apply source ++ "\n\n".toList) := by
    have feeds : Stands promote word "\n\n".toList := .of_separates traced (by decide) (by decide)
    have behind := feeds _ [] unified (.nil traced)
    rw [List.append_nil] at behind
    exact (Lacks.cons_iff traced (by decide)).mpr behind
  have directed : Carries promote word bare ((lines ('\n' ::
      (Substitution.literal "\r\n".toList "\n".toList).apply source ++ "\n\n".toList)).flatMap
        contentsDirective) [] := by
    refine (Carries.of_lacks traced ended).flatMap (fun line lacks changed member => ?_) ?_
    · unfold contentsDirective at member
      split at member
      · rcases List.mem_pair.mp member with rfl | rfl
        · exact .of_disjoint traced (List.all_iff_forall_prop.mp (by decide))
        · exact .nil traced
      · rw [List.mem_singleton.mp member]
        exact lacks
    · intro front known kind index
      rw [List.mem_singleton.mp known, List.nil_append, contentsDirective, if_neg]
      cases kind <;> exact fun same => absurd (List.cons.inj same).1 (by decide)
  exact (directed.lines_unlines traced (by decide)).lacks_of_nil traced

end Wikidown
