import Wikidown.Proofs.Composition.Woven

/-!
# Composition of blocks

Blocks with a blank line between each two of them are converted each on its own: whatever stands next
to a block, the result has what the block is rendered as, again with one blank line between.
-/

namespace Wikidown

set_option autoImplicit false

open Block

variable {promote : Bool} {blocks : List Block}

theorem part_inside {block : Block} {part : Text} (member : part ∈ block.contents) :
    part <:+: block.source := by
  cases block with
  | paragraph run =>
      refine infix_of_mem_lines ?_
      rwa [show lines (source (.paragraph run)) = run.content from lines_paragraph run]
  | code | quote =>
      rw [List.mem_singleton.mp member]
      exact List.infix_append_of_infix_left (List.infix_append_of_infix_right List.infix_rfl)
  | heading | list => exact absurd member List.not_mem_nil

theorem part_lacks {kind : Kind} {part : Text} (lacks : ∀ block ∈ blocks, Lacks true mark block.source)
    (member : part ∈ blocks.flatMap (parts kind)) : Lacks true mark part := by
  obtain ⟨block, inside, own⟩ := List.mem_flatMap.mp member
  rw [parts] at own
  split at own
  · exact (lacks block inside).of_inside .opening (part_inside own)
  · exact absurd own List.not_mem_nil

/-- The page of a document that is made of blocks. -/
def composedPage (blocks : List Block) : Woven :=
  ⟨List.replicate (min (1 + leadsOf blocks) 2) '\n' ++ (weave (fun _ => 0) blocks).head,
    (weave (fun _ => 0) blocks).insets⟩

section Composed

variable (nonempty : blocks ≠ []) (uniform : '\r' ∉ composed source blocks)
  (undirected : "#contents".toList ∉ lines (composed source blocks))
include nonempty uniform undirected

theorem composed_parts (kind : Kind) :
    (Document.masked (composed source blocks)).store.parts kind = blocks.flatMap (parts kind) := by
  rw [masked_composed nonempty uniform undirected]
  cases kind <;> rfl

theorem composed_anatomy (unmarked : ¬ mark <:+: composed source blocks) :
    Anatomy promote mark (composed source blocks) (composedPage blocks)
      ((Document.masked (composed source blocks)).store.quote.map quotePage) := by
  have stored := composed_parts nonempty uniform undirected
  have lacks : ∀ block ∈ blocks, Lacks true mark block.source := fun block member =>
    Lacks.of_inside .opening unmarked (composed_inside member)
  have lacksPart : ∀ kind, ∀ part ∈ (Document.masked (composed source blocks)).store.parts kind,
      Lacks true mark part := by
    intro kind part member
    rw [stored] at member
    exact part_lacks lacks member
  have fresh : ∀ quote ∈ (Document.masked (composed source blocks)).store.quote.map quotePage,
      quote.keys = [] := by
    intro quote member
    obtain ⟨part, _, rfl⟩ := List.mem_map.mp member
    rfl
  constructor
  case arranged =>
    rw [arranged_composed nonempty uniform undirected, ← text_weave, Woven.text, Woven.text,
      composedPage, List.append_assoc]
  case strung => exact strung_below_feeds .opening (strung_weave .opening lacks) _
  case quoted =>
    rw [List.forall₂_map_right_iff, List.forall₂_same]
    intro part member
    have trimmed := (lacksPart .quote part member).of_inside .opening (trim_inside part)
    exact ⟨List.append_nil _, .last (Inline.convert_lacks .opening trimmed)⟩
  case within =>
    intro quote member key place
    rw [fresh quote member] at place
    exact absurd place List.not_mem_nil
  case known =>
    intro key member
    rcases List.mem_append.mp member with onPage | inQuote
    · obtain ⟨inset, place, rfl⟩ := List.mem_map.mp onPage
      have bound := mem_weave place
      rw [Nat.zero_add, ← stored] at bound
      exact bound
    · obtain ⟨quote, place, here⟩ := List.mem_flatMap.mp inQuote
      rw [fresh quote place] at here
      exact absurd here List.not_mem_nil
  case lacks =>
    intro part member
    rcases List.mem_append.mp member with code | paragraph
    · exact lacksPart .code part code
    · exact lacksPart .paragraph part paragraph

end Composed

/-- Blocks are converted one by one. Headings and lists are the only ones in which line breaks and
ampersands are written for the layout. -/
theorem convert_composed (options : Options) (blocks : List Block) (nonempty : blocks ≠ [])
    (uniform : '\r' ∉ composed source blocks)
    (undirected : "#contents".toList ∉ lines (composed source blocks))
    (unmarked : ¬ mark <:+: composed source blocks)
    (few : ∀ kind, (blocks.flatMap (parts kind)).length ≤ 10 ^ digitLimit) :
    convert options (composed source blocks) =
      .ok (withLineEndings options.crlf (trim (composed rendered blocks))) := by
  have stored := composed_parts nonempty uniform undirected
  have small : ∀ kind, (Document.masked (composed source blocks)).store.count kind ≤ 10 ^ digitLimit := by
    intro kind
    rw [Store.count, stored]
    exact few kind
  have anatomy := @composed_anatomy options.promoteFirstRow blocks nonempty uniform undirected unmarked
  obtain ⟨feeds, page⟩ := @text_spaced_weave (fun _ => 0) blocks
    (partShown (Document.masked (composed source blocks)).store
      ((Document.masked (composed source blocks)).store.quote.map quotePage)) (min (1 + leadsOf blocks) 2)
  rw [paged_shown nonempty fun kind => (List.drop_zero).trans (stored kind)] at page
  have blankFront : ∀ c ∈ List.replicate feeds '\n', isBlank c = true := by
    intro c member
    rw [List.eq_of_mem_replicate member]
    decide
  have converted := anatomy.converted small options.crlf
  rw [composedPage, page, trim_between_blanks blankFront _ blank_double_feed] at converted
  exact converted

/-- A block of each form. -/
def everyForm : List Block :=
  [ .heading ⟨1, "A & B".toList, by decide⟩,
    .paragraph ⟨["a".toList, "b".toList], by decide, by decide, by decide, by decide, by decide⟩,
    .quote ⟨"\nc\n\nd\n".toList, by decide, by decide⟩,
    .list ⟨[⟨0, " e".toList, by decide, by decide⟩, ⟨2, [], by decide, by decide⟩], by simp⟩,
    .code ⟨"\n\nf\n\n\ng".toList, by decide⟩ ]

theorem convert_every_form : convert ⟨true, false⟩ (composed source everyForm) =
    .ok (withLineEndings true (trim (composed rendered everyForm))) := by
  have few : ∀ kind, (everyForm.flatMap (parts kind)).length ≤ 10 ^ digitLimit :=
    fun kind => few_le_digit_limit (by cases kind <;> decide)
  exact convert_composed ⟨true, false⟩ everyForm (by simp [everyForm]) (by decide +kernel)
    (by decide +kernel) (by decide +kernel) few

/-- The ampersand of a heading is no longer what the inline notation leaves of it. -/
theorem heading_ampersand_escaped :
    composed source [.heading ⟨0, "a & b".toList, by decide⟩] = "* a & b".toList ∧
    List.replicate 1 '#' ++ ' ' :: Inline.convert (trim "a & b".toList) = "# a & b".toList ∧
    (convert {} "* a & b".toList).toOption = some "# a &amp; b".toList :=
  ⟨by decide, by decide +kernel, by decide +kernel⟩

end Wikidown
