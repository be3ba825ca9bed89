import Mathlib.Data.List.GetD
import Wikidown.Proofs.Composition.Arranged
import Wikidown.Proofs.Placeholder.Restored

/-!
# Pages of blocks

The page of a document that is made of blocks: its headings and lists are text, and all other blocks
are parts. The parts stand between blank lines already, so restoring adds none, and the number of each
part is the place that it has in the store.
-/

namespace Wikidown

set_option autoImplicit false

namespace Woven

variable {kind : Kind} {stretch behind : Text} {insets rest : List Inset}

/-- Parts of one kind on lines of their own, with `behind` for the text after the last of them. -/
def linked (kind : Kind) (behind : Text) : (next count : Nat) → List Inset
  | _, 0 => []
  | next, 1 => [⟨kind, next, behind⟩]
  | next, count + 2 => ⟨kind, next, ['\n']⟩ :: linked kind behind (next + 1) (count + 1)

theorem insets_text_linked (shown : Kind → Nat → Text) (kind : Kind) (behind : Text) (next count : Nat) :
    insetsText shown (linked kind behind next (count + 1)) =
      unlines ((List.range' next (count + 1)).map (shown kind)) ++ behind := by
  induction count generalizing next with
  | zero => exact congrArg (shown kind next ++ ·) (List.append_nil behind)
  | succ count ih =>
      have first : List.range' next (count + 1 + 1) = next :: List.range' (next + 1) (count + 1) :=
        List.range'_succ
      rw [linked, insetsText, ih, first, List.map_cons, unlines_cons (by simp)]
      simp

theorem mem_linked {next count : Nat} {inset : Inset} (member : inset ∈ linked kind behind next count) :
    inset.kind = kind ∧ inset.index < next + count := by
  induction next, count using linked.induct with
  | case1 => exact absurd member List.not_mem_nil
  | case2 next =>
      rw [linked, List.mem_singleton] at member
      rw [member]
      exact ⟨rfl, Nat.lt_succ_self next⟩
  | case3 next count ih =>
      rw [linked, List.mem_cons] at member
      rcases member with rfl | later
      · exact ⟨rfl, by dsimp only; omega⟩
      · obtain ⟨same, bound⟩ := ih later
        exact ⟨same, by omega⟩

theorem Strung.linked {word : Text} (traced : Traced word) (kind : Kind) (next count : Nat)
    (strung : Strung word ('\n' :: behind) rest) :
    Strung word [] (Woven.linked kind ('\n' :: behind) next (count + 1) ++ rest) := by
  have meets : Meets [] := ⟨[], by simp [itemized], .inl rfl⟩
  have nothing : Lacks true word [] := .nil traced
  induction count generalizing next with
  | zero => exact .part kind next nothing meets (.inr ⟨behind, rfl⟩) strung
  | succ count ih =>
      exact .part kind next nothing meets (.inr ⟨[], rfl⟩) ((ih (next + 1)).line_above traced nothing)

/-- Parts of code and of quotes that stand between blank lines, as far as other parts are near. -/
def Parted : List Inset → Prop
  | [] => True
  | inset :: rest => (inset.kind ≠ .paragraph → doubleFeed <+: inset.after) ∧
      (∀ next ∈ rest.head?, next.kind ≠ .paragraph → doubleFeed <:+ inset.after) ∧ Parted rest

theorem begun_of_parted (feeds : kind ≠ .paragraph → doubleFeed <+: stretch) :
    begun kind stretch = stretch := by
  by_cases paragraph : kind = .paragraph
  · rw [begun, decide_eq_true paragraph]
    rfl
  · exact begun_of_feeds kind (feeds paragraph)

theorem ended_of_parted (feeds : kind ≠ .paragraph → doubleFeed <:+ stretch) :
    ended kind stretch = stretch := by
  by_cases paragraph : kind = .paragraph
  · rw [ended, decide_eq_true paragraph]
    rfl
  · exact ended_of_feeds kind (feeds paragraph)

/-- Parts between blank lines get no more of them, but for one above the first. -/
theorem spaced_from_parted (kind : Kind) (parted : Parted insets) : spacedFrom kind stretch insets =
    ⟨if headKind insets = some kind then ended kind stretch else stretch, insets⟩ := by
  induction insets generalizing stretch with
  | nil => rfl
  | cons inset rest ih =>
      have behind : (if inset.kind = kind then begun kind inset.after else inset.after) = inset.after := by
        split
        · next same =>
            subst same
            exact begun_of_parted parted.1
        · rfl
      have above : (if headKind rest = some kind then ended kind inset.after else inset.after) =
          inset.after := by
        split
        · next same =>
            obtain ⟨next, first, rfl⟩ := Option.map_eq_some_iff.mp same
            exact ended_of_parted (parted.2.1 next first)
        · rfl
      rw [spacedFrom, behind, ih parted.2.2, above]
      simp [headKind]

theorem parted_linked {count : Nat} (single : kind = .paragraph ∨ count = 0) (starts : doubleFeed <+: behind)
    (ends : doubleFeed <:+ behind) (parted : Parted rest) (next : Nat) :
    Parted (linked kind behind next (count + 1) ++ rest) := by
  induction count generalizing next with
  | zero => exact ⟨fun _ => starts, fun _ _ _ => ends, parted⟩
  | succ count ih =>
      have paragraph : kind = .paragraph := single.resolve_right (Nat.succ_ne_zero count)
      refine ⟨fun other => absurd paragraph other, fun one first other => ?_, ih (.inl paragraph) (next + 1)⟩
      have same : one.kind = kind := by
        cases count with
        | zero => exact congrArg Inset.kind (Option.mem_some.mp first).symm
        | succ => exact congrArg Inset.kind (Option.mem_some.mp first).symm
      exact absurd (same.trans paragraph) other

end Woven

namespace Block

variable {promote : Bool} {before : Kind → Nat} {block : Block} {blocks : List Block}

/-- The page of blocks. -/
def weave (before : Kind → Nat) : List Block → Woven
  | [] => ⟨[], []⟩
  | block :: rest =>
      let behind := weave (block.next before) rest
      match block.kind? with
      | some kind => ⟨[], Woven.linked kind (doubleFeed ++ behind.head) (before kind)
          block.contents.length ++ behind.insets⟩
      | none => ⟨block.rendered ++ (doubleFeed ++ behind.head), behind.insets⟩

theorem weave_of_some {kind : Kind} (some : block.kind? = some kind) : weave before (block :: blocks) =
    ⟨[], Woven.linked kind (doubleFeed ++ (weave (block.next before) blocks).head) (before kind)
      block.contents.length ++ (weave (block.next before) blocks).insets⟩ := by
  rw [weave, some]

theorem weave_of_none (none : block.kind? = none) : weave before (block :: blocks) =
    ⟨block.rendered ++ (doubleFeed ++ (weave (block.next before) blocks).head),
      (weave (block.next before) blocks).insets⟩ := by
  rw [weave, none]

theorem exists_contents_length {kind : Kind} (some : block.kind? = some kind) :
    ∃ count, block.contents.length = count + 1 ∧ (kind = .paragraph ∨ count = 0) := by
  cases block with
  | paragraph run =>
      obtain ⟨first, more, shape⟩ := List.exists_cons_of_ne_nil run.nonempty
      exact ⟨more.length, congrArg List.length shape, .inl (Option.some.inj some).symm⟩
  | code | quote => exact ⟨0, rfl, .inr rfl⟩
  | heading | list => exact absurd some (by simp [kind?])

theorem text_weave (shown : Kind → Nat → Text) :
    (weave before blocks).text shown = paged shown before blocks := by
  induction blocks generalizing before with
  | nil => rfl
  | cons block rest ih =>
      have behind := @ih (block.next before)
      rw [paged, ← behind]
      cases found : block.kind? with
      | none =>
          rw [weave_of_none found, written_of_none found, unlines_lines]
          simp [Woven.text]
      | some kind =>
          obtain ⟨count, size, _⟩ := exists_contents_length found
          rw [weave_of_some found, written_of_some found, numbered, size, Woven.text,
            Woven.insets_text_append, Woven.insets_text_linked]
          simp [Woven.text]

theorem head_weave : (weave before blocks).head = [] ∨ doubleFeed <:+ (weave before blocks).head := by
  induction blocks generalizing before with
  | nil => exact .inl rfl
  | cons block rest ih =>
      cases found : block.kind? with
      | some kind =>
          rw [weave_of_some found]
          exact .inl rfl
      | none =>
          rw [weave_of_none found]
          rcases @ih (block.next before) with empty | feeds
          · exact .inr ⟨block.rendered, by simp [empty]⟩
          · exact .inr (feeds.trans ((List.suffix_append _ _).trans (List.suffix_append _ _)))

theorem parted_weave : Woven.Parted (weave before blocks).insets := by
  induction blocks generalizing before with
  | nil => trivial
  | cons block rest ih =>
      cases found : block.kind? with
      | none =>
          rw [weave_of_none found]
          exact ih
      | some kind =>
          obtain ⟨count, size, single⟩ := exists_contents_length found
          have ends : doubleFeed <:+ doubleFeed ++ (weave (block.next before) rest).head := by
            rcases @head_weave (block.next before) rest with empty | feeds
            · rw [empty, List.append_nil]
            · exact feeds.trans (List.suffix_append _ _)
          rw [weave_of_some found, size]
          exact Woven.parted_linked single (List.prefix_append _ _) ends ih (before kind)

/-- Restoring adds no blank line to a page of blocks, except at its top. -/
theorem text_spaced_weave (shown : Kind → Nat → Text) (count : Nat) : ∃ feeds,
    (spacedPage ⟨List.replicate count '\n' ++ (weave before blocks).head, (weave before blocks).insets⟩).text
      shown = List.replicate feeds '\n' ++ paged shown before blocks := by
  have top (kind : Kind) (count : Nat) : ∃ feeds,
      (if Woven.headKind (weave before blocks).insets = some kind then
        Woven.ended kind (List.replicate count '\n' ++ (weave before blocks).head)
        else List.replicate count '\n' ++ (weave before blocks).head) =
      List.replicate feeds '\n' ++ (weave before blocks).head := by
    split
    · rcases @head_weave before blocks with empty | feeds
      · unfold Woven.ended
        split
        · exact ⟨count, rfl⟩
        · refine ⟨count + 1, ?_⟩
          rw [empty, List.append_nil, List.append_nil, List.replicate_succ']
      · exact ⟨count, Woven.ended_of_feeds kind (feeds.trans (List.suffix_append _ _))⟩
    · exact ⟨count, rfl⟩
  obtain ⟨first, code⟩ := top .code count
  obtain ⟨second, quote⟩ := top .quote first
  refine ⟨second, ?_⟩
  rw [spacedPage, Woven.spaced, Woven.spaced, Woven.spaced_from_parted .code parted_weave]
  dsimp only
  rw [Woven.spaced_from_parted .quote parted_weave, code, quote, ← text_weave, Woven.text, Woven.text,
    List.append_assoc]

theorem mem_weave {inset : Inset} (member : inset ∈ (weave before blocks).insets) :
    inset.index < before inset.kind + (blocks.flatMap (parts inset.kind)).length := by
  induction blocks generalizing before with
  | nil => exact absurd member List.not_mem_nil
  | cons block rest ih =>
      have later : inset ∈ (weave (block.next before) rest).insets → inset.index <
          before inset.kind + ((block :: rest).flatMap (parts inset.kind)).length := by
        intro behind
        have bound := ih behind
        rw [next] at bound
        rw [List.flatMap_cons, List.length_append]
        omega
      cases found : block.kind? with
      | none =>
          rw [weave_of_none found] at member
          exact later member
      | some kind =>
          rw [weave_of_some found, List.mem_append] at member
          rcases member with own | behind
          · obtain ⟨rfl, bound⟩ := Woven.mem_linked own
            rw [List.flatMap_cons, List.length_append, parts_of_some found]
            omega
          · exact later behind

section Lacks

variable {word : Text}

theorem rendered_lacks (traced : Traced word) (none : block.kind? = none)
    (lacks : Lacks true word block.source) : Lacks true word block.rendered := by
  have each : ∀ line ∈ lines block.source, ∀ shown ∈ Layout.converted line, Lacks true word shown :=
    fun line member => Layout.converted_lacks traced (lacks.of_inside traced (infix_of_mem_lines member))
  cases block with
  | heading one =>
      refine each one.source (by simp [source, lines_heading]) _ ?_
      simp [converted_heading, rendered]
  | list run =>
      have quiet : ∀ line ∈ lines (rendered (.list run)), Lacks true word line := by
        intro line member
        rw [rendered, lines_rendered_list] at member
        obtain ⟨one, inside, rfl⟩ := List.mem_map.mp member
        refine each one.source ?_ _ (by simp [converted_list_line])
        rw [source, lines_list]
        exact List.mem_map_of_mem inside
      have none : Carries true word bare (lines (rendered (.list run))) [] := .of_quiet quiet
      exact none.lacks_of_nil traced
  | paragraph | code | quote => exact absurd none (by simp [kind?])

theorem strung_weave (traced : Traced word)
    (lacks : ∀ block ∈ blocks, Lacks true word block.source) :
    Woven.Strung word (weave before blocks).head (weave before blocks).insets := by
  have nothing : Lacks true word [] := .nil traced
  induction blocks generalizing before with
  | nil => exact .last nothing
  | cons block rest ih =>
      rw [List.forall_mem_cons] at lacks
      have behind := (@ih (block.next before) lacks.2).line_above traced nothing
      cases found : block.kind? with
      | none =>
          rw [weave_of_none found]
          exact behind.line_above traced (rendered_lacks traced found lacks.1)
      | some kind =>
          obtain ⟨count, size, _⟩ := exists_contents_length found
          rw [weave_of_some found, size]
          exact Woven.Strung.linked traced kind (before kind) count (behind.line_above traced nothing)

theorem strung_below_feeds {stretch : Text} {insets : List Inset} (traced : Traced word)
    (strung : Woven.Strung word stretch insets) (count : Nat) :
    Woven.Strung word (List.replicate count '\n' ++ stretch) insets := by
  induction count with
  | zero => exact strung
  | succ count ih => exact ih.line_above traced (.nil traced)

end Lacks

section Shown

variable {kind : Kind} {store : Store}

/-- A part of a document without code in its quotes, as it stands in the result. -/
def renderedPart : Kind → Text → Text
  | .code, part => fenced part
  | .quote, part => cited (Inline.convert (trim part))
  | .paragraph, part => renderParagraph part

/-- A quote without code. -/
def quotePage (part : Text) : Woven := ⟨Inline.convert (trim part), []⟩

theorem rendered_of_some (some : block.kind? = some kind) :
    block.rendered = unlines (block.contents.map (renderedPart kind)) := by
  cases block with
  | paragraph | code | quote =>
      obtain rfl := Option.some.inj some
      rfl
  | heading | list => exact absurd some (by simp [kind?])

theorem part_shown (store : Store) (kind : Kind) (index : Nat) :
    partShown store (store.quote.map quotePage) kind index =
      renderedPart kind ((store.parts kind).getD index []) := by
  cases kind with
  | code | paragraph => rfl
  | quote =>
      have nothing : Inline.convert (trim []) = [] := by decide +kernel
      have blank : (⟨[], []⟩ : Woven) = quotePage [] := by rw [quotePage, nothing]
      have page : (store.quote.map quotePage).getD index ⟨[], []⟩ =
          quotePage (store.quote.getD index []) := by
        rw [blank, List.getD_map]
      have body : ∀ part, quoteBody store (quotePage part) = Inline.convert (trim part) :=
        fun part => List.append_nil _
      rw [partShown, page, body]
      rfl

/-- Numbers that begin where a list goes on with `front` are those of `front`. -/
theorem range_map_getD {parts front back : List Text} {start : Nat}
    (shape : parts.drop start = front ++ back) :
    (List.range' start front.length).map (fun index => parts.getD index []) = front := by
  induction front generalizing start with
  | nil => rfl
  | cons part front ih =>
      have here : parts.getD start [] = part := by
        have first := congrArg List.head? shape
        rw [List.head?_drop] at first
        rw [List.getD_eq_getElem?_getD, first]
        rfl
      have later : parts.drop (start + 1) = front ++ back := by
        have tail := congrArg (List.drop 1) shape
        rwa [List.drop_drop] at tail
      rw [List.length_cons, List.range'_succ, List.map_cons, here, ih later]

theorem numbered_shown {more : List Text}
    (stored : (store.parts kind).drop (before kind) = block.contents ++ more) :
    block.numbered (partShown store (store.quote.map quotePage)) before kind =
      block.contents.map (renderedPart kind) := by
  have shown : partShown store (store.quote.map quotePage) kind =
      renderedPart kind ∘ fun index => (store.parts kind).getD index [] := by
    funext index
    exact part_shown store kind index
  rw [numbered, shown, ← List.map_map, range_map_getD stored]

/-- A page with the parts that its blocks are masked as. -/
theorem paged_shown (nonempty : blocks ≠ [])
    (stored : ∀ kind, (store.parts kind).drop (before kind) = blocks.flatMap (parts kind)) :
    paged (partShown store (store.quote.map quotePage)) before blocks =
      composed rendered blocks ++ doubleFeed := by
  induction blocks generalizing before with
  | nil => contradiction
  | cons block rest ih =>
      have here : unlines (block.written (partShown store (store.quote.map quotePage)) before) =
          block.rendered := by
        cases found : block.kind? with
        | none => rw [written_of_none found, unlines_lines]
        | some kind =>
            have own := stored kind
            rw [List.flatMap_cons, parts_of_some found] at own
            rw [written_of_some found, numbered_shown own, rendered_of_some found]
      have later : ∀ kind, (store.parts kind).drop (block.next before kind) = rest.flatMap (parts kind) := by
        intro kind
        rw [next, ← List.drop_drop, stored kind, List.flatMap_cons, List.drop_left]
      rw [paged, here]
      by_cases last : rest = []
      · rw [last, composed_singleton]
        rfl
      · rw [ih last later, composed_cons last, List.append_assoc, List.append_assoc]

end Shown

end Block

end Wikidown
