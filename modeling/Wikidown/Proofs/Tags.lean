import Wikidown.Proofs.Block
import Wikidown.Proofs.Placeholder.Colors

/-!
# Tags in converted texts

The only tags that the inline notation leaves in a text are its own, around coloured words. The first rules
escape what looks like a tag, the colours write an opening and a closing one for each span, and the rules
below, which may take a part of a span into a name or a label of theirs, show the same tags again.
-/

namespace Wikidown

set_option autoImplicit false

/-- What a `<` begins: the tag of a coloured span, the end of one, or something else. -/
inductive Tag where
  | opening
  | closing
  | other
deriving DecidableEq, Repr

namespace Tag

/-- What a tag is known by. No rule cuts the tag of a span before its colon. -/
def shown : Tag → Text
  | .opening => "<span style=\x22color".toList
  | .closing => "</span>".toList
  | .other => "<".toList

/-- The tag at the front of a text that begins with a `<`. -/
def atFront (text : Text) : Tag :=
  if startsWith opening.shown text then .opening
  else if startsWith closing.shown text then .closing
  else .other

theorem at_front_shown {tag : Tag} (known : tag ≠ .other) (back : Text) :
    atFront (tag.shown ++ back) = tag := by
  cases tag with
  | opening =>
      have opens : startsWith opening.shown (opening.shown ++ back) = true := by
        rw [startsWith, after_append]
        rfl
      rw [atFront, if_pos opens]
  | closing => rfl
  | other => exact absurd rfl known

theorem shown_of_at_front {text : Text} (known : atFront text ≠ .other) :
    ∃ more, text = (atFront text).shown ++ more := by
  have begins {word : Text} (opens : startsWith word text = true) : ∃ more, text = word ++ more := by
    obtain ⟨more, read⟩ := Option.isSome_iff_exists.mp opens
    exact ⟨more, after_eq_some.mp read⟩
  revert known
  rw [atFront]
  split
  · next opens => exact fun _ => begins opens
  · split
    · next closes => exact fun _ => begins closes
    · exact fun other => absurd rfl other

end Tag

/-- What each `<` of a text begins, in order. -/
def tags : Text → List Tag
  | [] => []
  | c :: text => if c = '<' then Tag.atFront (c :: text) :: tags text else tags text

/-! ## Tags of joined texts -/

theorem tags_cons_other {c : Char} (other : c ≠ '<') (text : Text) : tags (c :: text) = tags text := by
  rw [tags, if_neg other]

theorem tags_append_of_absent {front : Text} (absent : '<' ∉ front) (back : Text) :
    tags (front ++ back) = tags back := by
  induction front with
  | nil => rfl
  | cons c front ih =>
      rw [List.mem_cons, not_or] at absent
      rw [List.cons_append, tags_cons_other (Ne.symm absent.1), ih absent.2]

theorem tags_shown {tag : Tag} (known : tag ≠ .other) (back : Text) :
    tags (tag.shown ++ back) = tag :: tags back := by
  obtain ⟨rest, shape, plain⟩ : ∃ rest, tag.shown = '<' :: rest ∧ '<' ∉ rest := by
    cases tag <;> exact ⟨_, rfl, by decide⟩
  have front := Tag.at_front_shown known back
  rw [shape, List.cons_append] at front ⊢
  rw [tags, if_pos rfl, front, tags_append_of_absent plain]

/-- No tag goes across a character that stands in none. -/
theorem tags_across {c : Char} (apart : ∀ tag : Tag, c ∉ tag.shown) (front back : Text) :
    tags (front ++ c :: back) = tags front ++ tags back := by
  have alike (tag : Tag) (text : Text) :
      startsWith tag.shown (text ++ c :: back) = startsWith tag.shown text := by
    simp only [startsWith, after_append_tail (apart tag), Option.isSome_map]
  have plain : c ≠ '<' := (ne_of_mem_of_not_mem (by decide : '<' ∈ Tag.other.shown) (apart .other)).symm
  induction front with
  | nil => exact tags_cons_other plain back
  | cons d front ih =>
      have here : Tag.atFront (d :: (front ++ c :: back)) = Tag.atFront (d :: front) := by
        rw [← List.cons_append, Tag.atFront, Tag.atFront, alike, alike]
      rw [List.cons_append, tags, tags, here, ih]
      split <;> rfl

/-! ## Rules that keep the tags -/

namespace Substitution

variable {rule : Substitution}

/-- A substitution that passes over tags as a whole, and writes the tags of what it recognises again. -/
structure KeepsTags (rule : Substitution) : Prop where
  passes : ∀ (tag : Tag) (more : Text), rule.apply (tag.shown ++ more) = tag.shown ++ rule.apply more
  written : ∀ text written rest, rule.step? text = some (written, rest) →
    ∃ stretch inside, text = stretch ++ rest ∧ ∀ more,
      tags (stretch ++ more) = inside ++ tags more ∧ tags (written ++ more) = inside ++ tags more

theorem KeepsTags.apply (keeps : rule.KeepsTags) {text : Text} (known : Tag.other ∉ tags text) :
    tags (rule.apply text) = tags text := by
  induction size : text.length using Nat.strong_induction_on generalizing text with
  | _ total ih =>
      cases text with
      | nil => rw [apply_nil]
      | cons c text =>
          cases found : rule.step? (c :: text) with
          | some result =>
              obtain ⟨written, rest⟩ := result
              have shorter := rule.shorter found
              obtain ⟨stretch, inside, shape, same⟩ := keeps.written _ _ _ found
              rw [shape, (same rest).1, List.mem_append, not_or] at known
              have later := ih rest.length (by omega) known.2 rfl
              rw [apply_of_some found, (same _).2, later, shape, (same rest).1]
          | none =>
              by_cases angle : c = '<'
              · -- the tag of a span, which is passed over before the pass goes on
                have front : Tag.atFront (c :: text) ≠ .other := by
                  rw [tags, if_pos angle, List.mem_cons, not_or] at known
                  exact Ne.symm known.1
                obtain ⟨more, shape⟩ := Tag.shown_of_at_front front
                generalize Tag.atFront (c :: text) = tag at front shape
                have shorter : more.length < total := by
                  have visible : 0 < tag.shown.length := by cases tag <;> decide
                  rw [← size, shape, List.length_append]
                  omega
                rw [shape, tags_shown front, List.mem_cons, not_or] at known
                have later := ih more.length shorter known.2 rfl
                rw [shape, keeps.passes, tags_shown front, tags_shown front, later]
              · rw [tags_cons_other angle] at known
                rw [apply_of_none found, tags_cons_other angle, tags_cons_other angle,
                  ih text.length (by simp [← size]) known rfl]

/-- Where a name between an opening and a parenthesis is written between other marks, its tags stay. -/
theorem enclosed_keeps_tags {opening front : Text} {visible : opening ≠ []} {render : Text → Text} {c : Char}
    (begins : opening.head? = some c) (apart : ∀ tag : Tag, c ∉ tag.shown) (plain : '<' ∉ opening ++ front)
    (shape : ∀ inner, render inner = front ++ inner ++ "]".toList) :
    (enclosed opening ")".toList render visible).KeepsTags where
  passes tag more :=
    apply_append_of_absent ((enclosed_opens opening _ render visible).starts_with begins) (apart tag) more
  written text written rest found := by
    obtain ⟨inner, rfl, rfl⟩ := enclosed_shape found
    rw [List.mem_append, not_or] at plain
    refine ⟨_, tags inner, rfl, fun more => ⟨?_, ?_⟩⟩
    · rw [List.append_assoc, List.append_assoc, tags_append_of_absent plain.1]
      exact tags_across (fun tag => by cases tag <;> decide) inner more
    · rw [shape, List.append_assoc, List.append_assoc, tags_append_of_absent plain.2]
      exact tags_across (fun tag => by cases tag <;> decide) inner more

theorem pair_keeps_tags {opening front : Text} {visible : opening ≠ []} {render : Text → Text → Text}
    {c : Char} (begins : opening.head? = some c) (apart : ∀ tag : Tag, c ∉ tag.shown) (plain : '<' ∉ opening ++ front)
    (shape : ∀ first second, render first second = front ++ first ++ "][".toList ++ second ++ "]".toList) :
    (pair opening (· == ':') ")".toList render visible).KeepsTags where
  passes tag more :=
    apply_append_of_absent ((pair_opens opening _ _ render visible).starts_with begins) (apart tag) more
  written text written rest found := by
    obtain ⟨first, divider, second, divides, rfl, rfl⟩ := pair_shape found
    obtain rfl : divider = ':' := by simpa using divides
    rw [List.mem_append, not_or] at plain
    refine ⟨_, tags first ++ tags second, rfl, fun more => ⟨?_, ?_⟩⟩
    · simp only [List.append_assoc]
      rw [tags_append_of_absent plain.1, List.singleton_append,
        tags_across fun tag => by cases tag <;> decide]
      exact congrArg _ (tags_across (fun tag => by cases tag <;> decide) second more)
    · rw [shape]
      simp only [List.append_assoc]
      have middle : "][".toList ++ (second ++ ("]".toList ++ more)) =
          ']' :: "[".toList ++ (second ++ ']' :: more) := rfl
      rw [tags_append_of_absent plain.2, middle, List.cons_append,
        tags_across fun tag => by cases tag <;> decide, tags_append_of_absent (by decide)]
      exact congrArg _ (tags_across (fun tag => by cases tag <;> decide) second more)

/-- The tag of a span has single spaces only. -/
theorem single_spaces_keep_tags : (literal "  ".toList " ".toList).KeepsTags where
  passes tag more := by
    have starts := (literal_opens "  ".toList " ".toList (by decide)).starts_with rfl
    cases tag with
    | opening =>
        have split : Tag.opening.shown ++ more =
            "<span".toList ++ ' ' :: ("style=\x22color".toList ++ more) := rfl
        have single : ¬ "  ".toList <+: ' ' :: ("style=\x22color".toList ++ more) := fun double =>
          absurd (List.cons_prefix_cons.mp (List.cons_prefix_cons.mp double).2).1 (by decide)
        rw [split, apply_append_of_absent starts (by decide), literal_apply_cons (by decide) single,
          apply_append_of_absent starts (by decide)]
        rfl
    | closing => exact apply_append_of_absent starts (by decide) more
    | other => exact apply_append_of_absent starts (by decide) more
  written text written rest found := by
    rw [literal_step, Option.map_eq_some_iff] at found
    obtain ⟨behind, shape, same⟩ := found
    obtain ⟨rfl, rfl⟩ := Prod.mk.inj same
    refine ⟨_, [], after_eq_some.mp shape, fun more => ⟨?_, ?_⟩⟩
    · exact tags_append_of_absent (by decide) more
    · exact tags_append_of_absent (by decide) more

end Substitution

namespace Inline

theorem after_colors_keep_tags : ∀ rule ∈ afterColors, rule.KeepsTags := by
  intro rule member
  simp only [afterColors, rules, List.drop, List.mem_cons, List.not_mem_nil, or_false] at member
  have apart (tag : Tag) : '#' ∉ tag.shown := by cases tag <;> decide
  rcases member with rfl | rfl | rfl | rfl
  · exact Substitution.enclosed_keeps_tags rfl apart (by decide) fun _ => rfl
  · exact Substitution.enclosed_keeps_tags rfl apart (by decide) fun _ => rfl
  · have shape (label target : Text) : attachment label target =
        "[".toList ++ label ++ "][".toList ++ target ++ "]".toList := by simp [attachment]
    exact Substitution.pair_keeps_tags rfl apart (by decide) shape
  · exact Substitution.single_spaces_keep_tags

/-! ## The tags of the colours -/

/-- The rules before the colours write no characters but these. -/
theorem before_colors_keep_out {c : Char} (plain : c ∉ "&lgt; *~[]()".toList) :
    ∀ rule ∈ beforeColors, rule.KeepsOut c := by
  have barred {mark : Text} (known : mark.all (· ∈ "&lgt; *~[]()".toList)) : c ∉ mark :=
    fun member => plain (List.all_iff_forall_prop.mp known c member)
  have trimmed {inner : Text} (absent : c ∉ inner) : c ∉ trim inner :=
    fun member => absent ((trim_inside inner).subset member)
  have shown {mark : Text} (known : mark.all (· ∈ "&lgt; *~[]()".toList)) (inner : Text) (absent : c ∉ inner) :
      c ∉ marked mark inner := by
    have space : c ≠ ' ' := fun same => plain (same ▸ by decide)
    simp [marked, barred known, trimmed absent, space]
  have less : c ∉ "&lt;".toList := barred (by decide)
  have greater : c ∉ "&gt;".toList := barred (by decide)
  have links : c ≠ '[' ∧ c ∉ "](".toList ∧ c ≠ ')' :=
    ⟨fun same => plain (same ▸ by decide), barred (by decide), fun same => plain (same ▸ by decide)⟩
  intro rule member
  simp only [beforeColors, rules, List.take, List.mem_cons, List.not_mem_nil, or_false] at member
  rcases member with rfl | rfl | rfl | rfl | rfl | rfl
  · refine Substitution.enclosed_keeps_out fun inner absent => ?_
    exact List.not_mem_append (List.not_mem_append less absent) greater
  · exact Substitution.literal_keeps_out less
  · exact Substitution.enclosed_keeps_out (shown (by decide))
  · exact Substitution.enclosed_keeps_out (shown (by decide))
  · exact Substitution.enclosed_keeps_out (shown (by decide))
  · refine Substitution.pair_keeps_out fun label target left right => ?_
    rw [link, List.mem_cons, not_or]
    have front := List.not_mem_append (List.not_mem_append (trimmed left) links.2.1) right
    exact ⟨links.1, List.not_mem_append front (by simpa using links.2.2)⟩

/-- Before the colours every `<` of a text is escaped, and no other rule writes one. -/
theorem before_colors_untagged (text : Text) : '<' ∉ Substitution.applyAll beforeColors text := by
  have escaped : ∀ text, '<' ∉ (Substitution.literal "<".toList "&lt;".toList).apply text :=
    Substitution.literal_takes_out (by decide)
  have out := @before_colors_keep_out '<' (by decide)
  exact @Substitution.apply_all_keeps (beforeColors.drop 2) ('<' ∉ ·) _
    (fun rule member text => (out rule (List.mem_of_mem_drop member)).apply) (escaped _)

theorem tags_colored {name inner : Text} (plainName : '<' ∉ name) (plainInner : '<' ∉ inner) (back : Text) :
    tags (colored name inner ++ back) = .opening :: .closing :: tags back := by
  have opens : "<span style=\x22color: ".toList = Tag.opening.shown ++ ": ".toList := rfl
  have split : colored name inner ++ back =
      Tag.opening.shown ++
        ((": ".toList ++ name ++ ";\x22>".toList ++ inner) ++ (Tag.closing.shown ++ back)) := by
    have whole : colored name inner ++ back =
        Tag.opening.shown ++ ": ".toList ++ name ++ ";\x22>".toList ++ inner ++ Tag.closing.shown ++ back :=
      congrArg (· ++ name ++ ";\x22>".toList ++ inner ++ Tag.closing.shown ++ back) opens
    rw [whole]
    simp only [List.append_assoc]
  have plain : '<' ∉ ": ".toList ++ name ++ ";\x22>".toList ++ inner := by simp [plainName, plainInner]
  rw [split, tags_shown (by decide), tags_append_of_absent plain, tags_shown (by decide)]

/-- The colours write an opening and a closing tag for each span. -/
theorem tags_of_colors {text : Text} (plain : '<' ∉ text) :
    ∃ count, tags (colorRule.apply text) = (List.replicate count [Tag.opening, .closing]).flatten := by
  fun_induction colorRule.apply text with
  | case1 => exact ⟨0, rfl⟩
  | case2 c text written rest found ih =>
      obtain ⟨opening, name, blanks, inner, shape, rfl, _⟩ := color_step_shape found
      rw [shape] at plain
      simp only [List.mem_append, List.mem_cons, not_or] at plain
      obtain ⟨count, later⟩ := ih plain.2
      refine ⟨count + 1, ?_⟩
      rw [tags_colored plain.1.1.1.1.2 plain.1.2.1.2, later]
      rfl
  | case3 c text nothing ih =>
      rw [List.mem_cons, not_or] at plain
      rw [tags_cons_other (Ne.symm plain.1)]
      exact ih plain.2

end Inline

/-- Whatever notation a text mixes, the tags of its conversion are openings and closings of coloured spans in
turn: what the text itself writes as a tag is escaped, and spans are closed and not nested. -/
theorem tags_alternate (text : Text) :
    ∃ count, tags (Inline.convert text) = (List.replicate count [Tag.opening, .closing]).flatten := by
  obtain ⟨count, spans⟩ := Inline.tags_of_colors (Inline.before_colors_untagged text)
  have known : Tag.other ∉ (List.replicate count [Tag.opening, .closing]).flatten := by
    simp [List.mem_replicate]
  refine ⟨count, ?_⟩
  rw [Inline.convert_stages]
  refine @Substitution.apply_all_keeps _ (fun text => tags text = _) _ (fun rule member text same => ?_) spans
  have keeps := Inline.after_colors_keep_tags rule member
  exact (keeps.apply (same ▸ known)).trans same

end Wikidown
