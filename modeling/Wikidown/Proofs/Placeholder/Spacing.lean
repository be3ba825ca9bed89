import Wikidown.Proofs.Collapse
import Wikidown.Proofs.Placeholder.Woven

/-!
# Blank lines around parts

Each pass that restores a kind of parts puts blank lines around them. What the stretches between the
parts look like is an invariant of the passes: no stretch has two blank lines in a row, and one that
stands at a part of a kind already restored has a blank line there.
-/

namespace Wikidown

set_option autoImplicit false

/-- The two line feeds around a blank line. -/
def doubleFeed : Text := "\n\n".toList

theorem blank_double_feed : ∀ c ∈ doubleFeed, isBlank c = true := List.all_iff_forall_prop.mp (by decide)

theorem starts_with_iff {opening text : Text} : startsWith opening text = true ↔ opening <+: text := by
  rw [startsWith, Option.isSome_iff_exists]
  constructor
  · rintro ⟨rest, found⟩
    exact ⟨rest, (after_eq_some.mp found).symm⟩
  · rintro ⟨rest, rfl⟩
    exact ⟨rest, after_eq_some.mpr rfl⟩

theorem ends_with_iff {closing text : Text} : endsWith closing text = true ↔ closing <:+ text := by
  rw [endsWith, Option.isSome_iff_exists]
  constructor
  · rintro ⟨rest, found⟩
    exact ⟨rest, (before_eq_some.mp found).symm⟩
  · rintro ⟨rest, rfl⟩
    exact ⟨rest, before_eq_some.mpr rfl⟩

namespace Woven

/-- What stands above a part: a blank line, or the first item of a numbered list and an end of it. -/
def BlankAbove (stretch : Text) : Prop :=
  doubleFeed <:+ stretch ∨
    ∃ above, (above = [] ∨ above.getLast? = some '\n') ∧ stretch = above ++ "1. \n".toList

/-- A stretch between a part of the kind `above` and one of the kind `below`, if there are any. It has
a blank line below parts of the kinds `opens` and above parts of the kinds `closes`. -/
structure Fits (opens closes : Kind → Prop) (above below : Option Kind) (stretch : Text) : Prop where
  single : ¬ tripleFeed <:+: stretch
  starts : above ≠ none → stretch = [] ∧ below = none ∨ ∃ more, stretch = '\n' :: more
  meets : below ≠ none → Meets stretch
  opened : ∀ kind, above = some kind → opens kind →
    doubleFeed <+: stretch ∨ below = none ∧ stretch = ['\n']
  closed : ∀ kind, below = some kind → closes kind →
    BlankAbove stretch ∨ above = none ∧ stretch = ['\n']

/-- One more kind. -/
def alsoKind (kind : Kind) (kinds : Kind → Prop) : Kind → Prop := fun other => kinds other ∨ other = kind

variable {opens closes : Kind → Prop} {above below : Option Kind} {kind : Kind} {stretch : Text}

theorem begun_of_other (apart : kind ≠ .paragraph) (other : ¬ doubleFeed <+: stretch) :
    begun kind stretch = '\n' :: stretch := by
  have different : startsWith "\n\n".toList stretch = false :=
    Bool.eq_false_iff.mpr fun starts => other (starts_with_iff.mp starts)
  rw [begun, different, decide_eq_false apart]
  rfl

theorem ended_of_other (apart : kind ≠ .paragraph) (other : ¬ doubleFeed <:+ stretch) :
    ended kind stretch = stretch ++ ['\n'] := by
  have different : endsWith "\n\n".toList stretch = false :=
    Bool.eq_false_iff.mpr fun ends => other (ends_with_iff.mp ends)
  rw [ended, different, decide_eq_false apart]
  rfl

theorem begun_of_feeds (kind : Kind) (feeds : doubleFeed <+: stretch) : begun kind stretch = stretch := by
  have starts : startsWith "\n\n".toList stretch = true := starts_with_iff.mpr feeds
  rw [begun, starts]
  simp

theorem ended_of_feeds (kind : Kind) (feeds : doubleFeed <:+ stretch) : ended kind stretch = stretch := by
  have ends : endsWith "\n\n".toList stretch = true := ends_with_iff.mpr feeds
  rw [ended, ends]
  simp

theorem single_cons (single : ¬ tripleFeed <:+: stretch) (other : ¬ doubleFeed <+: stretch) :
    ¬ tripleFeed <:+: '\n' :: stretch := by
  rw [List.infix_cons_iff, not_or]
  refine ⟨fun starts => other ?_, single⟩
  exact (List.cons_prefix_cons.mp starts).2

theorem single_concat (single : ¬ tripleFeed <:+: stretch) (other : ¬ doubleFeed <:+ stretch) :
    ¬ tripleFeed <:+: stretch ++ ['\n'] := by
  rw [List.infix_concat_iff, not_or]
  refine ⟨fun ends => other ?_, single⟩
  obtain ⟨front, shape⟩ := ends
  have split : front ++ tripleFeed = (front ++ doubleFeed) ++ ['\n'] := by simp [tripleFeed, doubleFeed]
  rw [split] at shape
  exact ⟨front, (List.append_inj_left' shape rfl)⟩

theorem BlankAbove.cons (blank : BlankAbove stretch) : BlankAbove ('\n' :: stretch) := by
  rcases blank with feeds | ⟨front, ends, rfl⟩
  · exact .inl (feeds.trans (List.suffix_cons '\n' stretch))
  · refine .inr ⟨'\n' :: front, .inr ?_, rfl⟩
    rcases ends with rfl | feed
    · rfl
    · rw [List.getLast?_cons, feed]
      rfl

theorem Meets.cons (meets : Meets stretch) : Meets ('\n' :: stretch) := by
  obtain ⟨front, known, rfl | ⟨above, rfl⟩⟩ := meets
  · exact ⟨stretch, known, .inr ⟨[], rfl⟩⟩
  · exact ⟨front, known, .inr ⟨'\n' :: above, rfl⟩⟩

theorem Fits.begun (fits : Fits opens closes (some kind) below stretch) (apart : kind ≠ .paragraph) :
    Fits (alsoKind kind opens) closes (some kind) below (Woven.begun kind stretch) := by
  by_cases feeds : doubleFeed <+: stretch
  · rw [begun_of_feeds kind feeds]
    exact { fits with opened := fun _ _ _ => .inl feeds }
  · rw [begun_of_other apart feeds]
    refine ⟨single_cons fits.single feeds, fun _ => .inr ⟨stretch, rfl⟩, fun some => (fits.meets some).cons,
      fun _ _ _ => ?_, fun other here done => ?_⟩
    · rcases fits.starts (by simp) with ⟨rfl, last⟩ | ⟨more, rfl⟩
      · exact .inr ⟨last, rfl⟩
      · exact .inl ⟨more, rfl⟩
    · rcases fits.closed other here done with blank | ⟨first, _⟩
      · exact .inl blank.cons
      · exact absurd first (by simp)

theorem Fits.ended (fits : Fits opens closes above (some kind) stretch) (apart : kind ≠ .paragraph) :
    Fits opens (alsoKind kind closes) above (some kind) (Woven.ended kind stretch) := by
  by_cases feeds : doubleFeed <:+ stretch
  · rw [ended_of_feeds kind feeds]
    exact { fits with closed := fun _ _ _ => .inl (.inl feeds) }
  · have meets := fits.meets (by simp)
    rw [ended_of_other apart feeds]
    refine ⟨single_concat fits.single feeds, fun some => ?_, fun _ => ⟨[], by simp [itemized], .inr ⟨stretch, rfl⟩⟩,
      fun other here done => ?_, fun _ _ _ => ?_⟩
    · rcases fits.starts some with ⟨_, last⟩ | ⟨more, rfl⟩
      · exact absurd last (by simp)
      · exact .inr ⟨more ++ ['\n'], rfl⟩
    · rcases fits.opened other here done with begins | ⟨last, _⟩
      · exact .inl (begins.trans (List.prefix_append stretch _))
      · exact absurd last (by simp)
    · obtain ⟨front, known, rfl | ⟨above, rfl⟩⟩ := meets <;> rcases List.mem_pair.mp known with rfl | rfl
      · refine .inr ⟨?_, rfl⟩
        by_contra some
        rcases fits.starts some with ⟨_, last⟩ | ⟨more, shape⟩
        · exact absurd last (by simp)
        · exact absurd shape (by simp)
      · exact .inl (.inr ⟨[], .inl rfl, rfl⟩)
      · exact .inl (.inl ⟨above, by simp [doubleFeed]⟩)
      · exact .inl (.inr ⟨above ++ ['\n'], .inr (by simp), by simp⟩)

theorem Fits.other_above (fits : Fits opens closes above below stretch) (other : above ≠ some kind) :
    Fits (alsoKind kind opens) closes above below stretch :=
  { fits with
    opened := fun one here done => fits.opened one here
      (done.resolve_right fun same => other (same ▸ here)) }

theorem Fits.other_below (fits : Fits opens closes above below stretch) (other : below ≠ some kind) :
    Fits opens (alsoKind kind closes) above below stretch :=
  { fits with
    closed := fun one here done => fits.closed one here
      (done.resolve_right fun same => other (same ▸ here)) }

/-- The kind of the first part. -/
def headKind (insets : List Inset) : Option Kind := insets.head?.map Inset.kind

/-- The stretches behind parts, each with the kinds around it. -/
def Behind (opens closes : Kind → Prop) : List Inset → Prop
  | [] => True
  | inset :: rest => Fits opens closes (some inset.kind) (headKind rest) inset.after ∧
      Behind opens closes rest

theorem head_kind_spaced_from (kind : Kind) (stretch : Text) (insets : List Inset) :
    headKind (spacedFrom kind stretch insets).insets = headKind insets := by
  cases insets <;> rfl

/-- A pass puts a blank line at the parts of its kind and leaves those at the others. -/
theorem spaced_from_fits (kind : Kind) {insets : List Inset} (apart : kind ≠ .paragraph)
    (top : Fits (alsoKind kind opens) closes above (headKind insets) stretch)
    (behind : Behind opens closes insets) :
    Fits (alsoKind kind opens) (alsoKind kind closes) above (headKind insets)
        (spacedFrom kind stretch insets).head ∧
      Behind (alsoKind kind opens) (alsoKind kind closes) (spacedFrom kind stretch insets).insets := by
  induction insets generalizing above stretch with
  | nil => exact ⟨top.other_below (by simp [headKind]), trivial⟩
  | cons inset rest ih =>
      have next : Fits (alsoKind kind opens) closes (some inset.kind) (headKind rest)
          (if inset.kind = kind then Woven.begun kind inset.after else inset.after) := by
        by_cases same : inset.kind = kind
        · rw [if_pos same]
          subst same
          exact behind.1.begun apart
        · rw [if_neg same]
          exact behind.1.other_above (by simpa using same)
      obtain ⟨here, later⟩ := ih next behind.2
      refine ⟨?_, ⟨?_, later⟩⟩
      · rw [spacedFrom]
        dsimp only
        by_cases same : inset.kind = kind
        · rw [if_pos same]
          subst same
          exact Fits.ended top apart
        · rw [if_neg same]
          exact top.other_below (by simpa [headKind] using same)
      · rw [head_kind_spaced_from]
        exact here

/-- No kind. -/
def noKind : Kind → Prop := fun _ => False

/-- Before any pass the stretches fit, if none of them has two blank lines in a row. -/
theorem Strung.fits {word : Text} {insets : List Inset} (strung : Strung word stretch insets)
    (single : ∀ one ∈ stretches ⟨stretch, insets⟩, ¬ tripleFeed <:+: one)
    (top : above ≠ none → stretch = [] ∧ headKind insets = none ∨ ∃ more, stretch = '\n' :: more) :
    Fits noKind noKind above (headKind insets) stretch ∧ Behind noKind noKind insets := by
  induction strung generalizing above with
  | last lacks =>
      exact ⟨⟨single _ (by simp [stretches]), top, fun some => absurd rfl some,
        fun _ _ none => none.elim, fun _ _ none => none.elim⟩, trivial⟩
  | part kind index lacks meets starts behind ih =>
      rw [stretches, List.forall_mem_cons] at single
      refine ⟨⟨single.1, top, fun _ => meets, fun _ _ none => none.elim, fun _ _ none => none.elim⟩, ?_⟩
      refine ih single.2 fun _ => ?_
      rcases starts with ⟨rfl, rfl⟩ | feed
      · exact .inl ⟨rfl, rfl⟩
      · exact .inr feed

theorem stretch_inside {shown : Kind → Nat → Text} {insets : List Inset} :
    ∀ one ∈ stretches ⟨stretch, insets⟩, one <:+: text ⟨stretch, insets⟩ shown := by
  induction insets generalizing stretch with
  | nil =>
      intro one member
      rw [List.mem_singleton.mp member]
      exact List.infix_append_of_infix_left List.infix_rfl
  | cons inset rest ih =>
      intro one member
      rcases List.mem_cons.mp member with rfl | later
      · exact List.infix_append_of_infix_left List.infix_rfl
      · have inside := @ih inset.after one later
        have suffix : text ⟨inset.after, rest⟩ shown <:+ text ⟨stretch, inset :: rest⟩ shown :=
          ⟨stretch ++ shown inset.kind inset.index, by simp [text, insetsText]⟩
        exact inside.trans suffix.isInfix

end Woven

end Wikidown
