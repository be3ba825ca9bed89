import Mathlib.Data.List.Nodup
import Mathlib.Data.List.Perm.Subperm
import Wikidown.Proofs.Text.Digit
import Wikidown.Proofs.Text.Lines
import Wikidown.Slug
import Wikidown.Slug.Unique

/-!
# Slugs that no other page has

The slug of a page is the first of a list of candidates that is not taken. There are more candidates
than taken slugs and no two are the same, so one of them is free.
-/

namespace Wikidown

set_option autoImplicit false

/-- The slugs that are tried for a page, in their order. -/
def slugCandidates (base : Text) (count : Nat) : List Text :=
  base :: (List.range count).map fun index => numberedSlug base (index + 1)

variable {slugOf : Text → Text} {title base : Text} {taken : List Text}

theorem unique_slug_eq (slugOf : Text → Text) (title : Text) (taken : List Text) :
    uniqueSlug slugOf title taken =
      ((slugCandidates (baseSlug slugOf title) taken.length).find? fun slug =>
        !taken.contains slug).getD (baseSlug slugOf title) := rfl

theorem numbered_slug_ne_base (base : Text) (number : Nat) : numberedSlug base number ≠ base := by
  intro same
  have long := congrArg List.length same
  simp [numberedSlug] at long

theorem numbered_slug_inj {first second : Nat} (same : numberedSlug base first = numberedSlug base second) :
    first = second := by
  have digits := (List.cons.inj (List.append_cancel_left same)).2
  rw [← decimal_value_text first, digits, decimal_value_text]

theorem slug_candidates_nodup (base : Text) (count : Nat) : (slugCandidates base count).Nodup := by
  refine List.nodup_cons.mpr ⟨?_, ?_⟩
  · intro member
    obtain ⟨index, _, same⟩ := List.mem_map.mp member
    exact numbered_slug_ne_base base (index + 1) same
  · refine List.Nodup.map (fun first second same => ?_) List.nodup_range
    exact Nat.succ.inj (numbered_slug_inj same)

/-- Among more candidates than there are taken slugs, one is free. -/
theorem exists_free_candidate (base : Text) (taken : List Text) :
    ∃ slug ∈ slugCandidates base taken.length, slug ∉ taken := by
  by_contra none
  have within : slugCandidates base taken.length ⊆ taken := by
    intro slug member
    by_contra free
    exact none ⟨slug, member, free⟩
  have bound := ((slug_candidates_nodup base taken.length).subperm within).length_le
  rw [slugCandidates, List.length_cons, List.length_map, List.length_range] at bound
  exact Nat.not_succ_le_self _ bound

theorem unique_slug_found (slugOf : Text → Text) (title : Text) (taken : List Text) :
    ((slugCandidates (baseSlug slugOf title) taken.length).find? fun slug => !taken.contains slug) =
      some (uniqueSlug slugOf title taken) := by
  obtain ⟨free, member, apart⟩ := exists_free_candidate (baseSlug slugOf title) taken
  have some : ∃ slug ∈ slugCandidates (baseSlug slugOf title) taken.length, (!taken.contains slug) = true :=
    ⟨free, member, by simpa using apart⟩
  obtain ⟨slug, found⟩ := Option.isSome_iff_exists.mp (List.find?_isSome.mpr some)
  rw [unique_slug_eq, found, Option.getD_some]

/-- A page gets a slug of its own. -/
theorem unique_slug_free (slugOf : Text → Text) (title : Text) (taken : List Text) :
    uniqueSlug slugOf title taken ∉ taken := by
  simpa using List.find?_some (unique_slug_found slugOf title taken)

theorem unique_slug_candidate (slugOf : Text → Text) (title : Text) (taken : List Text) :
    uniqueSlug slugOf title taken ∈ slugCandidates (baseSlug slugOf title) taken.length :=
  List.mem_of_find?_eq_some (unique_slug_found slugOf title taken)

theorem unique_slugs_length (slugOf : Text → Text) (titles taken : List Text) :
    (uniqueSlugs slugOf titles taken).length = titles.length := by
  induction titles generalizing taken with
  | nil => rfl
  | cons title titles ih => rw [uniqueSlugs, List.length_cons, List.length_cons, ih]

/-- Slugs that are taken in turn are different from each other and from those that were taken before. -/
theorem unique_slugs_fresh (slugOf : Text → Text) (titles taken : List Text) :
    (uniqueSlugs slugOf titles taken).Nodup ∧ ∀ slug ∈ uniqueSlugs slugOf titles taken, slug ∉ taken := by
  induction titles generalizing taken with
  | nil => exact ⟨List.nodup_nil, fun _ member => absurd member List.not_mem_nil⟩
  | cons title titles ih =>
      obtain ⟨distinct, fresh⟩ := ih (uniqueSlug slugOf title taken :: taken)
      rw [uniqueSlugs, List.nodup_cons, List.forall_mem_cons]
      refine ⟨⟨fun later => fresh _ later List.mem_cons_self, distinct⟩, unique_slug_free slugOf title taken, ?_⟩
      exact fun slug later known => fresh slug later (List.mem_cons_of_mem _ known)

/-- A slug is made of hyphens, letters and digits. -/
theorem mem_slugify {c : Char} (member : c ∈ slugify title) : c = '-' ∨ c.isAlphanum = true := by
  rw [slugify] at member
  rcases mem_joined member with hyphen | ⟨word, isWord, inside⟩
  · exact .inl hyphen
  · obtain ⟨d, _, same⟩ := List.mem_map.mp (mem_of_mem_piece (List.mem_filter.mp isWord).1 inside)
    split at same
    · next letter => exact .inr (same ▸ letter)
    · exact .inl same.symm

theorem not_mem_slugify {c : Char} (apart : c ≠ '-') (sign : c.isAlphanum = false) (title : Text) :
    c ∉ slugify title := by
  intro member
  rcases mem_slugify member with hyphen | letter
  · exact apart hyphen
  · simp [sign] at letter

/-- A slug is a name of its own: it leads into no directory. -/
theorem slash_not_mem_slugify (title : Text) : '/' ∉ slugify title :=
  not_mem_slugify (by decide) (by decide) title

theorem nul_not_mem_slugify (title : Text) : '\x00' ∉ slugify title :=
  not_mem_slugify (by decide) (by decide) title

/-- What stands in no slug stands in no unique slug either, but for hyphens, digits and the letters of the slug
that stands for an empty one. -/
theorem not_mem_unique_slug {c : Char} (plain : c ∉ slugOf title) (other : c ∉ "untitled-".toList)
    (sign : c.isDigit = false) (taken : List Text) : c ∉ uniqueSlug slugOf title taken := by
  have base : c ∉ baseSlug slugOf title := by
    unfold baseSlug
    split
    · exact fun member => other (List.mem_append_left ['-'] member)
    · exact plain
  have digits (number : Nat) : c ∉ decimalText number := fun member => by
    rw [decimal_is_digit member] at sign
    exact absurd sign (by simp)
  have hyphen : c ≠ '-' := fun same => other (same ▸ List.mem_append_right "untitled".toList List.mem_cons_self)
  have member := unique_slug_candidate slugOf title taken
  rw [slugCandidates, List.mem_cons, List.mem_map] at member
  rcases member with same | ⟨index, _, same⟩
  · rwa [same]
  · rw [← same, numberedSlug]
    simp [base, hyphen, digits]

theorem slash_not_mem_unique_slug (plain : '/' ∉ slugOf title) (taken : List Text) :
    '/' ∉ uniqueSlug slugOf title taken := not_mem_unique_slug plain (by decide) (by decide) taken

end Wikidown
