import Mathlib.Computability.StateTransition
import Mathlib.Order.Bounds.Basic
import Wikidown.Proofs.Slugs

/-!
# The search for a free slug

The slug of a title is tried without a number first, and then with 1, 2 and so on behind it, until one is free.
The search has no bound of its own. It ends because no two tries are the same, so that the taken slugs run out.
-/

namespace Wikidown

set_option autoImplicit false

open StateTransition

variable {base : Text} {taken : List Text}

/-- A turn of the search, as long as the slug is taken: the counter is put behind the base and goes up. -/
def searchTurn? (base : Text) (taken : List Text) : Text × Nat → Option (Text × Nat)
  | (slug, counter) => if slug ∈ taken then some (numberedSlug base counter, counter + 1) else none

/-- The slug that is tried after the given number of turns. -/
def triedSlug (base : Text) : (turns : Nat) → Text
  | 0 => base
  | turns + 1 => numberedSlug base (turns + 1)

theorem slug_candidates_eq (base : Text) (count : Nat) :
    slugCandidates base count = (List.range (count + 1)).map (triedSlug base) := by
  rw [slugCandidates, List.range_succ_eq_map, List.map_cons, List.map_map]
  rfl

/-- The search goes on through the slugs that are taken. -/
theorem search_reaches {turns : Nat} (busy : ∀ earlier < turns, triedSlug base earlier ∈ taken) :
    Reaches (searchTurn? base taken) (base, 1) (triedSlug base turns, turns + 1) := by
  induction turns with
  | zero => exact Relation.ReflTransGen.refl
  | succ turns ih =>
      have sofar := ih fun earlier below => busy earlier (Nat.lt_succ_of_lt below)
      have turn : searchTurn? base taken (triedSlug base turns, turns + 1) =
          some (triedSlug base (turns + 1), turns + 2) := if_pos (busy turns (Nat.lt_succ_self turns))
      exact sofar.tail turn

/-- The slug of a page is the first one tried that is free. -/
theorem unique_slug_first (slugOf : Text → Text) (title : Text) (taken : List Text) :
    ∃ turns, uniqueSlug slugOf title taken = triedSlug (baseSlug slugOf title) turns ∧
      ∀ earlier < turns, triedSlug (baseSlug slugOf title) earlier ∈ taken := by
  have found := unique_slug_found slugOf title taken
  rw [slug_candidates_eq, List.find?_map, Option.map_eq_some_iff] at found
  obtain ⟨turns, first, same⟩ := found
  obtain ⟨-, -, busy⟩ := List.find?_range_eq_some.mp first
  exact ⟨turns, same.symm, fun earlier below => by simpa using busy earlier below⟩

/-- The search for the slug of a title comes to an end. -/
theorem slug_search_ends (slugOf : Text → Text) (title : Text) (taken : List Text) :
    ∃ counter, (uniqueSlug slugOf title taken, counter) ∈
      eval (searchTurn? (baseSlug slugOf title) taken) (baseSlug slugOf title, 1) := by
  obtain ⟨turns, same, busy⟩ := unique_slug_first slugOf title taken
  have free := unique_slug_free slugOf title taken
  have last : searchTurn? (baseSlug slugOf title) taken (uniqueSlug slugOf title taken, turns + 1) = none :=
    if_neg free
  have reached := search_reaches busy
  rw [← same] at reached
  exact ⟨turns + 1, mem_eval.mpr ⟨reached, last⟩⟩

/-- The slug of a title has no number if the base is free, and else the least number that makes it free. -/
theorem unique_slug_least (slugOf : Text → Text) (title : Text) (taken : List Text) :
    (baseSlug slugOf title ∉ taken ∧ uniqueSlug slugOf title taken = baseSlug slugOf title) ∨
      (baseSlug slugOf title ∈ taken ∧
        ∃ number, uniqueSlug slugOf title taken = numberedSlug (baseSlug slugOf title) number ∧
          IsLeast {k | 1 ≤ k ∧ numberedSlug (baseSlug slugOf title) k ∉ taken} number) := by
  obtain ⟨turns, same, busy⟩ := unique_slug_first slugOf title taken
  have free := unique_slug_free slugOf title taken
  rw [same] at free
  cases turns with
  | zero => exact .inl ⟨free, same⟩
  | succ turns =>
      refine .inr ⟨busy 0 (Nat.succ_pos turns), turns + 1, same, ⟨Nat.succ_pos turns, free⟩, ?_⟩
      -- a smaller number was tried before, and then its slug was taken
      rintro number ⟨positive, untaken⟩
      by_contra below
      obtain ⟨earlier, rfl⟩ := Nat.exists_eq_add_of_le' positive
      exact untaken (busy (earlier + 1) (Nat.lt_of_not_le below))

theorem base_slug_eq (slugOf : Text → Text) (title : Text) :
    baseSlug slugOf title = if slugOf title = [] then "untitled".toList else slugOf title := by
  unfold baseSlug
  split <;> simp_all

/-- The search for the slug of a title ends with a slug that is free: with the base if that is free, else with the
base and the least number from 1 on that makes a free slug of it. So titles that take their slugs in turn get one
each, and no two the same. -/
theorem free_slugs_found (slugOf : Text → Text) (title : Text) (titles taken : List Text) :
    let base := if slugOf title = [] then "untitled".toList else slugOf title
    let slug := uniqueSlug slugOf title taken
    (∃ counter, eval (searchTurn? base taken) (base, 1) = Part.some (slug, counter)) ∧
      slug ∉ taken ∧
      (base ∉ taken ∧ slug = base ∨
        base ∈ taken ∧ ∃ number, slug = numberedSlug base number ∧
          IsLeast {k | 1 ≤ k ∧ numberedSlug base k ∉ taken} number) ∧
      (uniqueSlugs slugOf titles taken).length = titles.length ∧
      (uniqueSlugs slugOf titles taken).Nodup ∧
      ∀ other ∈ uniqueSlugs slugOf titles taken, other ∉ taken := by
  intro base slug
  have named : base = baseSlug slugOf title := (base_slug_eq slugOf title).symm
  rw [named]
  obtain ⟨counter, ends⟩ := slug_search_ends slugOf title taken
  refine ⟨⟨counter, Part.eq_some_iff.mpr ends⟩, unique_slug_free slugOf title taken,
    unique_slug_least slugOf title taken, unique_slugs_length slugOf titles taken, ?_⟩
  exact unique_slugs_fresh slugOf titles taken

example : uniqueSlugs id ["a".toList, "a".toList, "a-1".toList] [] =
    ["a".toList, "a-1".toList, "a-1-1".toList] := by decide

end Wikidown
