import Mathlib.Order.Interval.Finset.Nat
import Wikidown.Proofs.Layout.Counters

/-!
# What the numbers of items count

The number of an item counts the items of its level since that level was last left for a shallower one.
Only the level that is left starts anew: an item that is shallower by several levels leaves the levels
between as they are, and their numbers go on.
-/

namespace Wikidown.Layout.Counters

set_option autoImplicit false

/-- The level of the item at each position, counted from one; in front of the items the level is zero. -/
def levelAt (levels : List Int) (position : Nat) : Int := (0 :: levels).getD position 0

/-- Whether an item leaves a level, which is the one of the item above, for a shallower one. -/
def Leaves (levels : Nat → Int) (level : Int) (position : Nat) : Prop :=
  levels (position - 1) = level ∧ levels position < level

instance (levels : Nat → Int) (level : Int) (position : Nat) : Decidable (Leaves levels level position) :=
  inferInstanceAs (Decidable (_ ∧ _))

/-- The positions of the items of a level, up to the last one, that no item behind them has left. -/
def current (levels : Nat → Int) (level : Int) (last : Nat) : Finset Nat :=
  (Finset.Icc 1 last).filter fun position =>
    levels position = level ∧ ¬ ∃ later ∈ Finset.Ioc position last, Leaves levels level later

/-- The counters behind the first items of a list. -/
def behind (levels : Nat → Int) : Nat → Counters
  | 0 => {}
  | count + 1 => ((behind levels count).next (levels (count + 1))).2

variable {levels : Nat → Int} {level : Int}

/-! ## One more item -/

theorem mem_current {last position : Nat} : position ∈ current levels level last ↔
    1 ≤ position ∧ position ≤ last ∧ levels position = level ∧
      ∀ later, position < later → later ≤ last → ¬ Leaves levels level later := by
  simp only [current, Finset.mem_filter, Finset.mem_Icc, Finset.mem_Ioc, not_exists, not_and]
  tauto

/-- A further item of the level is counted with those before it. -/
theorem current_same (last : Nat) (same : levels (last + 1) = level) :
    current levels level (last + 1) = insert (last + 1) (current levels level last) := by
  have stays : ¬ Leaves levels level (last + 1) := fun leaves => by
    have shallower := leaves.2
    omega
  ext position
  rw [Finset.mem_insert, mem_current, mem_current]
  constructor
  · rintro ⟨positive, bound, here, kept⟩
    rcases Nat.lt_or_eq_of_le bound with before | rfl
    · exact .inr ⟨positive, Nat.le_of_lt_succ before, here, fun later above below => kept later above (by omega)⟩
    · exact .inl rfl
  · rintro (rfl | ⟨positive, bound, here, kept⟩)
    · exact ⟨by omega, Nat.le_refl _, same, fun later above below => by omega⟩
    · refine ⟨positive, by omega, here, fun later above below => ?_⟩
      rcases Nat.lt_or_eq_of_le below with before | rfl
      · exact kept later above (Nat.le_of_lt_succ before)
      · exact stays

/-- Nothing is counted any more where the level is left. -/
theorem current_left (last : Nat) (leaves : Leaves levels level (last + 1)) :
    current levels level (last + 1) = ∅ := by
  refine Finset.eq_empty_of_forall_notMem fun position member => ?_
  obtain ⟨_, bound, here, kept⟩ := mem_current.mp member
  rcases Nat.lt_or_eq_of_le bound with before | rfl
  · exact kept (last + 1) before (Nat.le_refl _) leaves
  · have shallower := leaves.2
    omega

/-- An item of another level that does not leave this one changes nothing. -/
theorem current_other (last : Nat) (other : levels (last + 1) ≠ level)
    (stays : ¬ Leaves levels level (last + 1)) :
    current levels level (last + 1) = current levels level last := by
  ext position
  rw [mem_current, mem_current]
  constructor
  · rintro ⟨positive, bound, here, kept⟩
    rcases Nat.lt_or_eq_of_le bound with before | rfl
    · exact ⟨positive, Nat.le_of_lt_succ before, here, fun later above below => kept later above (by omega)⟩
    · exact absurd here other
  · rintro ⟨positive, bound, here, kept⟩
    refine ⟨positive, by omega, here, fun later above below => ?_⟩
    rcases Nat.lt_or_eq_of_le below with before | rfl
    · exact kept later above (Nat.le_of_lt_succ before)
    · exact stays

/-- What one more item does to the count of a level. -/
theorem current_card_succ (levels : Nat → Int) (level : Int) (last : Nat) :
    (current levels level (last + 1)).card =
      if level = levels (last + 1) then (current levels level last).card + 1
      else if level = levels last ∧ levels (last + 1) < level then 0
      else (current levels level last).card := by
  split
  · next same =>
      have fresh : last + 1 ∉ current levels level last := fun member => by
        have bound := (mem_current.mp member).2.1
        omega
      rw [current_same last same.symm, Finset.card_insert_of_notMem fresh]
  · next other =>
      split
      · next left =>
          rw [current_left last ⟨left.1.symm, left.2⟩, Finset.card_empty]
      · next stays =>
          rw [current_other last (Ne.symm other) fun leaves => stays ⟨leaves.1.symm, leaves.2⟩]

/-! ## Runs -/

theorem behind_level (start : levels 0 = 0) (count : Nat) : (behind levels count).level = levels count := by
  cases count with
  | zero => exact start.symm
  | succ count => rfl

/-- The counters hold the counts of all levels. -/
theorem count_of_behind (start : levels 0 = 0) (level : Int) (count : Nat) :
    countOf (behind levels count).counts level = (current levels level count).card := by
  induction count with
  | zero => rfl
  | succ count ih => rw [behind, count_of_next_eq, behind_level start, ih, current_card_succ]

/-- The results for the items that follow the first ones. -/
theorem run_behind {rest : List Int} {count : Nat}
    (follow : ∀ index, (known : index < rest.length) → rest[index] = levels (count + index + 1)) :
    run (behind levels count) rest = (List.range' count rest.length).map fun before =>
      (behind levels before).next (levels (before + 1)) := by
  induction rest generalizing count with
  | nil => rfl
  | cons level rest ih =>
      have first : level = levels (count + 1) := follow 0 (Nat.zero_lt_succ _)
      have later := @ih (count + 1) fun index known => by
        have next := follow (index + 1) (Nat.succ_lt_succ known)
        rwa [List.getElem_cons_succ, ← Nat.add_assoc, Nat.add_right_comm count index 1] at next
      rw [run, List.length_cons, List.range'_succ, List.map_cons, first]
      exact congrArg _ later

theorem level_at_succ {levels : List Int} {index : Nat} (known : index < levels.length) :
    levelAt levels (index + 1) = levels[index] := by
  simp [levelAt, known]

/-- The numbers of items are the counts of their levels, and the count of a level starts anew where that
level is left for a shallower one and nowhere else. -/
theorem run_counts_current (levels : List Int) :
    (run {} levels).map Prod.fst = (List.range' 1 levels.length).map (fun position =>
        (current (levelAt levels) (levelAt levels position) position).card) ∧
      ∀ level position, (current (levelAt levels) level (position + 1)).card =
        if level = levelAt levels (position + 1) then (current (levelAt levels) level position).card + 1
        else if level = levelAt levels position ∧ levelAt levels (position + 1) < level then 0
        else (current (levelAt levels) level position).card := by
  refine ⟨?_, current_card_succ (levelAt levels)⟩
  have follow : ∀ index, (known : index < levels.length) → levels[index] = levelAt levels (0 + index + 1) := by
    intro index known
    rw [Nat.zero_add, level_at_succ known]
  have results : run {} levels = _ := run_behind follow
  rw [results, List.map_map, List.range'_succ_left, List.map_map]
  refine List.map_congr_left fun before _ => ?_
  have counted := @count_of_behind (levelAt levels) rfl (levelAt levels (before + 1)) before
  rw [Function.comp_apply, Function.comp_apply, next_number, counted,
    current_card_succ, if_pos rfl]

-- The second level is left for the third one, so the first item on the way back leaves its number.
example : (run {} [1, 2, 3, 1, 2]).map Prod.fst = [1, 1, 1, 2, 2] := by decide

end Wikidown.Layout.Counters
