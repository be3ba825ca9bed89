import Wikidown.Layout.Counters

/-!
# Numbers of items

Each level of a list counts from one. Setting the count of one level leaves the counts of the others,
so a level that no item has been at still counts from one, however often other levels start anew.
-/

namespace Wikidown.Layout.Counters

set_option autoImplicit false

theorem count_of_set_count (level other : Int) (number : Nat) (counts : List (Int × Nat)) :
    countOf (setCount level number counts) other =
      if other = level then number else countOf counts other := by
  have cons (known : Int) (value : Nat) (rest : List (Int × Nat)) :
      countOf ((known, value) :: rest) other = if other = known then value else countOf rest other := by
    unfold countOf
    by_cases same : other = known
    · simp [same]
    · have apart : (other == known) = false := beq_false_of_ne same
      rw [List.lookup_cons, apart, if_neg same]
  induction counts with
  | nil => exact cons level number []
  | cons entry rest ih =>
      obtain ⟨known, value⟩ := entry
      rw [setCount]
      split
      · exact cons level number _
      · split
        · next same =>
            subst same
            rw [cons, cons]
            split <;> rfl
        · next apart =>
            rw [cons, cons, ih]
            by_cases here : other = known
            · have strange : other ≠ level := fun same => apart (same ▸ here)
              simp [here, Ne.symm apart]
            · simp [here]

/-- An item at another level leaves a level that has not been counted so. -/
theorem count_of_next {counters : Counters} {level other : Int} (apart : level ≠ other)
    (fresh : countOf counters.counts other = 0) : countOf (counters.next level).2.counts other = 0 := by
  simp only [next]
  rw [count_of_set_count, if_neg (Ne.symm apart)]
  split
  · rw [count_of_set_count, fresh]
    split <;> rfl
  · exact fresh

theorem next_of_fresh {counters : Counters} {level : Int} (fresh : countOf counters.counts level = 0) :
    (counters.next level).1 = 1 := by
  simp only [next]
  split
  · rw [count_of_set_count, fresh]
    split <;> rfl
  · rw [fresh]

/-- The number of an item is the one behind the last that its level has given. -/
theorem next_number (counters : Counters) (level : Int) :
    (counters.next level).1 = countOf counters.counts level + 1 := by
  simp only [next]
  split
  · next shallower => rw [count_of_set_count, if_neg (Int.ne_of_lt shallower)]
  · rfl

theorem count_of_next_same (counters : Counters) (level : Int) :
    countOf (counters.next level).2.counts level = countOf counters.counts level + 1 := by
  rw [← next_number]
  simp only [next, count_of_set_count, if_true]

/-- What an item does to the count of a level: an item of the level is counted, and one that leaves the
level for a shallower one starts it anew. -/
theorem count_of_next_eq (counters : Counters) (level other : Int) :
    countOf (counters.next level).2.counts other =
      if other = level then countOf counters.counts other + 1
      else if other = counters.level ∧ level < other then 0
      else countOf counters.counts other := by
  by_cases same : other = level
  · rw [if_pos same, same, count_of_next_same]
  · simp only [next, count_of_set_count, if_neg same]
    by_cases left : other = counters.level
    · subst left
      by_cases shallower : level < counters.level <;> simp [shallower, count_of_set_count]
    · by_cases shallower : level < counters.level <;> simp [shallower, left, count_of_set_count]

/-- A level is not left for a deeper one. -/
theorem count_of_next_deeper {level deeper : Int} (counters : Counters) (below : level < deeper) :
    countOf (counters.next deeper).2.counts level = countOf counters.counts level := by
  simp only [next, count_of_set_count]
  rw [if_neg (Int.ne_of_lt below)]
  split
  · next shallower => rw [count_of_set_count, if_neg (by omega)]
  · rfl

/-- Every item has a number. -/
theorem run_length (counters : Counters) (levels : List Int) :
    (counters.run levels).length = levels.length := by
  induction levels generalizing counters with
  | nil => rfl
  | cons level levels ih => exact congrArg (· + 1) (ih _)

/-- The items of the first level of a list count on past all deeper ones. -/
theorem run_shallowest (counters : Counters) {level : Int} {levels : List Int}
    (deeper : ∀ other ∈ levels, level ≤ other) :
    ((levels.zip ((counters.run levels).map Prod.fst)).filter fun item => item.1 == level).map Prod.snd =
      List.range' (countOf counters.counts level + 1) (levels.count level) := by
  induction levels generalizing counters with
  | nil => rfl
  | cons other levels ih =>
      rw [List.forall_mem_cons] at deeper
      have behind := ih (counters.next other).2 deeper.2
      rw [run, List.map_cons, List.zip_cons_cons]
      by_cases same : other = level
      · subst same
        rw [List.filter_cons_of_pos (by simp), List.map_cons, behind, count_of_next_same,
          next_number, List.count_cons_self, List.range'_succ]
      · have below : level < other := by omega
        rw [List.filter_cons_of_neg (by simpa using same), behind, count_of_next_deeper counters below,
          List.count_cons_of_ne same]

/-- The first item of a level has the number one. -/
theorem run_first {counters : Counters} {level : Int} {front : List Int} (rest : List Int)
    (fresh : countOf counters.counts level = 0) (first : level ∉ front) :
    ((counters.run (front ++ level :: rest)).map Prod.fst)[front.length]? = some 1 := by
  induction front generalizing counters with
  | nil => exact congrArg some (next_of_fresh fresh)
  | cons other front ih =>
      rw [List.mem_cons, not_or] at first
      exact ih (count_of_next (Ne.symm first.1) fresh) first.2

end Wikidown.Layout.Counters
