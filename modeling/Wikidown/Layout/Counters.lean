/-!
The numbers of the items of one ordered list. Each level counts on its own; leaving a level for a
shallower one starts the level that is left anew.
-/

namespace Wikidown.Layout

set_option autoImplicit false

/-- The last number of each level that has one, by level, and the level of the last item. -/
structure Counters where
  counts : List (Int × Nat) := []
  level : Int := 0
deriving DecidableEq, Repr

namespace Counters

/-- Set the number of a level; the levels stay in ascending order. -/
def setCount (level : Int) (number : Nat) : List (Int × Nat) → List (Int × Nat)
  | [] => [(level, number)]
  | (other, known) :: rest =>
      if level < other then (level, number) :: (other, known) :: rest
      else if level = other then (level, number) :: rest
      else (other, known) :: setCount level number rest

def countOf (counts : List (Int × Nat)) (level : Int) : Nat := (counts.lookup level).getD 0

/-- The number of the next item, which is at `level`. -/
def next (counters : Counters) (level : Int) : Nat × Counters :=
  let counts :=
    if level < counters.level then setCount counters.level 0 counters.counts else counters.counts
  let number := countOf counts level + 1
  (number, { counts := setCount level number counts, level := level })

/-- The numbers of items at the given levels, each with the counters after it. -/
def run (counters : Counters) : List Int → List (Nat × Counters)
  | [] => []
  | level :: rest => counters.next level :: run (counters.next level).2 rest

end Counters

end Wikidown.Layout
