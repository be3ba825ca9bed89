import Wikidown.Proofs.Block
import Wikidown.Proofs.Placeholder.Carried

/-!
# Placeholders in blocks

A rule for blocks keeps the placeholders of a document if it keeps those of each block. `CarriesSome`
leaves open that some are lost.
-/

namespace Wikidown

set_option autoImplicit false

/-- Lines that carry placeholders of a list in its order, all of them if `spared`. -/
def CarriesSome (promote : Bool) (word : Text) (fronts : List Text) (spared : Prop)
    (content : List Line) (keys : List (Kind × Nat)) : Prop :=
  ∃ kept, kept.Sublist keys ∧ (spared → kept = keys) ∧ Carries promote word fronts content kept

variable {promote : Bool} {word : Text} {fronts wider : List Text} {content other : List Line}
  {keys more : List (Kind × Nat)} {spared sparedToo : Prop}

theorem Carries.all (spared : Prop) (carries : Carries promote word fronts content keys) :
    CarriesSome promote word fronts spared content keys :=
  ⟨keys, List.Sublist.refl _, fun _ => rfl, carries⟩

namespace CarriesSome

theorem append (first : CarriesSome promote word fronts spared content keys)
    (second : CarriesSome promote word fronts sparedToo other more) :
    CarriesSome promote word fronts (spared ∧ sparedToo) (content ++ other) (keys ++ more) := by
  obtain ⟨kept, part, same, here⟩ := first
  obtain ⟨keptToo, partToo, sameToo, there⟩ := second
  refine ⟨kept ++ keptToo, part.append partToo, fun both => ?_, here.append there⟩
  rw [same both.1, sameToo both.2]

theorem imp (weaker : sparedToo → spared)
    (carries : CarriesSome promote word fronts spared content keys) :
    CarriesSome promote word fronts sparedToo content keys := by
  obtain ⟨kept, part, same, here⟩ := carries
  exact ⟨kept, part, fun premise => same (weaker premise), here⟩

end CarriesSome

namespace BlockShape

/-- The lines that a rule for blocks writes for a segment. -/
def result (render : List Line → List Line) : Segment → List Line
  | .line content => [content]
  | .block body => render body

theorem replace_blocks_eq (shape : BlockShape) (render : List Line → List Line) (text : Text) :
    shape.replaceBlocks render text =
      unlines ((shape.segments (lines text)).flatMap (result render)) := by
  refine congrArg unlines (List.flatMap_congr fun segment _ => ?_)
  cases segment <;> rfl

theorem result_carries {shape : BlockShape} {render : List Line → List Line}
    {spares : List Line → Prop} {segments : List Segment}
    (known : ∀ front ∈ fronts, front ∈ wider)
    (each : ∀ body, .block body ∈ segments → ∀ kept,
      Carries promote word fronts (shape.blockLines body) kept →
        CarriesSome promote word wider (spares body) (render body) kept)
    (carries : Carries promote word fronts (segments.flatMap shape.source) keys) :
    CarriesSome promote word wider (∀ body, .block body ∈ segments → spares body)
      (segments.flatMap (result render)) keys := by
  induction segments generalizing keys with
  | nil =>
      cases carries
      exact Carries.nil.all _
  | cons segment segments ih =>
      rw [List.flatMap_cons] at carries ⊢
      obtain ⟨first, later, rfl, here, rest⟩ := carries.of_append
      have behind := ih (fun body member => each body (List.mem_cons_of_mem _ member)) rest
      cases segment with
      | line content =>
          refine (((here.mono known).all True).append behind).imp fun spared => ⟨trivial, ?_⟩
          exact fun body member => spared body (List.mem_cons_of_mem _ member)
      | block body =>
          refine ((each body (by simp) first here).append behind).imp fun spared => ?_
          exact ⟨spared body (by simp), fun other member => spared other (by simp [member])⟩

/-- A rule for blocks keeps what it keeps of each block. -/
theorem replace_blocks_carries {shape : BlockShape} {render : List Line → List Line}
    (spares : List Line → Prop) {text : Text} (traced : Traced word)
    (wholeOpening : '\n' ∉ shape.opening) (known : ∀ front ∈ fronts, front ∈ wider)
    (whole : ∀ front ∈ wider, '\n' ∉ front)
    (each : ∀ body, .block body ∈ shape.segments (lines text) → ∀ kept,
      Carries promote word fronts (shape.blockLines body) kept →
        CarriesSome promote word wider (spares body) (render body) kept)
    (carries : Carries promote word fronts (lines text) keys) :
    CarriesSome promote word wider
      (∀ body, .block body ∈ shape.segments (lines text) → spares body)
      (lines (shape.replaceBlocks render text)) keys := by
  have cut : (shape.segments (lines text)).flatMap shape.source = lines text :=
    segments_source wholeOpening fun line member => no_newline_of_mem_lines member
  rw [← cut] at carries
  obtain ⟨kept, part, same, here⟩ := result_carries known each carries
  rw [replace_blocks_eq]
  exact ⟨kept, part, same, here.lines_unlines traced whole⟩

/-- A rule for blocks that keeps every placeholder. -/
theorem replace_blocks_carries_all {shape : BlockShape} {render : List Line → List Line}
    {text : Text} (traced : Traced word) (wholeOpening : '\n' ∉ shape.opening)
    (whole : ∀ front ∈ fronts, '\n' ∉ front)
    (each : ∀ body kept, Carries promote word fronts (shape.blockLines body) kept →
      Carries promote word fronts (render body) kept)
    (carries : Carries promote word fronts (lines text) keys) :
    Carries promote word fronts (lines (shape.replaceBlocks render text)) keys := by
  obtain ⟨kept, part, same, here⟩ := replace_blocks_carries (fun _ => True) traced
    wholeOpening (fun front known => known) whole
    (fun body _ kept here => (each body kept here).all _) carries
  rw [← same fun _ _ => trivial]
  exact here

end BlockShape

end Wikidown
