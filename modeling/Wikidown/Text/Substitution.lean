import Wikidown.Text.Basic

/-!
Substitutions replace every place of a text where something is recognised, from left to right and
without overlap. What a substitution recognises is never empty, so a pass over a text ends.
-/

namespace Wikidown

set_option autoImplicit false

/-- A substitution recognises something at the front of a text: `step?` gives what is written in its
place and the text that is left. -/
structure Substitution where
  step? : Text → Option (Text × Text)
  shorter : ∀ {text written rest : Text},
    step? text = some (written, rest) → rest.length < text.length

namespace Substitution

/-- One pass of a substitution over a text. -/
def apply (rule : Substitution) : Text → Text
  | [] => []
  | c :: text =>
      match _ : rule.step? (c :: text) with
      | some (written, rest) => written ++ rule.apply rest
      | none => c :: rule.apply text
termination_by text => text.length
decreasing_by
  · exact rule.shorter ‹rule.step? (c :: text) = some (written, rest)›
  · simp

theorem apply_nil (rule : Substitution) : rule.apply [] = [] := by
  rw [apply]

/-- Where something is recognised, what is written for it stands, and the pass goes on behind it. -/
theorem apply_of_some {rule : Substitution} {text written rest : Text}
    (found : rule.step? text = some (written, rest)) :
    rule.apply text = written ++ rule.apply rest := by
  cases text with
  | nil => exact absurd (rule.shorter found) (Nat.not_lt_zero _)
  | cons c text =>
      rw [apply]
      split <;> simp_all

/-- Where nothing is recognised, the next character stays. -/
theorem apply_of_none {rule : Substitution} {c : Char} {text : Text}
    (nothing : rule.step? (c :: text) = none) :
    rule.apply (c :: text) = c :: rule.apply text := by
  rw [apply]
  split <;> simp_all

/-- Apply several substitutions in order, each to the result of the one before. -/
def applyAll (rules : List Substitution) (text : Text) : Text :=
  rules.foldl (fun current rule => rule.apply current) text

/-- Something that begins with a fixed `opening`; `finish?` reads the rest of it. -/
def opened (opening : Text) (finish? : Text → Option (Text × Text)) (visible : opening ≠ [])
    (finish_le : ∀ {text written rest}, finish? text = some (written, rest) →
      rest.length ≤ text.length) : Substitution where
  step? text := (after? opening text).bind finish?
  shorter := by
    intro text written rest found
    obtain ⟨tail, front, finished⟩ := Option.bind_eq_some_iff.mp found
    have bound := finish_le finished
    have size := after_length front
    have positive := List.length_pos_iff.mpr visible
    omega

/-- Write `value` for every occurrence of `pattern`. -/
def literal (pattern value : Text) (visible : pattern ≠ [] := by decide) : Substitution :=
  opened pattern (fun rest => some (value, rest)) visible (by simp)

/-- Something between `opening` and the next `closing` of the same line. -/
def enclosed (opening closing : Text) (render : Text → Text)
    (visible : opening ≠ [] := by decide) : Substitution :=
  opened opening
    (fun text => (upTo? (after? closing) text).map fun (inner, rest) => (render inner, rest))
    visible
    (by
      intro text written rest found
      simp only [Option.map_eq_some_iff, Prod.mk.injEq] at found
      obtain ⟨⟨inner, tail⟩, read, _, rfl⟩ := found
      obtain ⟨middle, rfl, closed⟩ := up_to_found read
      have size := after_length closed
      simp only [List.length_append]
      omega)

/-- Two parts of the same line between `opening` and `closing`: the first ends at the next character
that `separates` accepts, the second at the next `closing`. -/
def pair (opening : Text) (separates : Char → Bool) (closing : Text)
    (render : (first second : Text) → Text) (visible : opening ≠ [] := by decide) : Substitution :=
  opened opening
    (fun text =>
      (upTo? (fun tail => (afterOne? separates tail).bind (upTo? (after? closing))) text).map
        fun (first, second, rest) => (render first second, rest))
    visible
    (by
      intro text written rest found
      simp only [Option.map_eq_some_iff, Prod.mk.injEq] at found
      obtain ⟨⟨first, second, tail⟩, read, _, rfl⟩ := found
      obtain ⟨middle, rfl, separated⟩ := up_to_found read
      obtain ⟨afterSeparator, one, ended⟩ := Option.bind_eq_some_iff.mp separated
      obtain ⟨ending, rfl, closed⟩ := up_to_found ended
      have size := after_length closed
      have step := after_one_length one
      simp only [List.length_append] at step ⊢
      omega)

end Substitution

end Wikidown
