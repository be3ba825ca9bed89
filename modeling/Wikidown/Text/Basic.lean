/-!
Texts are lists of characters. This module holds the ways to look at the front or at the end of a
text that every notation of the library is read with: a fixed opening, a fixed closing, and the
shortest stretch of a line that something stands after.
-/

namespace Wikidown

set_option autoImplicit false

abbrev Text := List Char

/-- A line is a text that stands between two line feeds. -/
abbrev Line := Text

/-- What follows `opening` in `text`, where `text` begins with it. -/
def after? : (opening text : Text) → Option Text
  | [], text => some text
  | _ :: _, [] => none
  | expected :: opening, c :: text => if expected = c then after? opening text else none

/-- What precedes `closing` in `text`, where `text` ends with it. -/
def before? (closing text : Text) : Option Text :=
  (after? closing.reverse text.reverse).map List.reverse

def startsWith (opening text : Text) : Bool := (after? opening text).isSome

def endsWith (closing text : Text) : Bool := (before? closing text).isSome

/-- Like `after?`, with the letters of `opening` in lower case and those of `text` in either
case. -/
def afterAnyCase? : (opening text : Text) → Option Text
  | [], text => some text
  | _ :: _, [] => none
  | expected :: opening, c :: text =>
      if expected = c.toLower then afterAnyCase? opening text else none

/-- The shortest stretch of the current line after which `next?` applies, together with what
`next?` gives there. -/
def upTo? {Found : Type} (next? : Text → Option Found) : Text → Option (Text × Found)
  | [] => (next? []).map fun found => ([], found)
  | c :: text =>
      match next? (c :: text) with
      | some found => some ([], found)
      | none =>
          if c = '\n' then none
          else (upTo? next? text).map fun (inner, found) => (c :: inner, found)

/-- The rest of a text after one character that `test` accepts. -/
def afterOne? (test : Char → Bool) : Text → Option Text
  | [] => none
  | c :: text => if test c then some text else none

theorem after_eq_some {opening text rest : Text} :
    after? opening text = some rest ↔ text = opening ++ rest := by
  induction opening generalizing text with
  | nil => simp [after?, eq_comm]
  | cons expected opening induction =>
      cases text with
      | nil => simp [after?]
      | cons c text =>
          by_cases same : expected = c
          · simp [after?, same, induction]
          · simp [after?, same, Ne.symm same]

theorem before_eq_some {closing text rest : Text} :
    before? closing text = some rest ↔ text = rest ++ closing := by
  simp only [before?, Option.map_eq_some_iff, after_eq_some]
  constructor
  · rintro ⟨_, shape, rfl⟩
    simpa using congrArg List.reverse shape
  · rintro rfl
    exact ⟨rest.reverse, by simp, by simp⟩

theorem after_length {opening text rest : Text} (found : after? opening text = some rest) :
    text.length = opening.length + rest.length := by
  rw [after_eq_some.mp found, List.length_append]

theorem after_any_case_length {opening text rest : Text}
    (found : afterAnyCase? opening text = some rest) :
    text.length = opening.length + rest.length := by
  induction opening generalizing text with
  | nil => simp_all [afterAnyCase?]
  | cons expected opening induction =>
      cases text with
      | nil => simp [afterAnyCase?] at found
      | cons c text =>
          simp only [afterAnyCase?] at found
          split at found
          · simp [induction found, Nat.add_right_comm]
          · simp at found

theorem after_one_length {test : Char → Bool} {text rest : Text}
    (found : afterOne? test text = some rest) : text.length = rest.length + 1 := by
  cases text with
  | nil => simp [afterOne?] at found
  | cons c text =>
      simp only [afterOne?] at found
      split at found
      · simp_all
      · simp at found

/-- What `upTo?` finds, `next?` found in a text that is no longer. -/
theorem up_to_found {Found : Type} {next? : Text → Option Found} {text inner : Text}
    {found : Found} (success : upTo? next? text = some (inner, found)) :
    ∃ tail, text = inner ++ tail ∧ next? tail = some found := by
  induction text generalizing inner with
  | nil =>
      simp only [upTo?, Option.map_eq_some_iff, Prod.mk.injEq] at success
      obtain ⟨_, step, rfl, rfl⟩ := success
      exact ⟨[], rfl, step⟩
  | cons c text induction =>
      simp only [upTo?] at success
      split at success
      · next step =>
          simp only [Option.some.injEq, Prod.mk.injEq] at success
          obtain ⟨rfl, rfl⟩ := success
          exact ⟨c :: text, rfl, step⟩
      · split at success
        · simp at success
        · simp only [Option.map_eq_some_iff, Prod.mk.injEq] at success
          obtain ⟨⟨_, _⟩, step, rfl, rfl⟩ := success
          obtain ⟨tail, rfl, here⟩ := induction step
          exact ⟨tail, rfl, here⟩

end Wikidown
