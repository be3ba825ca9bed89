import Wikidown.Text.Basic

/-!
A text as the list of its lines. `pieces` and `joined` cut at a separator and put it back; every
text has at least one piece, and cutting loses nothing.
-/

namespace Wikidown

set_option autoImplicit false

/-- The pieces between the separators of a text; two separators in a row enclose an empty piece. -/
def pieces (separator : Char) : Text → List Text
  | [] => [[]]
  | c :: text =>
      if c = separator then [] :: pieces separator text
      else
        match pieces separator text with
        | [] => [[c]]
        | piece :: more => (c :: piece) :: more

def joined (separator : Char) : List Text → Text
  | [] => []
  | [piece] => piece
  | piece :: more => piece ++ separator :: joined separator more

def lines (text : Text) : List Line := pieces '\n' text

def unlines (content : List Line) : Text := joined '\n' content

/-- Apply a change of the list of lines to a text. -/
def onLines (change : List Line → List Line) (text : Text) : Text := unlines (change (lines text))

/-- Replace each line of a text by lines of its own. -/
def replaceLines (render : Line → List Line) (text : Text) : Text :=
  onLines (·.flatMap render) text

theorem pieces_ne_nil (separator : Char) (text : Text) : pieces separator text ≠ [] := by
  cases text with
  | nil => simp [pieces]
  | cons c text =>
      simp only [pieces]
      split
      · simp
      · split <;> simp

theorem joined_cons {separator : Char} {piece : Text} {more : List Text} (some : more ≠ []) :
    joined separator (piece :: more) = piece ++ separator :: joined separator more := by
  cases more with
  | nil => contradiction
  | cons => rfl

theorem joined_pieces (separator : Char) (text : Text) :
    joined separator (pieces separator text) = text := by
  induction text with
  | nil => rfl
  | cons c text induction =>
      simp only [pieces]
      split
      · next same =>
          rw [joined_cons (pieces_ne_nil separator text), induction]
          simp [same]
      · split
        · next empty => exact absurd empty (pieces_ne_nil separator text)
        · next piece more shape =>
            rw [shape] at induction
            rw [← induction]
            cases more <;> simp [joined]

end Wikidown
