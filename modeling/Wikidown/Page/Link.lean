import Wikidown.Page.Fence
import Wikidown.Page.Index

/-!
The links of a page. A link is a label in brackets and a target in parentheses; after an exclamation
mark the same stands for an image. Outside code, the targets that name pages of the index are
replaced by the files of those pages.
-/

namespace Wikidown.Page

set_option autoImplicit false

/-- A piece of a text: one character, or a link. -/
inductive Piece where
  | char (c : Char)
  | link (label target : Text)
deriving DecidableEq, Repr

def Piece.text : Piece → Text
  | .char c => [c]
  | .link label target => '[' :: (label ++ "](".toList ++ target ++ [')'])

/-- The label and the target of the link that `text` begins with, and what follows it. -/
def readLink? (text : Text) : Option (Text × Text × Text) := do
  let labelled ← after? "[".toList text
  let afterLabel ← after? "](".toList (labelled.dropWhile (· != ']'))
  let inTarget (c : Char) : Bool := c != ')' && c != '\n'
  if (afterLabel.takeWhile inTarget).isEmpty then none
  else do
    let rest ← after? ")".toList (afterLabel.dropWhile inTarget)
    some (labelled.takeWhile (· != ']'), afterLabel.takeWhile inTarget, rest)

theorem read_link_length {text label target rest : Text}
    (found : readLink? text = some (label, target, rest)) : rest.length < text.length := by
  simp only [readLink?, Option.bind_eq_bind, Option.bind_eq_some_iff] at found
  obtain ⟨labelled, opened, afterLabel, named, found⟩ := found
  split at found
  · simp at found
  · obtain ⟨tail, closed, shape⟩ := Option.bind_eq_some_iff.mp found
    simp only [Option.some.injEq, Prod.mk.injEq] at shape
    obtain ⟨_, _, rfl⟩ := shape
    have first : text.length = 1 + labelled.length := after_length opened
    have second : _ = 2 + afterLabel.length := after_length named
    have third : _ = 1 + tail.length := after_length closed
    have labelBound := (List.dropWhile_suffix (l := labelled) (· != ']')).length_le
    have targetBound :=
      (List.dropWhile_suffix (l := afterLabel) fun c => c != ')' && c != '\n').length_le
    omega

/-- What is read as a link is written the same way. -/
theorem read_link_text {text label target rest : Text}
    (found : readLink? text = some (label, target, rest)) :
    (Piece.link label target).text ++ rest = text := by
  simp only [readLink?, Option.bind_eq_bind, Option.bind_eq_some_iff] at found
  obtain ⟨labelled, opened, afterLabel, named, found⟩ := found
  split at found
  · simp at found
  · obtain ⟨tail, closed, shape⟩ := Option.bind_eq_some_iff.mp found
    simp only [Option.some.injEq, Prod.mk.injEq] at shape
    obtain ⟨rfl, rfl, rfl⟩ := shape
    rw [after_eq_some] at opened named closed
    have labelParts := List.takeWhile_append_dropWhile (p := (· != ']')) (l := labelled)
    have targetParts := List.takeWhile_append_dropWhile
      (p := fun c => c != ')' && c != '\n') (l := afterLabel)
    rw [named] at labelParts
    rw [closed] at targetParts
    generalize labelled.takeWhile (· != ']') = label at labelParts ⊢
    generalize afterLabel.takeWhile (fun c => c != ')' && c != '\n') = target at targetParts ⊢
    rw [opened, ← labelParts, ← targetParts]
    simp [Piece.text]

/-- The pieces of a text that stands after the character `previous`. -/
def piecesAfter (previous : Option Char) : Text → List Piece
  | [] => []
  | c :: text =>
      match _ : if previous = some '!' then none else readLink? (c :: text) with
      | some (label, target, rest) => .link label target :: piecesAfter (some ')') rest
      | none => .char c :: piecesAfter (some c) text
termination_by text => text.length
decreasing_by
  · rename_i found
    split at found
    · simp at found
    · exact read_link_length found
  · simp

def linkPieces (text : Text) : List Piece := piecesAfter none text

/-- The pieces of a text lose nothing of it. -/
theorem pieces_after_text (previous : Option Char) (text : Text) :
    (piecesAfter previous text).flatMap Piece.text = text := by
  fun_induction piecesAfter previous text with
  | case1 => rfl
  | case2 previous c text label target rest found induction =>
      split at found
      · simp at found
      · rw [List.flatMap_cons, induction, read_link_text found]
  | case3 previous c text nothing induction =>
      rw [List.flatMap_cons, induction]
      rfl

/-- A piece with the target of a link replaced, if `resolve?` replaces it. -/
def Piece.redirect (resolve? : Text → Option Text) : Piece → Piece
  | .char c => .char c
  | .link label target => .link label ((resolve? target).getD target)

/-- Whether a piece is a link that `resolve?` replaces the target of. -/
def Piece.isRedirected (resolve? : Text → Option Text) : Piece → Bool
  | .char _ => false
  | .link _ target => (resolve? target).isSome

/-- The pieces of a stretch; code holds no links. -/
def Stretch.pieces (stretch : Stretch) : List Piece :=
  if stretch.isCode then stretch.text.map .char else linkPieces stretch.text

/-- The pieces of a page. -/
def pagePieces (content : Text) : List Piece := (stretches content).flatMap Stretch.pieces

/-- A page with its links redirected. -/
def redirect (resolve? : Text → Option Text) (content : Text) : Text :=
  (pagePieces content).flatMap fun piece => (piece.redirect resolve?).text

/-- The number of links of a page that are redirected. -/
def redirected (resolve? : Text → Option Text) (content : Text) : Nat :=
  (pagePieces content).countP (Piece.isRedirected resolve?)

end Wikidown.Page
