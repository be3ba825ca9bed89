import Wikidown.Text.Lines

/-!
Blocks are runs of lines that begin with an opening and end with a closing. A document is cut into
blocks and the lines between them: each block starts at the first line that can open one and ends
as soon as it can. The first line of a document opens no block.
-/

namespace Wikidown

set_option autoImplicit false

/-- A block starts at a line that begins with `opening` and ends with the first line that ends with
`closing` and stands before lines that `endsBefore` accepts. Of the lines after a block, `inert`
many open no block themselves. -/
structure BlockShape where
  opening : Text
  closing : Text
  endsBefore : List Line → Bool
  inert : List Line → Nat := fun _ => 0

/-- A part of a document: a line of its own, or the lines of a block without the opening of the
first and the closing of the last. -/
inductive Segment where
  | line (content : Line)
  | block (body : List Line)

namespace BlockShape

/-- The last line of a block without its closing, if a block may end with `line` before `rest`. -/
def lastLine? (shape : BlockShape) (line : Line) (rest : List Line) : Option Line :=
  if shape.endsBefore rest then before? shape.closing line else none

/-- The body of a block that goes on with `line`, and the lines after the block. -/
def bodyFrom? (shape : BlockShape) (line : Line) : List Line → Option (List Line × List Line)
  | [] => (shape.lastLine? line []).map fun last => ([last], [])
  | next :: rest =>
      match shape.lastLine? line (next :: rest) with
      | some last => some ([last], next :: rest)
      | none => (shape.bodyFrom? next rest).map fun (body, remaining) => (line :: body, remaining)

/-- The body of the block that `line` opens before `rest`, and the lines after the block. -/
def body? (shape : BlockShape) (line : Line) (rest : List Line) :
    Option (List Line × List Line) :=
  (after? shape.opening line).bind fun first => shape.bodyFrom? first rest

theorem body_from_length {shape : BlockShape} {line : Line} {rest remaining body : List Line}
    (found : shape.bodyFrom? line rest = some (body, remaining)) :
    remaining.length ≤ rest.length := by
  induction rest generalizing line body with
  | nil =>
      simp only [bodyFrom?, Option.map_eq_some_iff, Prod.mk.injEq] at found
      obtain ⟨_, _, _, rfl⟩ := found
      simp
  | cons next rest induction =>
      simp only [bodyFrom?] at found
      split at found
      · simp_all
      · simp only [Option.map_eq_some_iff, Prod.mk.injEq] at found
        obtain ⟨⟨inner, tail⟩, more, _, rfl⟩ := found
        exact Nat.le_succ_of_le (induction more)

theorem body_length {shape : BlockShape} {line : Line} {rest remaining body : List Line}
    (found : shape.body? line rest = some (body, remaining)) :
    remaining.length ≤ rest.length := by
  obtain ⟨first, _, more⟩ := Option.bind_eq_some_iff.mp found
  exact body_from_length more

/-- The segments of lines each of which may open a block. -/
def segmentsFrom (shape : BlockShape) : List Line → List Segment
  | [] => []
  | line :: rest =>
      match _ : shape.body? line rest with
      | some (body, remaining) =>
          .block body :: ((remaining.take (shape.inert remaining)).map .line ++
            shape.segmentsFrom (remaining.drop (shape.inert remaining)))
      | none => .line line :: shape.segmentsFrom rest
termination_by content => content.length
decreasing_by
  · have bound := body_length ‹shape.body? line rest = some (body, remaining)›
    simp only [List.length_drop, List.length_cons]
    omega
  · simp

/-- The segments of a document. -/
def segments (shape : BlockShape) : List Line → List Segment
  | [] => []
  | first :: rest => .line first :: shape.segmentsFrom rest

/-- The lines of a block, with its opening and its closing. -/
def blockLines (shape : BlockShape) (body : List Line) : List Line :=
  lines (shape.opening ++ unlines body ++ shape.closing)

/-- Replace each block of a text by lines. -/
def replaceBlocks (shape : BlockShape) (render : List Line → List Line) (text : Text) : Text :=
  onLines
    (fun content => (shape.segments content).flatMap fun
      | .line line => [line]
      | .block body => render body)
    text

end BlockShape

end Wikidown
