import Wikidown.Text.Lines

/-!
Code in a Markdown page. A fence is a line that opens or closes code; inside a quote it stands
behind the marks of the quote. The lines of a page, with their ends, are cut into stretches of code
and stretches of other text.
-/

namespace Wikidown.Page

set_option autoImplicit false

/-- The characters that end a line of a page. -/
def isLineEnd (c : Char) : Bool :=
  let point := c.toNat
  (0x0A ≤ point && point ≤ 0x0D) || (0x1C ≤ point && point ≤ 0x1E) || point == 0x85 ||
    point == 0x2028 || point == 0x2029

/-- The lines of a page, each with its end; a carriage return and a line feed end a line
together. -/
def wholeLines : Text → List Text
  | [] => []
  | '\r' :: '\n' :: text => ['\r', '\n'] :: wholeLines text
  | c :: text =>
      if isLineEnd c then [c] :: wholeLines text
      else
        match wholeLines text with
        | [] => [[c]]
        | line :: more => (c :: line) :: more

/-- Whether a line is a fence, with or without the marks of quotes before it. -/
def isFence : Text → Bool
  | '>' :: ' ' :: line => isFence line
  | '>' :: line => isFence line
  | line => startsWith "\x60\x60\x60".toList line

/-- Lines with whether they belong to code: the fences themselves do, and what stands between an
opening and a closing one. -/
def classify : (inCode : Bool) → List Text → List (Bool × Text)
  | _, [] => []
  | inCode, line :: rest =>
      (inCode || isFence line, line) :: classify (inCode != isFence line) rest

/-- A stretch of a page that is code as a whole or holds no code. -/
structure Stretch where
  isCode : Bool
  text : Text
deriving DecidableEq, Repr

/-- Neighbouring lines of one class make one stretch. -/
def merge : List (Bool × Text) → List Stretch
  | [] => []
  | (isCode, line) :: rest =>
      match merge rest with
      | [] => [⟨isCode, line⟩]
      | next :: more =>
          if next.isCode = isCode then ⟨isCode, line ++ next.text⟩ :: more
          else ⟨isCode, line⟩ :: next :: more

/-- The stretches of a page in order. -/
def stretches (content : Text) : List Stretch := merge (classify false (wholeLines content))

theorem whole_lines_flatten (text : Text) : (wholeLines text).flatten = text := by
  fun_induction wholeLines text <;> simp_all

theorem classify_text (inCode : Bool) (content : List Text) :
    (classify inCode content).map Prod.snd = content := by
  induction content generalizing inCode with
  | nil => rfl
  | cons line rest induction => simp [classify, induction]

theorem merge_text (marked : List (Bool × Text)) :
    (merge marked).flatMap Stretch.text = (marked.map Prod.snd).flatten := by
  induction marked with
  | nil => rfl
  | cons first rest induction =>
      obtain ⟨isCode, line⟩ := first
      rw [List.map_cons, List.flatten_cons, ← induction]
      simp only [merge]
      split
      · next empty => simp [empty]
      · next next more shape =>
          rw [shape]
          split <;> simp

/-- The stretches of a page lose nothing of it. -/
theorem stretches_text (content : Text) :
    (stretches content).flatMap Stretch.text = content := by
  rw [stretches, merge_text, classify_text, whole_lines_flatten]

end Wikidown.Page
