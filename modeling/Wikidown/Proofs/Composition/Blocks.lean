import Wikidown.Proofs.Layout.Plain
import Wikidown.Proofs.Normalize
import Wikidown.Proofs.Placeholder.Spacing

/-!
# Documents made of blocks

Headings, paragraphs, unordered lists, code and quotes may follow each other in any order, with a blank
line between each two of them. How such a document looks at a stage of the conversion is what each of
its blocks looks like there, and those lines depend on the other blocks by one thing only: how many
parts of a kind have been numbered before.
-/

namespace Wikidown

set_option autoImplicit false

/-- Stars and a title. -/
structure Heading where
  deeper : Nat
  title : Line
  whole : '\n' ∉ title

/-- Lines of text. -/
structure Paragraph where
  content : List Line
  nonempty : content ≠ []
  whole : ∀ line ∈ content, '\n' ∉ line
  isText : ∀ line ∈ content, Masked.isParagraph line = true
  uncoded : ∀ line ∈ content, ¬ Masked.codeShape.opening <+: line
  unquoted : ∀ line ∈ content, ¬ Masked.quoteShape.opening <+: line

/-- Dashes and an item. Without the item it is a horizontal rule. -/
structure ListLine where
  deeper : Nat
  item : Line
  whole : '\n' ∉ item
  undashed : item.head? ≠ some '-'

structure UnorderedList where
  content : List ListLine
  nonempty : content ≠ []

structure CodeBlock where
  body : Text
  unclosed : ¬ Masked.codeShape.closing <:+: body

structure QuoteBlock where
  body : Text
  unclosed : ¬ Masked.quoteShape.closing <:+: body
  uncoded : ∀ line ∈ lines body, ¬ Masked.codeShape.opening <+: line

inductive Block where
  | heading (heading : Heading)
  | paragraph (paragraph : Paragraph)
  | list (list : UnorderedList)
  | code (code : CodeBlock)
  | quote (quote : QuoteBlock)

def Heading.source (heading : Heading) : Line :=
  List.replicate (heading.deeper + 1) '*' ++ ' ' :: heading.title

def Heading.rendered (heading : Heading) : Line :=
  Layout.escape
    (List.replicate (heading.deeper + 1) '#' ++ ' ' :: Inline.convert (trim heading.title))

def ListLine.source (line : ListLine) : Line :=
  List.replicate (line.deeper + 1) '-' ++ line.item

def ListLine.rendered (line : ListLine) : Line :=
  if line.item = [] then line.source
  else Layout.escape
    (List.replicate (4 * line.deeper) ' ' ++ "- ".toList ++ trim (Inline.convert line.item))

namespace Block

def source : Block → Text
  | .heading line => line.source
  | .paragraph run => unlines run.content
  | .list run => unlines (run.content.map ListLine.source)
  | .code block => Masked.codeShape.opening ++ block.body ++ Masked.codeShape.closing
  | .quote block => Masked.quoteShape.opening ++ block.body ++ Masked.quoteShape.closing

def rendered : Block → Text
  | .heading line => line.rendered
  | .paragraph run => unlines (run.content.map renderParagraph)
  | .list run => unlines (run.content.map ListLine.rendered)
  | .code block => fenced block.body
  | .quote block => cited (Inline.convert (trim block.body))

/-- The texts of blocks with a blank line between each two of them. -/
def composed (written : Block → Text) (blocks : List Block) : Text :=
  doubleFeed.intercalate (blocks.map written)

/-- The kind of the parts that a block is masked as, if it is. -/
def kind? : Block → Option Kind
  | .heading _ | .list _ => none
  | .paragraph _ => some .paragraph
  | .code _ => some .code
  | .quote _ => some .quote

/-- The parts that a block is masked as. -/
def contents : Block → List Text
  | .heading _ | .list _ => []
  | .paragraph run => run.content
  | .code block => [block.body]
  | .quote block => [block.body]

def parts (kind : Kind) (block : Block) : List Text :=
  if block.kind? = some kind then block.contents else []

/-- How many parts of each kind have a number behind a block, if `before` many have one before it. -/
def next (before : Kind → Nat) (block : Block) : Kind → Nat :=
  fun kind => before kind + (block.parts kind).length

/-- The parts of a block as `shown` shows them. -/
def numbered (shown : Kind → Nat → Text) (before : Kind → Nat) (block : Block) (kind : Kind) :
    List Text :=
  (List.range' (before kind) block.contents.length).map (shown kind)

/-- The lines of a block when the parts of some kinds are masked. -/
def masked (kinds : List Kind) (before : Kind → Nat) (block : Block) : List Line :=
  match block.kind? with
  | some kind => if kind ∈ kinds then block.numbered token before kind else lines block.source
  | none => lines block.source

/-- The lines of a rendered block, with `shown` for its parts. -/
def written (shown : Kind → Nat → Text) (before : Kind → Nat) (block : Block) : List Text :=
  match block.kind? with
  | some kind => block.numbered shown before kind
  | none => lines block.rendered

/-- The lines of a document: those of each block and an empty one behind them, and one at the end. -/
def sequence (shown : (Kind → Nat) → Block → List Line) (before : Kind → Nat) :
    List Block → List Line
  | [] => [[]]
  | block :: rest => shown before block ++ [] :: sequence shown (block.next before) rest

/-- The text of a page: rendered blocks with `shown` for their parts, and a blank line behind each. -/
def paged (shown : Kind → Nat → Text) (before : Kind → Nat) : List Block → Text
  | [] => []
  | block :: rest =>
      unlines (block.written shown before) ++ (doubleFeed ++ paged shown (block.next before) rest)

theorem composed_singleton (written : Block → Text) (block : Block) :
    composed written [block] = written block := by
  simp [composed]

theorem composed_cons {written : Block → Text} {block : Block} {rest : List Block}
    (nonempty : rest ≠ []) :
    composed written (block :: rest) = written block ++ (doubleFeed ++ composed written rest) := by
  rw [composed, List.map_cons, List.intercalate_cons_of_ne_nil (by simpa using nonempty),
    List.append_assoc, ← composed]

theorem composed_inside {written : Block → Text} {block : Block} {blocks : List Block}
    (member : block ∈ blocks) : written block <:+: composed written blocks := by
  induction blocks with
  | nil => exact absurd member List.not_mem_nil
  | cons first rest ih =>
      by_cases last : rest = []
      · rw [last, List.mem_singleton] at member
        rw [last, member, composed_singleton]
      · rw [composed_cons last]
        rcases List.mem_cons.mp member with rfl | later
        · exact List.infix_append_of_infix_left List.infix_rfl
        · exact (ih later).trans
            (List.infix_append_of_infix_right (List.infix_append_of_infix_right List.infix_rfl))

theorem lines_heading (heading : Heading) : lines heading.source = [heading.source] := by
  refine lines_of_no_newline ?_
  simp [Heading.source, heading.whole]

theorem list_line_whole (line : ListLine) : '\n' ∉ line.source := by
  simp [ListLine.source, line.whole]

theorem lines_list (list : UnorderedList) :
    lines (unlines (list.content.map ListLine.source)) = list.content.map ListLine.source := by
  refine lines_unlines (by simpa using list.nonempty) fun line member => ?_
  obtain ⟨one, _, rfl⟩ := List.mem_map.mp member
  exact list_line_whole one

theorem lines_paragraph (paragraph : Paragraph) :
    lines (unlines paragraph.content) = paragraph.content :=
  lines_unlines paragraph.nonempty paragraph.whole

section Sequence

variable {shown other : (Kind → Nat) → Block → List Line} {before : Kind → Nat} {blocks : List Block}

theorem sequence_ne_nil : sequence shown before blocks ≠ [] := by
  cases blocks <;> simp [sequence]

theorem sequence_congr (same : ∀ block ∈ blocks, ∀ before, shown before block = other before block) :
    sequence shown before blocks = sequence other before blocks := by
  induction blocks generalizing before with
  | nil => rfl
  | cons block rest ih =>
      rw [List.forall_mem_cons] at same
      rw [sequence, sequence, same.1, ih same.2]

theorem mem_sequence {line : Line} (member : line ∈ sequence shown before blocks) :
    line = [] ∨ ∃ block ∈ blocks, ∃ before, line ∈ shown before block := by
  induction blocks generalizing before with
  | nil => exact .inl (List.mem_singleton.mp member)
  | cons block rest ih =>
      rw [sequence, List.mem_append, List.mem_cons] at member
      rcases member with here | rfl | later
      · exact .inr ⟨block, List.mem_cons_self, before, here⟩
      · exact .inl rfl
      · rcases ih later with empty | ⟨one, inside, place, here⟩
        · exact .inl empty
        · exact .inr ⟨one, List.mem_cons_of_mem block inside, place, here⟩

theorem flatMap_sequence (change : Line → List Line) (empty : change [] = [[]]) :
    (sequence shown before blocks).flatMap change =
      sequence (fun before block => (shown before block).flatMap change) before blocks := by
  induction blocks generalizing before with
  | nil => rw [sequence, List.flatMap_singleton, empty, sequence]
  | cons block rest ih =>
      rw [sequence, List.flatMap_append, List.flatMap_cons, empty, ih]
      rfl

/-- The lines of a document that is made of blocks, as far as the end of a normalised one. -/
theorem lines_composed (nonempty : blocks ≠ []) :
    lines (composed source blocks) ++ [[], []] =
      sequence (fun _ block => lines block.source) before blocks := by
  induction blocks generalizing before with
  | nil => contradiction
  | cons block rest ih =>
      by_cases last : rest = []
      · rw [last, composed_singleton]
        rfl
      · have split : lines (composed source (block :: rest)) =
            lines block.source ++ [] :: lines (composed source rest) := by
          have feeds : doubleFeed ++ composed source rest = '\n' :: '\n' :: composed source rest := rfl
          rw [composed_cons last, feeds, lines_append_newline, lines_cons_newline]
        rw [split, List.append_assoc, List.cons_append, ih last]
        rfl

end Sequence

end Block

end Wikidown
