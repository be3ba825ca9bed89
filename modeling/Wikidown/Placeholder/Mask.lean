import Wikidown.Block
import Wikidown.Placeholder
import Wikidown.Text.Blank

/-!
Masking puts placeholders in the place of code blocks, quotes and paragraphs, so that the rules of
the layout see only headings, lists, tables and blank lines. Code goes first: a quote may hold
code, but code holds nothing else.
-/

namespace Wikidown

set_option autoImplicit false

/-- A text with placeholders, and the parts they stand for. -/
structure Masked where
  text : Text
  store : Store

namespace Masked

/-- Code and quotes stand between two delimiters, and a line follows the closing one. -/
def delimited (opening closing : Text) : BlockShape where
  opening := opening
  closing := closing
  endsBefore rest := !rest.isEmpty

def codeShape : BlockShape := delimited "\x7bcode\x7d".toList "\x7b/code\x7d".toList

def quoteShape : BlockShape := delimited "\x7bquote\x7d".toList "\x7b/quote\x7d".toList

/-- Put a placeholder in the place of each block, numbered from `next` on. With the lines come the
blocks in their order. -/
def hideBlocks (kind : Kind) : (next : Nat) → List Segment → List Line × List Text
  | _, [] => ([], [])
  | next, .line line :: rest =>
      let (content, parts) := hideBlocks kind next rest
      (line :: content, parts)
  | next, .block body :: rest =>
      let (content, parts) := hideBlocks kind (next + 1) rest
      (token kind next :: content, unlines body :: parts)

/-- The characters that a line of structure begins with. -/
def structural (c : Char) : Bool := "*|-+>)\x60".toList.contains c

/-- Whether a line is text of a paragraph: it begins with neither a blank nor a character of
structure, and no code and no quote stands in its place. -/
def isParagraph : Line → Bool
  | [] => false
  | c :: rest =>
      !structural c && !isBlank c &&
        !startsWith ("\x7b\x7b".toList ++ Kind.code.label) (c :: rest) &&
        !startsWith ("\x7b\x7b".toList ++ Kind.quote.label) (c :: rest)

/-- Put a placeholder in the place of each line of a paragraph, numbered from `next` on. With the
lines come those of the paragraphs in their order. -/
def hideParagraphs : (next : Nat) → List Line → List Line × List Text
  | _, [] => ([], [])
  | next, line :: rest =>
      if isParagraph line then
        let (content, parts) := hideParagraphs (next + 1) rest
        (token .paragraph next :: content, line :: parts)
      else
        let (content, parts) := hideParagraphs next rest
        (line :: content, parts)

/-- Whether a line is written like the placeholder of a paragraph. -/
def isParagraphToken (line : Line) : Bool :=
  match after? Kind.paragraph.opening line with
  | some number => endsWith tokenClosing number
  | none => false

/-- A blank line after each run of paragraphs. -/
def endParagraphs : List Line → List Line
  | line :: next :: rest =>
      if isParagraphToken line && !startsWith "\x7b\x7b".toList next then
        line :: [] :: endParagraphs (next :: rest)
      else line :: endParagraphs (next :: rest)
  | short => short

/-- Mask the parts of a text. -/
def ofText (text : Text) : Masked :=
  let (withoutCode, code) := hideBlocks .code 0 (codeShape.segments (lines text))
  let (withoutQuotes, quote) := hideBlocks .quote 0 (quoteShape.segments withoutCode)
  let (tokens, paragraph) := hideParagraphs 0 withoutQuotes
  { text := unlines (tokens.take 1 ++ endParagraphs (tokens.drop 1))
    store := { code, quote, paragraph } }

end Masked

end Wikidown
