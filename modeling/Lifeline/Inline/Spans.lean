import Lifeline.Block.Reading
import Lifeline.Inline.Markup
import Lifeline.Text.Line

/-! # The spans of a line

A line of a note is read as marked-up text. Its leading blanks are kept as they are. A beginning
that would open a block of Markdown, such as `# ` or `- `, is taken literally, so a line is always
read as a paragraph. Where the text goes on in further lines, these may open blocks: the text of
all blocks is put together, and the line ends inside a paragraph stand for spaces. -/

namespace Lifeline.Inline

open Lifeline.Block (Piece isRule)
open Lifeline.Unicode (isBlank)
open Lifeline.Text (trimStart)

/-- There is no character, or a blank one. -/
def endsMarker : List Char → Bool
  | [] => true
  | c :: _ => isBlank c

/-- The text begins with a label in brackets and a colon. -/
def beginsWithLabel : List Char → Bool
  | '[' :: rest => [']', ':'].isPrefixOf (rest.dropWhile (· ≠ ']'))
  | _ => false

/-- The first character would open a block. -/
def opensBlock : List Char → Bool
  | [] => false
  | c :: rest =>
    match c with
    | '#' | '>' | '<' => true
    | '-' | '*' => endsMarker rest || isRule c (c :: rest)
    | '+' => endsMarker rest
    | '_' => isRule '_' (c :: rest)
    | '\x60' => ['\x60', '\x60'].isPrefixOf rest
    | '~' => ['~', '~'].isPrefixOf rest
    | '[' => beginsWithLabel (c :: rest)
    | _ => false

/-- The number of characters at the beginning of a text that would open a block: a marker, or up
to nine digits with a point or a parenthesis. They are read literally. -/
def markerLength (text : List Char) : Nat :=
  if opensBlock text then 1
  else
    let digits := (text.takeWhile Char.isDigit).length
    match text.drop digits with
    | c :: rest =>
      if 1 ≤ digits ∧ digits ≤ 9 ∧ (c = '.' ∨ c = ')') ∧ endsMarker rest then digits + 1 else 0
    | [] => 0

/-- The styled text of a piece. -/
def pieceGlyphs (ds : Definitions) : Piece → List Glyph
  | .prose literal text =>
    let lead := text.take literal
    styled .plain lead ++ readMarkup ds lead.getLast? (text.drop literal)
  | .verbatim text => styled .plain text

/-- The styled text of a line. -/
def readLine (line : List Char) : List Glyph :=
  let body := trimStart line
  let read := Block.readText (markerLength body) body
  styled .plain (line.takeWhile isBlank) ++ read.pieces.flatMap (pieceGlyphs read.definitions)

/-- The spans of a line; an empty line has one empty span. -/
def spansOfLine (line : List Char) : List Span :=
  match spansOf (readLine line) with
  | [] => [⟨"", .plain⟩]
  | spans => spans

end Lifeline.Inline
