import Lifeline.Inline.Style
import Lifeline.Text.Columns
import Lifeline.Unicode.Blank

/-! # Breaking styled text into lines

`wrap` breaks styled text at blanks so that every line keeps to a number of columns, and splits
the words that are wider than a line. Two words on one line are separated by a single space in
the style of the last blank between them. -/

namespace Lifeline.Inline

open Lifeline.Unicode (isBlank)

/-- A word, and the style of the last blank in front of it. -/
structure Word where
  gap : Style
  glyphs : List Glyph
  deriving DecidableEq, Repr

/-- The columns of a styled text: those of its pieces of one style, added up. -/
def glyphColumns (glyphs : List Glyph) : Nat :=
  (runs glyphs).foldr (fun r n => Text.columns r.1 + n) 0

/-- The word that has been read backwards, if there is one. -/
def Word.close (gap : Style) : List Glyph → List Word
  | [] => []
  | letters => [⟨gap, letters.reverse⟩]

/-- The words of a styled text, where `letters` of the current one have been read already, last
letter first. -/
def wordsAfter (gap : Style) (letters : List Glyph) : List Glyph → List Word
  | [] => Word.close gap letters
  | g :: rest =>
    if isBlank g.char then Word.close gap letters ++ wordsAfter g.style [] rest
    else wordsAfter gap (g :: letters) rest

/-- The words of a styled text. -/
def wordsOf (glyphs : List Glyph) : List Word := wordsAfter .plain [] glyphs

/-- Pieces of a word, none wider than `limit` unless it is a single character. The current piece
has been read already, last character first, and takes `used` columns. -/
def chunksAfter (limit : Nat) (piece : List Glyph) (used : Nat) : List Glyph → List (List Glyph)
  | [] => if piece.isEmpty then [] else [piece.reverse]
  | g :: rest =>
    let width := (Unicode.columns? g.char).getD 0
    if limit < used + width ∧ piece ≠ [] then piece.reverse :: chunksAfter limit [g] width rest
    else chunksAfter limit (g :: piece) (used + width) rest

/-- A word, whole where it fits on a line and in pieces where it does not. -/
def chunks (limit : Nat) (word : List Glyph) : List (List Glyph) :=
  if glyphColumns word ≤ limit then [word] else chunksAfter limit [] 0 word

/-- The pieces of all words, each with the style of the gap in front of its word. -/
def chunksOf (limit : Nat) (words : List Word) : List Word :=
  words.flatMap fun w => (chunks limit w.glyphs).map fun piece => ⟨w.gap, piece⟩

/-- Lines filled with pieces as long as they fit; the current line has been begun already and
takes `used` columns. -/
def fillLines (limit : Nat) (line : List Glyph) (used : Nat) : List Word → List (List Glyph)
  | [] => if line.isEmpty then [] else [line]
  | w :: rest =>
    let width := glyphColumns w.glyphs
    if line.isEmpty then fillLines limit w.glyphs width rest
    else if used + 1 + width ≤ limit then
      fillLines limit (line ++ ⟨' ', w.gap⟩ :: w.glyphs) (used + 1 + width) rest
    else line :: fillLines limit w.glyphs width rest

/-- The lines of a list of spans. A limit of zero, or one that the text keeps to, leaves the spans
as they are; a text of blanks alone becomes one empty line. -/
def wrap (limit : Nat) (spans : List Span) : List (List Span) :=
  if limit = 0 ∨ Text.columns (textOf spans) ≤ limit then [spans]
  else
    match fillLines limit [] 0 (chunksOf limit (wordsOf (glyphsOf spans))) with
    | [] => [[⟨"", .plain⟩]]
    | lines => lines.map spansOf

theorem wrap_zero (spans : List Span) : wrap 0 spans = [spans] := by simp [wrap]

theorem wrap_of_fits {limit : Nat} {spans : List Span}
    (h : Text.columns (textOf spans) ≤ limit) : wrap limit spans = [spans] := by
  simp [wrap, h]

end Lifeline.Inline
