import Lifeline.Unicode.Blank

/-! # Trimming and lines

A text is handled as a list of characters. `trim` drops the blanks at both ends; `lines` splits
at line feeds, where one carriage return in front of a line feed belongs to the line end and an
empty piece after the last line feed is no line. `withoutBlankEnds` cuts the empty entries off
both ends of a list of lines. -/

namespace Lifeline.Text

open Lifeline.Unicode (isBlank)

/-- The text without its leading blanks. -/
def trimStart (text : List Char) : List Char := text.dropWhile isBlank

/-- The text without its trailing blanks. -/
def trimEnd (text : List Char) : List Char := (text.reverse.dropWhile isBlank).reverse

/-- The text without the blanks at both ends. -/
def trim (text : List Char) : List Char := trimEnd (trimStart text)

/-- A line that ended in a line feed, read backwards: one carriage return belongs to its end. -/
def closeLine : List Char → List Char
  | '\r' :: before => before.reverse
  | before => before.reverse

/-- The lines of a text whose current line has begun with `before`, read backwards. -/
def linesAfter (before : List Char) : List Char → List (List Char)
  | [] => if before.isEmpty then [] else [before.reverse]
  | c :: rest =>
    if c = '\n' then closeLine before :: linesAfter [] rest else linesAfter (c :: before) rest

/-- The lines of a text. -/
def lines (text : List Char) : List (List Char) := linesAfter [] text

/-- The list without its empty entries at both ends. -/
def withoutBlankEnds (ls : List (List Char)) : List (List Char) :=
  ((ls.dropWhile List.isEmpty).reverse.dropWhile List.isEmpty).reverse

/-- The characters up to the first blank that follows one that is not blank. -/
def firstWord (text : List Char) : List Char := (trimStart text).takeWhile fun c => !isBlank c

/-- Equality of texts up to the case of the 26 letters. -/
def equalsIgnoringCase (a b : List Char) : Bool := a.map Char.toLower == b.map Char.toLower

/-- The text contains the piece. -/
def contains (piece : List Char) : List Char → Bool
  | [] => piece.isEmpty
  | c :: rest => piece.isPrefixOf (c :: rest) || contains piece rest

theorem trimEnd_nil : trimEnd [] = [] := rfl

/-- The first character left by trimming is not blank. -/
theorem trimStart_eq_cons {text rest : List Char} {c : Char} (h : trimStart text = c :: rest) :
    isBlank c = false := by
  have := List.head?_dropWhile_not isBlank text
  rw [trimStart] at h
  simpa [h] using this

/-- The characters of a text that is written out in pieces, which an evaluation would otherwise
decode from its bytes. -/
theorem toList_append_eq {s t : String} {text rest : List Char} (h : s.toList = text)
    (h' : t.toList = rest) : (s ++ t).toList = text ++ rest := by
  rw [String.toList_append, h, h']

end Lifeline.Text
