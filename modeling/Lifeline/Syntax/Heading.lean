import Lifeline.Syntax.Reply
import Lifeline.Text.Fold

/-! # Headings

`## Name (color)` opens a group and `== Label (color) ==` is a section divider. The color in
parentheses is optional, and so is the closing `==`. The label is the shortest text, of at least
one character, behind which only such an ending follows. -/

namespace Lifeline.Syntax

open Lifeline.Unicode (isBlank)

/-- A label and a color, as they are written. -/
structure Heading where
  label : List Char
  color : Option (List Char)
  deriving DecidableEq, Repr

/-- A text in parentheses at the beginning of a text, and the rest. -/
def parenthesised? : List Char → Option (List Char × List Char)
  | '(' :: inner =>
    let body := inner.takeWhile (· ≠ ')')
    match inner.drop body.length with
    | _ :: rest => some (body, rest)
    | [] => none
  | _ => none

/-- The ending of a group heading: nothing, or a color. -/
def groupEnding? (text : List Char) : Option (Option (List Char)) :=
  match Text.trimStart text with
  | [] => some none
  | rest =>
    match parenthesised? rest with
    | some (color, []) => some (some color)
    | _ => none

/-- The text is empty or `==`. -/
def closesSection (text : List Char) : Bool := text == [] || text == ['=', '=']

/-- The ending of a section divider: a color if there is one, then the closing mark if there is
one. -/
def sectionEnding? (text : List Char) : Option (Option (List Char)) :=
  let rest := Text.trimStart text
  match parenthesised? rest with
  | some (color, behind) =>
    if closesSection (Text.trimStart behind) then some (some color) else none
  | none => if closesSection rest then some none else none

/-- The shortest label of at least one character that is followed by an ending. -/
def splitEnding (ending? : List Char → Option (Option (List Char))) : List Char → Heading
  | [] => ⟨[], none⟩
  | c :: rest =>
    match ending? rest with
    | some color => ⟨[c], color⟩
    | none =>
      let h := splitEnding ending? rest
      ⟨c :: h.label, h.color⟩

/-- The heading, trimmed; an empty color is none. -/
def Heading.tidy (h : Heading) : Heading :=
  ⟨Text.trim h.label, (h.color.map Text.trim).bind nonempty?⟩

/-- The heading of a group. -/
def groupHeading? (line : List Char) : Option Heading :=
  match line with
  | '#' :: '#' :: c :: rest =>
    if isBlank c then
      match Text.trimStart rest with
      | [] => none
      | text => some (splitEnding groupEnding? text).tidy
    else none
  | _ => none

/-- A section divider. -/
def sectionDivider? (line : List Char) : Option Heading :=
  match line with
  | '=' :: '=' :: rest =>
    match Text.trimStart rest with
    | [] => none
    | text => some (splitEnding sectionEnding? text).tidy
  | _ => none

/-- A digit in base sixteen. -/
def isHexDigit (c : Char) : Bool :=
  c.isDigit || ('a' ≤ c && c ≤ 'f') || ('A' ≤ c && c ≤ 'F')

/-- The color is written as a number rather than by name. -/
def looksLikeHex (color : List Char) : Bool :=
  match color with
  | '#' :: _ => true
  | _ => (color.length == 3 || color.length == 6) && color.all isHexDigit

end Lifeline.Syntax
