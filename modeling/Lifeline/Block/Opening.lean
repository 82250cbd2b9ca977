import Lifeline.Block.Margin
import Lifeline.Inline.Html
import Lifeline.Text.Line

/-! # What a line begins with

The signs at the beginning of a line, behind its margin, that open or end a block of Markdown:
rules, headings, fences, tags, quotes and the markers of lists. A sign is looked for in the text
of the line alone, from its first character that is not blank. -/

namespace Lifeline.Block

open Lifeline.Inline (isTagBlank)
open Lifeline.Unicode (isLineBlank)

/-- The text holds nothing but a marker, at least three times, and spaces and tabs. -/
def isRule (marker : Char) (text : List Char) : Bool :=
  text.all (fun c => c == marker || c == ' ' || c == '\t') && 3 ≤ text.count marker

/-- The line is a rule. -/
def isRuleLine : List Char → Bool
  | [] => false
  | c :: rest => (c == '*' || c == '-' || c == '_') && isRule c (c :: rest)

/-- The line underlines a heading. -/
def isUnderline : List Char → Bool
  | [] => false
  | c :: rest => (c == '=' || c == '-') && (rest.dropWhile (· = c)).all isLineBlank

/-- The text of a heading without the closing marks: a last word of nothing but `#`. -/
def withoutClosing (text : List Char) : List Char :=
  let back := text.reverse.dropWhile (· = ' ')
  match back.dropWhile (· = '#') with
  | [] => []
  | c :: before => if c = ' ' then (before.dropWhile (· = ' ')).reverse else back.reverse

/-- The text of a heading that is marked by one to six `#`. -/
def heading? (line : List Char) : Option (List Char) :=
  let level := (line.takeWhile (· = '#')).length
  if 1 ≤ level ∧ level ≤ 6 then
    match line.drop level with
    | [] => some []
    | c :: rest =>
      if isLineBlank c then some (withoutClosing (rest.dropWhile isLineBlank)) else none
  else none

/-- The character of a fence and the number of times it stands there. -/
def fence? (line : List Char) : Option (Char × Nat) :=
  match line with
  | [] => none
  | c :: _ =>
    let n := (line.takeWhile (· = c)).length
    if n < 3 then none
    else if c = '~' then some (c, n)
    else if c = '\x60' ∧ !(line.drop n).contains '\x60' then some (c, n)
    else none

/-- The line closes a fence. -/
def closesFence (fence : Char) (count : Nat) (line : List Char) : Bool :=
  let n := (line.takeWhile (· = fence)).length
  count ≤ n && (line.drop n).all isLineBlank

/-- The tags whose content goes up to their closing tag. -/
def rawTags : List String := ["pre", "style", "script", "textarea"]

/-- The tags that open a block. -/
def blockTags : List String := [
  "address", "article", "aside", "base", "basefont", "blockquote", "body", "caption", "center",
  "col", "colgroup", "dd", "details", "dialog", "dir", "div", "dl", "dt", "fieldset", "figcaption",
  "figure", "footer", "form", "frame", "frameset", "h1", "h2", "h3", "h4", "h5", "h6", "head",
  "header", "hr", "html", "iframe", "legend", "li", "link", "main", "menu", "menuitem", "nav",
  "noframes", "ol", "optgroup", "option", "p", "param", "search", "section", "summary", "table",
  "tbody", "td", "tfoot", "th", "thead", "title", "tr", "track", "ul"]

/-- The text begins with the name of a tag, behind which a blank or the end of the tag follows. -/
def startsWithTag (tags : List String) (mayBeEmpty : Bool) (text : List Char) : Bool :=
  let name := text.takeWhile Char.isAlphanum
  tags.any (fun tag => Text.equalsIgnoringCase tag.toList name) &&
    match text.drop name.length with
    | [] => true
    | '/' :: '>' :: _ => mayBeEmpty
    | c :: _ => isTagBlank c || c == '>'

/-- The tag of the list that the text begins with. -/
def rawTag? (text : List Char) : Option String :=
  rawTags.find? fun tag => startsWithTag [tag] false text

/-- The end of a block that holds a text as it is, from behind its `<` on. -/
def literalEnding? (text : List Char) : Option (List Char) :=
  match rawTag? text with
  | some tag => some ('<' :: '/' :: tag.toList ++ ['>'])
  | none =>
    if "!--".toList.isPrefixOf text then some "-->".toList
    else if "?".toList.isPrefixOf text then some "?>".toList
    else if "![CDATA[".toList.isPrefixOf text then some "]]>".toList
    else match text with
      | '!' :: c :: _ => if c.isAlpha then some ['>'] else none
      | _ => none

/-- The line begins with a tag that opens a block. -/
def startsWithBlockTag (text : List Char) : Bool :=
  match text with
  | '/' :: rest => startsWithTag blockTags true rest
  | _ => startsWithTag blockTags true text

/-- The line is a single tag. -/
def isTagLine (text : List Char) : Bool :=
  match text with
  | '!' :: _ | '?' :: _ => false
  | _ =>
    match Inline.markup? text with
    | some n => (text.drop n).all isLineBlank
    | none => false

/-- How a block of tags ends: behind a text, or at a blank line. -/
inductive TagEnding
  | text (ending : List Char)
  | blankLine
  deriving DecidableEq, Repr

/-- The ending of a block of tags that may begin inside a paragraph. -/
def tagEnding? (line : List Char) : Option TagEnding :=
  match line with
  | '<' :: rest =>
    match literalEnding? rest with
    | some ending => some (.text ending)
    | none => if startsWithBlockTag rest then some .blankLine else none
  | _ => none

/-- The ending of a block of tags. -/
def anyTagEnding? (line : List Char) : Option TagEnding :=
  match tagEnding? line, line with
  | some ending, _ => some ending
  | none, '<' :: rest => if isTagLine rest then some .blankLine else none
  | none, _ => none

/-- The marker of an entry of a list: its length, and whether a list may begin with it inside a
paragraph. -/
def marker? (line : List Char) : Option (Nat × Bool) :=
  let found := match line with
    | [] => none
    | c :: rest =>
      if c = '-' ∨ c = '+' ∨ c = '*' then
        if isRuleLine line then none else some (1, true, rest)
      else
        let digits := line.takeWhile Char.isDigit
        match line.drop digits.length with
        | d :: rest =>
          if 1 ≤ digits.length ∧ digits.length ≤ 9 ∧ (d = '.' ∨ d = ')') then
            some (digits.length + 1, (digits.dropWhile (· = '0')) == ['1'], rest)
          else none
        | [] => none
  match found with
  | some (n, isFirst, []) => some (n, isFirst)
  | some (n, isFirst, c :: _) => if c = ' ' ∨ c = '\t' then some (n, isFirst) else none
  | none => none

/-- The line ends a paragraph that goes on in the line before. `inside` tells that it stands in
the same quotes and lists, and `isLast` that nothing follows in the next line. -/
def interrupts (inside isLast : Bool) (line : List Char) : Bool :=
  isRuleLine line || (heading? line).isSome || (fence? line).isSome || line.head? == some '>' ||
    (tagEnding? line).isSome ||
    match marker? line with
    | some (n, isFirst) => !inside || isFirst && !(isLast && (line.drop n).all isLineBlank)
    | none => false

end Lifeline.Block
