import Lifeline.Inline.Entity
import Lifeline.Unicode.Blank
import Lifeline.Unicode.Case

/-! # Link targets

What follows the closing bracket of a link: a target in parentheses, perhaps with a title, as in
`(http://a "title")`. A target is either written between angle brackets or bare; a bare target
ends at a blank or at the parenthesis that closes the link. Every reader answers with what it has
read and the rest of the text. A paragraph may begin with definitions, `[label]: http://a`, for
links to refer to; they show nothing. -/

namespace Lifeline.Inline

open Lifeline.Unicode (isAsciiPunctuation isBlank isLineBlank isSpaceOrTab)

/-- A target between angle brackets, from behind the opening one on. -/
def angledTarget? : List Char → Option (List Char × List Char)
  | [] => none
  | '\\' :: c :: rest =>
    if isAsciiPunctuation c then (angledTarget? rest).map fun (t, r) => ('\\' :: c :: t, r)
    else if c = '\n' ∨ c = '\r' ∨ c = '<' then none
    else (angledTarget? rest).map fun (t, r) => ('\\' :: c :: t, r)
  | c :: rest =>
    if c = '\n' ∨ c = '\r' ∨ c = '<' then none
    else if c = '>' then some ([], rest)
    else (angledTarget? rest).map fun (t, r) => (c :: t, r)

/-- A bare target inside `depth` open parentheses; more than `limit` of them are refused. -/
def bareTarget? (limit : Nat) (depth : Nat) : List Char → Option (List Char × List Char)
  | [] => if depth = 0 then some ([], []) else none
  | '\\' :: p :: rest =>
    if isAsciiPunctuation p then
      (bareTarget? limit depth rest).map fun (t, r) => ('\\' :: p :: t, r)
    else if p ≤ ' ' then if depth = 0 then some (['\\'], p :: rest) else none
    else (bareTarget? limit depth rest).map fun (t, r) => ('\\' :: p :: t, r)
  | c :: rest =>
    if c ≤ ' ' then if depth = 0 then some ([], c :: rest) else none
    else if c = '(' then
      if limit < depth then none
      else (bareTarget? limit (depth + 1) rest).map fun (t, r) => (c :: t, r)
    else if c = ')' then
      match depth with
      | 0 => some ([], c :: rest)
      | d + 1 => (bareTarget? limit d rest).map fun (t, r) => (c :: t, r)
    else (bareTarget? limit depth rest).map fun (t, r) => (c :: t, r)

/-- A target, as it is written. -/
def target? (limit : Nat) : List Char → Option (List Char × List Char)
  | '<' :: rest => angledTarget? rest
  | text => bareTarget? limit 0 text

/-- The rest of a title that ends with `close` and must not hold `opening`. -/
def titleRest? (opening close : Char) : List Char → Option (List Char)
  | [] => none
  | '\\' :: p :: rest =>
    if isAsciiPunctuation p then titleRest? opening close rest
    else titleRest? opening close (p :: rest)
  | c :: rest =>
    if c = close then some rest
    else if c = opening then none
    else titleRest? opening close rest

/-- The text behind a title. -/
def title? : List Char → Option (List Char)
  | '"' :: rest => titleRest? '"' '"' rest
  | '\'' :: rest => titleRest? '\'' '\'' rest
  | '(' :: rest => titleRest? '(' ')' rest
  | _ => none

/-- The text behind a gap: blanks with at most one line end among them. -/
def behindGap (text : List Char) : List Char :=
  match text.dropWhile isLineBlank with
  | '\n' :: rest => rest.dropWhile isLineBlank
  | rest => rest

/-- The target of a link, from behind its closing bracket on, and the rest of the text. -/
def linkTarget? (text : List Char) : Option (List Char × List Char) :=
  match text with
  | '(' :: inner =>
    match target? 32 (behindGap inner) with
    | none => none
    | some (target, rest) =>
      let rest := behindGap rest
      let rest := match title? rest with
        | some behind => behindGap behind
        | none => rest
      match rest with
      | ')' :: rest => some (unescape target, rest)
      | _ => none
  | _ => none

/-! ### Definitions -/

/-- The text behind a label, from behind its opening bracket on. A label holds at most 999
characters, no bracket without a backslash, and something that is not blank. -/
def labelRest? (room : Nat) (blank : Bool) : List Char → Option (List Char)
  | [] => none
  | '\\' :: _ :: rest => match room with
    | n + 2 => labelRest? n false rest
    | _ => none
  | c :: rest =>
    if c = '[' then none
    else if c = ']' then if blank then none else some rest
    else match room with
    | n + 1 => labelRest? n (blank && (isLineBlank c || c = '\n')) rest
    | 0 => none

/-- A label, from behind its opening bracket on, and the text behind it. -/
def label? (text : List Char) : Option (List Char × List Char) :=
  (labelRest? 999 true text).map fun rest => (text.take (text.length - rest.length - 1), rest)

/-- The words of a label, each read backwards into `word`, joined by single spaces. -/
def joinWords (word : List Char) : List Char → List Char
  | [] => word.reverse
  | c :: rest =>
    if isBlank c then
      if word.isEmpty ∨ rest.all isBlank then joinWords word rest
      else word.reverse ++ ' ' :: joinWords [] rest
    else joinWords (c :: word) rest

/-- What two labels have in common that mean the same: case and the width of gaps do not count. -/
def labelKey (label : List Char) : String :=
  Unicode.lowercase (String.ofList (joinWords [] label))

/-- What the text can refer to by a label: the keys of labels and their targets, earlier ones
first. -/
abbrev Definitions : Type := List (String × List Char)

/-- The target that a label stands for. -/
def Definitions.target? (ds : Definitions) (label : List Char) : Option (List Char) :=
  ds.lookup (labelKey label)

/-- The rest of the line holds only blanks: the lines behind it, unindented. -/
def behindLine? (text : List Char) : Option (List Char) :=
  match text.dropWhile isLineBlank with
  | [] => some []
  | '\n' :: rest => some (rest.dropWhile isSpaceOrTab)
  | _ => none

/-- The end of a definition behind its target: a title, on this line or the next one, or nothing
but blanks up to the end of the line. -/
def definitionEnding? (text : List Char) : Option (List Char) :=
  let isGap := match text with
    | c :: _ => isLineBlank c || c == '\n'
    | [] => false
  let titled := if isGap then (title? (behindGap text)).bind behindLine? else none
  titled.or (behindLine? text)

/-- The definition of a link at the beginning of a paragraph: the key of its label, its target,
and the lines behind it. -/
def definition? (text : List Char) : Option ((String × List Char) × List Char) :=
  match text with
  | '[' :: inner =>
    match label? inner with
    | some (label, ':' :: rest) =>
      let rest := behindGap rest
      match target? 1 rest with
      | none => none
      | some (target, behind) =>
        if behind.length = rest.length then none
        else (definitionEnding? behind).map fun lines => ((labelKey label, unescape target), lines)
    | _ => none
  | _ => none

/-- The definitions at the beginning of a paragraph, at most `limit` of them, and the rest of the
paragraph. -/
def splitDefinitions (limit : Nat) (text : List Char) : Definitions × List Char :=
  match limit with
  | 0 => ([], text)
  | n + 1 =>
    match definition? text with
    | none => ([], text)
    | some (d, rest) =>
      let (ds, rest) := splitDefinitions n rest
      (d :: ds, rest)

end Lifeline.Inline
