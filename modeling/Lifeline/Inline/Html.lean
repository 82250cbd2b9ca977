import Lifeline.Unicode.Blank

/-! # Angle brackets

What may stand between `<` and `>` inside a line: a tag, a comment and its relatives, or an
address. Each reader gets the text behind the `<` and answers with the number of characters up to
the closing `>`, which counts. Tags are recognised by a finite automaton, one character at a
time. -/

namespace Lifeline.Inline

open Lifeline.Unicode (isLineBlank)

/-- The number of characters up to the end of the first occurrence of a piece. -/
def past? (piece : List Char) : List Char → Option Nat
  | [] => none
  | c :: rest =>
    if piece.isPrefixOf (c :: rest) then some piece.length else (past? piece rest).map (· + 1)

/-- A blank inside a tag: spaces, tabs and line ends. -/
def isTagBlank (c : Char) : Bool := isLineBlank c || c == '\n' || c == '\r'

/-- Where a tag has got to. -/
inductive TagState
  | name
  | gap
  | attribute
  | behindAttribute
  | beforeValue
  | bareValue
  | quotedValue (quote : Char)
  | behindValue
  | slash
  | closingName
  | closingGap
  deriving DecidableEq, Repr

/-- The first character of an attribute's name. -/
def isAttributeStart (c : Char) : Bool := c.isAlpha || c == '_' || c == ':'

/-- A later character of an attribute's name. -/
def isAttributeChar (c : Char) : Bool :=
  c.isAlphanum || c == '_' || c == ':' || c == '.' || c == '-'

/-- A character of a value that stands without quotes. -/
def isBareValueChar (c : Char) : Bool :=
  !(c == '\'' || c == '"' || c == ' ' || c == '=' || c == '>' || c == '<' || c == '\x60' ||
    c == '\n' || c == '\r')

/-- The state behind a character that is not the closing bracket, if a tag may go on with it. -/
def TagState.next? : TagState → Char → Option TagState
  | .name, c =>
    if c.isAlphanum || c == '-' then some .name
    else if isTagBlank c then some .gap
    else if c == '/' then some .slash
    else none
  | .gap, c =>
    if isTagBlank c then some .gap
    else if c == '/' then some .slash
    else if isAttributeStart c then some .attribute
    else none
  | .attribute, c =>
    if isAttributeChar c then some .attribute
    else if isTagBlank c then some .behindAttribute
    else if c == '=' then some .beforeValue
    else if c == '/' then some .slash
    else none
  | .behindAttribute, c =>
    if isTagBlank c then some .behindAttribute
    else if c == '=' then some .beforeValue
    else if c == '/' then some .slash
    else if isAttributeStart c then some .attribute
    else none
  | .beforeValue, c =>
    if isTagBlank c then some .beforeValue
    else if c == '"' || c == '\'' then some (.quotedValue c)
    else if isBareValueChar c then some .bareValue
    else none
  | .bareValue, c =>
    if isBareValueChar c then some .bareValue else if isTagBlank c then some .gap else none
  | .quotedValue q, c => if c == q then some .behindValue else some (.quotedValue q)
  | .behindValue, c =>
    if isTagBlank c then some .gap else if c == '/' then some .slash else none
  | .slash, _ => none
  | .closingName, c =>
    if c.isAlphanum || c == '-' then some .closingName
    else if isLineBlank c then some .closingGap
    else none
  | .closingGap, c => if isLineBlank c then some .closingGap else none

/-- The closing bracket may stand here. -/
def TagState.mayClose : TagState → Bool
  | .beforeValue | .quotedValue _ => false
  | _ => true

/-- The rest of a tag. -/
def tagFrom? (state : TagState) : List Char → Option Nat
  | [] => none
  | c :: rest =>
    if c == '>' && state.mayClose then some 1
    else match state.next? c with
    | some next => (tagFrom? next rest).map (· + 1)
    | none => none

/-- A comment, from behind its `<!--` on. -/
def comment? (text : List Char) : Option Nat :=
  match text with
  | '>' :: _ => some 1
  | '-' :: '>' :: _ => some 2
  | _ => past? ['-', '-', '>'] text

/-- Literal data: the first run of closing brackets must stand before the `>`. -/
def literalData? (text : List Char) : Option Nat :=
  let body := text.takeWhile (· ≠ ']')
  let brackets := (text.drop body.length).takeWhile (· = ']')
  match brackets, text.drop (body.length + brackets.length) with
  | _ :: _, '>' :: _ => some (body.length + brackets.length + 1)
  | _, _ => none

/-- A declaration: a word in capitals, a gap, and the text up to the next `>`. -/
def declaration? (text : List Char) : Option Nat :=
  let word := text.takeWhile fun c => 'A' ≤ c && c ≤ 'Z'
  match word, text.drop word.length with
  | _ :: _, c :: rest =>
    if isTagBlank c then (past? ['>'] rest).map (· + (word.length + 1)) else none
  | _, _ => none

/-- A tag, a comment, a processing instruction, literal data or a declaration, from behind its
`<` on. -/
def markup? : List Char → Option Nat
  | '!' :: '-' :: '-' :: rest => (comment? rest).map (· + 3)
  | '!' :: '[' :: 'C' :: 'D' :: 'A' :: 'T' :: 'A' :: '[' :: rest => (literalData? rest).map (· + 8)
  | '!' :: rest => (declaration? rest).map (· + 1)
  | '?' :: rest => (past? ['?', '>'] rest).map (· + 1)
  | '/' :: c :: rest => if c.isAlpha then (tagFrom? .closingName rest).map (· + 2) else none
  | c :: rest => if c.isAlpha then (tagFrom? .name rest).map (· + 1) else none
  | [] => none

/-- An address with a scheme of two to thirty-two characters. -/
def isUri (text : List Char) : Bool :=
  let scheme := text.takeWhile (· ≠ ':')
  match scheme, text.drop scheme.length with
  | c :: more, _ :: target =>
    c.isAlpha && more.all (fun c => c.isAlphanum || c == '.' || c == '-' || c == '+') &&
      2 ≤ scheme.length && scheme.length ≤ 32 && target.all fun c => ' ' < c && c ≠ '<'
  | _, _ => false

/-- A character that may stand before the `@` of a mail address. -/
def isMailboxChar (c : Char) : Bool :=
  c.isAlphanum || ".!#$%&'*+/=?^_`\x7b|\x7d~-".toList.contains c

/-- A part of a domain. -/
def isDomainLabel (label : List Char) : Bool :=
  label.all (fun c => c.isAlphanum || c == '-') && 1 ≤ label.length && label.length ≤ 63 &&
    label.head? ≠ some '-' && label.getLast? ≠ some '-'

/-- A mail address. -/
def isMailAddress (text : List Char) : Bool :=
  let mailbox := text.takeWhile (· ≠ '@')
  match mailbox, text.drop mailbox.length with
  | _ :: _, _ :: domain => mailbox.all isMailboxChar && (domain.splitOn '.').all isDomainLabel
  | _, _ => false

/-- An address in angle brackets, from behind its `<` on: the address itself. -/
def autolink? (text : List Char) : Option (List Char) :=
  let target := text.takeWhile (· ≠ '>')
  if target.length < text.length && (isUri target || isMailAddress target) then some target
  else none

end Lifeline.Inline
