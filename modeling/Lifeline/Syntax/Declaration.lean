import Lifeline.Diagram.Participant
import Lifeline.Syntax.Reply
import Lifeline.Text.Fold

/-! # The head of a document

Lines that describe rather than happen: options `key: value`, declarations
`Name is a kind aka Label position 2`, and lines `Name position -1`. Keywords may be written in
any case, and words are separated by blanks. -/

namespace Lifeline.Syntax

open Lifeline.Unicode (isBlank isDecimalDigit isWordChar)

/-- A character of a declared name or of a key. -/
def isIdChar (c : Char) : Bool := isWordChar c || c == '.' || c == '-'

/-- The first character of a key and of a group member: a letter from A to Z or an underscore. -/
def isKeyStart (c : Char) : Bool := (Text.foldCase c).isAlpha || c == '_'

/-- The text behind at least one blank. -/
def blanks? : List Char → Option (List Char)
  | [] => none
  | c :: rest => if isBlank c then some (Text.trimStart rest) else none

/-- The text behind a word that stands behind a gap. -/
def gapWord? (word : String) (text : List Char) : Option (List Char) :=
  (blanks? text).bind (Text.dropWord? word.toList)

/-- An option: its key in small letters, and its value. -/
def option? (line : List Char) : Option (String × List Char) :=
  match line with
  | [] => none
  | c :: rest =>
    if isKeyStart c then
      let key := rest.takeWhile isIdChar
      match Text.trimStart (rest.drop key.length) with
      | ':' :: value => some (Unicode.lowercase (String.ofList (c :: key)), Text.trim value)
      | _ => none
    else none

/-- The number that a position is written as. A number too large for the range of positions
stands for the end of the range; so does one with digits of another script. -/
def positionOf (isNegative : Bool) (digits : List Char) : Int :=
  if digits.all Char.isDigit then
    let n : Int := digits.foldl (fun n c => n * 10 + (c.toNat - '0'.toNat : Nat)) 0
    if isNegative then max leastPosition (-n) else min greatestPosition n
  else if isNegative then leastPosition
  else greatestPosition

/-- A position: digits up to the end of the line, perhaps behind a minus sign. -/
def positionNumber? (text : List Char) : Option Int :=
  let (isNegative, digits) := match text with
    | '-' :: rest => (true, rest)
    | _ => (false, text)
  if digits ≠ [] ∧ digits.all isDecimalDigit then some (positionOf isNegative digits) else none

/-- The ending `position n` behind a gap. -/
def positionEnding? (text : List Char) : Option Int :=
  ((gapWord? "position" text).bind blanks?).bind positionNumber?

/-- The shortest alias of at least one character that is followed by the end of the line or by a
position. -/
def splitAlias : List Char → List Char × Option Int
  | [] => ([], none)
  | c :: rest =>
    match positionEnding? rest with
    | some n => ([c], some n)
    | none =>
      let (aka, n) := splitAlias rest
      (c :: aka, n)

/-- The text without one pair of quotes of the same kind around it. -/
def unquote (text : List Char) : List Char :=
  match text, text.getLast? with
  | '"' :: rest@(_ :: _), some '"' => rest.dropLast
  | '\'' :: rest@(_ :: _), some '\'' => rest.dropLast
  | _, _ => text

/-- A declared participant, as it is written. -/
structure Declaration where
  id : List Char
  kind : List Char
  aka : Option (List Char)
  position : Option Int
  deriving DecidableEq, Repr

/-- The alias and the position at the end of a declaration. -/
def declarationEnding? (text : List Char) : Option (Option (List Char) × Option Int) :=
  match text with
  | [] => some (none, none)
  | _ =>
    match ((gapWord? "aka" text).bind blanks?).bind nonempty? with
    | some rest =>
      let (aka, position) := splitAlias rest
      some ((nonempty? (Text.trim aka)).map unquote, position)
    | none => (positionEnding? text).map fun n => (none, some n)

/-- The text behind the article. -/
def article? (text : List Char) : Option (List Char) :=
  match gapWord? "a" text with
  | none => none
  | some rest =>
    match (Text.dropWord? ['n'] rest).bind blanks? with
    | some behind => some behind
    | none => blanks? rest

/-- A declaration. -/
def declaration? (line : List Char) : Option Declaration :=
  let id := line.takeWhile isIdChar
  if id.isEmpty then none
  else
    match (gapWord? "is" (line.drop id.length)).bind article? with
    | none => none
    | some rest =>
      let kind := rest.takeWhile isWordChar
      if kind.isEmpty then none
      else (declarationEnding? (rest.drop kind.length)).map fun (aka, position) =>
        ⟨id, kind, aka, position⟩

/-- A name and the position that the line gives it. -/
def positionLine? (line : List Char) : Option (List Char × Int) :=
  let id := line.takeWhile isIdChar
  if id.isEmpty then none else (positionEnding? (line.drop id.length)).map fun n => (id, n)

/-- The line is a name, as the members of a group are listed. -/
def isMemberLine (line : List Char) : Bool :=
  match line with
  | [] => false
  | c :: rest => isKeyStart c && rest.all isIdChar

end Lifeline.Syntax
