import Lifeline.Diagram.Fault
import Lifeline.Syntax.Heading
import Lifeline.Syntax.Keyword
import Lifeline.Syntax.Statement

/-! # The forms of a line

`Line.read` tells what a trimmed line is. The forms are tried in a fixed order and the first that
fits is taken: group headings, comments and section dividers before anything with an arrow;
options, declarations, positions and group members only without an arrow; then the content. A
line that fits nothing is content too, and is passed over. -/

namespace Lifeline.Syntax

/-- What happens in a diagram, line by line. -/
inductive Content
  /-- A line with an arrow that starts with the word `async`. -/
  | asyncKeyword
  | message (s : Statement)
  | block (kind : BlockKind) (label : List Char)
  /-- Another branch; without a label it is an `else`. -/
  | branch (label : Option (List Char))
  | note (header : NoteHeader)
  /-- Anything else. -/
  | other
  deriving DecidableEq, Repr

/-- The form of a line. -/
inductive Line
  | blank
  | group (h : Heading)
  | comment
  /-- A `#` that starts no heading. -/
  | hash
  | section (h : Heading)
  | option (key : String) (value : List Char)
  | declaration (d : Declaration)
  | position (id : List Char) (n : Int)
  | member (id : List Char)
  | content (c : Content)
  deriving DecidableEq, Repr

/-- The content of a line. -/
def Content.read (line : List Char) : Content :=
  if hasArrow line && Text.equalsIgnoringCase (Text.firstWord line) ['a', 's', 'y', 'n', 'c'] then
    .asyncKeyword
  else
    match statement? line with
    | some s => .message s
    | none =>
      match blockOpening? line with
      | some (kind, label) => .block kind label
      | none =>
        match branchOpening? line with
        | some label => .branch label
        | none =>
          match noteHeader? line with
          | some header => .note header
          | none => .other

/-- The form of a line without an arrow that describes something, if it has one. Members are
listed only where `inGroup` holds. -/
def Line.readDescription? (inGroup : Bool) (line : List Char) : Option Line :=
  let key := if (noteHeader? line).isSome then none else option? line
  match key with
  | some (key, value) => some (.option key value)
  | none =>
    match declaration? line with
    | some d => some (.declaration d)
    | none =>
      match positionLine? line with
      | some (id, n) => some (.position id n)
      | none => if inGroup && isMemberLine line then some (.member line) else none

/-- The form of a trimmed line; `inGroup` tells that it is indented under a group heading. -/
def Line.read (inGroup : Bool) (line : List Char) : Line :=
  if line.isEmpty then .blank
  else
    match groupHeading? line with
    | some h => .group h
    | none =>
      if ['/', '/'].isPrefixOf line then .comment
      else if ['#'].isPrefixOf line then .hash
      else
        match sectionDivider? line with
        | some h => .section h
        | none =>
          match if hasArrow line then none else Line.readDescription? inGroup line with
          | some form => form
          | none => .content (Content.read line)

/-- The content is an `else` or `else if`, also where a message or a block could be read. -/
def startsBranch (line : List Char) : Bool := (branchOpening? line).isSome

end Lifeline.Syntax
