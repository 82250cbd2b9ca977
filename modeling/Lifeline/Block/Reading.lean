import Lifeline.Block.Opening
import Lifeline.Inline.Link

/-! # Blocks of text

A text of several lines falls into blocks. Quotes and entries of lists hold further blocks and
only decide which margin belongs to a line; headings and paragraphs are marked-up text; code and
tags are taken as they are; rules show nothing. So a text is read into a row of *pieces*, and the
definitions at the beginning of its paragraphs are kept apart.

`State.read` takes one line. The first line of a text may be told to begin a paragraph, whatever
it looks like; the characters that would make it something else are then no markup. -/

namespace Lifeline.Block

open Lifeline.Inline (Definitions splitDefinitions)
open Lifeline.Unicode (isLineBlank)

/-! ### The margin -/

/-- What a line may stand in: a quote, or an entry of a list, whose lines are indented. -/
inductive Container
  | quote
  | item (width : Nat)
  deriving DecidableEq, Repr

/-- A line behind the sign of a quote, and one blank that belongs to it. -/
def quoted? (r : Rest) : Option Rest :=
  match r.spare, r.text with
  | 0, '>' :: rest => some ((⟨r.column + 1, 0, rest⟩ : Rest).skip 1).2
  | _, _ => none

/-- The rest of a line that stands in the container. -/
def Container.enter? (c : Container) (r : Rest) : Option Rest :=
  match c with
  | .quote => quoted? (r.skip 3).2
  | .item width =>
    let (n, rest) := r.skip width
    if n = width ∨ rest.isBlank then some rest else none

/-- The containers, outermost first, that a line stands in, and the rest of the line. -/
def enter : List Container → Rest → List Container × Rest
  | [], r => ([], r)
  | c :: cs, r =>
    match c.enter? r with
    | none => ([], r)
    | some r =>
      let (kept, r) := enter cs r
      (c :: kept, r)

/-- An entry of a list whose marker follows a margin of `margin` columns: the columns that its
lines are indented by, and the rest of this line. -/
def item? (margin : Nat) (r : Rest) : Option (Nat × Rest) :=
  (marker? r.text).map fun (n, _) =>
    let behind := ((⟨r.column + n, 0, r.text.drop n⟩ : Rest).skip 1).2
    let (k, further) := behind.skip tabStop
    if behind.isBlank then (margin + n + 1, ⟨behind.column, 0, []⟩)
    else if k < tabStop then (margin + n + 1 + k, further)
    else (margin + n + 1, behind)

/-- The containers that begin in a line, and the rest of the line. Each takes at least one
character, so that `limit` may be the length of the line. -/
def openings (limit : Nat) (r : Rest) : List Container × Rest :=
  match limit with
  | 0 => ([], r)
  | limit + 1 =>
    let (margin, inner) := r.skip tabStop
    if margin = tabStop then ([], r)
    else
      match item? margin inner with
      | some (width, rest) =>
        let (more, rest) := openings limit rest
        (.item width :: more, rest)
      | none =>
        match quoted? inner with
        | some rest =>
          let (more, rest) := openings limit rest
          (.quote :: more, rest)
        | none => ([], r)

/-! ### Blocks -/

/-- The block that is still open. -/
inductive Leaf
  | none
  /-- A paragraph, last line first, of which the first `literal` characters are no markup. Its
  lines keep their indentation. -/
  | paragraph (literal : Nat) (lines : List (List Char))
  /-- Code between fences, which stand in a margin of some columns. -/
  | fenced (fence : Char) (count margin : Nat) (text : List Char)
  /-- Code in a margin, and the blank lines behind it. -/
  | indented (text blanks : List Char)
  | tags (ending : TagEnding) (text : List Char)
  deriving DecidableEq, Repr

/-- A piece of the text that is shown. -/
inductive Piece
  /-- Marked-up text, of which the first `literal` characters are no markup. -/
  | prose (literal : Nat) (text : List Char)
  /-- Text that is taken as it is. -/
  | verbatim (text : List Char)
  deriving DecidableEq, Repr

/-- A text read up to some line. -/
structure State where
  containers : List Container
  leaf : Leaf
  pieces : List Piece
  definitions : Definitions
  deriving Repr

/-- In front of the first line. -/
def State.start : State := ⟨[], .none, [], []⟩

/-- One more piece, and no open block. -/
def State.add (s : State) (piece : Piece) : State :=
  { s with leaf := .none, pieces := s.pieces ++ [piece] }

/-- The definitions at the beginning of a paragraph, and the rest of it. -/
def splitParagraph (literal : Nat) (lines : List (List Char)) : Definitions × List Char :=
  let text := ['\n'].intercalate lines.reverse
  if literal = 0 then splitDefinitions lines.length text else ([], text)

/-- Ends the open block. -/
def State.close (s : State) : State :=
  match s.leaf with
  | .none => s
  | .paragraph literal lines =>
    let (ds, text) := splitParagraph literal lines
    ({ s with definitions := s.definitions ++ ds } : State).add (.prose literal text)
  | .fenced _ _ _ text | .indented text _ | .tags _ text => s.add (.verbatim text)

/-- A line of tags. -/
def State.addTags (s : State) (ending : TagEnding) (text line lineEnd : List Char) : State :=
  let s := { s with leaf := .tags ending (text ++ line ++ lineEnd) }
  match ending with
  | .text piece => if Text.contains piece line then s.close else s
  | .blankLine => s

/-- Opens the block that the rest of a line begins. -/
def State.openLeaf (s : State) (r : Rest) (lineEnd : List Char) : State :=
  let (margin, inner) := r.skip tabStop
  if r.isBlank then s
  else if margin = tabStop then { s with leaf := .indented (inner.toList ++ lineEnd) [] }
  else
    let line := inner.text
    match anyTagEnding? line with
    | some ending => s.addTags ending (List.replicate margin ' ') line lineEnd
    | none =>
      if isRuleLine line then s
      else
        match heading? line with
        | some text => s.add (.prose 0 text)
        | none =>
          match fence? line with
          | some (fence, count) => { s with leaf := .fenced fence count margin [] }
          | none => { s with leaf := .paragraph 0 [line] }

/-- A line that does not go on with the open block: it stands in the containers `kept`, behind
which it may open others. -/
def State.begin (s : State) (kept : List Container) (r : Rest) (lineEnd : List Char) : State :=
  let (opened, rest) := openings r.text.length r
  ({ s with containers := kept ++ opened } : State).openLeaf rest lineEnd

/-- A line of a paragraph, or the one that ends it. -/
def State.readInParagraph (s : State) (literal : Nat) (lines : List (List Char))
    (kept : List Container) (r : Rest) (lineEnd : List Char) (isLast : Bool) : State :=
  let (margin, inner) := r.skip tabStop
  let inside := kept.length == s.containers.length
  let next : State := { s with leaf := .paragraph literal (r.toList :: lines) }
  if r.unindented.isEmpty then s.close.begin kept r lineEnd
  else if margin = tabStop then next
  else if inside && isUnderline inner.text then
    let (ds, text) := splitParagraph literal lines
    if text.isEmpty then
      { s with definitions := s.definitions ++ ds, leaf := .paragraph 0 [inner.text] }
    else s.close
  else if interrupts inside isLast inner.text then s.close.begin kept r lineEnd
  else next

/-- A line behind its margin. `isLast` tells that no text follows in the next line. -/
def State.readInside (s : State) (kept : List Container) (r : Rest) (lineEnd : List Char)
    (isLast : Bool) : State :=
  let inside := kept.length == s.containers.length
  match s.leaf with
  | .none => s.begin kept r lineEnd
  | .paragraph literal lines => s.readInParagraph literal lines kept r lineEnd isLast
  | .fenced fence count margin text =>
    let inner := (r.skip (tabStop - 1)).2
    let more := (r.skip margin).2.toList ++ lineEnd
    if !inside then s.close.begin kept r lineEnd
    else if inner.spare = 0 ∧ closesFence fence count inner.text then s.close
    else { s with leaf := .fenced fence count margin (text ++ more) }
  | .indented text blanks =>
    let (n, inner) := r.skip tabStop
    if !inside then s.close.begin kept r lineEnd
    else if r.isBlank then { s with leaf := .indented text (blanks ++ inner.toList ++ lineEnd) }
    else if n = tabStop then
      { s with leaf := .indented (text ++ blanks ++ inner.toList ++ lineEnd) [] }
    else s.close.begin kept r lineEnd
  | .tags ending text =>
    if !inside ∨ (ending = .blankLine ∧ r.isBlank) then s.close.begin kept r lineEnd
    else s.addTags ending text r.toList lineEnd

/-- One line and the characters that end it. -/
def State.read (s : State) (line lineEnd : List Char) (isLast : Bool) : State :=
  let (kept, r) := enter s.containers (.ofLine line)
  s.readInside kept r lineEnd isLast

/-- Lines, all but the last of which end in a line feed. -/
def State.readLines (s : State) : List (List Char) → State
  | [] => s
  | [line] => if line.isEmpty then s else s.read line [] true
  | line :: next :: rest =>
    (s.read line ['\n'] (next.all isLineBlank)).readLines (next :: rest)

/-- Lines ended by a line feed, a carriage return or both. -/
def lines (line : List Char) : List Char → List (List Char)
  | [] => [line.reverse]
  | '\r' :: '\n' :: rest => line.reverse :: lines [] rest
  | c :: rest =>
    if c = '\n' ∨ c = '\r' then line.reverse :: lines [] rest else lines (c :: line) rest

/-- The text, of which the first `literal` characters are no markup, read to its end. -/
def readText (literal : Nat) (text : List Char) : State :=
  match lines [] text with
  | first :: rest =>
    if literal = 0 then (State.start.readLines (first :: rest)).close
    else (({ State.start with leaf := .paragraph literal [first] } : State).readLines rest).close
  | [] => .start

end Lifeline.Block
