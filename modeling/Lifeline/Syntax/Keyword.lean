import Lifeline.Diagram.Outline
import Lifeline.Syntax.Declaration

/-! # Keywords

Lines that open a block, start another branch of one, or begin a note. -/

namespace Lifeline.Syntax

open Lifeline.Unicode (isBlank)

/-- The text behind a keyword: nothing, or what follows a gap. -/
def keywordText? (word : String) (line : List Char) : Option (List Char) :=
  match Text.dropWord? word.toList line with
  | some [] => some []
  | some rest => blanks? rest
  | none => none

/-- The line that opens a block: its kind and label. -/
def blockOpening? (line : List Char) : Option (BlockKind × List Char) :=
  [BlockKind.choice, .loop, .parallel].findSome? fun kind =>
    (keywordText? kind.keyword line).map fun label => (kind, Text.trim label)

/-- The line that starts another branch: the label of an `else if`, none for an `else`. -/
def branchOpening? (line : List Char) : Option (Option (List Char)) :=
  match Text.dropWord? ['e', 'l', 's', 'e'] line with
  | some [] => some none
  | some rest => ((blanks? rest).bind (keywordText? "if")).map fun label => some (Text.trim label)
  | none => none

/-- The header of a note: its side and participant where they are given, and its text where the
note has one line. -/
structure NoteHeader where
  side : Option Side
  participant : Option (List Char)
  text : Option (List Char)
  deriving DecidableEq, Repr

/-- The text of a note that has one line, behind blanks and a colon. -/
def noteText? (text : List Char) : Option (Option (List Char)) :=
  match Text.trimStart text with
  | [] => some none
  | ':' :: rest => some (some (Text.trim rest))
  | _ => none

/-- The participant behind `of`, up to a colon or the end of the line, and the text. At least one
character stands between the first blank and the colon. -/
def noteParticipant? (text : List Char) : Option (Option (List Char) × Option (List Char)) :=
  match gapWord? "of" text with
  | none => none
  | some rest =>
    let participant := rest.takeWhile (· ≠ ':')
    match participant with
    | c :: _ :: _ =>
      if isBlank c then
        (noteText? (rest.drop participant.length)).map fun t =>
          (nonempty? (Text.trim participant), t)
      else none
    | _ => none

/-- The part of a note's header behind its side. -/
def noteEnding? (side : Option Side) (text : List Char) : Option NoteHeader :=
  match noteParticipant? text with
  | some (participant, t) => some ⟨side, participant, t⟩
  | none => (noteText? text).map fun t => ⟨side, none, t⟩

/-- The header of a note. -/
def noteHeader? (line : List Char) : Option NoteHeader :=
  match Text.dropWord? ['n', 'o', 't', 'e'] line with
  | none => none
  | some rest =>
    let sided :=
      match gapWord? "left" rest with
      | some behind => noteEnding? (some .left) behind
      | none => (gapWord? "right" rest).bind (noteEnding? (some .right))
    match sided with
    | some header => some header
    | none => noteEnding? none rest

end Lifeline.Syntax
