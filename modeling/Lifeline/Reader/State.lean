import Lifeline.Diagram.Basic
import Lifeline.Kind.Rules

/-! # The state of a reading

While a document is read, the blocks that are still open form a stack, innermost first. New
entries go to the end of the innermost block, or of the diagram's outline where none is open. A
block closes once a line is indented no deeper than its own; its body then moves to the block
around it. A note without text on its first line collects the lines that are indented deeper. -/

namespace Lifeline.Reader

/-- A block that still takes entries. -/
structure OpenBlock where
  head : BlockHead
  indent : Nat
  body : Outline
  /-- An `else` has been met, behind which no other branch starts. -/
  hasElse : Bool
  deriving DecidableEq, Repr, Inhabited

/-- The block, once it is closed. -/
def OpenBlock.close (b : OpenBlock) : Outline := .block b.head b.body .empty

/-- A note that collects the lines of its body. -/
structure OpenNote where
  participant : Option String
  side : Side
  indent : Nat
  line : Nat
  afterMessage : Option Nat
  lines : List (List Char)
  deriving DecidableEq, Repr, Inhabited

/-- The state between two lines. -/
structure State where
  diagram : Diagram
  stack : List OpenBlock
  /-- The group whose members may be listed. -/
  group : Option Nat
  /-- The groups that participants have joined in this reading. -/
  membership : List (String × Nat)
  /-- Content has begun, so no more options or groups may come. -/
  hasContent : Bool
  /-- The document names its type. -/
  hasChart : Bool
  lastSender : Option String
  note : Option OpenNote
  deriving DecidableEq, Repr, Inhabited

/-- The state in front of the first line. -/
def State.start (d : Diagram) : State := ⟨d, [], none, [], false, false, none, none⟩

/-- Adds an outline to the innermost open block, or to the diagram. -/
def State.append (s : State) (o : Outline) : State :=
  match s.stack with
  | [] => { s with diagram := s.diagram.extend o }
  | b :: bs => { s with stack := { b with body := b.body ++ o } :: bs }

/-- Closes the innermost open block. -/
def State.closeBlock (s : State) : State :=
  match s.stack with
  | [] => s
  | b :: bs => ({ s with stack := bs } : State).append b.close

/-- Closes open blocks, innermost first, as long as a condition holds of them. -/
def closeWhile (p : OpenBlock → Bool) : List OpenBlock → State → State
  | [], s => s
  | b :: bs, s => if p b then closeWhile p bs s.closeBlock else s

/-- Closes the blocks that a line of some indentation ends. A line that starts a branch leaves the
block of its own indentation open, unless that is a loop. -/
def State.closeBlocks (s : State) (indent : Nat) (startsBranch : Bool) : State :=
  closeWhile (fun b => indent ≤ b.indent &&
    !(startsBranch && b.indent == indent && b.head.kind != .loop)) s.stack s

/-- Closes all open blocks. -/
def State.closeAll (s : State) : State := closeWhile (fun _ => true) s.stack s

/-- Adds a note, if it has text and stands at a registered participant. -/
def State.addNote (s : State) (participant : Option String) (side : Side) (text : List Char)
    (line : Nat) (afterMessage : Option Nat) : State :=
  match participant with
  | none => s
  | some id =>
    if text.isEmpty || !s.diagram.hasParticipant id then s
    else s.append (Entry.note ⟨String.ofList text, side, id, line, afterMessage⟩).alone

/-- The text of a note's body: its lines from the first that is not blank to the last. -/
def OpenNote.text (n : OpenNote) : List Char :=
  ['\n'].intercalate (Text.withoutBlankEnds n.lines)

/-- Ends the note that is being collected. -/
def State.closeNote (s : State) : State :=
  match s.note with
  | none => s
  | some n => ({ s with note := none } : State).addNote n.participant n.side n.text n.line
      n.afterMessage

end Lifeline.Reader
