import Lifeline.Detection.Evidence
import Lifeline.Reader.Step

/-! # Reading a document

`Diagram.read` reads a text into a diagram, which may hold content already. Reading stops at the
first line at fault; the diagram keeps what was read before it, without the blocks and the note
that were still open, and remembers the error. A document that ends well must say that it is a
sequence diagram, or hold a message or something that looks like one. -/

namespace Lifeline

open Lifeline.Reader

/-- Reads lines, of which the first has the number `line`. -/
def Reader.State.readLines (s : State) (line : Nat) :
    List (List Char) → Except (ReadError × Diagram) State
  | [] => .ok s
  | raw :: rest =>
    match s.readLine raw line with
    | .ok s => s.readLines (line + 1) rest
    | .error stop => .error (.atLine line stop.fault, stop.diagram)

/-- Ends the note and the blocks that are open at the end of the document. -/
def Reader.State.finish (s : State) : State := s.closeNote.closeAll

/-- Reads a text into a diagram: the error, if there is one, and the diagram afterwards. -/
def Diagram.read (d : Diagram) (text : List Char) : Option ReadError × Diagram :=
  match (State.start d).readLines 1 (Text.lines text) with
  | .error (error, d) => (some error, { d with failure := some error })
  | .ok s =>
    let s := s.finish
    if !s.hasChart && s.diagram.messages.isEmpty && !Detection.hasArrowLike text then
      (some .noContent, { s.diagram with failure := some .noContent })
    else (none, s.diagram)

/-- The diagram of a text. -/
def Diagram.ofText (text : List Char) : Except ReadError Diagram :=
  match Diagram.empty.read text with
  | (none, d) => .ok d
  | (some error, _) => .error error

end Lifeline
