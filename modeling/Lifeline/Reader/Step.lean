import Lifeline.Reader.State
import Lifeline.Syntax.Indent
import Lifeline.Syntax.Line

/-! # Reading a line

`State.readLine` takes one line of a document. It either goes on in a new state or stops at a
fault; then it also leaves the diagram, with what the line had done before the fault was found. -/

namespace Lifeline.Reader

open Lifeline.Syntax (Content Declaration Heading Line NoteHeader Statement)

/-- A fault, and the diagram that it leaves. -/
structure Stop where
  fault : Fault
  diagram : Diagram
  deriving Repr

/-- Reading stops at a fault in this state. -/
def State.stop (s : State) (fault : Fault) : Except Stop State := .error ⟨fault, s.diagram⟩

/-- The color of a heading, as a fault where it is not a name. -/
def hexColor? (h : Heading) : Option String :=
  (h.color.filter Syntax.looksLikeHex).map String.ofList

/-- A group heading opens the group of its name. A later heading of the same name may set the
color. -/
def State.readGroup (s : State) (h : Heading) (line : Nat) : Except Stop State :=
  if s.hasContent then s.stop .lateGroup
  else
    match hexColor? h with
    | some color => s.stop (.hexGroupColor color)
    | none =>
      let name := String.ofList h.label
      let color := h.color.map String.ofList
      let d := s.diagram
      match d.groups.findIdx? fun g => g.name == name with
      | some i =>
        let groups := d.groups.modify i fun g => { g with color := color.or g.color }
        .ok { s with diagram := { d with groups := groups }, group := some i }
      | none =>
        let groups := d.groups ++ [⟨name, color, [], line⟩]
        .ok { s with diagram := { d with groups := groups }, group := some d.groups.length }

/-- A section divider ends the blocks of its indentation and owns the messages that follow. -/
def State.readSection (s : State) (h : Heading) (indent line : Nat) : Except Stop State :=
  match hexColor? h with
  | some color => s.stop (.hexSectionColor color)
  | none =>
    let s := s.closeBlocks indent false
    let divider : Section :=
      ⟨String.ofList h.label, h.color.map String.ofList, line, s.diagram.messages.length⟩
    let d := { s.diagram with sections := s.diagram.sections ++ [divider] }
    .ok (({ s with diagram := d, hasContent := true } : State).append (Entry.section divider).alone)

/-- An option of the document's head. -/
def State.readOption (s : State) (key : String) (value : List Char) : Except Stop State :=
  let text := String.ofList value
  if key = "chart" then
    if Text.equalsIgnoringCase value "sequence".toList then .ok { s with hasChart := true }
    else s.stop (.unsupportedChart text)
  else if s.hasContent then s.stop (.lateOption key)
  else if key = "title" then .ok { s with diagram := { s.diagram with title := some text } }
  else .ok { s with diagram := s.diagram.setOption key text }

/-- A participant joins the group whose members are being listed. -/
def State.joinGroup (s : State) (id : String) : Except Stop State :=
  match s.group with
  | none => .ok s
  | some i =>
    match s.membership.find? fun m => m.1 == id with
    | some (_, j) =>
      if i = j then .ok s
      else
        let group := match s.diagram.groups[j]? with
          | some g => g.name
          | none => ""
        s.stop (.alreadyGrouped id group)
    | none =>
      let groups := s.diagram.groups.modify i fun g => { g with members := g.members ++ [id] }
      .ok { s with
        diagram := { s.diagram with groups := groups }
        membership := s.membership ++ [(id, i)] }

/-- A declaration registers or updates its participant. -/
def State.readDeclaration (s : State) (decl : Declaration) (line : Nat) : Except Stop State :=
  let id := String.ofList decl.id
  let participant : Participant :=
    { id := id
      label := String.ofList (decl.aka.getD decl.id)
      kind := (ParticipantKind.ofName? (String.ofList decl.kind)).getD .default
      line := line
      position := decl.position }
  ({ s with diagram := s.diagram.addParticipant participant } : State).joinGroup id

/-- A position line moves its participant, and registers it where it is new. -/
def State.readPosition (s : State) (id : List Char) (n : Int) (line : Nat) : Except Stop State :=
  let name := String.ofList id
  let participant := (s.diagram.participant? name).getD (.named name (inferKind id) line)
  let d := s.diagram.addParticipant { participant with position := some n }
  ({ s with diagram := d } : State).joinGroup name

/-- A member of a group. -/
def State.readMember (s : State) (id : List Char) (line : Nat) : Except Stop State :=
  let name := String.ofList id
  let d := s.diagram.ensureParticipant name (inferKind id) line
  ({ s with diagram := d } : State).joinGroup name

/-- A message: its two participants, its place in the list, and its entry in the outline. -/
def State.readMessage (s : State) (statement : Statement) (line : Nat) : State :=
  let sender := String.ofList statement.sender
  let receiver := String.ofList statement.receiver
  let d := (s.diagram.ensureParticipant sender (inferKind statement.sender) line).ensureParticipant
    receiver (inferKind statement.receiver) line
  let (label, reply) :=
    if statement.isAsync then (statement.label, none) else Syntax.splitReply statement.label
  let m : Message :=
    { index := d.messages.length
      sender := sender
      receiver := receiver
      label := String.ofList label
      reply := reply.map String.ofList
      line := line
      isAsync := statement.isAsync }
  ({ s with
    diagram := d.addMessage m
    hasContent := true
    lastSender := some sender } : State).append (Entry.message m).alone

/-- A line that starts another branch. It belongs to the innermost open block, if that has its
indentation; loops have no branches, and nothing follows an `else`. -/
def State.readBranch (s : State) (label : Option (List Char)) (indent line : Nat) :
    Except Stop State :=
  let s := { s with hasContent := true }
  match s.stack with
  | [] => .ok s
  | b :: bs =>
    if b.indent ≠ indent then .ok s
    else
      match b.head.kind with
      | .parallel => s.stop (.branchInParallel label.isSome)
      | .loop => .ok s
      | .choice =>
        if b.hasElse then .ok s
        else
          let branch : Branch := ⟨label.map String.ofList, line⟩
          let b :=
            { b with
              body := b.body ++ (Entry.branch branch).alone
              hasElse := label.isNone }
          .ok { s with stack := b :: bs }

/-- The header of a note. A note without a participant of its own stands at the last sender. -/
def State.readNote (s : State) (h : NoteHeader) (indent line : Nat) : State :=
  let s := { s with hasContent := true }
  let side := h.side.getD .right
  let participant := (h.participant.map String.ofList).or s.lastSender
  let afterMessage := match s.diagram.messages.length with
    | 0 => none
    | n + 1 => some n
  match h.text with
  | some text => s.addNote participant side text line afterMessage
  | none => { s with note := some ⟨participant, side, indent, line, afterMessage, []⟩ }

/-- A line of content. -/
def State.readContent (s : State) (content : Content) (indent line : Nat) : Except Stop State :=
  match content with
  | .asyncKeyword => s.stop .asyncKeyword
  | .message statement => .ok (s.readMessage statement line)
  | .block kind label =>
    let b : OpenBlock := ⟨⟨kind, String.ofList label, line⟩, indent, .empty, false⟩
    .ok { s with stack := b :: s.stack, hasContent := true }
  | .branch label => s.readBranch label indent line
  | .note header => .ok (s.readNote header indent line)
  | .other => .ok s

/-- A line, taken for what it is. -/
def State.readForm (s : State) (form : Line) (text : List Char) (indent line : Nat) :
    Except Stop State :=
  match form with
  | .blank => .ok { s with group := none }
  | .group h => s.readGroup h line
  | .comment => .ok s
  | .hash => s.stop .strayHash
  | .section h => s.readSection h indent line
  | .option key value => s.readOption key value
  | .declaration decl => s.readDeclaration decl line
  | .position id n => s.readPosition id n line
  | .member id => s.readMember id line
  | .content c => (s.closeBlocks indent (Syntax.startsBranch text)).readContent c indent line

/-- A line outside the body of a note. A line that is not indented ends the list of a group's
members. -/
def State.readPlain (s : State) (raw : List Char) (line : Nat) : Except Stop State :=
  let text := Text.trim raw
  let indent := Syntax.indent raw
  let form := Line.read (0 < indent && s.group.isSome) text
  let s := if indent = 0 then { s with group := none } else s
  s.readForm form text indent line

/-- The note's body with a further line, where the line belongs to it. -/
def OpenNote.collect? (n : OpenNote) (raw : List Char) : Option OpenNote :=
  let text := Text.trim raw
  if text.isEmpty || n.indent < Syntax.indent raw then some { n with lines := n.lines ++ [text] }
  else none

/-- A line of a document. -/
def State.readLine (s : State) (raw : List Char) (line : Nat) : Except Stop State :=
  match s.note with
  | none => s.readPlain raw line
  | some n =>
    match n.collect? raw with
    | some n => .ok { s with note := some n }
    | none => s.closeNote.readPlain raw line

end Lifeline.Reader
