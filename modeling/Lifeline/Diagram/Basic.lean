import Lifeline.Diagram.Fault
import Lifeline.Diagram.Outline
import Lifeline.Diagram.Participant

/-! # Diagrams

A diagram holds its participants in the order of their first mention, the list of all messages,
the outline in which messages, sections, notes and blocks are arranged, the groups, the list of
sections, and the options of the document's head. It also keeps the error of a reading that
failed, next to all that had been read before.

Participants are registered once: a second mention never adds one. Messages are numbered in the
order in which they are added. -/

namespace Lifeline

/-- A named box around participants. -/
structure Group where
  name : String
  color : Option String
  members : List String
  line : Nat
  deriving DecidableEq, Repr, Inhabited

/-- A document that has been read, in whole or in part. -/
structure Diagram where
  title : Option String
  participants : List Participant
  messages : List Message
  outline : Outline
  groups : List Group
  sections : List Section
  options : List (String × String)
  failure : Option ReadError
  deriving DecidableEq, Repr, Inhabited

namespace Diagram

/-- The diagram of an empty document. -/
def empty : Diagram := ⟨none, [], [], .empty, [], [], [], none⟩

/-- The participant of a name. -/
def participant? (d : Diagram) (id : String) : Option Participant :=
  d.participants.find? fun p => p.id == id

/-- A participant of the name is registered. -/
def hasParticipant (d : Diagram) (id : String) : Bool := d.participants.any fun p => p.id == id

/-- Registers a participant, or updates the one of its name. -/
def addParticipant (d : Diagram) (p : Participant) : Diagram :=
  if d.hasParticipant p.id then
    { d with participants := d.participants.map fun q => if q.id = p.id then q.update p else q }
  else { d with participants := d.participants ++ [p] }

/-- Registers a participant unless one of its name is registered. -/
def ensureParticipant (d : Diagram) (id : String) (kind : ParticipantKind) (line : Nat) :
    Diagram :=
  if d.hasParticipant id then d
  else { d with participants := d.participants ++ [Participant.named id kind line] }

/-- Adds a message to the list, under the next index, and registers its two participants. -/
def addMessage (d : Diagram) (m : Message) : Diagram :=
  let d := (d.ensureParticipant m.sender .default m.line).ensureParticipant m.receiver .default
    m.line
  { d with messages := d.messages ++ [{ m with index := d.messages.length }] }

/-- Adds an outline behind the outline of the diagram. -/
def extend (d : Diagram) (o : Outline) : Diagram := { d with outline := d.outline ++ o }

/-- Adds a message to the list and to the end of the outline. -/
def addTopMessage (d : Diagram) (m : Message) : Diagram :=
  (d.addMessage m).extend (Entry.message { m with index := d.messages.length }).alone

/-- Sets an option; an option of the same key is replaced. -/
def setOption (d : Diagram) (key value : String) : Diagram :=
  { d with options := (d.options.filter fun o => o.1 ≠ key) ++ [(key, value)] }

/-- The value of an option. -/
def option? (d : Diagram) (key : String) : Option String :=
  (d.options.find? (·.1 == key)).map (·.2)

/-- The first group that lists a participant. -/
def groupOf? (d : Diagram) (id : String) : Option Group :=
  d.groups.find? fun g => g.members.contains id

/-- The last section that begins at or before a message. -/
def sectionOf? (d : Diagram) (message : Nat) : Option Nat :=
  (List.range d.sections.length).reverse.find? fun i =>
    match d.sections[i]? with
    | some s => s.firstMessage ≤ message
    | none => false

/-- The messages of a section: the first one, and the first one beyond it. -/
def sectionMessages (d : Diagram) (index : Nat) : Nat × Nat :=
  match d.sections[index]? with
  | none => (0, 0)
  | some s =>
    let stop := match d.sections[index + 1]? with
      | some next => next.firstMessage
      | none => d.messages.length
    (s.firstMessage, max stop s.firstMessage)

/-- The number of messages of a section. -/
def sectionSize (d : Diagram) (index : Nat) : Nat :=
  (d.sectionMessages index).2 - (d.sectionMessages index).1

theorem messages_addMessage (d : Diagram) (m : Message) :
    (d.addMessage m).messages = d.messages ++ [{ m with index := d.messages.length }] := by
  have h : ∀ (d : Diagram) id k l, (d.ensureParticipant id k l).messages = d.messages := by
    intro d id k l; unfold ensureParticipant; split <;> rfl
  simp [addMessage, h]

theorem option?_setOption (d : Diagram) (key value : String) :
    (d.setOption key value).option? key = some value := by
  have h : (d.options.filter fun o => o.1 ≠ key).find? (·.1 == key) = none := by
    rw [List.find?_eq_none]
    intro o ho
    simpa using (List.mem_filter.1 ho).2
  rw [option?, setOption, List.find?_append, h]
  simp

end Diagram

end Lifeline
