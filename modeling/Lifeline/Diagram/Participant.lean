import Lifeline.Text.Line
import Lifeline.Unicode.Case

/-! # Participants

A participant is a lifeline of the diagram. Its kind chooses the shape of its header; its
position, if it has one, is a slot counted from the left, or from the right when negative. -/

namespace Lifeline

/-- The shape of a participant. -/
inductive ParticipantKind
  | default
  | service
  | database
  | actor
  | queue
  | cache
  | gateway
  | external
  | networking
  | frontend
  deriving DecidableEq, Repr, Inhabited

namespace ParticipantKind

/-- All kinds, the plain one first. -/
def all : List ParticipantKind :=
  [.default, .service, .database, .actor, .queue, .cache, .gateway, .external, .networking,
    .frontend]

/-- The word for a kind. -/
def name : ParticipantKind → String
  | .default => "default"
  | .service => "service"
  | .database => "database"
  | .actor => "actor"
  | .queue => "queue"
  | .cache => "cache"
  | .gateway => "gateway"
  | .external => "external"
  | .networking => "networking"
  | .frontend => "frontend"

/-- The kind that a text names, whatever its case and the blanks around it. -/
def ofName? (text : String) : Option ParticipantKind :=
  let word := Unicode.lowercase (String.ofList (Text.trim text.toList))
  all.find? fun k => k.name == word

/-- The error for a text that names no kind. -/
def unknownMessage (text : String) : String := s!"Unknown participant type: {text}"

end ParticipantKind

/-- A lifeline: the name that messages use, the label that is drawn, and where the participant
was first mentioned. -/
structure Participant where
  id : String
  label : String
  kind : ParticipantKind
  line : Nat
  position : Option Int
  deriving DecidableEq, Repr, Inhabited

/-- A participant that is labelled with its name and takes the slot it is given. -/
def Participant.named (id : String) (kind : ParticipantKind) (line : Nat) : Participant :=
  ⟨id, id, kind, line, none⟩

/-- The participant as a later declaration leaves it: its name, its line and its place stay, and
its position stays where the declaration gives none. -/
def Participant.update (old new : Participant) : Participant :=
  { old with label := new.label, kind := new.kind, position := new.position.or old.position }

/-- The least position that can be stored; positions have 64 bits. -/
def leastPosition : Int := -9223372036854775808

/-- The greatest position that can be stored. -/
def greatestPosition : Int := 9223372036854775807

end Lifeline
