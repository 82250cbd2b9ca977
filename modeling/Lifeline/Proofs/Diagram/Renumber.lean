import Lifeline.Diagram.Basic
import Mathlib.Data.List.Basic

/-! # Numbers of lines

Participants, messages, sections, notes, blocks, branches and groups remember the line that they
come from. A diagram is built without looking at these numbers: with every line `n` renamed to
`f n`, in the diagram and in what is added to it, the result is renamed in the same way. Nothing is
asked of `f`. -/

namespace Lifeline

section
variable (f : Nat → Nat)

/-- The participant, as if its line `n` were `f n`. -/
def Participant.renumber (p : Participant) : Participant := { p with line := f p.line }

/-- The message, as if its line `n` were `f n`. -/
def Message.renumber (m : Message) : Message := { m with line := f m.line }

/-- The section, as if its line `n` were `f n`. -/
def Section.renumber (s : Section) : Section := { s with line := f s.line }

/-- The note, as if its line `n` were `f n`. -/
def Note.renumber (n : Note) : Note := { n with line := f n.line }

/-- The block, as if its line `n` were `f n`. -/
def BlockHead.renumber (h : BlockHead) : BlockHead := { h with line := f h.line }

/-- The branch, as if its line `n` were `f n`. -/
def Branch.renumber (b : Branch) : Branch := { b with line := f b.line }

/-- The group, as if its line `n` were `f n`. -/
def Group.renumber (g : Group) : Group := { g with line := f g.line }

/-- The entry, as if its line `n` were `f n`. -/
def Entry.renumber : Entry → Entry
  | .message m => .message (m.renumber f)
  | .section s => .section (s.renumber f)
  | .note n => .note (n.renumber f)
  | .branch b => .branch (b.renumber f)

/-- The outline, as if every line `n` were `f n`. -/
def Outline.renumber : Outline → Outline
  | .empty => .empty
  | .entry e rest => .entry (e.renumber f) rest.renumber
  | .block head body rest => .block (head.renumber f) body.renumber rest.renumber

/-- The error, as if its line `n` were `f n`. -/
def ReadError.renumber : ReadError → ReadError
  | .atLine line fault => .atLine (f line) fault
  | .noContent => .noContent

/-- The diagram, as if every line `n` were `f n`. -/
def Diagram.renumber (d : Diagram) : Diagram :=
  { d with
    participants := d.participants.map (Participant.renumber f)
    messages := d.messages.map (Message.renumber f)
    outline := d.outline.renumber f
    groups := d.groups.map (Group.renumber f)
    sections := d.sections.map (Section.renumber f)
    failure := d.failure.map (ReadError.renumber f) }

/-! ### Outlines -/

theorem Outline.append_renumber (a b : Outline) :
    a.renumber f ++ b.renumber f = (a ++ b).renumber f := by
  induction a with
  | empty => rfl
  | entry e rest ih => rw [entry_append, renumber, renumber, entry_append, ih]
  | block head body rest _ ih => rw [block_append, renumber, renumber, block_append, ih]

/-! ### Adding to a diagram -/

namespace Diagram

variable (d : Diagram)

theorem hasParticipant_renumber (id : String) :
    (d.renumber f).hasParticipant id = d.hasParticipant id := List.any_map

theorem participant?_renumber (id : String) :
    (d.renumber f).participant? id = (d.participant? id).map (Participant.renumber f) :=
  List.find?_map ..

theorem addParticipant_renumber (p : Participant) :
    (d.renumber f).addParticipant (p.renumber f) = (d.addParticipant p).renumber f := by
  have hid : (d.renumber f).hasParticipant (p.renumber f).id = d.hasParticipant p.id :=
    hasParticipant_renumber f d p.id
  unfold addParticipant
  rw [hid]
  cases d.hasParticipant p.id with
  | true =>
      have hupdate : (fun q : Participant =>
          if q.id = (p.renumber f).id then q.update (p.renumber f) else q) ∘
            Participant.renumber f =
          Participant.renumber f ∘ fun q => if q.id = p.id then q.update p else q := by
        funext q
        exact (apply_ite (Participant.renumber f) (q.id = p.id) (q.update p) q).symm
      simp only [if_true, renumber, List.map_map, hupdate]
  | false => simp [renumber]

theorem ensureParticipant_renumber (id : String) (kind : ParticipantKind) (line : Nat) :
    (d.renumber f).ensureParticipant id kind (f line) =
      (d.ensureParticipant id kind line).renumber f := by
  unfold ensureParticipant
  rw [hasParticipant_renumber]
  cases d.hasParticipant id with
  | true => rfl
  | false => simp [renumber, Participant.renumber, Participant.named]

theorem addMessage_renumber (m : Message) :
    (d.renumber f).addMessage (m.renumber f) = (d.addMessage m).renumber f := by
  have hends : ((d.renumber f).ensureParticipant m.sender .default (f m.line)).ensureParticipant
      m.receiver .default (f m.line) =
      ((d.ensureParticipant m.sender .default m.line).ensureParticipant m.receiver .default
        m.line).renumber f := by
    rw [ensureParticipant_renumber, ensureParticipant_renumber]
  simp only [addMessage, Message.renumber, hends]
  simp [renumber, Message.renumber]

theorem extend_renumber (o : Outline) :
    (d.renumber f).extend (o.renumber f) = (d.extend o).renumber f := by
  simp only [extend, renumber, Outline.append_renumber]

end Diagram

end

end Lifeline
