import Lifeline.Proofs.Diagram.History

/-! # Sections divide the messages

A section divider remembers how many messages there are in front of it. So the sections of a diagram
come in the order of their first messages, and none begins behind the end of the messages
(`Diagram.Divided`). Every line keeps it that way, also one at fault (`Divided.readLine`), and so do
all operations on a diagram (`Diagram.divided_after`). -/

namespace Lifeline

/-- The sections come in the order of their first messages, and none begins behind the end. -/
structure Diagram.Divided (d : Diagram) : Prop where
  sorted : d.sections.Pairwise fun s t => s.firstMessage ≤ t.firstMessage
  within : ∀ s ∈ d.sections, s.firstMessage ≤ d.messages.length

namespace Diagram

variable {d e : Diagram}

theorem divided_empty : empty.Divided := ⟨.nil, by simp [empty]⟩

theorem Divided.mono (h : d.Divided) (hsections : e.sections = d.sections)
    (hmessages : d.messages.length ≤ e.messages.length) : e.Divided := by
  refine ⟨hsections ▸ h.sorted, ?_⟩
  rw [hsections]
  exact fun s hs => (h.within s hs).trans hmessages

theorem Divided.registers (h : d.Divided) (hd : d.Registers e) : e.Divided := by
  obtain ⟨ps, rfl⟩ := hd.same
  exact h.mono rfl le_rfl

theorem Divided.addMessage (h : d.Divided) (m : Message) : (d.addMessage m).Divided := by
  obtain ⟨ps, hps⟩ := Reader.addMessage_eq d m
  rw [hps]
  exact h.mono rfl (by simp)

/-- A section at the end begins behind all messages. -/
theorem Divided.addSection (h : d.Divided) {s : Section} (hs : s.firstMessage = d.messages.length) :
    ({ d with sections := d.sections ++ [s] } : Diagram).Divided := by
  refine ⟨List.pairwise_append.mpr ⟨h.sorted, List.pairwise_singleton _ _, ?_⟩, ?_⟩
  · intro t ht u hu
    rw [List.mem_singleton.mp hu, hs]
    exact h.within t ht
  · intro t ht
    rcases List.mem_append.mp ht with ht | ht
    · exact h.within t ht
    · rw [List.mem_singleton.mp ht, hs]

end Diagram

namespace Reader

open Lifeline.Syntax (Content Heading Line NoteHeader Statement)

/-- The diagram of the state is divided by its sections. -/
def State.Divided (s : State) : Prop := s.diagram.Divided

section
variable {s t : State}

theorem State.Divided.besides (h : s.Divided) (hbesides : t.besides = s.besides) : t.Divided := by
  obtain ⟨hmessages, hsections, -⟩ := lists_of_besides hbesides
  exact h.mono hsections (congrArg List.length hmessages).ge

theorem State.Divided.closeBlocks (h : s.Divided) (indent : Nat) (startsBranch : Bool) :
    (s.closeBlocks indent startsBranch).Divided :=
  h.besides (besides_closeBlocks s indent startsBranch)

theorem State.Divided.addNote (h : s.Divided) (participant : Option String) (side : Side)
    (text : List Char) (line : Nat) (after : Option Nat) :
    (s.addNote participant side text line after).Divided :=
  h.besides (besides_addNote s participant side text line after)

theorem State.Divided.closeNote (h : s.Divided) : s.closeNote.Divided :=
  State.Divided.besides (s := { s with note := none }) h (besides_closeNote s)

/-! ### Lines -/

theorem State.Divided.readGroup (h : s.Divided) (heading : Heading) (line : Nat) :
    Outcome State.Divided (s.readGroup heading line) := by
  unfold State.readGroup
  dsimp only
  repeat' split
  all_goals first
    | exact .stop h _
    | exact h.mono rfl le_rfl

theorem State.Divided.readOption (h : s.Divided) (key : String) (value : List Char) :
    Outcome State.Divided (s.readOption key value) := by
  unfold State.readOption
  dsimp only
  repeat' split
  all_goals first
    | exact .stop h _
    | exact h.mono rfl le_rfl

theorem State.Divided.joinGroup (h : s.Divided) (id : String) :
    Outcome State.Divided (s.joinGroup id) := by
  unfold State.joinGroup
  repeat' split
  all_goals first
    | exact .stop h _
    | exact h.mono rfl le_rfl

/-- A divider counts the messages in front of it. -/
theorem State.Divided.readSection (h : s.Divided) (heading : Heading) (indent line : Nat) :
    Outcome State.Divided (s.readSection heading indent line) := by
  unfold State.readSection
  split
  · exact .stop h _
  · have hclosed := h.closeBlocks indent false
    dsimp only
    generalize s.closeBlocks indent false = c at hclosed ⊢
    let divider : Section := ⟨String.ofList heading.label, heading.color.map String.ofList, line,
      c.diagram.messages.length⟩
    let u : State := { c with
      diagram := { c.diagram with sections := c.diagram.sections ++ [divider] }
      hasContent := true }
    have hu : u.Divided := Diagram.Divided.addSection hclosed (s := divider) rfl
    exact hu.besides (besides_append u)

theorem State.Divided.readMessage (h : s.Divided) (statement : Statement) (line : Nat) :
    (s.readMessage statement line).Divided := by
  have hreg := (Diagram.registers_ensureParticipant s.diagram (String.ofList statement.sender)
    (inferKind statement.sender) line).trans (Diagram.registers_ensureParticipant _
      (String.ofList statement.receiver) (inferKind statement.receiver) line)
  unfold State.readMessage
  dsimp only
  generalize ((s.diagram.ensureParticipant (String.ofList statement.sender)
    (inferKind statement.sender) line).ensureParticipant (String.ofList statement.receiver)
      (inferKind statement.receiver) line) = d at hreg ⊢
  refine State.Divided.besides ?_ (besides_append _)
  exact (Diagram.Divided.registers h hreg).addMessage _

theorem State.Divided.readBranch (h : s.Divided) (label : Option (List Char)) (indent line : Nat) :
    Outcome State.Divided (s.readBranch label indent line) := by
  unfold State.readBranch
  dsimp only
  repeat' split
  all_goals first
    | exact .stop (s := { s with hasContent := true }) h _
    | exact h.mono rfl le_rfl

theorem State.Divided.readNote (h : s.Divided) (header : NoteHeader) (indent line : Nat) :
    (s.readNote header indent line).Divided := by
  unfold State.readNote
  dsimp only
  split
  · exact State.Divided.addNote (s := { s with hasContent := true }) h _ _ _ _ _
  · exact h

theorem State.Divided.readContent (h : s.Divided) (content : Content) (indent line : Nat) :
    Outcome State.Divided (s.readContent content indent line) := by
  cases content with
  | asyncKeyword => exact .stop h _
  | message statement => exact h.readMessage statement line
  | block kind label => exact h.mono rfl le_rfl
  | branch label => exact h.readBranch label indent line
  | note header => exact h.readNote header indent line
  | other => exact h

theorem State.Divided.readForm (h : s.Divided) (form : Line) (text : List Char)
    (indent line : Nat) : Outcome State.Divided (s.readForm form text indent line) := by
  cases form with
  | blank => exact h.mono rfl le_rfl
  | group heading => exact h.readGroup heading line
  | comment => exact h
  | hash => exact .stop h _
  | «section» heading => exact h.readSection heading indent line
  | option key value => exact h.readOption key value
  | declaration decl =>
      exact State.Divided.joinGroup (h.registers (Diagram.registers_addParticipant _ _)) _
  | position id n =>
      exact State.Divided.joinGroup (h.registers (Diagram.registers_addParticipant _ _)) _
  | member id =>
      exact State.Divided.joinGroup (h.registers (Diagram.registers_ensureParticipant _ _ _ _)) _
  | content c => exact (h.closeBlocks indent _).readContent c indent line

theorem State.Divided.readPlain (h : s.Divided) (raw : List Char) (line : Nat) :
    Outcome State.Divided (s.readPlain raw line) := by
  unfold State.readPlain
  dsimp only
  split
  · exact State.Divided.readForm (s := { s with group := none }) h _ _ _ line
  · exact h.readForm _ _ _ line

/-- Each line keeps the sections in order, also one at fault. -/
theorem State.Divided.readLine (h : s.Divided) (raw : List Char) (line : Nat) :
    Outcome State.Divided (s.readLine raw line) := by
  unfold State.readLine
  repeat' split
  · exact h.readPlain raw line
  · exact h.mono rfl le_rfl
  · exact h.closeNote.readPlain raw line

end

end Reader

open Reader

/-- However a reading ends, the sections divide the messages. -/
theorem Diagram.Divided.read {d : Diagram} (h : d.Divided) (text : List Char) :
    (d.read text).2.Divided := by
  obtain ⟨hok, herror⟩ := Outcome.readLines (P := State.Divided)
    (fun _ raw line h => h.readLine raw line) (s := State.start d) h 1 (Text.lines text)
  unfold Diagram.read
  split
  · next error e heq =>
      obtain ⟨t, ht, rfl⟩ := herror error e heq
      exact Divided.mono (d := t.diagram) ht rfl le_rfl
  · next s heq =>
      have hfinish : s.finish.Divided := (hok s heq).closeNote.besides (besides_closeAll _)
      dsimp only
      split
      · exact Divided.mono hfinish rfl le_rfl
      · exact hfinish

theorem Operation.divided_apply {d : Diagram} (h : d.Divided) (op : Operation) :
    (op.apply d).Divided := by
  cases op with
  | read text => exact h.read text
  | addParticipant p => exact h.registers (Diagram.registers_addParticipant d p)
  | ensureParticipant id kind line =>
      exact h.registers (Diagram.registers_ensureParticipant d id kind line)
  | addMessage m => exact h.addMessage m
  | addTopMessage m => exact (h.addMessage m).mono rfl le_rfl
  | clear => exact Diagram.divided_empty

/-- **Sections divide the messages of every diagram.** Behind any operations the sections come in
the order of their first messages, and none begins behind the end of the messages. -/
theorem Diagram.divided_after (ops : List Operation) : (after ops).Divided := by
  suffices h : ∀ d : Diagram, d.Divided → (ops.foldl Operation.apply d).Divided from
    h _ divided_empty
  induction ops with
  | nil => exact fun _ h => h
  | cons op ops ih => exact fun d h => ih _ (op.divided_apply h)

theorem Diagram.divided_of_read {text : List Char} {d : Diagram} (h : empty.read text = (none, d)) :
    d.Divided := by
  have hdivided := divided_empty.read text
  rwa [h] at hdivided

end Lifeline
