import Lifeline.Proofs.Diagram.Renumber
import Lifeline.Proofs.Reader.Effect
import Lifeline.Reader.Document

/-! # The reader copies line numbers

The number of a line goes into what is read from the line and, where the line is at fault, into the
error, but no step of the reader depends on it. Let `f` rename the numbers of lines, in any way. If
they are renamed in a state, and the next line has the number `f n` in place of `n`, then the reader
does the same and ends in the state with its numbers renamed, or stops with the diagram renamed
(`readLine_renumber`). So lines of other numbers are read alike, as long as `f` tells these numbers
(`readLines_renumber`). -/

namespace Lifeline.Reader

open Lifeline.Syntax (Content Declaration Heading Line NoteHeader Statement)

section
variable (f : Nat → Nat)

/-- The block, as if every line `n` were `f n`. -/
def OpenBlock.renumber (b : OpenBlock) : OpenBlock :=
  { b with head := b.head.renumber f, body := b.body.renumber f }

/-- The note, as if its line `n` were `f n`. -/
def OpenNote.renumber (n : OpenNote) : OpenNote := { n with line := f n.line }

/-- The state, as if every line `n` were `f n`. -/
def State.renumber (s : State) : State :=
  { s with
    diagram := s.diagram.renumber f
    stack := s.stack.map (OpenBlock.renumber f)
    note := s.note.map (OpenNote.renumber f) }

/-- What becomes of a line, as if every line `n` were `f n`. -/
def renumberStep : Except Stop State → Except Stop State
  | .ok s => .ok (s.renumber f)
  | .error stop => .error ⟨stop.fault, stop.diagram.renumber f⟩

/-- What becomes of lines, as if every line `n` were `f n`. -/
def renumberRun : Except (ReadError × Diagram) State → Except (ReadError × Diagram) State
  | .ok s => .ok (s.renumber f)
  | .error (error, d) => .error (error.renumber f, d.renumber f)

variable (s : State) (o : Outline) (line : Nat)

/-! ### Entries and blocks -/

theorem append_renumber : (s.renumber f).append (o.renumber f) = (s.append o).renumber f := by
  unfold State.append
  cases hs : s.stack with
  | nil => simp only [State.renumber, hs, List.map_nil, Diagram.extend_renumber]
  | cons b bs =>
      simp only [State.renumber, hs, List.map_cons, OpenBlock.renumber, Outline.append_renumber]

theorem closeBlock_renumber : (s.renumber f).closeBlock = s.closeBlock.renumber f := by
  unfold State.closeBlock
  cases hs : s.stack with
  | nil => simp [State.renumber, hs]
  | cons b bs =>
      simp only [State.renumber, hs, List.map_cons]
      exact append_renumber f { s with stack := bs } b.close

/-- Blocks close where a condition says so that does not see the difference. -/
theorem closeWhile_renumber {p : OpenBlock → Bool} (hp : ∀ b, p (b.renumber f) = p b)
    (bs : List OpenBlock) :
    closeWhile p (bs.map (OpenBlock.renumber f)) (s.renumber f) =
      (closeWhile p bs s).renumber f := by
  induction bs generalizing s with
  | nil => rfl
  | cons b bs ih =>
      rw [List.map_cons, closeWhile, closeWhile, hp, closeBlock_renumber, ih]
      split <;> rfl

theorem closeBlocks_renumber (indent : Nat) (startsBranch : Bool) :
    (s.renumber f).closeBlocks indent startsBranch =
      (s.closeBlocks indent startsBranch).renumber f :=
  closeWhile_renumber f s (fun _ => rfl) s.stack

theorem closeAll_renumber : (s.renumber f).closeAll = s.closeAll.renumber f :=
  closeWhile_renumber f s (fun _ => rfl) s.stack

/-! ### Notes -/

theorem addNote_renumber (participant : Option String) (side : Side) (text : List Char)
    (afterMessage : Option Nat) :
    (s.renumber f).addNote participant side text (f line) afterMessage =
      (s.addNote participant side text line afterMessage).renumber f := by
  unfold State.addNote
  cases participant with
  | none => rfl
  | some id =>
      have hid : (s.renumber f).diagram.hasParticipant id = s.diagram.hasParticipant id :=
        Diagram.hasParticipant_renumber f s.diagram id
      dsimp only
      rw [hid]
      split
      · rfl
      · exact append_renumber f s
          (Entry.note ⟨String.ofList text, side, id, line, afterMessage⟩).alone

theorem closeNote_renumber : (s.renumber f).closeNote = s.closeNote.renumber f := by
  cases hn : s.note with
  | none =>
      rw [closeNote_of_none hn, closeNote_of_none]
      simp [State.renumber, hn]
  | some n =>
      rw [closeNote_of_some hn, ← addNote_renumber, closeNote_of_some (n := n.renumber f)]
      · rfl
      · simp [State.renumber, hn]

/-! ### Lines that describe -/

theorem readGroup_renumber (h : Heading) :
    (s.renumber f).readGroup h (f line) = renumberStep f (s.readGroup h line) := by
  unfold State.readGroup
  have hcontent : (s.renumber f).hasContent = s.hasContent := rfl
  rw [hcontent]
  cases s.hasContent with
  | true => rfl
  | false =>
      cases hexColor? h with
      | some color => rfl
      | none =>
          have hgroups : (s.renumber f).diagram.groups =
              s.diagram.groups.map (Group.renumber f) := rfl
          have hfind : (s.renumber f).diagram.groups.findIdx?
              (fun g => g.name == String.ofList h.label) =
                s.diagram.groups.findIdx? fun g => g.name == String.ofList h.label := by
            rw [hgroups, List.findIdx?_map]
            rfl
          simp only [hfind]
          cases s.diagram.groups.findIdx? fun g => g.name == String.ofList h.label with
          | none => simp [renumberStep, State.renumber, Diagram.renumber, Group.renumber]
          | some i =>
              have hcolored := map_modify (Group.renumber f) s.diagram.groups i
                (fun g => { g with color := (h.color.map String.ofList).or g.color })
                (fun g => { g with color := (h.color.map String.ofList).or g.color }) fun _ => rfl
              simp only [renumberStep, State.renumber, Diagram.renumber, Bool.false_eq_true,
                if_false, hcolored]

theorem readOption_renumber (key : String) (value : List Char) :
    (s.renumber f).readOption key value = renumberStep f (s.readOption key value) := by
  unfold State.readOption
  have hcontent : (s.renumber f).hasContent = s.hasContent := rfl
  dsimp only
  rw [hcontent]
  by_cases hchart : key = "chart"
  · rw [if_pos hchart, if_pos hchart]
    split <;> rfl
  · rw [if_neg hchart, if_neg hchart]
    cases s.hasContent with
    | true => rfl
    | false =>
        simp only [Bool.false_eq_true, if_false]
        split <;> rfl

theorem joinGroup_renumber (id : String) :
    (s.renumber f).joinGroup id = renumberStep f (s.joinGroup id) := by
  unfold State.joinGroup
  have hgroup : (s.renumber f).group = s.group := rfl
  have hmembership : (s.renumber f).membership = s.membership := rfl
  rw [hgroup, hmembership]
  cases s.group with
  | none => rfl
  | some i =>
      dsimp only
      cases s.membership.find? fun m => m.1 == id with
      | none =>
          have hjoined := map_modify (Group.renumber f) s.diagram.groups i
            (fun g => { g with members := g.members ++ [id] })
            (fun g => { g with members := g.members ++ [id] }) fun _ => rfl
          simp only [renumberStep, State.renumber, Diagram.renumber, hjoined]
      | some entry =>
          dsimp only
          split
          · rfl
          · simp only [State.renumber, Diagram.renumber, List.getElem?_map, State.stop]
            cases s.diagram.groups[entry.2]? <;> rfl

theorem joinGroup_renumber_of_eq {d e : Diagram} (h : d = e.renumber f) (id : String) :
    ({ s.renumber f with diagram := d } : State).joinGroup id =
      renumberStep f (({ s with diagram := e } : State).joinGroup id) := by
  subst h
  exact joinGroup_renumber f { s with diagram := e } id

theorem readDeclaration_renumber (decl : Declaration) :
    (s.renumber f).readDeclaration decl (f line) =
      renumberStep f (s.readDeclaration decl line) := by
  unfold State.readDeclaration
  generalize (ParticipantKind.ofName? (String.ofList decl.kind)).getD .default = kind
  let participant : Participant :=
    { id := String.ofList decl.id
      label := String.ofList (decl.aka.getD decl.id)
      kind := kind
      line := line
      position := decl.position }
  exact joinGroup_renumber_of_eq f s (Diagram.addParticipant_renumber f s.diagram participant) _

theorem readPosition_renumber (id : List Char) (n : Int) :
    (s.renumber f).readPosition id n (f line) = renumberStep f (s.readPosition id n line) := by
  unfold State.readPosition
  have hfound : ((s.renumber f).diagram.participant? (String.ofList id)).getD
      (.named (String.ofList id) (inferKind id) (f line)) =
        ((s.diagram.participant? (String.ofList id)).getD
          (.named (String.ofList id) (inferKind id) line)).renumber f := by
    have hparticipant := Diagram.participant?_renumber f s.diagram (String.ofList id)
    rw [State.renumber, hparticipant]
    cases s.diagram.participant? (String.ofList id) <;> rfl
  simp only [hfound]
  generalize (s.diagram.participant? (String.ofList id)).getD
    (.named (String.ofList id) (inferKind id) line) = participant
  exact joinGroup_renumber_of_eq f s
    (Diagram.addParticipant_renumber f s.diagram { participant with position := some n }) _

theorem readMember_renumber (id : List Char) :
    (s.renumber f).readMember id (f line) = renumberStep f (s.readMember id line) := by
  unfold State.readMember
  exact joinGroup_renumber_of_eq f s
    (Diagram.ensureParticipant_renumber f s.diagram (String.ofList id) (inferKind id) line) _

/-! ### Lines of content -/

theorem readSection_renumber (h : Heading) (indent : Nat) :
    (s.renumber f).readSection h indent (f line) =
      renumberStep f (s.readSection h indent line) := by
  unfold State.readSection
  cases hexColor? h with
  | some color => rfl
  | none =>
      dsimp only
      rw [closeBlocks_renumber]
      generalize s.closeBlocks indent false = c
      let divider : Section :=
        ⟨String.ofList h.label, h.color.map String.ofList, line, c.diagram.messages.length⟩
      have happend := append_renumber f { c with
        diagram := { c.diagram with sections := c.diagram.sections ++ [divider] }
        hasContent := true } (Entry.section divider).alone
      rw [renumberStep, ← happend]
      simp [State.renumber, Diagram.renumber, Section.renumber, Entry.alone, Outline.renumber,
        Entry.renumber, divider]

theorem readMessage_renumber (statement : Statement) :
    (s.renumber f).readMessage statement (f line) =
      (s.readMessage statement line).renumber f := by
  unfold State.readMessage
  have hends : ((s.renumber f).diagram.ensureParticipant (String.ofList statement.sender)
      (inferKind statement.sender) (f line)).ensureParticipant (String.ofList statement.receiver)
        (inferKind statement.receiver) (f line) =
      ((s.diagram.ensureParticipant (String.ofList statement.sender)
        (inferKind statement.sender) line).ensureParticipant (String.ofList statement.receiver)
          (inferKind statement.receiver) line).renumber f := by
    rw [← Diagram.ensureParticipant_renumber, ← Diagram.ensureParticipant_renumber]
    rfl
  dsimp only
  rw [hends, ← append_renumber]
  generalize (s.diagram.ensureParticipant (String.ofList statement.sender)
    (inferKind statement.sender) line).ensureParticipant (String.ofList statement.receiver)
      (inferKind statement.receiver) line = d
  generalize (if statement.isAsync = true then (statement.label, none)
    else Syntax.splitReply statement.label) = labels
  let m : Message :=
    { index := d.messages.length
      sender := String.ofList statement.sender
      receiver := String.ofList statement.receiver
      label := String.ofList labels.1
      reply := labels.2.map String.ofList
      line := line
      isAsync := statement.isAsync }
  have hmessages : (d.renumber f).messages.length = d.messages.length := List.length_map _
  have hadd := Diagram.addMessage_renumber f d m
  simp only [m, Message.renumber] at hadd
  simp only [hmessages, hadd]
  rfl

theorem readBranch_renumber (label : Option (List Char)) (indent : Nat) :
    (s.renumber f).readBranch label indent (f line) =
      renumberStep f (s.readBranch label indent line) := by
  unfold State.readBranch
  have hstack : (s.renumber f).stack = s.stack.map (OpenBlock.renumber f) := rfl
  dsimp only
  rw [hstack]
  cases hs : s.stack with
  | nil => simp [State.renumber, renumberStep, hs]
  | cons b bs =>
      have hindent : (b.renumber f).indent = b.indent := rfl
      have hkind : (b.renumber f).head.kind = b.head.kind := rfl
      have helse : (b.renumber f).hasElse = b.hasElse := rfl
      simp only [List.map_cons, hindent, hkind, helse]
      by_cases hne : b.indent ≠ indent
      · rw [if_pos hne, if_pos hne]
        rfl
      · rw [if_neg hne, if_neg hne]
        cases b.head.kind with
        | parallel => rfl
        | loop => rfl
        | choice =>
            cases b.hasElse with
            | true => rfl
            | false =>
                have hbody := Outline.append_renumber f b.body
                  (Entry.branch ⟨label.map String.ofList, line⟩).alone
                simp only [Bool.false_eq_true, if_false, renumberStep, State.renumber,
                  List.map_cons, OpenBlock.renumber, ← hbody]
                rfl

theorem readNote_renumber (header : NoteHeader) (indent : Nat) :
    (s.renumber f).readNote header indent (f line) =
      (s.readNote header indent line).renumber f := by
  unfold State.readNote
  have hmessages : (s.renumber f).diagram.messages.length = s.diagram.messages.length :=
    List.length_map _
  simp only [hmessages]
  cases header.text with
  | none => rfl
  | some text => exact addNote_renumber f { s with hasContent := true } line _ _ text _

theorem readContent_renumber (content : Content) (indent : Nat) :
    (s.renumber f).readContent content indent (f line) =
      renumberStep f (s.readContent content indent line) := by
  cases content with
  | asyncKeyword => rfl
  | message statement => exact congrArg Except.ok (readMessage_renumber f s line statement)
  | block kind label => rfl
  | branch label => exact readBranch_renumber f s line label indent
  | note header => exact congrArg Except.ok (readNote_renumber f s line header indent)
  | other => rfl

theorem readForm_renumber (form : Line) (text : List Char) (indent : Nat) :
    (s.renumber f).readForm form text indent (f line) =
      renumberStep f (s.readForm form text indent line) := by
  cases form with
  | blank => rfl
  | group h => exact readGroup_renumber f s line h
  | comment => rfl
  | hash => rfl
  | «section» h => exact readSection_renumber f s line h indent
  | option key value => exact readOption_renumber f s key value
  | declaration decl => exact readDeclaration_renumber f s line decl
  | position id n => exact readPosition_renumber f s line id n
  | member id => exact readMember_renumber f s line id
  | content c =>
      rw [State.readForm, closeBlocks_renumber, readContent_renumber]
      rfl

/-! ### Lines -/

theorem readPlain_renumber (raw : List Char) :
    (s.renumber f).readPlain raw (f line) = renumberStep f (s.readPlain raw line) := by
  have hgroup : (s.renumber f).group = s.group := rfl
  unfold State.readPlain
  simp only [hgroup]
  rw [← readForm_renumber]
  split <;> rfl

/-- **One line.** Whatever numbers lines have, the reader does the same. -/
theorem readLine_renumber (raw : List Char) :
    (s.renumber f).readLine raw (f line) = renumberStep f (s.readLine raw line) := by
  unfold State.readLine
  have hnote : (s.renumber f).note = s.note.map (OpenNote.renumber f) := rfl
  rw [hnote]
  cases s.note with
  | none => exact readPlain_renumber f s line raw
  | some n =>
      have hcollect : (n.renumber f).collect? raw =
          (n.collect? raw).map (OpenNote.renumber f) := by
        unfold OpenNote.collect?
        dsimp only
        rw [apply_ite (Option.map (OpenNote.renumber f))]
        rfl
      simp only [Option.map_some, hcollect]
      cases n.collect? raw with
      | some m => rfl
      | none =>
          rw [closeNote_renumber]
          exact readPlain_renumber f s.closeNote line raw

variable {f}

theorem readLines_renumber {lines : List (List Char)} {line other : Nat}
    (hf : ∀ i < lines.length, f (line + i) = other + i) (s : State) :
    (s.renumber f).readLines other lines = renumberRun f (s.readLines line lines) := by
  induction lines generalizing s line other with
  | nil => rfl
  | cons raw rest ih =>
      have hfirst : f line = other := hf 0 (Nat.succ_pos _)
      have hrest : ∀ i < rest.length, f (line + 1 + i) = other + 1 + i := by
        intro i hi
        have hnext := hf (i + 1) (Nat.succ_lt_succ hi)
        rwa [Nat.add_comm i, ← Nat.add_assoc, ← Nat.add_assoc] at hnext
      rw [State.readLines, State.readLines, ← hfirst, readLine_renumber]
      cases s.readLine raw line with
      | ok t =>
          rw [hfirst]
          exact ih hrest t
      | error stop => rfl

theorem finish_renumber (s : State) : (s.renumber f).finish = s.finish.renumber f := by
  rw [State.finish, closeNote_renumber, closeAll_renumber]
  rfl

end

end Lifeline.Reader
