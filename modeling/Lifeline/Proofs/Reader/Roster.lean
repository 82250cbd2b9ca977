import Lifeline.Proofs.Diagram.Mentions
import Lifeline.Proofs.Reader.Order

/-! # The participants of a document

Participants are met on four forms of lines: declarations, position lines, members of groups and
messages. `Row.mentions` says whom a row mentions and what it says of them. A reading records the
mentions one after the other and changes the participants in no other way (`participants_readLine`,
`Diagram.participants_read`), so they are in the end as their mentions describe them, wherever the
mentions stand (`Diagram.cast_read`). -/

namespace Lifeline.Reader

open Lifeline.Syntax (Content Heading Line NoteHeader Statement)

/-- What a row says of participants, in the order of the line: the sender of a message comes before
its receiver. -/
def Row.mentions (r : Row) : List Mention :=
  match r.role with
  | .form (.declaration declaration) => [⟨r.number, .declares declaration⟩]
  | .form (.position id n) => [⟨r.number, .places id n⟩]
  | .form (.member id) => [⟨r.number, .names id⟩]
  | .form (.content (.message statement)) =>
    [⟨r.number, .names statement.sender⟩, ⟨r.number, .names statement.receiver⟩]
  | _ => []

/-- All mentions of participants in a text. -/
def mentions (text : List Char) : List Mention := (rows text).flatMap Row.mentions

theorem mentions_of_getElem? {text : List Char} {i : Nat} {r : Row} (h : (rows text)[i]? = some r) :
    mentions text = ((rows text).take i).flatMap Row.mentions ++
      (r.mentions ++ ((rows text).drop (i + 1)).flatMap Row.mentions) := by
  obtain ⟨hi, rfl⟩ := List.getElem?_eq_some_iff.mp h
  rw [← List.flatMap_cons, List.getElem_cons_drop, ← List.flatMap_append, List.take_append_drop]
  rfl

/-- What a state holds about participants and groups. -/
structure Roster where
  participants : List Participant
  groups : List Group
  membership : List (String × Nat)
  group : Option Nat

/-- The participants and groups of a state. -/
def State.roster (s : State) : Roster :=
  ⟨s.diagram.participants, s.diagram.groups, s.membership, s.group⟩

/-! ### What leaves participants and groups alone -/

section
variable {s t : State} {line indent : Nat}

theorem roster_of_besides (h : t.besides = s.besides) : t.roster = s.roster := by
  have hroster : t.besides.roster = s.besides.roster := congrArg State.roster h
  exact hroster

theorem roster_append (s : State) (o : Outline) : (s.append o).roster = s.roster :=
  roster_of_besides (besides_append s)

theorem roster_closeBlocks (s : State) (indent : Nat) (startsBranch : Bool) :
    (s.closeBlocks indent startsBranch).roster = s.roster :=
  roster_of_besides (besides_closeBlocks s indent startsBranch)

theorem roster_finish (s : State) : s.finish.roster = s.roster := by
  have h := congrArg State.roster (besides_finish s)
  exact h

theorem roster_ready (s : State) (indent : Nat) :
    (s.ready indent).roster = { s.roster with group := if indent = 0 then none else s.group } := by
  have h := congrArg State.roster (besides_ready s indent)
  exact h

theorem roster_readOption {key : String} {value : List Char} (ht : s.readOption key value = .ok t) :
    t.roster = s.roster := by
  obtain ⟨-, -, rfl⟩ | ⟨title, options, rfl⟩ := readOption_ok ht <;> rfl

theorem roster_readSection {h : Heading} (ht : s.readSection h indent line = .ok t) :
    t.roster = s.roster := by
  obtain ⟨sections, h⟩ := besides_readSection ht
  have hroster := congrArg State.roster h
  exact hroster

theorem roster_readContent {c : Content} (hc : ∀ statement, c ≠ .message statement)
    (ht : s.readContent c indent line = .ok t) : t.roster = s.roster := by
  cases c with
  | asyncKeyword => exact absurd ht (State.stop_ne_ok _ _ _)
  | message statement => exact absurd rfl (hc statement)
  | block kind label =>
      obtain rfl := Except.ok.inj ht
      rfl
  | branch label =>
      obtain ⟨rfl, -⟩ | ⟨b, bs, -, -, -, -, rfl⟩ := readBranch_ok ht <;> rfl
  | note header =>
      obtain rfl := Except.ok.inj ht
      unfold State.readNote
      dsimp only
      split
      · exact (roster_of_besides (besides_addNote _ _ _ _ _ _)).trans rfl
      · rfl
  | other =>
      obtain rfl := Except.ok.inj ht
      rfl

/-! ### What mentions participants -/

theorem participants_readGroup {h : Heading} (ht : s.readGroup h line = .ok t) :
    t.diagram.participants = s.diagram.participants := by
  obtain ⟨-, ⟨i, -, rfl⟩ | ⟨-, rfl⟩⟩ := readGroup_ok ht <;> rfl

theorem participants_joinGroup {id : String} (ht : s.joinGroup id = .ok t) :
    t.diagram.participants = s.diagram.participants := by
  obtain ⟨rfl, -⟩ | ⟨i, -, -, rfl⟩ := joinGroup_ok ht <;> rfl

theorem addMessage_of_mem {d : Diagram} {m : Message} (hsender : m.sender ∈ d.ids)
    (hreceiver : m.receiver ∈ d.ids) :
    d.addMessage m =
      { d with messages := d.messages ++ [{ m with index := d.messages.length }] } := by
  rw [Diagram.addMessage, Diagram.ensureParticipant_of_mem hsender,
    Diagram.ensureParticipant_of_mem hreceiver]

theorem roster_readMessage (s : State) (statement : Statement) (line : Nat) :
    (s.readMessage statement line).roster = { s.roster with
      participants := ((s.diagram.record ⟨line, .names statement.sender⟩).record
        ⟨line, .names statement.receiver⟩).participants } := by
  have hsender := Diagram.registers_ensureParticipant s.diagram (String.ofList statement.sender)
    (inferKind statement.sender) line
  have hreceiver := Diagram.registers_ensureParticipant (s.diagram.ensureParticipant
    (String.ofList statement.sender) (inferKind statement.sender) line)
    (String.ofList statement.receiver) (inferKind statement.receiver) line
  obtain ⟨ps, hps⟩ := (hsender.trans hreceiver).same
  have hmem := hreceiver.ids.subset (Diagram.mem_ids_ensureParticipant s.diagram
    (String.ofList statement.sender) (inferKind statement.sender) line)
  have hmem' := Diagram.mem_ids_ensureParticipant (s.diagram.ensureParticipant
    (String.ofList statement.sender) (inferKind statement.sender) line)
    (String.ofList statement.receiver) (inferKind statement.receiver) line
  unfold State.readMessage
  dsimp only [Diagram.record]
  rw [roster_append, addMessage_of_mem hmem hmem', hps]
  rfl

theorem participants_readForm {r : Row} {form : Line} {text : List Char}
    (hrole : r.role = .form form) (ht : s.readForm form text r.indent r.number = .ok t) :
    t.diagram.participants = (r.mentions.foldl Diagram.record s.diagram).participants := by
  have hsame : t.roster = s.roster → t.diagram.participants = s.diagram.participants :=
    congrArg Roster.participants
  unfold Row.mentions
  rw [hrole]
  cases form with
  | blank =>
      obtain rfl := Except.ok.inj ht
      rfl
  | group h => exact participants_readGroup ht
  | comment =>
      obtain rfl := Except.ok.inj ht
      rfl
  | hash => exact absurd ht (State.stop_ne_ok _ _ _)
  | «section» h => exact hsame (roster_readSection ht)
  | option key value => exact hsame (roster_readOption ht)
  | declaration decl => exact participants_joinGroup ht
  | position id n => exact participants_joinGroup ht
  | member id => exact participants_joinGroup ht
  | content c =>
      have hclosed : (s.closeBlocks r.indent (Syntax.startsBranch text)).diagram.participants =
          s.diagram.participants := congrArg Roster.participants (roster_closeBlocks s _ _)
      have ht : (s.closeBlocks r.indent (Syntax.startsBranch text)).readContent c r.indent
        r.number = .ok t := ht
      cases c with
      | message statement =>
          obtain rfl := Except.ok.inj ht
          refine (congrArg Roster.participants (roster_readMessage _ _ _)).trans ?_
          exact Diagram.participants_foldl_record_congr hclosed
            [⟨r.number, .names statement.sender⟩, ⟨r.number, .names statement.receiver⟩]
      | _ => exact hsame ((roster_readContent (by simp) ht).trans (roster_closeBlocks s _ _))

/-- A line records its mentions and changes the participants in no other way. -/
theorem participants_readLine {raw : List Char} (ht : s.readLine raw line = .ok t) :
    t.diagram.participants =
      ((Row.mentions ⟨line, Syntax.indent raw, s.scan.role raw⟩).foldl Diagram.record
        s.diagram).participants := by
  cases hrole : s.scan.role raw with
  | body =>
      obtain ⟨n, -, heq⟩ := readLine_body hrole line
      obtain rfl := Except.ok.inj (heq.symm.trans ht)
      rfl
  | form form =>
      obtain ⟨-, heq⟩ := readLine_form hrole line
      have hready : (s.ready (Syntax.indent raw)).diagram.participants = s.diagram.participants :=
        congrArg Roster.participants (roster_ready s _)
      rw [participants_readForm (r := ⟨line, Syntax.indent raw, .form form⟩) rfl (heq ▸ ht)]
      exact Diagram.participants_foldl_record_congr hready _

end

end Lifeline.Reader

namespace Lifeline

open Reader

/-- A reading that ends well has recorded the mentions of its text, in a diagram of any content. -/
theorem Diagram.participants_read {e d : Diagram} {text : List Char}
    (h : e.read text = (none, d)) :
    d.participants = ((mentions text).foldl record e).participants := by
  obtain ⟨s, hs, rfl⟩ := read_eq_none h
  have hrun := State.readLines_induct
    (P := fun past _ s =>
      s.diagram.participants = ((past.flatMap Row.mentions).foldl record e).participants)
    (fun past line s raw t hpast ht => ?_) [] rfl hs
  · exact (congrArg Roster.participants (roster_finish s)).trans hrun
  · rw [participants_readLine ht, List.flatMap_append, List.foldl_append, List.flatMap_cons,
      List.flatMap_nil, List.append_nil]
    exact participants_foldl_record_congr hpast _

/-- **Participants are what their mentions say.** A text that is read into an empty diagram leaves
the participants that it mentions, in the order of their first mentions; each stands on the line of
its first mention and has the kind and the label of its last declaration, if it has one, and the
last position that it is given. -/
theorem Diagram.cast_read {text : List Char} {d : Diagram} (h : empty.read text = (none, d)) :
    d.participants.map Participant.id =
        Order.firstOccurrences [] ((mentions text).map Mention.name) ∧
      ∀ p ∈ d.participants, portrait (mentions text) p.id = some p := by
  obtain ⟨hids, hportraits⟩ := cast_record (d := empty) rfl (mentions text)
  have hread := participants_read h
  rw [hread]
  exact ⟨hids, hportraits⟩

/-- Who is mentioned is a participant, as its mentions describe it. -/
theorem Diagram.exists_portrait {text : List Char} {d : Diagram} (h : empty.read text = (none, d))
    {m : Mention} (hm : m ∈ mentions text) :
    ∃ p ∈ d.participants, p.id = m.name ∧ portrait (mentions text) m.name = some p := by
  obtain ⟨hids, hportraits⟩ := cast_read h
  have hmem : m.name ∈ d.participants.map Participant.id := by
    rw [hids, (Order.firstOccurrences_spec [] _).2]
    exact ⟨List.mem_map_of_mem hm, List.not_mem_nil⟩
  obtain ⟨p, hp, hid⟩ := List.mem_map.mp hmem
  exact ⟨p, hp, hid, hid ▸ hportraits p hp⟩

/-- A document that mentions its participants before, between and behind their declarations. -/
def retold : List Char :=
  "## Back\n  Db\n  Web is a frontend position 3\nApp is a service aka \"The app\"
App -> Db: ask\nDb is a sofa\nRouter -> Db: keep\nApp position -1\nWeb is a cache".toList

theorem Diagram.cast_read_retold : ∃ d, empty.read retold = (none, d) ∧
    d.participants = [⟨"Db", "Db", .default, 2, none⟩, ⟨"Web", "Web", .cache, 3, some 3⟩,
      ⟨"App", "The app", .service, 4, some (-1)⟩, ⟨"Router", "Router", .networking, 7, none⟩] ∧
    d.participants.map Participant.id =
      Order.firstOccurrences [] ((mentions retold).map Mention.name) ∧
    ∀ p ∈ d.participants, portrait (mentions retold) p.id = some p := by
  have hread : (empty.read retold).1 = none ∧
      (empty.read retold).2.participants = [⟨"Db", "Db", .default, 2, none⟩,
        ⟨"Web", "Web", .cache, 3, some 3⟩, ⟨"App", "The app", .service, 4, some (-1)⟩,
        ⟨"Router", "Router", .networking, 7, none⟩] := by
    unfold retold
    rw [String.toList_ofList]
    decide +kernel
  have h := read_of_fst empty retold hread.1
  exact ⟨_, h, hread.2, cast_read h⟩

end Lifeline
