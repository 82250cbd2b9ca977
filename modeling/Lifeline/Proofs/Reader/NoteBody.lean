import Lifeline.Proofs.Reader.Failure
import Mathlib.Data.List.DropRight

/-! # The body of a note

A note whose header has no text collects the lines that follow, up to the first one that is neither
blank nor indented deeper than the header. Whatever these lines hold, they change nothing but what
is collected (`readLines_body`). Then the note is added, in the blocks that are open behind its
header (`addNote_cases`), before the next line is read (`readLines_closeNote`), and what is added
later stands behind it (`State.Grows`). `Diagram.note_read` puts the parts together. -/

namespace Lifeline

/-! ### The text of a body -/

namespace Text

variable {ls : List (List Char)}

/-- Only empty entries are cut off, and no empty one is left at an end. -/
theorem exists_withoutBlankEnds (ls : List (List Char)) : ∃ front behind,
    ls = front ++ withoutBlankEnds ls ++ behind ∧ (∀ l ∈ front, l = []) ∧ (∀ l ∈ behind, l = []) ∧
      (∀ l ∈ (withoutBlankEnds ls).head?, l ≠ []) ∧
      ∀ l ∈ (withoutBlankEnds ls).getLast?, l ≠ [] := by
  have hcut : withoutBlankEnds ls = (ls.dropWhile List.isEmpty).rdropWhile List.isEmpty := rfl
  have hfront : ∀ l ∈ ls.takeWhile List.isEmpty, l = [] :=
    fun l hl => List.isEmpty_iff.mp (List.mem_takeWhile_imp hl)
  have hbehind : ∀ l ∈ (ls.dropWhile List.isEmpty).rtakeWhile List.isEmpty, l = [] :=
    fun l hl => List.isEmpty_iff.mp (List.mem_rtakeWhile_imp hl)
  have hjoin : withoutBlankEnds ls ++ (ls.dropWhile List.isEmpty).rtakeWhile List.isEmpty =
      ls.dropWhile List.isEmpty := by
    rw [hcut, List.rdropWhile_append_rtakeWhile]
  refine ⟨_, _, ?_, hfront, hbehind, ?_, ?_⟩
  · rw [List.append_assoc, hjoin, List.takeWhile_append_dropWhile]
  · intro l hl hnil
    obtain ⟨rest, hcons⟩ := List.head?_eq_some_iff.mp hl
    have hhead := List.head?_dropWhile_not List.isEmpty ls
    rw [← hjoin, hcons] at hhead
    simp [hnil] at hhead
  · intro l hl hnil
    obtain ⟨init, hinit⟩ := List.getLast?_eq_some_iff.mp hl
    have hne : (ls.dropWhile List.isEmpty).rdropWhile List.isEmpty ≠ [] := by
      rw [← hcut, hinit]
      simp
    have hlast := List.rdropWhile_last_not List.isEmpty (ls.dropWhile List.isEmpty) hne
    simp [← hcut, hinit, hnil] at hlast

theorem withoutBlankEnds_eq_nil : withoutBlankEnds ls = [] ↔ ∀ l ∈ ls, l = [] := by
  obtain ⟨front, behind, heq, hfront, hbehind, hhead, -⟩ := exists_withoutBlankEnds ls
  constructor
  · intro hnil l hl
    rw [heq, hnil, List.append_nil, List.mem_append] at hl
    exact hl.elim (hfront l) (hbehind l)
  · intro hall
    cases hcut : withoutBlankEnds ls with
    | nil => rfl
    | cons l rest =>
        have hl : l ∈ ls := by
          rw [heq, hcut]
          simp
        exact absurd (hall l hl) (hhead l (by simp [hcut]))

theorem intercalate_eq_nil (sep : List Char) (hhead : ∀ l ∈ ls.head?, l ≠ []) :
    sep.intercalate ls = [] ↔ ls = [] := by
  cases ls with
  | nil => simp
  | cons l rest =>
      have hl : l ≠ [] := hhead l rfl
      cases rest <;> simp [List.intercalate, List.intersperse, hl]

end Text

namespace Reader

open Lifeline.Syntax (Content Line NoteHeader)

/-- A line belongs to the body of a note whose header has the indentation `d` if it is blank or
indented deeper. -/
def inBody (d : Nat) (raw : List Char) : Bool := (Text.trim raw).isEmpty || d < Syntax.indent raw

/-- The text of a body: its lines, each trimmed, from the first that is not blank to the last. -/
def IsBodyText (body : List (List Char)) (text : List Char) : Prop :=
  ∃ front inner behind, body.map Text.trim = front ++ inner ++ behind ∧
    (∀ l ∈ front, l = []) ∧ (∀ l ∈ behind, l = []) ∧
    (∀ l ∈ inner.head?, l ≠ []) ∧ (∀ l ∈ inner.getLast?, l ≠ []) ∧
    text = ['\n'].intercalate inner

/-- The note that a header begins: `lines` of its body have been collected. -/
def State.opened (s : State) (header : NoteHeader) (indent line : Nat)
    (lines : List (List Char)) : OpenNote :=
  { participant := (header.participant.map String.ofList).or s.lastSender
    side := header.side.getD .right
    indent := indent
    line := line
    afterMessage := (List.range s.diagram.messages.length).getLast?
    lines := lines }

/-- The note of a header on a line, with the text of its body. The header is read in the state
`s`. -/
structure IsNoteOf (n : Note) (s : State) (header : NoteHeader) (line : Nat)
    (body : List (List Char)) : Prop where
  participant : (header.participant.map String.ofList).or s.lastSender = some n.participant
  side : n.side = header.side.getD .right
  line : n.line = line
  after : ∀ i, n.afterMessage = some i ↔ i + 1 = s.diagram.messages.length
  text : IsBodyText body n.text.toList

/-- What comes of the note that the header on the line `raw` begins in the state `s`: behind the
header, in the state `t`, the lines of `body` change nothing but what is collected, whatever they
hold; `new` is the note of these lines, if there is one. -/
structure Collects (s t : State) (header : NoteHeader) (raw : List Char) (line : Nat)
    (body : List (List Char)) (new : Option Note) : Prop where
  begun : s.readLine raw line = .ok t
  inside : ∀ l ∈ body, inBody (Syntax.indent raw) l = true
  kept : ∀ front, front <+: body →
    ∃ note, t.readLines (line + 1) front = .ok { t with note := note }
  added : new.isSome = true ↔ (∃ l ∈ body, Text.trim l ≠ []) ∧
    ∃ id ∈ (header.participant.map String.ofList).or s.lastSender,
      s.diagram.hasParticipant id = true
  note : ∀ n ∈ new, IsNoteOf n s header line body

section
variable {s t u : State} {line d : Nat} {body later : List (List Char)}

theorem opened_text (s : State) (header : NoteHeader) (indent line : Nat)
    (body : List (List Char)) :
    IsBodyText body (s.opened header indent line (body.map Text.trim)).text ∧
      ((s.opened header indent line (body.map Text.trim)).text ≠ [] ↔
        ∃ l ∈ body, Text.trim l ≠ []) := by
  obtain ⟨front, behind, heq, hfront, hbehind, hhead, hlast⟩ :=
    Text.exists_withoutBlankEnds (body.map Text.trim)
  refine ⟨⟨front, _, behind, heq, hfront, hbehind, hhead, hlast, rfl⟩, ?_⟩
  rw [OpenNote.text, ne_eq, State.opened, Text.intercalate_eq_nil _ hhead,
    Text.withoutBlankEnds_eq_nil]
  simp

/-! ### Collecting the body -/

theorem exists_body (d : Nat) (following : List (List Char)) : ∃ body later,
    following = body ++ later ∧ (∀ raw ∈ body, inBody d raw = true) ∧
      ∀ raw ∈ later.head?, inBody d raw = false := by
  refine ⟨following.takeWhile (inBody d), following.dropWhile (inBody d),
    List.takeWhile_append_dropWhile.symm, fun raw hraw => List.mem_takeWhile_imp hraw, ?_⟩
  intro raw hraw
  have hhead := List.head?_dropWhile_not (inBody d) following
  rw [Option.mem_def.mp hraw] at hhead
  exact hhead

theorem readNote_opened {header : NoteHeader} (h : header.text = none) (s : State)
    (indent line : Nat) : s.readNote header indent line =
      { s with hasContent := true, note := some (s.opened header indent line []) } := by
  unfold State.readNote State.opened
  simp only [h]
  cases s.diagram.messages.length with
  | zero => rfl
  | succ n => rw [List.range_succ, List.getLast?_concat]

/-- Lines of the body are collected, whatever they hold, and nothing else changes. -/
theorem readLines_body {n : OpenNote} (hn : s.note = some n)
    (hbody : ∀ raw ∈ body, inBody n.indent raw = true) : s.readLines line body =
      .ok { s with note := some { n with lines := n.lines ++ body.map Text.trim } } := by
  induction body generalizing s n line with
  | nil =>
      rw [List.map_nil, List.append_nil, ← hn]
      rfl
  | cons raw rest ih =>
      obtain ⟨hraw, hrest⟩ := List.forall_mem_cons.mp hbody
      have hline : s.readLine raw line =
          .ok { s with note := some { n with lines := n.lines ++ [Text.trim raw] } } := by
        rw [inBody] at hraw
        simp [State.readLine, hn, OpenNote.collect?, hraw]
      rw [State.readLines, hline]
      dsimp only
      rw [ih (n := { n with lines := n.lines ++ [Text.trim raw] }) rfl hrest]
      simp

/-- The note ends before a line outside its body, or at the end of the document. -/
theorem readLines_closeNote {n : OpenNote} (hn : s.note = some n)
    (hlater : ∀ raw ∈ later.head?, inBody n.indent raw = false) :
    (s.readLines line later).map State.finish =
      (s.closeNote.readLines line later).map State.finish := by
  have hnone : s.closeNote.note = none := congrArg State.note (besides_closeNote s)
  cases later with
  | nil =>
      show Except.ok s.closeNote.closeAll = Except.ok s.closeNote.closeNote.closeAll
      rw [closeNote_of_none hnone]
  | cons raw rest =>
      have hraw := hlater raw rfl
      have hline : s.readLine raw line = s.closeNote.readLine raw line := by
        rw [inBody] at hraw
        simp [State.readLine, hn, hnone, OpenNote.collect?, hraw]
      rw [State.readLines, State.readLines, hline]

/-- A note is added exactly where it has text and its participant is registered. -/
theorem addNote_cases (s : State) (participant : Option String) (side : Side) (text : List Char)
    (line : Nat) (after : Option Nat) : ∃ new : Option Note,
      s.addNote participant side text line after =
        new.elim s (fun n => s.append (Entry.note n).alone) ∧
      (new.isSome = true ↔
        text ≠ [] ∧ ∃ id ∈ participant, s.diagram.hasParticipant id = true) ∧
      ∀ n ∈ new, participant = some n.participant ∧
        n = ⟨String.ofList text, side, n.participant, line, after⟩ := by
  cases participant with
  | none => exact ⟨none, rfl, by simp, by simp⟩
  | some id =>
      cases hskip : text.isEmpty || !s.diagram.hasParticipant id with
      | true =>
          have hadd : s.addNote (some id) side text line after = s := if_pos hskip
          refine ⟨none, hadd, ?_, by simp⟩
          have himp : text = [] ∨ s.diagram.hasParticipant id = false := by simpa using hskip
          obtain rfl | hid := himp
          · simp
          · simp [hid]
      | false =>
          have hadd : s.addNote (some id) side text line after =
              s.append (Entry.note ⟨String.ofList text, side, id, line, after⟩).alone :=
            if_neg (by simp [hskip])
          have himp : text ≠ [] ∧ s.diagram.hasParticipant id = true := by simpa using hskip
          refine ⟨some ⟨String.ofList text, side, id, line, after⟩, hadd, ?_, ?_⟩
          · simp [himp.1, himp.2]
          · rintro _ ⟨rfl⟩
            exact ⟨rfl, rfl⟩

theorem readLine_header {raw : List Char} {header : NoteHeader}
    (hrole : s.scan.role raw = .form (.content (.note header))) (htext : header.text = none)
    (line : Nat) : ∃ t, s.readLine raw line = .ok t ∧
      t.note = some (s.opened header (Syntax.indent raw) line []) ∧
      t.diagram.participants = s.diagram.participants := by
  obtain ⟨-, heq⟩ := readLine_form hrole line
  have hclosed := (besides_closeBlocks (s.ready (Syntax.indent raw)) (Syntax.indent raw)
    (Syntax.startsBranch (Text.trim raw))).trans (besides_ready s (Syntax.indent raw))
  rw [heq, State.readForm]
  generalize (s.ready (Syntax.indent raw)).closeBlocks (Syntax.indent raw)
    (Syntax.startsBranch (Text.trim raw)) = c at hclosed
  have hopened := congrArg (fun s => s.opened header (Syntax.indent raw) line []) hclosed
  have hparticipants := congrArg (fun s => s.diagram.participants) hclosed
  refine ⟨_, rfl, ?_, ?_⟩
  · rw [readNote_opened htext]
    exact congrArg some hopened
  · rw [readNote_opened htext]
    exact hparticipants

/-- The state behind a note: no note is collected, and the new one lies in the open blocks. -/
def State.withNote (t : State) (new : Option Note) : State :=
  new.elim { t with note := none }
    fun n => ({ t with note := none } : State).append (Entry.note n).alone

theorem note_withNote (t : State) (new : Option Note) : (t.withNote new).note = none := by
  cases new with
  | none => rfl
  | some n => exact congrArg State.note (besides_append _)

theorem places_withNote (t : State) (new : Option Note) : (t.withNote new).places =
    t.places ++ (new.map fun n => ⟨.entry (.note n), t.path⟩).toList := by
  cases new with
  | none => exact (List.append_nil _).symm
  | some n =>
      rw [State.withNote, Option.elim_some, places_append, places_alone rfl]
      rfl

theorem closeNote_opened {header : NoteHeader}
    (ht : t.note = some (s.opened header d line (body.map Text.trim)))
    (hparticipants : t.diagram.participants = s.diagram.participants) : ∃ new : Option Note,
      t.closeNote = t.withNote new ∧
      (new.isSome = true ↔ (∃ l ∈ body, Text.trim l ≠ []) ∧
        ∃ id ∈ (header.participant.map String.ofList).or s.lastSender,
          s.diagram.hasParticipant id = true) ∧
      ∀ n ∈ new, IsNoteOf n s header line body := by
  obtain ⟨hbody, hnonempty⟩ := opened_text s header d line body
  rw [closeNote_of_some ht]
  generalize hn : s.opened header d line (body.map Text.trim) = n at hbody hnonempty
  obtain ⟨new, hadd, hnew, hnote⟩ := addNote_cases { t with note := none } n.participant n.side
    n.text n.line n.afterMessage
  have hregistered : ∀ id, ({ t with note := none } : State).diagram.hasParticipant id =
      s.diagram.hasParticipant id := by
    intro id
    rw [Diagram.hasParticipant, Diagram.hasParticipant, hparticipants]
  simp only [hregistered, hnonempty] at hnew
  subst hn
  refine ⟨new, hadd, hnew, fun m hm => ?_⟩
  obtain ⟨hparticipant, heq⟩ := hnote m hm
  refine ⟨hparticipant, ?_, ?_, ?_, ?_⟩
  · rw [heq]
    rfl
  · rw [heq]
    rfl
  · intro i
    rw [heq]
    cases hlen : s.diagram.messages.length with
    | zero => simp [State.opened, hlen]
    | succ k => simp [State.opened, hlen, List.range_succ, eq_comm]
  · rw [heq, String.toList_ofList]
    exact hbody

/-! ### What is read later -/

/-- What has been added since the state `s` stands behind everything in it, and on a line from
`line` on. -/
structure State.Grows (s : State) (line : Nat) (t : State) : Prop where
  places : ∃ new, t.places = s.places ++ new ∧ ∀ p ∈ new, line ≤ p.item.line
  note : ∀ n ∈ t.note, line ≤ n.line

theorem State.Grows.refl (h : s.note = none) (line : Nat) : s.Grows line s :=
  ⟨⟨[], by simp, by simp⟩, by simp [h]⟩

theorem State.Grows.congr (h : s.Grows line t) (hplaces : u.places = t.places)
    (hnote : ∀ n ∈ u.note, ∃ m ∈ t.note, m.line = n.line) : s.Grows line u := by
  obtain ⟨⟨new, hnew, hline⟩, ht⟩ := h
  refine ⟨⟨new, hplaces.trans hnew, hline⟩, fun n hn => ?_⟩
  obtain ⟨m, hm, hmn⟩ := hnote n hn
  exact hmn ▸ ht m hm

theorem State.Grows.extend {here : Nat} {new : Option Place} (h : s.Grows line t)
    (hext : Extends t u here new) (hhere : ∀ p ∈ new, line ≤ here)
    (hnote : ∀ n ∈ u.note, line ≤ n.line) : s.Grows line u := by
  obtain ⟨⟨added, hadded, hline⟩, -⟩ := h
  refine ⟨⟨added ++ new.toList, ?_, ?_⟩, hnote⟩
  · rw [hext.places, hadded, List.append_assoc]
  · intro p hp
    rcases List.mem_append.mp hp with hp | hp
    · exact hline p hp
    · have hp := Option.mem_toList.mp hp
      rw [hext.line p hp]
      exact hhere p hp

theorem State.Grows.closeNote (h : s.Grows line t) : s.Grows line t.closeNote := by
  cases hn : t.note with
  | none => rwa [closeNote_of_none hn]
  | some n =>
      obtain ⟨new, hext, -, -, -, hnone⟩ := Extends.closeNote hn
      exact h.extend hext (fun _ _ => h.note n hn) (by simp [hnone])

theorem State.Grows.ready (h : s.Grows line t) (indent : Nat) : s.Grows line (t.ready indent) := by
  unfold State.ready
  split
  · exact h.closeNote.congr (places_congr rfl rfl) fun n hn => ⟨n, hn, rfl⟩
  · exact h.closeNote

theorem State.Grows.readLine {raw : List Char} {here : Nat} (h : s.Grows line t)
    (hle : line ≤ here) (hu : t.readLine raw here = .ok u) : s.Grows line u := by
  cases hrole : t.scan.role raw with
  | body =>
      obtain ⟨n, hn, heq⟩ := readLine_body hrole here
      obtain rfl := Except.ok.inj (heq.symm.trans hu)
      refine h.congr (places_congr rfl rfl) ?_
      rintro _ ⟨rfl⟩
      exact ⟨n, hn, rfl⟩
  | form form =>
      obtain ⟨hform, heq⟩ := readLine_form hrole here
      have hready := h.ready (Syntax.indent raw)
      let r : Row := ⟨here, Syntax.indent raw, .form form⟩
      obtain ⟨-, hdesc⟩ | ⟨-, new, hadds⟩ :=
        readForm_cases (r := r) rfl (note_ready t _) hform (heq ▸ hu)
      · refine hready.congr (places_congr hdesc.outline hdesc.stack) fun n hn => ?_
        exact ⟨n, hdesc.note ▸ hn, rfl⟩
      · have hclosed : s.Grows line ((t.ready r.indent).closeBlocks r.indent r.branch?.isSome) :=
          hready.congr (places_closeBlocks _ _ _) fun n hn =>
            ⟨n, note_of_besides (besides_closeBlocks _ _ _) ▸ hn, rfl⟩
        refine hclosed.extend hadds.ext (fun _ _ => hle) fun n hn => ?_
        rw [(hadds.note n hn).1]
        exact hle

theorem State.Grows.readLines {lines : List (List Char)} (hs : s.note = none)
    (ht : s.readLines line lines = .ok t) : s.Grows line t := by
  have hrun := State.readLines_induct (P := fun _ here t => line ≤ here ∧ s.Grows line t)
    (fun _ _ _ _ _ h hu => ⟨Nat.le_succ_of_le h.1, h.2.readLine h.1 hu⟩) []
    ⟨le_rfl, .refl hs line⟩ ht
  exact hrun.2

end

end Reader

open Reader

namespace Diagram

/-- What is read from a state on without a note stands behind everything in it. -/
theorem exists_walk_read {text : List Char} {d : Diagram} {u : State} {line : Nat}
    {later : List (List Char)} (h : empty.read text = (none, d))
    (hrun : ((State.start empty).readLines 1 (Text.lines text)).map State.finish =
      (u.readLines line later).map State.finish) (hu : u.note = none) :
    ∃ behind, d.outline.walk = u.places ++ behind ∧ ∀ p ∈ behind, line ≤ p.item.line := by
  obtain ⟨s, hs, rfl⟩ := read_eq_none h
  have hordered := State.readLines_induct (P := fun _ line s => s.Ordered line)
    (fun _ _ _ _ _ h ht => h.readLine ht) [] ordered_start hs
  rw [hs] at hrun
  cases ht : u.readLines line later with
  | error stop => simp [ht, Except.map] at hrun
  | ok t =>
      have hfinish : s.finish = t.finish := by simpa [ht, Except.map] using hrun
      obtain ⟨behind, hplaces, hline⟩ := (State.Grows.readLines hu ht).closeNote.places
      refine ⟨behind, ?_, hline⟩
      rw [walk_finish hordered.closeNote.orderly, hfinish, ← hplaces]
      exact places_closeAll _

/-- **The body of a note** is the longest run of lines behind its header that are blank or indented
deeper. These lines change nothing but what is collected. Then the note is added, if it has text and
its participant is registered: in the blocks that the header line leaves open, behind all that has
been read, and before anything that stands on a later line. -/
theorem note_read {text raw : List Char} {past following : List (List Char)} {s : State}
    {header : Syntax.NoteHeader} (hlines : Text.lines text = past ++ raw :: following)
    (hpast : (State.start empty).readLines 1 past = .ok s)
    (hrole : s.scan.role raw = .form (.content (.note header))) (htext : header.text = none) :
    ∃ body later t new, following = body ++ later ∧
      (∀ l ∈ later.head?, inBody (Syntax.indent raw) l = false) ∧
      Collects s t header raw (past.length + 1) body new ∧
      ((State.start empty).readLines 1 (Text.lines text)).map State.finish =
        ((t.withNote new).readLines (past.length + 2 + body.length) later).map State.finish ∧
      ∀ d, empty.read text = (none, d) → ∃ behind,
        d.outline.walk =
          t.places ++ (new.map fun n => ⟨.entry (.note n), t.path⟩).toList ++ behind ∧
        ∀ p ∈ behind, past.length + 1 + body.length < p.item.line := by
  obtain ⟨body, later, hsplit, hbody, hlater⟩ :=
    exists_body (Syntax.indent raw) following
  obtain ⟨t, ht, hnote, hparticipants⟩ := readLine_header hrole htext (past.length + 1)
  let collected (front : List (List Char)) : State := { t with
    note := some (s.opened header (Syntax.indent raw) (past.length + 1) (front.map Text.trim)) }
  have hcollect : ∀ front, (∀ l ∈ front, inBody (Syntax.indent raw) l = true) →
      t.readLines (past.length + 2) front = .ok (collected front) :=
    fun front hfront => readLines_body hnote hfront
  obtain ⟨new, hclose, hnew, hof⟩ :=
    closeNote_opened (t := collected body) rfl hparticipants
  have hrun : (State.start empty).readLines 1 (Text.lines text) =
      (collected body).readLines (past.length + 2 + body.length) later := by
    rw [hlines, readLines_append hpast, State.readLines, Nat.add_comm 1, ht, hsplit]
    exact readLines_append (hcollect body hbody) later
  have hnext : ((collected body).readLines (past.length + 2 + body.length) later).map State.finish =
      ((collected body).closeNote.readLines (past.length + 2 + body.length) later).map
        State.finish := readLines_closeNote rfl hlater
  rw [← hrun, hclose] at hnext
  refine ⟨body, later, t, new, hsplit, hlater, ⟨ht, hbody, fun front hfront => ?_, hnew, hof⟩,
    hnext, fun d hd => ?_⟩
  · exact ⟨_, hcollect front fun l hl => hbody l (hfront.subset hl)⟩
  · obtain ⟨behind, hwalk, hline⟩ := exists_walk_read hd hnext (note_withNote _ new)
    refine ⟨behind, ?_, fun p hp => ?_⟩
    · rw [hwalk, places_withNote]
      rfl
    · have := hline p hp
      omega

/-- A note inside a block, with a message, a heading and blank lines in its body. -/
def remarked : List Char :=
  "## Team\n  App\nif ok\n  App -> Db: ask\n  note left of Db\n\n    Db -> Log: none
  \n      # title: none\n\t\n  Db -> App: done".toList

theorem note_read_remarked : ∃ past raw following s header,
    Text.lines remarked = past ++ raw :: following ∧
    (State.start empty).readLines 1 past = .ok s ∧
    s.scan.role raw = .form (.content (.note header)) ∧ header.text = none ∧
    ∃ body later t new, following = body ++ later ∧
      (∀ l ∈ later.head?, inBody (Syntax.indent raw) l = false) ∧
      Collects s t header raw (past.length + 1) body new ∧
      ((State.start empty).readLines 1 (Text.lines remarked)).map State.finish =
        ((t.withNote new).readLines (past.length + 2 + body.length) later).map State.finish ∧
      ∀ d, empty.read remarked = (none, d) → ∃ behind,
        d.outline.walk =
          t.places ++ (new.map fun n => ⟨.entry (.note n), t.path⟩).toList ++ behind ∧
        ∀ p ∈ behind, past.length + 1 + body.length < p.item.line := by
  have htext : remarked = _ := String.toList_ofList
  let past := (Text.lines remarked).take 4
  let header : Syntax.NoteHeader := ⟨some .left, some "Db".toList, none⟩
  have hpast : ((State.start empty).readLines 1 past).toOption.map
      (fun s => s.scan.role "  note left of Db".toList) =
        some (.form (.content (.note header))) := by
    unfold past
    rw [htext]
    decide +kernel
  have hlines : Text.lines remarked =
      past ++ "  note left of Db".toList :: (Text.lines remarked).drop 5 := by
    unfold past
    rw [htext]
    decide +kernel
  cases hs : (State.start empty).readLines 1 past with
  | error stop => simp [hs, Except.toOption] at hpast
  | ok s =>
      have hrole : s.scan.role "  note left of Db".toList = .form (.content (.note header)) := by
        simpa [hs, Except.toOption] using hpast
      exact ⟨past, _, _, s, header, hlines, hs, hrole, rfl, note_read hlines hs hrole rfl⟩

/-- The text of such a note. -/
example : ((empty.read remarked).2.outline.notes.map Note.text, (empty.read remarked).1) =
    (["Db -> Log: none\n\n# title: none"], none) := by
  have htext : remarked = _ := String.toList_ofList
  rw [htext]
  decide +kernel

end Diagram

end Lifeline
