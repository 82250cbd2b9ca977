import Lifeline.Proofs.Reader.Effect
import Lifeline.Proofs.Syntax.Branch
import Lifeline.Reader.Document

/-! # The rows of a document

What a line is to the reader depends on two facts about the lines before it: whether the members of
a group are being listed, and whether a note collects its body (`Scan`). `rows` lists the lines of
a text with their numbers, their indentation and what they are, without reading them into a
diagram. The reader takes every line for what its row says (`scan_readLine`), so an invariant of a
reading may speak of the rows that have been read (`State.readLines_induct`). -/

namespace Lifeline.Reader

open Lifeline.Syntax (Content Heading Line NoteHeader Statement)

/-- What a line is to the reader. -/
inductive Role
  /-- A line in the body of a note. -/
  | body
  | form (form : Line)
  deriving DecidableEq, Repr

/-- A line of a document. -/
structure Row where
  number : Nat
  indent : Nat
  role : Role
  deriving DecidableEq, Repr

namespace Row

/-- The content of the row. -/
def content? (r : Row) : Option Content :=
  match r.role with
  | .form (.content c) => some c
  | _ => none

/-- The row is a section divider or content, outside the body of a note. -/
def isStructural (r : Row) : Bool :=
  match r.role with
  | .form (.section _) => true
  | .form (.content _) => true
  | _ => false

/-- The head of the block that the row opens. -/
def opens? (r : Row) : Option BlockHead := r.content?.bind (Content.head? r.number)

/-- The branch that the row starts. -/
def branch? (r : Row) : Option Branch := r.content?.bind (Content.branch? r.number)

end Row

/-- The line may be followed by members of a group; `inGroup` tells that it may be one itself. -/
def Line.listsMembers (inGroup : Bool) : Line → Bool
  | .blank => false
  | .group _ => true
  | _ => inGroup

/-- The line is the header of a note whose text is still to come. -/
def Line.beginsNote : Line → Bool
  | .content (.note header) => header.text.isNone
  | _ => false

/-- What earlier lines say about the next one: whether the members of a group are being listed, and
the indentation of the note whose body is being collected. -/
structure Scan where
  inGroup : Bool
  note : Option Nat
  deriving DecidableEq, Repr

namespace Scan

/-- What a line is. Blank lines and lines that are indented deeper than the note belong to its
body. -/
def role (c : Scan) (raw : List Char) : Role :=
  if c.note.any fun indent => (Text.trim raw).isEmpty || indent < Syntax.indent raw then .body
  else .form (Line.read (0 < Syntax.indent raw && c.inGroup) (Text.trim raw))

/-- What is known behind a line. -/
def next (c : Scan) (raw : List Char) : Scan :=
  match c.role raw with
  | .body => c
  | .form form =>
      ⟨Line.listsMembers (0 < Syntax.indent raw && c.inGroup) form,
        if Line.beginsNote form then some (Syntax.indent raw) else none⟩

end Scan

/-- The rows of lines, of which the first has the number `number`. -/
def rowsFrom (c : Scan) (number : Nat) : List (List Char) → List Row
  | [] => []
  | raw :: rest =>
      ⟨number, Syntax.indent raw, c.role raw⟩ :: rowsFrom (c.next raw) (number + 1) rest

/-- The rows of a text. -/
def rows (text : List Char) : List Row := rowsFrom ⟨false, none⟩ 1 (Text.lines text)

/-- What the state knows about the next line. -/
def State.scan (s : State) : Scan := ⟨s.group.isSome, s.note.map OpenNote.indent⟩

section
variable {s t : State} {raw : List Char} {line : Nat}

theorem scan_of_besides (h : t.besides = s.besides) : t.scan = s.scan := by
  have : t.besides.scan = s.besides.scan := congrArg State.scan h
  exact this

theorem scan_append (s : State) (o : Outline) : (s.append o).scan = s.scan :=
  scan_of_besides (besides_append s)

theorem scan_addNote (s : State) (participant : Option String) (side : Side) (text : List Char)
    (line : Nat) (afterMessage : Option Nat) :
    (s.addNote participant side text line afterMessage).scan = s.scan := by
  exact scan_of_besides (besides_addNote s participant side text line afterMessage)

theorem scan_closeNote (s : State) : s.closeNote.scan = ⟨s.scan.inGroup, none⟩ := by
  have h := congrArg State.scan (besides_closeNote s)
  exact h

/-- The state in which a line outside the body of a note is read: the note has ended, and so has the
list of a group's members, if the line is not indented. -/
def State.ready (s : State) (indent : Nat) : State :=
  if indent = 0 then { s.closeNote with group := none } else s.closeNote

/-- Besides the outline and the open blocks, nothing but the note and the group ends. -/
theorem besides_ready (s : State) (indent : Nat) : (s.ready indent).besides =
    { s.besides with note := none, group := if indent = 0 then none else s.group } := by
  have hclosed := besides_closeNote s
  unfold State.ready
  split
  · exact congrArg (fun s : State => { s with group := none }) hclosed
  · exact hclosed

theorem scan_ready (s : State) (indent : Nat) :
    (s.ready indent).scan = ⟨0 < indent && s.scan.inGroup, none⟩ := by
  have h : (s.ready indent).scan = ⟨(if indent = 0 then none else s.group).isSome, none⟩ :=
    congrArg State.scan (besides_ready s indent)
  rw [h]
  by_cases hi : indent = 0
  · simp [hi]
  · simp [hi, Nat.pos_of_ne_zero hi, State.scan]

theorem note_ready (s : State) (indent : Nat) : (s.ready indent).note = none :=
  congrArg State.note (besides_ready s indent)

theorem besides_finish (s : State) : s.finish.besides = { s.besides with note := none } :=
  (besides_closeAll s.closeNote).trans (besides_closeNote s)

/-! ### Reading a line for what it is -/

theorem role_of_none (h : s.note = none) (raw : List Char) : s.scan.role raw =
    .form (Line.read (0 < Syntax.indent raw && s.scan.inGroup) (Text.trim raw)) := by
  simp [Scan.role, State.scan, h]

theorem role_of_some {n : OpenNote} (h : s.note = some n) (raw : List Char) : s.scan.role raw =
    if (Text.trim raw).isEmpty || n.indent < Syntax.indent raw then .body
    else .form (Line.read (0 < Syntax.indent raw && s.scan.inGroup) (Text.trim raw)) := by
  simp [Scan.role, State.scan, h]

theorem readPlain_closeNote (s : State) (raw : List Char) (line : Nat) :
    s.closeNote.readPlain raw line = (s.ready (Syntax.indent raw)).readForm
      (Line.read (0 < Syntax.indent raw && s.scan.inGroup) (Text.trim raw)) (Text.trim raw)
      (Syntax.indent raw) line := by
  have hgroup : s.closeNote.group.isSome = s.scan.inGroup :=
    congrArg Scan.inGroup (scan_closeNote s)
  rw [State.readPlain, hgroup]
  rfl

theorem readLine_body (h : s.scan.role raw = .body) (line : Nat) :
    ∃ n, s.note = some n ∧ s.readLine raw line =
      .ok { s with note := some { n with lines := n.lines ++ [Text.trim raw] } } := by
  cases hn : s.note with
  | none => simp [role_of_none hn] at h
  | some n =>
      refine ⟨n, rfl, ?_⟩
      rw [role_of_some hn] at h
      split at h
      · next hbody => simp [State.readLine, hn, OpenNote.collect?, hbody]
      · simp at h

/-- Any other line is read as what it is. -/
theorem readLine_form {form : Line} (h : s.scan.role raw = .form form) (line : Nat) :
    form = Line.read (0 < Syntax.indent raw && s.scan.inGroup) (Text.trim raw) ∧
      s.readLine raw line =
        (s.ready (Syntax.indent raw)).readForm form (Text.trim raw) (Syntax.indent raw) line := by
  cases hn : s.note with
  | none =>
      rw [role_of_none hn, Role.form.injEq] at h
      refine ⟨h.symm, ?_⟩
      rw [← h, ← readPlain_closeNote, closeNote_of_none hn, State.readLine, hn]
  | some n =>
      rw [role_of_some hn] at h
      split at h
      · simp at h
      · next hout =>
          rw [Role.form.injEq] at h
          refine ⟨h.symm, ?_⟩
          rw [← h, ← readPlain_closeNote, State.readLine, hn]
          simp [OpenNote.collect?, hout]

/-! ### What is known behind a line -/

theorem scan_joinGroup {id : String} (ht : s.joinGroup id = .ok t) : t.scan = s.scan := by
  obtain ⟨rfl, -⟩ | ⟨i, -, -, rfl⟩ := joinGroup_ok ht <;> rfl

theorem scan_readGroup {h : Heading} (hn : s.note = none) (ht : s.readGroup h line = .ok t) :
    t.scan = ⟨true, none⟩ := by
  obtain ⟨-, ⟨i, -, rfl⟩ | ⟨-, rfl⟩⟩ := readGroup_ok ht <;> simp [State.scan, hn]

theorem scan_readOption {key : String} {value : List Char} (ht : s.readOption key value = .ok t) :
    t.scan = s.scan := by
  obtain ⟨-, -, rfl⟩ | ⟨title, options, rfl⟩ := readOption_ok ht <;> rfl

theorem scan_closeBlocks (s : State) (indent : Nat) (startsBranch : Bool) :
    (s.closeBlocks indent startsBranch).scan = s.scan :=
  scan_of_besides (besides_closeBlocks s indent startsBranch)

theorem scan_readSection {h : Heading} {indent : Nat} (ht : s.readSection h indent line = .ok t) :
    t.scan = s.scan := by
  obtain ⟨sections, h⟩ := besides_readSection ht
  have hscan := congrArg State.scan h
  exact hscan

theorem scan_readBranch {label : Option (List Char)} {indent : Nat}
    (ht : s.readBranch label indent line = .ok t) : t.scan = s.scan := by
  obtain ⟨rfl, -⟩ | ⟨b, bs, -, -, -, -, rfl⟩ := readBranch_ok ht <;> rfl

theorem scan_readContent {c : Content} {indent : Nat} (hn : s.note = none)
    (ht : s.readContent c indent line = .ok t) :
    t.scan = ⟨s.scan.inGroup, if Line.beginsNote (.content c) then some indent else none⟩ := by
  have hscan : s.scan = ⟨s.scan.inGroup, none⟩ := by simp [State.scan, hn]
  cases c with
  | asyncKeyword => exact absurd ht (State.stop_ne_ok _ _ _)
  | message statement =>
      obtain rfl := Except.ok.inj ht
      exact (scan_append _ _).trans hscan
  | block kind label =>
      obtain rfl := Except.ok.inj ht
      exact hscan
  | branch label => exact (scan_readBranch ht).trans hscan
  | note header =>
      obtain rfl := Except.ok.inj ht
      cases htext : header.text with
      | none =>
          obtain ⟨n, -, hindent, heq⟩ := readNote_of_none htext s indent line
          rw [heq]
          simp [State.scan, Line.beginsNote, htext, hindent]
      | some text =>
          obtain ⟨after, heq⟩ := readNote_of_text htext s indent line
          rw [heq, scan_addNote]
          simp [State.scan, Line.beginsNote, htext, hn]
  | other =>
      obtain rfl := Except.ok.inj ht
      exact hscan

theorem scan_readForm {form : Line} {text : List Char} {indent : Nat} (hn : s.note = none)
    (ht : s.readForm form text indent line = .ok t) :
    t.scan = ⟨Line.listsMembers s.scan.inGroup form,
      if Line.beginsNote form then some indent else none⟩ := by
  have hscan : s.scan = ⟨s.scan.inGroup, none⟩ := by simp [State.scan, hn]
  cases form with
  | blank =>
      obtain rfl := Except.ok.inj ht
      simp [State.scan, Line.listsMembers, Line.beginsNote, hn]
  | group h => exact scan_readGroup hn ht
  | comment =>
      obtain rfl := Except.ok.inj ht
      exact hscan
  | hash => exact absurd ht (State.stop_ne_ok _ _ _)
  | «section» h => exact (scan_readSection ht).trans hscan
  | option key value => exact (scan_readOption ht).trans hscan
  | declaration decl => exact (scan_joinGroup ht).trans hscan
  | position id n => exact (scan_joinGroup ht).trans hscan
  | member id => exact (scan_joinGroup ht).trans hscan
  | content c =>
      have hclosed := scan_closeBlocks s indent (Syntax.startsBranch text)
      rw [scan_readContent (note_closeBlocks hn indent _) ht, hclosed]
      rfl

/-- The reader knows about the next line what the lines read so far say about it. -/
theorem scan_readLine (ht : s.readLine raw line = .ok t) : t.scan = s.scan.next raw := by
  unfold Scan.next
  cases hrole : s.scan.role raw with
  | body =>
      obtain ⟨n, hn, heq⟩ := readLine_body hrole line
      obtain rfl := Except.ok.inj (heq.symm.trans ht)
      simp [State.scan, hn]
  | form form =>
      obtain ⟨-, heq⟩ := readLine_form hrole line
      rw [heq] at ht
      rw [scan_readForm (note_ready s _) ht, scan_ready]

end

/-! ### What a row does -/

/-- A structural row closes blocks and then adds at most one place, or begins a note. -/
structure Adds (s t : State) (r : Row) (new : Option Place) : Prop where
  ext : Extends (s.closeBlocks r.indent r.branch?.isSome) t r.number new
  item : ∀ p ∈ new, p.item.block? = r.opens? ∧ p.item.isBranch = r.branch?.isSome
  fresh : t.hasContent = true ∨ new = none ∧ t.note = none ∧ t.hasContent = s.hasContent
  note : ∀ n ∈ t.note, n.line = r.number ∧ new = none ∧ r.opens? = none ∧ r.branch? = none

section
variable {s t : State} {r : Row} {form : Line} {text : List Char} {inGroup : Bool}

theorem isSome_branch {c : Content} (hrole : r.role = .form (.content c))
    (hc : .content c = Line.read inGroup text) :
    r.branch?.isSome = Syntax.startsBranch text := by
  apply Bool.eq_iff_iff.mpr
  rw [Syntax.startsBranch_iff hc.symm, Row.branch?, Row.content?, hrole, Option.bind_some]
  cases c <;> simp [Content.branch?]

theorem plain_of_section {h : Heading} (hrole : r.role = .form (.section h)) :
    r.opens? = none ∧ r.branch? = none := by
  have hcontent : r.content? = none := by rw [Row.content?, hrole]
  rw [Row.opens?, Row.branch?, hcontent]
  exact ⟨rfl, rfl⟩

theorem Adds.readSection {h : Heading} (hrole : r.role = .form (.section h)) (hn : s.note = none)
    (ht : s.readSection h r.indent r.number = .ok t) : ∃ new, Adds s t r new := by
  obtain ⟨hopens, hbranch⟩ := plain_of_section hrole
  have hclosed : s.closeBlocks r.indent false = s.closeBlocks r.indent r.branch?.isSome := by
    rw [hbranch, Option.isSome_none]
  obtain ⟨d, hext, -, hfresh, hnote⟩ := Extends.readSection ht
  have hnone : t.note = none := hnote.trans (note_closeBlocks hn r.indent false)
  rw [hclosed] at hext
  refine ⟨_, hext, ?_, Or.inl hfresh, by simp [hnone]⟩
  rintro _ ⟨rfl⟩
  rw [hopens, hbranch]
  exact ⟨rfl, rfl⟩

theorem Adds.readContent {c : Content} (hrole : r.role = .form (.content c)) (hn : s.note = none)
    (ht : (s.closeBlocks r.indent r.branch?.isSome).readContent c r.indent r.number = .ok t) :
    ∃ new, Adds s t r new := by
  have hcontent : r.content? = some c := by rw [Row.content?, hrole]
  obtain ⟨new, hext, hitem, hfresh, hnote⟩ := Extends.readContent (note_closeBlocks hn _ _) ht
  refine ⟨new, hext, ?_, ?_, ?_⟩
  · rw [Row.opens?, Row.branch?, hcontent]
    exact hitem
  · rwa [hasContent_of_besides (besides_closeBlocks s _ _)] at hfresh
  · rw [Row.opens?, Row.branch?, hcontent]
    exact hnote

/-- A structural row adds to the outline, any other one describes. -/
theorem readForm_cases (hrole : r.role = .form form) (hn : s.note = none)
    (hform : form = Line.read inGroup text)
    (ht : s.readForm form text r.indent r.number = .ok t) :
    r.isStructural = false ∧ Describes s t r.number ∨
      r.isStructural = true ∧ ∃ new, Adds s t r new := by
  cases form with
  | «section» h =>
      refine Or.inr ⟨?_, Adds.readSection hrole hn ht⟩
      rw [Row.isStructural, hrole]
  | content c =>
      refine Or.inr ⟨?_, Adds.readContent hrole hn ?_⟩
      · rw [Row.isStructural, hrole]
      · rw [isSome_branch hrole hform]
        exact ht
  | _ =>
      refine Or.inl ⟨?_, Describes.readForm (by simp) (by simp) ht⟩
      rw [Row.isStructural, hrole]

end

/-! ### Reading line by line -/

/-- What holds of the rows read so far and of the state after each line holds at the end. -/
theorem State.readLines_induct {P : List Row → Nat → State → Prop}
    (step : ∀ past line s raw t, P past line s → s.readLine raw line = .ok t →
      P (past ++ [⟨line, Syntax.indent raw, s.scan.role raw⟩]) (line + 1) t)
    (past : List Row) {line : Nat} {s t : State} {lines : List (List Char)} (h : P past line s)
    (ht : s.readLines line lines = .ok t) :
    P (past ++ rowsFrom s.scan line lines) (line + lines.length) t := by
  induction lines generalizing past line s with
  | nil =>
      obtain rfl := Except.ok.inj ht
      rwa [rowsFrom, List.append_nil]
  | cons raw rest ih =>
      rw [State.readLines] at ht
      split at ht
      · next u hu =>
          have := ih _ (step past line s raw u h hu) ht
          rw [scan_readLine hu, List.append_assoc, Nat.add_assoc, Nat.add_comm 1] at this
          exact this
      · simp at ht

end Lifeline.Reader
