import Lifeline.Proofs.Reader.Order

/-! # Where a reading stops

A reading stops at the first line at fault: the lines before it have been read, and those behind it
do not count (`exists_of_readLines_error`). The line itself may have ended a note, closed blocks and
registered a participant before its fault is found, but it has changed neither the title and the
options of the diagram nor its messages, sections and groups (`ledger_readLine`). So these are left
as the lines before it leave them (`Diagram.stop_read`). -/

namespace Lifeline

/-! ### The first lines of a text -/

namespace Text

/-- The text up to its `n`-th line feed. -/
def firstLines : Nat → List Char → List Char
  | 0, _ => []
  | _ + 1, [] => []
  | n + 1, c :: rest => c :: firstLines (if c = '\n' then n else n + 1) rest

theorem linesAfter_firstLines (n : Nat) (before text : List Char) :
    linesAfter before (firstLines (n + 1) text) = (linesAfter before text).take (n + 1) := by
  induction text generalizing n before with
  | nil =>
      rw [firstLines, linesAfter]
      split
      · rfl
      · rw [List.take_succ_cons, List.take_nil]
  | cons c rest ih =>
      rw [firstLines, linesAfter, linesAfter]
      by_cases hc : c = '\n'
      · rw [if_pos hc, if_pos hc, if_pos hc, List.take_succ_cons]
        cases n with
        | zero => rw [firstLines, List.take_zero]; rfl
        | succ n => rw [ih]
      · rw [if_neg hc, if_neg hc, if_neg hc, ih]

theorem lines_firstLines (n : Nat) (text : List Char) :
    lines (firstLines n text) = (lines text).take n := by
  cases n with
  | zero => rw [firstLines, List.take_zero]; rfl
  | succ n => exact linesAfter_firstLines n [] text

end Text

/-- The diagram without its participants, its outline and its error: what is left are the title, the
options, and the lists of messages, sections and groups. -/
def Diagram.ledger (d : Diagram) : Diagram :=
  { d with participants := [], outline := .empty, failure := none }

theorem Diagram.eq_of_ledger {d e : Diagram} (h : d.ledger = e.ledger) :
    d.messages = e.messages ∧ d.sections = e.sections ∧ d.groups = e.groups ∧ d.title = e.title ∧
      d.options = e.options := by
  obtain ⟨htitle, -, hmessages, -, hgroups, hsections, hoptions, -⟩ := Diagram.mk.inj h
  exact ⟨hmessages, hsections, hgroups, htitle, hoptions⟩

namespace Reader

open Lifeline.Syntax (Content Heading Line)

section
variable {s t : State} {line indent : Nat} {stop : Stop}

/-! ### What a line at fault leaves alone -/

theorem ledger_of_besides (h : t.besides = s.besides) : t.diagram.ledger = s.diagram.ledger := by
  have hledger := congrArg (fun s : State => s.diagram.ledger) h
  exact hledger

theorem ledger_ready (s : State) (indent : Nat) :
    (s.ready indent).diagram.ledger = s.diagram.ledger := by
  have h := congrArg (fun s : State => s.diagram.ledger) (besides_ready s indent)
  exact h

theorem ledger_finish (s : State) : s.finish.diagram.ledger = s.diagram.ledger := by
  have h := congrArg (fun s : State => s.diagram.ledger) (besides_finish s)
  exact h

theorem diagram_of_stop {fault : Fault} (h : s.stop fault = .error stop) :
    stop.diagram = s.diagram := by
  obtain rfl := Except.error.inj h
  rfl

theorem diagram_of_readGroup {h : Heading} (hs : s.readGroup h line = .error stop) :
    stop.diagram = s.diagram := by
  unfold State.readGroup at hs
  split at hs
  · exact diagram_of_stop hs
  · split at hs
    · exact diagram_of_stop hs
    · dsimp only at hs
      split at hs <;> cases hs

theorem diagram_of_readSection {h : Heading} (hs : s.readSection h indent line = .error stop) :
    stop.diagram = s.diagram := by
  unfold State.readSection at hs
  split at hs
  · exact diagram_of_stop hs
  · cases hs

theorem diagram_of_readOption {key : String} {value : List Char}
    (hs : s.readOption key value = .error stop) : stop.diagram = s.diagram := by
  unfold State.readOption at hs
  dsimp only at hs
  split at hs
  · split at hs
    · cases hs
    · exact diagram_of_stop hs
  · split at hs
    · exact diagram_of_stop hs
    · split at hs <;> cases hs

theorem diagram_of_joinGroup {id : String} (hs : s.joinGroup id = .error stop) :
    stop.diagram = s.diagram := by
  unfold State.joinGroup at hs
  split at hs
  · cases hs
  · split at hs
    · split at hs
      · cases hs
      · exact diagram_of_stop hs
    · cases hs

theorem diagram_of_readBranch {label : Option (List Char)}
    (hs : s.readBranch label indent line = .error stop) : stop.diagram = s.diagram := by
  unfold State.readBranch at hs
  dsimp only at hs
  split at hs
  · cases hs
  · split at hs
    · cases hs
    · split at hs
      · exact diagram_of_stop hs
      · cases hs
      · split at hs <;> cases hs

theorem diagram_of_readContent {c : Content} (hs : s.readContent c indent line = .error stop) :
    stop.diagram = s.diagram := by
  cases c with
  | asyncKeyword => exact diagram_of_stop hs
  | branch label => exact diagram_of_readBranch hs
  | _ => cases hs

/-- A line that refuses its participant a group has registered or updated the participant. -/
theorem diagram_of_member {form : Line} {id : String} {text : List Char}
    (h : Line.member? form = some id) (hs : s.readForm form text indent line = .error stop) :
    ∃ ps, stop.diagram = { s.diagram with participants := ps } := by
  cases form with
  | declaration decl =>
      obtain ⟨ps, hps⟩ := addParticipant_eq s.diagram
        ⟨String.ofList decl.id, String.ofList (decl.aka.getD decl.id),
          (ParticipantKind.ofName? (String.ofList decl.kind)).getD .default, line, decl.position⟩
      simp only [State.readForm, State.readDeclaration, hps] at hs
      exact ⟨ps, diagram_of_joinGroup hs⟩
  | position id n =>
      obtain ⟨ps, hps⟩ := addParticipant_eq s.diagram
        { (s.diagram.participant? (String.ofList id)).getD
            (.named (String.ofList id) (inferKind id) line) with position := some n }
      simp only [State.readForm, State.readPosition, hps] at hs
      exact ⟨ps, diagram_of_joinGroup hs⟩
  | member id =>
      obtain ⟨ps, hps⟩ := ensureParticipant_eq s.diagram (String.ofList id) (inferKind id) line
      simp only [State.readForm, State.readMember, hps] at hs
      exact ⟨ps, diagram_of_joinGroup hs⟩
  | _ => cases h

theorem ledger_readForm {form : Line} {text : List Char}
    (hs : s.readForm form text indent line = .error stop) :
    stop.diagram.ledger = s.diagram.ledger := by
  have hmember : ∀ id, Line.member? form = some id →
      stop.diagram.ledger = s.diagram.ledger := by
    intro id hid
    obtain ⟨ps, hps⟩ := diagram_of_member hid hs
    rw [hps]
    rfl
  cases form with
  | blank => cases hs
  | group h => rw [diagram_of_readGroup hs]
  | comment => cases hs
  | hash => rw [diagram_of_stop hs]
  | «section» h => rw [diagram_of_readSection hs]
  | option key value => rw [diagram_of_readOption hs]
  | declaration decl => exact hmember _ rfl
  | position id n => exact hmember _ rfl
  | member id => exact hmember _ rfl
  | content c =>
      have hclosed := besides_closeBlocks s indent (Syntax.startsBranch text)
      rw [diagram_of_readContent hs, ledger_of_besides hclosed]

/-- **A line at fault enters nothing** into the lists of the diagram, its title and its options. -/
theorem ledger_readLine {raw : List Char} (hs : s.readLine raw line = .error stop) :
    stop.diagram.ledger = s.diagram.ledger := by
  cases hrole : s.scan.role raw with
  | body =>
      obtain ⟨n, -, heq⟩ := readLine_body hrole line
      cases heq.symm.trans hs
  | form form =>
      obtain ⟨-, heq⟩ := readLine_form hrole line
      rw [ledger_readForm (heq ▸ hs), ledger_ready]

/-! ### The first line at fault -/

theorem readLines_append {front : List (List Char)} (h : s.readLines line front = .ok t)
    (behind : List (List Char)) :
    s.readLines line (front ++ behind) = t.readLines (line + front.length) behind := by
  induction front generalizing s line with
  | nil =>
      obtain rfl := Except.ok.inj h
      rfl
  | cons raw front ih =>
      rw [State.readLines] at h
      rw [List.cons_append, State.readLines]
      split at h
      · next u hu =>
          rw [ih h, List.length_cons, Nat.add_assoc, Nat.add_comm 1]
      · cases h

theorem readLines_stop {past : List (List Char)} {raw : List Char}
    (hpast : s.readLines line past = .ok t)
    (hstop : t.readLine raw (line + past.length) = .error stop) (later : List (List Char)) :
    s.readLines line (past ++ raw :: later) =
      .error (.atLine (line + past.length) stop.fault, stop.diagram) := by
  rw [readLines_append hpast, State.readLines, hstop]

/-- A reading that stops has read the lines before the one at fault. -/
theorem exists_of_readLines_error {lines : List (List Char)} {error : ReadError} {d : Diagram}
    (h : s.readLines line lines = .error (error, d)) :
    ∃ past raw later t stop, lines = past ++ raw :: later ∧ s.readLines line past = .ok t ∧
      t.readLine raw (line + past.length) = .error stop ∧
      error = .atLine (line + past.length) stop.fault ∧ d = stop.diagram := by
  induction lines generalizing s line with
  | nil => cases h
  | cons raw rest ih =>
      rw [State.readLines] at h
      split at h
      · next u hu =>
          obtain ⟨past, last, later, t, stop, hlines, hpast, hstop, herror, hd⟩ := ih h
          have hcount : line + (raw :: past).length = line + 1 + past.length := by
            rw [List.length_cons]
            omega
          refine ⟨raw :: past, last, later, t, stop, by rw [hlines]; rfl, ?_, ?_, ?_, hd⟩
          · rw [State.readLines, hu]
            exact hpast
          · rw [hcount]
            exact hstop
          · rw [hcount]
            exact herror
      · next stop hstop =>
          obtain ⟨rfl, rfl⟩ := Prod.mk.inj (Except.error.inj h)
          exact ⟨[], raw, rest, s, stop, rfl, rfl, hstop, rfl, rfl⟩

end

end Reader

open Reader

namespace Diagram

variable {d e : Diagram} {text : List Char} {k : Nat} {fault : Fault}

theorem read_eq_atLine (h : d.read text = (some (.atLine k fault), e)) :
    ∃ c, (State.start d).readLines 1 (Text.lines text) = .error (.atLine k fault, c) ∧
      e = { c with failure := some (.atLine k fault) } := by
  unfold read at h
  split at h
  · next error c hc =>
      obtain ⟨herror, rfl⟩ := Prod.mk.inj h
      obtain rfl := Option.some.inj herror
      exact ⟨c, hc, rfl⟩
  · dsimp only at h
    split at h <;> cases h

theorem read_of_error {error : ReadError} {c : Diagram}
    (h : (State.start d).readLines 1 (Text.lines text) = .error (error, c)) :
    d.read text = (some error, { c with failure := some error }) := by
  rw [read, h]

/-- A text of which all lines can be read leaves what they have entered, with content or not. -/
theorem ledger_read {s : State} (h : (State.start d).readLines 1 (Text.lines text) = .ok s) :
    (d.read text).2.ledger = s.diagram.ledger := by
  rw [read, h]
  dsimp only
  split <;> exact ledger_finish s

/-- **A reading that fails at a line** leaves the error behind and does not depend on what follows
the line. The line is one of the text, and what is left of messages, sections, groups, title and
options is what a text of the lines before it leaves. -/
theorem stop_read (h : d.read text = (some (.atLine k fault), e)) :
    1 ≤ k ∧ k ≤ (Text.lines text).length ∧ e.failure = some (.atLine k fault) ∧
      (∀ other, (Text.lines other).take k = (Text.lines text).take k →
        d.read other = (some (.atLine k fault), e)) ∧
      (∃ head, Text.lines head = (Text.lines text).take (k - 1)) ∧
      ∀ head, Text.lines head = (Text.lines text).take (k - 1) →
        e.messages = (d.read head).2.messages ∧ e.sections = (d.read head).2.sections ∧
          e.groups = (d.read head).2.groups ∧ e.title = (d.read head).2.title ∧
          e.options = (d.read head).2.options := by
  obtain ⟨c, hc, rfl⟩ := read_eq_atLine h
  obtain ⟨past, raw, later, t, stop, hlines, hpast, hstop, herror, rfl⟩ :=
    exists_of_readLines_error hc
  obtain ⟨rfl, rfl⟩ := ReadError.atLine.inj herror
  refine ⟨Nat.le_add_right 1 _, ?_, rfl, fun other hother => ?_,
    ⟨Text.firstLines _ text, Text.lines_firstLines _ text⟩, fun head hhead => ?_⟩
  · rw [hlines, List.length_append, List.length_cons]
    omega
  · apply read_of_error
    rw [hlines, Nat.add_comm, List.take_append, List.take_of_length_le (Nat.le_succ _)] at hother
    simp only [Nat.add_sub_cancel_left, List.take_succ_cons, List.take_zero] at hother
    rw [← List.take_append_drop (past.length + 1) (Text.lines other), hother, List.append_assoc]
    exact readLines_stop hpast hstop _
  · rw [Nat.add_sub_cancel_left, hlines, List.take_left] at hhead
    exact eq_of_ledger ((ledger_readLine hstop).trans (ledger_read (hhead ▸ hpast)).symm)

/-- A document whose eighth line ends a note, closes a block and is at fault. -/
def abandoned : List Char :=
  "title: Again\n## Back\n  Db is a database\n== Start ==\nif ready\n  Db -> App: ask
  note\nasync Db -> Log\n# more".toList

theorem stop_read_abandoned : ∃ d e : Diagram, d.messages.length = 1 ∧
    d.read abandoned = (some (.atLine 8 .asyncKeyword), e) ∧ e.messages.length = 2 ∧
    1 ≤ 8 ∧ 8 ≤ (Text.lines abandoned).length ∧ e.failure = some (.atLine 8 .asyncKeyword) ∧
    (∀ other, (Text.lines other).take 8 = (Text.lines abandoned).take 8 →
      d.read other = (some (.atLine 8 .asyncKeyword), e)) ∧
    (∃ head, Text.lines head = (Text.lines abandoned).take (8 - 1)) ∧
    ∀ head, Text.lines head = (Text.lines abandoned).take (8 - 1) →
      e.messages = (d.read head).2.messages ∧ e.sections = (d.read head).2.sections ∧
        e.groups = (d.read head).2.groups ∧ e.title = (d.read head).2.title ∧
        e.options = (d.read head).2.options := by
  have htext : abandoned = _ := String.toList_ofList
  have hread : ((empty.read "App -> Db: ask".toList).2.read abandoned).1 =
        some (.atLine 8 .asyncKeyword) ∧
      ((empty.read "App -> Db: ask".toList).2.read abandoned).2.messages.length = 2 := by
    rw [htext]
    decide +kernel
  obtain ⟨hfirst, hcount⟩ := hread
  exact ⟨(empty.read "App -> Db: ask".toList).2, _, by decide +kernel, Prod.ext hfirst rfl,
    hcount, stop_read (Prod.ext hfirst rfl)⟩

end Diagram

end Lifeline
