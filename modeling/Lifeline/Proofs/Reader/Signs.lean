import Lifeline.Proofs.Detection.Signs
import Lifeline.Proofs.Reader.Rows

/-! # What a reading has met

A document is one of a sequence diagram if it names its type, or if it holds messages. Both are
facts about its lines: a line that makes the reader believe one of the two is a header or states a
message (`signs_readLine`), so a reading that believes it has met such a line (`signs_readLines`).
-/

namespace Lifeline.Syntax

theorem option?_of_readDescription? {inGroup : Bool} {line value : List Char} {key : String}
    (h : Line.readDescription? inGroup line = some (.option key value)) :
    option? line = some (key, value) := by
  simp only [Line.readDescription?] at h
  split at h
  · next heq =>
      obtain ⟨rfl, rfl⟩ := Line.option.inj (Option.some.inj h)
      split at heq
      · simp at heq
      · exact heq
  · repeat' split at h
    all_goals simp at h

theorem option?_of_read {inGroup : Bool} {line value : List Char} {key : String}
    (h : Line.read inGroup line = .option key value) : option? line = some (key, value) := by
  have hdescription : Line.readDescription? inGroup line = some (.option key value) →
      option? line = some (key, value) := option?_of_readDescription?
  unfold Line.read at h
  repeat' split at h
  all_goals simp_all

theorem statement?_of_read {inGroup : Bool} {line : List Char} {statement : Statement}
    (h : Line.read inGroup line = .content (.message statement)) :
    statement? line = some statement := by
  have hcontent := content_of_read h
  unfold Content.read at hcontent
  repeat' split at hcontent
  all_goals simp_all

end Lifeline.Syntax

namespace Lifeline.Reader

open Lifeline.Syntax (Content Declaration Heading Line NoteHeader Statement)

/-- What the state takes for signs of a sequence diagram: a header, and the messages. -/
def State.signs (s : State) : Bool × List Message := (s.hasChart, s.diagram.messages)

section
variable {s t : State} {line : Nat}

theorem signs_of_besides (h : t.besides = s.besides) : t.signs = s.signs := by
  have hsigns : t.besides.signs = s.besides.signs := congrArg State.signs h
  exact hsigns

theorem signs_ready (s : State) (indent : Nat) : (s.ready indent).signs = s.signs := by
  have h := congrArg State.signs (besides_ready s indent)
  exact h

theorem signs_finish (s : State) : s.finish.signs = s.signs := by
  have h := congrArg State.signs (besides_finish s)
  exact h

/-! ### Lines -/

theorem signs_readGroup {h : Heading} (ht : s.readGroup h line = .ok t) : t.signs = s.signs := by
  obtain ⟨-, ⟨i, -, rfl⟩ | ⟨-, rfl⟩⟩ := readGroup_ok ht <;> rfl

/-- Only the option `chart: sequence` is a header. -/
theorem signs_readOption {key : String} {value : List Char} (ht : s.readOption key value = .ok t) :
    t.signs = s.signs ∨
      key = "chart" ∧ Text.equalsIgnoringCase value "sequence".toList = true := by
  obtain ⟨hkey, hvalue, -⟩ | ⟨title, options, rfl⟩ := readOption_ok ht
  · exact Or.inr ⟨hkey, hvalue⟩
  · exact Or.inl rfl

theorem signs_joinGroup {ps : List Participant} {id : String}
    (ht : ({ s with diagram := { s.diagram with participants := ps } } : State).joinGroup id =
      .ok t) : t.signs = s.signs := by
  obtain ⟨rfl, -⟩ | ⟨i, -, -, rfl⟩ := joinGroup_ok ht <;> rfl

theorem signs_readSection {h : Heading} {indent : Nat}
    (ht : s.readSection h indent line = .ok t) : t.signs = s.signs := by
  obtain ⟨sections, h⟩ := besides_readSection ht
  have hsigns := congrArg State.signs h
  exact hsigns

theorem signs_readContent {content : Content} {indent : Nat}
    (ht : s.readContent content indent line = .ok t) :
    t.signs = s.signs ∨ ∃ statement, content = .message statement := by
  cases content with
  | asyncKeyword => exact absurd ht (State.stop_ne_ok _ _ _)
  | message statement => exact Or.inr ⟨statement, rfl⟩
  | block kind label =>
      obtain rfl := Except.ok.inj ht
      exact Or.inl rfl
  | branch label =>
      obtain ⟨rfl, -⟩ | ⟨b, bs, -, -, -, -, rfl⟩ := readBranch_ok ht <;> exact Or.inl rfl
  | note header =>
      obtain rfl := Except.ok.inj ht
      refine Or.inl ?_
      unfold State.readNote
      dsimp only
      split
      · exact (signs_of_besides (besides_addNote _ _ _ _ _ _)).trans rfl
      · rfl
  | other =>
      obtain rfl := Except.ok.inj ht
      exact Or.inl rfl

theorem signs_readForm {form : Line} {text : List Char} {indent : Nat}
    (ht : s.readForm form text indent line = .ok t) : t.signs = s.signs ∨
      (∃ value, form = .option "chart" value ∧
        Text.equalsIgnoringCase value "sequence".toList = true) ∨
      ∃ statement, form = .content (.message statement) := by
  cases form with
  | blank =>
      obtain rfl := Except.ok.inj ht
      exact Or.inl rfl
  | group h => exact Or.inl (signs_readGroup ht)
  | comment =>
      obtain rfl := Except.ok.inj ht
      exact Or.inl rfl
  | hash => exact absurd ht (State.stop_ne_ok _ _ _)
  | «section» h => exact Or.inl (signs_readSection ht)
  | option key value =>
      refine (signs_readOption ht).imp_right ?_
      rintro ⟨rfl, hvalue⟩
      exact Or.inl ⟨value, rfl, hvalue⟩
  | declaration decl =>
      obtain ⟨ps, hjoin⟩ := readForm_of_member rfl ht
      exact Or.inl (signs_joinGroup hjoin)
  | position id n =>
      obtain ⟨ps, hjoin⟩ := readForm_of_member rfl ht
      exact Or.inl (signs_joinGroup hjoin)
  | member id =>
      obtain ⟨ps, hjoin⟩ := readForm_of_member rfl ht
      exact Or.inl (signs_joinGroup hjoin)
  | content c =>
      have hclosed := signs_of_besides (besides_closeBlocks s indent (Syntax.startsBranch text))
      rw [← hclosed]
      refine (signs_readContent ht).imp_right ?_
      rintro ⟨statement, rfl⟩
      exact Or.inr ⟨statement, rfl⟩

variable {raw : List Char}

/-- A sign is met on a header or on a message. -/
theorem signs_readLine (ht : s.readLine raw line = .ok t) : t.signs = s.signs ∨
    Detection.IsHeader (Text.trim raw) ∨
    ∃ statement, Syntax.statement? (Text.trim raw) = some statement := by
  cases hrole : s.scan.role raw with
  | body =>
      obtain ⟨n, -, heq⟩ := readLine_body hrole line
      obtain rfl := Except.ok.inj (heq.symm.trans ht)
      exact Or.inl rfl
  | form form =>
      obtain ⟨hform, heq⟩ := readLine_form hrole line
      rw [heq] at ht
      rw [← signs_ready s (Syntax.indent raw)]
      refine (signs_readForm ht).imp_right (Or.imp ?_ ?_)
      · rintro ⟨value, rfl, hvalue⟩
        exact ⟨value, Syntax.option?_of_read hform.symm, hvalue⟩
      · rintro ⟨statement, rfl⟩
        exact ⟨statement, Syntax.statement?_of_read hform.symm⟩

theorem signs_readLines {lines : List (List Char)} (ht : s.readLines line lines = .ok t) :
    t.signs = s.signs ∨ ∃ raw ∈ lines, Detection.IsHeader (Text.trim raw) ∨
      ∃ statement, Syntax.statement? (Text.trim raw) = some statement := by
  induction lines generalizing s line with
  | nil =>
      obtain rfl := Except.ok.inj ht
      exact Or.inl rfl
  | cons raw rest ih =>
      rw [State.readLines] at ht
      split at ht
      · next u hu =>
          rcases signs_readLine hu with hsame | hsign
          · rw [← hsame]
            refine (ih ht).imp_right ?_
            rintro ⟨r, hr, hsign⟩
            exact ⟨r, List.mem_cons_of_mem _ hr, hsign⟩
          · exact Or.inr ⟨raw, List.mem_cons_self, hsign⟩
      · simp at ht

end

end Lifeline.Reader
