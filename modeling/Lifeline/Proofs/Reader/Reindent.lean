import Lifeline.Proofs.Reader.Effect
import Lifeline.Proofs.Text.Front
import Lifeline.Reader.Document

/-! # Only the order of indentations matters

The reader compares indentations with one another and with zero, and uses them for nothing else. Let
`f` keep the order of indentations and their zero. If every open block and the open note of a state
is moved from indentation `n` to `f n`, and the next line as well, then the reader does the same and
ends in the state that is moved likewise (`readLine_reindent`). The diagram is no part of what is
moved, so texts that differ in the fronts of their lines alone are read alike
(`Diagram.read_reindented`). -/

namespace Lifeline.Reader

open Lifeline.Syntax (Content Declaration Heading Line NoteHeader Statement)
open Lifeline.Text (Reindented)

/-- The block, as if its indentation `n` were `f n`. -/
def OpenBlock.reindent (f : Nat → Nat) (b : OpenBlock) : OpenBlock := { b with indent := f b.indent }

/-- The note, as if its indentation `n` were `f n`. -/
def OpenNote.reindent (f : Nat → Nat) (n : OpenNote) : OpenNote := { n with indent := f n.indent }

/-- The state, as if every indentation `n` were `f n`. -/
def State.reindent (f : Nat → Nat) (s : State) : State :=
  { s with stack := s.stack.map (OpenBlock.reindent f), note := s.note.map (OpenNote.reindent f) }

section
variable (f : Nat → Nat) (s : State) (o : Outline) (line : Nat)

/-! ### Entries and blocks -/

theorem append_reindent : (s.reindent f).append o = (s.append o).reindent f := by
  unfold State.append
  cases hs : s.stack <;> simp [State.reindent, OpenBlock.reindent, hs]

theorem closeBlock_reindent : (s.reindent f).closeBlock = s.closeBlock.reindent f := by
  unfold State.closeBlock
  cases hs : s.stack with
  | nil => simp [State.reindent, hs]
  | cons b bs =>
      simp only [State.reindent, hs, List.map_cons]
      exact append_reindent f { s with stack := bs } b.close

/-- Blocks close where a condition says so that does not see the difference. -/
theorem closeWhile_reindent {p q : OpenBlock → Bool} (hpq : ∀ b, q (b.reindent f) = p b)
    (bs : List OpenBlock) :
    closeWhile q (bs.map (OpenBlock.reindent f)) (s.reindent f) =
      (closeWhile p bs s).reindent f := by
  induction bs generalizing s with
  | nil => rfl
  | cons b bs ih =>
      rw [List.map_cons, closeWhile, closeWhile, hpq, closeBlock_reindent, ih]
      split <;> rfl

theorem closeBlocks_reindent (hf : StrictMono f) (indent : Nat) (startsBranch : Bool) :
    (s.reindent f).closeBlocks (f indent) startsBranch =
      (s.closeBlocks indent startsBranch).reindent f := by
  refine closeWhile_reindent f s (fun b => ?_) s.stack
  have heq : (f b.indent == f indent) = (b.indent == indent) := by
    rw [Bool.eq_iff_iff, beq_iff_eq, beq_iff_eq, hf.injective.eq_iff]
  simp only [OpenBlock.reindent, heq, hf.le_iff_le]

theorem closeAll_reindent : (s.reindent f).closeAll = s.closeAll.reindent f :=
  closeWhile_reindent f s (fun _ => rfl) s.stack

/-! ### Notes -/

theorem addNote_reindent (participant : Option String) (side : Side) (text : List Char)
    (afterMessage : Option Nat) :
    (s.reindent f).addNote participant side text line afterMessage =
      (s.addNote participant side text line afterMessage).reindent f := by
  unfold State.addNote
  cases participant with
  | none => rfl
  | some id =>
      have hid : (s.reindent f).diagram.hasParticipant id = s.diagram.hasParticipant id := rfl
      dsimp only
      rw [hid, append_reindent]
      split <;> rfl

theorem closeNote_reindent : (s.reindent f).closeNote = s.closeNote.reindent f := by
  cases hn : s.note with
  | none =>
      rw [closeNote_of_none hn, closeNote_of_none]
      simp [State.reindent, hn]
  | some n =>
      rw [closeNote_of_some hn, ← addNote_reindent, closeNote_of_some (n := n.reindent f)]
      · rfl
      · simp [State.reindent, hn]

/-! ### Lines that describe -/

theorem readGroup_reindent (h : Heading) :
    (s.reindent f).readGroup h line = (s.readGroup h line).map (State.reindent f) := by
  unfold State.readGroup
  have hcontent : (s.reindent f).hasContent = s.hasContent := rfl
  rw [hcontent]
  cases s.hasContent with
  | true => rfl
  | false =>
      cases hexColor? h with
      | some color => rfl
      | none =>
          have hdiagram : (s.reindent f).diagram = s.diagram := rfl
          simp only [hdiagram]
          cases hfind : s.diagram.groups.findIdx? fun g => g.name == String.ofList h.label <;> rfl

theorem readOption_reindent (key : String) (value : List Char) :
    (s.reindent f).readOption key value = (s.readOption key value).map (State.reindent f) := by
  unfold State.readOption
  have hcontent : (s.reindent f).hasContent = s.hasContent := rfl
  dsimp only
  rw [hcontent]
  by_cases hchart : key = "chart"
  · rw [if_pos hchart, if_pos hchart]
    split <;> rfl
  · rw [if_neg hchart, if_neg hchart]
    cases s.hasContent with
    | true => rfl
    | false =>
        simp only [Bool.false_eq_true, if_false]
        split <;> rfl

theorem joinGroup_reindent (id : String) :
    (s.reindent f).joinGroup id = (s.joinGroup id).map (State.reindent f) := by
  unfold State.joinGroup
  have hgroup : (s.reindent f).group = s.group := rfl
  have hmembership : (s.reindent f).membership = s.membership := rfl
  rw [hgroup, hmembership]
  cases s.group with
  | none => rfl
  | some i =>
      dsimp only
      cases s.membership.find? fun m => m.1 == id with
      | none => rfl
      | some entry =>
          dsimp only
          split <;> rfl

/-! ### Lines of content -/

theorem readSection_reindent (hf : StrictMono f) (h : Heading) (indent : Nat) :
    (s.reindent f).readSection h (f indent) line =
      (s.readSection h indent line).map (State.reindent f) := by
  unfold State.readSection
  cases hexColor? h with
  | some color => rfl
  | none =>
      dsimp only
      rw [closeBlocks_reindent f s hf]
      generalize s.closeBlocks indent false = c
      let divider : Section :=
        ⟨String.ofList h.label, h.color.map String.ofList, line, c.diagram.messages.length⟩
      exact congrArg Except.ok (append_reindent f { c with
        diagram := { c.diagram with sections := c.diagram.sections ++ [divider] }
        hasContent := true } (Entry.section divider).alone)

theorem readMessage_reindent (statement : Statement) :
    (s.reindent f).readMessage statement line = (s.readMessage statement line).reindent f := by
  unfold State.readMessage
  have hdiagram : (s.reindent f).diagram = s.diagram := rfl
  rw [hdiagram, ← append_reindent]
  rfl

theorem readBranch_reindent (hf : StrictMono f) (label : Option (List Char)) (indent : Nat) :
    (s.reindent f).readBranch label (f indent) line =
      (s.readBranch label indent line).map (State.reindent f) := by
  unfold State.readBranch
  have hstack : (s.reindent f).stack = s.stack.map (OpenBlock.reindent f) := rfl
  dsimp only
  rw [hstack]
  cases hs : s.stack with
  | nil => simp [State.reindent, Except.map, hs]
  | cons b bs =>
      have hindent : (b.reindent f).indent ≠ f indent ↔ b.indent ≠ indent := hf.injective.ne_iff
      simp only [List.map_cons, hindent]
      by_cases hne : b.indent ≠ indent
      · rw [if_pos hne, if_pos hne]
        rfl
      · rw [if_neg hne, if_neg hne]
        cases hk : b.head.kind with
        | parallel => simp [OpenBlock.reindent, hk, Except.map, State.stop, State.reindent]
        | loop => simp [OpenBlock.reindent, hk, Except.map, State.reindent]
        | choice =>
            cases he : b.hasElse with
            | true => simp [OpenBlock.reindent, hk, he, Except.map, State.reindent]
            | false => simp [OpenBlock.reindent, hk, he, Except.map, State.reindent]

theorem readNote_reindent (header : NoteHeader) (indent : Nat) :
    (s.reindent f).readNote header (f indent) line =
      (s.readNote header indent line).reindent f := by
  unfold State.readNote
  cases header.text with
  | none => rfl
  | some text => exact addNote_reindent f { s with hasContent := true } line _ _ text _

theorem readContent_reindent (hf : StrictMono f) (content : Content) (indent : Nat) :
    (s.reindent f).readContent content (f indent) line =
      (s.readContent content indent line).map (State.reindent f) := by
  cases content with
  | asyncKeyword => rfl
  | message statement => exact congrArg Except.ok (readMessage_reindent f s line statement)
  | block kind label => rfl
  | branch label => exact readBranch_reindent f s line hf label indent
  | note header => exact congrArg Except.ok (readNote_reindent f s line header indent)
  | other => rfl

theorem readForm_reindent (hf : StrictMono f) (form : Line) (text : List Char) (indent : Nat) :
    (s.reindent f).readForm form text (f indent) line =
      (s.readForm form text indent line).map (State.reindent f) := by
  cases form with
  | blank => rfl
  | group h => exact readGroup_reindent f s line h
  | comment => rfl
  | hash => rfl
  | «section» h => exact readSection_reindent f s line hf h indent
  | option key value => exact readOption_reindent f s key value
  | declaration decl => exact joinGroup_reindent f { s with diagram := _ } _
  | position id n => exact joinGroup_reindent f { s with diagram := _ } _
  | member id => exact joinGroup_reindent f { s with diagram := _ } _
  | content c =>
      rw [State.readForm, closeBlocks_reindent f s hf, readContent_reindent f _ line hf]
      rfl

end

/-! ### Lines and texts -/

section
variable {f : Nat → Nat} {raw other : List Char}

theorem pos_reindented (hf : StrictMono f) (h0 : f 0 = 0) (n : Nat) : 0 < f n ↔ 0 < n := by
  have hlt := hf.lt_iff_lt (a := 0) (b := n)
  rwa [h0] at hlt

theorem readPlain_reindent (hf : StrictMono f) (h0 : f 0 = 0) (h : Reindented f raw other)
    (s : State) (line : Nat) :
    (s.reindent f).readPlain other line = (s.readPlain raw line).map (State.reindent f) := by
  have hpos := pos_reindented hf h0 (Syntax.indent raw)
  have hzero : f (Syntax.indent raw) = 0 ↔ Syntax.indent raw = 0 := by omega
  have hgroup : (s.reindent f).group = s.group := rfl
  unfold State.readPlain
  simp only [h.trim, h.indent_eq, hpos, hzero, hgroup]
  rw [← readForm_reindent f _ line hf]
  split <;> rfl

/-- **One line.** Where a line and everything open are indented in another way that keeps the order
of indentations, the line is read alike. -/
theorem readLine_reindent (hf : StrictMono f) (h0 : f 0 = 0) (h : Reindented f raw other)
    (s : State) (line : Nat) :
    (s.reindent f).readLine other line = (s.readLine raw line).map (State.reindent f) := by
  unfold State.readLine
  have hnote : (s.reindent f).note = s.note.map (OpenNote.reindent f) := rfl
  rw [hnote]
  cases s.note with
  | none => exact readPlain_reindent hf h0 h s line
  | some n =>
      have hcollect : (n.reindent f).collect? other =
          (n.collect? raw).map (OpenNote.reindent f) := by
        unfold OpenNote.collect?
        have hdeeper : (n.reindent f).indent < f (Syntax.indent raw) ↔
            n.indent < Syntax.indent raw := hf.lt_iff_lt
        simp only [h.trim, h.indent_eq, hdeeper]
        split <;> rfl
      simp only [Option.map_some, hcollect]
      cases n.collect? raw with
      | some m => rfl
      | none =>
          rw [closeNote_reindent]
          exact readPlain_reindent hf h0 h s.closeNote line

theorem readLines_reindent (hf : StrictMono f) (h0 : f 0 = 0) {lines others : List (List Char)}
    (h : List.Forall₂ (Reindented f) lines others) (s : State) (line : Nat) :
    (s.reindent f).readLines line others = (s.readLines line lines).map (State.reindent f) := by
  induction h generalizing s line with
  | nil => rfl
  | cons hline hrest ih =>
      rw [State.readLines, State.readLines, readLine_reindent hf h0 hline]
      cases s.readLine _ line with
      | ok t => exact ih t (line + 1)
      | error stop => rfl

theorem finish_reindent (f : Nat → Nat) (s : State) :
    (s.reindent f).finish = s.finish.reindent f := by
  rw [State.finish, closeNote_reindent, closeAll_reindent]
  rfl

end

end Lifeline.Reader

namespace Lifeline.Detection

open Lifeline.Unicode (isBlank isSpaceOrTab)

/-- An arrow does not count before the first text of a line. -/
theorem arrowBehind_dropWhile (line : List Char) :
    arrowBehind false (line.dropWhile isSpaceOrTab) = arrowBehind false line := by
  induction line with
  | nil => rfl
  | cons c line ih =>
      cases hc : isSpaceOrTab c with
      | false => rw [List.dropWhile_cons_of_neg (by simp [hc])]
      | true =>
          rw [List.dropWhile_cons_of_pos hc, ih]
          simp [arrowBehind, Unicode.isBlank_of_isSpaceOrTab hc]

theorem hasArrowLike_reindented {f : Nat → Nat} {text other : List Char}
    (h : List.Forall₂ (Text.Reindented f) (Text.lines text) (Text.lines other)) :
    hasArrowLike other = hasArrowLike text := by
  unfold hasArrowLike
  generalize Text.lines text = lines at h ⊢
  generalize Text.lines other = others at h ⊢
  induction h with
  | nil => rfl
  | cons hline hrest ih =>
      rw [List.any_cons, List.any_cons, ih, ← arrowBehind_dropWhile, hline.behind,
        arrowBehind_dropWhile]

end Lifeline.Detection

namespace Lifeline

open Reader

theorem Diagram.read_of_reindents {f : Nat → Nat} (hf : StrictMono f) (h0 : f 0 = 0)
    {text other : List Char} (h : Text.Reindents f text other) (d : Diagram) :
    d.read other = d.read text := by
  have hlines := h.lines hf h0
  have hread := readLines_reindent hf h0 hlines (State.start d) 1
  have hstart : (State.start d).reindent f = State.start d := rfl
  rw [hstart] at hread
  unfold Diagram.read
  rw [hread, Detection.hasArrowLike_reindented hlines]
  cases (State.start d).readLines 1 (Text.lines text) with
  | error e => rfl
  | ok s =>
      simp only [Except.map, finish_reindent]
      rfl

/-- **Texts are read alike if only their indentations differ, and these in order.** Let `f` keep the
order of indentations and their zero. If the spaces and tabs in front of the lines of a text are
rewritten so that a line of indentation `n` has indentation `f n`, and the rest of every line is
left alone, then reading the text into a diagram leaves the same diagram and the same error, if
there is one. So it does not matter whether a tab or four spaces are written in front of a line, nor
whether everything is indented twice as deep. -/
theorem Diagram.read_reindented (d : Diagram) (text : List Char) :
    (∀ (f : Nat → Nat) (other : List Char), StrictMono f → f 0 = 0 →
      Text.Reindents f text other → d.read other = d.read text) ∧
    d.read (Text.mapFronts Text.expandTabs text) = d.read text ∧
    d.read (Text.mapFronts Text.doubled text) = d.read text := by
  refine ⟨fun f other hf h0 h => read_of_reindents hf h0 h d, ?_, ?_⟩
  · exact read_of_reindents strictMono_id rfl (Text.reindents_expandTabs text) d
  · exact read_of_reindents (fun a b hab => by omega) rfl
      (Text.reindents_doubled text) d

/-- Blocks with branches and a note, indented by spaces and tabs. -/
def nestedText : List Char :=
  "if a\n  A -> B\n  loop b\n\tB -> C\r\nelse\n note of A\n\n  == kept ==\n C -> A\n".toList

/-- The same lines, each indented by the square of its indentation. -/
def squaredText : List Char :=
  "if a\n\tA -> B\n    loop b\n\t\t\t    B -> C\r\nelse\n note of A\n\n    == kept ==\n C -> A\n".toList

theorem Diagram.read_reindented_squared :
    StrictMono (fun n : Nat => n * n) ∧ 0 * 0 = 0 ∧
    Text.Reindents (fun n => n * n) nestedText squaredText ∧
    empty.read squaredText = empty.read nestedText ∧
    (empty.read nestedText).1 = none ∧ (empty.read nestedText).2.messages.length = 3 := by
  have hmono : StrictMono (fun n : Nat => n * n) := fun _ _ h => Nat.mul_self_lt_mul_self h
  have hnested : nestedText = _ := String.toList_ofList
  have hsquared : squaredText = _ := String.toList_ofList
  have hfronts : Text.Reindents (fun n => n * n) nestedText squaredText := by
    rw [hnested, hsquared]
    decide +kernel
  exact ⟨hmono, rfl, hfronts,
    (read_reindented empty nestedText).1 (fun n => n * n) squaredText hmono rfl hfronts,
    by rw [hnested]; decide +kernel, by rw [hnested]; decide +kernel⟩

end Lifeline
