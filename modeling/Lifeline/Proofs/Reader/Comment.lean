import Lifeline.Proofs.Reader.Failure
import Lifeline.Proofs.Reader.Renumber
import Lifeline.Proofs.Text.Front

/-! # Comments are invisible

An indented comment line leaves every state alone in which no note is being collected
(`readLine_comment`). The lines behind it are read with other numbers, and the reader does nothing
with numbers but copy them. So a text into which such a line is inserted is read like the text
without it, up to the numbers of the lines behind the insertion (`Diagram.read_commented`). -/

namespace Lifeline

/-! ### Line ends -/

theorem Detection.arrowBehind_concat {c : Char} (h : Unicode.isBlank c = true) (hasText : Bool)
    (text : List Char) :
    arrowBehind hasText (text ++ [c]) = arrowBehind hasText text := by
  induction text generalizing hasText with
  | nil => simp [arrowBehind]
  | cons d text ih =>
      have hrest := ih (hasText || !Unicode.isBlank d)
      rw [List.cons_append]
      unfold arrowBehind
      rw [hrest]
      congr 2
      cases text with
      | nil =>
          rw [List.nil_append]
          split
          · next heq =>
              obtain rfl : c = '>' := (List.cons.inj heq).1
              exact absurd h (by decide)
          · rfl
      | cons e text =>
          by_cases he : e = '>'
          · subst he
            simp [h]
          · simp [he]

namespace Text

/-- The reader cannot tell the two lines apart. -/
structure Alike (raw other : List Char) : Prop where
  trim : trim other = trim raw
  indent : Syntax.indent other = Syntax.indent raw
  arrow : Detection.arrowBehind false other = Detection.arrowBehind false raw

theorem Alike.refl (raw : List Char) : Alike raw raw := ⟨rfl, rfl, rfl⟩

theorem trim_append_of_blank {blanks : List Char}
    (h : ∀ c ∈ blanks, Unicode.isBlank c = true) (text : List Char) :
    trim (text ++ blanks) = trim text := by
  rw [← trim_trimEnd, trimEnd_append_of_blank h, trim_trimEnd]

theorem alike_closeLine (line : List Char) : Alike line (closeLine line.reverse) := by
  rcases reverse_eq_closeLine line.reverse with hline | hline
  · rw [List.reverse_reverse] at hline
    rw [← hline]
    exact .refl line
  · rw [List.reverse_reverse] at hline
    have hblank : ∀ c ∈ ['\r'], Unicode.isBlank c = true :=
      List.forall_mem_singleton.mpr (by decide)
    refine ⟨?_, indent_closeLine line, ?_⟩
    · conv_rhs => rw [hline]
      exact (trim_append_of_blank hblank _).symm
    · conv_rhs => rw [hline]
      exact (Detection.arrowBehind_concat (hblank '\r' (List.mem_singleton_self _)) _ _).symm

theorem forall₂_alike_refl (lines : List (List Char)) : List.Forall₂ Alike lines lines :=
  List.forall₂_same.mpr fun raw _ => .refl raw

/-- A line feed at the end of a text makes no new line if the last line has not ended. -/
theorem forall₂_linesAfter_concat {before text : List Char}
    (h : ¬BeginsLine (before.reverse ++ text)) :
    List.Forall₂ Alike (linesAfter before text) (linesAfter before (text ++ ['\n'])) := by
  induction text generalizing before with
  | nil =>
      have hne : before.isEmpty = false := by
        cases before with
        | nil => exact absurd beginsLine_nil h
        | cons c before => rfl
      have hline := alike_closeLine before.reverse
      rw [List.reverse_reverse] at hline
      simp only [linesAfter, hne, Bool.false_eq_true, if_false, List.nil_append]
      exact .cons hline .nil
  | cons c text ih =>
      rw [List.cons_append, linesAfter, linesAfter]
      by_cases hc : c = '\n'
      · rw [if_pos hc, if_pos hc]
        subst hc
        exact .cons (.refl _) (ih fun hbegins => h (hbegins.cons_append _))
      · rw [if_neg hc, if_neg hc]
        refine ih ?_
        rwa [List.reverse_cons, List.append_assoc]

/-! ### Inserting a line -/

/-- A line is inserted behind `front`, into the text that is given first; the other text is what
becomes of it. -/
inductive Inserts (line front : List Char) : List Char → List Char → Prop
  /-- The line goes between two lines, or in front of the first one. -/
  | between (behind : List Char) (h : BeginsLine front) :
    Inserts line front (front ++ behind) (front ++ line ++ '\n' :: behind)
  /-- The line goes to the end of a text that ends in a line feed. -/
  | atEnd (h : BeginsLine front) : Inserts line front front (front ++ line)
  /-- The line goes to the end of a text that does not end in a line feed. -/
  | behindLast (h : ¬BeginsLine front) : Inserts line front front (front ++ '\n' :: line)

/-- The lines of the two texts. -/
theorem Inserts.exists_lines {line front text other : List Char}
    (h : Inserts line front text other) (hclosed : '\n' ∉ line) (hne : line ≠ []) :
    ∃ before after, List.Forall₂ Alike (lines front) before ∧
      List.Forall₂ Alike (lines text) (before ++ after) ∧
      List.Forall₂ Alike (before ++ line :: after) (lines other) := by
  cases h with
  | between behind h =>
      refine ⟨lines front, lines behind, forall₂_alike_refl _, ?_, ?_⟩
      · rw [lines_append h]
        exact forall₂_alike_refl _
      · rw [List.append_assoc, lines_append h, lines_cons hclosed]
        exact List.rel_append (forall₂_alike_refl _)
          (.cons (alike_closeLine line) (forall₂_alike_refl _))
  | atEnd h =>
      refine ⟨lines front, [], forall₂_alike_refl _, ?_, ?_⟩
      · rw [List.append_nil]
        exact forall₂_alike_refl _
      · rw [lines_append h, lines_singleton hclosed hne]
        exact forall₂_alike_refl _
  | behindLast h =>
      have hfront : List.Forall₂ Alike (lines front) (lines (front ++ ['\n'])) :=
        forall₂_linesAfter_concat h
      refine ⟨lines (front ++ ['\n']), [], hfront, ?_, ?_⟩
      · rw [List.append_nil]
        exact hfront
      · rw [← lines_singleton hclosed hne, ← lines_append (beginsLine_concat front),
          List.append_assoc]
        exact forall₂_alike_refl _

end Text

end Lifeline

namespace Lifeline.Reader

open Lifeline.Text (Alike)

/-- An indented line with a comment. -/
structure IsComment (line : List Char) : Prop where
  closed : '\n' ∉ line
  indented : 0 < Syntax.indent line
  slashes : ['/', '/'] <+: Text.trim line

instance (line : List Char) : Decidable (IsComment line) :=
  decidable_of_iff ('\n' ∉ line ∧ 0 < Syntax.indent line ∧ ['/', '/'] <+: Text.trim line)
    ⟨fun ⟨h1, h2, h3⟩ => ⟨h1, h2, h3⟩, fun h => ⟨h.1, h.2, h.3⟩⟩

theorem IsComment.ne_nil {line : List Char} (h : IsComment line) : line ≠ [] := by
  rintro rfl
  exact absurd h.indented (lt_irrefl 0)

/-- Behind the text, a note is collecting the lines of its body. -/
def collectsNote (text : List Char) : Bool :=
  match (State.start .empty).readLines 1 (Text.lines text) with
  | .ok s => s.note.isSome
  | .error _ => false

/-- The number that a line has once a line has been inserted in front of the line `k`. -/
def later (k line : Nat) : Nat := if k ≤ line then line + 1 else line

section
variable {s : State} {raw other : List Char} {lines others : List (List Char)} {line : Nat}

theorem readLine_congr (h : Alike raw other) (s : State) (line : Nat) :
    s.readLine other line = s.readLine raw line := by
  have hcollect : ∀ n : OpenNote, n.collect? other = n.collect? raw := by
    intro n
    simp only [OpenNote.collect?, h.trim, h.indent]
  simp only [State.readLine, State.readPlain, hcollect, h.trim, h.indent]

theorem readLines_congr (h : List.Forall₂ Alike lines others) (s : State) (line : Nat) :
    s.readLines line others = s.readLines line lines := by
  induction h generalizing s line with
  | nil => rfl
  | cons hline _ ih =>
      rw [State.readLines, State.readLines, readLine_congr hline]
      cases s.readLine _ line with
      | ok t => exact ih t (line + 1)
      | error stop => rfl

theorem any_arrowBehind_congr (h : List.Forall₂ Alike lines others) :
    others.any (Detection.arrowBehind false) = lines.any (Detection.arrowBehind false) := by
  induction h with
  | nil => rfl
  | cons hline _ ih => rw [List.any_cons, List.any_cons, ih, hline.arrow]

theorem read_comment (h : ['/', '/'] <+: raw) (inGroup : Bool) :
    Syntax.Line.read inGroup raw = .comment := by
  obtain ⟨rest, rfl⟩ := h
  rfl

/-- **An indented comment changes nothing**, unless a note collects it. -/
theorem readLine_comment (hraw : IsComment raw) (hn : s.note = none) (line : Nat) :
    s.readLine raw line = .ok s := by
  have hindent : Syntax.indent raw ≠ 0 := Nat.pos_iff_ne_zero.mp hraw.indented
  simp only [State.readLine, hn, State.readPlain, read_comment hraw.slashes, if_neg hindent]
  rfl

theorem readLines_append_of_error {e : ReadError × Diagram} (h : s.readLines line lines = .error e)
    (behind : List (List Char)) : s.readLines line (lines ++ behind) = .error e := by
  obtain ⟨past, raw, later, t, stop, rfl, hpast, hstop, herror, hd⟩ := exists_of_readLines_error h
  rw [List.append_assoc, List.cons_append, readLines_stop hpast hstop, ← herror, ← hd]

/-- **One more line.** With an indented comment between them, lines are read as they are without it,
up to their numbers. -/
theorem readLines_commented (hraw : IsComment raw) {front : List (List Char)}
    (hnote : ∀ t, s.readLines 1 front = .ok t → t.note = none) (behind : List (List Char)) :
    (s.renumber (later (front.length + 1))).readLines 1 (front ++ raw :: behind) =
      renumberRun (later (front.length + 1)) (s.readLines 1 (front ++ behind)) := by
  have hbefore : (s.renumber (later (front.length + 1))).readLines 1 front =
      renumberRun (later (front.length + 1)) (s.readLines 1 front) := by
    refine readLines_renumber (fun i hi => ?_) s
    rw [later, if_neg (by omega)]
  cases hfront : s.readLines 1 front with
  | error e =>
      rw [hfront] at hbefore
      rw [readLines_append_of_error hbefore, readLines_append_of_error hfront]
      rfl
  | ok t =>
      rw [hfront] at hbefore
      have hcomment : (t.renumber (later (front.length + 1))).note = none := by
        rw [State.renumber, hnote t hfront]
        rfl
      rw [readLines_append hbefore, readLines_append hfront, State.readLines,
        readLine_comment hraw hcomment]
      refine readLines_renumber (fun i _ => ?_) t
      rw [later, if_pos (by omega)]
      omega

/-! ### Texts -/

variable {front text : List Char} {comment otherText : List Char}

theorem readLines_inserts (hcomment : IsComment comment)
    (h : Text.Inserts comment front text otherText) (hnote : collectsNote front = false) :
    (State.start .empty).readLines 1 (Text.lines otherText) =
      renumberRun (later ((Text.lines front).length + 1))
        ((State.start .empty).readLines 1 (Text.lines text)) := by
  obtain ⟨before, after, hfront, htext, hother⟩ := h.exists_lines hcomment.closed hcomment.ne_nil
  have hnone : ∀ t, (State.start .empty).readLines 1 before = .ok t → t.note = none := by
    intro t ht
    rw [readLines_congr hfront] at ht
    unfold collectsNote at hnote
    rw [ht] at hnote
    exact Option.not_isSome_iff_eq_none.mp (Bool.eq_false_iff.mp hnote)
  rw [readLines_congr hother, ← readLines_congr htext, hfront.length_eq]
  exact readLines_commented hcomment hnone after

theorem hasArrowLike_inserts (hcomment : IsComment comment)
    (h : Text.Inserts comment front text otherText) : Detection.hasArrowLike otherText =
      (Detection.hasArrowLike text || Detection.arrowBehind false comment) := by
  obtain ⟨before, after, -, htext, hother⟩ := h.exists_lines hcomment.closed hcomment.ne_nil
  unfold Detection.hasArrowLike
  rw [any_arrowBehind_congr hother, ← any_arrowBehind_congr htext, List.any_append,
    List.any_append, List.any_cons, Bool.or_assoc, Bool.or_comm (Detection.arrowBehind _ _)]

end

end Lifeline.Reader

namespace Lifeline.Diagram

open Reader

variable {line front text other : List Char}

/-- **An indented comment is invisible.** Let it be inserted into a text at a point where no note is
being collected. If the text can be read, so can the other one, to the same diagram, in which lines
behind the point have the next number. If the text is at fault in some line, so is the other one,
with the same fault, in the line of the number that this line has now. And a text without content
gets none from a comment, unless an arrow stands in it. -/
theorem read_commented (hline : IsComment line) (h : Text.Inserts line front text other)
    (hnote : collectsNote front = false) :
    (∀ d, empty.read text = (none, d) →
      empty.read other = (none, d.renumber (later ((Text.lines front).length + 1)))) ∧
    (∀ n fault d, empty.read text = (some (.atLine n fault), d) →
      empty.read other = (some (.atLine (later ((Text.lines front).length + 1) n) fault),
        d.renumber (later ((Text.lines front).length + 1)))) ∧
    ((empty.read text).1 = some .noContent → (empty.read other).1 =
      if Detection.arrowBehind false line then none else some .noContent) := by
  unfold read
  rw [readLines_inserts hline h hnote, hasArrowLike_inserts hline h]
  cases hread : (State.start empty).readLines 1 (Text.lines text) with
  | error e =>
      obtain ⟨past, raw, rest, t, stop, -, -, -, herror, -⟩ := exists_of_readLines_error hread
      obtain ⟨error, c⟩ := e
      obtain rfl : error = .atLine (1 + past.length) stop.fault := herror
      refine ⟨fun d hd => ?_, fun n fault d hd => ?_, fun hnone => ?_⟩
      · cases hd
      · obtain ⟨hn, rfl⟩ := Prod.mk.inj hd
        obtain ⟨rfl, rfl⟩ := ReadError.atLine.inj (Option.some.inj hn)
        rfl
      · cases hnone
  | ok s =>
      simp only [renumberRun, finish_renumber]
      generalize s.finish = t
      have hsame : ∀ f, (t.renumber f).hasChart = t.hasChart ∧
          (t.renumber f).diagram.messages.isEmpty = t.diagram.messages.isEmpty :=
        fun _ => ⟨rfl, List.isEmpty_map⟩
      rw [(hsame _).1, (hsame _).2]
      cases hlacks : !t.hasChart && t.diagram.messages.isEmpty &&
          !Detection.hasArrowLike text with
      | true =>
          refine ⟨fun d hd => ?_, fun n fault d hd => ?_, fun _ => ?_⟩
          · cases hd
          · cases hd
          · rw [Bool.not_or, ← Bool.and_assoc, hlacks]
            cases Detection.arrowBehind false line <;> rfl
      | false =>
          refine ⟨fun d hd => ?_, fun n fault d hd => ?_, fun hnone => ?_⟩
          · obtain rfl : t.diagram = d := (Prod.mk.inj hd).2
            rw [Bool.not_or, ← Bool.and_assoc, hlacks]
            rfl
          · cases hd
          · cases hnone

/-- The beginning of a document, up to a member of a group. -/
def preamble : List Char := "## Core\n  Api is a service\n".toList

/-- Another member, a block and a note. -/
def mainPart : List Char :=
  "  Db\nif ok\n  Api -> Db: ask\nelse\n  Db ~> Api\nnote of Db\n  kept".toList

/-- Another member, a message and a line at fault. -/
def faultyPart : List Char := "  Db\nApi -> Db\n## Late".toList

/-- A comment with an arrow and a carriage return at its end. -/
def remark : List Char := "\t// Db -> Api\r".toList

theorem read_commented_preamble : ∃ d e, IsComment remark ∧ collectsNote preamble = false ∧
    Text.Inserts remark preamble (preamble ++ mainPart) (preamble ++ remark ++ '\n' :: mainPart) ∧
    empty.read (preamble ++ mainPart) = (none, d) ∧ d.messages.map Message.line = [5, 7] ∧
    empty.read (preamble ++ remark ++ '\n' :: mainPart) = (none, d.renumber (later 3)) ∧
    (d.renumber (later 3)).messages.map Message.line = [6, 8] ∧
    empty.read (preamble ++ faultyPart) = (some (.atLine 5 .lateGroup), e) ∧
    empty.read (preamble ++ remark ++ '\n' :: faultyPart) =
      (some (.atLine 6 .lateGroup), e.renumber (later 3)) := by
  have htexts : preamble = _ ∧ mainPart = _ ∧ faultyPart = _ :=
    ⟨String.toList_ofList, String.toList_ofList, String.toList_ofList⟩
  have hremark : IsComment remark := by decide +kernel
  have hnote : collectsNote preamble = false := by rw [htexts.1]; decide +kernel
  have hbegins : Text.BeginsLine preamble :=
    Text.beginsLine_concat "## Core\n  Api is a service".toList
  have hmain : Text.Inserts remark preamble (preamble ++ mainPart)
      (preamble ++ remark ++ '\n' :: mainPart) := .between _ hbegins
  have hfaulty : Text.Inserts remark preamble (preamble ++ faultyPart)
      (preamble ++ remark ++ '\n' :: faultyPart) := .between _ hbegins
  have hvalues : (empty.read (preamble ++ mainPart)).1 = none ∧
      (empty.read (preamble ++ mainPart)).2.messages.map Message.line = [5, 7] ∧
      ((empty.read (preamble ++ mainPart)).2.renumber (later 3)).messages.map Message.line =
        [6, 8] := by
    rw [htexts.1, htexts.2.1]
    decide +kernel
  obtain ⟨hnone, hlines, hlater⟩ := hvalues
  have h := read_of_fst empty (preamble ++ mainPart) hnone
  have hfault : (empty.read (preamble ++ faultyPart)).1 = some (.atLine 5 .lateGroup) := by
    rw [htexts.1, htexts.2.2]
    decide +kernel
  exact ⟨_, _, hremark, hnote, hmain, h, hlines, (read_commented hremark hmain hnote).1 _ h, hlater,
    Prod.ext hfault rfl,
    (read_commented hremark hfaulty hnote).2.1 5 .lateGroup _ (Prod.ext hfault rfl)⟩

end Lifeline.Diagram
