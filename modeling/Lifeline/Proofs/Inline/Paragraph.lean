import Lifeline.Inline.Spans
import Lifeline.Proofs.Text.Line

/-! # A line is one paragraph

Before a line is read as Markdown, a beginning that would open a block is marked as literal.
`markerLength` finds such beginnings: where it finds none, a line opens neither a list nor any other
block (`marker?_eq_none`, `openLeaf_ofLine`), so every line that does not begin with a bracket is
read as one paragraph (`readText_markerLength`). -/

namespace Lifeline.Inline

open Block
open Lifeline.Unicode (isBlank isLineBlank)

section
variable {c : Char} {rest text : List Char}

/-! ### No marker -/

theorem opensBlock_eq_false (h : markerLength text = 0) : opensBlock text = false := by
  cases hopens : opensBlock text with
  | false => rfl
  | true =>
      rw [markerLength, if_pos hopens] at h
      cases h

theorem ne_of_markerLength (h : markerLength (c :: rest) = 0) {d : Char}
    (hd : opensBlock (d :: rest) = true) : c ≠ d := by
  rintro rfl
  exact absurd (hd.symm.trans (opensBlock_eq_false h)) (by decide)

/-- Behind what would be a marker, something else follows at once. -/
theorem exists_cons_of_endsMarker (h : endsMarker text = false) :
    ∃ d behind, text = d :: behind ∧ ¬ (d = ' ' ∨ d = '\t') := by
  cases text with
  | nil => cases h
  | cons d behind =>
      refine ⟨d, behind, rfl, ?_⟩
      rintro (rfl | rfl) <;> cases h

theorem isRuleLine_eq_false (h : markerLength text = 0) : isRuleLine text = false := by
  have hopens := opensBlock_eq_false h
  cases text with
  | nil => rfl
  | cons c rest =>
      by_cases hc : c = '*' ∨ c = '-' ∨ c = '_'
      · have hrule : isRule c (c :: rest) = false := by
          rcases hc with rfl | rfl | rfl
          · exact (Bool.or_eq_false_iff.mp hopens).2
          · exact (Bool.or_eq_false_iff.mp hopens).2
          · exact hopens
        rw [isRuleLine, hrule, Bool.and_false]
      · simp only [not_or] at hc
        simp [isRuleLine, hc]

theorem heading?_eq_none (h : markerLength text = 0) : heading? text = none := by
  cases text with
  | nil => rfl
  | cons c rest =>
      have hc : c ≠ '#' := ne_of_markerLength h rfl
      simp [heading?, hc]

theorem fence?_eq_none (h : markerLength text = 0) : fence? text = none := by
  have hopens := opensBlock_eq_false h
  cases text with
  | nil => rfl
  | cons c rest =>
      -- a run of three would have been found by its second and third character
      have hshort : ∀ fence, c = fence → [fence, fence].isPrefixOf rest = false →
          ((c :: rest).takeWhile (· = c)).length < 3 := by
        rintro fence rfl hprefix
        match rest with
        | [] => simp
        | [d] => by_cases hd : d = c <;> simp [hd]
        | d :: e :: more => by_cases hd : d = c <;> by_cases he : e = c <;> simp_all
      by_cases hfence : c = '~' ∨ c = '\x60'
      · have hlt : ((c :: rest).takeWhile (· = c)).length < 3 := by
          rcases hfence with rfl | rfl
          · exact hshort _ rfl hopens
          · exact hshort _ rfl hopens
        simp only [fence?, if_pos hlt]
      · simp only [not_or] at hfence
        simp [fence?, hfence]

theorem marker?_eq_none (h : markerLength text = 0) : marker? text = none := by
  have hopens := opensBlock_eq_false h
  cases text with
  | nil => rfl
  | cons c rest =>
      by_cases hbullet : c = '-' ∨ c = '+' ∨ c = '*'
      · have hends : endsMarker rest = false := by
          rcases hbullet with rfl | rfl | rfl
          · exact (Bool.or_eq_false_iff.mp hopens).1
          · exact hopens
          · exact (Bool.or_eq_false_iff.mp hopens).1
        obtain ⟨d, behind, rfl, hd⟩ := exists_cons_of_endsMarker hends
        simp [marker?, hbullet, isRuleLine_eq_false h, hd]
      · rw [markerLength, if_neg (by simp [hopens])] at h
        cases hdrop : (c :: rest).drop ((c :: rest).takeWhile Char.isDigit).length with
        | nil => simp [marker?, hbullet, hdrop]
        | cons d behind =>
            simp only [hdrop] at h
            by_cases hnumber : 1 ≤ ((c :: rest).takeWhile Char.isDigit).length ∧
                ((c :: rest).takeWhile Char.isDigit).length ≤ 9 ∧ (d = '.' ∨ d = ')')
            · have hends : endsMarker behind = false := by
                cases hends : endsMarker behind with
                | false => rfl
                | true => simp [hnumber, hends] at h
              obtain ⟨e, more, rfl, he⟩ := exists_cons_of_endsMarker hends
              simp [marker?, hbullet, hdrop, hnumber, he]
            · simp [marker?, hbullet, hdrop, hnumber]

theorem anyTagEnding?_eq_none (h : markerLength text = 0) : anyTagEnding? text = none := by
  cases text with
  | nil => rfl
  | cons c rest =>
      have hc : c ≠ '<' := ne_of_markerLength h rfl
      simp [anyTagEnding?, tagEnding?, hc]

/-! ### No block -/

theorem isLineBlank_eq_false (h : isBlank c = false) : isLineBlank c = false := by
  cases hc : isLineBlank c with
  | false => rfl
  | true =>
      simp only [isLineBlank, Bool.or_eq_true, beq_iff_eq] at hc
      rcases hc with ((rfl | rfl) | rfl) | rfl <;> cases h

theorem skip_ofLine (hblank : isBlank c = false) (n : Nat) :
    (Rest.ofLine (c :: rest)).skip n = (0, .ofLine (c :: rest)) := by
  have hspace : c ≠ ' ' := by
    rintro rfl
    cases hblank
  have htab : c ≠ '\t' := by
    rintro rfl
    cases hblank
  simp [Rest.skip, Rest.ofLine, skipBlanks_of_ne hspace htab]

theorem openings_ofLine (hblank : isBlank c = false) (h : markerLength (c :: rest) = 0)
    (limit : Nat) : openings limit (.ofLine (c :: rest)) = ([], .ofLine (c :: rest)) := by
  cases limit with
  | zero => rfl
  | succ limit =>
      have hquote : quoted? (.ofLine (c :: rest)) = none := by
        have hc : c ≠ '>' := ne_of_markerLength h rfl
        simp [quoted?, Rest.ofLine, hc]
      have hitem : item? 0 (.ofLine (c :: rest)) = none := by
        simp [item?, Rest.ofLine, marker?_eq_none h]
      simp [openings, skip_ofLine hblank, tabStop, hitem, hquote]

theorem openLeaf_ofLine (hblank : isBlank c = false) (h : markerLength (c :: rest) = 0)
    (s : State) (lineEnd : List Char) :
    s.openLeaf (.ofLine (c :: rest)) lineEnd = { s with leaf := .paragraph 0 [c :: rest] } := by
  have hline : (Rest.ofLine (c :: rest)).isBlank = false := by
    simp [Rest.isBlank, Rest.ofLine, isLineBlank_eq_false hblank]
  have htext : (Rest.ofLine (c :: rest)).text = c :: rest := rfl
  simp [State.openLeaf, skip_ofLine hblank, hline, tabStop, htext, anyTagEnding?_eq_none h,
    isRuleLine_eq_false h, heading?_eq_none h, fence?_eq_none h]

/-! ### One paragraph -/

theorem lines_of_not_mem (hfeed : '\n' ∉ text) (hreturn : '\r' ∉ text) (line : List Char) :
    lines line text = [line.reverse ++ text] := by
  induction text generalizing line with
  | nil => rw [lines, List.append_nil]
  | cons c rest ih =>
      obtain ⟨hc, hfeed⟩ := not_or.mp (mt List.mem_cons.mpr hfeed)
      obtain ⟨hc', hreturn⟩ := not_or.mp (mt List.mem_cons.mpr hreturn)
      have hstep : lines line (c :: rest) = lines (c :: line) rest := by
        simp [lines, Ne.symm hc, Ne.symm hc']
      rw [hstep, ih hfeed hreturn, List.reverse_cons, List.append_assoc, List.singleton_append]

/-- A line that does not begin with a bracket is one paragraph, of which what would open another
block is literal. -/
theorem readText_markerLength (hfeed : '\n' ∉ c :: rest) (hreturn : '\r' ∉ c :: rest)
    (hblank : isBlank c = false) (hbracket : c ≠ '[') :
    readText (markerLength (c :: rest)) (c :: rest) =
      ⟨[], .none, [.prose (markerLength (c :: rest)) (c :: rest)], []⟩ := by
  rw [readText, lines_of_not_mem hfeed hreturn, List.reverse_nil, List.nil_append]
  cases hlength : markerLength (c :: rest) with
  | zero =>
      have hdefinition : splitDefinitions 1 (c :: rest) = ([], c :: rest) := by
        simp [splitDefinitions, definition?, hbracket]
      simp [State.readLines, State.read, enter, State.readInside, State.begin, State.start,
        openings_ofLine hblank hlength, openLeaf_ofLine hblank hlength, State.close, splitParagraph,
        hdefinition, State.add]
  | succ n => simp [State.readLines, State.close, splitParagraph, State.add, State.start]

end

end Lifeline.Inline
