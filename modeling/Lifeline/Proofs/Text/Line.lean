import Lifeline.Text.Line
import Mathlib.Data.List.TakeWhile

/-! # Where lines stand

A line of a text stands at the beginning of the text or behind a line feed, and in front of a line
end (`exists_of_mem_lines`). What trimming leaves of a text stands in it between blanks
(`trimStart_eq_append`, `eq_append_trim`); of a trimmed text, a part at the beginning or at the end
is trimmed on one side only (`Trimmed.eq_trim_append`, `Trimmed.eq_append_trim`). -/

namespace Lifeline.Text

open Lifeline.Unicode (isBlank)

/-! ### Trimming -/

section
variable (text : List Char)

theorem eq_append_trimEnd : ∃ blanks, (∀ c ∈ blanks, isBlank c = true) ∧
    text = trimEnd text ++ blanks := by
  refine ⟨(text.reverse.takeWhile isBlank).reverse, ?_, ?_⟩
  · intro c hc
    exact List.mem_takeWhile_imp (List.mem_reverse.mp hc)
  · rw [trimEnd, ← List.reverse_append, List.takeWhile_append_dropWhile, List.reverse_reverse]

theorem trimStart_eq_append : ∃ blanks, (∀ c ∈ blanks, isBlank c = true) ∧
    trimStart text = trim text ++ blanks := eq_append_trimEnd (trimStart text)

/-- Trimming takes blanks away, in front and behind. -/
theorem eq_blanks_append_trim : ∃ front behind, (∀ c ∈ front, isBlank c = true) ∧
    (∀ c ∈ behind, isBlank c = true) ∧ text = front ++ trim text ++ behind := by
  obtain ⟨blanks, hblanks, htrim⟩ := trimStart_eq_append text
  refine ⟨text.takeWhile isBlank, blanks, fun c hc => List.mem_takeWhile_imp hc, hblanks, ?_⟩
  rw [List.append_assoc, ← htrim]
  exact List.takeWhile_append_dropWhile.symm

theorem eq_append_trim : ∃ front behind, text = front ++ trim text ++ behind := by
  obtain ⟨front, behind, -, -, htext⟩ := eq_blanks_append_trim text
  exact ⟨front, behind, htext⟩

theorem trim_eq_nil_iff : trim text = [] ↔ ∀ c ∈ text, isBlank c = true := by
  constructor
  · intro hnil c hc
    obtain ⟨front, behind, hfront, hbehind, htext⟩ := eq_blanks_append_trim text
    rw [htext, hnil, List.append_nil, List.mem_append] at hc
    exact hc.elim (hfront c) (hbehind c)
  · intro hall
    have hstart : trimStart text = [] := List.dropWhile_eq_nil_iff.mpr hall
    rw [trim, hstart, trimEnd_nil]

variable {text}

/-- What stands behind a text that is not blank does not change where the text begins. -/
theorem trimStart_append (h : trimStart text ≠ []) (behind : List Char) :
    trimStart (text ++ behind) = trimStart text ++ behind := by
  rw [trimStart, List.dropWhile_append, if_neg]
  · rfl
  · rw [List.isEmpty_iff]
    exact h

theorem trimStart_ne_nil (h : trim text ≠ []) : trimStart text ≠ [] := by
  intro hnil
  rw [trim, hnil, trimEnd_nil] at h
  exact h rfl

theorem trimStart_append_of_blank {blanks : List Char} (h : ∀ c ∈ blanks, isBlank c = true) :
    trimStart (blanks ++ text) = trimStart text := List.dropWhile_append_of_pos h

theorem trimStart_cons_of_not {c : Char} (h : isBlank c = false) :
    trimStart (c :: text) = c :: text := List.dropWhile_cons_of_neg (by simp [h])

theorem trimEnd_append_of_blank {blanks : List Char} (h : ∀ c ∈ blanks, isBlank c = true) :
    trimEnd (text ++ blanks) = trimEnd text := by
  rw [trimEnd, List.reverse_append, List.dropWhile_append_of_pos]
  · rfl
  · exact fun c hc => h c (List.mem_reverse.mp hc)

theorem trimEnd_append_cons {c : Char} (h : isBlank c = false) (front text : List Char) :
    trimEnd (front ++ c :: text) = front ++ c :: trimEnd text := by
  rw [trimEnd, trimEnd, List.reverse_append, List.reverse_cons, List.append_assoc,
    List.dropWhile_append]
  split
  · next hblank =>
      rw [List.isEmpty_iff.mp hblank, List.cons_append, List.dropWhile_cons_of_neg (by simp [h])]
      simp
  · simp

theorem trim_trimEnd (text : List Char) : trim (trimEnd text) = trim text := by
  obtain ⟨blanks, hblanks, htext⟩ := eq_append_trimEnd text
  by_cases hnil : trimStart (trimEnd text) = []
  · have hall : ∀ c ∈ text, isBlank c = true := by
      intro c hc
      rw [htext, List.mem_append] at hc
      exact hc.elim (List.dropWhile_eq_nil_iff.mp hnil c) (hblanks c)
    rw [trim, trim, hnil, trimStart, List.dropWhile_eq_nil_iff.mpr hall]
  · have hstart : trimStart text = trimStart (trimEnd text) ++ blanks := by
      rw [← trimStart_append hnil, ← htext]
    rw [trim, trim, hstart, trimEnd_append_of_blank hblanks]

end

/-! ### Trimmed texts -/

/-- No blank stands at either end of the text. -/
structure Trimmed (text : List Char) : Prop where
  head : ∀ c ∈ text.head?, isBlank c = false
  last : ∀ c ∈ text.getLast?, isBlank c = false

theorem trimmed_trim (text : List Char) : Trimmed (trim text) where
  head := by
    intro c hc
    obtain ⟨rest, hrest⟩ := List.head?_eq_some_iff.mp hc
    obtain ⟨blanks, -, hstart⟩ := trimStart_eq_append text
    rw [hrest, List.cons_append] at hstart
    exact trimStart_eq_cons hstart
  last := by
    intro c hc
    rw [trim, trimEnd, List.getLast?_reverse] at hc
    have hhead := List.head?_dropWhile_not isBlank (trimStart text).reverse
    rw [Option.mem_def.mp hc] at hhead
    simpa using hhead

section
variable {front behind : List Char}

/-- Of what a trimmed text begins with, trimming takes blanks at the end. -/
theorem Trimmed.eq_trim_append (h : Trimmed (front ++ behind)) :
    ∃ gap, (∀ c ∈ gap, isBlank c = true) ∧ front = trim front ++ gap := by
  have hstart : trimStart front = front := by
    cases front with
    | nil => rfl
    | cons c front => exact trimStart_cons_of_not (h.head c rfl)
  have hgap := trimStart_eq_append front
  rwa [hstart] at hgap

theorem Trimmed.eq_append_trim (h : Trimmed (front ++ behind)) :
    ∃ gap, (∀ c ∈ gap, isBlank c = true) ∧ behind = gap ++ trim behind := by
  obtain ⟨gap, blanks, hgap, hblanks, hbehind⟩ := eq_blanks_append_trim behind
  refine ⟨gap, hgap, ?_⟩
  rcases blanks.eq_nil_or_concat with rfl | ⟨init, c, rfl⟩
  · simpa using hbehind
  · have hlast : isBlank c = false := h.last c (by rw [hbehind]; simp)
    have hblank := hblanks c (by simp)
    simp [hlast] at hblank

end

section
variable {text : List Char}

theorem Trimmed.trim_eq (h : Trimmed text) : trim text = text := by
  have happend : Trimmed (text ++ []) := by rwa [List.append_nil]
  obtain ⟨gap, hgap, htext⟩ := happend.eq_trim_append
  rcases gap.eq_nil_or_concat with rfl | ⟨init, c, rfl⟩
  · rw [List.append_nil] at htext
    exact htext.symm
  · have hlast : isBlank c = false := h.last c (by rw [htext]; simp)
    have hblank := hgap c (by simp)
    simp [hlast] at hblank

theorem trimmed_iff : (text.head?.all fun c => !isBlank c) = true ∧
    (text.getLast?.all fun c => !isBlank c) = true ↔ Trimmed text := by
  simp only [Option.all_eq_true, Bool.not_eq_true']
  exact ⟨fun ⟨hhead, hlast⟩ => ⟨hhead, hlast⟩, fun h => ⟨h.head, h.last⟩⟩

instance (text : List Char) : Decidable (Trimmed text) := decidable_of_iff _ trimmed_iff

end

theorem contains_iff {piece text : List Char} : contains piece text = true ↔ piece <:+: text := by
  induction text with
  | nil => simp [contains]
  | cons c rest ih =>
      rw [contains, Bool.or_eq_true, List.isPrefixOf_iff_prefix, ih, List.infix_cons_iff]

/-! ### Lines -/

/-- Here a line may begin: at the beginning of a text, or behind a line feed. -/
def BeginsLine (front : List Char) : Prop := ∀ c ∈ front.getLast?, c = '\n'

/-- Here a line may end: at the end of a text, or at a line feed, with a carriage return in front of
it or not. -/
def FinishesLine (behind : List Char) : Prop :=
  behind = [] ∨ ∃ rest, behind = '\n' :: rest ∨ behind = '\r' :: '\n' :: rest

theorem beginsLine_nil : BeginsLine [] := by simp [BeginsLine]

theorem beginsLine_concat (front : List Char) : BeginsLine (front ++ ['\n']) := by
  simp [BeginsLine]

theorem BeginsLine.cons_append {before : List Char} (h : BeginsLine before) (front : List Char) :
    BeginsLine (front ++ '\n' :: before) := by
  rcases before.eq_nil_or_concat with rfl | ⟨init, c, rfl⟩
  · exact beginsLine_concat front
  · obtain rfl : c = '\n' := h c (by simp)
    rw [List.concat_eq_append, ← List.cons_append, ← List.append_assoc]
    exact beginsLine_concat _

/-- One carriage return may be lost at the end of a line. -/
theorem reverse_eq_closeLine (before : List Char) : before.reverse = closeLine before ∨
    before.reverse = closeLine before ++ ['\r'] := by
  unfold closeLine
  split
  · exact Or.inr List.reverse_cons
  · exact Or.inl rfl

theorem exists_of_mem_linesAfter {before text line : List Char}
    (h : line ∈ linesAfter before text) :
    ∃ front behind, before.reverse ++ text = front ++ line ++ behind ∧ BeginsLine front ∧
      FinishesLine behind := by
  induction text generalizing before with
  | nil =>
      rw [linesAfter] at h
      split at h
      · exact absurd h List.not_mem_nil
      · obtain rfl := List.mem_singleton.mp h
        exact ⟨[], [], by simp, beginsLine_nil, Or.inl rfl⟩
  | cons c rest ih =>
      rw [linesAfter] at h
      split at h
      · next hc =>
          subst hc
          rcases List.mem_cons.mp h with rfl | h
          · rcases reverse_eq_closeLine before with hline | hline
            · exact ⟨[], '\n' :: rest, by rw [hline]; rfl, beginsLine_nil, Or.inr ⟨rest, .inl rfl⟩⟩
            · refine ⟨[], '\r' :: '\n' :: rest, ?_, beginsLine_nil, Or.inr ⟨rest, .inr rfl⟩⟩
              rw [hline, List.append_assoc]
              rfl
          · obtain ⟨front, behind, hrest, hfront, hbehind⟩ := ih h
            refine ⟨before.reverse ++ '\n' :: front, behind, ?_, hfront.cons_append _, hbehind⟩
            rw [List.reverse_nil, List.nil_append] at hrest
            rw [hrest]
            simp
      · obtain ⟨front, behind, hrest, hline⟩ := ih h
        refine ⟨front, behind, ?_, hline⟩
        rw [← hrest, List.reverse_cons, List.append_assoc]
        rfl

/-- A line of a text stands in it, between two places where a line may begin and end. -/
theorem exists_of_mem_lines {text line : List Char} (h : line ∈ lines text) : ∃ front behind,
    text = front ++ line ++ behind ∧ BeginsLine front ∧ FinishesLine behind :=
  exists_of_mem_linesAfter h

theorem linesAfter_append (before front behind : List Char) :
    linesAfter before (front ++ '\n' :: behind) =
      linesAfter before (front ++ ['\n']) ++ lines behind := by
  induction front generalizing before with
  | nil => rfl
  | cons c front ih =>
      simp only [List.cons_append, linesAfter]
      split
      · rw [ih, List.cons_append]
      · exact ih (c :: before)

/-- Where a line begins, a text can be cut. -/
theorem lines_append {front : List Char} (h : BeginsLine front) (behind : List Char) :
    lines (front ++ behind) = lines front ++ lines behind := by
  rcases front.eq_nil_or_concat with rfl | ⟨init, c, rfl⟩
  · rfl
  · obtain rfl : c = '\n' := h c (by simp)
    rw [List.concat_eq_append, List.append_assoc]
    exact linesAfter_append [] init behind

theorem linesAfter_of_not_mem {line : List Char} (h : '\n' ∉ line) (before text : List Char) :
    linesAfter before (line ++ text) = linesAfter (line.reverse ++ before) text := by
  induction line generalizing before with
  | nil => rfl
  | cons c line ih =>
      rw [List.mem_cons, not_or] at h
      rw [List.cons_append, linesAfter, if_neg (Ne.symm h.1), ih h.2, List.reverse_cons,
        List.append_assoc]
      rfl

theorem lines_cons {line : List Char} (h : '\n' ∉ line) (behind : List Char) :
    lines (line ++ '\n' :: behind) = closeLine line.reverse :: lines behind := by
  rw [lines, linesAfter_of_not_mem h, List.append_nil, linesAfter, if_pos rfl]
  rfl

theorem lines_singleton {line : List Char} (h : '\n' ∉ line) (hne : line ≠ []) :
    lines line = [line] := by
  have hline := linesAfter_of_not_mem h [] []
  rw [List.append_nil, List.append_nil] at hline
  rw [lines, hline, linesAfter, if_neg (by simpa using hne), List.reverse_reverse]

end Lifeline.Text
