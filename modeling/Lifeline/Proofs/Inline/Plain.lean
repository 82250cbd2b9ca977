import Lifeline.Proofs.Inline.Paragraph
import Lifeline.Unicode.Width

/-! # Lines without markup

A line is plain text if none of its characters has a meaning inside a line of Markdown: each one is
then read as itself (`Reading.step_of_ordinary`), and the line as a single span that holds it as it
is (`spansOfLine_ordinary`), whatever it begins with. -/

namespace Lifeline.Inline

open Lifeline.Unicode (isBlank isControl isLineBlank)
open Lifeline.Text (Trimmed trimStart_cons_of_not)

/-- The characters that have a meaning inside a line of Markdown. -/
def markupChars : List Char := ['*', '_', '\x60', '\\', '[', ']', '<', '&', '!']

/-- The character has no meaning inside a line, nor does it control anything. -/
def isOrdinary (c : Char) : Bool := !isControl c && !markupChars.contains c

section
variable {c : Char} {rest text : List Char} {ds : Definitions} {before : Option Char}

theorem not_mem_of_isOrdinary (h : ∀ c ∈ text, isOrdinary c = true) {d : Char}
    (hd : isOrdinary d = false) : d ∉ text :=
  fun hmem => absurd (hd.symm.trans (h d hmem)) Bool.false_ne_true

/-! ### Reading -/

theorem lineEnd?_eq_none (hfeed : '\n' ∉ text) (hlast : ∃ d ∈ text, isLineBlank d = false) :
    lineEnd? text = none := by
  cases hdrop : text.dropWhile isLineBlank with
  | nil =>
      obtain ⟨d, hd, hvisible⟩ := hlast
      have hblank := List.dropWhile_eq_nil_iff.mp hdrop d hd
      exact absurd (hvisible.symm.trans hblank) Bool.false_ne_true
  | cons d behind =>
      have hd : d ∈ text := (List.dropWhile_suffix isLineBlank).subset (by simp [hdrop])
      have hne : d ≠ '\n' := fun heq => hfeed (heq ▸ hd)
      simp [lineEnd?, hdrop, hne]

theorem Reading.step_of_ordinary (hc : isOrdinary c = true) (hend : lineEnd? (c :: rest) = none)
    (s : Reading) : s.step ds before c rest = (s.text [c], 0) := by
  have hnone : (if isLineBlank c ∨ c = '\n' then lineEnd? (c :: rest) else none) = none := by
    rw [hend, ite_self]
  rw [Reading.step, hnone]
  -- the other cases of the reader are those of the characters with a meaning
  all_goals
    rintro rfl
    cases hc

/-- The pieces of a text in which each character stands for itself. -/
def singles (text : List Char) : List Mark := (text.map fun c => styled .plain [c]).map .text

theorem Reading.scan_ordinary (h : ∀ c ∈ text, isOrdinary c = true)
    (hlast : ∀ c ∈ text.getLast?, isLineBlank c = false) (marks : List Mark) :
    (⟨marks, []⟩ : Reading).scan ds before 0 text = ⟨(singles text).reverse ++ marks, []⟩ := by
  induction text generalizing marks before with
  | nil => rfl
  | cons c rest ih =>
      have hend : lineEnd? (c :: rest) = none := by
        refine lineEnd?_eq_none (not_mem_of_isOrdinary h (by decide)) ?_
        exact ⟨_, List.getLast_mem (List.cons_ne_nil c rest),
          hlast _ (List.getLast?_eq_some_getLast _)⟩
      have hrest : ∀ d ∈ rest.getLast?, isLineBlank d = false := by
        intro d hd
        refine hlast d ?_
        rw [List.getLast?_cons, Option.mem_def.mp hd]
        rfl
      have hone : (⟨marks, []⟩ : Reading).text [c] = ⟨.text (styled .plain [c]) :: marks, []⟩ := rfl
      rw [Reading.scan]
      simp only [Reading.step_of_ordinary (h c List.mem_cons_self) hend, hone]
      rw [ih (fun d hd => h d (List.mem_cons_of_mem c hd)) hrest]
      simp [singles]

theorem resolve_texts (texts : List (List Glyph)) (glyphs : List Glyph) :
    ((texts.map Mark.text).foldl Pending.read ⟨glyphs, []⟩).finish = glyphs ++ texts.flatten := by
  induction texts generalizing glyphs with
  | nil => simp [Pending.finish]
  | cons first texts ih =>
      rw [List.map_cons, List.foldl_cons, List.flatten_cons, ← List.append_assoc]
      exact ih (glyphs ++ first)

theorem readMarkup_ordinary (h : ∀ c ∈ text, isOrdinary c = true)
    (hlast : ∀ c ∈ text.getLast?, isLineBlank c = false) :
    readMarkup ds before text = styled .plain text := by
  have hflatten : (text.map fun c => styled .plain [c]).flatten = styled .plain text := by
    rw [← List.flatMap_def, styled, List.map_eq_flatMap]
    rfl
  rw [readMarkup, Reading.scan_ordinary h hlast, Reading.finish, List.foldr_nil, List.append_nil,
    List.reverse_reverse]
  rw [resolve, singles, resolve_texts, List.nil_append, hflatten]

/-! ### Spans -/

theorem runs_styled (style : Style) (hne : text ≠ []) :
    runs (styled style text) = [(text, style)] := by
  induction text with
  | nil => exact absurd rfl hne
  | cons c rest ih =>
      cases rest with
      | nil => rfl
      | cons d more =>
          have htail : runs (styled style (d :: more)) = [(d :: more, style)] := ih (by simp)
          rw [styled, List.map_cons, ← styled, runs, htail]
          exact if_pos rfl

theorem spansOf_styled (style : Style) (hne : text ≠ []) :
    spansOf (styled style text) = [⟨String.ofList text, style⟩] := by
  rw [spansOf, runs_styled style hne]
  rfl

end

/-! ### Lines -/

/-- Of a paragraph without markup, what is literal and what is read look the same. -/
theorem pieceGlyphs_ordinary {text : List Char} (h : ∀ c ∈ text, isOrdinary c = true)
    (hlast : ∀ c ∈ text.getLast?, isLineBlank c = false) (ds : Definitions) (literal : Nat) :
    pieceGlyphs ds (.prose literal text) = styled .plain text := by
  have hread : ∀ c ∈ text.drop literal, isOrdinary c = true :=
    fun c hc => h c (List.mem_of_mem_drop hc)
  have hend : ∀ c ∈ (text.drop literal).getLast?, isLineBlank c = false := by
    intro c hc
    rw [List.getLast?_drop] at hc
    split at hc
    · cases hc
    · exact hlast c hc
  rw [pieceGlyphs, readMarkup_ordinary hread hend, styled, styled, styled, ← List.map_append,
    List.take_append_drop]

/-- **A line without markup is plain text.** However a trimmed line begins, if it holds no control
character and none of the characters that have a meaning inside a line, it is one plain span. -/
theorem spansOfLine_ordinary {line : List Char} (hne : line ≠ []) (htrimmed : Trimmed line)
    (h : ∀ c ∈ line, isOrdinary c = true) :
    spansOfLine line = [⟨String.ofList line, .plain⟩] := by
  cases line with
  | nil => exact absurd rfl hne
  | cons c rest =>
      have hblank : isBlank c = false := htrimmed.head c rfl
      have hlast : ∀ d ∈ (c :: rest).getLast?, isLineBlank d = false :=
        fun d hd => isLineBlank_eq_false (htrimmed.last d hd)
      have hbracket : c ≠ '[' := by
        rintro rfl
        cases h _ List.mem_cons_self
      have hread := readText_markerLength (not_mem_of_isOrdinary h (by decide))
        (not_mem_of_isOrdinary h (by decide)) hblank hbracket
      have hglyphs : readLine (c :: rest) = styled .plain (c :: rest) := by
        have hpiece := pieceGlyphs_ordinary h hlast [] (markerLength (c :: rest))
        simp [readLine, trimStart_cons_of_not hblank, hread, hpiece, hblank, styled]
      rw [spansOfLine, hglyphs, spansOf_styled .plain hne]

/-- A heading, a rule, a fence and an entry of a list. -/
theorem spansOfLine_ordinary_openers :
    spansOfLine "# > a".toList = [⟨"# > a", .plain⟩] ∧
    spansOfLine "- - -".toList = [⟨"- - -", .plain⟩] ∧
    spansOfLine "~~~".toList = [⟨"~~~", .plain⟩] ∧
    spansOfLine "12) =".toList = [⟨"12) =", .plain⟩] := by
  refine ⟨?_, ?_, ?_, ?_⟩
  · exact spansOfLine_ordinary (by decide) (by decide) (List.all_eq_true.mp (by decide))
  · exact spansOfLine_ordinary (by decide) (by decide) (List.all_eq_true.mp (by decide))
  · exact spansOfLine_ordinary (by decide) (by decide) (List.all_eq_true.mp (by decide))
  · exact spansOfLine_ordinary (by decide) (by decide) (List.all_eq_true.mp (by decide))

end Lifeline.Inline
