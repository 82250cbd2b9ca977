import Lifeline.Inline.Wrap
import Mathlib.Algebra.Ring.Nat
import Mathlib.Data.List.Chain

/-! # Pieces and lines

Breaking a text cuts it into pieces, words or parts of words, and drops the blanks between them
(`Cut`). Lines are then filled with consecutive pieces: `Filled` says that no line is too wide
unless it is a single piece, and that the first piece of the next line would have made it too wide.
Both are facts about lists of pieces only; `join` puts the pieces of a line together.

`exists_lines` shows that the lines of every text that has to be broken come about in this way. -/

namespace Lifeline.Inline

open Lifeline.Unicode (isBlank)

/-- The characters of a styled text that are not blank. -/
def visible (glyphs : List Glyph) : List Glyph := glyphs.filter fun g => !isBlank g.char

/-- The text is cut into pieces, and what is left out between them is blank. A piece that follows
a blank has the style of that blank for its gap; `before` is the style of a blank in front of the
text, if there is one. -/
inductive Cut : Option Style → List Glyph → List Word → Prop
  | done (before : Option Style) : Cut before [] []
  | blank {before : Option Style} {g : Glyph} {text : List Glyph} {pieces : List Word}
      (hblank : isBlank g.char = true) (rest : Cut (some g.style) text pieces) :
      Cut before (g :: text) pieces
  | piece {before : Option Style} {w : Word} {text : List Glyph} {pieces : List Word}
      (hne : w.glyphs ≠ []) (hvisible : ∀ g ∈ w.glyphs, isBlank g.char = false)
      (hgap : ∀ s ∈ before, w.gap = s) (rest : Cut none text pieces) :
      Cut before (w.glyphs ++ text) (w :: pieces)

/-- The text of a line: its pieces, with a space in front of each but the first. -/
def join : List Word → List Glyph
  | [] => []
  | w :: rest => w.glyphs ++ rest.flatMap fun v => ⟨' ', v.gap⟩ :: v.glyphs

/-- The columns of a line: those of its pieces and of the spaces between them. -/
def room : List Word → Nat
  | [] => 0
  | w :: rest => glyphColumns w.glyphs + (rest.map fun v => 1 + glyphColumns v.glyphs).sum

/-- The lines hold the pieces in order, and a line ends only where the next piece does not fit. -/
structure Filled (limit : Nat) (pieces : List Word) (lines : List (List Word)) : Prop where
  flatten : lines.flatten = pieces
  nonempty : [] ∉ lines
  fits : ∀ line ∈ lines, room line ≤ limit ∨ ∃ w, line = [w]
  greedy : lines.IsChain fun a b => ∀ w ∈ b.head?, limit < room a + 1 + glyphColumns w.glyphs

/-! ### Cutting -/

section
variable {a b glyphs text : List Glyph} {g : Glyph} {gap : Style} {before : Option Style}
  {w : Word} {pieces : List Word} {limit : Nat}

theorem visible_append (a b : List Glyph) : visible (a ++ b) = visible a ++ visible b :=
  List.filter_append ..

theorem visible_eq_self (h : ∀ g ∈ glyphs, isBlank g.char = false) : visible glyphs = glyphs :=
  List.filter_eq_self.mpr fun g hg => by simp [h g hg]

theorem visible_cons_of_blank (h : isBlank g.char = true) (text : List Glyph) :
    visible (g :: text) = visible text :=
  List.filter_cons_of_neg (by simp [h])

theorem Cut.close {letters : List Glyph} (hgap : ∀ s ∈ before, gap = s)
    (hletters : ∀ g ∈ letters, isBlank g.char = false) (rest : ∀ before, Cut before text pieces) :
    Cut before (letters.reverse ++ text) (Word.close gap letters ++ pieces) := by
  cases letters with
  | nil => exact rest before
  | cons g letters =>
      have hvisible : ∀ h ∈ (g :: letters).reverse, isBlank h.char = false := fun h hh =>
        hletters h (List.mem_reverse.mp hh)
      exact .piece (w := ⟨gap, (g :: letters).reverse⟩) (by simp) hvisible hgap (rest none)

theorem cut_wordsAfter (letters : List Glyph) (hgap : ∀ s ∈ before, gap = s)
    (hletters : ∀ g ∈ letters, isBlank g.char = false) :
    Cut before (letters.reverse ++ text) (wordsAfter gap letters text) := by
  induction text generalizing before gap letters with
  | nil => simpa [wordsAfter] using Cut.close hgap hletters fun before => .done before
  | cons g text ih =>
      rw [wordsAfter]
      cases hblank : isBlank g.char with
      | true =>
          refine Cut.close hgap hletters fun before => .blank hblank ?_
          exact ih [] (by simp) (by simp)
      | false =>
          have hnext := ih (g :: letters) hgap (List.forall_mem_cons.mpr ⟨hblank, hletters⟩)
          simpa using hnext

theorem cut_wordsOf (text : List Glyph) : Cut none text (wordsOf text) :=
  cut_wordsAfter [] (by simp) (by simp)

/-- Splitting a long word loses nothing and leaves no empty part. -/
theorem chunksAfter_spec (limit : Nat) (piece : List Glyph) (used : Nat) (rest : List Glyph) :
    (chunksAfter limit piece used rest).flatten = piece.reverse ++ rest ∧
      [] ∉ chunksAfter limit piece used rest := by
  induction rest generalizing piece used with
  | nil => cases piece <;> simp [chunksAfter]
  | cons g rest ih =>
      rw [chunksAfter]
      split
      · next h =>
        obtain ⟨hflatten, hne⟩ := ih [g] ((Unicode.columns? g.char).getD 0)
        refine ⟨by simp [hflatten], ?_⟩
        simpa [hne] using h.2
      · obtain ⟨hflatten, hne⟩ := ih (g :: piece) (used + (Unicode.columns? g.char).getD 0)
        exact ⟨by simp [hflatten], hne⟩

theorem flatten_chunks (limit : Nat) (word : List Glyph) : (chunks limit word).flatten = word := by
  rw [chunks]
  split
  · simp
  · simp [(chunksAfter_spec limit [] 0 word).1]

theorem nil_notMem_chunks {word : List Glyph} (h : word ≠ []) : [] ∉ chunks limit word := by
  rw [chunks]
  split
  · simpa using h.symm
  · exact (chunksAfter_spec limit [] 0 word).2

theorem Cut.parts {parts : List (List Glyph)} (hne : [] ∉ parts)
    (hvisible : ∀ g ∈ parts.flatten, isBlank g.char = false) (rest : Cut none text pieces) :
    Cut none (parts.flatten ++ text) (parts.map (fun part => ⟨gap, part⟩) ++ pieces) := by
  induction parts with
  | nil => exact rest
  | cons part parts ih =>
      rw [List.mem_cons, not_or] at hne
      rw [List.flatten_cons, List.forall_mem_append] at hvisible
      rw [List.flatten_cons, List.append_assoc]
      exact .piece (w := ⟨gap, part⟩) (Ne.symm hne.1) hvisible.1 (by simp) (ih hne.2 hvisible.2)

theorem Cut.chunksOf (h : Cut before text pieces) (limit : Nat) :
    Cut before text (chunksOf limit pieces) := by
  induction h with
  | done before => exact .done before
  | blank hblank _ ih => exact .blank hblank ih
  | @piece before w text pieces hne hvisible hgap _ ih =>
      have hflatten := flatten_chunks limit w.glyphs
      have hnil : [] ∉ chunks limit w.glyphs := nil_notMem_chunks hne
      rw [Inline.chunksOf, List.flatMap_cons]
      cases hparts : chunks limit w.glyphs with
      | nil => simp [hparts, eq_comm, hne] at hflatten
      | cons part parts =>
          rw [hparts, List.flatten_cons] at hflatten
          rw [hparts, List.mem_cons, not_or] at hnil
          rw [← hflatten] at hvisible ⊢
          rw [List.forall_mem_append] at hvisible
          rw [List.append_assoc]
          exact .piece (w := ⟨w.gap, part⟩) (Ne.symm hnil.1) hvisible.1 hgap
            (.parts hnil.2 hvisible.2 ih)

theorem Cut.flatMap_glyphs (h : Cut before text pieces) :
    pieces.flatMap Word.glyphs = visible text := by
  induction h with
  | done before => rfl
  | blank hblank _ ih => rw [ih, visible_cons_of_blank hblank]
  | piece hne hvisible hgap _ ih =>
      rw [List.flatMap_cons, ih, visible_append, visible_eq_self hvisible]

theorem Cut.visible_glyphs (h : Cut before text pieces) :
    ∀ w ∈ pieces, w.glyphs ≠ [] ∧ ∀ g ∈ w.glyphs, isBlank g.char = false := by
  induction h with
  | done before => simp
  | blank hblank _ ih => exact ih
  | piece hne hvisible hgap _ ih => exact List.forall_mem_cons.mpr ⟨⟨hne, hvisible⟩, ih⟩

/-- Where a piece stands in the text: behind the pieces in front of it, and if directly behind a
blank, with the style of that blank for its gap. -/
theorem Cut.exists_append {front behind : List Word}
    (h : Cut before text (front ++ w :: behind)) :
    ∃ a b, text = a ++ (w.glyphs ++ b) ∧ visible a = front.flatMap Word.glyphs ∧
      (∀ g ∈ a.getLast?, isBlank g.char = true → w.gap = g.style) ∧
      (a = [] → ∀ s ∈ before, w.gap = s) := by
  generalize hpieces : front ++ w :: behind = pieces at h
  induction h generalizing front with
  | done before => simp at hpieces
  | @blank before g text pieces hblank _ ih =>
      obtain ⟨a, b, rfl, hfront, hlast, hfirst⟩ := ih hpieces
      refine ⟨g :: a, b, rfl, ?_, ?_, by simp⟩
      · rw [visible_cons_of_blank hblank, hfront]
      · intro k hk hkblank
        cases a with
        | nil =>
            obtain rfl : g = k := by simpa using hk
            exact hfirst rfl _ rfl
        | cons g' a =>
            rw [List.getLast?_cons_cons] at hk
            exact hlast k hk hkblank
  | @piece before v text pieces hne hvisible hgap _ ih =>
      cases front with
      | nil =>
          obtain ⟨rfl, rfl⟩ := List.cons.inj hpieces
          exact ⟨[], text, rfl, rfl, by simp, fun _ => hgap⟩
      | cons v' front =>
          obtain ⟨rfl, htail⟩ := List.cons.inj hpieces
          obtain ⟨a, b, rfl, hfront, hlast, -⟩ := ih htail
          refine ⟨v'.glyphs ++ a, b, by simp, ?_, ?_, by simp [hne]⟩
          · rw [visible_append, visible_eq_self hvisible, hfront, List.flatMap_cons]
          · intro g hg hblank
            rw [List.getLast?_append, Option.mem_def, Option.or_eq_some_iff] at hg
            rcases hg with hg | ⟨-, hg⟩
            · exact hlast g hg hblank
            · have := hvisible g (List.mem_of_getLast? hg)
              simp [hblank] at this

end

/-! ### Filling -/

section
variable {limit : Nat} {begun pieces : List Word} {w : Word}

@[simp]
theorem join_singleton (w : Word) : join [w] = w.glyphs := by simp [join]

@[simp]
theorem room_singleton (w : Word) : room [w] = glyphColumns w.glyphs := by simp [room]

theorem join_concat (h : begun ≠ []) (w : Word) :
    join (begun ++ [w]) = join begun ++ ⟨' ', w.gap⟩ :: w.glyphs := by
  cases begun with
  | nil => exact absurd rfl h
  | cons v begun => simp [join]

theorem room_concat (h : begun ≠ []) (w : Word) :
    room (begun ++ [w]) = room begun + 1 + glyphColumns w.glyphs := by
  cases begun with
  | nil => exact absurd rfl h
  | cons v begun =>
      simp only [List.cons_append, room, List.map_append, List.map_cons, List.map_nil,
        List.sum_append, List.sum_cons, List.sum_nil]
      omega

theorem join_ne_nil (h : begun ≠ []) (hne : ∀ w ∈ begun, w.glyphs ≠ []) : join begun ≠ [] := by
  cases begun with
  | nil => exact absurd rfl h
  | cons v begun => simp [join, hne v List.mem_cons_self]

theorem Filled.cons {line : List Word} {lines : List (List Word)} (h : Filled limit pieces lines)
    (hne : line ≠ []) (hfits : room line ≤ limit ∨ ∃ w, line = [w])
    (hgreedy : ∀ next ∈ lines.head?, ∀ w ∈ next.head?,
      limit < room line + 1 + glyphColumns w.glyphs) :
    Filled limit (line ++ pieces) (line :: lines) where
  flatten := by rw [List.flatten_cons, h.flatten]
  nonempty := by simp [hne.symm, h.nonempty]
  fits := List.forall_mem_cons.mpr ⟨hfits, h.fits⟩
  greedy := List.isChain_cons.mpr ⟨hgreedy, h.greedy⟩

/-- A line that has been begun is filled up, and the others are filled with what is left. -/
theorem exists_filled_append (limit : Nat) (begun pieces : List Word) (hbegun : begun ≠ [])
    (hfits : room begun ≤ limit ∨ ∃ w, begun = [w])
    (hne : ∀ w ∈ begun ++ pieces, w.glyphs ≠ []) :
    ∃ more lines, fillLines limit (join begun) (room begun) pieces =
        ((begun ++ more) :: lines).map join ∧
      Filled limit (begun ++ pieces) ((begun ++ more) :: lines) := by
  induction pieces generalizing begun with
  | nil =>
      have hjoin : join begun ≠ [] := join_ne_nil hbegun fun w hw => hne w (by simpa using hw)
      refine ⟨[], [], by simp [fillLines, hjoin], ?_⟩
      exact ⟨by simp, by simpa using hbegun.symm, by simpa using hfits, by simp⟩
  | cons w pieces ih =>
      have hjoin : join begun ≠ [] :=
        join_ne_nil hbegun fun v hv => hne v (List.mem_append_left _ hv)
      have hw : w.glyphs ≠ [] := hne w (by simp)
      rw [fillLines, if_neg (by simpa using hjoin)]
      by_cases hroom : room begun + 1 + glyphColumns w.glyphs ≤ limit
      · rw [if_pos hroom, ← join_concat hbegun, ← room_concat hbegun]
        obtain ⟨more, lines, hlines, hfilled⟩ := ih (begun ++ [w]) (by simp)
          (Or.inl (room_concat hbegun w ▸ hroom)) (by simpa using hne)
        rw [List.append_assoc] at hlines hfilled
        refine ⟨[w] ++ more, lines, hlines, ?_⟩
        simpa using hfilled
      · rw [if_neg hroom]
        obtain ⟨more, lines, hlines, hfilled⟩ := ih [w] (by simp) (Or.inr ⟨w, rfl⟩)
          (fun v hv => hne v (List.mem_append_right _ hv))
        rw [join_singleton, room_singleton] at hlines
        refine ⟨[], ([w] ++ more) :: lines, ?_, ?_⟩
        · rw [hlines, List.append_nil, List.map_cons (l := _ :: _)]
        · rw [List.append_nil]
          refine hfilled.cons hbegun hfits fun next hnext v hv => ?_
          obtain rfl : [w] ++ more = next := by simpa using hnext
          obtain rfl : w = v := by simpa using hv
          omega

theorem exists_filled (limit : Nat) (hne : ∀ w ∈ pieces, w.glyphs ≠ []) :
    ∃ lines, fillLines limit [] 0 pieces = lines.map join ∧ Filled limit pieces lines := by
  cases pieces with
  | nil => exact ⟨[], rfl, rfl, by simp, by simp, .nil⟩
  | cons w pieces =>
      obtain ⟨more, lines, hlines, hfilled⟩ := exists_filled_append limit [w] pieces
        (by simp) (Or.inr ⟨w, rfl⟩) hne
      rw [join_singleton, room_singleton] at hlines
      exact ⟨_, hlines, hfilled⟩

/-- A text that does not fit is cut into pieces, which are filled into lines; if there is none, the
text becomes an empty line. -/
theorem exists_lines {spans : List Span} (hlimit : limit ≠ 0)
    (hwide : limit < Text.columns (textOf spans)) :
    ∃ lines, Cut none (glyphsOf spans) lines.flatten ∧
      Filled limit (chunksOf limit (wordsOf (glyphsOf spans))) lines ∧
      wrap limit spans =
        if lines = [] then [[⟨"", .plain⟩]] else lines.map fun line => spansOf (join line) := by
  have hcut := (cut_wordsOf (glyphsOf spans)).chunksOf limit
  obtain ⟨lines, hlines, hfilled⟩ := exists_filled limit fun w hw => (hcut.visible_glyphs w hw).1
  refine ⟨lines, hfilled.flatten ▸ hcut, hfilled, ?_⟩
  rw [wrap, if_neg (by omega), hlines]
  cases lines with
  | nil => rfl
  | cons line lines => simp

end

end Lifeline.Inline
