import Lifeline.Proofs.Inline.Wrapping
import Lifeline.Proofs.Text.Columns

/-! # How wide broken lines are

Where the columns of characters add up, so do those of the pieces of a line and of the spaces
between them (`columns_join`), and a word that does not fit is split into parts that do, or into
single characters (`narrow_chunksOf`). What `Filled` says about the room of lines then is what can
be seen of them (`columns_line`, `greedy_columns`), and `wrap_fits` puts it together. -/

namespace Lifeline.Inline

open Lifeline.Unicode (isBlank)
open Lifeline.Text (Additive columns ownColumns)

/-- The characters of a styled text. -/
def chars (glyphs : List Glyph) : List Char := glyphs.map Glyph.char

/-- The columns of the characters of a styled text, added up. -/
def ownWidth (glyphs : List Glyph) : Nat := ((chars glyphs).map ownColumns).sum

/-- The characters fit on a line, or there is only one. -/
def Narrow (limit : Nat) (glyphs : List Glyph) : Prop := ownWidth glyphs ≤ limit ∨ ∃ g, glyphs = [g]

section
variable {a b glyphs word : List Glyph} {cs : List Char} {g : Glyph} {limit : Nat}
  {line pieces : List Word} {spans : List Span}

theorem chars_append (a b : List Glyph) : chars (a ++ b) = chars a ++ chars b := List.map_append

theorem chars_styled (style : Style) (text : List Char) : chars (styled style text) = text := by
  rw [chars, styled, List.map_map]
  exact List.map_id text

theorem textOf_eq_chars (spans : List Span) : textOf spans = chars (glyphsOf spans) := by
  induction spans with
  | nil => rfl
  | cons s spans ih =>
      change s.text.toList ++ textOf spans = chars (styled s.style s.text.toList ++ glyphsOf spans)
      rw [chars_append, chars_styled, ih]

theorem textOf_spansOf (glyphs : List Glyph) : textOf (spansOf glyphs) = chars glyphs := by
  rw [textOf_eq_chars, glyphsOf_spansOf]

/-! ### Columns that add up -/

theorem sum_runs (h : Additive cs) (rs : List (List Char × Style))
    (hrs : rs.flatMap Prod.fst ⊆ cs) :
    rs.foldr (fun r n => columns r.1 + n) 0 = ((rs.flatMap Prod.fst).map ownColumns).sum := by
  induction rs with
  | nil => rfl
  | cons r rs ih =>
      rw [List.flatMap_cons, List.append_subset] at hrs
      rw [List.foldr_cons, ih hrs.2, h r.1 hrs.1, List.flatMap_cons, List.map_append,
        List.sum_append]

theorem glyphColumns_eq (h : Additive cs) (hglyphs : chars glyphs ⊆ cs) :
    glyphColumns glyphs = columns (chars glyphs) := by
  have hruns : (runs glyphs).flatMap Prod.fst = chars glyphs := by
    conv_rhs => rw [← flatMap_runs glyphs]
    rw [chars, List.map_flatMap]
    exact List.flatMap_congr fun r _ => (chars_styled r.2 r.1).symm
  rw [glyphColumns, sum_runs h _ (hruns ▸ hglyphs), hruns, h _ hglyphs]

theorem columns_singleton (h : Additive cs) (hg : g.char ∈ cs) :
    columns (chars [g]) = ownColumns g.char := by
  rw [h (chars [g]) (by simpa [chars] using hg)]
  simp [chars]

theorem columns_join (h : Additive cs) (hline : ∀ w ∈ line, chars w.glyphs ⊆ cs) :
    columns (chars (join line)) = room line := by
  induction line using List.reverseRecOn with
  | nil => rfl
  | append_singleton line w ih =>
      rw [List.forall_mem_append, List.forall_mem_singleton] at hline
      by_cases hnil : line = []
      · subst hnil
        simpa [join, room] using (glyphColumns_eq h hline.2).symm
      · rw [join_concat hnil, room_concat hnil, chars_append, glyphColumns_eq h hline.2,
          ← ih hline.1]
        exact Text.columns_append_space ..

/-! ### Parts of words -/

theorem ownWidth_reverse (glyphs : List Glyph) : ownWidth glyphs.reverse = ownWidth glyphs := by
  rw [ownWidth, chars, List.map_reverse, List.map_reverse, List.sum_reverse]
  rfl

theorem Narrow.reverse (h : Narrow limit glyphs) : Narrow limit glyphs.reverse := by
  rcases h with hle | ⟨g, rfl⟩
  · exact Or.inl (by rwa [ownWidth_reverse])
  · exact Or.inr ⟨g, rfl⟩

theorem ownWidth_cons (g : Glyph) (glyphs : List Glyph) :
    ownWidth (g :: glyphs) = ownColumns g.char + ownWidth glyphs := by
  simp [ownWidth, chars]

/-- The parts of a long word are narrow. -/
theorem narrow_chunksAfter (limit : Nat) (piece : List Glyph) (used : Nat) (rest : List Glyph)
    (hused : used = ownWidth piece) (hpiece : Narrow limit piece) :
    ∀ part ∈ chunksAfter limit piece used rest, Narrow limit part := by
  induction rest generalizing piece used with
  | nil =>
      rw [chunksAfter]
      split
      · simp
      · simpa using hpiece.reverse
  | cons g rest ih =>
      rw [chunksAfter]
      have hadd : used + ownColumns g.char = ownWidth (g :: piece) := by
        rw [ownWidth_cons, hused, Nat.add_comm]
      split
      · refine List.forall_mem_cons.mpr ⟨hpiece.reverse, ih [g] _ ?_ (Or.inr ⟨g, rfl⟩)⟩
        rw [ownWidth_cons]
        rfl
      · next hstop =>
        refine ih (g :: piece) _ hadd ?_
        by_cases hnil : piece = []
        · exact Or.inr ⟨g, by rw [hnil]⟩
        · left
          rw [← hadd]
          exact Nat.not_lt.mp fun hlt => hstop ⟨hlt, hnil⟩

theorem narrow_chunksOf (h : Additive cs) {words : List Word}
    (hwords : ∀ w ∈ words, chars w.glyphs ⊆ cs) (limit : Nat) :
    ∀ w ∈ chunksOf limit words, Narrow limit w.glyphs := by
  intro w hw
  obtain ⟨v, hv, part, hpart, rfl⟩ : ∃ v ∈ words, ∃ part ∈ chunks limit v.glyphs,
      (⟨v.gap, part⟩ : Word) = w := by
    simpa [chunksOf] using hw
  rw [chunks] at hpart
  split at hpart
  · next hfits =>
    obtain rfl := List.mem_singleton.mp hpart
    left
    rwa [glyphColumns_eq h (hwords v hv), h _ (hwords v hv)] at hfits
  · exact narrow_chunksAfter limit [] 0 v.glyphs rfl (Or.inl (Nat.zero_le limit)) part hpart

/-! ### Lines -/

theorem subset_of_cut {before : Option Style} {text : List Glyph} (hcut : Cut before text pieces) :
    ∀ w ∈ pieces, chars w.glyphs ⊆ chars text := by
  intro w hw
  have hsub : w.glyphs ⊆ text := by
    intro g hg
    have hmem : g ∈ pieces.flatMap Word.glyphs := List.mem_flatMap.mpr ⟨w, hw, hg⟩
    rw [hcut.flatMap_glyphs] at hmem
    exact (List.mem_filter.mp hmem).1
  exact List.map_subset Glyph.char hsub

/-- A line keeps to the limit, unless it is a single character that does not fit. -/
theorem columns_line (h : Additive cs) (hline : ∀ w ∈ line, chars w.glyphs ⊆ cs)
    (hnarrow : ∀ w ∈ line, Narrow limit w.glyphs)
    (hfits : room line ≤ limit ∨ ∃ w, line = [w]) :
    columns (chars (join line)) ≤ limit ∨ ∃ g, join line = [g] ∧ limit < ownColumns g.char := by
  rcases hfits with hroom | ⟨w, rfl⟩
  · rw [columns_join h hline]
    exact Or.inl hroom
  · rw [List.forall_mem_singleton] at hline hnarrow
    rw [join_singleton]
    rcases hnarrow with hle | ⟨g, hg⟩
    · rw [h _ hline]
      exact Or.inl hle
    · rw [hg] at hline ⊢
      rw [columns_singleton h (by simpa [chars] using hline)]
      exact (Nat.lt_or_ge limit (ownColumns g.char)).symm.imp_right fun hlt => ⟨g, rfl, hlt⟩

theorem takeWhile_join {w : Word} (hvisible : ∀ g ∈ w.glyphs, isBlank g.char = false) :
    (chars (join (w :: line))).takeWhile (fun c => !isBlank c) = chars w.glyphs := by
  have hpiece : ∀ c ∈ chars w.glyphs, (!isBlank c) = true := by
    intro c hc
    obtain ⟨g, hg, rfl⟩ := List.mem_map.mp hc
    simp [hvisible g hg]
  rw [join, chars_append, List.takeWhile_append_of_pos hpiece]
  cases line with
  | nil => simp [chars]
  | cons v line => simp [chars, isBlank_space]

theorem wrap_single (limit : Nat) (hg : isBlank g.char = false) :
    wrap limit (spansOf [g]) = [spansOf [g]] := by
  by_cases hfits : limit = 0 ∨ columns (textOf (spansOf [g])) ≤ limit
  · rw [wrap, if_pos hfits]
  · have hcolumns : glyphColumns [g] = columns (textOf (spansOf [g])) := by
      simp [textOf_spansOf, glyphColumns, runs, chars]
    have hwords : wordsOf [g] = [⟨.plain, [g]⟩] := by
      simp [wordsOf, wordsAfter, hg, Word.close]
    have hchunks : chunks limit [g] = [[g]] := by
      rw [chunks, if_neg (by omega)]
      simp [chunksAfter]
    rw [wrap, if_neg hfits, glyphsOf_spansOf, hwords]
    simp [chunksOf, hchunks, fillLines]

/-- What is known of the lines of a text that has to be broken: where their pieces come from, and
how wide they are. -/
theorem columns_lines {lines : List (List Word)} (h : Additive (textOf spans))
    (hcut : Cut none (glyphsOf spans) lines.flatten)
    (hfilled : Filled limit (chunksOf limit (wordsOf (glyphsOf spans))) lines)
    (hline : line ∈ lines) :
    (∀ w ∈ line, chars w.glyphs ⊆ textOf spans) ∧
      (columns (chars (join line)) ≤ limit ∨
        ∃ g, join line = [g] ∧ limit < ownColumns g.char) := by
  have hmem : ∀ w ∈ line, w ∈ lines.flatten := fun w hw => List.mem_flatten.mpr ⟨line, hline, hw⟩
  have hpieces : ∀ w ∈ lines.flatten, chars w.glyphs ⊆ textOf spans := by
    rw [textOf_eq_chars]
    exact subset_of_cut hcut
  have hwords : ∀ w ∈ wordsOf (glyphsOf spans), chars w.glyphs ⊆ textOf spans := by
    rw [textOf_eq_chars]
    exact subset_of_cut (cut_wordsOf _)
  have hnarrow : ∀ w ∈ lines.flatten, Narrow limit w.glyphs := by
    rw [hfilled.flatten]
    exact narrow_chunksOf h hwords limit
  have hsub : ∀ w ∈ line, chars w.glyphs ⊆ textOf spans := fun w hw => hpieces w (hmem w hw)
  exact ⟨hsub, columns_line h hsub (fun w hw => hnarrow w (hmem w hw)) (hfilled.fits line hline)⟩

/-- A line that keeps to the limit as far as it can is not broken again. -/
theorem wrap_join (hvisible : ∀ w ∈ line, w.glyphs ≠ [] ∧ ∀ g ∈ w.glyphs, isBlank g.char = false)
    (hfits : columns (chars (join line)) ≤ limit ∨
      ∃ g, join line = [g] ∧ limit < ownColumns g.char) :
    wrap limit (spansOf (join line)) = [spansOf (join line)] := by
  rcases hfits with hle | ⟨g, hg, -⟩
  · exact wrap_of_fits (by rwa [textOf_spansOf])
  · have hhead := isBlank_head_join hvisible
    rw [hg] at hhead ⊢
    exact wrap_single limit (hhead g rfl)

/-- The first piece of a line would not have fitted on the line above. -/
theorem greedy_columns {cs : List Char} {a b : List Word} (h : Additive cs) (hb : b ≠ [])
    (ha : ∀ w ∈ a, chars w.glyphs ⊆ cs) (hchars : ∀ w ∈ b, chars w.glyphs ⊆ cs)
    (hvisible : ∀ w ∈ b, ∀ g ∈ w.glyphs, isBlank g.char = false)
    (hgreedy : ∀ w ∈ b.head?, limit < room a + 1 + glyphColumns w.glyphs) :
    limit < columns (chars (join a)) + 1 +
      columns ((chars (join b)).takeWhile fun c => !isBlank c) := by
  obtain ⟨w, rest, rfl⟩ := List.exists_cons_of_ne_nil hb
  rw [takeWhile_join (hvisible w List.mem_cons_self), columns_join h ha,
    ← glyphColumns_eq h (hchars w List.mem_cons_self)]
  exact hgreedy w rfl

end

/-- **Broken lines keep to the limit, and are as long as it allows.** Where the columns of the
characters of a text add up, no line is wider than the limit unless it is a single character that
is; the word or the part of a word that begins a line would not have fitted on the line above, with
a space in front of it; and a line is not broken again. -/
theorem wrap_fits (limit : Nat) (hlimit : 1 ≤ limit) (spans : List Span)
    (h : Additive (textOf spans)) :
    (∀ line ∈ wrap limit spans, columns (textOf line) ≤ limit ∨
      ∃ c, textOf line = [c] ∧ limit < ownColumns c) ∧
    (wrap limit spans).IsChain (fun a b =>
      limit < columns (textOf a) + 1 + columns ((textOf b).takeWhile fun c => !isBlank c)) ∧
    ∀ line ∈ wrap limit spans, wrap limit line = [line] := by
  rcases Nat.lt_or_ge limit (columns (textOf spans)) with hwide | hfits
  · obtain ⟨lines, hcut, hfilled, hwrap⟩ := exists_lines (Nat.ne_of_gt hlimit) hwide
    rw [hwrap]
    split
    · have hempty : columns (textOf [⟨"", .plain⟩]) ≤ limit := Nat.zero_le limit
      exact ⟨by simpa using Or.inl hempty, .singleton _, by simpa using wrap_of_fits hempty⟩
    · have hvisible : ∀ line ∈ lines, ∀ w ∈ line,
          w.glyphs ≠ [] ∧ ∀ g ∈ w.glyphs, isBlank g.char = false := fun line hline w hw =>
        hcut.visible_glyphs w (List.mem_flatten.mpr ⟨line, hline, hw⟩)
      refine ⟨?_, ?_, ?_⟩
      · intro spans hspans
        obtain ⟨line, hline, rfl⟩ := List.mem_map.mp hspans
        rw [textOf_spansOf]
        refine (columns_lines h hcut hfilled hline).2.imp_right ?_
        rintro ⟨g, hg, hlt⟩
        exact ⟨g.char, by simp [hg, chars], hlt⟩
      · rw [List.isChain_map]
        refine hfilled.greedy.imp_of_mem_imp fun a b ha hb hgreedy => ?_
        rw [textOf_spansOf, textOf_spansOf]
        refine greedy_columns h ?_ (columns_lines h hcut hfilled ha).1
          (columns_lines h hcut hfilled hb).1 (fun w hw => (hvisible b hb w hw).2) hgreedy
        rintro rfl
        exact hfilled.nonempty hb
      · intro spans hspans
        obtain ⟨line, hline, rfl⟩ := List.mem_map.mp hspans
        exact wrap_join (hvisible line hline) (columns_lines h hcut hfilled hline).2
  · rw [wrap_of_fits hfits]
    exact ⟨by simpa using Or.inl hfits, .singleton _, by simpa using wrap_of_fits hfits⟩

/-- A wide space, a wide character that fits on no line of one column, and a letter with an accent
that takes no column. -/
def accented : List Span := [⟨"a\u3000", .bold⟩, ⟨"\u6f22e\u0301", .italic⟩]

theorem wrap_fits_accented :
    1 ≤ 1 ∧ Additive (textOf accented) ∧
    wrap 1 accented =
      [[⟨"a", .bold⟩], [⟨"\u6f22", .italic⟩], [⟨"e\u0301", .italic⟩]] ∧
    (∀ line ∈ wrap 1 accented, columns (textOf line) ≤ 1 ∨
      ∃ c, textOf line = [c] ∧ 1 < ownColumns c) ∧
    (wrap 1 accented).IsChain (fun a b =>
      1 < columns (textOf a) + 1 + columns ((textOf b).takeWhile fun c => !isBlank c)) ∧
    ∀ line ∈ wrap 1 accented, wrap 1 line = [line] := by
  have hadditive : Additive (textOf accented) := Text.additive_of_place (by decide +kernel)
  exact ⟨le_rfl, hadditive, by decide +kernel, wrap_fits 1 le_rfl accented hadditive⟩

end Lifeline.Inline
