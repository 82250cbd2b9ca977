import Lifeline.Proofs.Inline.Filling

/-! # What breaking a text keeps

A line that comes out of a broken text is its pieces with spaces between them, so the only blanks
in it are these spaces (`exists_of_join_eq`), and its spans are the longest runs of one style
(`isChain_runs`).

`wrap_tidy` puts this together: breaking keeps every character that is not blank, with its style
and in its place, and what it does to blanks is the same in every line. -/

namespace Lifeline.Inline

open Lifeline.Unicode (isBlank)

/-- In a line of a broken text, with `shown` in front of it, the space stands for the gap in front
of `next`: this is the character of the text with as much that is not blank in front of it, and if
it follows a blank in the text, then the space has the style of that blank. -/
def StandsFor (text shown : List Glyph) (space next : Glyph) : Prop :=
  ∃ front behind, text = front ++ next :: behind ∧ visible front = visible shown ∧
    ∀ g ∈ front.getLast?, isBlank g.char = true → space.style = g.style

/-- A line of a broken text, with the lines `above` it. -/
structure Tidy (text above : List Glyph) (line : List Span) : Prop where
  nonempty : line ≠ [] ∧ ∀ s ∈ line, s.text ≠ ""
  styles : line.IsChain fun s t => s.style ≠ t.style
  first : ∀ g ∈ (glyphsOf line).head?, isBlank g.char = false
  last : ∀ g ∈ (glyphsOf line).getLast?, isBlank g.char = false
  spaces : ∀ left g right, glyphsOf line = left ++ g :: right → isBlank g.char = true →
    g.char = ' ' ∧ (∃ previous ∈ left.getLast?, isBlank previous.char = false) ∧
      ∃ next ∈ right.head?, isBlank next.char = false ∧ StandsFor text (above ++ left) g next

/-! ### Spans -/

section
variable (glyphs : List Glyph)

theorem isChain_runs : (runs glyphs).IsChain fun r s => r.2 ≠ s.2 := by
  induction glyphs with
  | nil => exact .nil
  | cons g rest ih =>
      rw [runs]
      cases hruns : runs rest with
      | nil => exact .singleton _
      | cons r more =>
          rw [hruns] at ih
          dsimp only
          split
          · rw [List.isChain_cons] at ih ⊢
            exact ih
          · next h => exact .cons_cons h ih

theorem isChain_spansOf : (spansOf glyphs).IsChain fun s t => s.style ≠ t.style := by
  rw [spansOf, List.isChain_map]
  exact isChain_runs glyphs

theorem text_ne_empty_of_mem_spansOf : ∀ s ∈ spansOf glyphs, s.text ≠ "" := by
  intro s hs
  obtain ⟨r, hr, rfl⟩ := List.mem_map.mp hs
  intro hempty
  have hnil : r.1 = [] := by simpa using congrArg String.toList hempty
  exact runs_ne_nil hr hnil

variable {glyphs}

theorem spansOf_ne_nil (h : glyphs ≠ []) : spansOf glyphs ≠ [] := by
  intro hnil
  rw [← glyphsOf_spansOf glyphs, hnil] at h
  exact h rfl

end

/-! ### Lines -/

section
variable {line : List Word} {left right : List Glyph} {g : Glyph} {text : List Glyph}

theorem isBlank_space : isBlank ' ' = true := by decide

theorem visible_join (h : ∀ w ∈ line, ∀ g ∈ w.glyphs, isBlank g.char = false) :
    visible (join line) = line.flatMap Word.glyphs := by
  induction line using List.reverseRecOn with
  | nil => rfl
  | append_singleton line w ih =>
      rw [List.forall_mem_append, List.forall_mem_singleton] at h
      rw [List.flatMap_append, List.flatMap_singleton, ← ih h.1]
      by_cases hline : line = []
      · subst hline
        simpa [join, visible] using h.2
      · rw [join_concat hline, visible_append, visible_cons_of_blank isBlank_space,
          visible_eq_self h.2]

theorem visible_flatMap_join {lines : List (List Word)}
    (h : ∀ w ∈ lines.flatten, ∀ g ∈ w.glyphs, isBlank g.char = false) :
    visible (lines.flatMap join) = lines.flatten.flatMap Word.glyphs := by
  induction lines with
  | nil => rfl
  | cons line lines ih =>
      rw [List.flatten_cons, List.forall_mem_append] at h
      rw [List.flatMap_cons, visible_append, visible_join h.1, ih h.2, List.flatten_cons,
        List.flatMap_append]

theorem isBlank_head_join (h : ∀ w ∈ line, w.glyphs ≠ [] ∧ ∀ g ∈ w.glyphs, isBlank g.char = false) :
    ∀ g ∈ (join line).head?, isBlank g.char = false := by
  cases line with
  | nil => simp [join]
  | cons w line =>
      obtain ⟨hne, hvisible⟩ := h w List.mem_cons_self
      obtain ⟨first, glyphs, hglyphs⟩ := List.exists_cons_of_ne_nil hne
      intro g hg
      rw [join, hglyphs, List.cons_append, List.head?_cons, Option.mem_some_iff] at hg
      exact hvisible g (by simp [hglyphs, hg])

theorem exists_getLast_join (hline : line ≠ [])
    (h : ∀ w ∈ line, w.glyphs ≠ [] ∧ ∀ g ∈ w.glyphs, isBlank g.char = false) :
    ∃ g ∈ (join line).getLast?, isBlank g.char = false := by
  obtain ⟨front, w, rfl⟩ := (List.eq_nil_or_concat line).resolve_left hline
  obtain ⟨hne, hvisible⟩ := h w (by simp)
  have hsuffix : ∃ before, join (front.concat w) = before ++ w.glyphs := by
    rw [List.concat_eq_append]
    by_cases hfront : front = []
    · exact ⟨[], by simp [hfront, join]⟩
    · exact ⟨join front ++ [⟨' ', w.gap⟩], by simp [join_concat hfront]⟩
  obtain ⟨before, hjoin⟩ := hsuffix
  refine ⟨w.glyphs.getLast hne, ?_, hvisible _ (List.getLast_mem hne)⟩
  rw [hjoin, List.getLast?_append_of_ne_nil _ hne, List.getLast?_eq_getLast_of_ne_nil hne]
  rfl

/-- A blank of a line is the space in front of one of its pieces. -/
theorem exists_of_join_eq (h : ∀ w ∈ line, ∀ g ∈ w.glyphs, isBlank g.char = false)
    (hjoin : join line = left ++ g :: right) (hblank : isBlank g.char = true) :
    ∃ front w behind tail, line = front ++ w :: behind ∧ front ≠ [] ∧ join front = left ∧
      g = ⟨' ', w.gap⟩ ∧ right = w.glyphs ++ tail := by
  induction line using List.reverseRecOn generalizing right with
  | nil => simp [join] at hjoin
  | append_singleton line w ih =>
      rw [List.forall_mem_append, List.forall_mem_singleton] at h
      by_cases hline : line = []
      · subst hline
        have hg : g ∈ w.glyphs := by
          simp only [List.nil_append, join, List.flatMap_nil, List.append_nil] at hjoin
          simp [hjoin]
        simp [h.2 g hg] at hblank
      · rw [join_concat hline] at hjoin
        have hhere : join line = left ∧ ⟨' ', w.gap⟩ :: w.glyphs = g :: right →
            ∃ front v behind tail, line ++ [w] = front ++ v :: behind ∧ front ≠ [] ∧
              join front = left ∧ g = ⟨' ', v.gap⟩ ∧ right = v.glyphs ++ tail := by
          rintro ⟨hleft, hcons⟩
          obtain ⟨rfl, rfl⟩ := List.cons.inj hcons
          exact ⟨line, w, [], [], rfl, hline, hleft, rfl, (List.append_nil _).symm⟩
        rcases List.append_eq_append_iff.mp hjoin with
          ⟨between, hleft, hrest⟩ | ⟨between, hfront, hrest⟩
        · cases between with
          | nil => exact hhere ⟨by simpa using hleft.symm, hrest⟩
          | cons k between =>
              obtain ⟨-, htail⟩ := List.cons.inj hrest
              have hg : g ∈ w.glyphs := by simp [htail]
              simp [h.2 g hg] at hblank
        · cases between with
          | nil => exact hhere ⟨by simpa using hfront, hrest.symm⟩
          | cons k between =>
              obtain ⟨rfl, rfl⟩ := List.cons.inj hrest
              obtain ⟨front, v, behind, tail, rfl, hne, hleft, hg, rfl⟩ := ih h.1 hfront
              exact ⟨front, v, behind ++ [w], tail ++ ⟨' ', w.gap⟩ :: w.glyphs, by simp, hne, hleft,
                hg, by simp⟩

/-- The space in front of a piece of a line stands for the gap in front of it in the text. -/
theorem standsFor_join {above below : List (List Word)} {front behind : List Word} {w : Word}
    {next : Glyph} {more : List Glyph}
    (hcut : Cut none text (above ++ (front ++ w :: behind) :: below).flatten)
    (hnext : w.glyphs = next :: more) :
    StandsFor text (above.flatMap join ++ join front) ⟨' ', w.gap⟩ next := by
  have hsplit : (above ++ (front ++ w :: behind) :: below).flatten =
      (above.flatten ++ front) ++ w :: (behind ++ below.flatten) := by simp
  rw [hsplit] at hcut
  obtain ⟨a, b, rfl, ha, hgap, -⟩ := hcut.exists_append
  refine ⟨a, more ++ b, by simp [hnext], ?_, hgap⟩
  have hvisible : ∀ v ∈ above.flatten ++ front, ∀ g ∈ v.glyphs, isBlank g.char = false :=
    fun v hv => (hcut.visible_glyphs v (List.mem_append_left _ hv)).2
  rw [List.forall_mem_append] at hvisible
  rw [ha, visible_append, visible_flatMap_join hvisible.1, List.flatMap_append,
    visible_join hvisible.2]

/-- A line that is put together from pieces of the text is tidy. -/
theorem tidy_join {above below : List (List Word)} (hline : line ≠ [])
    (hcut : Cut none text (above ++ line :: below).flatten) :
    Tidy text (above.flatMap join) (spansOf (join line)) := by
  have hpieces : ∀ w ∈ line, w.glyphs ≠ [] ∧ ∀ g ∈ w.glyphs, isBlank g.char = false :=
    fun w hw => hcut.visible_glyphs w (by simp [hw])
  have hjoin : join line ≠ [] := join_ne_nil hline fun w hw => (hpieces w hw).1
  obtain ⟨last, hlast, hlastvisible⟩ := exists_getLast_join hline hpieces
  refine ⟨⟨spansOf_ne_nil hjoin, text_ne_empty_of_mem_spansOf _⟩, isChain_spansOf _, ?_, ?_, ?_⟩
  · rw [glyphsOf_spansOf]
    exact isBlank_head_join hpieces
  · rw [glyphsOf_spansOf, Option.mem_def.mp hlast]
    rintro g ⟨⟩
    exact hlastvisible
  · intro left g right hglyphs hblank
    rw [glyphsOf_spansOf] at hglyphs
    obtain ⟨front, w, behind, tail, rfl, hfront, rfl, rfl, rfl⟩ :=
      exists_of_join_eq (fun w hw => (hpieces w hw).2) hglyphs hblank
    have hw := hpieces w (by simp)
    obtain ⟨next, more, hnext⟩ := List.exists_cons_of_ne_nil hw.1
    refine ⟨rfl, ?_, next, by simp [hnext], hw.2 next (by simp [hnext]), ?_⟩
    · exact exists_getLast_join hfront fun v hv => hpieces v (by simp [hv])
    · exact standsFor_join hcut hnext

end

theorem glyphsOf_flatten_map (lines : List (List Word)) :
    glyphsOf (lines.map fun line => spansOf (join line)).flatten = lines.flatMap join := by
  induction lines with
  | nil => rfl
  | cons line lines ih =>
      rw [List.map_cons, List.flatten_cons, glyphsOf_append, glyphsOf_spansOf, ih,
        List.flatMap_cons]

theorem eq_nil_iff_visible {text : List Glyph} {lines : List (List Word)}
    (hcut : Cut none text lines.flatten) (hne : [] ∉ lines) : lines = [] ↔ visible text = [] := by
  rw [← hcut.flatMap_glyphs]
  constructor
  · rintro rfl
    rfl
  · intro hnil
    cases lines with
    | nil => rfl
    | cons line lines =>
        obtain ⟨w, rest, rfl⟩ := List.exists_cons_of_ne_nil fun h : line = [] => hne (by simp [h])
        have hw := (hcut.visible_glyphs w (by simp)).1
        simp [hw] at hnil

theorem visible_wrap (limit : Nat) (spans : List Span) :
    visible (glyphsOf (wrap limit spans).flatten) = visible (glyphsOf spans) := by
  by_cases hlimit : limit = 0
  · simp [hlimit, wrap_zero]
  · rcases Nat.lt_or_ge limit (Text.columns (textOf spans)) with hwide | hfits
    · obtain ⟨lines, hcut, hfilled, hwrap⟩ := exists_lines hlimit hwide
      rw [hwrap]
      split
      · next hnil => exact ((eq_nil_iff_visible hcut hfilled.nonempty).mp hnil).symm
      · rw [glyphsOf_flatten_map, ← hcut.flatMap_glyphs]
        exact visible_flatMap_join fun w hw => (hcut.visible_glyphs w hw).2
    · simp [wrap_of_fits hfits]

/-- **Breaking a text into lines keeps what is visible.** The characters that are not blank, with
their styles, are in all lines together what they are in the text. A text that has to be broken
becomes tidy lines if anything in it is visible, and one empty line otherwise: no line begins or
ends with a blank, has an empty span or two neighbouring spans of one style, and the blanks in a
line are single spaces, each with the style of the last blank in front of the word behind it. -/
theorem wrap_tidy (limit : Nat) (spans : List Span) :
    visible (glyphsOf (wrap limit spans).flatten) = visible (glyphsOf spans) ∧
    (limit ≠ 0 → limit < Text.columns (textOf spans) →
      (visible (glyphsOf spans) = [] → wrap limit spans = [[⟨"", .plain⟩]]) ∧
      (visible (glyphsOf spans) ≠ [] →
        ∀ above line below, wrap limit spans = above ++ line :: below →
          Tidy (glyphsOf spans) (glyphsOf above.flatten) line)) := by
  refine ⟨visible_wrap limit spans, fun hlimit hwide => ?_⟩
  obtain ⟨lines, hcut, hfilled, hwrap⟩ := exists_lines hlimit hwide
  have hnil := eq_nil_iff_visible hcut hfilled.nonempty
  constructor
  · intro hblank
    rw [hwrap, if_pos (hnil.mpr hblank)]
  · intro hvisible above line below hsplit
    rw [hwrap, if_neg (hvisible ∘ hnil.mp), List.map_eq_append_iff] at hsplit
    obtain ⟨above, rest, rfl, rfl, hrest⟩ := hsplit
    obtain ⟨line, below, rfl, rfl, -⟩ := List.map_eq_cons_iff.mp hrest
    have hline : line ≠ [] := fun h => hfilled.nonempty (by simp [h])
    rw [glyphsOf_flatten_map]
    exact tidy_join hline hcut

/-- Two spaces of different styles and a wide one, and a word that is too long for a line. -/
def gappy : List Span :=
  [⟨" ab ", .bold⟩, ⟨"\tc", .italic⟩, ⟨"\u3000defgh", .plain⟩]

theorem wrap_tidy_gappy :
    4 ≠ 0 ∧ 4 < Text.columns (textOf gappy) ∧ visible (glyphsOf gappy) ≠ [] ∧
    wrap 4 gappy =
      [[⟨"ab", .bold⟩, ⟨" c", .italic⟩], [⟨"defg", .plain⟩], [⟨"h", .plain⟩]] ∧
    visible (glyphsOf (wrap 4 gappy).flatten) = visible (glyphsOf gappy) ∧
    Tidy (glyphsOf gappy) [] [⟨"ab", .bold⟩, ⟨" c", .italic⟩] := by
  have hwide : 4 < Text.columns (textOf gappy) := by decide +kernel
  have hvisible : visible (glyphsOf gappy) ≠ [] := by decide
  have hlines : wrap 4 gappy =
      [[⟨"ab", .bold⟩, ⟨" c", .italic⟩], [⟨"defg", .plain⟩], [⟨"h", .plain⟩]] := by decide +kernel
  obtain ⟨hkept, htidy⟩ := wrap_tidy 4 gappy
  exact ⟨by decide, hwide, hvisible, hlines, hkept,
    (htidy (by decide) hwide).2 hvisible [] _ _ hlines⟩

end Lifeline.Inline
