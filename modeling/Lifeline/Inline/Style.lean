/-! # Styled text

Marked-up text is a list of characters, each with the style it is drawn in. A *span* is a piece
of text in one style; `spansOf` cuts a styled text into its longest pieces of one style, and
`glyphsOf` forgets where the pieces end. The main facts are that cutting loses nothing
(`glyphsOf_spansOf`) and that no piece is empty (`runs_ne_nil`). -/

namespace Lifeline.Inline

/-- The style that a character is drawn in. -/
inductive Style
  | plain
  | bold
  | italic
  | code
  | link (url : String)
  deriving DecidableEq, Repr

/-- One character and its style. -/
structure Glyph where
  char : Char
  style : Style
  deriving DecidableEq, Repr

/-- A piece of text in one style. -/
structure Span where
  text : String
  style : Style
  deriving DecidableEq, Repr

/-- A text in one style. -/
def styled (style : Style) (text : List Char) : List Glyph := text.map fun c => ⟨c, style⟩

/-- The characters of a span. -/
def Span.glyphs (s : Span) : List Glyph := styled s.style s.text.toList

/-- The characters of a list of spans. -/
def glyphsOf (spans : List Span) : List Glyph := spans.flatMap Span.glyphs

/-- The longest pieces of one style, in order. -/
def runs : List Glyph → List (List Char × Style)
  | [] => []
  | g :: rest =>
    match runs rest with
    | [] => [([g.char], g.style)]
    | (text, style) :: more =>
      if g.style = style then (g.char :: text, style) :: more
      else ([g.char], g.style) :: (text, style) :: more

/-- The longest pieces of one style, as spans. -/
def spansOf (glyphs : List Glyph) : List Span :=
  (runs glyphs).map fun (text, style) => ⟨String.ofList text, style⟩

/-- The text of a list of spans, without the styles. -/
def textOf (spans : List Span) : List Char := spans.flatMap fun s => s.text.toList

/-- Gives a style to the characters that have none yet. -/
def paint (style : Style) (glyphs : List Glyph) : List Glyph :=
  glyphs.map fun g => if g.style = .plain then { g with style := style } else g

theorem glyphsOf_append (a b : List Span) : glyphsOf (a ++ b) = glyphsOf a ++ glyphsOf b := by
  simp [glyphsOf]

theorem flatMap_runs (glyphs : List Glyph) :
    (runs glyphs).flatMap (fun r => styled r.2 r.1) = glyphs := by
  induction glyphs with
  | nil => rfl
  | cons g rest ih =>
    unfold runs
    split
    · next h => simp [h] at ih; subst ih; simp [styled]
    · next text style more h =>
      rw [h] at ih
      split
      · next hs => rw [← ih]; simp [styled, ← hs]
      · rw [← ih]; simp [styled]

/-- Cutting a styled text into spans loses nothing. -/
theorem glyphsOf_spansOf (glyphs : List Glyph) : glyphsOf (spansOf glyphs) = glyphs := by
  conv => rhs; rw [← flatMap_runs glyphs]
  simp [glyphsOf, spansOf, Span.glyphs, List.flatMap_map]

theorem runs_ne_nil {glyphs : List Glyph} {r : List Char × Style} (h : r ∈ runs glyphs) :
    r.1 ≠ [] := by
  induction glyphs with
  | nil => simp [runs] at h
  | cons g rest ih =>
    unfold runs at h
    split at h
    · simp at h; subst h; simp
    · next text style more hr =>
      split at h
      · rcases List.mem_cons.1 h with rfl | h
        · simp
        · exact ih (hr ▸ List.mem_cons_of_mem _ h)
      · rcases List.mem_cons.1 h with rfl | h
        · simp
        · exact ih (hr ▸ h)

end Lifeline.Inline
