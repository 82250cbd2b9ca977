import Lifeline.Inline.Spans
import Lifeline.Inline.Wrap
import Lifeline.Layout.Columns
import Lifeline.Layout.Rows

/-! # Notes

A note floats beside a lifeline, below the last step that its message owns, and moves no step.
Notes on the same side of the same participant are stacked. A collapsed note is a small box
without text. -/

namespace Lifeline.Layout

open Lifeline.Inline (Span)

/-- A note in its box: its lines, as spans, and the folded corner that an open note has. -/
structure PlacedNote (α : Type) where
  index : Nat
  participant : String
  side : Side
  line : Nat
  isCollapsed : Bool
  rect : Rect α
  lines : List (List Span)
  fold : Option (Rect α)
  deriving Repr, DecidableEq

/-- The pieces of a text between line feeds. -/
def pieces (text : List Char) : List (List Char) := text.splitOn '\n'

/-- The lines of a note: every line of its text, read as marked-up text and broken. -/
def noteLines (limit : Nat) (text : List Char) : List (List Span) :=
  (pieces text).flatMap fun line => Inline.wrap limit (Inline.spansOfLine (Text.trim line))

/-- The text of a line, without markup. -/
def lineText (line : List Span) : String := String.ofList (Inline.textOf line)

section
variable {α : Type} [Add α] [Sub α] [Mul α] [NatCast α] [Max α]

/-- The height that a note is attached to: that of the last step that its message owns, or the
head of the diagram. A note of a hidden message has none. -/
def anchor? (c : Config α) (w : Visible) (h : Heights α) (n : Note) : Option α :=
  match n.afterMessage with
  | none => some c.headerHeight
  | some m => (w.ownRows m).getLast?.map h.row

/-- The width and the height of a note with these lines. -/
def noteSize (c : Config α) (isCollapsed : Bool) (lines : List (List Span)) : α × α :=
  if isCollapsed then (c.collapsedNoteSize, c.collapsedNoteSize)
  else
    let width := (lines.map fun l => c.textWidth (lineText l)).foldl max ((0 : Nat) : α)
    (width + twice c.notePadding, (lines.length : α) * c.noteLineHeight + twice c.notePadding)

/-- The bottoms of the stacks of notes, for each participant and side. -/
abbrev Stacks (α : Type) := List ((String × Side) × α)

/-- The bottom of a stack. -/
def Stacks.bottom? (s : Stacks α) (key : String × Side) : Option α :=
  (s.find? fun e => e.1 = key).map (·.2)

/-- The box of a note below `top`. -/
def noteRect (c : Config α) (side : Side) (x top : α) (size : α × α) : Rect α :=
  let left := match side with
    | .right => x + c.noteMargin
    | .left => x - c.noteMargin - size.1
  ⟨left, top, size.1, size.2⟩

/-- Places notes, each given with its index, on top of stacks. -/
def placeNotes (c : Config α) (v : View) (w : Visible) (h : Heights α)
    (ps : List (PlacedParticipant α)) (placed : Stacks α) :
    List (Note × Nat) → List (PlacedNote α)
  | [] => []
  | (n, index) :: rest =>
    match anchor? c w h n, lifeline? ps n.participant with
    | some anchor, some x =>
      let isCollapsed := v.foldsNote index
      let lines := if isCollapsed then [] else noteLines c.noteMaxChars n.text.toList
      let size := noteSize c isCollapsed lines
      let key := (n.participant, n.side)
      let top := anchor + c.noteOffset
      let top := match placed.bottom? key with
        | some bottom => max top (bottom + c.noteGap)
        | none => top
      let rect := noteRect c n.side x top size
      let fold : Rect α := ⟨rect.right - c.foldSize, rect.y, c.foldSize, c.foldSize⟩
      { index := index
        participant := n.participant
        side := n.side
        line := n.line
        isCollapsed := isCollapsed
        rect := rect
        lines := lines
        fold := if isCollapsed then none else some fold } ::
        placeNotes c v w h ps ((key, top + size.2) :: placed) rest
    | _, _ => placeNotes c v w h ps placed rest

/-- The notes of a diagram in their boxes. -/
def placedNotes (c : Config α) (d : Diagram) (v : View) (w : Visible) (h : Heights α)
    (ps : List (PlacedParticipant α)) : List (PlacedNote α) :=
  if v.showNotes then placeNotes c v w h ps [] d.outline.notes.zipIdx else []

end

end Lifeline.Layout
