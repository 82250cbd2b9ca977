import Lifeline.Diagram.Basic
import Lifeline.Layout.View
import Lifeline.Timeline.Step

/-! # Visible steps

A view leaves some steps of the timeline visible: those whose message belongs to no collapsed
section, apart from returns without a label. A visible step has two numbers, its *place* in the
whole timeline and its *row* among the visible steps. -/

namespace Lifeline.Layout

/-- The timeline of a diagram, and its visible steps with their places. -/
structure Visible where
  steps : List Step
  rows : List (Nat × Step)
  deriving DecidableEq, Repr

namespace Visible

/-- A return without a label is not drawn. -/
def isSilent (s : Step) : Bool := s.kind == .return && s.label.isEmpty

/-- The message belongs to a collapsed section. -/
def isHidden (d : Diagram) (v : View) (message : Nat) : Bool :=
  match d.sectionOf? message with
  | some i => v.hidesSection i
  | none => false

/-- The visible steps of a diagram under a view. -/
def of (d : Diagram) (v : View) : Visible :=
  let steps := Timeline.steps d.messages
  let hidden := (List.range d.messages.length).map (isHidden d v)
  let rows := steps.zipIdx.filterMap fun (s, place) =>
    if hidden.getD s.message false || isSilent s then none else some (place, s)
  ⟨steps, rows⟩

/-- The number of visible steps. -/
def count (w : Visible) : Nat := w.rows.length

/-- The places of the visible steps. -/
def places (w : Visible) : List Nat := w.rows.map (·.1)

/-- The place of the call of a message. -/
def callPlace? (w : Visible) (message : Nat) : Option Nat :=
  w.steps.findIdx? fun s => s.isCall && s.message == message

/-- The rows of a message's steps that come before the next message is sent. -/
def ownRows (w : Visible) (message : Nat) : List Nat :=
  let next := w.callPlace? (message + 1)
  w.rows.zipIdx.filterMap fun ((place, s), row) =>
    if s.message = message ∧ next.all (place < ·) then some row else none

/-- The first row at or after a place. -/
def firstFrom? (w : Visible) (place : Nat) : Option Nat := w.places.findIdx? (place ≤ ·)

/-- The last row before a place. -/
def lastBefore? (w : Visible) (place : Nat) : Option Nat :=
  match w.places.countP (· < place) with
  | 0 => none
  | n + 1 => some n

/-- The row of a place. -/
def row? (w : Visible) (place : Nat) : Option Nat := w.places.findIdx? (· == place)

/-- The rows of the steps that the messages of an outline own. -/
def covered (w : Visible) (o : Outline) : List Nat := o.messageIndices.flatMap w.ownRows

/-- The first row that the messages of an outline own. -/
def firstRow? (w : Visible) (o : Outline) : Option Nat := (w.covered o).min?

/-- The last row that the messages of an outline own. -/
def lastRow? (w : Visible) (o : Outline) : Option Nat := (w.covered o).max?

end Visible

end Lifeline.Layout
