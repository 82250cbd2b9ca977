import Lifeline.Layout.Columns
import Lifeline.Layout.Rows
import Lifeline.Timeline.Activation

/-! # Activations and arrows

An activation is drawn on the lifeline of its participant, from its first visible step to its
last; where the return is not visible it ends half a row below the last visible step. Nested
activations are set off to the right. Arrows start and end at the edge of the innermost activation
that faces the other participant, and at the lifeline where there is none. -/

namespace Lifeline.Layout

/-- An activation and its rectangle. -/
structure PlacedActivation (α : Type) where
  activation : Activation
  rect : Rect α
  deriving Repr, DecidableEq

/-- A visible step with its place in the timeline, its height and its two ends. -/
structure PlacedStep (α : Type) where
  place : Nat
  step : Step
  y : α
  sourceX : α
  targetX : α
  deriving Repr, DecidableEq

section
variable {α : Type} [Add α] [Sub α] [Mul α] [Div α] [NatCast α] [LT α] [DecidableLT α]

/-- The bottom of an activation. -/
def activationBottom? (c : Config α) (w : Visible) (h : Heights α) (a : Activation) : Option α :=
  match w.row? a.last with
  | some row => some (h.row row)
  | none => (w.lastBefore? a.last).map fun row => h.row row + half c.stepSpacing

/-- An activation in its place; one without a visible step has none. -/
def placeActivation? (c : Config α) (w : Visible) (h : Heights α)
    (ps : List (PlacedParticipant α)) (a : Activation) : Option (PlacedActivation α) := do
  let row ← (w.firstFrom? a.first).filter fun row => (w.places[row]?).any (· ≤ a.last)
  let top := h.row row
  let bottom ← activationBottom? c w h a
  let x ← lifeline? ps a.participant
  let center := x + (a.depth : α) * c.activationDepthOffset
  return ⟨a, ⟨center - half c.activationWidth, top, c.activationWidth, bottom - top⟩⟩

/-- The activations of a timeline in their places. -/
def placedActivations (c : Config α) (w : Visible) (h : Heights α)
    (ps : List (PlacedParticipant α)) : List (PlacedActivation α) :=
  (Timeline.activations w.steps).filterMap (placeActivation? c w h ps)

/-- The deepest of a list of activations, the last one among equals. -/
def deepest? (as : List (PlacedActivation α)) : Option (PlacedActivation α) :=
  as.foldl
    (fun best a => match best with
      | none => some a
      | some b => if a.activation.depth < b.activation.depth then some b else some a)
    none

/-- One end of an arrow, at a participant whose lifeline stands at `here`, with the other end
towards `there`. Activations that begin (or end) with the step itself do not count at its source
(or target). -/
def arrowEnd (as : List (PlacedActivation α)) (participant : String) (place : Nat)
    (ignores : Activation → Bool) (here there : α) (isSelfCall : Bool) : α :=
  let around := as.filter fun a =>
    a.activation.participant == participant && a.activation.covers place && !ignores a.activation
  match deepest? around with
  | none => here
  | some a => if !isSelfCall && there < here then a.rect.x else a.rect.right

/-- A step in its row; the error is the participant that has no lifeline. -/
def placeStep (h : Heights α) (ps : List (PlacedParticipant α)) (as : List (PlacedActivation α))
    (row place : Nat) (s : Step) : Except String (PlacedStep α) :=
  match lifeline? ps s.source, lifeline? ps s.target with
  | none, _ => .error s.source
  | _, none => .error s.target
  | some source, some target =>
    .ok {
      place := place
      step := s
      y := h.row row
      sourceX := arrowEnd as s.source place (fun a => s.isCall && a.first == place) source target
        s.isSelfCall
      targetX := arrowEnd as s.target place (fun a => !s.isCall && a.last == place) target source
        s.isSelfCall }

/-- The visible steps in their rows. -/
def placedSteps (w : Visible) (h : Heights α) (ps : List (PlacedParticipant α))
    (as : List (PlacedActivation α)) : Except String (List (PlacedStep α)) :=
  w.rows.zipIdx.mapM fun ((place, s), row) => placeStep h ps as row place s

end

end Lifeline.Layout
