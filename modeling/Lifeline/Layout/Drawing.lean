import Lifeline.Layout.Arrows
import Lifeline.Layout.Frames
import Lifeline.Layout.Notes

/-! # Drawings

`Diagram.layout` places everything that a diagram shows under a view. Participants come first,
then the rows of the visible steps, and from these activations, arrows, frames, notes, section
bands and group boxes. If something sticks out on the left, everything is moved to the right at
the end, so that the drawing keeps its margin. -/

namespace Lifeline.Layout

/-- A band across the drawing, at a section divider. -/
structure Band (α : Type) where
  index : Nat
  label : String
  color : Option String
  isCollapsed : Bool
  messageCount : Nat
  y : α
  x : α
  width : α
  deriving Repr, DecidableEq

/-- The box around the members of a group. -/
structure GroupBox (α : Type) where
  name : String
  color : Option String
  members : List String
  rect : Rect α
  deriving Repr, DecidableEq

/-- Everything that is drawn. -/
structure Drawing (α : Type) where
  title : Option String
  participants : List (PlacedParticipant α)
  steps : List (PlacedStep α)
  activations : List (PlacedActivation α)
  frames : List (Frame α)
  bands : List (Band α)
  notes : List (PlacedNote α)
  groups : List (GroupBox α)
  /-- Where the lifelines begin. -/
  lifelineTop : α
  width : α
  height : α
  deriving Repr, DecidableEq

/-- Why a diagram cannot be laid out. -/
inductive LayoutError
  /-- Its document could not be read. -/
  | unreadable (cause : ReadError)
  /-- A step has an end at a participant without a lifeline. -/
  | unplaced (id : String)
  deriving DecidableEq, Repr

/-- The wording of an error. -/
def LayoutError.message : LayoutError → String
  | .unreadable cause =>
    s!"Layout error: cannot lay out a document that failed to parse: {cause.message}"
  | .unplaced id => s!"Layout error: Participant '{id}' has no position"

section
variable {α : Type} [Add α] [Sub α] [Mul α] [Div α] [NatCast α] [Max α] [Min α] [LT α]
  [DecidableLT α]

/-- A drawing of nothing but a title. -/
def Drawing.blank (title : Option String) : Drawing α :=
  let zero : α := ((0 : Nat) : α)
  ⟨title, [], [], [], [], [], [], [], zero, zero, zero⟩

/-- The height of a visible step, given by its place in the timeline. -/
def Drawing.heightOf? (g : Drawing α) (place : Nat) : Option α :=
  (g.steps.find? fun s => s.place == place).map PlacedStep.y

/-- The rectangles that a drawing must hold, those of participants apart. -/
def Drawing.rects (g : Drawing α) : List (Rect α) :=
  g.activations.map PlacedActivation.rect ++ g.frames.map Frame.rect ++
    g.notes.map PlacedNote.rect ++ g.groups.map GroupBox.rect

/-- The leftmost and the rightmost edge of rectangles. -/
def extent (first : Rect α) (rest : List (Rect α)) : α × α :=
  rest.foldl (fun (left, right) r => (min left r.x, max right r.right)) (first.x, first.right)

/-- The leftmost and the rightmost edge of everything drawn; `none` where nothing is. -/
def Drawing.extent? (g : Drawing α) : Option (α × α) :=
  match g.participants.map PlacedParticipant.rect ++ g.rects with
  | [] => none
  | first :: rest => some (extent first rest)

/-- The drawing, moved to the right. Bands are placed afterwards. -/
def Drawing.shift (g : Drawing α) (dx : α) : Drawing α :=
  { g with
    participants := g.participants.map fun p => { p with x := p.x + dx, rect := p.rect.shift dx }
    steps := g.steps.map fun s => { s with sourceX := s.sourceX + dx, targetX := s.targetX + dx }
    activations := g.activations.map fun a => { a with rect := a.rect.shift dx }
    frames := g.frames.map fun f => { f with rect := f.rect.shift dx }
    notes := g.notes.map fun n =>
      { n with rect := n.rect.shift dx, fold := n.fold.map fun r => r.shift dx }
    groups := g.groups.map fun b => { b with rect := b.rect.shift dx } }

/-- The drawing with the margin on its left that is asked for, its width, and its bands from the
leftmost to the rightmost edge. -/
def Drawing.fit (g : Drawing α) (margin : α) : Drawing α :=
  let g := match g.extent? with
    | some (left, _) => if left < margin then g.shift (margin - left) else g
    | none => g
  match g.extent? with
  | some (left, right) =>
    { g with
      width := right + margin
      bands := g.bands.map fun b => { b with x := left, width := right - left } }
  | none => g

/-- The box of a group; a group without placed members has none. -/
def groupBox? (c : Config α) (ps : List (PlacedParticipant α)) (height : α) (g : Group) :
    Option (GroupBox α) :=
  match (ps.filter fun p => g.members.contains p.id).map PlacedParticipant.rect with
  | [] => none
  | first :: rest =>
    let (left, right) := extent first rest
    some ⟨g.name, g.color, g.members,
      Rect.ofEdges (left - c.groupPadding) ((0 : Nat) : α) (right + c.groupPadding) height⟩

/-- The bands of the sections of a diagram. -/
def bandsOf (d : Diagram) (v : View) (h : Heights α) : List (Band α) :=
  d.sections.zipIdx.map fun (s, i) =>
    { index := i
      label := s.label
      color := s.color
      isCollapsed := v.hidesSection i
      messageCount := d.sectionSize i
      y := h.section i
      x := ((0 : Nat) : α)
      width := ((0 : Nat) : α) }

/-- The drawing of a diagram that has participants. -/
def draw (c : Config α) (d : Diagram) (v : View) : Except String (Drawing α) := do
  let ps := placedParticipants c d
  let w := Visible.of d v
  let h := heights c d w
  let as := placedActivations c w h ps
  let steps ← placedSteps w h ps as
  let notes := placedNotes c d v w h ps
  let height := notes.foldl (fun y n => max y (n.rect.bottom + c.margin)) h.bottom
  let g : Drawing α := {
    title := d.title
    participants := ps
    steps := steps
    activations := as
    frames := (framesOf c ps w h 0 d.outline).1
    bands := bandsOf d v h
    notes := notes
    groups := d.groups.filterMap (groupBox? c ps height)
    lifelineTop := c.margin + c.participantHeight
    width := ((0 : Nat) : α)
    height := height }
  return g.fit c.margin

end

end Lifeline.Layout

namespace Lifeline

open Lifeline.Layout

variable {α : Type} [Add α] [Sub α] [Mul α] [Div α] [NatCast α] [Max α] [Min α] [LT α]
  [DecidableLT α]

/-- The drawing of a diagram under a view. -/
def Diagram.layout (c : Config α) (d : Diagram) (v : View) : Except LayoutError (Drawing α) :=
  match d.failure with
  | some cause => .error (.unreadable cause)
  | none =>
    if d.participants.isEmpty then .ok (Drawing.blank d.title)
    else (draw c d v).mapError .unplaced

end Lifeline
