/-! # Rectangles

A rectangle is anchored at its top left corner; `y` grows downwards. All of the geometry is
written for any type of coordinates that has the four operations, the natural numbers and an
order. A drawing is computed with floating-point numbers; in exact arithmetic the same
definitions are those that the laws of the layout speak about. -/

namespace Lifeline.Layout

/-- Natural numbers as floating-point coordinates. -/
instance floatNatCast : NatCast Float := ⟨Float.ofNat⟩

/-- A rectangle. -/
structure Rect (α : Type) where
  x : α
  y : α
  width : α
  height : α
  deriving Repr, DecidableEq

namespace Rect

variable {α : Type} [Add α] [Sub α] [Max α] [NatCast α]

/-- The rectangle between four edges; where two edges are in the wrong order it has no extent. -/
def ofEdges (left top right bottom : α) : Rect α :=
  ⟨left, top, max (right - left) ((0 : Nat) : α), max (bottom - top) ((0 : Nat) : α)⟩

/-- The right edge. -/
def right (r : Rect α) : α := r.x + r.width

/-- The bottom edge. -/
def bottom (r : Rect α) : α := r.y + r.height

/-- The rectangle, moved to the right. -/
def shift (r : Rect α) (dx : α) : Rect α := { r with x := r.x + dx }

end Rect

end Lifeline.Layout
