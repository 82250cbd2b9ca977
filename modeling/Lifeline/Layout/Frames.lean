import Lifeline.Layout.Columns
import Lifeline.Layout.Rows

/-! # Frames of blocks

A block is drawn as a frame around the visible steps of its messages. A frame reaches beyond the
lifelines of its steps, keeps room around the frames inside it, and is wide enough for its label.
A divider marks where another branch begins, halfway between two rows. A block none of whose
messages is visible has no frame. -/

namespace Lifeline.Layout

/-- The line between two branches of a block, with the condition of an `else if`. -/
structure Divider (α : Type) where
  label : Option String
  isElse : Bool
  y : α
  deriving Repr, DecidableEq

/-- The frame of a block; `depth` counts the blocks around it. -/
structure Frame (α : Type) where
  kind : BlockKind
  label : String
  line : Nat
  depth : Nat
  rect : Rect α
  dividers : List (Divider α)
  deriving Repr, DecidableEq

section
variable {α : Type} [Add α] [Sub α] [Mul α] [Div α] [NatCast α] [Max α] [Min α] [LT α]
  [DecidableLT α]

/-- The left and right ends of a step: its lifelines with the room beside them, and the loop of a
call to oneself. -/
def stepEnds (c : Config α) (ps : List (PlacedParticipant α)) (s : Step) : List α × List α :=
  let xs := [s.source, s.target].filterMap (lifeline? ps)
  (xs.map (· - c.blockPaddingX),
    xs.flatMap fun x =>
      (x + c.blockPaddingX) :: if s.isSelfCall then [x + c.selfCallWidth + c.blockPaddingX] else [])

/-- The outermost ends of the steps in rows. -/
def rowEnds? (c : Config α) (ps : List (PlacedParticipant α)) (w : Visible) (rows : List Nat) :
    Option (α × α) :=
  let ends := rows.filterMap fun row => (w.rows[row]?).map fun s => stepEnds c ps s.2
  match (ends.flatMap (·.1)).min?, (ends.flatMap (·.2)).max? with
  | some left, some right => if right < left then none else some (left, right)
  | _, _ => none

/-- The dividers of a block whose first row is `first`. -/
def dividersOf (c : Config α) (w : Visible) (h : Heights α) (first : Nat) (body : Outline) :
    List (Divider α) :=
  body.arms.2.filterMap fun (branch, arm) =>
    (w.firstRow? arm).map fun row =>
      { label := branch.label
        isElse := branch.isElse
        y :=
          if first < row then half (h.row (row - 1) + h.row row)
          else h.row row - half c.branchPadding }

/-- The text in the corner of a frame. -/
def frameTitle (head : BlockHead) : String :=
  String.ofList (Text.trim (head.kind.keyword.toList ++ ' ' :: head.label.toList))

/-- The frame of a block around the frames inside it. -/
def frameOf? (c : Config α) (ps : List (PlacedParticipant α)) (w : Visible) (h : Heights α)
    (depth : Nat) (head : BlockHead) (body : Outline) (inner : List (Rect α)) :
    Option (Frame α) := do
  let first ← w.firstRow? body
  let last ← w.lastRow? body
  let (left, right) ← rowEnds? c ps w (w.covered body)
  let left := inner.foldl (fun a r => min a (r.x - c.frameInset)) left
  let right := inner.foldl (fun a r => max a (r.right + c.frameInset)) right
  let top := inner.foldl (fun a r => min a (r.y - c.blockHeaderPadding))
    (h.row first - c.blockHeaderPadding)
  let bottom := inner.foldl (fun a r => max a (r.bottom + c.blockFooterPadding))
    (h.row last + c.blockFooterPadding)
  let right := max right (left + c.textWidth (frameTitle head) + twice c.blockPaddingX)
  return {
    kind := head.kind
    label := head.label
    line := head.line
    depth := depth
    rect := Rect.ofEdges left top right bottom
    dividers := dividersOf c w h first body }

/-- The frames of an outline in the order of its blocks, a block before those inside it, and the
rectangles of those that stand in no other block of the outline. -/
def framesOf (c : Config α) (ps : List (PlacedParticipant α)) (w : Visible) (h : Heights α)
    (depth : Nat) : Outline → List (Frame α) × List (Rect α)
  | .empty => ([], [])
  | .entry _ rest => framesOf c ps w h depth rest
  | .block head body rest =>
    let (frames, rects) := framesOf c ps w h (depth + 1) body
    let (others, besides) := framesOf c ps w h depth rest
    match frameOf? c ps w h depth head body rects with
    | some frame => (frame :: frames ++ others, frame.rect :: besides)
    | none => (frames ++ others, besides)

end

end Lifeline.Layout
