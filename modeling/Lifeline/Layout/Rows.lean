import Lifeline.Layout.Config
import Lifeline.Layout.Visible

/-! # The vertical pass

Steps are placed from top to bottom, one after the other. In front of a row there may be room for
the ends of blocks, for sections, for the heads of blocks and for their branches, in this order.
What is hidden takes no room, so collapsing a section moves only what comes after it. -/

namespace Lifeline.Layout

/-- What stands in front of a row: the numbers of blocks that end, begin and branch there, and
the sections. -/
structure Gap where
  footers : Nat
  sections : List Nat
  headers : Nat
  branches : Nat
  deriving DecidableEq, Repr

/-- The rows in front of which a block of an outline begins, bodies included. -/
def headerRows (w : Visible) : Outline → List Nat
  | .empty => []
  | .entry _ rest => headerRows w rest
  | .block _ body rest => (w.firstRow? body).toList ++ headerRows w body ++ headerRows w rest

/-- The rows behind which a block of an outline ends, bodies included. -/
def footerRows (w : Visible) : Outline → List Nat
  | .empty => []
  | .entry _ rest => footerRows w rest
  | .block _ body rest => (w.lastRow? body).toList ++ footerRows w body ++ footerRows w rest

/-- The rows in front of which another branch of a block begins, bodies included. -/
def branchRows (w : Visible) : Outline → List Nat
  | .empty => []
  | .entry _ rest => branchRows w rest
  | .block _ body rest =>
    body.arms.2.filterMap (fun arm => w.firstRow? arm.2) ++ branchRows w body ++ branchRows w rest

/-- The row in front of which a section stands: that of the first visible step from the call of
its first message on, and otherwise the end. -/
def sectionRow (w : Visible) (s : Section) : Nat :=
  ((w.callPlace? s.firstMessage).bind w.firstFrom?).getD w.count

/-- What stands in front of each row, and at the end. -/
def gaps (d : Diagram) (w : Visible) : List Gap :=
  let headers := headerRows w d.outline
  let footers := footerRows w d.outline
  let branches := branchRows w d.outline
  let sections := d.sections.map (sectionRow w)
  (List.range (w.count + 1)).map fun row =>
    { footers := footers.countP (· + 1 = row)
      sections := (List.range sections.length).filter fun i => sections[i]? = some row
      headers := headers.count row
      branches := branches.count row }

/-- The heights that the vertical pass finds: those of the rows, those of the sections, and the
height at the end. -/
structure Heights (α : Type) where
  rows : List α
  sections : List (Nat × α)
  bottom : α
  deriving Repr, DecidableEq

section
variable {α : Type} [Add α] [Mul α] [NatCast α]

/-- The height behind sections, from `y` on, and the heights of the sections. -/
def placeSections (c : Config α) (y : α) : List Nat → List (Nat × α) × α
  | [] => ([], y)
  | i :: rest =>
    let here := y + c.sectionPaddingTop
    let (others, y) := placeSections c (here + c.sectionPaddingBottom) rest
    ((i, here) :: others, y)

/-- Places rows from `y` on. The last gap is that of the end, behind which there is no row. -/
def placeRows (c : Config α) (y : α) : List Gap → Heights α
  | [] => ⟨[], [], y⟩
  | g :: rest =>
    let (sections, y) := placeSections c (y + (g.footers : α) * c.blockFooterPadding) g.sections
    match rest with
    | [] => ⟨[], sections, y⟩
    | next :: more =>
      let y := y + (g.headers : α) * c.blockHeaderPadding
      let y := y + (g.branches : α) * c.branchPadding
      let below := placeRows c (y + c.stepSpacing) (next :: more)
      ⟨y :: below.rows, sections ++ below.sections, below.bottom⟩

/-- The heights of the visible steps and the sections of a diagram. -/
def heights (c : Config α) (d : Diagram) (w : Visible) : Heights α :=
  placeRows c c.headerHeight (gaps d w)

/-- The height of a row. -/
def Heights.row (h : Heights α) (row : Nat) : α := h.rows.getD row h.bottom

/-- The height of a section. -/
def Heights.section (h : Heights α) (i : Nat) : α :=
  match h.sections.find? fun s => s.1 = i with
  | some (_, y) => y
  | none => h.bottom

end

end Lifeline.Layout
