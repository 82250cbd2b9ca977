import Lifeline.Layout.Rect
import Lifeline.Text.Columns

/-! # Measures

The distances that a layout keeps, and the default for each of them. Texts are measured in
columns, and a column has one fixed width. -/

namespace Lifeline.Layout

/-- The measures of a layout. -/
structure Config (α : Type) where
  /-- From one visible step to the next. -/
  stepSpacing : α
  /-- The height of the first step when nothing precedes it. -/
  headerHeight : α
  participantHeight : α
  participantGap : α
  minParticipantWidth : α
  participantPadding : α
  /-- Room on each side of a message's label. -/
  messageLabelPadding : α
  /-- The width of the loop of a call to oneself. -/
  selfCallWidth : α
  blockHeaderPadding : α
  branchPadding : α
  blockFooterPadding : α
  blockPaddingX : α
  /-- Room that a frame keeps on each side of a frame inside it. -/
  frameInset : α
  sectionPaddingTop : α
  sectionPaddingBottom : α
  noteOffset : α
  noteGap : α
  notePadding : α
  noteLineHeight : α
  /-- The columns of a note's line; none for notes that are not broken. -/
  noteMaxChars : Nat
  noteMargin : α
  foldSize : α
  collapsedNoteSize : α
  activationWidth : α
  activationDepthOffset : α
  /-- The width of a column of text. -/
  avgCharWidth : α
  groupPadding : α
  margin : α
  deriving Repr, DecidableEq

namespace Config

variable {α : Type} [NatCast α] [Mul α]

/-- The default measures. -/
def standard : Config α where
  stepSpacing := (40 : Nat)
  headerHeight := (80 : Nat)
  participantHeight := (40 : Nat)
  participantGap := (40 : Nat)
  minParticipantWidth := (80 : Nat)
  participantPadding := (12 : Nat)
  messageLabelPadding := (16 : Nat)
  selfCallWidth := (30 : Nat)
  blockHeaderPadding := (28 : Nat)
  branchPadding := (24 : Nat)
  blockFooterPadding := (12 : Nat)
  blockPaddingX := (24 : Nat)
  frameInset := (8 : Nat)
  sectionPaddingTop := (24 : Nat)
  sectionPaddingBottom := (24 : Nat)
  noteOffset := (10 : Nat)
  noteGap := (8 : Nat)
  notePadding := (8 : Nat)
  noteLineHeight := (16 : Nat)
  noteMaxChars := 32
  noteMargin := (12 : Nat)
  foldSize := (10 : Nat)
  collapsedNoteSize := (16 : Nat)
  activationWidth := (10 : Nat)
  activationDepthOffset := (5 : Nat)
  avgCharWidth := (7 : Nat)
  groupPadding := (12 : Nat)
  margin := (20 : Nat)

end Config

section
variable {α : Type} [NatCast α] [Mul α]

/-- The width of a text whose columns are `width` wide. -/
def estimateWidth (text : List Char) (width : α) : α := (Text.columns text : α) * width

/-- The width of a text. -/
def Config.textWidth (c : Config α) (text : String) : α := estimateWidth text.toList c.avgCharWidth

/-- Twice a distance. -/
def twice (a : α) : α := ((2 : Nat) : α) * a

end

section
variable {α : Type} [NatCast α] [Div α]

/-- Half a distance. -/
def half (a : α) : α := a / ((2 : Nat) : α)

end

end Lifeline.Layout
