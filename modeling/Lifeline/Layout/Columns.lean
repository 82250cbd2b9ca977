import Lifeline.Layout.Config
import Lifeline.Order.Participants

/-! # The horizontal pass

Participants stand side by side in their order. A header is as wide as its label needs, and the
gap between two headers is widened where the label of a message would not fit between the two
lifelines. A message between participants that are further apart widens the gaps between them
evenly; the label of a call to oneself needs room on its right only. -/

namespace Lifeline.Layout

/-- A participant with its lifeline and its header. -/
structure PlacedParticipant (α : Type) where
  id : String
  label : String
  kind : ParticipantKind
  /-- Where the lifeline stands. -/
  x : α
  width : α
  rect : Rect α
  deriving Repr, DecidableEq

section
variable {α : Type} [Add α] [Sub α] [Mul α] [Div α] [NatCast α] [Max α] [LT α] [DecidableLT α]

/-- The sum of distances, from left to right. -/
def total (ds : List α) : α := ds.foldl (· + ·) ((0 : Nat) : α)

/-- The entries from `first` on and before `last`. -/
def between (first last : Nat) (ds : List α) : List α := (ds.drop first).take (last - first)

/-- The width of a header. -/
def headerWidth (c : Config α) (p : Participant) : α :=
  max (c.textWidth p.label + twice c.participantPadding) c.minParticipantWidth

/-- The width that the labels of a message need between lifelines. -/
def labelWidth (c : Config α) (m : Message) : α :=
  max (c.textWidth m.label) (c.textWidth (m.reply.getD "")) + twice c.messageLabelPadding

/-- The gaps, widened for one message between slots. -/
def widenGaps (c : Config α) (widths : List α) (sender receiver : Nat) (label : α)
    (gaps : List α) : List α :=
  let widthAt (slot : Nat) := widths.getD slot ((0 : Nat) : α)
  if sender = receiver then
    if sender + 1 < gaps.length then
      gaps.modify sender (max · (label + c.selfCallWidth - half (widthAt sender)))
    else gaps
  else
    let left := min sender receiver
    let right := max sender receiver
    let span := half (widthAt left) + half (widthAt right) + total (between left right gaps) +
      total (between (left + 1) right widths)
    if span < label then
      let more := (label - span) / ((right - left : Nat) : α)
      gaps.mapIdx fun slot gap =>
        if left ≤ slot ∧ slot < right then max gap (c.participantGap + more) else gap
    else gaps

/-- The gaps on the right of the participants, widened for all messages in turn. -/
def gapsFor (c : Config α) (ps : List Participant) (messages : List Message) : List α :=
  let widths := ps.map (headerWidth c)
  messages.foldl
    (fun gaps m =>
      match ps.findIdx? fun p => p.id == m.sender, ps.findIdx? fun p => p.id == m.receiver with
      | some sender, some receiver => widenGaps c widths sender receiver (labelWidth c m) gaps
      | _, _ => gaps)
    (List.replicate ps.length c.participantGap)

/-- Participants side by side from `left` on, each followed by its gap. -/
def placeParticipants (c : Config α) (left : α) :
    List (Participant × α) → List (PlacedParticipant α)
  | [] => []
  | (p, gap) :: rest =>
    let width := headerWidth c p
    ⟨p.id, p.label, p.kind, left + half width, width,
      ⟨left, c.margin, width, c.participantHeight⟩⟩ ::
      placeParticipants c (left + (width + gap)) rest

/-- The participants of a diagram, placed from left to right. -/
def placedParticipants (c : Config α) (d : Diagram) : List (PlacedParticipant α) :=
  let ps := d.orderedParticipants
  placeParticipants c c.margin (ps.zip (gapsFor c ps d.messages))

end

/-- Where the lifeline of a participant stands. -/
def lifeline? {α : Type} (ps : List (PlacedParticipant α)) (id : String) : Option α :=
  (ps.find? fun p => p.id == id).map PlacedParticipant.x

end Lifeline.Layout
