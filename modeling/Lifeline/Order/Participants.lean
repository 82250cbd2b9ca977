import Lifeline.Diagram.Basic
import Lifeline.Order.Slots

/-! # The order of participants

The members of groups come first, group by group, then all others, each in the order of their
registration. The participants that have a position are then moved to the slots they ask for. -/

namespace Lifeline

open Lifeline.Order

/-- The entries of a list at their first occurrences. -/
def Order.firstOccurrences {α : Type} [DecidableEq α] (seen : List α) : List α → List α
  | [] => []
  | a :: rest =>
    if a ∈ seen then firstOccurrences seen rest else a :: firstOccurrences (a :: seen) rest

/-- The indices of the participants, members of groups first. -/
def Diagram.groupedOrder (d : Diagram) : List Nat :=
  let members := d.groups.flatMap fun g =>
    g.members.filterMap fun id => d.participants.findIdx? fun p => p.id == id
  firstOccurrences [] (members ++ List.range d.participants.length)

/-- The indices of the participants from left to right. -/
def Diagram.order (d : Diagram) : List Nat :=
  let grouped := d.groupedOrder
  arrange grouped (grouped.map fun i => (d.participants[i]?).bind Participant.position)

/-- The participants from left to right. -/
def Diagram.orderedParticipants (d : Diagram) : List Participant :=
  d.order.filterMap fun i => d.participants[i]?

end Lifeline
