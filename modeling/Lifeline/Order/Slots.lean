/-! # Slots

Items are put into as many slots, numbered from the left. Some of them ask for a slot by a
position; a negative one counts from the right, and one beyond the ends asks for the last slot on
that side. They are served by the slot they ask for, and by their order among equals. An item
whose slot is taken gets the nearest free one, where the right neighbour comes before the left
one at the same distance. The other items fill the free slots in their order. -/

namespace Lifeline.Order

/-- The slot that a position asks for among `count` slots. -/
def slotOf (count : Nat) (position : Int) : Nat :=
  (min (if position < 0 then count + position else position) ((count : Int) - 1)).toNat

/-- The items that ask for a slot, each with the slot, in the order of the items. -/
def requests (count : Nat) (positions : List (Option Int)) : List (Nat × Nat) :=
  positions.zipIdx.filterMap fun (p, item) => p.map fun p => (slotOf count p, item)

/-- The order in which requests are served. -/
def requestLe (a b : Nat × Nat) : Bool := a.1 < b.1 || (a.1 == b.1 && a.2 ≤ b.2)

/-- The slots in the order in which they are tried for one that asks for `target`. -/
def candidates (count target : Nat) : List Nat :=
  target :: (List.range count).flatMap fun k =>
    (if target + (k + 1) < count then [target + (k + 1)] else []) ++
      (if k + 1 ≤ target then [target - (k + 1)] else [])

/-- The slot of an item, where the slots of those served before are known. -/
def freeSlot? (count : Nat) (taken : List (Nat × Nat)) (target : Nat) : Option Nat :=
  (candidates count target).find? fun slot => taken.all fun t => t.1 ≠ slot

/-- Serves requests: pairs of a slot and the item in it. -/
def serve (count : Nat) : List (Nat × Nat) → List (Nat × Nat) → List (Nat × Nat)
  | taken, [] => taken
  | taken, (target, item) :: rest =>
    match freeSlot? count taken target with
    | some slot => serve count ((slot, item) :: taken) rest
    | none => serve count taken rest

/-- The item in each slot: the one that was served with it, or the next of the others. -/
def fill (taken : List (Nat × Nat)) : List Nat → List Nat → List Nat
  | [], _ => []
  | slot :: slots, others =>
    match taken.find? fun t => t.1 = slot with
    | some (_, item) => item :: fill taken slots others
    | none =>
      match others with
      | [] => fill taken slots []
      | item :: others => item :: fill taken slots others

/-- The numbers of the items in the order of their slots. -/
def arrangement (positions : List (Option Int)) : List Nat :=
  let count := positions.length
  let taken := serve count [] ((requests count positions).mergeSort requestLe)
  let others := (List.range count).filter fun item => taken.all fun t => t.2 ≠ item
  fill taken (List.range count) others

/-- The items in the order of their slots. -/
def arrange {α : Type} (items : List α) (positions : List (Option Int)) : List α :=
  (arrangement positions).filterMap fun i => items[i]?

end Lifeline.Order
