import Lifeline.Proofs.Layout.Bounds
import Lifeline.Proofs.Order.Serving
import Lifeline.Proofs.Reader.Head
import Lifeline.Proofs.Reader.Roster
import Lifeline.Proofs.Syntax.Position

/-! # The slot that a number means

A position is a number of any size where it is written, has 64 bits where it is stored, and is
brought into the range of the slots where it is used. With fewer participants than 64 bits can
count, the slot is that of the number as it is written: a number beyond the range of positions is
beyond all slots, and so is what it is stored as (`slotOf_saturated`). So a document's participants
ask for the slots that the numbers mean (`Diagram.targets_read`). -/

namespace Lifeline

open Lifeline.Reader

/-! ### Slots of numbers of any size -/

namespace Order

/-- The position that is stored for a number means the same slot. -/
theorem slotOf_saturated {count : Nat} (hpos : 0 < count) (h : count < 2 ^ 63) (z : Int) :
    (slotOf count (max leastPosition (min greatestPosition z)) : Int) =
      max 0 (min ((count : Int) - 1) (if 0 ≤ z then z else count + z)) := by
  rw [coe_slotOf hpos, leastPosition, greatestPosition]
  split <;> split <;> omega

theorem add_mem_range {count : Nat} (h : count < 2 ^ 63) {n : Int} (hleast : leastPosition ≤ n)
    (hneg : n < 0) : leastPosition ≤ count + n ∧ count + n ≤ greatestPosition := by
  rw [leastPosition] at hleast ⊢
  rw [greatestPosition]
  omega

end Order

/-! ### The last position of a participant -/

/-- Of the positions that the text gives the participant, the last one is written as the number: it
is the last word of a line outside the bodies of notes, and no later line gives the participant a
position. -/
def LastPosition (text : List Char) (id : String) (z : Int) : Prop :=
  ∃ i raw r, (Text.lines text)[i]? = some raw ∧ (rows text)[i]? = some r ∧
    (∃ m ∈ r.mentions, m.name = id ∧ m.position?.isSome = true) ∧
    (∀ s ∈ (rows text).drop (i + 1), ∀ m ∈ s.mentions, m.name = id → m.position? = none) ∧
    Syntax.Denotes (Text.lastWord (Text.trim raw)) z

namespace Reader

variable {r : Row} {m : Mention} {n : Int}

theorem mentions_of_position? (hm : m ∈ r.mentions) (hn : m.position? = some n) :
    r.mentions = [m] ∧ ∃ form, r.role = .form form ∧ form.position? = some n := by
  unfold Row.mentions at hm ⊢
  split at hm
  · next d hrole =>
      obtain rfl := List.mem_singleton.mp hm
      exact ⟨rfl, _, hrole, hn⟩
  · next id k hrole =>
      obtain rfl := List.mem_singleton.mp hm
      exact ⟨rfl, _, hrole, hn⟩
  · obtain rfl := List.mem_singleton.mp hm
    cases hn
  · obtain rfl | hm := List.mem_cons.mp hm
    · cases hn
    · obtain rfl := List.mem_singleton.mp hm
      cases hn
  · cases hm

theorem position?_eq_lastWord {c : Scan} {raw : List Char} (hr : r.role = c.role raw)
    (hm : m ∈ r.mentions) (hn : m.position? = some n) :
    Syntax.positionNumber? (Text.lastWord (Text.trim raw)) = some n := by
  obtain ⟨-, form, hform, hposition⟩ := mentions_of_position? hm hn
  rw [hform, Scan.role] at hr
  split at hr
  · cases hr
  · obtain rfl := Role.form.inj hr
    exact Syntax.positionNumber?_of_read hposition

end Reader

namespace Diagram

theorem mem_requests_positions {d : Diagram} {item : Nat} {p : Participant} {n : Int}
    (hp : (d.groupedOrder[item]?.bind fun i => d.participants[i]?) = some p)
    (hn : p.position = some n) (count slot : Nat) :
    (slot, item) ∈ Order.requests count d.positions ↔ Order.slotOf count n = slot := by
  obtain ⟨i, hi, hp⟩ := Option.bind_eq_some_iff.mp hp
  have hposition : d.positions[item]? = some (some n) := by
    rw [positions, List.getElem?_map, hi, Option.map_some, hp, Option.bind_some, hn]
  rw [Order.mem_requests]
  constructor
  · rintro ⟨k, hk, hslot⟩
    obtain rfl : n = k := Option.some.inj (Option.some.inj (hposition.symm.trans hk))
    exact hslot
  · intro hslot
    exact ⟨n, hposition, hslot⟩

theorem exists_item {d : Diagram} {p : Participant} (hp : p ∈ d.participants) :
    ∃ item : Nat, (d.groupedOrder[item]?.bind fun i => d.participants[i]?) = some p := by
  obtain ⟨i, hi, rfl⟩ := List.getElem_of_mem hp
  have hmem : i ∈ d.groupedOrder := d.groupedOrder_perm.mem_iff.mpr (List.mem_range.mpr hi)
  obtain ⟨item, hitem, rfl⟩ := List.getElem_of_mem hmem
  refine ⟨item, ?_⟩
  rw [List.getElem?_eq_getElem hitem, Option.bind_some, List.getElem?_eq_getElem hi]

/-- **Positions of any size.** In a document with fewer than `2 ^ 63` participants, let the last
position of one of them be written with digits, perhaps behind a minus sign. The participant is then
stored with the position of 64 bits next to the number that is written, and the one slot it asks for
is that of the number itself: counted from the left, or from the right where the number is negative,
and brought into the range of the slots. To count a stored position from the right never leaves the
range of 64 bits. -/
theorem targets_read {text : List Char} {d : Diagram} {id : String} {z : Int}
    (h : empty.read text = (none, d)) (hcount : d.participants.length < 2 ^ 63)
    (hlast : LastPosition text id z) : ∃ p item n, p ∈ d.participants ∧ p.id = id ∧
      p.position = some n ∧ n = max leastPosition (min greatestPosition z) ∧
      (d.groupedOrder[item]?.bind fun i => d.participants[i]?) = some p ∧
      (∀ slot, (slot, item) ∈ Order.requests d.positions.length d.positions ↔
        (slot : Int) = max 0 (min ((d.participants.length : Int) - 1)
          (if 0 ≤ z then z else d.participants.length + z))) ∧
      (n < 0 → leastPosition ≤ d.participants.length + n ∧
        d.participants.length + n ≤ greatestPosition) := by
  obtain ⟨i, raw, r, hraw, hr, ⟨m, hm, rfl, hsome⟩, hlater, hz⟩ := hlast
  obtain ⟨n, hn⟩ := Option.isSome_iff_exists.mp hsome
  have hmentions := mentions_of_getElem? hr
  rw [(mentions_of_position? hm hn).1, List.singleton_append] at hmentions
  obtain ⟨p, hp, hid, hportrait⟩ := exists_portrait h (m := m) (by rw [hmentions]; simp)
  have hposition : p.position = some n := by
    rw [← hn]
    refine position_portrait (hmentions ▸ hportrait) hsome fun later hmem => ?_
    obtain ⟨s, hs, hmem⟩ := List.mem_flatMap.mp hmem
    exact hlater s hs later hmem
  have hstored : n = max leastPosition (min greatestPosition z) := by
    obtain ⟨c, hc⟩ := exists_of_rowsFrom hr hraw
    have hword := position?_eq_lastWord hc hm hn
    rw [Syntax.positionNumber?_of_denotes hz] at hword
    exact (Option.some.inj hword).symm
  obtain ⟨item, hitem⟩ := exists_item hp
  have hlen : d.positions.length = d.participants.length := by
    rw [positions, List.length_map, d.groupedOrder_perm.length_eq, List.length_range]
  refine ⟨p, item, n, hp, hid, hposition, hstored, hitem, fun slot => ?_, fun hneg => ?_⟩
  · rw [mem_requests_positions hitem hposition, hlen, hstored,
      ← Order.slotOf_saturated (List.length_pos_of_mem hp) hcount, Int.natCast_inj, eq_comm]
  · refine Order.add_mem_range hcount ?_ hneg
    rw [hstored]
    exact le_max_left _ _

/-- Positions beyond 64 bits at both ends, a minus zero, and a name that is declared twice. -/
def farPlaced : List Char :=
  "A is a service position 99999999999999999999\n".toList ++
    "B is a cache aka \"B position 1\" position -0\n".toList ++
    "C position -00000000000000000000000000000002\n".toList ++
    "A is a queue position 7\nA -> B: go\n".toList ++ "A POSITION -9223372036854775809".toList

theorem targets_read_farPlaced : ∃ d, empty.read farPlaced = (none, d) ∧
    d.participants.length < 2 ^ 63 ∧ LastPosition farPlaced "A" (-9223372036854775809) ∧
    d.participants.map Participant.position = [some leastPosition, some 0, some (-2)] ∧
    ∃ p item n, p ∈ d.participants ∧ p.id = "A" ∧ p.position = some n ∧
      n = max leastPosition (min greatestPosition (-9223372036854775809)) ∧
      (d.groupedOrder[item]?.bind fun i => d.participants[i]?) = some p ∧
      (∀ slot, (slot, item) ∈ Order.requests d.positions.length d.positions ↔
        (slot : Int) = max 0 (min ((d.participants.length : Int) - 1)
          (if 0 ≤ (-9223372036854775809 : Int) then -9223372036854775809
            else d.participants.length + -9223372036854775809))) ∧
      (n < 0 → leastPosition ≤ d.participants.length + n ∧
        d.participants.length + n ≤ greatestPosition) := by
  have htext : farPlaced = _ :=
    congrArg₂ _ (congrArg₂ _ (congrArg₂ _ (congrArg₂ _ String.toList_ofList String.toList_ofList)
      String.toList_ofList) String.toList_ofList) String.toList_ofList
  have hread : (empty.read farPlaced).1 = none ∧
      (empty.read farPlaced).2.participants.map Participant.position =
        [some leastPosition, some 0, some (-2)] ∧
      (Text.lines farPlaced)[5]? = some "A POSITION -9223372036854775809".toList ∧
      (rows farPlaced)[5]? = some ⟨6, 0, .form (.position ['A'] leastPosition)⟩ ∧
      ∀ s ∈ (rows farPlaced).drop 6, ∀ m ∈ s.mentions, m.name = "A" → m.position? = none := by
    rw [htext]
    decide +kernel
  obtain ⟨hnone, hpositions, hraw, hr, hlater⟩ := hread
  have h := read_of_fst empty farPlaced hnone
  have hcount : (empty.read farPlaced).2.participants.length < 2 ^ 63 := by
    rw [← List.length_map, hpositions]
    decide
  have hlast : LastPosition farPlaced "A" (-9223372036854775809) := by
    refine ⟨5, _, _, hraw, hr, ⟨⟨6, .places ['A'] leastPosition⟩, by decide, by decide, rfl⟩,
      hlater, "9223372036854775809".toList, by decide, List.all_eq_true.mp (by decide),
      Or.inr ⟨by decide, by decide⟩⟩
  exact ⟨_, h, hcount, hlast, hpositions, targets_read h hcount hlast⟩

end Diagram

end Lifeline
