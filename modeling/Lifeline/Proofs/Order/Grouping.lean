import Lifeline.Proofs.Diagram.Mentions
import Lifeline.Proofs.Order.Serving
import Lifeline.Proofs.Reader.Membership

/-! # Members side by side

Participants are put in order in two steps. First the members of groups are taken, group by group,
and then all others as they have been registered (`Diagram.ids_groupedParticipants`). Then those
that have a position are moved. Moving them leaves the others in the order of the first step
(`Diagram.filter_orderedParticipants`). -/

namespace Lifeline.Order

/-! ### First occurrences -/

section
variable {α β : Type} [DecidableEq α] [DecidableEq β]

theorem firstOccurrences_of_nodup {l : List α} (h : l.Nodup) (seen : List α) :
    firstOccurrences seen l = l.filter fun a => a ∉ seen := by
  induction l generalizing seen with
  | nil => rfl
  | cons a l ih =>
      obtain ⟨ha, hl⟩ := List.nodup_cons.mp h
      rw [firstOccurrences]
      by_cases hseen : a ∈ seen
      · rw [if_pos hseen, ih hl, List.filter_cons_of_neg (by simpa using hseen)]
      · rw [if_neg hseen, ih hl, List.filter_cons_of_pos (by simpa using hseen)]
        refine congrArg (a :: ·) (List.filter_congr fun b hb => ?_)
        have hne : b ≠ a := by
          rintro rfl
          exact ha hb
        simp [hne]

theorem firstOccurrences_append {behind : List α} (h : behind.Nodup) (seen front : List α) :
    firstOccurrences seen (front ++ behind) =
      firstOccurrences seen front ++ behind.filter fun a => a ∉ front ∧ a ∉ seen := by
  induction front generalizing seen with
  | nil => simp [firstOccurrences_of_nodup h, firstOccurrences]
  | cons b front ih =>
      rw [List.cons_append, firstOccurrences, firstOccurrences]
      by_cases hb : b ∈ seen
      · rw [if_pos hb, if_pos hb, ih]
        refine congrArg (firstOccurrences seen front ++ ·) (List.filter_congr fun a _ => ?_)
        rw [decide_eq_decide, List.mem_cons]
        constructor
        · rintro ⟨hfront, hseen⟩
          exact ⟨by rintro (rfl | hmem) <;> contradiction, hseen⟩
        · rintro ⟨hfront, hseen⟩
          exact ⟨fun hmem => hfront (Or.inr hmem), hseen⟩
      · rw [if_neg hb, if_neg hb, ih, List.cons_append]
        refine congrArg (b :: firstOccurrences (b :: seen) front ++ ·)
          (List.filter_congr fun a _ => ?_)
        simp only [List.mem_cons, not_or, decide_eq_decide]
        tauto

/-- Entries may be renamed, if different ones get different names. -/
theorem firstOccurrences_filterMap {f : β → Option α}
    (hf : ∀ a b c, f a = some c → f b = some c → a = b) (seen l : List β) :
    firstOccurrences (seen.filterMap f) (l.filterMap f) =
      (firstOccurrences seen l).filterMap f := by
  induction l generalizing seen with
  | nil => rfl
  | cons b l ih =>
      rw [firstOccurrences]
      cases hb : f b with
      | none =>
          rw [List.filterMap_cons_none hb]
          split
          · exact ih seen
          · rw [List.filterMap_cons_none hb, ← ih, List.filterMap_cons_none hb]
      | some a =>
          have hmem : a ∈ seen.filterMap f ↔ b ∈ seen := by
            rw [List.mem_filterMap]
            constructor
            · rintro ⟨c, hc, hca⟩
              exact hf c b a hca hb ▸ hc
            · exact fun hseen => ⟨b, hseen, hb⟩
          rw [List.filterMap_cons_some hb, firstOccurrences]
          by_cases hseen : b ∈ seen
          · rw [if_pos hseen, if_pos (hmem.mpr hseen)]
            exact ih seen
          · rw [if_neg hseen, if_neg (mt hmem.mp hseen), List.filterMap_cons_some hb, ← ih,
              List.filterMap_cons_some hb]

end

/-! ### Who is not moved -/

section
variable {α β : Type}

theorem filter_filterMap_eq {f : β → Option α} {p : α → Bool} {q : β → Bool}
    (h : ∀ b a, f b = some a → p a = q b) (l : List β) :
    (l.filterMap f).filter p = (l.filter q).filterMap f := by
  rw [List.filter_filterMap, List.filterMap_filter]
  refine List.filterMap_congr fun b _ => ?_
  cases hb : f b with
  | none => simp
  | some a => simp [Option.filter, h b a hb]

theorem unserved_eq (positions : List (Option Int)) : unserved positions =
    (List.range positions.length).filter fun i => positions[i]? = some none := by
  refine List.filter_congr fun item hitem => ?_
  have hserved : ((served positions).all fun t => t.2 ≠ item) = true ↔
      item ∉ (served positions).map Prod.snd := by
    simp only [List.all_eq_true, decide_eq_true_eq, List.mem_map, not_exists, not_and, ne_eq]
  have hlt := List.mem_range.mp hitem
  have hposition := List.getElem?_eq_getElem hlt
  rw [Bool.eq_iff_iff, hserved, mem_items_served, decide_eq_true_iff, hposition]
  cases positions[item] <;> simp

theorem filter_arrange {items : List α} {positions : List (Option Int)} {p : α → Bool}
    (hlen : positions.length = items.length)
    (hp : ∀ (i : Nat) (a : α), items[i]? = some a → p a = decide (positions[i]? = some none)) :
    (arrange items positions).filter p = items.filter p := by
  have hitems := filter_filterMap_eq hp (List.range items.length)
  rw [filterMap_getElem?_range] at hitems
  rw [arrange, filter_filterMap_eq hp, filter_arrangement, unserved_eq, hlen, hitems]

end

end Lifeline.Order

namespace Lifeline.Diagram

open Lifeline.Order

variable {d : Diagram}

/-- The participants as they stand before those with a position are moved. -/
def groupedParticipants (d : Diagram) : List Participant :=
  d.groupedOrder.filterMap fun i => d.participants[i]?

theorem groupedParticipants_perm (d : Diagram) : d.groupedParticipants.Perm d.participants := by
  have hperm := d.groupedOrder_perm.filterMap fun i => d.participants[i]?
  rwa [filterMap_getElem?_range] at hperm

/-- **Who has no position is not moved.** -/
theorem filter_orderedParticipants (d : Diagram) :
    d.orderedParticipants.filter (fun p => p.position.isNone) =
      d.groupedParticipants.filter fun p => p.position.isNone := by
  have hchoose : ∀ l : List Nat,
      (l.filterMap fun i => d.participants[i]?).filter (fun p => p.position.isNone) =
        (l.filter fun i => (d.participants[i]?).any fun p => p.position.isNone).filterMap
          fun i => d.participants[i]? := by
    refine filter_filterMap_eq fun i p hp => ?_
    rw [hp]
    rfl
  rw [orderedParticipants, groupedParticipants, hchoose, hchoose]
  refine congrArg (List.filterMap _) (filter_arrange (List.length_map _) fun i j hj => ?_)
  have hlt : j < d.participants.length :=
    List.mem_range.mp (d.groupedOrder_perm.mem_iff.mp (List.mem_of_getElem? hj))
  rw [List.getElem?_map, hj, Option.map_some, List.getElem?_eq_getElem hlt, Option.bind_some,
    Option.any_some]
  cases (d.participants[j]).position <;> simp

theorem findIdx?_bind_getElem? {id : String} (h : id ∈ d.ids) :
    ((d.participants.findIdx? fun p => p.id == id).bind fun i => d.ids[i]?) = some id := by
  obtain ⟨p, hp, hid⟩ := List.mem_map.mp h
  cases hfound : d.participants.findIdx? fun p => p.id == id with
  | none =>
      have := List.findIdx?_eq_none_iff.mp hfound p hp
      simp [hid] at this
  | some i =>
      obtain ⟨hi, hname, -⟩ := List.findIdx?_eq_some_iff_getElem.mp hfound
      rw [Option.bind_some, ids, List.getElem?_map, List.getElem?_eq_getElem hi, Option.map_some,
        beq_iff_eq.mp hname]

/-- The names of all participants, those of members first. -/
def groupedNames (d : Diagram) : List String :=
  d.members ++ d.ids.filter fun id => id ∉ d.members

/-- **Members come first**, group by group, and then all others as they have been registered. -/
theorem ids_groupedParticipants (hids : d.ids.Nodup) (hmembers : d.members.Nodup)
    (hregistered : d.members ⊆ d.ids) :
    d.groupedParticipants.map Participant.id = d.groupedNames := by
  have hlookup : d.groupedParticipants.map Participant.id =
      d.groupedOrder.filterMap fun i => d.ids[i]? := by
    rw [groupedParticipants, List.map_filterMap]
    refine List.filterMap_congr fun i _ => ?_
    rw [ids, List.getElem?_map]
  have hinj : ∀ (i j : Nat) (id : String), d.ids[i]? = some id → d.ids[j]? = some id → i = j := by
    intro i j id hi hj
    exact (List.getElem?_inj (List.getElem?_eq_some_iff.mp hi).1 hids).mp (hi.trans hj.symm)
  have hfound : (d.members.filterMap fun id =>
      d.participants.findIdx? fun p => p.id == id).filterMap (fun i => d.ids[i]?) = d.members := by
    rw [List.filterMap_filterMap]
    refine (List.filterMap_congr fun id hid => findIdx?_bind_getElem? (hregistered hid)).trans ?_
    exact List.filterMap_some
  have hrange : (List.range d.participants.length).filterMap (fun i => d.ids[i]?) = d.ids := by
    rw [← List.length_map Participant.id]
    exact filterMap_getElem?_range d.ids
  have hfirst := firstOccurrences_filterMap hinj [] ((d.members.filterMap fun id =>
    d.participants.findIdx? fun p => p.id == id) ++ List.range d.participants.length)
  rw [List.filterMap_append, hfound, hrange, List.filterMap_nil, firstOccurrences_append hids,
    firstOccurrences_of_nodup hmembers] at hfirst
  rw [hlookup, groupedOrder, groupedNames]
  unfold members at hfirst ⊢
  rw [List.filterMap_flatMap] at hfirst
  rw [← hfirst]
  simp

end Lifeline.Diagram
