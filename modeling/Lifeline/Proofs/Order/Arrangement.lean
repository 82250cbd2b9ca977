import Lifeline.Order.Participants
import Mathlib.Data.List.Nodup
import Mathlib.Data.List.Perm.Basic

/-! # Every item has a slot

Serving requests puts no two items into one slot and no item into two slots (`Seated`). The items
that are left are as many as the slots that are free, so filling these leaves no slot empty and no
item out: an arrangement holds every item once (`arrangement_perm`), and the participants of a
diagram from left to right are those that are registered (`Diagram.orderedParticipants_perm`). -/

namespace Lifeline.Order

/-- Slots and the items in them, all among the first `count`; no slot holds two items, and no item
is in two slots. -/
structure Seated (count : Nat) (taken : List (Nat × Nat)) : Prop where
  slots : (taken.map Prod.fst).Nodup
  items : (taken.map Prod.snd).Nodup
  slot_lt : ∀ t ∈ taken, t.1 < count
  item_lt : ∀ t ∈ taken, t.2 < count

/-- The item in a slot. -/
def itemIn? (taken : List (Nat × Nat)) (slot : Nat) : Option Nat :=
  (taken.find? fun t => t.1 = slot).map Prod.snd

section
variable {count : Nat} {taken : List (Nat × Nat)}

/-! ### Serving -/

theorem slotOf_lt (h : 0 < count) (position : Int) : slotOf count position < count := by
  unfold slotOf
  omega

theorem requests_lt {positions : List (Option Int)} {r : Nat × Nat}
    (hr : r ∈ requests positions.length positions) :
    r.1 < positions.length ∧ r.2 < positions.length := by
  obtain ⟨⟨p, item⟩, hp, hpr⟩ := List.mem_filterMap.mp hr
  obtain ⟨position, -, rfl⟩ := Option.map_eq_some_iff.mp hpr
  have hitem : item < positions.length := by simpa using List.snd_lt_of_mem_zipIdx hp
  exact ⟨slotOf_lt (Nat.zero_lt_of_lt hitem) position, hitem⟩

theorem nodup_requests (n : Nat) (positions : List (Option Int)) :
    ((requests n positions).map Prod.snd).Nodup := by
  have hsub : ((requests n positions).map Prod.snd).Sublist
      (positions.zipIdx.map Prod.snd) := by
    unfold requests
    generalize positions.zipIdx = ps
    induction ps with
    | nil => exact .slnil
    | cons p ps ih =>
        obtain ⟨p, item⟩ := p
        cases p with
        | none => exact .cons _ ih
        | some position => exact .cons_cons _ ih
  refine hsub.nodup ?_
  rw [List.zipIdx_map_snd]
  exact List.nodup_range'

theorem candidates_lt {target slot : Nat} (ht : target < count)
    (h : slot ∈ candidates count target) : slot < count := by
  simp only [candidates, List.mem_cons, List.mem_flatMap, List.mem_range, List.mem_append] at h
  rcases h with rfl | ⟨k, -, h | h⟩
  · exact ht
  · split at h
    · next hlt => exact List.mem_singleton.mp h ▸ hlt
    · simp at h
  · split at h
    · rw [List.mem_singleton.mp h]
      omega
    · simp at h

theorem freeSlot?_eq_some {target slot : Nat} (ht : target < count)
    (h : freeSlot? count taken target = some slot) : slot < count ∧ slot ∉ taken.map Prod.fst := by
  refine ⟨candidates_lt ht (List.mem_of_find?_eq_some h), ?_⟩
  have hfree := List.find?_some h
  simp only [ne_eq, List.all_eq_true, decide_not, Bool.not_eq_true', decide_eq_false_iff_not]
    at hfree
  intro hmem
  obtain ⟨t, htaken, hslot⟩ := List.mem_map.mp hmem
  exact hfree t htaken hslot

/-- Serving keeps the seats apart. -/
theorem Seated.serve {rest : List (Nat × Nat)} (h : Seated count taken)
    (hitems : ((rest ++ taken).map Prod.snd).Nodup)
    (hlt : ∀ r ∈ rest, r.1 < count ∧ r.2 < count) : Seated count (serve count taken rest) := by
  induction rest generalizing taken with
  | nil => exact h
  | cons r rest ih =>
      obtain ⟨target, item⟩ := r
      obtain ⟨⟨htarget, hitem⟩, hrest⟩ := List.forall_mem_cons.mp hlt
      rw [List.cons_append, List.map_cons, List.nodup_cons] at hitems
      obtain ⟨hnew, hitems⟩ := hitems
      rw [Order.serve]
      cases hslot : freeSlot? count taken target with
      | none => exact ih h hitems hrest
      | some slot =>
          obtain ⟨hslot_lt, hfree⟩ := freeSlot?_eq_some htarget hslot
          have hitem_new : item ∉ taken.map Prod.snd := fun hmem =>
            hnew (by rw [List.map_append]; exact List.mem_append_right _ hmem)
          refine ih ⟨?_, ?_, ?_, ?_⟩ ?_ hrest
          · exact List.nodup_cons.mpr ⟨hfree, h.slots⟩
          · exact List.nodup_cons.mpr ⟨hitem_new, h.items⟩
          · exact List.forall_mem_cons.mpr ⟨hslot_lt, h.slot_lt⟩
          · exact List.forall_mem_cons.mpr ⟨hitem, h.item_lt⟩
          · have hperm : ((rest ++ (slot, item) :: taken).map Prod.snd).Perm
                (item :: (rest ++ taken).map Prod.snd) := List.perm_middle.map Prod.snd
            exact hperm.nodup_iff.mpr (List.nodup_cons.mpr ⟨hnew, hitems⟩)

/-! ### Filling -/

theorem itemIn?_cons (slot item : Nat) (s : Nat) :
    itemIn? ((slot, item) :: taken) s = if slot = s then some item else itemIn? taken s := by
  unfold itemIn?
  by_cases h : slot = s <;> simp [h]

/-- As many slots are free as items are left, so every slot gets an item and every item a slot. -/
theorem fill_perm {slots others : List Nat}
    (h : slots.countP (fun s => (itemIn? taken s).isNone) = others.length) :
    (fill taken slots others).Perm (slots.filterMap (itemIn? taken) ++ others) := by
  induction slots generalizing others with
  | nil =>
      obtain rfl : others = [] := List.eq_nil_of_length_eq_zero h.symm
      exact .refl _
  | cons s slots ih =>
      cases hs : itemIn? taken s with
      | some item =>
          rw [List.countP_cons_of_neg (by simp [hs])] at h
          obtain ⟨t, ht, rfl⟩ := Option.map_eq_some_iff.mp hs
          simp only [fill, ht, List.filterMap_cons, hs, List.cons_append]
          exact (ih h).cons _
      | none =>
          rw [List.countP_cons_of_pos (by simp [hs])] at h
          have ht : taken.find? (fun t => t.1 = s) = none := Option.map_eq_none_iff.mp hs
          cases others with
          | nil => simp at h
          | cons item others =>
              simp only [fill, ht, List.filterMap_cons, hs]
              exact ((ih (by simpa using h)).cons item).trans List.perm_middle.symm

/-- Slot by slot one meets the items that have a slot. -/
theorem filterMap_itemIn?_perm {slots : List Nat} (hslots : slots.Nodup)
    (htaken : (taken.map Prod.fst).Nodup) (hmem : ∀ t ∈ taken, t.1 ∈ slots) :
    (slots.filterMap (itemIn? taken)).Perm (taken.map Prod.snd) := by
  induction taken generalizing slots with
  | nil =>
      have hnone : slots.filterMap (itemIn? []) = [] := List.filterMap_eq_nil_iff.mpr fun _ _ => rfl
      rw [hnone]
      exact .refl _
  | cons t taken ih =>
      obtain ⟨slot, item⟩ := t
      obtain ⟨hslot, htaken'⟩ := List.forall_mem_cons.mp hmem
      rw [List.map_cons, List.nodup_cons] at htaken
      obtain ⟨hnew, htaken⟩ := htaken
      -- take the slot out of the slots: in the others only the other items are found
      have hperm := (List.perm_cons_erase hslot).filterMap (itemIn? ((slot, item) :: taken))
      have hothers : (slots.erase slot).filterMap (itemIn? ((slot, item) :: taken)) =
          (slots.erase slot).filterMap (itemIn? taken) := by
        refine List.filterMap_congr fun s hs => ?_
        rw [itemIn?_cons, if_neg]
        rintro rfl
        exact (List.Nodup.not_mem_erase hslots) hs
      rw [List.filterMap_cons, itemIn?_cons, if_pos rfl, hothers] at hperm
      refine hperm.trans (.cons item (ih (hslots.erase slot) htaken ?_))
      intro u hu
      refine (List.mem_erase_of_ne ?_).mpr (htaken' u hu)
      have hmem : u.1 ∈ taken.map Prod.fst := List.mem_map_of_mem hu
      intro heq
      exact hnew (heq ▸ hmem)

/-- The items that are left are those that have no slot. -/
theorem Seated.others_perm (h : Seated count taken) :
    (taken.map Prod.snd ++
      (List.range count).filter fun item => taken.all fun t => t.2 ≠ item).Perm
        (List.range count) := by
  have hothers : ((List.range count).filter fun item => taken.all fun t => t.2 ≠ item) =
      (List.range count).filter fun item => !decide (item ∈ taken.map Prod.snd) := by
    refine List.filter_congr fun item _ => ?_
    rw [Bool.eq_iff_iff]
    simp only [List.all_eq_true, decide_eq_true_eq, Bool.not_eq_true', decide_eq_false_iff_not,
      List.mem_map, not_exists, not_and, ne_eq]
  have hitems : ((List.range count).filter fun item => decide (item ∈ taken.map Prod.snd)).Perm
      (taken.map Prod.snd) := by
    refine (List.perm_ext_iff_of_nodup (List.nodup_range.filter _) h.items).mpr fun item => ?_
    rw [List.mem_filter, List.mem_range, decide_eq_true_iff]
    refine and_iff_right_of_imp fun hmem => ?_
    obtain ⟨t, ht, rfl⟩ := List.mem_map.mp hmem
    exact h.item_lt t ht
  rw [hothers]
  exact (hitems.symm.append_right _).trans (List.filter_append_perm _ _)

theorem Seated.slots_perm (h : Seated count taken) :
    ((List.range count).filterMap (itemIn? taken)).Perm (taken.map Prod.snd) :=
  filterMap_itemIn?_perm List.nodup_range h.slots fun t ht => List.mem_range.mpr (h.slot_lt t ht)

theorem Seated.countP_free (h : Seated count taken) :
    (List.range count).countP (fun s => (itemIn? taken s).isNone) =
      ((List.range count).filter fun item => taken.all fun t => t.2 ≠ item).length := by
  have hslots := List.length_eq_countP_add_countP (fun s => (itemIn? taken s).isSome)
    (l := List.range count)
  rw [← List.length_filterMap_eq_countP, h.slots_perm.length_eq] at hslots
  have hitems := h.others_perm.length_eq
  rw [List.length_append] at hitems
  have hnone : (List.range count).countP (fun s => (itemIn? taken s).isNone) =
      (List.range count).countP fun s => decide ¬(itemIn? taken s).isSome = true :=
    List.countP_congr fun s _ => by simp
  omega

/-- The requests in the order in which they are served. -/
def queue (positions : List (Option Int)) : List (Nat × Nat) :=
  (requests positions.length positions).mergeSort requestLe

/-- The slots that have been given away, with their items, once all requests have been served. -/
def served (positions : List (Option Int)) : List (Nat × Nat) :=
  serve positions.length [] (queue positions)

/-- The items that ask for no slot, in their order. -/
def unserved (positions : List (Option Int)) : List Nat :=
  (List.range positions.length).filter fun item => (served positions).all fun t => t.2 ≠ item

theorem arrangement_eq (positions : List (Option Int)) : arrangement positions =
    fill (served positions) (List.range positions.length) (unserved positions) := rfl

theorem queue_perm (positions : List (Option Int)) :
    (queue positions).Perm (requests positions.length positions) :=
  List.mergeSort_perm _ _

theorem nodup_queue (positions : List (Option Int)) : ((queue positions).map Prod.snd).Nodup :=
  ((queue_perm positions).map Prod.snd).nodup_iff.mpr (nodup_requests _ _)

theorem queue_lt {positions : List (Option Int)} {r : Nat × Nat} (hr : r ∈ queue positions) :
    r.1 < positions.length ∧ r.2 < positions.length :=
  requests_lt ((queue_perm positions).mem_iff.mp hr)

theorem seated_served (positions : List (Option Int)) :
    Seated positions.length (served positions) := by
  refine Seated.serve ⟨by simp, by simp, by simp, by simp⟩ ?_ fun r hr => queue_lt hr
  rw [List.append_nil]
  exact nodup_queue positions

/-- An arrangement holds every item once. -/
theorem arrangement_perm (positions : List (Option Int)) :
    (arrangement positions).Perm (List.range positions.length) := by
  have hseated := seated_served positions
  exact (fill_perm hseated.countP_free).trans
    ((hseated.slots_perm.append_right _).trans hseated.others_perm)

end

theorem filterMap_getElem?_range {α : Type} (items : List α) :
    (List.range items.length).filterMap (fun i => items[i]?) = items := by
  induction items with
  | nil => rfl
  | cons a items ih =>
      rw [List.length_cons, List.range_succ_eq_map, List.filterMap_cons, List.filterMap_map]
      exact congrArg (a :: ·) ih

theorem arrange_perm {α : Type} {items : List α} {positions : List (Option Int)}
    (h : positions.length = items.length) : (arrange items positions).Perm items := by
  have hperm := (arrangement_perm positions).filterMap fun i => items[i]?
  rw [h, filterMap_getElem?_range] at hperm
  exact hperm

/-- First occurrences differ from one another and from what has been seen. -/
theorem firstOccurrences_spec {α : Type} [DecidableEq α] (seen l : List α) :
    (firstOccurrences seen l).Nodup ∧
      ∀ a, a ∈ firstOccurrences seen l ↔ a ∈ l ∧ a ∉ seen := by
  induction l generalizing seen with
  | nil => simp [firstOccurrences]
  | cons b l ih =>
      rw [firstOccurrences]
      by_cases hb : b ∈ seen
      · rw [if_pos hb]
        refine ⟨(ih seen).1, fun a => ?_⟩
        rw [(ih seen).2 a, List.mem_cons]
        refine ⟨fun h => ⟨Or.inr h.1, h.2⟩, ?_⟩
        rintro ⟨rfl | h, hseen⟩
        · exact absurd hb hseen
        · exact ⟨h, hseen⟩
      · rw [if_neg hb]
        obtain ⟨hnodup, hmem⟩ := ih (b :: seen)
        refine ⟨List.nodup_cons.mpr ⟨?_, hnodup⟩, fun a => ?_⟩
        · rw [hmem]
          simp
        · rw [List.mem_cons, List.mem_cons, hmem, List.mem_cons, not_or]
          by_cases hab : a = b
          · simp [hab, hb]
          · simp [hab]

theorem firstOccurrences_concat {α : Type} [DecidableEq α] (seen l : List α) (a : α) :
    firstOccurrences seen (l ++ [a]) =
      if a ∈ seen ∨ a ∈ l then firstOccurrences seen l else firstOccurrences seen l ++ [a] := by
  induction l generalizing seen with
  | nil =>
      by_cases ha : a ∈ seen
      · simp [firstOccurrences, ha]
      · simp [firstOccurrences, ha]
  | cons b l ih =>
      rw [List.cons_append, firstOccurrences, firstOccurrences]
      by_cases hb : b ∈ seen
      · rw [if_pos hb, if_pos hb, ih seen]
        have hiff : a ∈ seen ∨ a ∈ b :: l ↔ a ∈ seen ∨ a ∈ l := by
          rw [List.mem_cons]
          refine ⟨?_, fun h => h.imp_right Or.inr⟩
          rintro (h | rfl | h)
          · exact Or.inl h
          · exact Or.inl hb
          · exact Or.inr h
        simp only [hiff]
      · rw [if_neg hb, if_neg hb, ih (b :: seen)]
        have hiff : a ∈ seen ∨ a ∈ b :: l ↔ a ∈ b :: seen ∨ a ∈ l := by
          rw [List.mem_cons, List.mem_cons]
          tauto
        by_cases ha : a ∈ b :: seen ∨ a ∈ l
        · rw [if_pos ha, if_pos (hiff.mpr ha)]
        · rw [if_neg ha, if_neg (fun h => ha (hiff.mp h)), List.cons_append]

end Lifeline.Order

namespace Lifeline

open Lifeline.Order

variable (d : Diagram)

theorem Diagram.groupedOrder_perm : d.groupedOrder.Perm (List.range d.participants.length) := by
  unfold groupedOrder
  dsimp only
  obtain ⟨hnodup, hmem⟩ := firstOccurrences_spec []
    ((d.groups.flatMap fun g =>
      g.members.filterMap fun id => d.participants.findIdx? fun p => p.id == id) ++
        List.range d.participants.length)
  refine (List.perm_ext_iff_of_nodup hnodup List.nodup_range).mpr fun i => ?_
  rw [hmem, List.mem_append]
  simp only [List.not_mem_nil, not_false_eq_true, and_true, or_iff_right_iff_imp]
  intro hi
  obtain ⟨g, -, hg⟩ := List.mem_flatMap.mp hi
  obtain ⟨id, -, hid⟩ := List.mem_filterMap.mp hg
  exact List.mem_range.mpr (List.findIdx?_eq_some_iff_findIdx_eq.mp hid).1

theorem Diagram.order_perm : d.order.Perm (List.range d.participants.length) :=
  (arrange_perm (List.length_map _)).trans d.groupedOrder_perm

theorem Diagram.orderedParticipants_perm : d.orderedParticipants.Perm d.participants := by
  have hperm := d.order_perm.filterMap fun i => d.participants[i]?
  rwa [filterMap_getElem?_range] at hperm

end Lifeline
