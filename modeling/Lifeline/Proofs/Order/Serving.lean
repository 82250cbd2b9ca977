import Lifeline.Proofs.Order.Arrangement

/-! # Who gets which slot

Around the slot that an item asks for, places are tried outward: the slot itself, its right
neighbour, its left one, and so on (`outward`). The item gets the first place that is a slot and has
not been given away before (`freeSlot?_spec`), and some slot is always left (`exists_freeSlot?`). So
every item that asks for a slot is served, in the order of the slots asked for, and keeps what it
gets; the others stand in the remaining slots in their own order (`arrange_served`). -/

namespace Lifeline.Order

/-- The places tried for the slot `target`, in their order; they may lie beyond the slots. -/
def outward (target k : Nat) : Int :=
  if k % 2 = 1 then (target : Int) + (k / 2 + 1 : Nat) else (target : Int) - (k / 2 : Nat)

/-- The slot at a place, if there is one. -/
def slotAt? (count : Nat) (place : Int) : Option Nat :=
  if 0 ≤ place ∧ place < count then some place.toNat else none

/-- The item asks for a slot further left than the other one, or for the same slot as the other one,
which comes behind it. -/
def ServedBefore (positions : List (Option Int)) (item other : Nat) : Prop :=
  ∃ p q, positions[item]? = some (some p) ∧ positions[other]? = some (some q) ∧
    (slotOf positions.length p < slotOf positions.length q ∨
      slotOf positions.length p = slotOf positions.length q ∧ item < other)

/-! ### Places -/

section
variable {count target slot : Nat} {taken rest : List (Nat × Nat)}

theorem slotAt?_eq_some_iff {place : Int} :
    slotAt? count place = some slot ↔ place = slot ∧ slot < count := by
  unfold slotAt?
  split
  · rw [Option.some.injEq]
    omega
  · simp only [reduceCtorEq, false_iff]
    omega

theorem outward_zero (target : Nat) : outward target 0 = target := by simp [outward]

theorem outward_right (target k : Nat) : outward target (2 * k + 1) = target + (k + 1 : Nat) := by
  unfold outward
  rw [if_pos (by omega)]
  omega

theorem outward_left (target k : Nat) : outward target (2 * k + 2) = target - (k + 1 : Nat) := by
  unfold outward
  rw [if_neg (by omega)]
  omega

/-- Behind the first place, places come in pairs. -/
theorem filterMap_outward (f : Nat → Option Nat) (m : Nat) :
    (List.range (2 * m + 1)).filterMap f =
      (f 0).toList ++ (List.range m).flatMap fun k =>
        (f (2 * k + 1)).toList ++ (f (2 * k + 2)).toList := by
  induction m with
  | zero => cases h : f 0 <;> simp [h]
  | succ m ih =>
      have hrange : List.range (2 * (m + 1) + 1) =
          List.range (2 * m + 1) ++ [2 * m + 1, 2 * m + 2] := by
        rw [show 2 * (m + 1) + 1 = 2 * m + 1 + 1 + 1 by omega, List.range_succ, List.range_succ,
          List.append_assoc]
        rfl
      have hpair : [2 * m + 1, 2 * m + 2].filterMap f =
          (f (2 * m + 1)).toList ++ (f (2 * m + 2)).toList := by
        cases h₁ : f (2 * m + 1) <;> cases h₂ : f (2 * m + 2) <;> simp [h₁, h₂]
      rw [hrange, List.filterMap_append, ih, hpair, List.range_succ, List.flatMap_append,
        List.append_assoc, List.flatMap_singleton]

/-- The slots that are tried are those at the places, in the order of the places. -/
theorem candidates_eq (h : target < count) : candidates count target =
    (List.range (2 * count + 1)).filterMap fun k => slotAt? count (outward target k) := by
  have hfirst : slotAt? count (outward target 0) = some target :=
    slotAt?_eq_some_iff.mpr ⟨outward_zero target, h⟩
  have hright : ∀ k, (slotAt? count (outward target (2 * k + 1))).toList =
      if target + (k + 1) < count then [target + (k + 1)] else [] := by
    intro k
    rw [outward_right, slotAt?]
    split
    · next hin => rw [if_pos (by omega)]; rfl
    · next hout => rw [if_neg (by omega)]; rfl
  have hleft : ∀ k, (slotAt? count (outward target (2 * k + 2))).toList =
      if k + 1 ≤ target then [target - (k + 1)] else [] := by
    intro k
    rw [outward_left, slotAt?]
    split
    · next hin =>
        rw [if_pos (by omega), Option.toList_some]
        congr 1
        omega
    · next hout => rw [if_neg (by omega)]; rfl
  rw [filterMap_outward, hfirst, candidates, Option.toList_some, List.singleton_append]
  simp only [hright, hleft]

theorem mem_candidates (ht : target < count) (h : slot < count) :
    slot ∈ candidates count target := by
  simp only [candidates, List.mem_cons, List.mem_flatMap, List.mem_range, List.mem_append]
  rcases Nat.lt_trichotomy slot target with hlt | heq | hgt
  · refine Or.inr ⟨target - slot - 1, by omega, Or.inr ?_⟩
    rw [if_pos (by omega), List.mem_singleton]
    omega
  · exact Or.inl heq
  · refine Or.inr ⟨slot - target - 1, by omega, Or.inl ?_⟩
    rw [if_pos (by omega), List.mem_singleton]
    omega

/-! ### The slot that an item gets -/

theorem all_ne_iff : (taken.all fun t => t.1 ≠ slot) = true ↔ slot ∉ taken.map Prod.fst := by
  simp only [List.all_eq_true, decide_eq_true_eq, List.mem_map, not_exists, not_and, ne_eq]

/-- The slot that is found is the first one, on the way outward, that has not been given away. -/
theorem freeSlot?_spec (ht : target < count) (h : freeSlot? count taken target = some slot) :
    ∃ k, outward target k = slot ∧ ∀ j < k, ∀ s : Nat, outward target j = s → s < count →
      s ∈ taken.map Prod.fst := by
  rw [freeSlot?, candidates_eq ht, List.find?_filterMap] at h
  obtain ⟨k, hfind, hslot⟩ := Option.bind_eq_some_iff.mp h
  obtain ⟨-, -, hearlier⟩ := List.find?_range_eq_some.mp hfind
  refine ⟨k, (slotAt?_eq_some_iff.mp hslot).1, fun j hj s hs hlt => ?_⟩
  have hnot := hearlier j hj
  rw [slotAt?_eq_some_iff.mpr ⟨hs, hlt⟩, Option.any_some, Bool.not_eq_true', ← Bool.not_eq_true,
    all_ne_iff, not_not] at hnot
  exact hnot

theorem exists_freeSlot? (ht : target < count) (hlen : taken.length < count) :
    ∃ slot, freeSlot? count taken target = some slot := by
  -- otherwise every slot is among those that have been given away, which are too few
  by_contra hnone
  have hall : List.range count ⊆ taken.map Prod.fst := by
    intro s hs
    by_contra hfree
    refine hnone (Option.isSome_iff_exists.mp (List.find?_isSome.mpr ⟨s, ?_, ?_⟩))
    · exact mem_candidates ht (List.mem_range.mp hs)
    · exact all_ne_iff.mpr hfree
  have hle := (List.subperm_of_subset List.nodup_range hall).length_le
  rw [List.length_range, List.length_map] at hle
  omega

theorem length_lt_of_nodup (item : Nat) (hitems : (item :: taken.map Prod.snd).Nodup)
    (hitem : item < count) (htaken : ∀ t ∈ taken, t.2 < count) : taken.length < count := by
  have hbelow : item :: taken.map Prod.snd ⊆ List.range count := by
    refine List.cons_subset.mpr ⟨List.mem_range.mpr hitem, fun i hi => ?_⟩
    obtain ⟨t, ht, rfl⟩ := List.mem_map.mp hi
    exact List.mem_range.mpr (htaken t ht)
  have hle := (List.subperm_of_subset hitems hbelow).length_le
  rw [List.length_cons, List.length_map, List.length_range] at hle
  exact hle

/-! ### Serving -/

theorem serve_append (count : Nat) (taken before rest : List (Nat × Nat)) :
    serve count taken (before ++ rest) = serve count (serve count taken before) rest := by
  induction before generalizing taken with
  | nil => rfl
  | cons r before ih =>
      rw [List.cons_append, serve, serve]
      split
      · exact ih _
      · exact ih _

theorem subset_serve (count : Nat) (taken rest : List (Nat × Nat)) :
    taken ⊆ serve count taken rest := by
  induction rest generalizing taken with
  | nil => exact List.Subset.refl _
  | cons r rest ih =>
      rw [serve]
      split
      · exact List.Subset.trans (List.subset_cons_self _ _) (ih _)
      · exact ih _

/-- Every request is served. -/
theorem items_serve (hitems : ((rest ++ taken).map Prod.snd).Nodup)
    (htaken : ∀ t ∈ taken, t.2 < count) (hlt : ∀ r ∈ rest, r.1 < count ∧ r.2 < count) :
    ((serve count taken rest).map Prod.snd).Perm ((rest ++ taken).map Prod.snd) := by
  induction rest generalizing taken with
  | nil => exact .refl _
  | cons r rest ih =>
      obtain ⟨target, item⟩ := r
      obtain ⟨⟨htarget, hitem⟩, hrest⟩ := List.forall_mem_cons.mp hlt
      have hnodup : (item :: taken.map Prod.snd).Nodup := by
        refine hitems.sublist ?_
        rw [List.cons_append, List.map_cons, List.map_append]
        exact (List.sublist_append_right _ _).cons_cons item
      have hroom := length_lt_of_nodup item hnodup hitem htaken
      obtain ⟨slot, hslot⟩ := exists_freeSlot? htarget hroom
      have hmiddle : ((rest ++ (slot, item) :: taken).map Prod.snd).Perm
          (((target, item) :: rest ++ taken).map Prod.snd) := List.perm_middle.map Prod.snd
      rw [serve, hslot]
      refine (ih (hmiddle.nodup_iff.mpr hitems) ?_ hrest).trans hmiddle
      exact List.forall_mem_cons.mpr ⟨hitem, htaken⟩

/-! ### Filling -/

theorem getElem?_fill {slots others : List Nat} {i item : Nat}
    (h : slots.countP (fun s => (itemIn? taken s).isNone) ≤ others.length)
    (hi : slots[i]? = some slot) (hitem : itemIn? taken slot = some item) :
    (fill taken slots others)[i]? = some item := by
  induction slots generalizing others i with
  | nil => simp at hi
  | cons s slots ih =>
      cases hs : itemIn? taken s with
      | some first =>
          rw [List.countP_cons_of_neg (by simp [hs])] at h
          obtain ⟨t, ht, rfl⟩ := Option.map_eq_some_iff.mp hs
          simp only [fill, ht]
          cases i with
          | zero =>
              obtain rfl : s = slot := Option.some.inj hi
              exact hs.symm.trans hitem
          | succ i => exact ih h hi
      | none =>
          rw [List.countP_cons_of_pos (by simp [hs])] at h
          have ht : taken.find? (fun t => t.1 = s) = none := Option.map_eq_none_iff.mp hs
          cases others with
          | nil => simp at h
          | cons first others =>
              simp only [fill, ht]
              cases i with
              | zero =>
                  obtain rfl : s = slot := Option.some.inj hi
                  rw [hs] at hitem
                  cases hitem
              | succ i => exact ih (Nat.le_of_succ_le_succ h) hi

theorem filter_fill {slots others : List Nat} (p : Nat → Bool)
    (h : slots.countP (fun s => (itemIn? taken s).isNone) = others.length)
    (htaken : ∀ t ∈ taken, p t.2 = false) (hothers : ∀ item ∈ others, p item = true) :
    (fill taken slots others).filter p = others := by
  induction slots generalizing others with
  | nil =>
      obtain rfl : others = [] := List.eq_nil_of_length_eq_zero h.symm
      rfl
  | cons s slots ih =>
      cases hs : itemIn? taken s with
      | some item =>
          rw [List.countP_cons_of_neg (by simp [hs])] at h
          obtain ⟨t, ht, rfl⟩ := Option.map_eq_some_iff.mp hs
          have hskip : ¬p t.2 = true := by simp [htaken t (List.mem_of_find?_eq_some ht)]
          simp only [fill, ht]
          rw [List.filter_cons_of_neg hskip]
          exact ih h hothers
      | none =>
          rw [List.countP_cons_of_pos (by simp [hs])] at h
          have ht : taken.find? (fun t => t.1 = s) = none := Option.map_eq_none_iff.mp hs
          cases others with
          | nil => simp at h
          | cons item others =>
              obtain ⟨hitem, hothers⟩ := List.forall_mem_cons.mp hothers
              simp only [fill, ht]
              rw [List.filter_cons_of_pos hitem, ih (Nat.succ.inj h) hothers]

theorem Seated.itemIn?_eq_some_iff (h : Seated count taken) {item : Nat} :
    itemIn? taken slot = some item ↔ (slot, item) ∈ taken := by
  constructor
  · intro hitem
    obtain ⟨t, ht, rfl⟩ := Option.map_eq_some_iff.mp hitem
    obtain rfl : t.1 = slot := by simpa using List.find?_some ht
    exact List.mem_of_find?_eq_some ht
  · intro hmem
    unfold itemIn?
    cases hfind : taken.find? fun t => t.1 = slot with
    | none => simpa using List.find?_eq_none.mp hfind _ hmem
    | some t =>
        have ht := List.mem_of_find?_eq_some hfind
        have hslot : t.1 = slot := by simpa using List.find?_some hfind
        rw [Option.map_some, List.inj_on_of_nodup_map h.slots ht hmem hslot]

end

/-! ### All requests -/

section
variable {positions : List (Option Int)}

theorem mem_requests {count : Nat} {r : Nat × Nat} : r ∈ requests count positions ↔
    ∃ p, positions[r.2]? = some (some p) ∧ slotOf count p = r.1 := by
  obtain ⟨target, item⟩ := r
  rw [requests, List.mem_filterMap]
  constructor
  · rintro ⟨⟨p, i⟩, hp, hr⟩
    obtain ⟨q, rfl, hq⟩ := Option.map_eq_some_iff.mp hr
    obtain ⟨rfl, rfl⟩ := Prod.mk.inj hq
    exact ⟨q, List.mem_zipIdx_iff_getElem?.mp hp, rfl⟩
  · rintro ⟨p, hp, rfl⟩
    exact ⟨(some p, item), List.mem_zipIdx_iff_getElem?.mpr hp, rfl⟩

theorem mem_queue {r : Nat × Nat} : r ∈ queue positions ↔
    ∃ p, positions[r.2]? = some (some p) ∧ slotOf positions.length p = r.1 :=
  (queue_perm positions).mem_iff.trans mem_requests

theorem pairwise_queue (positions : List (Option Int)) :
    (queue positions).Pairwise fun r q => r.1 < q.1 ∨ r.1 = q.1 ∧ r.2 < q.2 := by
  have hle : (queue positions).Pairwise fun r q => requestLe r q = true := by
    refine List.pairwise_mergeSort ?_ ?_ _
    · simp only [requestLe, Bool.or_eq_true, Bool.and_eq_true, decide_eq_true_eq, beq_iff_eq]
      omega
    · simp only [requestLe, Bool.or_eq_true, Bool.and_eq_true, decide_eq_true_eq, beq_iff_eq]
      omega
  have hne : (queue positions).Pairwise fun r q => r.2 ≠ q.2 :=
    List.pairwise_map.mp (nodup_queue positions)
  refine (hle.and hne).imp ?_
  rintro r q ⟨hrq, hne⟩
  simp only [requestLe, Bool.or_eq_true, Bool.and_eq_true, decide_eq_true_eq, beq_iff_eq] at hrq
  omega

theorem items_serve_queue {before rest : List (Nat × Nat)} (h : queue positions = before ++ rest) :
    ((serve positions.length [] before).map Prod.snd).Perm (before.map Prod.snd) := by
  have hnodup := nodup_queue positions
  rw [h, List.map_append] at hnodup
  have hbefore : ∀ r ∈ before, r.1 < positions.length ∧ r.2 < positions.length := by
    intro r hr
    refine queue_lt ?_
    rw [h]
    exact List.mem_append_left _ hr
  have hperm := items_serve (by rw [List.append_nil]; exact hnodup.of_append_left)
    (fun t ht => absurd ht List.not_mem_nil) hbefore
  rwa [List.append_nil] at hperm

theorem mem_items_served {item : Nat} : item ∈ (served positions).map Prod.snd ↔
    ∃ p, positions[item]? = some (some p) := by
  rw [served, (items_serve_queue (List.append_nil _).symm).mem_iff, List.mem_map]
  constructor
  · rintro ⟨r, hr, rfl⟩
    obtain ⟨p, hp, -⟩ := mem_queue.mp hr
    exact ⟨p, hp⟩
  · rintro ⟨p, hp⟩
    exact ⟨(slotOf positions.length p, item), mem_queue.mpr ⟨p, hp, rfl⟩, rfl⟩

theorem getElem?_arrangement {slot item : Nat} (h : (slot, item) ∈ served positions) :
    (arrangement positions)[slot]? = some item := by
  have hseated := seated_served positions
  rw [arrangement_eq]
  refine getElem?_fill (Nat.le_of_eq hseated.countP_free) ?_ (hseated.itemIn?_eq_some_iff.mpr h)
  exact List.getElem?_range (hseated.slot_lt _ h)

theorem filter_arrangement (positions : List (Option Int)) :
    ((arrangement positions).filter fun i => positions[i]? = some none) = unserved positions := by
  rw [arrangement_eq]
  refine filter_fill _ (seated_served positions).countP_free ?_ ?_
  · intro t ht
    obtain ⟨p, hp⟩ := mem_items_served.mp (List.mem_map_of_mem ht)
    simp [hp]
  · intro item hitem
    obtain ⟨hlt, hnone⟩ := List.mem_filter.mp hitem
    have hnot : item ∉ (served positions).map Prod.snd := by
      rintro hmem
      obtain ⟨t, ht, rfl⟩ := List.mem_map.mp hmem
      simpa using List.all_eq_true.mp hnone t ht
    rw [mem_items_served, not_exists] at hnot
    obtain ⟨position, hposition⟩ : ∃ position, positions[item]? = some position :=
      ⟨_, List.getElem?_eq_getElem (List.mem_range.mp hlt)⟩
    cases position with
    | none => simp [hposition]
    | some p => exact absurd hposition (hnot p)

/-- An item that asks for a slot stands at the first place, on the way outward from that slot, at
which no item stands that is served before. -/
theorem exists_seat {item : Nat} {p : Int} (h : positions[item]? = some (some p)) :
    ∃ slot k : Nat, (arrangement positions)[slot]? = some item ∧
      outward (slotOf positions.length p) k = slot ∧
      ∀ l < k, ∀ s : Nat, outward (slotOf positions.length p) l = s → s < positions.length →
        ∃ other, (arrangement positions)[s]? = some other ∧ ServedBefore positions other item := by
  have hmem : (slotOf positions.length p, item) ∈ queue positions := mem_queue.mpr ⟨p, h, rfl⟩
  obtain ⟨before, after, hqueue⟩ := List.append_of_mem hmem
  obtain ⟨htarget, hitem⟩ := queue_lt hmem
  have hitems := items_serve_queue hqueue
  have hserved : served positions = serve positions.length (serve positions.length [] before)
      ((slotOf positions.length p, item) :: after) := by
    rw [served, hqueue, serve_append]
  have hroom : (serve positions.length [] before).length < positions.length := by
    refine length_lt_of_nodup item ?_ hitem fun t ht => ?_
    · have hnodup := nodup_queue positions
      rw [hqueue, List.map_append, List.map_cons, List.nodup_middle] at hnodup
      refine (hitems.cons item).nodup_iff.mpr (hnodup.sublist ?_)
      exact (List.sublist_append_left _ _).cons_cons item
    · refine (seated_served positions).item_lt t ?_
      rw [hserved]
      exact subset_serve _ _ _ ht
  obtain ⟨slot, hslot⟩ := exists_freeSlot? htarget hroom
  obtain ⟨k, hplace, hearlier⟩ := freeSlot?_spec htarget hslot
  refine ⟨slot, k, getElem?_arrangement ?_, hplace, fun l hl s hs hlt => ?_⟩
  · rw [hserved, serve, hslot]
    exact subset_serve _ _ _ List.mem_cons_self
  · obtain ⟨t, ht, rfl⟩ := List.mem_map.mp (hearlier l hl s hs hlt)
    refine ⟨t.2, getElem?_arrangement ?_, ?_⟩
    · rw [hserved]
      exact subset_serve _ _ _ ht
    · obtain ⟨r, hr, hrt⟩ := List.mem_map.mp (hitems.mem_iff.mp (List.mem_map_of_mem ht))
      obtain ⟨q, hq, hslotq⟩ := mem_queue.mp (hqueue ▸ List.mem_append_left _ hr)
      have hpairwise := pairwise_queue positions
      rw [hqueue, List.pairwise_append] at hpairwise
      have horder := hpairwise.2.2 r hr _ List.mem_cons_self
      rw [← hslotq, hrt] at horder
      exact ⟨q, p, hrt ▸ hq, h, horder⟩

/-- The slot that a position asks for: the position, counted from the right if it is negative,
brought into the range of the slots. -/
theorem coe_slotOf {count : Nat} (h : 0 < count) (p : Int) : (slotOf count p : Int) =
    max 0 (min ((count : Int) - 1) (if p < 0 then p + count else p)) := by
  unfold slotOf
  split <;> omega

/-- Where no two items ask for one slot, every item gets what it asks for. -/
theorem getElem?_slotOf (hdistinct : ∀ (i j : Nat) (p q : Int), positions[i]? = some (some p) →
      positions[j]? = some (some q) → slotOf positions.length p = slotOf positions.length q → i = j)
    {item : Nat} {p : Int} (h : positions[item]? = some (some p)) :
    (arrangement positions)[slotOf positions.length p]? = some item := by
  induction htarget : slotOf positions.length p using Nat.strongRecOn generalizing item p with
  | _ target ih =>
      subst htarget
      obtain ⟨slot, k, hslot, hplace, hearlier⟩ := exists_seat h
      cases k with
      | zero =>
          rw [outward_zero, Int.natCast_inj] at hplace
          rw [hplace]
          exact hslot
      | succ k =>
          -- the item in that slot asks for one further left, which it would have got
          have hmem : (slotOf positions.length p, item) ∈ queue positions :=
            mem_queue.mpr ⟨p, h, rfl⟩
          obtain ⟨other, hother, q, r, hq, hr, horder⟩ :=
            hearlier 0 k.succ_pos _ (outward_zero _) (queue_lt hmem).1
          obtain rfl : r = p := Option.some.inj (Option.some.inj (hr.symm.trans h))
          have hleft : slotOf positions.length q < slotOf positions.length r := by
            rcases horder with hleft | ⟨hsame, hbehind⟩
            · exact hleft
            · exact absurd (hdistinct other item q r hq hr hsame) (Nat.ne_of_lt hbehind)
          have hnodup := (arrangement_perm positions).nodup_iff.mpr List.nodup_range
          have heq := (List.getElem?_inj (List.getElem?_eq_some_iff.mp hother).1 hnodup).mp
            (hother.trans (ih _ hleft hq rfl).symm)
          omega

end

theorem getElem?_filterMap {α β : Type} {f : α → Option β} {l : List α}
    (h : ∀ a ∈ l, (f a).isSome = true) (i : Nat) : (l.filterMap f)[i]? = l[i]?.bind f := by
  induction l generalizing i with
  | nil => simp
  | cons a l ih =>
      obtain ⟨ha, hl⟩ := List.forall_mem_cons.mp h
      obtain ⟨b, hb⟩ := Option.isSome_iff_exists.mp ha
      rw [List.filterMap_cons_some hb]
      cases i with
      | zero => simp [hb]
      | succ i => exact ih hl i

/-- **Who stands where.** Arranging moves the items: each of them stands in one slot. Those that ask
for no slot keep their order. The others are served by the slots they ask for, from left to right,
and by their order among equals; each stands at the first place, on the way outward from its slot,
at which nobody stands who is served before. So none is left out, and where no two of them ask for
one slot, everyone stands in the slot asked for. -/
theorem arrange_served {α : Type} {items : List α} {positions : List (Option Int)}
    (h : positions.length = items.length) :
    (arrange items positions).Perm items ∧
    (arrangement positions).Perm (List.range items.length) ∧
    (∀ slot : Nat, (arrange items positions)[slot]? =
      (arrangement positions)[slot]?.bind fun item => items[item]?) ∧
    ((arrangement positions).filter fun item => positions[item]? = some none).Pairwise (· < ·) ∧
    (∀ (item : Nat) (p : Int), positions[item]? = some (some p) →
      (slotOf items.length p : Int) =
        max 0 (min ((items.length : Int) - 1) (if p < 0 then p + items.length else p)) ∧
      ∃ slot k : Nat, (arrangement positions)[slot]? = some item ∧
        outward (slotOf items.length p) k = slot ∧
        ∀ l < k, ∀ s : Nat, outward (slotOf items.length p) l = s → s < items.length →
          ∃ other, (arrangement positions)[s]? = some other ∧
            ServedBefore positions other item) ∧
    ((∀ (i j : Nat) (p q : Int), positions[i]? = some (some p) → positions[j]? = some (some q) →
        slotOf items.length p = slotOf items.length q → i = j) →
      ∀ (item : Nat) (p : Int), positions[item]? = some (some p) →
        (arrangement positions)[slotOf items.length p]? = some item) := by
  have hperm := arrangement_perm positions
  rw [← h]
  refine ⟨arrange_perm h, hperm, ?_, ?_, ?_, fun hdistinct item p => getElem?_slotOf hdistinct⟩
  · refine getElem?_filterMap fun item hitem => ?_
    have hlt := List.mem_range.mp (hperm.mem_iff.mp hitem)
    rw [List.getElem?_eq_getElem (h ▸ hlt)]
    rfl
  · rw [filter_arrangement]
    exact List.pairwise_lt_range.filter _
  · intro item p hp
    have hpos : 0 < positions.length := Nat.zero_lt_of_lt (List.getElem?_eq_some_iff.mp hp).1
    exact ⟨coe_slotOf hpos p, exists_seat hp⟩

/-- Positions at both ends of their range, and three items that ask for the second slot. -/
def crowdedPositions : List (Option Int) :=
  [some 1, some greatestPosition, some 1, none, some leastPosition, some (-5)]

theorem arrange_served_crowded :
    crowdedPositions.length = ['a', 'b', 'c', 'd', 'e', 'f'].length ∧
    arrange ['a', 'b', 'c', 'd', 'e', 'f'] crowdedPositions = ['e', 'a', 'c', 'f', 'd', 'b'] ∧
    (arrange ['a', 'b', 'c', 'd', 'e', 'f'] crowdedPositions).Perm
      ['a', 'b', 'c', 'd', 'e', 'f'] ∧
    ∃ slot k : Nat, (arrangement crowdedPositions)[slot]? = some 5 ∧
      outward (slotOf 6 (-5)) k = slot ∧
      ∀ l < k, ∀ s : Nat, outward (slotOf 6 (-5)) l = s → s < 6 →
        ∃ other, (arrangement crowdedPositions)[s]? = some other ∧
          ServedBefore crowdedPositions other 5 := by
  have h := @arrange_served Char ['a', 'b', 'c', 'd', 'e', 'f'] crowdedPositions rfl
  have hrequests : requests crowdedPositions.length crowdedPositions =
      [(1, 0), (5, 1), (1, 2), (0, 4), (1, 5)] := by decide
  have hqueue : queue crowdedPositions = [(0, 4), (1, 0), (1, 2), (1, 5), (5, 1)] := by
    rw [queue, hrequests]
    simp [List.mergeSort, List.MergeSort.Internal.splitInTwo, requestLe]
  refine ⟨rfl, ?_, h.1, (h.2.2.2.2.1 5 (-5) rfl).2⟩
  rw [arrange, arrangement_eq, unserved, served, hqueue]
  decide

end Lifeline.Order
