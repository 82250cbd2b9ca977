import Lifeline.Layout.Rows
import Lifeline.Proofs.Diagram.Growth
import Lifeline.Proofs.Layout.Visible
import Lifeline.Proofs.Timeline.Covering

/-! # The rows of blocks

Of two blocks of an outline that is in order, one lies inside the other or all messages of one come
before those of the other (`Outline.pairwise_allBlocks`). The rows that a message owns stand in
front of those of the next one, so the rows of the blocks are nested or apart in the same way
(`Visible.ownRows_lt`); and the rows in front of which blocks begin inside a block are among those
of the whole outline (`sublist_headerRows`). -/

namespace Lifeline

/-- A block of an outline, with the number of blocks around it. -/
structure NestedBlock where
  depth : Nat
  head : BlockHead
  body : Outline
  deriving DecidableEq, Repr

namespace Outline

/-- All blocks of an outline that has `depth` blocks around it, each in front of those inside it. -/
def allBlocks (depth : Nat) : Outline → List NestedBlock
  | empty => []
  | entry _ rest => rest.allBlocks depth
  | block head body rest =>
    ⟨depth, head, body⟩ :: (body.allBlocks (depth + 1) ++ rest.allBlocks depth)

/-- The blocks that stand in no other block. -/
def topBlocks (depth : Nat) (o : Outline) : List NestedBlock :=
  o.blocks.map fun (head, body) => ⟨depth, head, body⟩

variable {o : Outline} {b z : NestedBlock} {depth : Nat}

theorem messages_block (head : BlockHead) (body rest : Outline) :
    (block head body rest).messages = body.messages ++ rest.messages :=
  List.filterMap_append

theorem sublist_messages_entry (e : Entry) (rest : Outline) :
    rest.messages.Sublist (entry e rest).messages :=
  (List.sublist_cons_self e rest.entries).filterMap _

theorem topBlocks_subset : o.topBlocks depth ⊆ o.allBlocks depth := by
  induction o with
  | empty => exact List.Subset.refl _
  | entry e rest ih => exact ih
  | block head body rest _ ih =>
      exact List.cons_subset_cons _ fun b hb => List.mem_append_right _ (ih hb)

/-- A block stands in no other one, or inside one that stands in no other one. -/
theorem mem_allBlocks_iff : b ∈ o.allBlocks depth ↔
    ∃ z ∈ o.topBlocks depth, b = z ∨ b ∈ z.body.allBlocks (z.depth + 1) := by
  induction o with
  | empty => simp [allBlocks, topBlocks, blocks]
  | entry e rest ih => exact ih
  | block head body rest _ ih =>
      have htop : (block head body rest).topBlocks depth =
          ⟨depth, head, body⟩ :: rest.topBlocks depth := rfl
      rw [allBlocks, htop, List.mem_cons, List.mem_append, ih, List.exists_mem_cons_iff, or_assoc]

/-- A block and those inside it are blocks of the outline. -/
theorem sublist_allBlocks (h : b ∈ o.allBlocks depth) :
    (b :: b.body.allBlocks (b.depth + 1)).Sublist (o.allBlocks depth) := by
  induction o generalizing depth with
  | empty => simp [allBlocks] at h
  | entry e rest ih => exact ih h
  | block head body rest ihb ih =>
      rw [allBlocks, List.mem_cons, List.mem_append] at h
      rw [allBlocks]
      rcases h with rfl | h | h
      · exact (List.sublist_append_left _ _).cons_cons _
      · exact ((ihb h).trans (List.sublist_append_left _ _)).cons _
      · exact ((ih h).trans (List.sublist_append_right _ _)).cons _

theorem allBlocks_trans (hb : b ∈ o.allBlocks depth) (hz : z ∈ b.body.allBlocks (b.depth + 1)) :
    z ∈ o.allBlocks depth :=
  (sublist_allBlocks hb).subset (List.mem_cons_of_mem _ hz)

/-- What passes from the blocks that stand in a block to the block itself, holds of all blocks. -/
theorem allBlocks_induct {P : NestedBlock → Prop}
    (step : ∀ b ∈ o.allBlocks depth, (∀ z ∈ b.body.topBlocks (b.depth + 1), P z) → P b) :
    ∀ b ∈ o.allBlocks depth, P b := by
  induction o generalizing depth with
  | empty => simp [allBlocks]
  | entry e rest ih => exact ih step
  | block head body rest ihb ih =>
      rw [allBlocks] at step ⊢
      have hbody : ∀ z ∈ body.allBlocks (depth + 1), P z := ihb fun z hz =>
        step z (List.mem_cons_of_mem _ (List.mem_append_left _ hz))
      intro b hb
      rw [List.mem_cons, List.mem_append] at hb
      rcases hb with rfl | hb | hb
      · exact step _ List.mem_cons_self fun z hz => hbody z (topBlocks_subset hz)
      · exact hbody b hb
      · exact ih (fun z hz => step z (List.mem_cons_of_mem _ (List.mem_append_right _ hz))) b hb

theorem sublist_messages (h : b ∈ o.allBlocks depth) : b.body.messages.Sublist o.messages := by
  induction o generalizing depth with
  | empty => simp [allBlocks] at h
  | entry e rest ih => exact (ih h).trans (sublist_messages_entry e rest)
  | block head body rest ihb ih =>
      rw [messages_block]
      rw [allBlocks, List.mem_cons, List.mem_append] at h
      rcases h with rfl | h | h
      · exact List.sublist_append_left _ _
      · exact (ihb h).trans (List.sublist_append_left _ _)
      · exact (ih h).trans (List.sublist_append_right _ _)

theorem messages_subset (h : b ∈ o.allBlocks depth) : b.body.messages ⊆ o.messages :=
  (sublist_messages h).subset

/-- Of two blocks the later one lies inside the earlier one, or its messages come later. -/
theorem pairwise_allBlocks (h : o.messages.Pairwise fun m n => m.index < n.index) :
    (o.allBlocks depth).Pairwise fun x y => y ∈ x.body.allBlocks (x.depth + 1) ∨
      ∀ m ∈ x.body.messages, ∀ n ∈ y.body.messages, m.index < n.index := by
  induction o generalizing depth with
  | empty => exact .nil
  | entry e rest ih => exact ih (h.sublist (sublist_messages_entry e rest))
  | block head body rest ihb ih =>
      rw [messages_block, List.pairwise_append] at h
      obtain ⟨hbody, hrest, hbefore⟩ := h
      rw [allBlocks, List.pairwise_cons, List.pairwise_append]
      refine ⟨?_, ihb hbody, ih hrest, ?_⟩
      · intro y hy
        rcases List.mem_append.mp hy with hy | hy
        · exact Or.inl hy
        · exact Or.inr fun m hm n hn => hbefore m hm n (messages_subset hy hn)
      · intro x hx y hy
        exact Or.inr fun m hm n hn => hbefore m (messages_subset hx hm) n (messages_subset hy hn)

end Outline

/-! ### Calls in the order of the messages -/

namespace Timeline

variable {ms : List Message}

theorem call_mem_steps {m : Message} (hm : m ∈ ms) : m.call ∈ steps ms := by
  have hcalls := (steps_runs ms).calls_eq
  rw [List.map_nil, List.append_nil] at hcalls
  exact (List.mem_filter.mp (hcalls ▸ List.mem_map_of_mem hm)).1

theorem pairwise_calls (h : ms.map Message.index = List.range ms.length) :
    (steps ms).Pairwise fun s t => s.isCall = true → t.isCall = true → s.message < t.message := by
  have hcalls := (steps_runs ms).calls_eq
  rw [List.map_nil, List.append_nil] at hcalls
  have hmessages : ((steps ms).filter Step.isCall).map Step.message = List.range ms.length := by
    rw [hcalls, List.map_map, ← h]
    rfl
  have hsorted : (((steps ms).filter Step.isCall).map Step.message).Pairwise (· < ·) :=
    hmessages ▸ List.pairwise_lt_range
  exact List.pairwise_filter.mp (List.pairwise_map.mp hsorted)

end Timeline

namespace Layout

namespace Visible

/-! ### The rows of messages -/

section
variable {d : Diagram} {v : View} {m m' p q q' : Nat} {s : Step}

theorem callPlace?_spec (h : (of d v).callPlace? m = some q) :
    ∃ s, (Timeline.steps d.messages)[q]? = some s ∧ s.isCall = true ∧ s.message = m := by
  obtain ⟨hlt, hcall, -⟩ := List.findIdx?_eq_some_iff_getElem.mp h
  rw [Bool.and_eq_true, beq_iff_eq] at hcall
  exact ⟨_, List.getElem?_eq_getElem hlt, hcall⟩

theorem exists_callPlace? (h : d.Registered) (hm : m < d.messages.length) :
    ∃ q, (of d v).callPlace? m = some q := by
  have hindex := h.getElem?_index (List.getElem?_eq_getElem hm)
  cases hplace : (of d v).callPlace? m with
  | some q => exact ⟨q, rfl⟩
  | none =>
      have := List.findIdx?_eq_none_iff.mp hplace _
        (Timeline.call_mem_steps (List.getElem_mem hm))
      simp [Step.isCall, Message.call, hindex] at this

theorem callPlace?_le (h : d.Registered) (hle : m ≤ m') (hq : (of d v).callPlace? m = some q)
    (hq' : (of d v).callPlace? m' = some q') : q ≤ q' := by
  obtain ⟨s, hs, hcall, rfl⟩ := callPlace?_spec hq
  obtain ⟨t, ht, hcall', rfl⟩ := callPlace?_spec hq'
  obtain ⟨hlt, rfl⟩ := List.getElem?_eq_some_iff.mp hs
  obtain ⟨hlt', rfl⟩ := List.getElem?_eq_some_iff.mp ht
  by_contra hgt
  have hpairs := List.pairwise_iff_getElem.mp (Timeline.pairwise_calls h.index) q' q hlt' hlt
    (Nat.not_le.mp hgt) hcall' hcall
  omega

theorem callPlace?_lt (h : d.Registered) (hlt : m < m') (hq : (of d v).callPlace? m = some q)
    (hq' : (of d v).callPlace? m' = some q') : q < q' := by
  refine lt_of_le_of_ne (callPlace?_le h hlt.le hq hq') ?_
  rintro rfl
  obtain ⟨s, hs, -, hm⟩ := callPlace?_spec hq
  obtain ⟨t, ht, -, hm'⟩ := callPlace?_spec hq'
  obtain rfl := Option.some.inj (hs.symm.trans ht)
  omega

/-- A message is called before it is answered, so its call is the first of its steps. -/
theorem exists_callPlace?_le (h : d.Registered)
    (hs : (Timeline.steps d.messages)[p]? = some s) :
    s.message < d.messages.length ∧ ∃ q, (of d v).callPlace? s.message = some q ∧ q ≤ p := by
  have hindex : (d.messages.map Message.index).Nodup := h.index ▸ List.nodup_range
  obtain ⟨m, hm, hstep⟩ := Timeline.exists_message_of_mem_steps (List.mem_of_getElem? hs)
  have hmessage : s.message = m.index := by rcases hstep with rfl | ⟨-, rfl⟩ <;> rfl
  have hlt : s.message < d.messages.length := by
    rw [hmessage, ← List.mem_range, ← h.index]
    exact List.mem_map_of_mem hm
  obtain ⟨q, hq⟩ := exists_callPlace? (v := v) h hlt
  obtain ⟨t, ht, hcall, htm⟩ := callPlace?_spec hq
  have hkind : t.kind = .call := by simpa [Step.isCall] using hcall
  refine ⟨hlt, q, hq, ?_⟩
  rcases hstep with rfl | ⟨hsync, rfl⟩
  · exact (Timeline.place_unique hindex ht hs hkind htm).le
  · obtain ⟨a, ha, -, hfirst, hlast⟩ := Timeline.exists_activation hm hsync
    have hq : q = a.first := Timeline.place_unique hindex ht hfirst hkind htm
    have hp : p = a.last := Timeline.place_unique hindex hs hlast rfl rfl
    rw [hq, hp]
    exact (Timeline.first_lt_last ha).le

theorem shows_eq (h : d.Registered) (hs : s ∈ Timeline.steps d.messages) :
    shows d v s = (!isHidden d v s.message && !isSilent s) := by
  obtain ⟨p, hp⟩ := List.getElem?_of_mem hs
  have hlt := (exists_callPlace?_le (v := v) h hp).1
  rw [shows, List.getD_eq_getElem?_getD, List.getElem?_map, List.getElem?_range hlt, Bool.not_or]
  rfl

/-- A message owns the row of its call, unless it is hidden. -/
theorem exists_mem_ownRows (h : d.Registered) (hm : m < d.messages.length) :
    (∃ row, row ∈ (of d v).ownRows m) ↔ isHidden d v m = false := by
  constructor
  · rintro ⟨row, hrow⟩
    obtain ⟨place, s, hat, rfl, -⟩ := mem_ownRows.mp hrow
    obtain ⟨hs, hshows⟩ := mem_rows_of.mp (List.mem_of_getElem? hat)
    rw [shows_eq h (List.mem_of_getElem? hs), Bool.and_eq_true, Bool.not_eq_true'] at hshows
    exact hshows.1
  · intro hvisible
    obtain ⟨q, hq⟩ := exists_callPlace? (v := v) h hm
    obtain ⟨s, hs, hcall, rfl⟩ := callPlace?_spec hq
    have hkind : s.kind = .call := by simpa [Step.isCall] using hcall
    have hshows : shows d v s = true := by
      rw [shows_eq h (List.mem_of_getElem? hs), hvisible, isSilent, hkind]
      rfl
    obtain ⟨row, hrow⟩ := List.getElem?_of_mem (mem_rows_of.mpr ⟨hs, hshows⟩)
    exact ⟨row, mem_ownRows.mpr ⟨q, s, hrow, rfl, fun next hnext =>
      callPlace?_lt h (Nat.lt_succ_self _) hq hnext⟩⟩

/-- The rows of a message stand in front of those of later messages. -/
theorem ownRows_lt (h : d.Registered) {r r' : Nat} (hlt : m < m') (hr : r ∈ (of d v).ownRows m)
    (hr' : r' ∈ (of d v).ownRows m') : r < r' := by
  obtain ⟨p, s, hrow, -, hnext⟩ := mem_ownRows.mp hr
  obtain ⟨p', t, hrow', rfl, -⟩ := mem_ownRows.mp hr'
  obtain ⟨hcount, q', hq', hle⟩ := exists_callPlace?_le (v := v) h (step_of_row hrow')
  obtain ⟨q, hq⟩ := exists_callPlace? (v := v) h (m := m + 1) (by omega)
  have hbefore : p < q := hnext q hq
  have hcalls : q ≤ q' := callPlace?_le h hlt hq hq'
  have hplaces : p < p' := hbefore.trans_le (hcalls.trans hle)
  refine (lt_iff_of_places (sorted_places d v) ?_ ?_).mp hplaces
  · rw [getElem?_places, hrow]
    rfl
  · rw [getElem?_places, hrow']
    rfl

end

/-! ### The rows of blocks -/

section
variable {w : Visible} {o o' : Outline} {row : Nat}

theorem covered_mono (h : o'.messages ⊆ o.messages) : w.covered o' ⊆ w.covered o := by
  intro row hrow
  obtain ⟨i, hi, hrow⟩ := List.mem_flatMap.mp hrow
  obtain ⟨m, hm, rfl⟩ := List.mem_map.mp hi
  exact List.mem_flatMap.mpr ⟨m.index, List.mem_map_of_mem (h hm), hrow⟩

theorem exists_lastRow? (h : w.firstRow? o = some row) :
    ∃ last, w.lastRow? o = some last ∧ row ≤ last := by
  have hmem := mem_covered_of_firstRow? h
  cases hlast : w.lastRow? o with
  | none =>
      rw [List.max?_eq_none_iff.mp hlast] at hmem
      exact absurd hmem List.not_mem_nil
  | some last => exact ⟨last, rfl, (lastRow?_eq_some_iff.mp hlast).2 row hmem⟩

theorem exists_firstRow? (h : row ∈ w.covered o) : ∃ first, w.firstRow? o = some first := by
  cases hfirst : w.firstRow? o with
  | none =>
      rw [List.min?_eq_none_iff.mp hfirst] at h
      exact absurd h List.not_mem_nil
  | some first => exact ⟨first, rfl⟩

theorem isSome_firstRow? : (w.firstRow? o).isSome = true ↔ ∃ row, row ∈ w.covered o := by
  constructor
  · intro hsome
    obtain ⟨row, hrow⟩ := Option.isSome_iff_exists.mp hsome
    exact ⟨row, mem_covered_of_firstRow? hrow⟩
  · rintro ⟨row, hrow⟩
    obtain ⟨first, hfirst⟩ := exists_firstRow? hrow
    rw [hfirst]
    rfl

/-- A block begins at some row if one of its messages is not hidden. -/
theorem isSome_firstRow?_iff {d : Diagram} {v : View} (h : d.Registered)
    (ho : ∀ m ∈ o.messages, m.index < d.messages.length) :
    ((of d v).firstRow? o).isSome = true ↔ ∃ m ∈ o.messages, isHidden d v m.index = false := by
  rw [isSome_firstRow?]
  constructor
  · rintro ⟨row, hrow⟩
    obtain ⟨i, hi, hrow⟩ := List.mem_flatMap.mp hrow
    obtain ⟨m, hm, rfl⟩ := List.mem_map.mp hi
    exact ⟨m, hm, (exists_mem_ownRows h (ho m hm)).mp ⟨row, hrow⟩⟩
  · rintro ⟨m, hm, hvisible⟩
    obtain ⟨row, hrow⟩ := (exists_mem_ownRows h (ho m hm)).mpr hvisible
    exact ⟨row, List.mem_flatMap.mpr ⟨m.index, List.mem_map_of_mem hm, hrow⟩⟩

theorem covered_lt {d : Diagram} {v : View} (h : d.Registered)
    (hlt : ∀ m ∈ o.messages, ∀ n ∈ o'.messages, m.index < n.index) {r r' : Nat}
    (hr : r ∈ (of d v).covered o) (hr' : r' ∈ (of d v).covered o') : r < r' := by
  obtain ⟨i, hi, hr⟩ := List.mem_flatMap.mp hr
  obtain ⟨j, hj, hr'⟩ := List.mem_flatMap.mp hr'
  obtain ⟨m, hm, rfl⟩ := List.mem_map.mp hi
  obtain ⟨n, hn, rfl⟩ := List.mem_map.mp hj
  exact ownRows_lt h (hlt m hm n hn) hr hr'

end

end Visible

section
variable {o : Outline} {b : NestedBlock} {row : Nat} (w : Visible) (depth : Nat)

/-- The rows where blocks begin are the first rows of the blocks, each block counted once. -/
theorem headerRows_eq (o : Outline) :
    headerRows w o = (o.allBlocks depth).filterMap fun b => w.firstRow? b.body := by
  induction o generalizing depth with
  | empty => rfl
  | entry e rest ih => exact ih depth
  | block head body rest ihb ih =>
      rw [headerRows, Outline.allBlocks, List.filterMap_cons, List.filterMap_append,
        ihb (depth + 1), ih depth]
      cases w.firstRow? body <;> rfl

theorem footerRows_eq (o : Outline) :
    footerRows w o = (o.allBlocks depth).filterMap fun b => w.lastRow? b.body := by
  induction o generalizing depth with
  | empty => rfl
  | entry e rest ih => exact ih depth
  | block head body rest ihb ih =>
      rw [footerRows, Outline.allBlocks, List.filterMap_cons, List.filterMap_append,
        ihb (depth + 1), ih depth]
      cases w.lastRow? body <;> rfl

theorem branchRows_eq (o : Outline) : branchRows w o = (o.allBlocks depth).flatMap fun b =>
    b.body.arms.2.filterMap fun arm => w.firstRow? arm.2 := by
  induction o generalizing depth with
  | empty => rfl
  | entry e rest ih => exact ih depth
  | block head body rest ihb ih =>
      rw [branchRows, Outline.allBlocks, List.flatMap_cons, List.flatMap_append,
        ihb (depth + 1), ih depth, List.append_assoc]

variable {w depth}

theorem sublist_headerRows (h : b ∈ o.allBlocks depth) (hrow : w.firstRow? b.body = some row) :
    (row :: headerRows w b.body).Sublist (headerRows w o) := by
  rw [headerRows_eq w (b.depth + 1) b.body, headerRows_eq w depth o]
  have hsub := (Outline.sublist_allBlocks h).filterMap fun b => w.firstRow? b.body
  rw [List.filterMap_cons, hrow] at hsub
  exact hsub

theorem sublist_footerRows (h : b ∈ o.allBlocks depth) (hrow : w.lastRow? b.body = some row) :
    (row :: footerRows w b.body).Sublist (footerRows w o) := by
  rw [footerRows_eq w (b.depth + 1) b.body, footerRows_eq w depth o]
  have hsub := (Outline.sublist_allBlocks h).filterMap fun b => w.lastRow? b.body
  rw [List.filterMap_cons, hrow] at hsub
  exact hsub

theorem lt_count_of_mem_headerRows (h : row ∈ headerRows w o) : row < w.count := by
  rw [headerRows_eq w 0] at h
  obtain ⟨b, -, hrow⟩ := List.mem_filterMap.mp h
  exact Visible.lt_count_of_firstRow? hrow

theorem lt_count_of_mem_footerRows (h : row ∈ footerRows w o) : row < w.count := by
  rw [footerRows_eq w 0] at h
  obtain ⟨b, -, hrow⟩ := List.mem_filterMap.mp h
  exact Visible.lt_count_of_lastRow? hrow

theorem lt_count_of_mem_branchRows (h : row ∈ branchRows w o) : row < w.count := by
  rw [branchRows_eq w 0] at h
  obtain ⟨b, -, h⟩ := List.mem_flatMap.mp h
  obtain ⟨arm, -, hrow⟩ := List.mem_filterMap.mp h
  exact Visible.lt_count_of_firstRow? hrow

end

end Layout

end Lifeline
