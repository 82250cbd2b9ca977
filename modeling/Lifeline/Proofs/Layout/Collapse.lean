import Lifeline.Proofs.Diagram.Ownership
import Lifeline.Proofs.Layout.Fork
import Lifeline.Proofs.Layout.Placement
import Lifeline.Proofs.Reader.Order
import Mathlib.Algebra.Order.Field.Rat

/-! # Collapsing a section

Collapsing a section hides its messages, so above the place of the section the same steps stay
visible (`alike_toggleSection`), and blocks begin and branch at the same rows. But a block that
reaches into the section from above, and shows nothing behind it, now ends above the section
(`cutsOff`), and the padding of its end moves up with it. These blocks are all that moves what
stands above the section and the section itself (`Diagram.collapse_read`). -/

namespace Lifeline

open Layout
open Layout.Visible (isHidden shows)

namespace Layout

/-! ### The row of a section -/

section
variable {d : Diagram} {v : View} {s t : Section} {p row m : Nat} {x : Step}

theorem sectionPlace_of_lt (hd : d.Registered) (v : View) (h : s.firstMessage < d.messages.length) :
    (Visible.of d v).callPlace? s.firstMessage = some (sectionPlace d s) := by
  obtain ⟨q, hq⟩ := Visible.exists_callPlace? (v := v) hd h
  have hplace : sectionPlace d s = ((Visible.of d v).callPlace? s.firstMessage).getD
    (Timeline.steps d.messages).length := rfl
  rw [hplace, hq]
  rfl

theorem sectionPlace_of_ge (hd : d.Registered) (h : d.messages.length ≤ s.firstMessage) :
    sectionPlace d s = (Timeline.steps d.messages).length := by
  have hplace : sectionPlace d s = ((Visible.of d .everything).callPlace? s.firstMessage).getD
    (Timeline.steps d.messages).length := rfl
  rw [hplace]
  cases hq : (Visible.of d .everything).callPlace? s.firstMessage with
  | none => rfl
  | some q =>
      obtain ⟨x, hx, -, hmessage⟩ := Visible.callPlace?_spec hq
      have hlt := (Visible.exists_callPlace?_le (v := .everything) hd hx).1
      omega

theorem sectionPlace_le (hd : d.Registered) (hx : (Timeline.steps d.messages)[p]? = some x)
    (hle : s.firstMessage ≤ x.message) : sectionPlace d s ≤ p := by
  obtain ⟨hlt, q, hq, hqp⟩ := Visible.exists_callPlace?_le (v := .everything) hd hx
  have hfirst := sectionPlace_of_lt hd .everything (hle.trans_lt hlt)
  exact (Visible.callPlace?_le hd hle hfirst hq).trans hqp

theorem sectionPlace_mono (hd : d.Registered) (hle : t.firstMessage ≤ s.firstMessage) :
    sectionPlace d t ≤ sectionPlace d s := by
  rcases Nat.lt_or_ge t.firstMessage d.messages.length with ht | ht
  · have hcall := sectionPlace_of_lt hd .everything ht
    rcases Nat.lt_or_ge s.firstMessage d.messages.length with hs | hs
    · exact Visible.callPlace?_le hd hle hcall (sectionPlace_of_lt hd .everything hs)
    · rw [sectionPlace_of_ge hd hs]
      obtain ⟨x, hx, -⟩ := Visible.callPlace?_spec hcall
      exact (List.getElem?_eq_some_iff.mp hx).1.le
  · rw [sectionPlace_of_ge hd ht, sectionPlace_of_ge hd (ht.trans hle)]

/-- The rows that a message owns stand above a section if the message comes before it, and below it
otherwise. -/
theorem lt_sectionRow_iff (hd : d.Registered) (hrow : row ∈ (Visible.of d v).ownRows m) :
    row < sectionRow (Visible.of d v) s ↔ m < s.firstMessage := by
  obtain ⟨place, x, hat, rfl, hnext⟩ := Visible.mem_ownRows.mp hrow
  rw [sectionRow_of, Visible.lt_rowsAbove_iff (Visible.sorted_places d v) hat]
  have hx := Visible.step_of_row hat
  constructor
  · intro habove
    by_contra hge
    have hle := sectionPlace_le hd hx (Nat.not_lt.mp hge)
    exact habove.not_ge hle
  · intro hlt
    rcases Nat.lt_or_ge s.firstMessage d.messages.length with hs | hs
    · obtain ⟨next, hcall⟩ := Visible.exists_callPlace? (v := v) hd (Nat.lt_of_le_of_lt hlt hs)
      exact (hnext next hcall).trans_le
        (Visible.callPlace?_le hd hlt hcall (sectionPlace_of_lt hd v hs))
    · rw [sectionPlace_of_ge hd hs]
      exact (List.getElem?_eq_some_iff.mp hx).1

end

/-! ### What a collapsed section hides -/

section
variable {d : Diagram} {v : View} {k m : Nat} {s : Section} {o : Outline}

theorem hidesSection_toggleSection (hv : v.hidesSection k = false) (i : Nat) :
    (v.toggleSection k).hidesSection i = (v.hidesSection i || i == k) := by
  have hk : k ∉ v.collapsedSections := by simpa [View.hidesSection] using hv
  have hmem := IndexSet.mem_toggle (n := k) (m := i) (s := v.collapsedSections)
  rw [Bool.eq_iff_iff]
  by_cases hi : i = k
  · simpa [View.hidesSection, View.toggleSection, hi, hk] using hmem
  · simpa [View.hidesSection, View.toggleSection, hi] using hmem

theorem isHidden_toggleSection (hv : v.hidesSection k = false) (m : Nat) :
    isHidden d (v.toggleSection k) m = (isHidden d v m || d.sectionOf? m == some k) := by
  unfold isHidden
  cases d.sectionOf? m with
  | none => rfl
  | some i => exact hidesSection_toggleSection hv i

/-- Above a section, collapsing it hides nothing. -/
theorem alike_toggleSection (hd : d.Registered) (hs : d.sections[k]? = some s)
    (hv : v.hidesSection k = false) : Alike d (sectionPlace d s) v (v.toggleSection k) := by
  intro p hp x hx
  have hmem := List.mem_of_getElem? hx
  have hout : (d.sectionOf? x.message == some k) = false := by
    rw [beq_eq_false_iff_ne]
    intro hin
    exact hp.not_ge (sectionPlace_le hd hx (Diagram.firstMessage_le_of_sectionOf? hin hs))
  rw [Visible.shows_eq hd hmem, Visible.shows_eq hd hmem, isHidden_toggleSection hv, hout,
    Bool.or_false]

/-- The messages of an outline that are not hidden. -/
def shownMessages (d : Diagram) (v : View) (o : Outline) : List Message :=
  o.messages.filter fun m => !isHidden d v m.index

theorem shownMessages_toggleSection (hv : v.hidesSection k = false) (o : Outline) :
    shownMessages d (v.toggleSection k) o =
      (shownMessages d v o).filter fun m => d.sectionOf? m.index != some k := by
  rw [shownMessages, shownMessages, List.filter_filter]
  refine List.filter_congr fun m _ => ?_
  rw [isHidden_toggleSection hv, Bool.not_or, Bool.and_comm]
  rfl

/-- A section takes the end off a block: the last message that is shown is in the section, but
another one is not. -/
def cutsOff (d : Diagram) (v : View) (k : Nat) (b : NestedBlock) : Bool :=
  let shown := shownMessages d v b.body
  shown.any (fun m => d.sectionOf? m.index != some k) &&
    shown.getLast?.any fun m => d.sectionOf? m.index == some k

/-- The last message that is shown comes before the section. -/
def endsAbove (d : Diagram) (v : View) (s : Section) (o : Outline) : Bool :=
  (shownMessages d v o).getLast?.any fun m => m.index < s.firstMessage

theorem any_getLast?_filter (hs : d.sections[k]? = some s) {others : List Message} {n : Message}
    (hin : d.sectionOf? n.index = some k) (hlt : ∀ m ∈ others, m.index < n.index) :
    ((others.filter fun m => d.sectionOf? m.index != some k).getLast?.any fun m =>
        m.index < s.firstMessage) = others.any fun m => d.sectionOf? m.index != some k := by
  rw [Bool.eq_iff_iff, List.any_eq_true]
  cases hlast : (others.filter fun m => d.sectionOf? m.index != some k).getLast? with
  | none =>
      have hnone := List.filter_eq_nil_iff.mp (List.getLast?_eq_none_iff.mp hlast)
      refine iff_of_false (by simp) ?_
      rintro ⟨m, hm, hout⟩
      exact hnone m hm hout
  | some m =>
      obtain ⟨hm, hout⟩ := List.mem_filter.mp (List.mem_of_getLast? hlast)
      have habove := Diagram.lt_firstMessage hin hs (by simpa using hout) (hlt m hm).le
      exact iff_of_true (by simpa using habove) ⟨m, hm, hout⟩

/-- A block ends above the section once this is collapsed if it did before, or if the section takes
its end off, and not both. -/
theorem endsAbove_toggleSection (hs : d.sections[k]? = some s) (hv : v.hidesSection k = false)
    {b : NestedBlock} (hsorted : b.body.messages.Pairwise fun m n => m.index < n.index) :
    endsAbove d (v.toggleSection k) s b.body = (endsAbove d v s b.body || cutsOff d v k b) ∧
      (endsAbove d v s b.body && cutsOff d v k b) = false := by
  have hshown : (shownMessages d v b.body).Pairwise fun m n => m.index < n.index :=
    hsorted.filter _
  unfold endsAbove cutsOff
  rw [shownMessages_toggleSection hv]
  generalize shownMessages d v b.body = shown at hshown ⊢
  rcases shown.eq_nil_or_concat with rfl | ⟨others, n, rfl⟩
  · exact ⟨rfl, rfl⟩
  rw [List.concat_eq_append] at hshown ⊢
  simp only [List.filter_append, List.getLast?_concat, Option.any_some, List.any_append]
  cases hn : d.sectionOf? n.index == some k with
  | false =>
      have hstays : [n].filter (fun m => d.sectionOf? m.index != some k) = [n] := by
        simp [bne, hn]
      rw [hstays, List.getLast?_concat, Bool.and_false, Bool.or_false, Bool.and_false]
      exact ⟨rfl, rfl⟩
  | true =>
      have hin : d.sectionOf? n.index = some k := beq_iff_eq.mp hn
      have hgone : [n].filter (fun m => d.sectionOf? m.index != some k) = [] := by
        simp [bne, hn]
      have hlast : [n].any (fun m => d.sectionOf? m.index != some k) = false := by
        simp [bne, hn]
      have hbelow : decide (n.index < s.firstMessage) = false := by
        simpa using Diagram.firstMessage_le_of_sectionOf? hin hs
      have hothers := any_getLast?_filter hs hin fun m hm =>
        (List.pairwise_append.mp hshown).2.2 m hm n (List.mem_singleton_self n)
      rw [hgone, hlast, hbelow, List.append_nil, hothers, Bool.or_false, Bool.and_true,
        Bool.false_or, Bool.false_and]
      exact ⟨rfl, rfl⟩

section
variable (hd : d.Sound) {b : NestedBlock} (hb : b ∈ d.outline.allBlocks 0)
include hd hb

theorem lt_length_of_mem_block {m : Message} (hm : m ∈ b.body.messages) :
    m.index < d.messages.length :=
  (List.getElem?_eq_some_iff.mp (hd.getElem?_message (Outline.messages_subset hb hm))).1

theorem exists_shown_of_mem_covered {row : Nat} (hrow : row ∈ (Visible.of d v).covered b.body) :
    ∃ m ∈ shownMessages d v b.body, row ∈ (Visible.of d v).ownRows m.index := by
  obtain ⟨i, hi, hrow⟩ := List.mem_flatMap.mp hrow
  obtain ⟨m, hm, rfl⟩ := List.mem_map.mp hi
  have hvisible := (Visible.exists_mem_ownRows hd.registered
    (lt_length_of_mem_block hd hb hm)).mp ⟨row, hrow⟩
  exact ⟨m, List.mem_filter.mpr ⟨hm, by rw [hvisible]; rfl⟩, hrow⟩

/-- The last row of a block is a row of the last message that is shown. -/
theorem lastRow?_of_getLast? {n : Message}
    (hn : (shownMessages d v b.body).getLast? = some n) :
    ∃ row, (Visible.of d v).lastRow? b.body = some row ∧
      row ∈ (Visible.of d v).ownRows n.index := by
  obtain ⟨hmem, hvisible⟩ := List.mem_filter.mp (List.mem_of_getLast? hn)
  obtain ⟨r, hr⟩ := (Visible.exists_mem_ownRows (v := v) hd.registered
    (lt_length_of_mem_block hd hb hmem)).mpr (by simpa using hvisible)
  have hcovered : r ∈ (Visible.of d v).covered b.body :=
    List.mem_flatMap.mpr ⟨n.index, List.mem_map_of_mem hmem, hr⟩
  obtain ⟨first, hfirst⟩ := Visible.exists_firstRow? hcovered
  obtain ⟨last, hlast, -⟩ := Visible.exists_lastRow? hfirst
  obtain ⟨m, hm, hown⟩ := exists_shown_of_mem_covered hd hb (Visible.mem_covered_of_lastRow? hlast)
  refine ⟨last, hlast, ?_⟩
  obtain ⟨others, hshown⟩ := List.getLast?_eq_some_iff.mp hn
  have hsorted : (shownMessages d v b.body).Pairwise fun m n => m.index < n.index :=
    (hd.sorted.sublist (Outline.sublist_messages hb)).filter _
  rw [hshown] at hsorted hm
  rcases List.mem_append.mp hm with hm | hm
  · have hlt := (List.pairwise_append.mp hsorted).2.2 m hm n (List.mem_singleton_self n)
    have hbelow := Visible.ownRows_lt hd.registered hlt hown hr
    exact absurd ((Visible.lastRow?_eq_some_iff.mp hlast).2 r hcovered) hbelow.not_ge
  · rwa [← List.mem_singleton.mp hm]

theorem endsAbove_iff : endsAbove d v s b.body = true ↔
    ∃ row, (Visible.of d v).lastRow? b.body = some row ∧ row < sectionRow (Visible.of d v) s := by
  unfold endsAbove
  cases hn : (shownMessages d v b.body).getLast? with
  | none =>
      refine iff_of_false (by simp) ?_
      rintro ⟨row, hrow, -⟩
      obtain ⟨m, hm, -⟩ := exists_shown_of_mem_covered hd hb (Visible.mem_covered_of_lastRow? hrow)
      rw [List.getLast?_eq_none_iff.mp hn] at hm
      exact List.not_mem_nil hm
  | some n =>
      obtain ⟨row, hrow, hown⟩ := lastRow?_of_getLast? hd hb hn
      rw [hrow, Option.any_some, decide_eq_true_eq, ← lt_sectionRow_iff hd.registered hown]
      simp

theorem lastRow?_of_alike {v' : View} (halike : Alike d (sectionPlace d s) v v') {row : Nat}
    (hrow : (Visible.of d v).lastRow? b.body = some row)
    (hlt : row < (Visible.of d v).rowsAbove (sectionPlace d s))
    (hends : endsAbove d v s b.body = true → endsAbove d v' s b.body = true) :
    (Visible.of d v').lastRow? b.body = some row := by
  have habove := (endsAbove_iff (s := s) hd hb).mpr ⟨row, hrow, by rwa [sectionRow_of]⟩
  obtain ⟨row', hrow', hlt'⟩ := (endsAbove_iff hd hb).mp (hends habove)
  rw [sectionRow_of] at hlt'
  have hle := halike.lastRow?_le hlt hrow' hrow
  have hge := halike.symm.lastRow?_le hlt' hrow hrow'
  rw [hrow', Nat.le_antisymm hge hle]

end

theorem countP_or {β : Type} {p q r : β → Bool} {l : List β}
    (h : ∀ x ∈ l, r x = (p x || q x) ∧ (p x && q x) = false) :
    l.countP r = l.countP p + l.countP q := by
  induction l with
  | nil => rfl
  | cons x l ih =>
      obtain ⟨⟨hor, hand⟩, hl⟩ := List.forall_mem_cons.mp h
      rw [List.countP_cons, List.countP_cons, List.countP_cons, ih hl, hor]
      cases hp : p x with
      | true =>
          have hq : q x = false := by simpa [hp] using hand
          simp [hq, Nat.add_right_comm]
      | false => simp [Nat.add_assoc]

theorem countP_footerRows (hd : d.Sound) (v : View) (s : Section) :
    (footerRows (Visible.of d v) d.outline).countP (· < sectionRow (Visible.of d v) s) =
      (d.outline.allBlocks 0).countP fun b => endsAbove d v s b.body := by
  rw [footerRows_eq _ 0, List.countP_filterMap]
  refine List.countP_congr fun b hb => ?_
  rw [endsAbove_iff hd hb]
  cases (Visible.of d v).lastRow? b.body <;> simp

section
variable (hd : d.Sound) (hs : d.sections[k]? = some s) (hv : v.hidesSection k = false)
include hd hs hv

theorem count_footerRows_toggleSection
    (hno : ∀ b ∈ d.outline.allBlocks 0, cutsOff d v k b = false) {row : Nat}
    (hrow : row < (Visible.of d v).rowsAbove (sectionPlace d s)) :
    (footerRows (Visible.of d v) d.outline).count row =
      (footerRows (Visible.of d (v.toggleSection k)) d.outline).count row := by
  have halike := alike_toggleSection hd.registered hs hv
  rw [footerRows_eq _ 0, footerRows_eq _ 0, List.count_filterMap, List.count_filterMap]
  refine List.countP_congr fun b hb => ?_
  have hends := (endsAbove_toggleSection hs hv
    (hd.sorted.sublist (Outline.sublist_messages hb))).1
  rw [hno b hb, Bool.or_false] at hends
  rw [beq_iff_eq, beq_iff_eq]
  constructor
  · exact fun hlast => lastRow?_of_alike hd hb halike hlast hrow hends.trans
  · exact fun hlast => lastRow?_of_alike hd hb halike.symm hlast (halike.rowsAbove_eq ▸ hrow)
      hends.symm.trans

/-- Once the section is collapsed, the blocks whose end it takes off end above it as well. -/
theorem countP_footerRows_toggleSection :
    (footerRows (Visible.of d (v.toggleSection k)) d.outline).countP
        (· < sectionRow (Visible.of d v) s) =
      (footerRows (Visible.of d v) d.outline).countP (· < sectionRow (Visible.of d v) s) +
        (d.outline.allBlocks 0).countP (cutsOff d v k) := by
  have halike := alike_toggleSection hd.registered hs hv
  rw [countP_footerRows hd v s, halike.sectionRow_eq le_rfl, countP_footerRows hd _ s]
  exact countP_or fun b hb =>
    endsAbove_toggleSection hs hv (hd.sorted.sublist (Outline.sublist_messages hb))

end

end

/-! ### The drawings -/

section
variable {α : Type} [Add α] [Sub α] [Mul α] [Div α] [NatCast α] [Max α] [Min α] [LT α]
  [DecidableLT α] {c : Config α} {d : Diagram} {v : View} {ts : List (PlacedStep α)}
  {g : Drawing α}

theorem Drawing.Fits.band (h : (draft c d v ts).Fits g) (j : Nat) : (g.bands[j]?).map Band.y =
    if d.participants.isEmpty then none
    else (d.sections[j]?).map fun _ => (heights c d (Visible.of d v)).section j := by
  rw [← List.getElem?_map, h.bands]
  simp only [draft]
  cases d.participants.isEmpty with
  | true => rfl
  | false =>
      simp only [Bool.false_eq_true, if_false, bandsOf, List.map_map, List.getElem?_map,
        List.getElem?_zipIdx, Option.map_map, Nat.zero_add]
      rfl

omit [Add α] [Sub α] [Mul α] [Div α] [NatCast α] [Max α] [Min α] [LT α] [DecidableLT α] in
theorem find?_zipIdx (f : Nat → α) (place : Nat) (rows : List (Nat × Step)) (n : Nat) :
    (((rows.zipIdx n).map fun e => (e.1.1, e.1.2, f e.2)).find? (·.1 == place)).map (·.2.2) =
      ((rows.map Prod.fst).findIdx? (· == place)).map fun i => f (i + n) := by
  induction rows generalizing n with
  | nil => rfl
  | cons e rows ih =>
      rw [List.zipIdx_cons, List.map_cons, List.map_cons, List.find?_cons, List.findIdx?_cons]
      cases e.1 == place with
      | true => simp
      | false =>
          simp only [Bool.false_eq_true, if_false, ih, Option.map_map]
          refine congrArg (Option.map · _) (funext fun i => ?_)
          rw [Function.comp_apply, Nat.add_right_comm, Nat.add_assoc]

theorem Drawing.Fits.heightOf?_eq (hts : stepsOf c d v = .ok ts) (h : (draft c d v ts).Fits g)
    (place : Nat) : g.heightOf? place =
      ((Visible.of d v).row? place).map (heights c d (Visible.of d v)).row := by
  have hsteps : g.steps.map (fun t => (t.place, t.step, t.y)) = (Visible.of d v).rows.zipIdx.map
      fun e => (e.1.1, e.1.2, (heights c d (Visible.of d v)).row e.2) :=
    h.level.steps.trans (map_placedSteps hts)
  have hfind := find?_zipIdx (heights c d (Visible.of d v)).row place (Visible.of d v).rows 0
  rw [← hsteps, List.find?_map, Option.map_map] at hfind
  exact hfind

end

end Layout

/-- **Collapsing a section moves what stands above it only by the ends of blocks.** A document that
could be read has a drawing under every view, and another one once a further section is collapsed.
If the section takes the end off no block, then it, all sections in front of it and all steps that
come before it in the timeline stay at their heights, whatever the numbers are that distances are
computed with. Otherwise the section moves down: in exact arithmetic, by the footer padding of each
block that loses its end to it. -/
theorem Diagram.collapse_read {text : List Char} {d : Diagram} (h : empty.read text = (none, d))
    {v : View} {k : Nat} {s : Section} (hs : d.sections[k]? = some s)
    (hv : v.hidesSection k = false) :
    ((∀ b ∈ d.outline.allBlocks 0, cutsOff d v k b = false) →
      ∀ (α : Type) [Add α] [Sub α] [Mul α] [Div α] [NatCast α] [Max α] [Min α] [LT α]
        [DecidableLT α] (c : Config α), ∃ g g', d.layout c v = .ok g ∧
          d.layout c (v.toggleSection k) = .ok g' ∧
          (∀ j ≤ k, (g.bands[j]?).map Band.y = (g'.bands[j]?).map Band.y) ∧
          ∀ place < sectionPlace d s, g.heightOf? place = g'.heightOf? place) ∧
    ∀ (α : Type) [Field α] [LinearOrder α] (c : Config α), ∃ g g', d.layout c v = .ok g ∧
      d.layout c (v.toggleSection k) = .ok g' ∧
      (g'.bands[k]?).map Band.y = (g.bands[k]?).map fun b =>
        b.y + ((d.outline.allBlocks 0).countP (cutsOff d v k) : α) * c.blockFooterPadding := by
  obtain ⟨hsound, hread⟩ := sound_of_read h
  have hd := hsound.registered
  have halike := alike_toggleSection hd hs hv
  have hplaces : ∀ i ≤ k, ∀ j ≤ i, ∀ t, d.sections[j]? = some t →
      sectionPlace d t ≤ sectionPlace d s := by
    intro i hi j hj t ht
    refine sectionPlace_mono hd ?_
    rcases (hj.trans hi).eq_or_lt with rfl | hlt
    · rw [Option.some.inj (ht.symm.trans hs)]
    · obtain ⟨hj', rfl⟩ := List.getElem?_eq_some_iff.mp ht
      obtain ⟨hk, rfl⟩ := List.getElem?_eq_some_iff.mp hs
      exact List.pairwise_iff_getElem.mp (divided_of_read h).sorted j k hj' hk hlt
  refine ⟨fun hno α _ _ _ _ _ _ _ _ _ c => ?_, fun α _ _ c => ?_⟩
  · obtain ⟨ts, g, hts, hg, hfits⟩ := hd.layout_fits hread c v
    obtain ⟨ts', g', hts', hg', hfits'⟩ := hd.layout_fits hread c (v.toggleSection k)
    have hfeet := fun r (hr : r < (Visible.of d v).rowsAbove (sectionPlace d s)) =>
      count_footerRows_toggleSection hsound hs hv hno hr
    refine ⟨g, g', hg, hg', fun j hj => ?_, fun place hplace => ?_⟩
    · rw [hfits.band, hfits'.band]
      cases ht : d.sections[j]? with
      | none => rw [Option.map_none, Option.map_none]
      | some t =>
          rw [Option.map_some, Option.map_some, halike.section_eq hfeet ht (hplaces j hj)]
    · rw [hfits.heightOf?_eq hts, hfits'.heightOf?_eq hts', halike.map_row?_eq hfeet hplace]
  · obtain ⟨ts, g, hts, hg, hfits⟩ := hd.layout_fits hread c v
    obtain ⟨ts', g', hts', hg', hfits'⟩ := hd.layout_fits hread c (v.toggleSection k)
    refine ⟨g, g', hg, hg', ?_⟩
    have hadd := halike.section_add (c := c) hs (hplaces k le_rfl)
    rw [countP_footerRows_toggleSection hsound hs hv, Nat.cast_add] at hadd
    have hsection : (heights c d (Visible.of d (v.toggleSection k))).section k =
        (heights c d (Visible.of d v)).section k +
          ((d.outline.allBlocks 0).countP (cutsOff d v k) : α) * c.blockFooterPadding := by
      linear_combination -hadd
    have hmap : ∀ x, ((g.bands[k]?).map fun b => b.y + x) =
        ((g.bands[k]?).map Band.y).map fun y => y + x :=
      fun x => (Option.map_map (fun y => y + x) Band.y g.bands[k]?).symm
    rw [hmap, hfits.band, hfits'.band, hs, Option.map_some, Option.map_some, hsection]
    cases d.participants.isEmpty <;> rfl

/-- A block that ends above a section, one that goes on behind it, and one inside it. -/
def divided : List Char :=
  ("A -> B: ask <- answer\n== First ==\nif so\n  B -> C: go\nloop around\n  A ~> C: start\n" ++
    "  == Second ==\n  if inside\n    B -> B: look\n  == Third ==\n  C -> A: back\n== Fourth ==\n" ++
    "A -> C: end").toList

/-- The last section is collapsed. -/
def lastCollapsed : View := ⟨[3], [], true⟩

theorem Diagram.collapse_read_divided : ∃ d s, empty.read divided = (none, d) ∧
    d.sections[1]? = some s ∧ lastCollapsed.hidesSection 1 = false ∧
    (∀ b ∈ d.outline.allBlocks 0, cutsOff d lastCollapsed 1 b = false) ∧
    (∃ g g', d.layout (Config.standard : Config ℚ) lastCollapsed = .ok g ∧
      d.layout (Config.standard : Config ℚ) (lastCollapsed.toggleSection 1) = .ok g' ∧
      (∀ j ≤ 1, (g.bands[j]?).map Band.y = (g'.bands[j]?).map Band.y) ∧
      ∀ place < sectionPlace d s, g.heightOf? place = g'.heightOf? place) ∧
    ∃ g g', d.layout (Config.standard : Config ℚ) lastCollapsed = .ok g ∧
      d.layout (Config.standard : Config ℚ) (lastCollapsed.toggleSection 1) = .ok g' ∧
      (g'.bands[1]?).map Band.y = (g.bands[1]?).map fun b => b.y +
        ((d.outline.allBlocks 0).countP (cutsOff d lastCollapsed 1) : ℚ) *
          (Config.standard : Config ℚ).blockFooterPadding := by
  have htext : divided = _ :=
    Text.toList_append_eq (Text.toList_append_eq String.toList_ofList String.toList_ofList)
      String.toList_ofList
  have h := read_of_fst empty divided (by rw [htext]; decide +kernel)
  obtain ⟨hs, hno⟩ : (empty.read divided).2.sections[1]? = some ⟨"Second", none, 7, 3⟩ ∧
      ∀ b ∈ (empty.read divided).2.outline.allBlocks 0,
        cutsOff (empty.read divided).2 lastCollapsed 1 b = false := by rw [htext]; decide +kernel
  have hcollapse := collapse_read h (v := lastCollapsed) hs rfl
  exact ⟨_, _, h, hs, rfl, hno, hcollapse.1 hno ℚ .standard, hcollapse.2 ℚ .standard⟩

/-- A section inside a block, with the end of the block and the call of an activation that is still
open. -/
def cutShort : List Char :=
  "A -> B: x: reply\nif c\n  B -> C\n  == K ==\n  A -> C".toList

/-- Collapsing the section moves it down, and a step that comes before it. -/
theorem Diagram.moves_read_cutShort : ∃ d s, empty.read cutShort = (none, d) ∧
    d.sections[0]? = some s ∧ View.everything.hidesSection 0 = false ∧ 3 < sectionPlace d s ∧
    [View.everything, View.everything.toggleSection 0].map (fun v =>
        (d.layout (Config.standard : Config ℚ) v).toOption.map fun g =>
          ((g.bands[0]?).map Band.y, g.heightOf? 3)) =
      [some (some 252, some 188), some (some 264, some 200)] := by
  have htext : cutShort = _ := String.toList_ofList
  have h := read_of_fst empty cutShort (by rw [htext]; decide +kernel)
  exact ⟨_, ⟨"K", none, 4, 2⟩, h, by rw [htext]; decide +kernel⟩

end Lifeline
