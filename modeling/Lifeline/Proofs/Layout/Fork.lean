import Lifeline.Proofs.Layout.Heights
import Mathlib.Tactic.LinearCombination

/-! # Layouts that begin alike

Two views may show the same steps in front of some place and different ones from there on
(`Alike`). Above that place, blocks begin and branch at the same rows (`Alike.count_headerRows`,
`Alike.count_branchRows`). If they also end at the same rows there, nothing above the place can tell
the two views apart: rows and sections have the same heights (`Alike.row_eq`, `Alike.section_eq`).
If they do not, then in exact arithmetic a section moves by the padding of the blocks that end above
it under one view only (`Alike.section_add`). -/

namespace Lifeline.Layout

open Visible (shows)

/-! ### Rows above a place -/

section
variable {β : Type} {p : β → Bool} {l : List β}

theorem filter_append_filter_not (h : l.Pairwise fun x y => p y = true → p x = true) :
    l.filter p ++ l.filter (fun x => !p x) = l := by
  induction l with
  | nil => rfl
  | cons x l ih =>
      obtain ⟨hx, hl⟩ := List.pairwise_cons.mp h
      cases hp : p x with
      | true => rw [List.filter_cons_of_pos hp, List.filter_cons_of_neg (by simp [hp]),
          List.cons_append, ih hl]
      | false =>
          have hnone : ∀ y ∈ l, ¬ p y = true := fun y hy hpy => by simp [hx y hy hpy] at hp
          have hall : ∀ y ∈ x :: l, (!p y) = true :=
            List.forall_mem_cons.mpr ⟨by simp [hp], fun y hy => by simpa using hnone y hy⟩
          rw [List.filter_cons_of_neg (by simp [hp]), List.filter_eq_nil_iff.mpr hnone,
            List.filter_eq_self.mpr hall, List.nil_append]

theorem lt_countP_iff (h : l.Pairwise fun x y => p y = true → p x = true) {i : Nat} {x : β}
    (hx : l[i]? = some x) : i < l.countP p ↔ p x = true := by
  rw [← filter_append_filter_not h] at hx
  rw [List.countP_eq_length_filter]
  rcases Nat.lt_or_ge i (l.filter p).length with hlt | hge
  · rw [List.getElem?_append_left hlt] at hx
    exact iff_of_true hlt (List.mem_filter.mp (List.mem_of_getElem? hx)).2
  · rw [List.getElem?_append_right hge] at hx
    have hnot := (List.mem_filter.mp (List.mem_of_getElem? hx)).2
    exact iff_of_false hge.not_gt (by simpa using hnot)

theorem countP_lt_succ (ns : List Nat) (n : Nat) :
    ns.countP (· < n + 1) = ns.countP (· < n) + ns.count n := by
  induction ns with
  | nil => rfl
  | cons m ns ih =>
      rw [List.countP_cons, List.countP_cons, List.count_cons, ih]
      rcases Nat.lt_trichotomy m n with hlt | rfl | hgt
      · simp [hlt, Nat.lt_succ_of_lt hlt, hlt.ne, Nat.add_right_comm]
      · simp [Nat.add_assoc]
      · simp [hgt.not_gt, Nat.not_lt.mpr hgt, hgt.ne']

end

namespace Visible

/-- The number of rows above a place. -/
def rowsAbove (w : Visible) (place : Nat) : Nat := w.rows.countP (·.1 < place)

variable {w : Visible} {place : Nat}

theorem rowsAbove_le (w : Visible) (place : Nat) : w.rowsAbove place ≤ w.count :=
  List.countP_le_length

theorem rowsAbove_mono {p q : Nat} (h : p ≤ q) : w.rowsAbove p ≤ w.rowsAbove q :=
  List.countP_mono_left fun e _ he => by
    rw [decide_eq_true_eq] at he ⊢
    exact he.trans_le h

section
variable (hw : w.places.Pairwise (· < ·))
include hw

theorem pairwise_rows_lt (place : Nat) :
    w.rows.Pairwise fun e f => decide (f.1 < place) = true → decide (e.1 < place) = true := by
  refine (List.pairwise_map.mp hw).imp fun {e f} hlt hf => ?_
  rw [decide_eq_true_eq] at hf ⊢
  exact hlt.trans hf

theorem lt_rowsAbove_iff {row : Nat} {e : Nat × Step} (h : w.rows[row]? = some e) :
    row < w.rowsAbove place ↔ e.1 < place := by
  rw [rowsAbove, lt_countP_iff (pairwise_rows_lt hw place) h, decide_eq_true_eq]

theorem getD_firstFrom? (place : Nat) :
    (w.firstFrom? place).getD w.count = w.rowsAbove place := by
  cases hfirst : w.firstFrom? place with
  | none =>
      have hnone := List.findIdx?_eq_none_iff.mp hfirst
      refine (List.countP_eq_length.mpr fun e he => ?_).symm
      have hplace := hnone e.1 (List.mem_map_of_mem he)
      simpa using hplace
  | some first =>
      obtain ⟨hlt, hle, hbefore⟩ := List.findIdx?_eq_some_iff_getElem.mp hfirst
      simp only [places, List.getElem_map, decide_eq_true_eq, List.length_map] at hlt hle hbefore
      refine Nat.le_antisymm (Nat.le_of_not_lt fun habove => ?_) (Nat.le_of_not_lt fun hbelow => ?_)
      · have hrow := List.getElem?_eq_getElem (habove.trans hlt)
        exact hbefore _ habove (Nat.le_of_not_lt fun hp =>
          (lt_irrefl _ ((lt_rowsAbove_iff hw hrow).mpr hp)))
      · exact hle.not_gt ((lt_rowsAbove_iff hw (List.getElem?_eq_getElem hlt)).mp hbelow)

end

end Visible

/-- The place of a section in the timeline: that of the call of its first message, or the end. -/
def sectionPlace (d : Diagram) (s : Section) : Nat :=
  ((Timeline.steps d.messages).findIdx? fun t => t.isCall && t.message == s.firstMessage).getD
    (Timeline.steps d.messages).length

theorem sectionRow_of (d : Diagram) (v : View) (s : Section) :
    sectionRow (Visible.of d v) s = (Visible.of d v).rowsAbove (sectionPlace d s) := by
  have hplace : sectionPlace d s = ((Visible.of d v).callPlace? s.firstMessage).getD
    (Timeline.steps d.messages).length := rfl
  unfold sectionRow
  rw [hplace]
  cases (Visible.of d v).callPlace? s.firstMessage with
  | some place => exact Visible.getD_firstFrom? (Visible.sorted_places d v) place
  | none =>
      refine (List.countP_eq_length.mpr fun e he => ?_).symm
      have hstep := (Visible.mem_rows_of.mp he).1
      exact decide_eq_true (List.getElem?_eq_some_iff.mp hstep).1

/-! ### Views that show the same above a place -/

/-- The two views show the same steps above a place. -/
def Alike (d : Diagram) (place : Nat) (v v' : View) : Prop :=
  ∀ p < place, ∀ s, (Timeline.steps d.messages)[p]? = some s → shows d v s = shows d v' s

section
variable {d : Diagram} {place row : Nat} {v v' : View}

theorem Alike.symm (h : Alike d place v v') : Alike d place v' v :=
  fun p hp s hs => (h p hp s hs).symm

theorem Alike.mono (h : Alike d place v v') {p : Nat} (hp : p ≤ place) : Alike d p v v' :=
  fun q hq => h q (hq.trans_le hp)

theorem Alike.filter_rows (h : Alike d place v v') :
    (Visible.of d v).rows.filter (·.1 < place) = (Visible.of d v').rows.filter (·.1 < place) := by
  rw [Visible.rows_of, Visible.rows_of, List.filter_map, List.filter_map, List.filter_filter,
    List.filter_filter]
  refine congrArg (List.map Prod.swap) (List.filter_congr ?_)
  rintro ⟨s, p⟩ hmem
  by_cases hp : p < place
  · rw [h p hp s (List.mem_zipIdx_iff_getElem?.mp hmem)]
  · simp [hp]

theorem Alike.rowsAbove_eq (h : Alike d place v v') :
    (Visible.of d v).rowsAbove place = (Visible.of d v').rowsAbove place := by
  rw [Visible.rowsAbove, Visible.rowsAbove, List.countP_eq_length_filter,
    List.countP_eq_length_filter, h.filter_rows]

theorem Alike.sectionRow_eq (h : Alike d place v v') {s : Section}
    (hs : sectionPlace d s ≤ place) :
    sectionRow (Visible.of d v) s = sectionRow (Visible.of d v') s := by
  rw [sectionRow_of, sectionRow_of, (h.mono hs).rowsAbove_eq]

/-- The sections in front of a section that stand in its row are the same. -/
theorem Alike.earlier_eq (h : Alike d place v v') {i : Nat} {s : Section}
    (hs : d.sections[i]? = some s)
    (hplaces : ∀ j ≤ i, ∀ t, d.sections[j]? = some t → sectionPlace d t ≤ place) :
    ((List.range i).filter fun j => (d.sections[j]?).map (sectionRow (Visible.of d v)) =
        some (sectionRow (Visible.of d v) s)) =
      (List.range i).filter fun j => (d.sections[j]?).map (sectionRow (Visible.of d v')) =
        some (sectionRow (Visible.of d v') s) := by
  refine List.filter_congr fun j hj => ?_
  rw [h.sectionRow_eq (hplaces i le_rfl s hs)]
  cases ht : d.sections[j]? with
  | none => rfl
  | some t =>
      have hle := hplaces j (List.mem_range.mp hj).le t ht
      rw [Option.map_some, Option.map_some, h.sectionRow_eq hle]

section
variable (h : Alike d place v v') (hrow : row < (Visible.of d v).rowsAbove place)
include h hrow

theorem Alike.rows_eq : (Visible.of d v).rows[row]? = (Visible.of d v').rows[row]? := by
  have hlt : row < ((Visible.of d v).rows.filter (·.1 < place)).length := by
    rwa [← List.countP_eq_length_filter]
  have hfront : ∀ u : View, row < ((Visible.of d u).rows.filter (·.1 < place)).length →
      (Visible.of d u).rows[row]? = ((Visible.of d u).rows.filter (·.1 < place))[row]? := by
    intro u hu
    have happend := filter_append_filter_not
      (Visible.pairwise_rows_lt (Visible.sorted_places d u) place)
    conv_lhs => rw [← happend]
    exact List.getElem?_append_left hu
  rw [hfront v hlt, hfront v' (h.filter_rows ▸ hlt), h.filter_rows]

theorem Alike.mem_covered_iff (o : Outline) :
    row ∈ (Visible.of d v).covered o ↔ row ∈ (Visible.of d v').covered o := by
  have hown : ∀ m, row ∈ (Visible.of d v).ownRows m ↔ row ∈ (Visible.of d v').ownRows m := by
    intro m
    rw [Visible.mem_ownRows, Visible.mem_ownRows, h.rows_eq hrow]
    rfl
  simp only [Visible.covered, List.mem_flatMap, hown]

theorem Alike.firstRow?_iff (o : Outline) :
    (Visible.of d v).firstRow? o = some row ↔ (Visible.of d v').firstRow? o = some row := by
  have hrow' : row < (Visible.of d v').rowsAbove place := h.rowsAbove_eq ▸ hrow
  rw [Visible.firstRow?_eq_some_iff, Visible.firstRow?_eq_some_iff, h.mem_covered_iff hrow]
  refine and_congr_right fun _ => ⟨fun hmin r hr => ?_, fun hmin r hr => ?_⟩
  · by_contra hlt
    exact hlt (hmin r ((h.mem_covered_iff (by omega) o).mpr hr))
  · by_contra hlt
    exact hlt (hmin r ((h.symm.mem_covered_iff (by omega) o).mpr hr))

theorem Alike.lastRow?_le {o : Outline} {last : Nat}
    (hlast : (Visible.of d v').lastRow? o = some last)
    (hmem : (Visible.of d v).lastRow? o = some row) : row ≤ last :=
  (Visible.lastRow?_eq_some_iff.mp hlast).2 row
    ((h.mem_covered_iff hrow o).mp (Visible.mem_covered_of_lastRow? hmem))

theorem Alike.count_headerRows (o : Outline) :
    (headerRows (Visible.of d v) o).count row = (headerRows (Visible.of d v') o).count row := by
  rw [headerRows_eq _ 0, headerRows_eq _ 0, List.count_filterMap, List.count_filterMap]
  exact List.countP_congr fun b _ => by simpa using h.firstRow?_iff hrow b.body

theorem Alike.count_branchRows (o : Outline) :
    (branchRows (Visible.of d v) o).count row = (branchRows (Visible.of d v') o).count row := by
  rw [branchRows_eq _ 0, branchRows_eq _ 0, List.count_flatMap, List.count_flatMap]
  refine congrArg List.sum (List.map_congr_left fun b _ => ?_)
  simp only [Function.comp_apply, List.count_filterMap]
  exact List.countP_congr fun arm _ => by simpa using h.firstRow?_iff hrow arm.2

theorem Alike.sectionRow_iff (s : Section) :
    sectionRow (Visible.of d v) s = row ↔ sectionRow (Visible.of d v') s = row := by
  rcases Nat.le_total (sectionPlace d s) place with hle | hge
  · rw [h.sectionRow_eq hle]
  · have habove := Visible.rowsAbove_mono (w := Visible.of d v) hge
    have habove' := Visible.rowsAbove_mono (w := Visible.of d v') hge
    rw [← h.rowsAbove_eq] at habove'
    rw [sectionRow_of, sectionRow_of]
    omega

/-- Above the place, two gaps differ in the blocks that end there at most. -/
theorem Alike.gapAt_eq : gapAt d (Visible.of d v) row =
    { gapAt d (Visible.of d v') row with footers := (gapAt d (Visible.of d v) row).footers } := by
  have hsections : (gapAt d (Visible.of d v) row).sections =
      (gapAt d (Visible.of d v') row).sections := by
    refine List.filter_congr fun i _ => ?_
    cases d.sections[i]? with
    | none => rfl
    | some s => simpa using h.sectionRow_iff hrow s
  have hheaders := h.count_headerRows hrow d.outline
  have hbranches := h.count_branchRows hrow d.outline
  simp only [gapAt] at hsections ⊢
  rw [hsections, hheaders, hbranches]

end

theorem Alike.row?_of (h : Alike d place v v') {p : Nat} (hp : p < place)
    (hrow : (Visible.of d v).row? p = some row) :
    row < (Visible.of d v).rowsAbove place ∧ (Visible.of d v').row? p = some row := by
  obtain ⟨hlt, hat, -⟩ := List.findIdx?_eq_some_iff_getElem.mp hrow
  have hplace : (Visible.of d v).places[row]? = some p := by
    rw [List.getElem?_eq_getElem hlt, beq_iff_eq.mp hat]
  rw [Visible.getElem?_places] at hplace
  obtain ⟨e, he, rfl⟩ := Option.map_eq_some_iff.mp hplace
  have habove := (Visible.lt_rowsAbove_iff (Visible.sorted_places d v) he).mpr hp
  refine ⟨habove, Visible.row?_of_places (Visible.sorted_places d v') ?_⟩
  rw [Visible.getElem?_places, ← h.rows_eq habove, he]
  rfl

/-! ### Heights above the place -/

section
variable {α : Type} [Add α] [Mul α] [NatCast α] {c : Config α} (h : Alike d place v v')
  (hfeet : ∀ r < (Visible.of d v).rowsAbove place,
    (footerRows (Visible.of d v) d.outline).count r =
      (footerRows (Visible.of d v') d.outline).count r)
include h hfeet

omit h in
theorem footers_gapAt_eq (hrow : row ≤ (Visible.of d v).rowsAbove place) :
    (gapAt d (Visible.of d v) row).footers = (gapAt d (Visible.of d v') row).footers := by
  cases row with
  | zero => rw [footers_gapAt_zero, footers_gapAt_zero]
  | succ row => rw [footers_gapAt_succ, footers_gapAt_succ, hfeet row hrow]

theorem Alike.gapAt_eq_of_feet (hrow : row < (Visible.of d v).rowsAbove place) :
    gapAt d (Visible.of d v) row = gapAt d (Visible.of d v') row := by
  rw [h.gapAt_eq hrow, footers_gapAt_eq hfeet hrow.le]

theorem Alike.reach_eq (hrow : row ≤ (Visible.of d v).rowsAbove place) :
    reach c d (Visible.of d v) row = reach c d (Visible.of d v') row := by
  induction row with
  | zero => rfl
  | succ row ih => rw [reach, reach, h.gapAt_eq_of_feet hfeet hrow, ih (Nat.le_of_succ_le hrow)]

/-- Where blocks end alike, rows above the place have the same height. -/
theorem Alike.row_eq (hrow : row < (Visible.of d v).rowsAbove place) :
    (heights c d (Visible.of d v)).row row = (heights c d (Visible.of d v')).row row := by
  have hrow' : row < (Visible.of d v').rowsAbove place := h.rowsAbove_eq ▸ hrow
  rw [row_heights (hrow.trans_le (Visible.rowsAbove_le _ _)),
    row_heights (hrow'.trans_le (Visible.rowsAbove_le _ _)), h.gapAt_eq_of_feet hfeet hrow,
    h.reach_eq hfeet hrow.le]

theorem Alike.map_row?_eq {p : Nat} (hp : p < place) :
    ((Visible.of d v).row? p).map (heights c d (Visible.of d v)).row =
      ((Visible.of d v').row? p).map (heights c d (Visible.of d v')).row := by
  cases hrow : (Visible.of d v).row? p with
  | some row =>
      obtain ⟨habove, hrow'⟩ := h.row?_of hp hrow
      rw [hrow', Option.map_some, Option.map_some, h.row_eq hfeet habove]
  | none =>
      cases hrow' : (Visible.of d v').row? p with
      | none => rw [Option.map_none, Option.map_none]
      | some row =>
          exact absurd ((h.symm.row?_of hp hrow').2.symm.trans hrow) (Option.some_ne_none row)

/-- Where blocks end alike, a section that comes no later than the place has the same height. -/
theorem Alike.section_eq {i : Nat} {s : Section} (hs : d.sections[i]? = some s)
    (hplaces : ∀ j ≤ i, ∀ t, d.sections[j]? = some t → sectionPlace d t ≤ place) :
    (heights c d (Visible.of d v)).section i = (heights c d (Visible.of d v')).section i := by
  have hrow : sectionRow (Visible.of d v) s ≤ (Visible.of d v).rowsAbove place := by
    rw [sectionRow_of]
    exact Visible.rowsAbove_mono (hplaces i le_rfl s hs)
  rw [section_heights hs, section_heights hs, h.earlier_eq hs hplaces,
    ← h.sectionRow_eq (hplaces i le_rfl s hs), h.reach_eq hfeet hrow, footers_gapAt_eq hfeet hrow]

end

/-! ### Blocks that end above the place under one view only -/

section
variable {α : Type} [Field α] {c : Config α} (h : Alike d place v v')
include h

theorem Alike.room_add (hrow : row < (Visible.of d v).rowsAbove place) :
    (gapAt d (Visible.of d v) row).room c +
        ((gapAt d (Visible.of d v') row).footers : α) * c.blockFooterPadding =
      (gapAt d (Visible.of d v') row).room c +
        ((gapAt d (Visible.of d v) row).footers : α) * c.blockFooterPadding := by
  rw [h.gapAt_eq hrow]
  simp only [Gap.room]
  ring

/-- Behind the blocks that end in front of a row, the height differs in the padding of the blocks
that end above the row. -/
theorem Alike.reach_add (hrow : row ≤ (Visible.of d v).rowsAbove place) :
    reach c d (Visible.of d v) row +
        ((gapAt d (Visible.of d v) row).footers : α) * c.blockFooterPadding +
        ((footerRows (Visible.of d v') d.outline).countP (· < row) : α) * c.blockFooterPadding =
      reach c d (Visible.of d v') row +
        ((gapAt d (Visible.of d v') row).footers : α) * c.blockFooterPadding +
        ((footerRows (Visible.of d v) d.outline).countP (· < row) : α) * c.blockFooterPadding := by
  induction row with
  | zero => simp [reach, footers_gapAt_zero]
  | succ row ih =>
      have habove := ih (Nat.le_of_succ_le hrow)
      have hroom := h.room_add (c := c) hrow
      rw [reach, reach, behind_eq, behind_eq, footers_gapAt_succ, footers_gapAt_succ,
        countP_lt_succ, countP_lt_succ]
      push_cast
      linear_combination habove + hroom

/-- A section that comes no later than the place moves by the padding of the blocks that end above
it under one view only. -/
theorem Alike.section_add {i : Nat} {s : Section} (hs : d.sections[i]? = some s)
    (hplaces : ∀ j ≤ i, ∀ t, d.sections[j]? = some t → sectionPlace d t ≤ place) :
    (heights c d (Visible.of d v)).section i +
        ((footerRows (Visible.of d v') d.outline).countP (· < sectionRow (Visible.of d v) s) : α) *
          c.blockFooterPadding =
      (heights c d (Visible.of d v')).section i +
        ((footerRows (Visible.of d v) d.outline).countP (· < sectionRow (Visible.of d v) s) : α) *
          c.blockFooterPadding := by
  have hrow : sectionRow (Visible.of d v) s ≤ (Visible.of d v).rowsAbove place := by
    rw [sectionRow_of]
    exact Visible.rowsAbove_mono (hplaces i le_rfl s hs)
  have hreach := h.reach_add (c := c) hrow
  rw [section_heights hs, section_heights hs, h.earlier_eq hs hplaces,
    ← h.sectionRow_eq (hplaces i le_rfl s hs), placeSections_snd, placeSections_snd]
  linear_combination hreach

end

end

end Lifeline.Layout
