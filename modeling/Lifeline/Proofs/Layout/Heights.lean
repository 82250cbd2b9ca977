import Lifeline.Proofs.Layout.Windows
import Mathlib.Algebra.Order.Field.Basic
import Mathlib.Data.List.Nodup
import Mathlib.Data.List.Perm.Basic
import Mathlib.Tactic.Linarith
import Mathlib.Tactic.Ring

/-! # The vertical pass finds every height

Where blocks begin, branch and end, and where sections stand, there is a gap, so the vertical pass
reads what it needs at every row: it places as many rows as there are visible steps
(`length_rows_heights`) and every section once (`sections_heights_perm`). A row, and a section, has
its height from the gap in front of the row and from the height at which this gap begins, which the
rows above have `reach`ed (`row_heights`, `section_heights`).

In exact arithmetic a row lies below the one before it by the step spacing and the room of the gap
between the two (`row_succ`). So between any two rows there is room for the ends of all blocks
behind the upper row and the heads of all blocks in front of the lower one (`row_le_row`). -/

namespace Lifeline.Layout

/-! ### Gaps -/

section
variable {d : Diagram} {w : Visible}

theorem sectionRow_le (w : Visible) (s : Section) : sectionRow w s ≤ w.count := by
  unfold sectionRow
  cases h : (w.callPlace? s.firstMessage).bind w.firstFrom? with
  | none => exact le_rfl
  | some row =>
      obtain ⟨place, -, hrow⟩ := Option.bind_eq_some_iff.mp h
      exact (Visible.lt_count_of_firstFrom? hrow).le

/-- What stands in front of a row. -/
def gapAt (d : Diagram) (w : Visible) (row : Nat) : Gap where
  footers := (footerRows w d.outline).countP (· + 1 = row)
  sections := (List.range d.sections.length).filter fun i =>
    (d.sections[i]?).map (sectionRow w) = some row
  headers := (headerRows w d.outline).count row
  branches := (branchRows w d.outline).count row

theorem gaps_eq (d : Diagram) (w : Visible) :
    gaps d w = (List.range (w.count + 1)).map (gapAt d w) := by
  simp [gaps, gapAt]

theorem length_gaps (d : Diagram) (w : Visible) : (gaps d w).length = w.count + 1 := by
  simp [gaps_eq]

theorem mem_gapAt_sections {row i : Nat} :
    i ∈ (gapAt d w row).sections ↔ (d.sections[i]?).map (sectionRow w) = some row := by
  simp only [gapAt, List.mem_filter, List.mem_range, decide_eq_true_eq, and_iff_right_iff_imp]
  intro h
  obtain ⟨s, hs, -⟩ := Option.map_eq_some_iff.mp h
  exact (List.getElem?_eq_some_iff.mp hs).1

theorem footers_gapAt_succ (row : Nat) :
    (gapAt d w (row + 1)).footers = (footerRows w d.outline).count row :=
  List.countP_congr fun r _ => by simp

theorem footers_gapAt_zero : (gapAt d w 0).footers = 0 :=
  List.countP_eq_zero.mpr fun r _ => by simp

/-- Every section stands in one gap. -/
theorem sections_gaps_perm (d : Diagram) (w : Visible) :
    ((gaps d w).flatMap Gap.sections).Perm (List.range d.sections.length) := by
  rw [gaps_eq, List.flatMap_map]
  refine (List.perm_ext_iff_of_nodup ?_ List.nodup_range).mpr fun i => ?_
  · refine List.nodup_flatMap.mpr ⟨fun row _ => List.nodup_range.filter _, ?_⟩
    refine List.nodup_range.imp fun {a b} hab i hia hib => ?_
    rw [mem_gapAt_sections] at hia hib
    exact hab (Option.some.inj (hia.symm.trans hib))
  · rw [List.mem_flatMap, List.mem_range]
    constructor
    · rintro ⟨row, -, hi⟩
      obtain ⟨s, hs, -⟩ := Option.map_eq_some_iff.mp (mem_gapAt_sections.mp hi)
      exact (List.getElem?_eq_some_iff.mp hs).1
    · intro hi
      refine ⟨sectionRow w d.sections[i], ?_, ?_⟩
      · exact List.mem_range.mpr (Nat.lt_succ_of_le (sectionRow_le w _))
      · rw [mem_gapAt_sections, List.getElem?_eq_getElem hi]
        rfl

end

/-! ### What is placed -/

section
variable {α : Type}

theorem Heights.section_of_mem {h : Heights α} (hnodup : (h.sections.map Prod.fst).Nodup) {i : Nat}
    {y : α} (hmem : (i, y) ∈ h.sections) : h.section i = y := by
  unfold Heights.section
  cases hfind : h.sections.find? fun s => s.1 = i with
  | none =>
      have hno := List.find?_eq_none.mp hfind _ hmem
      simp at hno
  | some e =>
      have hi : e.1 = i := by simpa using List.find?_some hfind
      obtain rfl : e = (i, y) :=
        List.inj_on_of_nodup_map hnodup (List.mem_of_find?_eq_some hfind) hmem hi
      rfl

variable [Add α] (c : Config α)

theorem sections_placeSections (y : α) (is : List Nat) :
    (placeSections c y is).1.map Prod.fst = is := by
  induction is generalizing y with
  | nil => rfl
  | cons i is ih =>
      rw [placeSections, List.map_cons]
      exact congrArg (i :: ·) (ih _)

theorem mem_placeSections (y : α) (before : List Nat) (i : Nat) (rest : List Nat) :
    (i, (placeSections c y before).2 + c.sectionPaddingTop) ∈
      (placeSections c y (before ++ i :: rest)).1 := by
  induction before generalizing y with
  | nil => exact List.mem_cons_self
  | cons j before ih => exact List.mem_cons_of_mem _ (ih _)

variable [Mul α] [NatCast α]

/-- The height of the row behind a gap that begins at `y`. -/
def Gap.behind (y : α) (g : Gap) : α :=
  (placeSections c (y + (g.footers : α) * c.blockFooterPadding) g.sections).2 +
    (g.headers : α) * c.blockHeaderPadding + (g.branches : α) * c.branchPadding

theorem placeRows_cons_cons (y : α) (g next : Gap) (more : List Gap) :
    placeRows c y (g :: next :: more) =
      let below := placeRows c (g.behind c y + c.stepSpacing) (next :: more)
      { rows := g.behind c y :: below.rows
        sections := (placeSections c (y + (g.footers : α) * c.blockFooterPadding) g.sections).1 ++
          below.sections
        bottom := below.bottom } := rfl

variable (d : Diagram) (w : Visible)

/-- The height at which the gap in front of a row begins. -/
def reach : Nat → α
  | 0 => c.headerHeight
  | row + 1 => (gapAt d w row).behind c (reach row) + c.stepSpacing

/-- The sections in front of a row, with their heights, and the height behind them. -/
def sectionsAt (row : Nat) : List (Nat × α) × α :=
  placeSections c (reach c d w row + ((gapAt d w row).footers : α) * c.blockFooterPadding)
    (gapAt d w row).sections

/-- From any row on, the pass goes on from the height that it has reached. -/
theorem placeRows_gapAt (row n : Nat) :
    placeRows c (reach c d w row) ((List.range' row (n + 1)).map (gapAt d w)) =
      { rows := (List.range' row n).map fun r => (gapAt d w r).behind c (reach c d w r)
        sections := (List.range' row (n + 1)).flatMap fun r => (sectionsAt c d w r).1
        bottom := (sectionsAt c d w (row + n)).2 } := by
  induction n generalizing row with
  | zero =>
      rw [List.range'_one, List.flatMap_singleton]
      rfl
  | succ n ih =>
      have hbelow := ih (row + 1)
      have hreach : (gapAt d w row).behind c (reach c d w row) + c.stepSpacing =
        reach c d w (row + 1) := rfl
      have hend : row + 1 + n = row + (n + 1) := Nat.succ_add_eq_add_succ row n
      rw [List.range'_succ, List.map_cons] at hbelow
      rw [List.range'_succ, List.range'_succ, List.map_cons, List.map_cons, placeRows_cons_cons,
        hreach, hbelow, hend]
      rfl

theorem heights_eq : heights c d w =
    { rows := (List.range w.count).map fun r => (gapAt d w r).behind c (reach c d w r)
      sections := (List.range (w.count + 1)).flatMap fun r => (sectionsAt c d w r).1
      bottom := (sectionsAt c d w w.count).2 } := by
  have h := placeRows_gapAt c d w 0 w.count
  rwa [← List.range_eq_range', ← List.range_eq_range', Nat.zero_add, ← gaps_eq] at h

variable {c d w}

theorem length_rows_heights : (heights c d w).rows.length = w.count := by
  simp [heights_eq]

theorem sections_heights_perm :
    ((heights c d w).sections.map Prod.fst).Perm (List.range d.sections.length) := by
  have hsections : (heights c d w).sections.map Prod.fst = (gaps d w).flatMap Gap.sections := by
    rw [heights_eq, gaps_eq, List.flatMap_map, List.map_flatMap]
    simp only [sectionsAt, sections_placeSections]
  rw [hsections]
  exact sections_gaps_perm d w

/-- A row stands behind its gap. -/
theorem row_heights {row : Nat} (h : row < w.count) :
    (heights c d w).row row = (gapAt d w row).behind c (reach c d w row) := by
  rw [heights_eq, Heights.row, List.getD_eq_getElem?_getD, List.getElem?_map, List.getElem?_range h]
  rfl

/-- A section stands below the ends of blocks and the earlier sections in its gap. -/
theorem section_heights {i : Nat} {s : Section} (hs : d.sections[i]? = some s) :
    (heights c d w).section i =
      (placeSections c
        (reach c d w (sectionRow w s) +
          ((gapAt d w (sectionRow w s)).footers : α) * c.blockFooterPadding)
        ((List.range i).filter fun j =>
          (d.sections[j]?).map (sectionRow w) = some (sectionRow w s))).2 +
        c.sectionPaddingTop := by
  refine Heights.section_of_mem ?_ ?_
  · exact (sections_heights_perm.nodup_iff).mpr List.nodup_range
  · rw [heights_eq]
    refine List.mem_flatMap.mpr ⟨sectionRow w s, ?_, ?_⟩
    · exact List.mem_range.mpr (Nat.lt_succ_of_le (sectionRow_le w s))
    · have hlt : i < d.sections.length := (List.getElem?_eq_some_iff.mp hs).1
      have hrange : List.range d.sections.length =
          List.range i ++ i :: List.range' (i + 1) (d.sections.length - i - 1) := by
        rw [List.range_eq_range', List.range_eq_range', ← List.range'_succ]
        have happend := @List.range'_append 0 i (d.sections.length - i - 1 + 1) 1
        rw [Nat.one_mul, Nat.zero_add] at happend
        rw [happend]
        congr 1
        omega
      rw [sectionsAt, gapAt, hrange, List.filter_append, List.filter_cons_of_pos (by simp [hs])]
      exact mem_placeSections c _ _ i _

end

/-! ### Distances -/

/-- The measures of a layout, in one list. -/
def Config.measures {α : Type} (c : Config α) : List α :=
  [c.stepSpacing, c.headerHeight, c.participantHeight, c.participantGap, c.minParticipantWidth,
    c.participantPadding, c.messageLabelPadding, c.selfCallWidth, c.blockHeaderPadding,
    c.branchPadding, c.blockFooterPadding, c.blockPaddingX, c.frameInset, c.sectionPaddingTop,
    c.sectionPaddingBottom, c.noteOffset, c.noteGap, c.notePadding, c.noteLineHeight, c.noteMargin,
    c.foldSize, c.collapsedNoteSize, c.activationWidth, c.activationDepthOffset, c.avgCharWidth,
    c.groupPadding, c.margin]

section
variable {α : Type} [Field α]

/-- The height that a gap takes, for what stands in it. -/
def Gap.room (c : Config α) (g : Gap) : α :=
  g.footers * c.blockFooterPadding +
    g.sections.length * (c.sectionPaddingTop + c.sectionPaddingBottom) +
    g.headers * c.blockHeaderPadding + g.branches * c.branchPadding

variable {c : Config α} {y : α}

theorem placeSections_snd (is : List Nat) : (placeSections c y is).2 =
    y + is.length * (c.sectionPaddingTop + c.sectionPaddingBottom) := by
  induction is generalizing y with
  | nil => simp [placeSections]
  | cons i is ih =>
      simp only [placeSections, ih, List.length_cons, Nat.cast_succ]
      ring

theorem behind_eq (g : Gap) : g.behind c y = y + g.room c := by
  rw [Gap.behind, placeSections_snd, Gap.room]
  ring

variable {d : Diagram} {w : Visible}

theorem row_succ {row : Nat} (h : row + 1 < w.count) : (heights c d w).row (row + 1) =
    (heights c d w).row row + c.stepSpacing + (gapAt d w (row + 1)).room c := by
  rw [row_heights h, row_heights (Nat.lt_of_succ_lt h), behind_eq (gapAt d w (row + 1)), reach]

variable [LinearOrder α]

/-- No measure is negative. -/
def Config.Nonneg (c : Config α) : Prop := ∀ x ∈ c.measures, 0 ≤ x

instance (c : Config α) : Decidable c.Nonneg := inferInstanceAs (Decidable (∀ x ∈ _, _))

theorem Config.Nonneg.step (hc : c.Nonneg) : 0 ≤ c.stepSpacing := hc _ (by simp [measures])

theorem Config.Nonneg.header (hc : c.Nonneg) : 0 ≤ c.blockHeaderPadding :=
  hc _ (by simp [measures])

theorem Config.Nonneg.footer (hc : c.Nonneg) : 0 ≤ c.blockFooterPadding :=
  hc _ (by simp [measures])

variable [IsStrictOrderedRing α]

theorem half_add_half (x : α) : half x + half x = x := by
  have htwo : ((2 : Nat) : α) = 2 := by norm_num
  rw [half, htwo, add_halves]

theorem Config.Nonneg.headers (hc : c.Nonneg) (n : Nat) : 0 ≤ (n : α) * c.blockHeaderPadding :=
  mul_nonneg n.cast_nonneg hc.header

theorem Config.Nonneg.footers (hc : c.Nonneg) (n : Nat) : 0 ≤ (n : α) * c.blockFooterPadding :=
  mul_nonneg n.cast_nonneg hc.footer

theorem Config.Nonneg.sections (hc : c.Nonneg) (n : Nat) :
    0 ≤ (n : α) * (c.sectionPaddingTop + c.sectionPaddingBottom) :=
  mul_nonneg n.cast_nonneg (add_nonneg (hc _ (by simp [measures])) (hc _ (by simp [measures])))

theorem Config.Nonneg.branches (hc : c.Nonneg) (n : Nat) : 0 ≤ (n : α) * c.branchPadding :=
  mul_nonneg n.cast_nonneg (hc _ (by simp [measures]))

/-- The room of a gap holds the ends of blocks behind the row above it and the heads of blocks in
front of the row below it. -/
theorem Config.Nonneg.le_room (hc : c.Nonneg) (row : Nat) :
    ((footerRows w d.outline).count row : α) * c.blockFooterPadding +
      ((headerRows w d.outline).count (row + 1) : α) * c.blockHeaderPadding ≤
        (gapAt d w (row + 1)).room c := by
  have hheaders : (gapAt d w (row + 1)).headers = (headerRows w d.outline).count (row + 1) := rfl
  have hsections := hc.sections (gapAt d w (row + 1)).sections.length
  have hbranches := hc.branches (gapAt d w (row + 1)).branches
  rw [Gap.room, footers_gapAt_succ, hheaders]
  linarith

/-- Between two rows there is room for the ends of the blocks behind the upper one, for the heads
of the blocks in front of the lower one, and for a step. -/
theorem Config.Nonneg.row_le_row (hc : c.Nonneg) {r r' : Nat} (hlt : r < r') (h : r' < w.count) :
    (heights c d w).row r + c.stepSpacing +
      ((footerRows w d.outline).count r : α) * c.blockFooterPadding +
      ((headerRows w d.outline).count r' : α) * c.blockHeaderPadding ≤ (heights c d w).row r' := by
  have hstep := hc.step
  induction hlt with
  | refl =>
      have hroom := hc.le_room (d := d) (w := w) r
      rw [row_succ h]
      linarith
  | @step r' hlt ih =>
      have hroom := hc.le_room (d := d) (w := w) r'
      have hbelow := ih (by omega)
      have hheads := hc.headers ((headerRows w d.outline).count r')
      have hfeet := hc.footers ((footerRows w d.outline).count r')
      rw [row_succ h]
      linarith

theorem Config.Nonneg.row_mono (hc : c.Nonneg) {r r' : Nat} (hle : r ≤ r') (h : r' < w.count) :
    (heights c d w).row r ≤ (heights c d w).row r' := by
  rcases hle.eq_or_lt with rfl | hlt
  · exact le_rfl
  · have hrow := hc.row_le_row (d := d) hlt h
    have hfeet := hc.footers ((footerRows w d.outline).count r)
    have hheads := hc.headers ((headerRows w d.outline).count r')
    have hstep := hc.step
    linarith

end

end Lifeline.Layout
