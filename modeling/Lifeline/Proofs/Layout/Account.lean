import Lifeline.Proofs.Layout.Arms
import Lifeline.Proofs.Layout.Assembly
import Lifeline.Proofs.Layout.Descent

/-! # The height is accounted for

The height at which the gap in front of a row begins is the sum of what stands above it: the steps,
and the ends, heads and branches of blocks and the sections whose gaps lie above (`reach_eq`). At
the end of the drawing nothing is left out, so the whole height is the sum over all blocks, branches
and sections (`bottom_heights`).

The frames of a drawing are those of the blocks with a visible step, except for blocks whose frame
would have no width (`unframed`); and a frame has a divider for each arm with a visible step. So the
height of a drawing is accounted for by what it shows (`Diagram.height_read`). -/

namespace Lifeline.Layout

/-- The height that is taken by the head of a drawing, by steps, blocks, branches and sections. -/
def Config.accounted {α : Type} [Add α] [Mul α] [NatCast α] (c : Config α)
    (steps blocks branches sections : Nat) : α :=
  c.headerHeight + (steps : α) * c.stepSpacing +
    (blocks : α) * (c.blockHeaderPadding + c.blockFooterPadding) +
    (branches : α) * c.branchPadding +
    (sections : α) * (c.sectionPaddingTop + c.sectionPaddingBottom)

/-! ### What stands above a row -/

section
variable {d : Diagram} {w : Visible}

theorem footers_gapAt (row : Nat) :
    (gapAt d w row).footers = ((footerRows w d.outline).map (· + 1)).count row := by
  rw [List.count_eq_countP, List.countP_map]
  exact List.countP_congr fun r _ => by simp

theorem length_sections_gapAt (row : Nat) :
    (gapAt d w row).sections.length = (d.sections.map (sectionRow w)).count row := by
  have hget : (List.range d.sections.length).map (d.sections[·]?) = d.sections.map some := by
    refine List.ext_getElem (by simp) fun i hi hi' => ?_
    simp only [List.getElem_map, List.getElem_range]
    exact List.getElem?_eq_getElem (by simpa using hi')
  have hcount : (gapAt d w row).sections.length =
      ((List.range d.sections.length).map (d.sections[·]?)).countP fun s =>
        s.map (sectionRow w) = some row := by
    rw [List.countP_map, List.countP_eq_length_filter]
    rfl
  rw [hcount, hget, List.countP_map, List.count_eq_countP, List.countP_map]
  exact List.countP_congr fun s _ => by simp

variable {α : Type} [Field α] {c : Config α}

theorem reach_eq (row : Nat) : reach c d w row =
    c.headerHeight + (row : α) * c.stepSpacing +
      (((footerRows w d.outline).map (· + 1)).countP (· < row) : α) * c.blockFooterPadding +
      ((d.sections.map (sectionRow w)).countP (· < row) : α) *
        (c.sectionPaddingTop + c.sectionPaddingBottom) +
      ((headerRows w d.outline).countP (· < row) : α) * c.blockHeaderPadding +
      ((branchRows w d.outline).countP (· < row) : α) * c.branchPadding := by
  induction row with
  | zero => simp [reach]
  | succ row ih =>
      have hheaders : (gapAt d w row).headers = (headerRows w d.outline).count row := rfl
      have hbranches : (gapAt d w row).branches = (branchRows w d.outline).count row := rfl
      rw [reach, behind_eq, ih, Gap.room, footers_gapAt, length_sections_gapAt, hheaders, hbranches,
        countP_lt_succ, countP_lt_succ, countP_lt_succ, countP_lt_succ]
      push_cast
      ring

theorem bottom_add_step : (heights c d w).bottom + c.stepSpacing = reach c d w (w.count + 1) := by
  have hheaders : (gapAt d w w.count).headers = 0 := List.count_eq_zero.mpr fun hmem =>
    lt_irrefl _ (lt_count_of_mem_headerRows hmem)
  have hbranches : (gapAt d w w.count).branches = 0 := List.count_eq_zero.mpr fun hmem =>
    lt_irrefl _ (lt_count_of_mem_branchRows hmem)
  rw [heights_eq, reach, Gap.behind, hheaders, hbranches, sectionsAt]
  simp

/-- Above the end there are all blocks, branches and sections. -/
theorem bottom_heights : (heights c d w).bottom =
    c.headerHeight + (w.count : α) * c.stepSpacing +
      ((footerRows w d.outline).length : α) * c.blockFooterPadding +
      (d.sections.length : α) * (c.sectionPaddingTop + c.sectionPaddingBottom) +
      ((headerRows w d.outline).length : α) * c.blockHeaderPadding +
      ((branchRows w d.outline).length : α) * c.branchPadding := by
  have hfooters : ((footerRows w d.outline).map (· + 1)).countP (· < w.count + 1) =
      (footerRows w d.outline).length := by
    rw [List.countP_map, List.countP_eq_length]
    intro row hrow
    simpa using lt_count_of_mem_footerRows hrow
  have hsections : (d.sections.map (sectionRow w)).countP (· < w.count + 1) =
      d.sections.length := by
    rw [List.countP_map, List.countP_eq_length]
    intro s _
    simpa using Nat.lt_succ_of_le (sectionRow_le w s)
  have hheaders : (headerRows w d.outline).countP (· < w.count + 1) =
      (headerRows w d.outline).length := List.countP_eq_length.mpr fun row hrow => by
    simpa using (lt_count_of_mem_headerRows hrow).trans (Nat.lt_succ_self _)
  have hbranches : (branchRows w d.outline).countP (· < w.count + 1) =
      (branchRows w d.outline).length := List.countP_eq_length.mpr fun row hrow => by
    simpa using (lt_count_of_mem_branchRows hrow).trans (Nat.lt_succ_self _)
  have hbottom := bottom_add_step (c := c) (d := d) (w := w)
  rw [reach_eq, hfooters, hsections, hheaders, hbranches] at hbottom
  push_cast at hbottom
  linear_combination hbottom

end

/-! ### Blocks and branches -/

section
variable {d : Diagram} {v : View}

theorem isSome_lastRow? {w : Visible} {o : Outline} :
    (w.lastRow? o).isSome = (w.firstRow? o).isSome := by
  cases hfirst : w.firstRow? o with
  | some first =>
      obtain ⟨last, hlast, -⟩ := Visible.exists_lastRow? hfirst
      rw [hlast]
      rfl
  | none =>
      rw [Visible.lastRow?, List.min?_eq_none_iff.mp hfirst]
      rfl

theorem length_headerRows :
    (headerRows (.of d v) d.outline).length = (shownBlocks d v).length := by
  rw [headerRows_eq _ 0, List.length_filterMap_eq_countP, shownBlocks,
    List.countP_eq_length_filter]

theorem length_footerRows :
    (footerRows (.of d v) d.outline).length = (shownBlocks d v).length := by
  rw [footerRows_eq _ 0, List.length_filterMap_eq_countP, shownBlocks,
    List.countP_eq_length_filter]
  simp only [isSome_lastRow?]

theorem shownArms_eq_nil {b : NestedBlock} (h : (Visible.of d v).firstRow? b.body = none) :
    shownArms d v b = [] := by
  refine List.filter_eq_nil_iff.mpr fun arm harm hsome => ?_
  obtain ⟨row, hrow⟩ := Option.isSome_iff_exists.mp hsome
  obtain ⟨first, hfirst, -⟩ := Visible.exists_firstRow?_of_arm harm hrow
  rw [h] at hfirst
  cases hfirst

theorem length_branchRows :
    (branchRows (.of d v) d.outline).length =
      ((shownBlocks d v).flatMap (shownArms d v)).length := by
  rw [branchRows_eq _ 0, shownBlocks]
  induction d.outline.allBlocks 0 with
  | nil => rfl
  | cons b blocks ih =>
      have harms : (b.body.arms.2.filterMap fun arm => (Visible.of d v).firstRow? arm.2).length =
          (shownArms d v b).length := by
        rw [List.length_filterMap_eq_countP, shownArms, List.countP_eq_length_filter]
      rw [List.flatMap_cons, List.length_append, ih, harms]
      cases hfirst : (Visible.of d v).firstRow? b.body with
      | some first =>
          rw [List.filter_cons_of_pos (by rw [hfirst]; rfl), List.flatMap_cons, List.length_append]
      | none =>
          rw [List.filter_cons_of_neg (by rw [hfirst]; simp), shownArms_eq_nil hfirst,
            List.length_nil, Nat.zero_add]

end

/-! ### Frames and dividers -/

section
variable {α : Type} [Field α] [LinearOrder α] {c : Config α} {d : Diagram} {v : View}
  {ts : List (PlacedStep α)} {g : Drawing α} {dx : α}

/-- The blocks that have a visible step but no frame: where the room beside a lifeline is negative,
the left end of a frame may be on the right of its right end. -/
def unframed (c : Config α) (d : Diagram) (v : View) : List NestedBlock :=
  (shownBlocks d v).filter fun b => !(blockFrame? c d v b).isSome

theorem length_dividers {b : NestedBlock} {f : Frame α} (hf : blockFrame? c d v b = some f) :
    ((Visible.of d v).firstRow? b.body).isSome ∧ f.dividers.length = (shownArms d v b).length := by
  obtain ⟨first, hfirst, hdividers⟩ := forall₂_dividers hf
  exact ⟨Option.isSome_of_eq_some hfirst, hdividers.length_eq.symm⟩

/-- Of blocks and their arms, some have frames and dividers, and the others have none. -/
theorem length_blocks_and_arms (bs : List NestedBlock) :
    bs.length = (bs.filterMap (blockFrame? c d v)).length +
        (bs.filter fun b => !(blockFrame? c d v b).isSome).length ∧
      (bs.flatMap (shownArms d v)).length =
        ((bs.filterMap (blockFrame? c d v)).map fun f => f.dividers.length).sum +
          ((bs.filter fun b => !(blockFrame? c d v b).isSome).flatMap (shownArms d v)).length := by
  induction bs with
  | nil => exact ⟨rfl, rfl⟩
  | cons b bs ih =>
      obtain ⟨hblocks, harms⟩ := ih
      rw [List.length_cons, List.flatMap_cons, List.length_append, hblocks, harms]
      cases hf : blockFrame? c d v b with
      | some f =>
          have hdividers := (length_dividers hf).2
          rw [List.filterMap_cons_some hf, List.filter_cons_of_neg (by simp [hf]), List.length_cons,
            List.map_cons, List.sum_cons]
          omega
      | none =>
          rw [List.filterMap_cons_none hf, List.filter_cons_of_pos (by simp [hf]), List.length_cons,
            List.flatMap_cons, List.length_append]
          omega

theorem filterMap_shownBlocks : (shownBlocks d v).filterMap (blockFrame? c d v) =
    (d.outline.allBlocks 0).filterMap (blockFrame? c d v) := by
  rw [shownBlocks, List.filterMap_filter]
  refine List.filterMap_congr fun b _ => ?_
  cases hf : blockFrame? c d v b with
  | none => rw [ite_self]
  | some f => rw [if_pos (length_dividers hf).1]

/-- Where there is room beside a lifeline, every block with a visible step has a frame. -/
theorem unframed_eq_nil (hd : d.Registered) (hc : c.Roomy) : unframed c d v = [] := by
  refine List.filter_eq_nil_iff.mpr fun b hb hnone => ?_
  have hshown := (List.mem_filter.mp hb).2
  rw [← isSome_blockFrame? hd hc b] at hshown
  rw [hshown] at hnone
  cases hnone

/-- The frames and the dividers of a drawing are as many as the blocks with a visible step and their
arms, but for blocks without a frame. -/
theorem Drawing.Fits.length_frames (h : (draft c d v ts).Fits g) :
    (shownBlocks d v).length = g.frames.length + (unframed c d v).length ∧
      ((shownBlocks d v).flatMap (shownArms d v)).length =
        (g.frames.map fun f => f.dividers.length).sum +
          ((unframed c d v).flatMap (shownArms d v)).length := by
  have hframes : (draft c d v ts).frames =
      (shownBlocks d v).filterMap (blockFrame? c d v) := by
    rw [filterMap_shownBlocks]
    simp only [draft, sketch, framesOf_eq]
  have hlengths := congrArg List.length h.level.frames
  rw [List.length_map, List.length_map, hframes] at hlengths
  have hdividers := congrArg (List.map fun f => f.2.2.2.2.2.2.length) h.level.frames
  rw [List.map_map, List.map_map, hframes] at hdividers
  have hsum : (g.frames.map fun f => f.dividers.length) =
    ((shownBlocks d v).filterMap (blockFrame? c d v)).map fun f => f.dividers.length := hdividers
  rw [hlengths, hsum]
  exact length_blocks_and_arms (shownBlocks d v)

theorem Drawing.Fits.length_bands (h : (draft c d v ts).Fits g) (hps : d.participants ≠ []) :
    g.bands.length = d.sections.length := by
  have hlength := congrArg List.length h.map_bands
  have hshown : shownSections d = d.sections := if_neg (by simpa using hps)
  rwa [List.length_map, List.length_map, List.length_zipIdx, hshown] at hlength

theorem Drawing.Settles.height_eq (h : (whole c d v ts).Settles dx g) (hv : v.showNotes = false) :
    g.height = (heights c d (.of d v)).bottom := by
  have hnotes : (draft c d v ts).notes = [] := by
    simp only [draft, placedNotes, hv]
    rfl
  rw [h.height, whole]
  simp only [hnotes, List.foldl_nil]

end

end Lifeline.Layout

namespace Lifeline

open Layout

/-- **The height is accounted for.** A document that could be read and that has participants has a
drawing under every view that hides the notes and with all measures, in exact arithmetic. Its height
is the sum of the header height, of the step spacing for each step that is drawn, of the paddings
for each frame, for each divider and for each section, and of the same paddings for each block that
has a visible step but no frame and for each arm of such a block. There are no such blocks if the
room beside a lifeline is not negative; then what is drawn accounts for the height. -/
theorem Diagram.height_read {α : Type} [Field α] [LinearOrder α] [IsStrictOrderedRing α]
    {text : List Char} {d : Diagram} (h : empty.read text = (none, d)) (hps : d.participants ≠ [])
    {v : View} (hv : v.showNotes = false) (c : Config α) : ∃ g, d.layout c v = .ok g ∧
      g.height = c.accounted g.steps.length (g.frames.length + (unframed c d v).length)
        ((g.frames.map fun f => f.dividers.length).sum +
          ((unframed c d v).flatMap (shownArms d v)).length) g.bands.length ∧
      (0 ≤ c.blockPaddingX → unframed c d v = [] ∧
        g.height = c.accounted g.steps.length g.frames.length
          (g.frames.map fun f => f.dividers.length).sum g.bands.length) := by
  obtain ⟨hsound, hread⟩ := sound_of_read h
  have hd := hsound.registered
  obtain ⟨ts, g, dx, hts, hg, hfits, hsettles⟩ := hd.layout_settles hread hps c v
  obtain ⟨hframes, hdividers⟩ := hfits.length_frames
  have hheight : g.height = c.accounted g.steps.length
      (g.frames.length + (unframed c d v).length)
      ((g.frames.map fun f => f.dividers.length).sum +
        ((unframed c d v).flatMap (shownArms d v)).length) g.bands.length := by
    rw [hsettles.height_eq hv, bottom_heights, length_footerRows, length_headerRows,
      length_branchRows, hfits.length_steps hts, hfits.length_bands hps, ← hframes, ← hdividers,
      Config.accounted]
    ring
  refine ⟨g, hg, hheight, fun hpad => ?_⟩
  have hroomy : c.Roomy := fun x => by linarith
  have hnone := unframed_eq_nil (v := v) hd hroomy
  rw [hnone] at hheight
  exact ⟨hnone, hheight⟩

/-- Sections in front of blocks, inside one and at the end, a block inside another one, arms with
and without a visible step, and a block that is hidden. -/
def tallied : List Char :=
  ("A -> B: ask <- answer\n== One ==\nif a\n  loop b\n    B -> C: go\nelse if c\n" ++
    "  A -> A: think\nelse\n  == Hidden ==\n  C -> A: back\nif gone\n  A -> C: aside\n" ++
    "== Two ==\nparallel d\n  A ~> B: tell\n== Trailing ==").toList

/-- The default measures, but frames that end between the lifelines of their steps. -/
def narrow : Config ℚ := { Config.standard with blockPaddingX := -100 }

theorem Diagram.height_read_tallied : ∃ d, empty.read tallied = (none, d) ∧
    d.participants ≠ [] ∧ (⟨[1], [], false⟩ : View).showNotes = false ∧
    [Config.standard, narrow].map (fun c => (d.layout c ⟨[1], [], false⟩).toOption.map fun g =>
        (g.height, g.steps.length, g.frames.map fun f => (f.line, f.dividers.length))) =
      [some (616, 5, [(3, 1), (4, 0), (14, 0)]), some (616, 5, [(3, 1)])] ∧
    0 ≤ (Config.standard : Config ℚ).blockPaddingX ∧
    (∃ g, d.layout (Config.standard : Config ℚ) ⟨[1], [], false⟩ = .ok g ∧
      g.height = (Config.standard : Config ℚ).accounted g.steps.length g.frames.length
        (g.frames.map fun f => f.dividers.length).sum g.bands.length) ∧
    ∃ g, d.layout narrow ⟨[1], [], false⟩ = .ok g ∧
      g.height = narrow.accounted g.steps.length
        (g.frames.length + (unframed narrow d ⟨[1], [], false⟩).length)
        ((g.frames.map fun f => f.dividers.length).sum +
          ((unframed narrow d ⟨[1], [], false⟩).flatMap
            (shownArms d ⟨[1], [], false⟩)).length) g.bands.length := by
  have htext : tallied = _ :=
    Text.toList_append_eq (Text.toList_append_eq String.toList_ofList String.toList_ofList)
      String.toList_ofList
  have h := read_of_fst empty tallied (by rw [htext]; decide +kernel)
  have hps : (empty.read tallied).2.participants ≠ [] := by rw [htext]; decide +kernel
  have hpad : 0 ≤ (Config.standard : Config ℚ).blockPaddingX := by decide +kernel
  obtain ⟨g, hg, -, hdrawn⟩ := height_read h hps (v := ⟨[1], [], false⟩) rfl
    (Config.standard : Config ℚ)
  obtain ⟨g', hg', hheight, -⟩ := height_read h hps (v := ⟨[1], [], false⟩) rfl narrow
  exact ⟨_, h, hps, rfl, by rw [htext]; decide +kernel, hpad, ⟨g, hg, (hdrawn hpad).2⟩, g', hg',
    hheight⟩

/-- One block around one call. -/
def pinched : List Char := "if a\n  A -> B".toList

/-- The frame is left out, but not its paddings. -/
theorem Diagram.height_read_pinched : ∃ d, empty.read pinched = (none, d) ∧
    d.participants ≠ [] ∧ (d.layout narrow ⟨[], [], false⟩).toOption.map (fun g =>
        (g.height, narrow.accounted g.steps.length g.frames.length
          (g.frames.map fun f => f.dividers.length).sum g.bands.length)) = some (160, 120) := by
  have htext : pinched = _ := String.toList_ofList
  have h := read_of_fst empty pinched (by rw [htext]; decide +kernel)
  exact ⟨_, h, by rw [htext]; decide +kernel, by rw [htext]; decide +kernel⟩

end Lifeline
