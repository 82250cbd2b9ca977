import Lifeline.Proofs.Layout.Collapse

/-! # The drawing goes down as the timeline goes on

The gap in front of a row begins a step spacing below the row above it, or further down
(`Config.Nonneg.behind_add_le_reach`), and the sections of a gap stand between its beginning and the
row behind it (`Config.Nonneg.section_mem_gap`). So from one step to the next, from one section to
the next, and from a section to the steps above and below it, the drawing goes down by the distances
that are asked for, whatever is collapsed (`Diagram.descends_read`). -/

namespace Lifeline

open Layout

namespace Layout

/-- A band parts the steps: those in front of its place stand above it, the others below it. -/
structure Band.Parts {α : Type} [Add α] [LE α] (b : Band α) (c : Config α) (place : Nat)
    (steps : List (PlacedStep α)) : Prop where
  above : ∀ t ∈ steps, t.place < place → t.y + c.stepSpacing + c.sectionPaddingTop ≤ b.y
  below : ∀ t ∈ steps, place ≤ t.place → b.y + c.sectionPaddingBottom ≤ t.y

/-- The sections that are shown: where no participant is registered, nothing is drawn. -/
def shownSections (d : Diagram) : List Section :=
  if d.participants.isEmpty then [] else d.sections

/-- The drawing shows the visible steps and the sections from top to bottom, in the order of the
timeline. -/
structure Drawing.Descends {α : Type} [Add α] [LE α] (g : Drawing α) (c : Config α) (d : Diagram)
    (v : View) : Prop where
  shown : g.steps.map (fun t => (t.place, t.step)) = (Visible.of d v).rows
  steps : g.steps.IsChain fun s t => s.place < t.place ∧ s.y + c.stepSpacing ≤ t.y
  bands : g.bands.IsChain fun a b => a.y + (c.sectionPaddingTop + c.sectionPaddingBottom) ≤ b.y
  parted : List.Forall₂ (fun s b => b.Parts c (sectionPlace d s) g.steps) (shownSections d) g.bands

theorem getElem?_sections {d : Diagram} {i : Nat} {s : Section}
    (h : (shownSections d)[i]? = some s) : d.sections[i]? = some s := by
  unfold shownSections at h
  split at h
  · simp at h
  · exact h

/-! ### Gaps -/

/-- Among the first sections, those that stand in front of a row. -/
def earlier (d : Diagram) (w : Visible) (row n : Nat) : List Nat :=
  (List.range n).filter fun i => (d.sections[i]?).map (sectionRow w) = some row

section
variable {d : Diagram} {w : Visible} {i : Nat} {s t : Section}

theorem earlier_succ (hs : d.sections[i]? = some s) :
    earlier d w (sectionRow w s) (i + 1) = earlier d w (sectionRow w s) i ++ [i] := by
  rw [earlier, List.range_succ, List.filter_append, List.filter_cons_of_pos (by simp [hs]),
    List.filter_nil]
  rfl

theorem length_earlier_lt (hs : d.sections[i]? = some s) :
    (earlier d w (sectionRow w s) i).length < (gapAt d w (sectionRow w s)).sections.length := by
  have hlt : i < d.sections.length := (List.getElem?_eq_some_iff.mp hs).1
  have hsub : (earlier d w (sectionRow w s) (i + 1)).Sublist
      (gapAt d w (sectionRow w s)).sections := (List.range_sublist.mpr hlt).filter _
  have hlength := hsub.length_le
  rw [earlier_succ hs, List.length_append, List.length_singleton] at hlength
  exact hlength

variable {α : Type} [Field α] {c : Config α}

theorem section_eq (hs : d.sections[i]? = some s) : (heights c d w).section i =
    reach c d w (sectionRow w s) +
      ((gapAt d w (sectionRow w s)).footers : α) * c.blockFooterPadding +
      ((earlier d w (sectionRow w s) i).length : α) *
        (c.sectionPaddingTop + c.sectionPaddingBottom) + c.sectionPaddingTop := by
  rw [section_heights hs, placeSections_snd]
  rfl

variable [LinearOrder α] [IsStrictOrderedRing α]

theorem Config.Nonneg.reach_le_behind (hc : c.Nonneg) (row : Nat) :
    reach c d w row ≤ (gapAt d w row).behind c (reach c d w row) := by
  have hfeet := hc.footers (gapAt d w row).footers
  have hsections := hc.sections (gapAt d w row).sections.length
  have hheads := hc.headers (gapAt d w row).headers
  have hbranches := hc.branches (gapAt d w row).branches
  rw [behind_eq, Gap.room]
  linarith

/-- Below a row there is room for a step before a later gap begins. -/
theorem Config.Nonneg.behind_add_le_reach (hc : c.Nonneg) {r r' : Nat} (hlt : r < r') :
    (gapAt d w r).behind c (reach c d w r) + c.stepSpacing ≤ reach c d w r' := by
  induction hlt with
  | refl => exact le_rfl
  | @step r' hlt ih =>
      have hbehind := hc.reach_le_behind (d := d) (w := w) r'
      have hstep := hc.step
      rw [reach]
      linarith

theorem Config.Nonneg.behind_mono (hc : c.Nonneg) {r r' : Nat} (hle : r ≤ r') :
    (gapAt d w r).behind c (reach c d w r) ≤ (gapAt d w r').behind c (reach c d w r') := by
  rcases hle.eq_or_lt with rfl | hlt
  · exact le_rfl
  · have hreach := hc.behind_add_le_reach (d := d) (w := w) hlt
    have hbehind := hc.reach_le_behind (d := d) (w := w) r'
    have hstep := hc.step
    linarith

/-- A section stands between the beginning of its gap and the row behind it. -/
theorem Config.Nonneg.section_mem_gap (hc : c.Nonneg) (hs : d.sections[i]? = some s) :
    reach c d w (sectionRow w s) + c.sectionPaddingTop ≤ (heights c d w).section i ∧
      (heights c d w).section i + c.sectionPaddingBottom ≤
        (gapAt d w (sectionRow w s)).behind c (reach c d w (sectionRow w s)) := by
  have hfeet := hc.footers (gapAt d w (sectionRow w s)).footers
  have hheads := hc.headers (gapAt d w (sectionRow w s)).headers
  have hbranches := hc.branches (gapAt d w (sectionRow w s)).branches
  have hbefore := hc.sections (earlier d w (sectionRow w s) i).length
  obtain ⟨more, hmore⟩ := Nat.exists_eq_add_of_lt (length_earlier_lt (w := w) hs)
  have hafter := hc.sections more
  rw [section_eq hs, behind_eq, Gap.room, hmore]
  push_cast
  constructor <;> linarith

/-- From a section to the next one there is room for the paddings of both. -/
theorem Config.Nonneg.section_add_le (hc : c.Nonneg) (hs : d.sections[i]? = some s)
    (ht : d.sections[i + 1]? = some t) (hle : sectionRow w s ≤ sectionRow w t) :
    (heights c d w).section i + (c.sectionPaddingTop + c.sectionPaddingBottom) ≤
      (heights c d w).section (i + 1) := by
  rcases hle.eq_or_lt with heq | hlt
  · rw [section_eq hs, section_eq ht, ← heq, earlier_succ hs, List.length_append,
      List.length_singleton]
    push_cast
    linarith
  · have habove := (hc.section_mem_gap (w := w) hs).2
    have hbelow := (hc.section_mem_gap (w := w) ht).1
    have hgap := hc.behind_add_le_reach (d := d) (w := w) hlt
    have hstep := hc.step
    linarith

end

/-! ### Drawings -/

section
variable {α : Type} [Add α] [Sub α] [Mul α] [Div α] [NatCast α] [Max α] [Min α] [LT α]
  [DecidableLT α] {c : Config α} {d : Diagram} {v : View} {ts : List (PlacedStep α)}
  {g : Drawing α}

theorem Drawing.Fits.map_steps (hts : stepsOf c d v = .ok ts) (h : (draft c d v ts).Fits g) :
    g.steps.map (fun t => (t.place, t.step)) = (Visible.of d v).rows := by
  have hsteps := congrArg (List.map fun e => (e.1, e.2.1))
    (h.level.steps.trans (map_placedSteps hts))
  rw [List.map_map, List.map_map] at hsteps
  exact hsteps.trans (List.zipIdx_map_fst 0 _)

theorem Drawing.Fits.row_of_step (hts : stepsOf c d v = .ok ts) (h : (draft c d v ts).Fits g)
    {row : Nat} {t : PlacedStep α} (ht : g.steps[row]? = some t) :
    (Visible.of d v).rows[row]? = some (t.place, t.step) ∧
      t.y = (heights c d (Visible.of d v)).row row := by
  have hsteps := congrArg (·[row]?) (h.level.steps.trans (map_placedSteps hts))
  simp only [List.getElem?_map, ht, List.getElem?_zipIdx, Option.map_some, Option.map_map,
    Nat.zero_add] at hsteps
  obtain ⟨⟨place, s⟩, hrow, heq⟩ := Option.map_eq_some_iff.mp hsteps.symm
  obtain ⟨rfl, rfl, hy⟩ : place = t.place ∧ s = t.step ∧
      (heights c d (Visible.of d v)).row row = t.y := by simpa using heq
  exact ⟨hrow, hy.symm⟩

theorem Drawing.Fits.length_steps (hts : stepsOf c d v = .ok ts) (h : (draft c d v ts).Fits g) :
    g.steps.length = (Visible.of d v).count := by
  rw [Visible.count, ← h.map_steps hts, List.length_map]

theorem Drawing.Fits.place_le (hts : stepsOf c d v = .ok ts) (h : (draft c d v ts).Fits g)
    {row row' : Nat} {t t' : PlacedStep α} (ht : g.steps[row]? = some t)
    (ht' : g.steps[row']? = some t') (hle : row ≤ row') : t.place ≤ t'.place := by
  have hplaces : ∀ {row : Nat} {t : PlacedStep α}, g.steps[row]? = some t →
      (Visible.of d v).places[row]? = some t.place := by
    intro row t ht
    rw [Visible.getElem?_places, (h.row_of_step hts ht).1]
    rfl
  have hiff := Visible.lt_iff_of_places (Visible.sorted_places d v) (hplaces ht') (hplaces ht)
  omega

theorem Drawing.Fits.map_bands (h : (draft c d v ts).Fits g) : g.bands.map Band.y =
    (shownSections d).zipIdx.map fun e => (heights c d (Visible.of d v)).section e.2 := by
  rw [h.bands]
  simp only [draft, shownSections]
  split
  · rfl
  · rw [bandsOf, List.map_map]
    rfl

theorem Drawing.Fits.section_of_band (h : (draft c d v ts).Fits g) {i : Nat} {b : Band α}
    (hb : g.bands[i]? = some b) : ∃ s, (shownSections d)[i]? = some s ∧
      b.y = (heights c d (Visible.of d v)).section i := by
  have hband := congrArg (·[i]?) h.map_bands
  simp only [List.getElem?_map, hb, List.getElem?_zipIdx, Option.map_some, Option.map_map,
    Nat.zero_add] at hband
  obtain ⟨s, hs, hy⟩ := Option.map_eq_some_iff.mp hband.symm
  exact ⟨s, hs, hy.symm⟩

end

section
variable {α : Type} [Field α] [LinearOrder α] {c : Config α} {d : Diagram} {v : View}
  {ts : List (PlacedStep α)} {g : Drawing α}

theorem Drawing.Fits.y_of_step (hts : stepsOf c d v = .ok ts) (h : (draft c d v ts).Fits g)
    {row : Nat} {t : PlacedStep α} (ht : g.steps[row]? = some t) :
    t.y = (gapAt d (.of d v) row).behind c (reach c d (.of d v) row) := by
  obtain ⟨hrow, hy⟩ := h.row_of_step hts ht
  rw [hy]
  exact row_heights (List.getElem?_eq_some_iff.mp hrow).1

variable [IsStrictOrderedRing α]

/-- The band of a section parts the steps at the place of the section. -/
theorem Drawing.Fits.parts (hc : c.Nonneg) (hts : stepsOf c d v = .ok ts)
    (h : (draft c d v ts).Fits g) {i : Nat} {s : Section} {b : Band α}
    (hs : d.sections[i]? = some s) (hb : b.y = (heights c d (Visible.of d v)).section i) :
    b.Parts c (sectionPlace d s) g.steps := by
  obtain ⟨htop, hbottom⟩ := hc.section_mem_gap (w := .of d v) hs
  rw [← hb] at htop hbottom
  constructor
  · intro t ht hplace
    obtain ⟨row, ht⟩ := List.mem_iff_getElem?.mp ht
    have hlt : row < sectionRow (.of d v) s := by
      rwa [sectionRow_of,
        Visible.lt_rowsAbove_iff (Visible.sorted_places d v) (h.row_of_step hts ht).1]
    have hreach := hc.behind_add_le_reach (d := d) (w := .of d v) hlt
    rw [h.y_of_step hts ht]
    linarith
  · intro t ht hplace
    obtain ⟨row, ht⟩ := List.mem_iff_getElem?.mp ht
    have hle : sectionRow (.of d v) s ≤ row := by
      rw [sectionRow_of, ← not_lt,
        Visible.lt_rowsAbove_iff (Visible.sorted_places d v) (h.row_of_step hts ht).1]
      exact hplace.not_gt
    have hbehind := hc.behind_mono (d := d) (w := .of d v) hle
    rw [h.y_of_step hts ht]
    linarith

theorem Drawing.Fits.isChain_steps (hc : c.Nonneg) (hts : stepsOf c d v = .ok ts)
    (h : (draft c d v ts).Fits g) :
    g.steps.IsChain fun s t => s.place < t.place ∧ s.y + c.stepSpacing ≤ t.y := by
  refine List.isChain_iff_getElem.mpr fun row hrow => ?_
  have hs := List.getElem?_eq_getElem (Nat.lt_of_succ_lt hrow)
  have ht := List.getElem?_eq_getElem hrow
  constructor
  · refine (Visible.lt_iff_of_places (Visible.sorted_places d v) ?_ ?_).mpr (Nat.lt_succ_self row)
    · rw [Visible.getElem?_places, (h.row_of_step hts hs).1]
      rfl
    · rw [Visible.getElem?_places, (h.row_of_step hts ht).1]
      rfl
  · have hbehind := hc.reach_le_behind (d := d) (w := .of d v) (row + 1)
    rw [h.y_of_step hts hs, h.y_of_step hts ht]
    exact hbehind

theorem Drawing.Fits.descends (hd : d.Registered) (hdivided : d.Divided) (hc : c.Nonneg)
    (hts : stepsOf c d v = .ok ts) (h : (draft c d v ts).Fits g) : g.Descends c d v := by
  refine ⟨h.map_steps hts, h.isChain_steps hc hts, ?_, ?_⟩
  · refine List.isChain_iff_getElem.mpr fun i hi => ?_
    obtain ⟨s, hs, hy⟩ := h.section_of_band (List.getElem?_eq_getElem (Nat.lt_of_succ_lt hi))
    obtain ⟨t, ht, hy'⟩ := h.section_of_band (List.getElem?_eq_getElem hi)
    have hs := getElem?_sections hs
    have ht := getElem?_sections ht
    have hrows : sectionRow (.of d v) s ≤ sectionRow (.of d v) t := by
      obtain ⟨hi, rfl⟩ := List.getElem?_eq_some_iff.mp hs
      obtain ⟨hi', rfl⟩ := List.getElem?_eq_some_iff.mp ht
      have hfirst := List.pairwise_iff_getElem.mp hdivided.sorted i (i + 1) hi hi' (by omega)
      rw [sectionRow_of, sectionRow_of]
      exact Visible.rowsAbove_mono (sectionPlace_mono hd hfirst)
    rw [hy, hy']
    exact hc.section_add_le hs ht hrows
  · have hlength := congrArg List.length h.map_bands
    rw [List.length_map, List.length_map, List.length_zipIdx] at hlength
    refine List.forall₂_iff_get.mpr ⟨hlength.symm, fun i hs hb => ?_⟩
    obtain ⟨s, hs', hy⟩ := h.section_of_band (List.getElem?_eq_getElem hb)
    exact h.parts hc hts (getElem?_sections (List.getElem?_eq_getElem hs)) hy

end

end Layout

/-- **The drawing goes down in the order of the timeline.** A document that could be read has a
drawing under every view. Where no measure is negative, and in exact arithmetic, the steps of this
drawing are the visible ones in their order, a step spacing or more below each other; the bands of
the sections come in the order of the document, with room for the paddings of both between two of
them; and every step that comes before a section in the timeline stands above the band, by the step
spacing and the upper padding, and every other step below it, by the lower padding. -/
theorem Diagram.descends_read {α : Type} [Field α] [LinearOrder α] [IsStrictOrderedRing α]
    {text : List Char} {d : Diagram} (h : empty.read text = (none, d)) (v : View) (c : Config α)
    (hc : c.Nonneg) : ∃ g, d.layout c v = .ok g ∧ g.Descends c d v := by
  obtain ⟨hsound, hread⟩ := sound_of_read h
  obtain ⟨ts, g, hts, hg, hfits⟩ := hsound.registered.layout_fits hread c v
  exact ⟨g, hg, hfits.descends hsound.registered (divided_of_read h) hc hts⟩

/-- Two sections in front of one call, the first of them without messages, the end of a block in
front of them, and a section at the end. -/
def gathered : List Char :=
  ("A -> B: ask <- answer\nif so\n  B -> C: go\n== Empty ==\n== Hidden ==\nC -> A: back\n" ++
    "A ~> C: end\n== Trailing ==").toList

theorem Diagram.descends_read_gathered : ∃ d, empty.read gathered = (none, d) ∧
    (Config.standard : Config ℚ).Nonneg ∧
    d.sections.map (sectionPlace d) = [2, 2, 7] ∧
    (d.layout (Config.standard : Config ℚ) ⟨[1], [], true⟩).toOption.map (fun g =>
        (g.steps.map fun t => (t.place, t.y), g.bands.map Band.y)) =
      some ([(0, 80), (1, 148), (6, 296)], [224, 272, 360]) ∧
    ∃ g, d.layout (Config.standard : Config ℚ) ⟨[1], [], true⟩ = .ok g ∧
      g.Descends .standard d ⟨[1], [], true⟩ := by
  have htext : gathered = _ := Text.toList_append_eq String.toList_ofList String.toList_ofList
  have h := read_of_fst empty gathered (by rw [htext]; decide +kernel)
  have hc : (Config.standard : Config ℚ).Nonneg := by decide +kernel
  exact ⟨_, h, hc, by rw [htext]; decide +kernel, by rw [htext]; decide +kernel,
    descends_read h ⟨[1], [], true⟩ .standard hc⟩

end Lifeline
