import Lifeline.Proofs.Layout.Descent
import Lifeline.Proofs.Layout.Shown

/-! # Activations are drawn over their steps

The rows above a place are counted by `Visible.rowsAbove`, and each row that an activation is given
is such a count: it begins behind the rows above its first step, and it ends at the last row that is
not behind its last step, or half a step below that row if the last step is not drawn
(`Covers`). Counts grow with the places and heights grow with the counts, so the boxes of
activations lie within each other, or below each other, as the activations do
(`Covers.within`, `Covers.apart`).

`Diagram.activity_read` says so of the drawing of every document, by its visible steps. -/

namespace Lifeline.Layout

/-! ### Rows above a place -/

namespace Visible

variable {w : Visible} {place row : Nat}

theorem rowsAbove_eq (w : Visible) (place : Nat) :
    w.rowsAbove place = w.places.countP (· < place) := by
  rw [rowsAbove, places, List.countP_map]
  rfl

theorem rowsAbove_of_lastBefore? (h : w.lastBefore? place = some row) :
    w.rowsAbove place = row + 1 := by
  rw [rowsAbove_eq]
  unfold lastBefore? at h
  split at h
  · cases h
  · next n hn =>
      cases h
      exact hn

theorem rowsAbove_succ_of_row?_eq_none (h : w.row? place = none) :
    w.rowsAbove (place + 1) = w.rowsAbove place := by
  have hcount : w.places.count place = 0 := by
    refine List.count_eq_zero.mpr fun hmem => ?_
    have hne := List.findIdx?_eq_none_iff.mp h place hmem
    simp at hne
  rw [rowsAbove_eq, rowsAbove_eq, countP_lt_succ, hcount, Nat.add_zero]

section
variable (hw : w.places.Pairwise (· < ·))
include hw

theorem rowsAbove_of_firstFrom? (h : w.firstFrom? place = some row) :
    w.rowsAbove place = row := by
  rw [← getD_firstFrom? hw, h]
  rfl

theorem rowsAbove_of_row? (h : w.row? place = some row) :
    w.rowsAbove place = row ∧ w.rowsAbove (place + 1) = row + 1 := by
  obtain ⟨hlt, hat, -⟩ := List.findIdx?_eq_some_iff_getElem.mp h
  have hplace : w.places[row]? = some place := by
    rw [List.getElem?_eq_getElem hlt, beq_iff_eq.mp hat]
  rw [getElem?_places] at hplace
  obtain ⟨e, he, rfl⟩ := Option.map_eq_some_iff.mp hplace
  have habove : row < w.rowsAbove e.1 ↔ e.1 < e.1 := lt_rowsAbove_iff hw he
  have hbelow : row < w.rowsAbove (e.1 + 1) ↔ e.1 < e.1 + 1 := lt_rowsAbove_iff hw he
  have hone := List.nodup_iff_count_le_one.mp (hw.imp ne_of_lt) e.1
  have hsucc : w.rowsAbove (e.1 + 1) = w.rowsAbove e.1 + w.places.count e.1 := by
    rw [rowsAbove_eq, rowsAbove_eq, countP_lt_succ]
  omega

end

end Visible

/-! ### The rows of an activation -/

/-- What an activation goes on below its last row: half a step, unless its last step is drawn. -/
def overhang {α : Type} [Div α] [NatCast α] (c : Config α) (w : Visible) (a : Activation) : α :=
  if (w.row? a.last).isSome then ((0 : Nat) : α) else half c.stepSpacing

/-- The box reaches from the row of the first visible step of its activation to that of the last
one. -/
structure Covers {α : Type} [Add α] [Div α] [NatCast α] (c : Config α) (w : Visible)
    (h : Heights α) (a : Activation) (r : Rect α) (first last : Nat) : Prop where
  above : w.rowsAbove a.first = first
  below : w.rowsAbove (a.last + 1) = last + 1
  le : first ≤ last
  top : r.y = h.row first
  bottom : r.bottom = h.row last + overhang c w a

section
variable {α : Type} [Field α] {c : Config α} {w : Visible} {h : Heights α}
  {ps : List (PlacedParticipant α)} {a : Activation} {b : PlacedActivation α}

theorem exists_covers (hw : w.places.Pairwise (· < ·)) (hb : placeActivation? c w h ps a = some b) :
    ∃ first last, Covers c w h a b.rect first last := by
  unfold placeActivation? at hb
  simp only [Option.bind_eq_bind, Option.bind_eq_some_iff, Option.filter_eq_some_iff,
    Option.pure_def, Option.some.injEq] at hb
  obtain ⟨first, ⟨hfirst, hany⟩, bottom, hbottom, x, -, rfl⟩ := hb
  have hrow := List.getElem?_eq_getElem (l := w.rows) (Visible.lt_count_of_firstFrom? hfirst)
  rw [Visible.getElem?_places, hrow] at hany
  have hbefore : first < w.rowsAbove (a.last + 1) :=
    (Visible.lt_rowsAbove_iff hw hrow).mpr (Nat.lt_succ_of_le (of_decide_eq_true hany))
  have hrect : ∀ y bottom : α, y + (bottom - y) = bottom := fun y bottom =>
    add_sub_cancel y bottom
  unfold activationBottom? at hbottom
  cases hrow : w.row? a.last with
  | some last =>
      rw [hrow] at hbottom
      obtain rfl := Option.some.inj hbottom
      have hbelow := (Visible.rowsAbove_of_row? hw hrow).2
      refine ⟨first, last, Visible.rowsAbove_of_firstFrom? hw hfirst, hbelow, by omega, rfl, ?_⟩
      simp only [Rect.bottom, hrect, overhang, hrow, Option.isSome_some, if_true, Nat.cast_zero,
        add_zero]
  | none =>
      rw [hrow] at hbottom
      obtain ⟨last, hlast, rfl⟩ := Option.map_eq_some_iff.mp hbottom
      have hbelow : w.rowsAbove (a.last + 1) = last + 1 := by
        rw [Visible.rowsAbove_succ_of_row?_eq_none hrow, Visible.rowsAbove_of_lastBefore? hlast]
      refine ⟨first, last, Visible.rowsAbove_of_firstFrom? hw hfirst, hbelow, by omega, rfl, ?_⟩
      simp only [Rect.bottom, hrect, overhang, hrow, Option.isSome_none, Bool.false_eq_true,
        if_false]

variable {d : Diagram} {a' : Activation} {r r' : Rect α} {first last first' last' : Nat}

theorem Covers.lt_count (h : Covers c w (heights c d w) a r first last) : last < w.count := by
  have hle := w.rowsAbove_le (a.last + 1)
  have hbelow := h.below
  omega

variable [LinearOrder α] [IsStrictOrderedRing α]

theorem Config.Nonneg.half_step (hc : c.Nonneg) :
    0 ≤ half c.stepSpacing ∧ half c.stepSpacing + half c.stepSpacing = c.stepSpacing := by
  have hstep := hc.step
  have hhalves := half_add_half c.stepSpacing
  exact ⟨by linarith, hhalves⟩

theorem Config.Nonneg.overhang_le (hc : c.Nonneg) (w : Visible) (a : Activation) :
    0 ≤ overhang c w a ∧ overhang c w a ≤ half c.stepSpacing := by
  have hhalf := hc.half_step.1
  unfold overhang
  split
  · rw [Nat.cast_zero]
    exact ⟨le_rfl, hhalf⟩
  · exact ⟨hhalf, le_rfl⟩

theorem Config.Nonneg.row_add_step_le (hc : c.Nonneg) {row row' : Nat} (hlt : row < row')
    (hrow : row' < w.count) :
    (heights c d w).row row + c.stepSpacing ≤ (heights c d w).row row' := by
  have hgap := hc.row_le_row (d := d) hlt hrow
  have hfeet := hc.footers ((footerRows w d.outline).count row)
  have hheads := hc.headers ((headerRows w d.outline).count row')
  linarith

theorem Covers.nonneg (hc : c.Nonneg) (h : Covers c w (heights c d w) a r first last) :
    0 ≤ r.height := by
  have hrows := hc.row_mono (d := d) h.le h.lt_count
  have hmore := (hc.overhang_le w a).1
  have hbottom : r.y + r.height = (heights c d w).row last + overhang c w a := h.bottom
  rw [h.top] at hbottom
  linarith

/-- The box of an activation within another one lies within the box of that one. -/
theorem Covers.within (hw : w.places.Pairwise (· < ·)) (hc : c.Nonneg)
    (h : Covers c w (heights c d w) a r first last)
    (h' : Covers c w (heights c d w) a' r' first' last')
    (hfirst : a'.first ≤ a.first) (hlast : a.last ≤ a'.last) :
    r'.y ≤ r.y ∧ r.bottom ≤ r'.bottom := by
  have hle : first' ≤ first := by
    rw [← h.above, ← h'.above]
    exact Visible.rowsAbove_mono hfirst
  have hrow := h.lt_count
  refine ⟨?_, ?_⟩
  · rw [h.top, h'.top]
    exact hc.row_mono hle (h.le.trans_lt hrow)
  · have hmore := hc.overhang_le w a
    have hmore' := hc.overhang_le w a'
    have hhalf := hc.half_step
    have hbelow := h.below
    have hbelow' := h'.below
    rw [h.bottom, h'.bottom]
    rcases hlast.eq_or_lt with heq | hlt
    · obtain rfl : last = last' := by
        rw [heq] at hbelow
        omega
      rw [overhang, overhang, heq]
    · have hmono : w.rowsAbove (a.last + 1) ≤ w.rowsAbove a'.last := Visible.rowsAbove_mono hlt
      cases hend : w.row? a'.last with
      | some row =>
          have hends := Visible.rowsAbove_of_row? hw hend
          have hgap := hc.row_add_step_le (d := d) (show last < last' by omega) h'.lt_count
          linarith
      | none =>
          have hover : overhang c w a' = half c.stepSpacing := by
            rw [overhang, hend]
            rfl
          have hsame := Visible.rowsAbove_succ_of_row?_eq_none hend
          have hgap := hc.row_mono (d := d) (show last ≤ last' by omega) h'.lt_count
          linarith

/-- The box of a later activation lies below the box of an earlier one. -/
theorem Covers.apart (hc : c.Nonneg) (h : Covers c w (heights c d w) a r first last)
    (h' : Covers c w (heights c d w) a' r' first' last') (hlt : a.last < a'.first) :
    r.bottom + half c.stepSpacing ≤ r'.y := by
  have hmono : w.rowsAbove (a.last + 1) ≤ w.rowsAbove a'.first := Visible.rowsAbove_mono hlt
  have hbelow := h.below
  have habove := h'.above
  have hgap := hc.row_add_step_le (d := d) (show last < first' by omega)
    (h'.le.trans_lt h'.lt_count)
  have hmore := hc.overhang_le w a
  have hhalf := hc.half_step
  rw [h.bottom, h'.top]
  linarith

end

/-! ### The boxes of a drawing -/

/-- The box of an activation reaches from its first visible step to its last one. Where the last
step of the activation is not visible, it ends half a step below the last one that is. -/
structure PlacedActivation.Spans {α : Type} [Add α] [Div α] [NatCast α] [LE α]
    (b : PlacedActivation α) (c : Config α) (steps : List (PlacedStep α)) : Prop where
  nonneg : ((0 : Nat) : α) ≤ b.rect.height
  top : ∃ t ∈ steps, b.activation.covers t.place = true ∧
    (∀ s ∈ steps, b.activation.covers s.place = true → t.place ≤ s.place) ∧ b.rect.y = t.y
  bottom : ∃ t ∈ steps, b.activation.covers t.place = true ∧
    (∀ s ∈ steps, b.activation.covers s.place = true → s.place ≤ t.place) ∧
    b.rect.bottom = if t.place = b.activation.last then t.y else t.y + half c.stepSpacing

/-- The boxes lie within each other where their activations do, and where one activation ends
before another one begins, its box ends half a step above the other one, or higher up. -/
structure Drawing.Layered {α : Type} [Add α] [Div α] [NatCast α] [LE α] (g : Drawing α)
    (c : Config α) : Prop where
  within : ∀ a ∈ g.activations, ∀ b ∈ g.activations,
    b.activation.first ≤ a.activation.first → a.activation.last ≤ b.activation.last →
      b.rect.y ≤ a.rect.y ∧ a.rect.bottom ≤ b.rect.bottom
  apart : ∀ a ∈ g.activations, ∀ b ∈ g.activations, a.activation.last < b.activation.first →
    a.rect.bottom + half c.stepSpacing ≤ b.rect.y

section
variable {α : Type} [Field α] [LinearOrder α] {c : Config α} {d : Diagram} {v : View}
  {ts : List (PlacedStep α)} {g : Drawing α} {b : PlacedActivation α}

/-- Each box of a drawing covers the rows of its activation. -/
theorem Drawing.Fits.exists_covers (h : (draft c d v ts).Fits g) (hb : b ∈ g.activations) :
    ∃ first last, Covers c (.of d v) (heights c d (.of d v)) b.activation b.rect first last := by
  have hmem := List.mem_map_of_mem (f := fun a : PlacedActivation α =>
    (a.activation, a.rect.y, a.rect.height)) hb
  rw [h.level.activations] at hmem
  obtain ⟨b₀, hb₀, heq⟩ := List.mem_map.mp hmem
  obtain ⟨hact, hy, hheight⟩ : b₀.activation = b.activation ∧ b₀.rect.y = b.rect.y ∧
    b₀.rect.height = b.rect.height := by simpa using heq
  obtain ⟨first, last, hcovers⟩ :=
    Layout.exists_covers (Visible.sorted_places d v) (mem_placedActivations.mp hb₀).2
  refine ⟨first, last, hact ▸ hcovers.above, hact ▸ hcovers.below, hcovers.le, hy ▸ hcovers.top, ?_⟩
  rw [Rect.bottom, ← hy, ← hheight, ← hact]
  exact hcovers.bottom

section
variable {a : Activation} {r : Rect α} {first last : Nat} (hts : stepsOf c d v = .ok ts)
  (h : (draft c d v ts).Fits g)
  (hcovers : Covers c (.of d v) (heights c d (.of d v)) a r first last)
include hts h hcovers

theorem Drawing.Fits.covers_iff {row : Nat} {t : PlacedStep α} (ht : g.steps[row]? = some t) :
    a.covers t.place = true ↔ first ≤ row ∧ row ≤ last := by
  have hw := Visible.sorted_places d v
  have hrow := (h.row_of_step hts ht).1
  have hfirst : row < (Visible.of d v).rowsAbove a.first ↔ t.place < a.first :=
    Visible.lt_rowsAbove_iff hw hrow
  have hlast : row < (Visible.of d v).rowsAbove (a.last + 1) ↔ t.place < a.last + 1 :=
    Visible.lt_rowsAbove_iff hw hrow
  have habove := hcovers.above
  have hbelow := hcovers.below
  rw [Timeline.covers_iff]
  omega

/-- An activation goes on below its last row unless it ends with the step in this row. -/
theorem Drawing.Fits.overhang_eq {t : PlacedStep α} (ht : g.steps[last]? = some t) :
    overhang c (.of d v) a = if t.place = a.last then ((0 : Nat) : α) else half c.stepSpacing := by
  have hw := Visible.sorted_places d v
  have hrow := (h.row_of_step hts ht).1
  have hplace : (Visible.of d v).places[last]? = some t.place := by
    rw [Visible.getElem?_places, hrow]
    rfl
  rw [overhang]
  cases hend : (Visible.of d v).row? a.last with
  | some row =>
      have hends := Visible.rowsAbove_of_row? hw hend
      have hself : last < (Visible.of d v).rowsAbove a.last ↔ t.place < a.last :=
        Visible.lt_rowsAbove_iff hw hrow
      have hnext : last < (Visible.of d v).rowsAbove (a.last + 1) ↔ t.place < a.last + 1 :=
        Visible.lt_rowsAbove_iff hw hrow
      have hbelow := hcovers.below
      rw [if_pos Option.isSome_some, if_pos (by omega)]
  | none =>
      have hne : t.place ≠ a.last := by
        intro heq
        rw [← heq, Visible.row?_of_places hw hplace] at hend
        cases hend
      rw [if_neg (by simp), if_neg hne]

end

variable [IsStrictOrderedRing α]

theorem Drawing.Fits.spans (hc : c.Nonneg) (hts : stepsOf c d v = .ok ts)
    (h : (draft c d v ts).Fits g) (hb : b ∈ g.activations) : b.Spans c g.steps := by
  obtain ⟨first, last, hcovers⟩ := h.exists_covers hb
  have hle := hcovers.le
  have hcount := hcovers.lt_count
  rw [← h.length_steps hts] at hcount
  have hfirst := List.getElem?_eq_getElem (hle.trans_lt hcount)
  have hlast := List.getElem?_eq_getElem hcount
  refine ⟨?_, ⟨_, List.getElem_mem _, (h.covers_iff hts hcovers hfirst).mpr ⟨le_rfl, hle⟩, ?_, ?_⟩,
    ⟨_, List.getElem_mem _, (h.covers_iff hts hcovers hlast).mpr ⟨hle, le_rfl⟩, ?_, ?_⟩⟩
  · rw [Nat.cast_zero]
    exact hcovers.nonneg hc
  · intro s hs hscovers
    obtain ⟨row, hrow⟩ := List.mem_iff_getElem?.mp hs
    exact h.place_le hts hfirst hrow ((h.covers_iff hts hcovers hrow).mp hscovers).1
  · rw [hcovers.top, (h.row_of_step hts hfirst).2]
  · intro s hs hscovers
    obtain ⟨row, hrow⟩ := List.mem_iff_getElem?.mp hs
    exact h.place_le hts hrow hlast ((h.covers_iff hts hcovers hrow).mp hscovers).2
  · rw [hcovers.bottom, h.overhang_eq hts hcovers hlast, (h.row_of_step hts hlast).2, add_ite,
      Nat.cast_zero, add_zero]

theorem Drawing.Fits.layered (hc : c.Nonneg) (h : (draft c d v ts).Fits g) : g.Layered c := by
  constructor
  · intro a ha b hb hfirst hlast
    obtain ⟨_, _, hcovers⟩ := h.exists_covers ha
    obtain ⟨_, _, hcovers'⟩ := h.exists_covers hb
    exact hcovers.within (Visible.sorted_places d v) hc hcovers' hfirst hlast
  · intro a ha b hb hlt
    obtain ⟨_, _, hcovers⟩ := h.exists_covers ha
    obtain ⟨_, _, hcovers'⟩ := h.exists_covers hb
    exact hcovers.apart hc hcovers' hlt

end

end Lifeline.Layout

namespace Lifeline

open Layout

/-- **Boxes mirror the activations.** A document that could be read has a drawing under every view,
which shows the visible steps and the activations around them. Where no measure is negative, and in
exact arithmetic, the box of an activation has no negative height, begins at the first visible step
of the activation, and ends at the last one, or half a step below it where the activation goes on.
So the box of an activation inside another one is inside the box of that one, and the box of an
activation that begins behind another one lies below the box of that one, by half a step at least;
all this whether the two belong to one participant or not. -/
theorem Diagram.activity_read {α : Type} [Field α] [LinearOrder α] [IsStrictOrderedRing α]
    {text : List Char} {d : Diagram} (h : empty.read text = (none, d)) (v : View) (c : Config α)
    (hc : c.Nonneg) :
    ∃ g, d.layout c v = .ok g ∧ g.Shows d v ∧ (∀ b ∈ g.activations, b.Spans c g.steps) ∧
      g.Layered c := by
  obtain ⟨hsound, hread⟩ := sound_of_read h
  obtain ⟨ts, g, hts, hg, hfits⟩ := hsound.registered.layout_fits hread c v
  exact ⟨g, hg, hfits.shows (shows_draft hsound hts), fun b hb => hfits.spans hc hts hb,
    hfits.layered hc⟩

/-- A participant that is called again while it is active, and once more afterwards; a call that is
hidden, and an activation whose end is. -/
def reentered : List Char :=
  ("A -> B: ask <- answer\nB -> C: go\nC -> B: back <- done\n== Hidden ==\nC -> A: aside\n" ++
    "== Shown ==\nD -> B: again").toList

theorem Diagram.activity_read_reentered : ∃ d, empty.read reentered = (none, d) ∧
    (Config.standard : Config ℚ).Nonneg ∧
    (d.layout (Config.standard : Config ℚ) ⟨[0], [], true⟩).toOption.map (fun g =>
        (g.steps.map fun t => (t.place, t.y), g.activations.map fun b =>
          ((b.activation.first, b.activation.last), b.rect.y, b.rect.bottom))) =
      some ([(0, 80), (1, 120), (2, 160), (3, 200), (7, 288), (8, 376)],
        [((2, 3), 160, 200), ((1, 6), 120, 220), ((0, 7), 80, 288), ((8, 9), 376, 396)]) ∧
    ∃ g, d.layout (Config.standard : Config ℚ) ⟨[0], [], true⟩ = .ok g ∧
      g.Shows d ⟨[0], [], true⟩ ∧ (∀ b ∈ g.activations, b.Spans .standard g.steps) ∧
      g.Layered .standard := by
  have htext : reentered = _ := Text.toList_append_eq String.toList_ofList String.toList_ofList
  have h := read_of_fst empty reentered (by rw [htext]; decide +kernel)
  have hc : (Config.standard : Config ℚ).Nonneg := by decide +kernel
  exact ⟨_, h, hc, by rw [htext]; decide +kernel, activity_read h ⟨[0], [], true⟩ .standard hc⟩

end Lifeline
