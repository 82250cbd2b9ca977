import Lifeline.Proofs.Layout.Placement

/-! # The whole drawing in its place

A draft that is given the boxes of its groups and its height is all that is drawn, before it has its
margin on the left (`whole`). In exact arithmetic the drawing of a diagram is this one, moved to the
right as a whole (`Diagram.Registered.layout_settles`): whatever was in one place beside a lifeline
stays there, and no height changes. -/

namespace Lifeline.Layout

section
variable {α : Type} [Add α] [Sub α] [Mul α] [Div α] [NatCast α] [Max α] [Min α] [LT α]
  [DecidableLT α] {c : Config α} {d : Diagram} {v : View} {ts : List (PlacedStep α)}

/-- The draft with its height, which leaves room below the notes, and the boxes of its groups. -/
def whole (c : Config α) (d : Diagram) (v : View) (ts : List (PlacedStep α)) : Drawing α :=
  let e := draft c d v ts
  let height := e.notes.foldl (fun y n => max y (n.rect.bottom + c.margin))
    (heights c d (.of d v)).bottom
  { e with
    groups := d.groups.filterMap (groupBox? c e.participants height)
    lifelineTop := c.margin + c.participantHeight
    height := height }

theorem draw_eq (hps : d.participants.isEmpty = false) (h : stepsOf c d v = .ok ts) :
    draw c d v = .ok ((whole c d v ts).fit c.margin) := by
  have hbands : (if d.participants.isEmpty then [] else
      bandsOf d v (heights c d (.of d v))) = bandsOf d v (heights c d (.of d v)) := by
    rw [hps]
    rfl
  unfold draw
  unfold stepsOf at h
  dsimp only at h ⊢
  rw [h]
  simp only [whole, draft, hbands]
  rfl

end

/-- A drawing in its final place: the other one, moved to the right by a distance. -/
structure Drawing.Settles {α : Type} [Add α] (g : Drawing α) (dx : α) (g' : Drawing α) : Prop where
  agrees : g'.Agrees (g.shift dx)
  notes : g'.notes = (g.shift dx).notes
  groups : g'.groups = (g.shift dx).groups
  height : g'.height = g.height

section
variable {α : Type} [AddCommGroup α]

theorem Drawing.shift_zero (g : Drawing α) : g.shift 0 = g := by
  have hrect : ∀ r : Rect α, r.shift 0 = r := fun r => by rw [Rect.shift, add_zero]
  simp only [shift, hrect, add_zero, List.map_id', Option.map_id']

variable [Max α] [Min α] [LT α] [DecidableLT α]

theorem Drawing.settles_fit (g : Drawing α) (margin : α) : ∃ dx, g.Settles dx (g.fit margin) := by
  obtain ⟨g₀, hshift, hfit⟩ := g.fit_cases margin
  obtain ⟨dx, rfl⟩ : ∃ dx, g₀ = g.shift dx := by
    rcases hshift with rfl | ⟨dx, rfl⟩
    · exact ⟨0, g₀.shift_zero.symm⟩
    · exact ⟨dx, rfl⟩
  refine ⟨dx, ?_⟩
  rcases hfit with heq | ⟨left, right, heq⟩ <;> rw [heq]
  · exact ⟨.refl _, rfl, rfl, rfl⟩
  · exact ⟨⟨rfl, rfl, rfl, rfl⟩, rfl, rfl, rfl⟩

end

end Lifeline.Layout

namespace Lifeline.Diagram

open Layout

/-- The drawing of a diagram with participants is the whole drawing, with its margin. -/
theorem Registered.layout_eq {α : Type} [Add α] [Sub α] [Mul α] [Div α] [NatCast α] [Max α]
    [Min α] [LT α] [DecidableLT α] {d : Diagram} (h : d.Registered) (hread : d.failure = none)
    (hps : d.participants ≠ []) (c : Config α) (v : View) :
    ∃ ts, Layout.stepsOf c d v = .ok ts ∧
      d.layout c v = .ok ((whole c d v ts).fit c.margin) := by
  obtain ⟨ts, hts⟩ := h.stepsOf c v
  have hempty : d.participants.isEmpty = false := by simpa using hps
  refine ⟨ts, hts, ?_⟩
  unfold Diagram.layout
  rw [hread, hempty, draw_eq hempty hts]
  rfl

theorem Registered.layout_settles {α : Type} [AddCommGroup α] [Mul α] [Div α] [NatCast α] [Max α]
    [Min α] [LT α] [DecidableLT α] {d : Diagram} (h : d.Registered) (hread : d.failure = none)
    (hps : d.participants ≠ []) (c : Config α) (v : View) :
    ∃ ts g dx, Layout.stepsOf c d v = .ok ts ∧ d.layout c v = .ok g ∧ (draft c d v ts).Fits g ∧
      (whole c d v ts).Settles dx g := by
  obtain ⟨ts, g, hts, hg, hfits⟩ := h.layout_fits hread c v
  obtain ⟨ts', hts', hdrawn⟩ := h.layout_eq hread hps c v
  obtain rfl : ts = ts' := Except.ok.inj (hts.symm.trans hts')
  obtain rfl := Except.ok.inj (hdrawn.symm.trans hg)
  obtain ⟨dx, hsettles⟩ := (whole c d v ts).settles_fit c.margin
  exact ⟨ts, _, dx, hts, hg, hfits, hsettles⟩

end Lifeline.Diagram
