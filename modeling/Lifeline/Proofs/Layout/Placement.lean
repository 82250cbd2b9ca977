import Lifeline.Layout.Drawing
import Lifeline.Proofs.Diagram.Growth
import Lifeline.Proofs.Layout.Visible
import Lifeline.Proofs.Order.Arrangement
import Lifeline.Proofs.Timeline.Covering
import Mathlib.Algebra.Group.Basic
import Mathlib.Data.List.Forall2

/-! # Every diagram has a drawing

The participants that are placed are those that are registered, and every step of the timeline goes
between registered participants. So both ends of a visible step have a lifeline, and a diagram
that could be read has a drawing, under every view and with all measures (`Registered.layout`).
This drawing is a draft that has been moved to the right, or not at all (`Drawing.fits_fit`). -/

namespace Lifeline.Layout

variable {α : Type}

/-! ### Lifelines -/

section
variable [Add α] [Div α] [NatCast α] [Max α]

theorem ids_placeParticipants [Mul α] (c : Config α) (left : α) (pgs : List (Participant × α)) :
    (placeParticipants c left pgs).map PlacedParticipant.id =
      (pgs.map Prod.fst).map Participant.id := by
  induction pgs generalizing left with
  | nil => rfl
  | cons pg pgs ih => exact congrArg (pg.1.id :: ·) (ih _)

variable [Sub α] [LT α] [DecidableLT α]

theorem length_widenGaps (c : Config α) (widths : List α) (sender receiver : Nat) (label : α)
    (gaps : List α) :
    (widenGaps c widths sender receiver label gaps).length = gaps.length := by
  simp only [widenGaps]
  split
  · split
    · exact List.length_modify ..
    · rfl
  · split
    · exact List.length_mapIdx
    · rfl

variable [Mul α] (c : Config α)

theorem length_gapsFor (ps : List Participant) (ms : List Message) :
    (gapsFor c ps ms).length = ps.length := by
  rw [gapsFor]
  suffices h : ∀ gaps : List α, gaps.length = ps.length →
      (ms.foldl _ gaps).length = ps.length from h _ List.length_replicate
  induction ms with
  | nil => exact fun _ h => h
  | cons m ms ih =>
      intro gaps h
      refine ih _ ?_
      dsimp only
      split
      · rw [length_widenGaps, h]
      · exact h

theorem ids_placedParticipants_perm (d : Diagram) :
    ((placedParticipants c d).map PlacedParticipant.id).Perm d.ids := by
  have hzip : (d.orderedParticipants.zip (gapsFor c d.orderedParticipants d.messages)).map
      Prod.fst = d.orderedParticipants :=
    List.map_fst_zip (length_gapsFor c _ _).ge
  rw [placedParticipants, ids_placeParticipants, hzip]
  exact d.orderedParticipants_perm.map Participant.id

theorem mem_ids_placedParticipants {d : Diagram} {id : String} :
    id ∈ (placedParticipants c d).map PlacedParticipant.id ↔ id ∈ d.ids :=
  (ids_placedParticipants_perm c d).mem_iff

end

theorem exists_lifeline? {ps : List (PlacedParticipant α)} {id : String}
    (h : id ∈ ps.map PlacedParticipant.id) : ∃ p ∈ ps, p.id = id ∧ lifeline? ps id = some p.x := by
  obtain ⟨q, hq, hid⟩ := List.mem_map.mp h
  cases hfind : ps.find? fun p => p.id == id with
  | none =>
      have := List.find?_eq_none.mp hfind q hq
      simp [hid] at this
  | some p =>
      refine ⟨p, List.mem_of_find?_eq_some hfind, by simpa using List.find?_some hfind, ?_⟩
      rw [lifeline?, hfind]
      rfl

/-! ### Steps -/

section
variable [Add α] [LT α] [DecidableLT α]
  {w : Visible} {h : Heights α} {ps : List (PlacedParticipant α)} {as : List (PlacedActivation α)}
  {row place : Nat} {s : Step} {t : PlacedStep α} {ts : List (PlacedStep α)}

/-- A step has its place if both of its ends have a lifeline. -/
theorem placeStep_eq_ok : placeStep h ps as row place s = .ok t ↔
    ∃ source target, lifeline? ps s.source = some source ∧ lifeline? ps s.target = some target ∧
      t = {
        place := place
        step := s
        y := h.row row
        sourceX := arrowEnd as s.source place (fun a => s.isCall && a.first == place) source target
          s.isSelfCall
        targetX := arrowEnd as s.target place (fun a => !s.isCall && a.last == place) target source
          s.isSelfCall } := by
  unfold placeStep
  rcases hsource : lifeline? ps s.source with _ | source
  · simp
  · rcases htarget : lifeline? ps s.target with _ | target <;> simp [eq_comm]

theorem exists_mapM_ok {β γ ε : Type} {f : β → Except ε γ} {l : List β}
    (h : ∀ b ∈ l, ∃ r, f b = .ok r) : ∃ rs, l.mapM f = .ok rs := by
  induction l with
  | nil => exact ⟨[], rfl⟩
  | cons b l ih =>
      obtain ⟨⟨r, hr⟩, hrest⟩ := List.forall_mem_cons.mp h
      obtain ⟨rs, hrs⟩ := ih hrest
      refine ⟨r :: rs, ?_⟩
      rw [List.mapM_cons, hr, hrs]
      rfl

/-- The results of a list are those of its items. -/
theorem forall₂_of_mapM_ok {β γ ε : Type} {f : β → Except ε γ} {l : List β} {rs : List γ}
    (h : l.mapM f = .ok rs) : List.Forall₂ (fun b r => f b = .ok r) l rs := by
  induction l generalizing rs with
  | nil =>
      cases h
      exact .nil
  | cons b l ih =>
      rw [List.mapM_cons] at h
      cases hb : f b with
      | error e =>
          rw [hb] at h
          cases h
      | ok r =>
          cases hl : l.mapM f with
          | error e =>
              rw [hb, hl] at h
              cases h
          | ok rs =>
              rw [hb, hl] at h
              cases h
              exact .cons hb (ih hl)

theorem map_eq_of_forall₂ {β γ δ : Type} {R : β → γ → Prop} {f : β → δ} {g : γ → δ} {l : List β}
    {l' : List γ} (h : List.Forall₂ R l l') (hR : ∀ b r, R b r → f b = g r) :
    l.map f = l'.map g := by
  induction h with
  | nil => rfl
  | cons hbr _ ih => rw [List.map_cons, List.map_cons, hR _ _ hbr, ih]

theorem getElem?_placedSteps (hts : placedSteps w h ps as = .ok ts) (ht : ts[row]? = some t) :
    ∃ place s, w.rows[row]? = some (place, s) ∧ placeStep h ps as row place s = .ok t := by
  obtain ⟨hlen, hget⟩ := List.forall₂_iff_get.mp (forall₂_of_mapM_ok hts)
  obtain ⟨hlt, rfl⟩ := List.getElem?_eq_some_iff.mp ht
  rw [List.length_zipIdx] at hlen
  have hrow : row < w.rows.length := hlen ▸ hlt
  have hstep := hget row (by rw [List.length_zipIdx]; exact hrow) hlt
  rw [List.get_eq_getElem, List.get_eq_getElem, List.getElem_zipIdx, Nat.zero_add] at hstep
  exact ⟨w.rows[row].1, w.rows[row].2, List.getElem?_eq_getElem hrow, hstep⟩

theorem length_placedSteps (hts : placedSteps w h ps as = .ok ts) : ts.length = w.count := by
  have hlen := (forall₂_of_mapM_ok hts).length_eq
  rw [List.length_zipIdx] at hlen
  exact hlen.symm

theorem map_placedSteps (hts : placedSteps w h ps as = .ok ts) :
    ts.map (fun t => (t.place, t.step, t.y)) =
      w.rows.zipIdx.map fun e => (e.1.1, e.1.2, h.row e.2) := by
  refine (map_eq_of_forall₂ (forall₂_of_mapM_ok hts) ?_).symm
  rintro ⟨⟨place, s⟩, row⟩ t hstep
  obtain ⟨_, _, -, -, rfl⟩ := placeStep_eq_ok.mp hstep
  rfl

end

/-! ### Notes -/

section

/-- The stack that a note belongs to. -/
def stackOf (n : Note) : String × Side := (n.participant, n.side)

/-- What stays of a note when the drawing around it is moved: what it is, and its upper and lower
edges. -/
def PlacedNote.post (n : PlacedNote α) : (Nat × String × Side × Nat × Bool) × α × α :=
  ((n.index, n.participant, n.side, n.line, n.isCollapsed), n.rect.y, n.rect.height)

variable [Add α] [Sub α] [Mul α] [NatCast α] [Max α] {c : Config α} {w : Visible} {h : Heights α}
  {ps : List (PlacedParticipant α)} {placed : Stacks α} {n : Note} {index : Nat}
  {rest : List (Note × Nat)} {v : View}

/-- The upper edge of a note in its stack. -/
def Stacks.top (c : Config α) (placed : Stacks α) (key : String × Side) (anchor : α) : α :=
  match placed.bottom? key with
  | some bottom => max (anchor + c.noteOffset) (bottom + c.noteGap)
  | none => anchor + c.noteOffset

/-- The height of a note, which depends on whether it is collapsed. -/
def noteHeight (c : Config α) (isCollapsed : Bool) (n : Note) : α :=
  (noteSize c isCollapsed
    (if isCollapsed then [] else noteLines c.noteMaxChars n.text.toList)).2

/-- A note goes on top of its stack, beside its lifeline, and the stack then reaches down to the
lower edge of the note. -/
theorem placeNotes_cons (v : View) (placed : Stacks α) (index : Nat) (rest : List (Note × Nat))
    {anchor x : α} (hanchor : anchor? c w h n = some anchor)
    (hx : lifeline? ps n.participant = some x) :
    ∃ p : PlacedNote α,
      p.post = ((index, n.participant, n.side, n.line, v.foldsNote index),
        placed.top c (stackOf n) anchor, noteHeight c (v.foldsNote index) n) ∧
      p.rect = noteRect c n.side x p.rect.y (p.rect.width, p.rect.height) ∧
      placeNotes c v w h ps placed ((n, index) :: rest) =
        p :: placeNotes c v w h ps ((stackOf n, p.rect.y + p.rect.height) :: placed) rest := by
  rw [placeNotes]
  simp only [hanchor, hx]
  exact ⟨_, rfl, rfl, rfl⟩

theorem placeNotes_cons_none (hnone : anchor? c w h n = none ∨ lifeline? ps n.participant = none) :
    placeNotes c v w h ps placed ((n, index) :: rest) = placeNotes c v w h ps placed rest := by
  rw [placeNotes]
  rcases hnone with hnone | hnone
  · rw [hnone]
  · rw [hnone]
    cases anchor? c w h n <;> rfl

theorem placeNotes_nil (c : Config α) (v : View) (w : Visible) (h : Heights α) (placed : Stacks α)
    (notes : List (Note × Nat)) : placeNotes c v w h [] placed notes = [] := by
  induction notes with
  | nil => rfl
  | cons n notes ih => exact (placeNotes_cons_none (.inr rfl)).trans ih

end

/-! ### Drawings -/

/-- Two drawings show the same timeline: participants, steps, activations and frames. -/
structure Drawing.Agrees (g g' : Drawing α) : Prop where
  participants : g.participants = g'.participants
  steps : g.steps = g'.steps
  activations : g.activations = g'.activations
  frames : g.frames = g'.frames

theorem Drawing.Agrees.refl (g : Drawing α) : g.Agrees g := ⟨rfl, rfl, rfl, rfl⟩

theorem Drawing.Agrees.symm {g g' : Drawing α} (h : g.Agrees g') : g'.Agrees g :=
  ⟨h.participants.symm, h.steps.symm, h.activations.symm, h.frames.symm⟩

theorem Drawing.Agrees.trans {g g' g'' : Drawing α} (h : g.Agrees g') (h' : g'.Agrees g'') :
    g.Agrees g'' :=
  ⟨h.participants.trans h'.participants, h.steps.trans h'.steps,
    h.activations.trans h'.activations, h.frames.trans h'.frames⟩

theorem Drawing.Agrees.shift [Add α] {g g' : Drawing α} (h : g.Agrees g') (dx : α) :
    (g.shift dx).Agrees (g'.shift dx) :=
  ⟨congrArg (List.map _) h.participants, congrArg (List.map _) h.steps,
    congrArg (List.map _) h.activations, congrArg (List.map _) h.frames⟩

section
variable [Add α]

/-- A drawing in its place: the other one, perhaps moved to the right. -/
def Drawing.Moves (g g' : Drawing α) : Prop := g'.Agrees g ∨ ∃ dx, g'.Agrees (g.shift dx)

theorem Drawing.Moves.congr {g g' e e' : Drawing α} (h : g.Moves g') (hg : g.Agrees e)
    (hg' : e'.Agrees g') : e.Moves e' := by
  rcases h with h | ⟨dx, h⟩
  · exact Or.inl (hg'.trans (h.trans hg))
  · exact Or.inr ⟨dx, hg'.trans (h.trans (hg.shift dx))⟩

theorem Drawing.Moves.exists_shift {β : Type} [AddZeroClass β] {g g' : Drawing β}
    (h : g.Moves g') : ∃ dx, g'.Agrees (g.shift dx) := by
  rcases h with h | h
  · refine ⟨0, ?_, ?_, ?_, ?_⟩
    · simp [h.participants, shift, Rect.shift]
    · simp [h.steps, shift]
    · simp [h.activations, shift, Rect.shift]
    · simp [h.frames, shift, Rect.shift]
  · exact h

variable [Sub α] [Max α] [Min α] [LT α] [DecidableLT α]

/-- A drawing that is given its margin stays or is moved; then it has its width, and its bands have
theirs. -/
theorem Drawing.fit_cases (g : Drawing α) (margin : α) :
    ∃ g₀, (g₀ = g ∨ ∃ dx, g₀ = g.shift dx) ∧ (g.fit margin = g₀ ∨ ∃ left right, g.fit margin =
      { g₀ with
        width := right + margin
        bands := g₀.bands.map fun b => { b with x := left, width := right - left } }) := by
  cases hextent : g.extent? with
  | none =>
      refine ⟨g, Or.inl rfl, Or.inl ?_⟩
      simp only [fit, hextent]
  | some e =>
      by_cases hlt : e.1 < margin
      · refine ⟨g.shift (margin - e.1), Or.inr ⟨_, rfl⟩, ?_⟩
        simp only [fit, hextent, if_pos hlt]
        cases (g.shift (margin - e.1)).extent? with
        | none => exact Or.inl rfl
        | some e' => exact Or.inr ⟨e'.1, e'.2, rfl⟩
      · refine ⟨g, Or.inl rfl, Or.inr ⟨e.1, e.2, ?_⟩⟩
        simp only [fit, hextent, if_neg hlt]

/-- A drawing in its place, with its notes and the bands of its sections. -/
structure Drawing.Fits (g g' : Drawing α) : Prop where
  moves : g.Moves g'
  notes : g'.notes.map PlacedNote.post = g.notes.map PlacedNote.post
  bands : g'.bands.map Band.y = g.bands.map Band.y

theorem Drawing.fits_fit (g : Drawing α) (margin : α) : g.Fits (g.fit margin) := by
  obtain ⟨g₀, hshift, hfit⟩ := g.fit_cases margin
  have hfits : g.Fits g₀ := by
    rcases hshift with rfl | ⟨dx, rfl⟩
    · exact ⟨Or.inl ⟨rfl, rfl, rfl, rfl⟩, rfl, rfl⟩
    · refine ⟨Or.inr ⟨dx, rfl, rfl, rfl, rfl⟩, ?_, rfl⟩
      rw [shift, List.map_map]
      rfl
  obtain heq | ⟨left, right, heq⟩ := hfit
  · rwa [heq]
  · rw [heq]
    refine ⟨hfits.moves.congr (.refl g) ⟨rfl, rfl, rfl, rfl⟩, hfits.notes, ?_⟩
    rw [← hfits.bands, List.map_map]
    rfl

variable [Mul α] [Div α] [NatCast α]

/-- The timeline of a diagram before it is moved. -/
def sketch (c : Config α) (d : Diagram) (v : View) (ts : List (PlacedStep α)) : Drawing α :=
  let ps := placedParticipants c d
  let w := Visible.of d v
  let h := heights c d w
  { Drawing.blank d.title with
    participants := ps
    steps := ts
    activations := placedActivations c w h ps
    frames := (framesOf c ps w h 0 d.outline).1 }

/-- The sketch with notes and bands. -/
def draft (c : Config α) (d : Diagram) (v : View) (ts : List (PlacedStep α)) : Drawing α :=
  let w := Visible.of d v
  let h := heights c d w
  { sketch c d v ts with
    notes := placedNotes c d v w h (placedParticipants c d)
    bands := if d.participants.isEmpty then [] else bandsOf d v h }

theorem draft_agrees (c : Config α) (d : Diagram) (v : View) (ts : List (PlacedStep α)) :
    (draft c d v ts).Agrees (sketch c d v ts) := ⟨rfl, rfl, rfl, rfl⟩

/-- The steps of a diagram in their places. -/
def stepsOf (c : Config α) (d : Diagram) (v : View) : Except String (List (PlacedStep α)) :=
  let ps := placedParticipants c d
  let w := Visible.of d v
  let h := heights c d w
  placedSteps w h ps (placedActivations c w h ps)

variable {c : Config α} {d : Diagram} {v : View}

/-- A diagram is drawn as soon as its steps have their places. -/
theorem draw_fits {ts : List (PlacedStep α)} (hps : d.participants.isEmpty = false)
    (h : stepsOf c d v = .ok ts) : ∃ g, draw c d v = .ok g ∧ (draft c d v ts).Fits g := by
  unfold draw
  unfold stepsOf at h
  dsimp only at h ⊢
  rw [h]
  refine ⟨_, rfl, ?_⟩
  obtain ⟨hmoves, hnotes, hbands⟩ := Drawing.fits_fit _ c.margin
  refine ⟨hmoves.congr ?_ (.refl _), hnotes, ?_⟩
  · exact ⟨rfl, rfl, rfl, rfl⟩
  · simp only [draft, hps]
    exact hbands

theorem framesOf_eq_nil {ps : List (PlacedParticipant α)} {w : Visible} {h : Heights α}
    (hw : w.count = 0) (depth : Nat) (o : Outline) : framesOf c ps w h depth o = ([], []) := by
  induction o generalizing depth with
  | empty => rfl
  | entry e rest ih => exact ih depth
  | block head body rest ihb ih =>
      have hfirst : w.firstRow? body = none := by
        cases hrow : w.firstRow? body with
        | none => rfl
        | some row => exact absurd (Visible.lt_count_of_firstRow? hrow) (by omega)
      have hframe : frameOf? c ps w h depth head body [] = none := by
        rw [frameOf?, hfirst]
        rfl
      simp only [framesOf, ihb, ih, hframe, List.append_nil]

theorem blank_fits (hps : d.participants = []) (hms : d.messages = []) :
    (draft c d v []).Fits (Drawing.blank d.title : Drawing α) := by
  have hordered : d.orderedParticipants = [] :=
    (hps ▸ d.orderedParticipants_perm).eq_nil
  have hplaced : placedParticipants c d = [] := by
    rw [placedParticipants, hordered]
    rfl
  have hsteps : (Visible.of d v).steps = [] := by
    rw [Visible.of, hms]
    rfl
  refine ⟨Or.inl ⟨?_, rfl, ?_, ?_⟩, ?_, ?_⟩
  · exact hplaced.symm
  · simp only [draft, sketch, placedActivations, hsteps]
    rfl
  · simp only [draft, sketch, framesOf_eq_nil (Visible.count_of_nil hms v)]
    rfl
  · simp only [draft, placedNotes, hplaced, placeNotes_nil, ite_self]
    rfl
  · simp only [draft, hps, List.isEmpty_nil, if_true]
    rfl

end

/-! ### What stands at its height -/

section
variable {α : Type}

/-- Two drawings show the same steps, activations, frames and bands at the same heights. -/
structure Drawing.Level (g g' : Drawing α) : Prop where
  steps : g.steps.map (fun s => (s.place, s.step, s.y)) =
    g'.steps.map fun s => (s.place, s.step, s.y)
  activations : g.activations.map (fun a => (a.activation, a.rect.y, a.rect.height)) =
    g'.activations.map fun a => (a.activation, a.rect.y, a.rect.height)
  frames : g.frames.map
      (fun f => (f.kind, f.label, f.line, f.depth, f.rect.y, f.rect.height, f.dividers)) =
    g'.frames.map fun f => (f.kind, f.label, f.line, f.depth, f.rect.y, f.rect.height, f.dividers)
  bands : g.bands.map Band.y = g'.bands.map Band.y

theorem Drawing.Level.symm {g g' : Drawing α} (h : g.Level g') : g'.Level g :=
  ⟨h.steps.symm, h.activations.symm, h.frames.symm, h.bands.symm⟩

theorem Drawing.Level.trans {g g' g'' : Drawing α} (h : g.Level g') (h' : g'.Level g'') :
    g.Level g'' :=
  ⟨h.steps.trans h'.steps, h.activations.trans h'.activations, h.frames.trans h'.frames,
    h.bands.trans h'.bands⟩

theorem Drawing.Agrees.level {g g' : Drawing α} (h : g.Agrees g')
    (hbands : g.bands.map Band.y = g'.bands.map Band.y) : g.Level g' :=
  ⟨congrArg _ h.steps, congrArg _ h.activations, congrArg _ h.frames, hbands⟩

theorem Drawing.level_shift [Add α] (g : Drawing α) (dx : α) : (g.shift dx).Level g := by
  refine ⟨?_, ?_, ?_, rfl⟩
  all_goals
    rw [shift, List.map_map]
    rfl

theorem Drawing.Fits.level [Add α] {g g' : Drawing α} (h : g.Fits g') : g'.Level g := by
  obtain hagrees | ⟨dx, hagrees⟩ := h.moves
  · exact hagrees.level h.bands
  · have hlevel : g'.Level (g.shift dx) := hagrees.level h.bands
    exact hlevel.trans (g.level_shift dx)

end

end Lifeline.Layout

namespace Lifeline.Diagram

open Layout

variable {d : Diagram}

theorem Registered.ends_of_mem_steps (h : d.Registered) {s : Step}
    (hs : s ∈ Timeline.steps d.messages) : s.source ∈ d.ids ∧ s.target ∈ d.ids := by
  obtain ⟨m, hm, rfl | ⟨-, rfl⟩⟩ := Timeline.exists_message_of_mem_steps hs
  · exact h.ends m hm
  · exact (h.ends m hm).symm

variable {α : Type} [Add α] [Sub α] [Mul α] [Div α] [NatCast α] [Max α] [LT α] [DecidableLT α]

theorem Registered.lifelines (h : d.Registered) (c : Config α) {s : Step}
    (hs : s ∈ Timeline.steps d.messages) :
    ∃ p ∈ placedParticipants c d, ∃ q ∈ placedParticipants c d, p.id = s.source ∧
      lifeline? (placedParticipants c d) s.source = some p.x ∧ q.id = s.target ∧
      lifeline? (placedParticipants c d) s.target = some q.x := by
  obtain ⟨hsource, htarget⟩ := h.ends_of_mem_steps hs
  obtain ⟨p, hp, hid, hx⟩ := exists_lifeline? ((mem_ids_placedParticipants c).mpr hsource)
  obtain ⟨q, hq, hid', hx'⟩ := exists_lifeline? ((mem_ids_placedParticipants c).mpr htarget)
  exact ⟨p, hp, q, hq, hid, hx, hid', hx'⟩

/-- Every visible step has its place. -/
theorem Registered.stepsOf (h : d.Registered) (c : Config α) (v : View) :
    ∃ ts, stepsOf c d v = .ok ts := by
  refine exists_mapM_ok ?_
  rintro ⟨⟨place, s⟩, row⟩ hmem
  have hrow := List.mem_zipIdx_iff_getElem?.mp hmem
  have hs : s ∈ Timeline.steps d.messages := List.mem_of_getElem? (Visible.step_of_row hrow)
  obtain ⟨p, -, q, -, -, hx, -, hx'⟩ := h.lifelines c hs
  exact ⟨_, placeStep_eq_ok.mpr ⟨p.x, q.x, hx, hx', rfl⟩⟩

/-- A diagram that could be read has a drawing: its draft, perhaps moved. -/
theorem Registered.layout_fits [Min α] (h : d.Registered) (hread : d.failure = none)
    (c : Config α) (v : View) : ∃ ts g, Layout.stepsOf c d v = .ok ts ∧ d.layout c v = .ok g ∧
      (draft c d v ts).Fits g := by
  unfold Diagram.layout
  rw [hread]
  dsimp only
  obtain ⟨ts, hts⟩ := h.stepsOf c v
  cases hps : d.participants.isEmpty with
  | true =>
      have hnone : d.participants = [] := List.isEmpty_iff.mp hps
      have hms : d.messages = [] := by
        refine List.eq_nil_iff_forall_not_mem.mpr fun m hm => ?_
        have hid := (h.ends m hm).1
        rw [Diagram.ids, hnone] at hid
        exact List.not_mem_nil hid
      obtain rfl : ts = [] := List.eq_nil_of_length_eq_zero
        ((length_placedSteps hts).trans (Visible.count_of_nil hms v))
      exact ⟨[], _, hts, rfl, blank_fits hnone hms⟩
  | false =>
      obtain ⟨g, hg, hfits⟩ := draw_fits hps hts
      exact ⟨ts, g, hts, by rw [hg]; rfl, hfits⟩

/-- The timeline of this drawing is the sketch, perhaps moved. -/
theorem Registered.layout [Min α] (h : d.Registered) (hread : d.failure = none) (c : Config α)
    (v : View) : ∃ ts g, Layout.stepsOf c d v = .ok ts ∧ d.layout c v = .ok g ∧
      (sketch c d v ts).Moves g := by
  obtain ⟨ts, g, hts, hg, hfits⟩ := h.layout_fits hread c v
  exact ⟨ts, g, hts, hg, hfits.moves.congr (draft_agrees c d v ts) (.refl g)⟩

end Lifeline.Diagram
