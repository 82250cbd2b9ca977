import Lifeline.Proofs.Layout.Account
import Lifeline.Proofs.Layout.Activity
import Lifeline.Proofs.Layout.Headers
import Lifeline.Proofs.Layout.Nesting
import Lifeline.Proofs.Layout.Stacks

/-! # The canvas holds everything

A drawing is moved until its leftmost edge is at the margin, and its width is that of its rightmost
edge with the margin behind it. So what has a box is between the margins, however far notes, frames
and the boxes of groups stick out (`Drawing.exists_settles`), and the arrows, which end at lifelines
and at activations, are between them too (`exists_box_of_step`).

The height comes from the vertical pass, which ends below all rows. Below the last row of a block it
leaves room for the ends of all blocks that end there, and below every row a step
(`Config.Nonneg.row_add_le_bottom`), more than any activation hangs over. Above the first row there
is room for the heads of blocks (`Config.Nonneg.headers_add_le_row`), and the headers of the
participants stand above that. Notes may reach further down; then the drawing is higher
(`upright_boxes`).

`Diagram.canvas_read` says so of every document. -/

namespace Lifeline.Layout

/-- The rectangle reaches from left to right and from top to bottom, and lies between four edges. -/
structure Rect.Within {α : Type} [Add α] [NatCast α] [LE α] (r : Rect α)
    (left top right bottom : α) : Prop where
  left : left ≤ r.x
  top : top ≤ r.y
  right : r.right ≤ right
  bottom : r.bottom ≤ bottom
  width : ((0 : Nat) : α) ≤ r.width
  height : ((0 : Nat) : α) ≤ r.height

/-- Everything that is drawn has its place on the canvas, with a margin on both sides and below
notes; and the box of a group keeps its room on both sides of its members. -/
structure Drawing.Enclosed {α : Type} [Add α] [Sub α] [NatCast α] [LE α] (g : Drawing α)
    (c : Config α) : Prop where
  participants : ∀ p ∈ g.participants,
    p.rect.Within c.margin ((0 : Nat) : α) (g.width - c.margin) g.height
  activations : ∀ a ∈ g.activations,
    a.rect.Within c.margin ((0 : Nat) : α) (g.width - c.margin) g.height
  frames : ∀ f ∈ g.frames, f.rect.Within c.margin ((0 : Nat) : α) (g.width - c.margin) g.height
  notes : ∀ n ∈ g.notes, n.rect.Within c.margin ((0 : Nat) : α) (g.width - c.margin) g.height
  groups : ∀ b ∈ g.groups, b.rect.Within c.margin ((0 : Nat) : α) (g.width - c.margin) g.height
  arrows : ∀ t ∈ g.steps, ∀ x ∈ [t.sourceX, t.targetX], c.margin ≤ x ∧ x ≤ g.width - c.margin
  below : ∀ n ∈ g.notes, n.rect.bottom + c.margin ≤ g.height
  members : ∀ b ∈ g.groups, ∀ p ∈ g.participants, p.id ∈ b.members →
    b.rect.x + c.groupPadding ≤ p.rect.x ∧ p.rect.right + c.groupPadding ≤ b.rect.right

/-- All boxes of a drawing, those of participants first. -/
def Drawing.boxes {α : Type} (g : Drawing α) : List (Rect α) :=
  g.participants.map PlacedParticipant.rect ++ g.rects

/-! ### From the leftmost to the rightmost edge -/

section
variable {α : Type} [LinearOrder α] [Add α]

theorem extent_eq (first : Rect α) (rest : List (Rect α)) : extent first rest =
    (rest.foldl (fun a r => min a r.x) first.x,
      rest.foldl (fun a r => max a r.right) first.right) := by
  suffices h : ∀ left right : α,
      rest.foldl (fun e r => (min e.1 r.x, max e.2 r.right)) (left, right) =
        (rest.foldl (fun a r => min a r.x) left, rest.foldl (fun a r => max a r.right) right) from
    h _ _
  induction rest with
  | nil => exact fun _ _ => rfl
  | cons r rest ih => exact fun left right => ih (min left r.x) (max right r.right)

theorem extent_spec (first : Rect α) (rest : List (Rect α)) : ∀ r ∈ first :: rest,
    (extent first rest).1 ≤ r.x ∧ r.right ≤ (extent first rest).2 := by
  rw [extent_eq]
  have hleft := (le_foldl_min_iff (fun r : Rect α => r.x) rest first.x _).mp le_rfl
  have hright := (foldl_max_le_iff (fun r : Rect α => r.right) rest first.right _).mp le_rfl
  exact List.forall_mem_cons.mpr
    ⟨⟨hleft.1, hright.1⟩, fun r hr => ⟨hleft.2 r hr, hright.2 r hr⟩⟩

theorem Drawing.exists_extent? {g : Drawing α} (h : g.boxes ≠ []) :
    ∃ left right, g.extent? = some (left, right) ∧
      ∀ r ∈ g.boxes, left ≤ r.x ∧ r.right ≤ right := by
  unfold Drawing.extent?
  cases hboxes : g.boxes with
  | nil => exact absurd hboxes h
  | cons first rest =>
      unfold boxes at hboxes
      rw [hboxes]
      exact ⟨_, _, rfl, extent_spec first rest⟩

omit [LinearOrder α] in
theorem Drawing.boxes_shift (g : Drawing α) (dx : α) :
    (g.shift dx).boxes = g.boxes.map fun r => r.shift dx := by
  simp only [boxes, rects, shift, List.map_append, List.map_map]
  rfl

end

section
variable {α : Type} [Field α] [LinearOrder α] [IsStrictOrderedRing α]

omit [LinearOrder α] [IsStrictOrderedRing α] in
theorem Rect.right_shift (r : Rect α) (dx : α) : (r.shift dx).right = r.right + dx := by
  simp only [right, Rect.shift]
  ring

/-- A drawing with its margin is the other one, moved; and its boxes are between its margins. -/
theorem Drawing.exists_settles {g : Drawing α} (h : g.boxes ≠ []) (margin : α) :
    ∃ dx, g.Settles dx (g.fit margin) ∧ ∀ r ∈ g.boxes,
      margin ≤ r.x + dx ∧ r.right + dx ≤ (g.fit margin).width - margin := by
  obtain ⟨left, right, hextent, hedges⟩ := exists_extent? h
  obtain ⟨dx, hdx, hmargin⟩ : ∃ dx, (if left < margin then g.shift (margin - left) else g) =
      g.shift dx ∧ margin ≤ left + dx := by
    split
    · exact ⟨_, rfl, (add_sub_cancel left margin).ge⟩
    · next hge => exact ⟨0, g.shift_zero.symm, by rw [add_zero]; exact not_lt.mp hge⟩
  have hmoved : (g.shift dx).boxes ≠ [] := by
    rw [boxes_shift]
    exact mt List.map_eq_nil_iff.mp h
  obtain ⟨left', right', hextent', hedges'⟩ := exists_extent? hmoved
  have hfit : g.fit margin = { g.shift dx with
      width := right' + margin
      bands := (g.shift dx).bands.map fun b =>
        { b with x := left', width := right' - left' } } := by
    simp only [fit, hextent, hdx, hextent']
  rw [hfit]
  refine ⟨dx, ⟨⟨rfl, rfl, rfl, rfl⟩, rfl, rfl, rfl⟩, fun r hr => ⟨?_, ?_⟩⟩
  · linarith [(hedges r hr).1]
  · have hright := (hedges' (r.shift dx) (by
      rw [boxes_shift]
      exact List.mem_map_of_mem hr)).2
    rwa [Rect.right_shift, ← add_sub_cancel_right right' margin] at hright

/-! ### From top to bottom -/

variable {c : Config α} {d : Diagram} {v : View} {w : Visible} {ts : List (PlacedStep α)}
  {row : Nat} {y : α}

theorem Config.Nonneg.headerHeight_le_reach (hc : c.Nonneg) (row : Nat) :
    c.headerHeight ≤ reach c d w row := by
  induction row with
  | zero => exact le_rfl
  | succ row ih =>
      have hbehind := hc.reach_le_behind (d := d) (w := w) row
      have hstep := hc.step
      rw [reach]
      linarith

/-- Above a row, and below the head of the drawing, is room for the heads of the blocks that begin
there. -/
theorem Config.Nonneg.headers_add_le_row (hc : c.Nonneg) (h : row < w.count) :
    c.headerHeight + ((headerRows w d.outline).count row : α) * c.blockHeaderPadding ≤
      (heights c d w).row row := by
  have hreach := hc.headerHeight_le_reach (d := d) (w := w) row
  have hfeet := hc.footers (gapAt d w row).footers
  have hsections := hc.sections (gapAt d w row).sections.length
  have hbranches := hc.branches (gapAt d w row).branches
  have hheaders : (gapAt d w row).headers = (headerRows w d.outline).count row := rfl
  rw [row_heights h, behind_eq, Gap.room, hheaders]
  linarith

/-- Below a row, and above the end, is room for a step and for the ends of the blocks that end
there. -/
theorem Config.Nonneg.row_add_le_bottom (hc : c.Nonneg) (h : row < w.count) :
    (heights c d w).row row + c.stepSpacing +
      ((footerRows w d.outline).count row : α) * c.blockFooterPadding ≤
        (heights c d w).bottom := by
  have hroom := hc.le_room (d := d) (w := w) row
  have hheads := hc.headers ((headerRows w d.outline).count (row + 1))
  have hbottom := bottom_add_step (c := c) (d := d) (w := w)
  have hlater : (gapAt d w (row + 1)).behind c (reach c d w (row + 1)) + c.stepSpacing ≤
      reach c d w (w.count + 1) := hc.behind_add_le_reach (by omega)
  have hreach : reach c d w (row + 1) = (heights c d w).row row + c.stepSpacing := by
    rw [row_heights h, reach]
  rw [behind_eq, hreach] at hlater
  linarith

theorem Config.Nonneg.headerHeight_le_bottom (hc : c.Nonneg) :
    c.headerHeight ≤ (heights c d w).bottom := by
  have hreach := hc.headerHeight_le_reach (d := d) (w := w) w.count
  have hbehind := hc.reach_le_behind (d := d) (w := w) w.count
  have hbottom := bottom_add_step (c := c) (d := d) (w := w)
  rw [reach] at hbottom
  linarith

/-- The rectangle reaches from left to right and from top to bottom, not above the drawing and not
below `y`. -/
structure Rect.Upright (r : Rect α) (y : α) : Prop where
  top : 0 ≤ r.y
  bottom : r.bottom ≤ y
  width : 0 ≤ r.width
  height : 0 ≤ r.height

omit [IsStrictOrderedRing α] in
theorem upright_participant (hc : c.Nonneg)
    (hhead : c.margin + c.participantHeight ≤ c.headerHeight) {p : PlacedParticipant α}
    (hp : p ∈ placedParticipants c d) (hy : c.headerHeight ≤ y) : p.rect.Upright y := by
  obtain ⟨i, hi⟩ := List.mem_iff_getElem?.mp hp
  obtain ⟨left, a, -, rfl⟩ := exists_placedAt hi
  have hmin : 0 ≤ c.minParticipantWidth := hc _ (by simp [Config.measures])
  exact ⟨hc _ (by simp [Config.measures, placedAt]), hhead.trans hy, hmin.trans (le_max_right _ _),
    hc _ (by simp [Config.measures, placedAt])⟩

omit [LinearOrder α] [IsStrictOrderedRing α] in
theorem width_placeActivation? {h : Heights α} {ps : List (PlacedParticipant α)} {a : Activation}
    {b : PlacedActivation α} (hb : placeActivation? c w h ps a = some b) :
    b.rect.width = c.activationWidth := by
  unfold placeActivation? at hb
  simp only [Option.bind_eq_bind, Option.bind_eq_some_iff, Option.pure_def, Option.some.injEq] at hb
  obtain ⟨row, -, bottom, -, x, -, rfl⟩ := hb
  rfl

theorem upright_activation (hc : c.Nonneg) (hw : w.places.Pairwise (· < ·))
    {ps : List (PlacedParticipant α)} {a : PlacedActivation α}
    (ha : a ∈ placedActivations c w (heights c d w) ps) (hy : (heights c d w).bottom ≤ y) :
    a.rect.Upright y := by
  have hplaced := (mem_placedActivations.mp ha).2
  obtain ⟨first, last, hcovers⟩ := exists_covers hw hplaced
  have hlast := hcovers.lt_count
  refine ⟨?_, ?_, ?_, hcovers.nonneg hc⟩
  · have hrow := hc.headers_add_le_row (d := d) (hcovers.le.trans_lt hlast)
    have hheads := hc.headers ((headerRows w d.outline).count first)
    have hheight : 0 ≤ c.headerHeight := hc _ (by simp [Config.measures])
    rw [hcovers.top]
    linarith
  · have hrow := hc.row_add_le_bottom (d := d) hlast
    have hfeet := hc.footers ((footerRows w d.outline).count last)
    have hover := (hc.overhang_le w a.activation).2
    have hhalf := hc.half_step
    rw [hcovers.bottom]
    linarith
  · rw [width_placeActivation? hplaced]
    exact hc _ (by simp [Config.measures])

/-- A frame takes no more room above its first row and below its last one than there is. -/
theorem upright_frame (hd : d.Registered) (hc : c.Nonneg) {b : NestedBlock}
    (hb : b ∈ d.outline.allBlocks 0) {f : Frame α} (hf : blockFrame? c d v b = some f)
    (hy : (heights c d (.of d v)).bottom ≤ y) : f.rect.Upright y := by
  obtain ⟨first, last, hfirst, hlast, htop, -, -, hbottom⟩ := edges_within hd hc hb hf
  have habove := hc.headers_add_le_row (d := d) (Visible.lt_count_of_firstRow? hfirst)
  have hbelow := hc.row_add_le_bottom (d := d) (Visible.lt_count_of_lastRow? hlast)
  have hheight : 0 ≤ c.headerHeight := hc _ (by simp [Config.measures])
  have hstep := hc.step
  obtain ⟨hwidth, hheight'⟩ : 0 ≤ f.rect.width ∧ 0 ≤ f.rect.height := by
    unfold blockFrame? frameOf? at hf
    simp only [Option.bind_eq_bind, Option.bind_eq_some_iff, Option.pure_def,
      Option.some.injEq] at hf
    obtain ⟨_, -, _, -, _, -, rfl⟩ := hf
    exact ⟨Nat.cast_zero (R := α) ▸ le_max_right _ _, Nat.cast_zero (R := α) ▸ le_max_right _ _⟩
  exact ⟨by linarith, by linarith, hwidth, hheight'⟩

omit [IsStrictOrderedRing α] in
theorem exists_noteSize {h : Heights α} {ps : List (PlacedParticipant α)} {placed : Stacks α}
    {notes : List (Note × Nat)} {p : PlacedNote α} (hp : p ∈ placeNotes c v w h ps placed notes) :
    ∃ isCollapsed lines, (p.rect.width, p.rect.height) = noteSize c isCollapsed lines := by
  induction notes generalizing placed with
  | nil => cases hp
  | cons e rest ih =>
      rw [placeNotes] at hp
      split at hp
      · rcases List.mem_cons.mp hp with rfl | hp
        · exact ⟨_, _, rfl⟩
        · exact ih hp
      · exact ih hp

theorem Config.Nonneg.noteSize (hc : c.Nonneg) (isCollapsed : Bool)
    (lines : List (List Inline.Span)) :
    0 ≤ (noteSize c isCollapsed lines).1 ∧ 0 ≤ (noteSize c isCollapsed lines).2 := by
  have hsize : 0 ≤ c.collapsedNoteSize := hc _ (by simp [measures])
  have hline : 0 ≤ c.noteLineHeight := hc _ (by simp [measures])
  have hpadding : 0 ≤ c.notePadding := hc _ (by simp [measures])
  cases isCollapsed with
  | true => exact ⟨hsize, hsize⟩
  | false =>
      have hwidth := ((foldl_max_le_iff id (lines.map fun l => c.textWidth (lineText l))
        ((0 : Nat) : α) _).mp le_rfl).1
      simp only [Layout.noteSize, twice, Bool.false_eq_true, if_false]
      exact ⟨add_nonneg ((Nat.cast_zero (R := α)).ge.trans hwidth) (by positivity), by positivity⟩

theorem upright_note (hc : c.Nonneg) {ps : List (PlacedParticipant α)} {n : PlacedNote α}
    (hn : n ∈ placedNotes c d v w (heights c d w) ps) (hy : n.rect.bottom + c.margin ≤ y) :
    n.rect.Upright y := by
  obtain ⟨note, anchor, x, -, hanchor, -, hangs⟩ := exists_hangs_placedNotes hn
  have hheight : 0 ≤ c.headerHeight := hc _ (by simp [Config.measures])
  have hoffset : 0 ≤ c.noteOffset := hc _ (by simp [Config.measures])
  have hmargin : 0 ≤ c.margin := hc _ (by simp [Config.measures])
  have habove : 0 ≤ anchor := by
    unfold anchor? at hanchor
    split at hanchor
    · exact Option.some.inj hanchor ▸ hheight
    · obtain ⟨row, hrow, rfl⟩ := Option.map_eq_some_iff.mp hanchor
      have hlt := Visible.lt_count_of_mem_ownRows (List.mem_of_getLast? hrow)
      have hbelow := hc.headers_add_le_row (d := d) hlt
      have hheads := hc.headers ((headerRows w d.outline).count row)
      linarith
  have hsize : 0 ≤ n.rect.width ∧ 0 ≤ n.rect.height := by
    unfold placedNotes at hn
    split at hn
    · obtain ⟨isCollapsed, lines, hsize⟩ := exists_noteSize hn
      obtain ⟨hwidth, hheight'⟩ := Prod.mk.inj hsize
      rw [hwidth, hheight']
      exact hc.noteSize isCollapsed lines
    · cases hn
  have hbelow := hangs.below
  exact ⟨by linarith, by linarith, hsize.1, hsize.2⟩

/-- The box of a group is as high as the drawing, and keeps its room on both sides of its
members. -/
theorem groupBox?_spec {ps : List (PlacedParticipant α)} {group : Group} {b : GroupBox α}
    (hpadding : 0 ≤ c.groupPadding) (hwidth : ∀ p ∈ ps, 0 ≤ p.rect.width) (hy : 0 ≤ y)
    (hb : groupBox? c ps y group = some b) : b.rect.Upright y ∧
      ∀ p ∈ ps, p.id ∈ b.members →
        b.rect.x + c.groupPadding ≤ p.rect.x ∧ p.rect.right + c.groupPadding ≤ b.rect.right := by
  unfold groupBox? at hb
  split at hb
  · cases hb
  · next first rest hmembers =>
    have hspec := extent_spec first rest
    generalize extent first rest = e at hb hspec
    rw [← hmembers] at hspec
    have hfirst : first ∈ (ps.filter fun p => group.members.contains p.id).map
        PlacedParticipant.rect := by
      rw [hmembers]
      exact List.mem_cons_self
    obtain ⟨p, hp, rfl⟩ := List.mem_map.mp hfirst
    have hwide := hwidth p (List.mem_of_mem_filter hp)
    obtain ⟨hleft, hright⟩ := hspec _ hfirst
    rw [Rect.right] at hright
    have hsides : e.1 - c.groupPadding ≤ e.2 + c.groupPadding := by linarith
    obtain rfl := Option.some.inj hb
    refine ⟨⟨(Nat.cast_zero (R := α)).ge, ?_, ?_, ?_⟩, fun q hq hid => ?_⟩
    · exact (Rect.bottom_ofEdges (by rwa [Nat.cast_zero])).le
    · exact Nat.cast_zero (R := α) ▸ le_max_right _ _
    · exact Nat.cast_zero (R := α) ▸ le_max_right _ _
    · obtain ⟨hleft, hright⟩ := hspec q.rect (List.mem_map_of_mem
        (List.mem_filter.mpr ⟨hq, List.contains_iff_mem.mpr hid⟩))
      rw [Rect.right_ofEdges hsides]
      refine ⟨?_, by linarith⟩
      simp only [Rect.ofEdges]
      linarith

/-! ### Arrows -/

omit [IsStrictOrderedRing α] in
theorem arrowEnd_cases (as : List (PlacedActivation α)) (id : String) (place : Nat)
    (ignores : Activation → Bool) (here there : α) (isSelfCall : Bool) :
    arrowEnd as id place ignores here there isSelfCall = here ∨
      ∃ a ∈ as, a.rect.HasSide (arrowEnd as id place ignores here there isSelfCall) := by
  unfold arrowEnd
  dsimp only
  split
  · exact .inl rfl
  · next a ha =>
    have hmem := List.mem_of_mem_filter ((deepest?_spec _).2 a ha).1
    refine .inr ⟨a, hmem, ?_⟩
    split
    · exact .inl rfl
    · exact .inr rfl

theorem mem_of_hasSide {r : Rect α} {x : α} (hwidth : 0 ≤ r.width) (h : r.HasSide x) :
    r.x ≤ x ∧ x ≤ r.right := by
  have hsides : r.x ≤ r.right := le_add_of_nonneg_right hwidth
  rcases h with rfl | rfl
  · exact ⟨le_rfl, hsides⟩
  · exact ⟨hsides, le_rfl⟩

theorem lifeline_mem_header (hc : c.Nonneg) {p : PlacedParticipant α}
    (hp : p ∈ placedParticipants c d) : p.rect.x ≤ p.x ∧ p.x ≤ p.rect.right := by
  obtain ⟨i, hi⟩ := List.mem_iff_getElem?.mp hp
  obtain ⟨left, a, -, rfl⟩ := exists_placedAt hi
  have hmin : 0 ≤ c.minParticipantWidth := hc _ (by simp [Config.measures])
  have hwidth : 0 ≤ headerWidth c a := hmin.trans (le_max_right _ _)
  have hhalves := half_add_half (headerWidth c a)
  simp only [placedAt, Rect.right]
  constructor <;> linarith

/-- Both ends of an arrow are in one of the boxes. -/
theorem exists_box_of_step (hd : d.Registered) (hc : c.Nonneg) (hts : stepsOf c d v = .ok ts)
    {t : PlacedStep α} (ht : t ∈ ts) {x : α} (hx : x ∈ [t.sourceX, t.targetX]) :
    ∃ r ∈ (whole c d v ts).boxes, r.x ≤ x ∧ x ≤ r.right := by
  have hplace : ∀ id place ignores there isSelfCall, ∀ p ∈ placedParticipants c d,
      ∃ r ∈ (whole c d v ts).boxes,
        r.x ≤ arrowEnd (whole c d v ts).activations id place ignores p.x there isSelfCall ∧
          arrowEnd (whole c d v ts).activations id place ignores p.x there isSelfCall ≤
            r.right := by
    intro id place ignores there isSelfCall p hp
    rcases arrowEnd_cases (whole c d v ts).activations id place ignores p.x there isSelfCall with
      heq | ⟨a, ha, hside⟩
    · rw [heq]
      exact ⟨p.rect, List.mem_append_left _ (List.mem_map_of_mem hp), lifeline_mem_header hc hp⟩
    · have hwidth : 0 ≤ a.rect.width := by
        rw [width_placeActivation? (mem_placedActivations.mp ha).2]
        exact hc _ (by simp [Config.measures])
      refine ⟨a.rect, ?_, mem_of_hasSide hwidth hside⟩
      simp only [Drawing.boxes, Drawing.rects, List.mem_append, List.mem_map]
      exact .inr (.inl (.inl (.inl ⟨a, ha, rfl⟩)))
  obtain ⟨row, -, hstep, hends⟩ := mem_stepsOf hts ht
  obtain ⟨p, hp, q, hq, -, hsource, -, htarget⟩ := hd.lifelines c (List.mem_of_getElem? hstep)
  obtain ⟨_, _, hsource', htarget', heq⟩ := placeStep_eq_ok.mp hends
  obtain rfl := Option.some.inj (hsource'.symm.trans hsource)
  obtain rfl := Option.some.inj (htarget'.symm.trans htarget)
  rw [heq] at hx
  simp only [List.mem_cons, List.not_mem_nil, or_false] at hx
  rcases hx with rfl | rfl
  · exact hplace _ _ _ _ _ p hp
  · exact hplace _ _ _ _ _ q hq

/-! ### The whole drawing -/

omit [IsStrictOrderedRing α] in
theorem frames_whole (c : Config α) (d : Diagram) (v : View) (ts : List (PlacedStep α)) :
    (whole c d v ts).frames = (d.outline.allBlocks 0).filterMap (blockFrame? c d v) := by
  simp only [whole, draft, sketch, framesOf_eq]

omit [IsStrictOrderedRing α] in
theorem height_whole (c : Config α) (d : Diagram) (v : View) (ts : List (PlacedStep α)) :
    (heights c d (.of d v)).bottom ≤ (whole c d v ts).height ∧
      ∀ n ∈ (whole c d v ts).notes, n.rect.bottom + c.margin ≤ (whole c d v ts).height :=
  (foldl_max_le_iff (fun n : PlacedNote α => n.rect.bottom + c.margin) (whole c d v ts).notes
    (heights c d (.of d v)).bottom _).mp le_rfl

section
variable (hd : d.Registered) (hc : c.Nonneg)
  (hhead : c.margin + c.participantHeight ≤ c.headerHeight)
include hd hc hhead

/-- Every box stands below the top of the drawing and above its bottom. -/
theorem upright_boxes (ts : List (PlacedStep α)) :
    ∀ r ∈ (whole c d v ts).boxes, r.Upright (whole c d v ts).height := by
  obtain ⟨hbottom, hnotes⟩ := height_whole c d v ts
  have hy := hc.headerHeight_le_bottom.trans hbottom
  have hheight : 0 ≤ c.headerHeight := hc _ (by simp [Config.measures])
  intro r hr
  simp only [Drawing.boxes, Drawing.rects, List.mem_append, List.mem_map] at hr
  rcases hr with ⟨p, hp, rfl⟩ | ((⟨a, ha, rfl⟩ | ⟨f, hf, rfl⟩) | ⟨n, hn, rfl⟩) | ⟨b, hb, rfl⟩
  · exact upright_participant hc hhead hp hy
  · exact upright_activation hc (Visible.sorted_places d v) ha hbottom
  · rw [frames_whole] at hf
    obtain ⟨b, hb, hf⟩ := List.mem_filterMap.mp hf
    exact upright_frame hd hc hb hf hbottom
  · exact upright_note hc hn (hnotes n hn)
  · obtain ⟨group, -, hb⟩ := List.mem_filterMap.mp hb
    exact (groupBox?_spec (hc _ (by simp [Config.measures]))
      (fun p hp => (upright_participant hc hhead hp le_rfl).width) (hheight.trans hy) hb).1

omit hd in
theorem members_whole (ts : List (PlacedStep α)) : ∀ b ∈ (whole c d v ts).groups,
    ∀ p ∈ placedParticipants c d, p.id ∈ b.members →
      b.rect.x + c.groupPadding ≤ p.rect.x ∧ p.rect.right + c.groupPadding ≤ b.rect.right := by
  intro b hb
  have hy := (hc.headerHeight_le_bottom (d := d) (w := .of d v)).trans
    (height_whole c d v ts).1
  have hheight : 0 ≤ c.headerHeight := hc _ (by simp [Config.measures])
  obtain ⟨group, -, hb⟩ := List.mem_filterMap.mp hb
  exact (groupBox?_spec (hc _ (by simp [Config.measures]))
    (fun p hp => (upright_participant hc hhead hp le_rfl).width) (hheight.trans hy) hb).2

variable {g : Drawing α} {dx : α}

theorem Drawing.Settles.enclosed (hts : stepsOf c d v = .ok ts)
    (h : (whole c d v ts).Settles dx g) (hsides : ∀ r ∈ (whole c d v ts).boxes,
      c.margin ≤ r.x + dx ∧ r.right + dx ≤ g.width - c.margin) : g.Enclosed c := by
  have hboxes : g.boxes = (whole c d v ts).boxes.map fun r => r.shift dx := by
    rw [← boxes_shift]
    simp only [boxes, rects, h.agrees.participants, h.agrees.activations, h.agrees.frames, h.notes,
      h.groups]
  have hwithin : ∀ r ∈ g.boxes,
      r.Within c.margin ((0 : Nat) : α) (g.width - c.margin) g.height := by
    intro r hr
    rw [hboxes] at hr
    obtain ⟨q, hq, rfl⟩ := List.mem_map.mp hr
    obtain ⟨htop, hbottom, hwidth, hheight⟩ := upright_boxes hd hc hhead ts q hq
    obtain ⟨hleft, hright⟩ := hsides q hq
    rw [← Rect.right_shift] at hright
    rw [← h.height] at hbottom
    have hzero : ((0 : Nat) : α) ≤ 0 := Nat.cast_zero.le
    exact ⟨hleft, hzero.trans htop, hright, hbottom, hzero.trans hwidth, hzero.trans hheight⟩
  simp only [boxes, rects, List.forall_mem_append, List.forall_mem_map] at hwithin
  obtain ⟨hparticipants, ⟨⟨hactivations, hframes⟩, hnotes⟩, hgroups⟩ := hwithin
  refine ⟨hparticipants, hactivations, hframes, hnotes, hgroups, ?_, ?_, ?_⟩
  · intro t ht x hx
    rw [h.agrees.steps] at ht
    obtain ⟨s, hs, rfl⟩ := List.mem_map.mp ht
    obtain ⟨y, hy, rfl⟩ : ∃ y ∈ [s.sourceX, s.targetX], x = y + dx := by
      simpa using hx
    obtain ⟨r, hr, hleft, hright⟩ := exists_box_of_step hd hc hts hs hy
    have hedges := hsides r hr
    constructor <;> linarith
  · intro n hn
    rw [h.notes] at hn
    obtain ⟨m, hm, rfl⟩ := List.mem_map.mp hn
    rw [h.height]
    exact (height_whole _ _ _ _).2 m hm
  · intro b hb p hp hid
    rw [h.groups] at hb
    rw [h.agrees.participants] at hp
    obtain ⟨e, he, rfl⟩ := List.mem_map.mp hb
    obtain ⟨q, hq, rfl⟩ := List.mem_map.mp hp
    obtain ⟨hleft, hright⟩ := members_whole hc hhead ts e he q hq hid
    simp only [Rect.right_shift]
    simp only [Rect.shift]
    constructor <;> linarith

end

end

end Lifeline.Layout

namespace Lifeline.Diagram

open Layout

/-- **The canvas holds everything.** A document that could be read and mentions a participant has a
drawing under every view. Where no measure is negative and the headers of participants, below the
margin, are no higher than the head of the drawing, then in exact arithmetic the boxes of
participants, activations, frames, notes and groups are between the margins on both sides and
between the top and the bottom of the drawing, and so are the ends of all arrows between the
margins; below every note there is a margin; and the box of a group reaches beyond the headers of
its members on both sides, by the padding of groups at least. -/
theorem canvas_read {α : Type} [Field α] [LinearOrder α] [IsStrictOrderedRing α]
    {text : List Char} {d : Diagram} (h : empty.read text = (none, d)) (hps : d.participants ≠ [])
    (c : Config α) (hc : c.Nonneg) (hhead : c.margin + c.participantHeight ≤ c.headerHeight)
    (v : View) : ∃ g, d.layout c v = .ok g ∧ g.Enclosed c := by
  obtain ⟨hsound, hread⟩ := sound_of_read h
  have hd := hsound.registered
  obtain ⟨ts, hts, hg⟩ := hd.layout_eq hread hps c v
  have hboxes : (whole c d v ts).boxes ≠ [] := by
    obtain ⟨a, ha⟩ := List.exists_mem_of_ne_nil _ hps
    obtain ⟨p, hp, -⟩ := List.mem_map.mp ((mem_ids_placedParticipants c).mpr
      (List.mem_map_of_mem (f := Participant.id) ha))
    exact List.ne_nil_of_mem (List.mem_append_left _ (List.mem_map_of_mem hp))
  obtain ⟨dx, hsettles, hsides⟩ := Drawing.exists_settles hboxes c.margin
  exact ⟨_, hg, hsettles.enclosed hd hc hhead hts hsides⟩

/-- A note and the box of a group stick out on the left, a frame with a long label on the right; a
note behind the last step reaches below it, and the end of a call is hidden. -/
def sprawling : List Char :=
  "## Team\n  A\n\nA -> B: <- ok\n".toList ++ "note left of A: far out\n".toList ++
    "loop wider than all of its steps\n".toList ++ "  B -> B\n== S ==\nB -> A\n".toList ++
    "== T ==\nB ~> A\nnote\n  some\n  lines".toList

theorem canvas_read_sprawling : ∃ d, empty.read sprawling = (none, d) ∧ d.participants ≠ [] ∧
    (Config.standard : Config ℚ).Nonneg ∧
    (Config.standard : Config ℚ).margin + (Config.standard : Config ℚ).participantHeight ≤
      (Config.standard : Config ℚ).headerHeight ∧
    (d.layout (Config.standard : Config ℚ) ⟨[0], [], true⟩).toOption.map (fun g =>
        (g.width, g.height, g.rects.map fun r => [r.x, r.right, r.y, r.bottom])) =
      some (485, 376, [[217, 227, 148, 168], [212, 222, 80, 336], [193, 465, 120, 160],
        [20, 85, 90, 122], [229, 280, 306, 354], [45, 149, 0, 376]]) ∧
    ∃ g, d.layout (Config.standard : Config ℚ) ⟨[0], [], true⟩ = .ok g ∧
      g.Enclosed (Config.standard : Config ℚ) := by
  have htext : sprawling = _ :=
    congrArg₂ _ (congrArg₂ _ (congrArg₂ _ (congrArg₂ _ String.toList_ofList String.toList_ofList)
      String.toList_ofList) String.toList_ofList) String.toList_ofList
  have h := read_of_fst empty sprawling (by rw [htext]; decide +kernel)
  have hc : (Config.standard : Config ℚ).Nonneg := by decide +kernel
  have hps : (empty.read sprawling).2.participants ≠ [] := by rw [htext]; decide +kernel
  have hhead : (Config.standard : Config ℚ).margin +
      (Config.standard : Config ℚ).participantHeight ≤
        (Config.standard : Config ℚ).headerHeight := by decide +kernel
  exact ⟨_, h, hps, hc, hhead, by rw [htext]; decide +kernel,
    canvas_read h hps .standard hc hhead ⟨[0], [], true⟩⟩

end Lifeline.Diagram
