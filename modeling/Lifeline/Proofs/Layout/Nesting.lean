import Lifeline.Proofs.Diagram.History
import Lifeline.Proofs.Layout.Heights
import Lifeline.Proofs.Layout.Placement
import Lifeline.Proofs.Reader.Order
import Mathlib.Algebra.Order.Field.Rat

/-! # Frames are nested like their blocks

A block with a visible step has one frame, and its edges are found from those of the frames inside
it (`blockFrame?_spec`). In exact arithmetic a frame reaches above its first row by at most the
heads of the blocks that begin there, and below its last row by at most the ends of the blocks that
end there (`Encloses.le_top`, `Encloses.bottom_le`). The vertical pass has left room for all of
these between two rows, so frames of which none lies inside the other are apart.

`Diagram.frames_read` puts this together for every document. -/

namespace Lifeline.Layout

/-! ### One frame for each block -/

section
variable {α : Type} [Add α] [Sub α] [Mul α] [Div α] [NatCast α] [Max α] [Min α] [LT α]
  [DecidableLT α]

/-- The frame of a block, around the frames of the blocks inside it. -/
def blockFrame? (c : Config α) (d : Diagram) (v : View) (b : NestedBlock) : Option (Frame α) :=
  let ps := placedParticipants c d
  let w := Visible.of d v
  let h := heights c d w
  frameOf? c ps w h b.depth b.head b.body (framesOf c ps w h (b.depth + 1) b.body).2

theorem tag_of_blockFrame? {c : Config α} {d : Diagram} {v : View} {b : NestedBlock} {f : Frame α}
    (hf : blockFrame? c d v b = some f) :
    (f.kind, f.label, f.line, f.depth) = (b.head.kind, b.head.label, b.head.line, b.depth) := by
  unfold blockFrame? frameOf? at hf
  simp only [Option.bind_eq_bind, Option.bind_eq_some_iff, Option.pure_def, Option.some.injEq] at hf
  obtain ⟨first, -, last, -, ends, -, rfl⟩ := hf
  rfl

/-- The blocks in their order have the frames in theirs. -/
theorem framesOf_eq (c : Config α) (d : Diagram) (v : View) (depth : Nat) (o : Outline) :
    framesOf c (placedParticipants c d) (.of d v) (heights c d (.of d v)) depth o =
      ((o.allBlocks depth).filterMap (blockFrame? c d v),
        ((o.topBlocks depth).filterMap (blockFrame? c d v)).map Frame.rect) := by
  induction o generalizing depth with
  | empty => rfl
  | entry e rest ih => exact ih depth
  | block head body rest ihb ih =>
      have hframe : frameOf? c (placedParticipants c d) (.of d v) (heights c d (.of d v)) depth head
          body (framesOf c (placedParticipants c d) (.of d v) (heights c d (.of d v)) (depth + 1)
            body).2 = blockFrame? c d v ⟨depth, head, body⟩ := rfl
      have htop : (Outline.block head body rest).topBlocks depth =
          ⟨depth, head, body⟩ :: rest.topBlocks depth := rfl
      rw [framesOf]
      simp only [hframe, htop, Outline.allBlocks, List.filterMap_cons, List.filterMap_append]
      cases blockFrame? c d v ⟨depth, head, body⟩ with
      | none => simp only [ihb, ih]
      | some frame => simp only [ihb, ih, List.map_cons, List.cons_append]

end

/-! ### The edges of a frame -/

section
variable {α : Type} [LinearOrder α]

theorem le_foldl_min_iff {β : Type} (f : β → α) (bs : List β) (a x : α) :
    x ≤ bs.foldl (fun a b => min a (f b)) a ↔ x ≤ a ∧ ∀ b ∈ bs, x ≤ f b := by
  induction bs generalizing a with
  | nil => simp
  | cons b bs ih => rw [List.foldl_cons, ih, le_min_iff, List.forall_mem_cons, and_assoc]

theorem foldl_max_le_iff {β : Type} (f : β → α) (bs : List β) (a x : α) :
    bs.foldl (fun a b => max a (f b)) a ≤ x ↔ a ≤ x ∧ ∀ b ∈ bs, f b ≤ x := by
  induction bs generalizing a with
  | nil => simp
  | cons b bs ih => rw [List.foldl_cons, ih, max_le_iff, List.forall_mem_cons, and_assoc]

section ends
variable [Add α] [Sub α] {c : Config α} {ps : List (PlacedParticipant α)} {w : Visible}
  {rows : List Nat}

/-- There is room beside a lifeline, or none, but no less than none. -/
def Config.Roomy (c : Config α) : Prop := ∀ x : α, x - c.blockPaddingX ≤ x + c.blockPaddingX

/-- Steps with lifelines have outermost ends. -/
theorem Config.Roomy.rowEnds? (hc : c.Roomy) (hne : rows ≠ [])
    (hrows : ∀ row ∈ rows, ∃ place s x, w.rows[row]? = some (place, s) ∧
      lifeline? ps s.source = some x) :
    ∃ left right, rowEnds? c ps w rows = some (left, right) ∧ left ≤ right := by
  obtain ⟨row, hrow⟩ := List.exists_mem_of_ne_nil _ hne
  obtain ⟨place, s, x, hs, hx⟩ := hrows row hrow
  have hmem : stepEnds c ps s ∈
      rows.filterMap fun row => (w.rows[row]?).map fun s => stepEnds c ps s.2 :=
    List.mem_filterMap.mpr ⟨row, hrow, by rw [hs]; rfl⟩
  have hxs : x ∈ [s.source, s.target].filterMap (lifeline? ps) :=
    List.mem_filterMap.mpr ⟨s.source, List.mem_cons_self, hx⟩
  have hleft : x - c.blockPaddingX ∈
      (rows.filterMap fun row => (w.rows[row]?).map fun s => stepEnds c ps s.2).flatMap (·.1) :=
    List.mem_flatMap.mpr ⟨_, hmem, List.mem_map_of_mem (f := (· - c.blockPaddingX)) hxs⟩
  have hright : x + c.blockPaddingX ∈
      (rows.filterMap fun row => (w.rows[row]?).map fun s => stepEnds c ps s.2).flatMap (·.2) :=
    List.mem_flatMap.mpr ⟨_, hmem, List.mem_flatMap.mpr ⟨x, hxs, List.mem_cons_self⟩⟩
  rw [Layout.rowEnds?]
  generalize (rows.filterMap fun row => (w.rows[row]?).map fun s => stepEnds c ps s.2) = ends at *
  cases hmin : (ends.flatMap (·.1)).min? with
  | none =>
      rw [List.min?_eq_none_iff.mp hmin] at hleft
      exact absurd hleft List.not_mem_nil
  | some left =>
      cases hmax : (ends.flatMap (·.2)).max? with
      | none =>
          rw [List.max?_eq_none_iff.mp hmax] at hright
          exact absurd hright List.not_mem_nil
      | some right =>
          have h1 := (List.min?_eq_some_iff.mp hmin).2 _ hleft
          have h2 := (List.max?_eq_some_iff.mp hmax).2 _ hright
          have hle : left ≤ right := h1.trans ((hc x).trans h2)
          exact ⟨left, right, if_neg (not_lt.mpr hle), hle⟩

end ends

variable [Field α] [IsStrictOrderedRing α]

theorem Rect.right_ofEdges {left top right bottom : α} (h : left ≤ right) :
    (Rect.ofEdges left top right bottom).right = right := by
  have hwidth : max (right - left) ((0 : Nat) : α) = right - left := by
    rw [Nat.cast_zero]
    exact max_eq_left (sub_nonneg.mpr h)
  simp only [Rect.right, Rect.ofEdges, hwidth]
  ring

theorem Rect.bottom_ofEdges {left top right bottom : α} (h : top ≤ bottom) :
    (Rect.ofEdges left top right bottom).bottom = bottom := by
  have hheight : max (bottom - top) ((0 : Nat) : α) = bottom - top := by
    rw [Nat.cast_zero]
    exact max_eq_left (sub_nonneg.mpr h)
  simp only [Rect.bottom, Rect.ofEdges, hheight]
  ring

variable {c : Config α} {ps : List (PlacedParticipant α)} {w : Visible}

theorem Config.Nonneg.roomy (hc : c.Nonneg) : c.Roomy := by
  intro x
  have hpad : 0 ≤ c.blockPaddingX := hc _ (by simp [measures])
  linarith

/-- The frame of a block, by what its edges have to keep clear of: the first and the last row of the
block, and the frames of the blocks that stand in it. -/
structure Encloses (c : Config α) (h : Heights α) (b : NestedBlock) (first last : Nat)
    (inner : List (Rect α)) (f : Frame α) : Prop where
  kind : f.kind = b.head.kind
  label : f.label = b.head.label
  line : f.line = b.head.line
  depth : f.depth = b.depth
  top : ∀ x, x ≤ f.rect.y ↔ x ≤ h.row first - c.blockHeaderPadding ∧
    ∀ r ∈ inner, x ≤ r.y - c.blockHeaderPadding
  bottom : ∀ x, f.rect.bottom ≤ x ↔ h.row last + c.blockFooterPadding ≤ x ∧
    ∀ r ∈ inner, r.bottom + c.blockFooterPadding ≤ x
  left : ∀ r ∈ inner, f.rect.x + c.frameInset ≤ r.x
  right : ∀ r ∈ inner, r.right + c.frameInset ≤ f.rect.right

theorem exists_frameOf? {h : Heights α} {b : NestedBlock} {first last : Nat} {left right : α}
    (hc : c.Nonneg) (inner : List (Rect α)) (hfirst : w.firstRow? b.body = some first)
    (hlast : w.lastRow? b.body = some last)
    (hends : rowEnds? c ps w (w.covered b.body) = some (left, right)) (hle : left ≤ right)
    (hrow : h.row first ≤ h.row last) :
    ∃ f, frameOf? c ps w h b.depth b.head b.body inner = some f ∧
      Encloses c h b first last inner f := by
  have hhead := hc.header
  have hfoot := hc.footer
  have hleft := (le_foldl_min_iff (fun r : Rect α => r.x - c.frameInset) inner left _).mp le_rfl
  have hright := (foldl_max_le_iff (fun r : Rect α => r.right + c.frameInset) inner right _).mp
    le_rfl
  have htop := (le_foldl_min_iff (fun r : Rect α => r.y - c.blockHeaderPadding) inner
    (h.row first - c.blockHeaderPadding) _).mp le_rfl
  have hbottom := (foldl_max_le_iff (fun r : Rect α => r.bottom + c.blockFooterPadding) inner
    (h.row last + c.blockFooterPadding) _).mp le_rfl
  rw [frameOf?]
  simp only [hfirst, hlast, hends, Option.bind_eq_bind, Option.bind_some]
  refine ⟨_, rfl, rfl, rfl, rfl, rfl, ?_, ?_, ?_, ?_⟩
  · exact fun x => le_foldl_min_iff _ _ _ x
  · intro x
    rw [Rect.bottom_ofEdges (by linarith [htop.1, hbottom.1])]
    exact foldl_max_le_iff _ _ _ x
  · intro r hr
    exact le_sub_iff_add_le.mp (hleft.2 r hr)
  · intro r hr
    have hwide := le_max_left (inner.foldl (fun a r => max a (r.right + c.frameInset)) right)
      (inner.foldl (fun a r => min a (r.x - c.frameInset)) left +
        c.textWidth (frameTitle b.head) + twice c.blockPaddingX)
    rw [Rect.right_ofEdges (by linarith [hleft.1, hright.1])]
    exact (hright.2 r hr).trans hwide

end

/-! ### Frames of a diagram -/

section
variable {α : Type} [Add α] [Sub α] [Mul α] [Div α] [NatCast α] [LinearOrder α] {c : Config α}
  {d : Diagram} {v : View} {b : NestedBlock} {first : Nat}

theorem exists_blockEnds (hd : d.Registered) (hc : c.Roomy)
    (hfirst : (Visible.of d v).firstRow? b.body = some first) :
    ∃ left right, rowEnds? c (placedParticipants c d) (.of d v) ((Visible.of d v).covered b.body) =
      some (left, right) ∧ left ≤ right := by
  refine hc.rowEnds? (List.ne_nil_of_mem (Visible.mem_covered_of_firstRow? hfirst)) ?_
  intro row hrow
  have hget := List.getElem?_eq_getElem (l := (Visible.of d v).rows)
    (Visible.lt_count_of_mem_covered hrow)
  obtain ⟨p, -, -, -, -, hx, -⟩ :=
    hd.lifelines c (List.mem_of_getElem? (Visible.step_of_row hget))
  exact ⟨_, _, p.x, hget, hx⟩

theorem isSome_blockFrame? (hd : d.Registered) (hc : c.Roomy) (b : NestedBlock) :
    (blockFrame? c d v b).isSome = ((Visible.of d v).firstRow? b.body).isSome := by
  rw [blockFrame?, frameOf?]
  cases hfirst : (Visible.of d v).firstRow? b.body with
  | none => rfl
  | some first =>
      obtain ⟨last, hlast, -⟩ := Visible.exists_lastRow? hfirst
      obtain ⟨left, right, hends, -⟩ := exists_blockEnds hd hc hfirst
      simp only [hlast, hends, Option.bind_eq_bind, Option.bind_some]
      rfl

end

section
variable {α : Type} [Field α] [LinearOrder α] {c : Config α} {d : Diagram} {v : View} {o : Outline}
  {depth : Nat} {b z : NestedBlock} {f e : Frame α} {first last row : Nat}

/-- The rectangles of the frames of the blocks that stand in a block. -/
def innerRects (c : Config α) (d : Diagram) (v : View) (b : NestedBlock) : List (Rect α) :=
  ((b.body.topBlocks (b.depth + 1)).filterMap (blockFrame? c d v)).map Frame.rect

theorem mem_innerRects {r : Rect α} : r ∈ innerRects c d v b ↔
    ∃ z ∈ b.body.topBlocks (b.depth + 1), ∃ e, blockFrame? c d v z = some e ∧ e.rect = r := by
  simp only [innerRects, List.mem_map, List.mem_filterMap]
  constructor
  · rintro ⟨e, ⟨z, hz, he⟩, rfl⟩
    exact ⟨z, hz, e, he, rfl⟩
  · rintro ⟨z, hz, e, he, rfl⟩
    exact ⟨e, ⟨z, hz, he⟩, rfl⟩

variable [IsStrictOrderedRing α]

theorem exists_blockFrame? (hd : d.Registered) (hc : c.Nonneg)
    (hfirst : (Visible.of d v).firstRow? b.body = some first) :
    ∃ last f, (Visible.of d v).lastRow? b.body = some last ∧ first ≤ last ∧
      blockFrame? c d v b = some f ∧
      Encloses c (heights c d (.of d v)) b first last (innerRects c d v b) f := by
  obtain ⟨last, hlast, hle⟩ := Visible.exists_lastRow? hfirst
  obtain ⟨left, right, hends, hsides⟩ := exists_blockEnds hd hc.roomy hfirst
  have hrow := hc.row_mono (d := d) hle (Visible.lt_count_of_lastRow? hlast)
  obtain ⟨f, hf, henc⟩ := exists_frameOf? hc (innerRects c d v b) hfirst hlast hends hsides hrow
  refine ⟨last, f, hlast, hle, ?_, henc⟩
  rw [blockFrame?, framesOf_eq]
  exact hf

/-- A frame encloses the rows of its block and the frames inside it. -/
theorem blockFrame?_spec (hd : d.Registered) (hc : c.Nonneg) (hf : blockFrame? c d v b = some f) :
    ∃ first last, (Visible.of d v).firstRow? b.body = some first ∧
      (Visible.of d v).lastRow? b.body = some last ∧ first ≤ last ∧
      Encloses c (heights c d (.of d v)) b first last (innerRects c d v b) f := by
  cases hfirst : (Visible.of d v).firstRow? b.body with
  | none =>
      rw [blockFrame?, frameOf?, hfirst] at hf
      simp at hf
  | some first =>
      obtain ⟨last, f', hlast, hle, hf', henc⟩ := exists_blockFrame? hd hc hfirst
      obtain rfl : f' = f := Option.some.inj (hf'.symm.trans hf)
      exact ⟨first, last, rfl, hlast, hle, henc⟩

/-! ### Room above and below -/

section count
variable {l l' : List Nat} {p : α}

theorem count_mul_le (hp : 0 ≤ p) (h : l.Sublist l') (row : Nat) :
    (l.count row : α) * p ≤ l'.count row * p :=
  mul_le_mul_of_nonneg_right (Nat.cast_le.mpr (h.count_le row)) hp

theorem le_count_self_mul (hp : 0 ≤ p) (row : Nat) (l : List Nat) :
    p ≤ ((row :: l).count row : α) * p := by
  rw [List.count_cons_self, Nat.cast_succ, add_mul, one_mul]
  exact le_add_of_nonneg_left (mul_nonneg (Nat.cast_nonneg _) hp)

theorem count_self_mul_add_le (hp : 0 ≤ p) {row : Nat} (h : (row :: l).Sublist l') :
    ((row :: l).count row : α) * p + p ≤ ((row :: l').count row : α) * p := by
  rw [List.count_cons_self (l := l'), Nat.cast_succ, add_mul, one_mul]
  exact add_le_add_left (count_mul_le hp h row) p

end count

/-- A frame reaches above its first row by no more than the heads of the blocks that begin there:
its own, and those inside it. -/
theorem le_top (hd : d.Registered) (hc : c.Nonneg) : ∀ b ∈ d.outline.allBlocks 0, ∀ f first,
    blockFrame? c d v b = some f → (Visible.of d v).firstRow? b.body = some first →
      (heights c d (.of d v)).row first -
        ((first :: headerRows (.of d v) b.body).count first : α) * c.blockHeaderPadding ≤
          f.rect.y := by
  have hhead := hc.header
  have hstep := hc.step
  refine Outline.allBlocks_induct fun b hb ih f first hf hfirst => ?_
  obtain ⟨first', last, hfirst', -, -, henc⟩ := blockFrame?_spec hd hc hf
  obtain rfl : first' = first := Option.some.inj (hfirst'.symm.trans hfirst)
  have hown := le_count_self_mul hhead first' (headerRows (.of d v) b.body)
  refine (henc.top _).mpr ⟨by linarith, ?_⟩
  intro r hr
  obtain ⟨z, hz, e, he, rfl⟩ := mem_innerRects.mp hr
  obtain ⟨row, -, hrow, -⟩ := blockFrame?_spec hd hc he
  have hbound := ih z hz e row he hrow
  have hinside := Outline.topBlocks_subset hz
  have hle : first' ≤ row := (Visible.firstRow?_eq_some_iff.mp hfirst).2 row
    (Visible.covered_mono (Outline.messages_subset hinside) (Visible.mem_covered_of_firstRow? hrow))
  rcases hle.eq_or_lt with rfl | hlt
  · have hsub := sublist_headerRows hinside hrow
    have hheads := count_self_mul_add_le hhead hsub
    linarith
  · have hsub := sublist_headerRows (Outline.allBlocks_trans hb hinside) hrow
    have hheads := count_mul_le hhead hsub row
    have hgap := hc.row_le_row (d := d) hlt (Visible.lt_count_of_firstRow? hrow)
    have hfeet := hc.footers ((footerRows (.of d v) d.outline).count first')
    linarith

/-- A frame reaches below its last row by no more than the ends of the blocks that end there: its
own, and those inside it. -/
theorem bottom_le (hd : d.Registered) (hc : c.Nonneg) : ∀ b ∈ d.outline.allBlocks 0, ∀ f last,
    blockFrame? c d v b = some f → (Visible.of d v).lastRow? b.body = some last →
      f.rect.bottom ≤ (heights c d (.of d v)).row last +
        ((last :: footerRows (.of d v) b.body).count last : α) * c.blockFooterPadding := by
  have hstep := hc.step
  have hfoot := hc.footer
  refine Outline.allBlocks_induct fun b hb ih f last hf hlast => ?_
  obtain ⟨first, last', -, hlast', -, henc⟩ := blockFrame?_spec hd hc hf
  obtain rfl : last' = last := Option.some.inj (hlast'.symm.trans hlast)
  have hown := le_count_self_mul hfoot last' (footerRows (.of d v) b.body)
  refine (henc.bottom _).mpr ⟨by linarith, ?_⟩
  intro r hr
  obtain ⟨z, hz, e, he, rfl⟩ := mem_innerRects.mp hr
  obtain ⟨-, row, -, hrow, -⟩ := blockFrame?_spec hd hc he
  have hbound := ih z hz e row he hrow
  have hinside := Outline.topBlocks_subset hz
  have hle : row ≤ last' := (Visible.lastRow?_eq_some_iff.mp hlast).2 row
    (Visible.covered_mono (Outline.messages_subset hinside) (Visible.mem_covered_of_lastRow? hrow))
  rcases hle.eq_or_lt with rfl | hlt
  · have hsub := sublist_footerRows hinside hrow
    have hfeet := count_self_mul_add_le hfoot hsub
    linarith
  · have hsub := sublist_footerRows (Outline.allBlocks_trans hb hinside) hrow
    have hfeet := count_mul_le hfoot hsub row
    have hgap := hc.row_le_row (d := d) hlt (Visible.lt_count_of_lastRow? hlast)
    have hheads := hc.headers ((headerRows (.of d v) d.outline).count last')
    linarith

/-! ### Nested frames, and frames apart -/

/-- The outer rectangle keeps its room around the inner one. -/
structure Rect.Holds (c : Config α) (outer inner : Rect α) : Prop where
  left : outer.x + c.frameInset ≤ inner.x
  right : inner.right + c.frameInset ≤ outer.right
  top : outer.y + c.blockHeaderPadding ≤ inner.y
  bottom : inner.bottom + c.blockFooterPadding ≤ outer.bottom

theorem Rect.Holds.trans (hc : c.Nonneg) {r s t : Rect α} (h : r.Holds c s) (h' : s.Holds c t) :
    r.Holds c t := by
  have hinset : 0 ≤ c.frameInset := hc _ (by simp [Config.measures])
  have hhead := hc.header
  have hfoot := hc.footer
  refine ⟨?_, ?_, ?_, ?_⟩
  · linarith [h.left, h'.left]
  · linarith [h.right, h'.right]
  · linarith [h.top, h'.top]
  · linarith [h.bottom, h'.bottom]

theorem Rect.Holds.shift {r s : Rect α} (h : r.Holds c s) (dx : α) :
    (r.shift dx).Holds c (s.shift dx) := by
  have hleft := h.left
  have hright := h.right
  simp only [Rect.right] at hright
  refine ⟨?_, ?_, h.top, h.bottom⟩
  · simp only [Rect.shift]
    linarith
  · simp only [Rect.shift, Rect.right]
    linarith

theorem Encloses.holds {h : Heights α} {inner : List (Rect α)} {r : Rect α}
    (henc : Encloses c h b first last inner f) (hr : r ∈ inner) : f.rect.Holds c r := by
  have htop := ((henc.top f.rect.y).mp le_rfl).2 r hr
  exact ⟨henc.left r hr, henc.right r hr, le_sub_iff_add_le.mp htop,
    ((henc.bottom f.rect.bottom).mp le_rfl).2 r hr⟩

/-- The frame of a block holds the frames of all blocks inside it. -/
theorem holds_of_mem (hd : d.Registered) (hc : c.Nonneg) : ∀ b ∈ d.outline.allBlocks 0, ∀ f,
    blockFrame? c d v b = some f → ∀ z ∈ b.body.allBlocks (b.depth + 1), ∀ e,
      blockFrame? c d v z = some e → f.rect.Holds c e.rect := by
  refine Outline.allBlocks_induct fun b hb ih f hf z hz e he => ?_
  obtain ⟨first, last, -, -, -, henc⟩ := blockFrame?_spec hd hc hf
  obtain ⟨y, hy, rfl | hz⟩ := Outline.mem_allBlocks_iff.mp hz
  · exact henc.holds (mem_innerRects.mpr ⟨z, hy, e, he, rfl⟩)
  · -- the block between the two has a frame, too: it covers the steps of the inner one
    obtain ⟨row, -, hrow, -⟩ := blockFrame?_spec hd hc he
    obtain ⟨first, hfirst⟩ := Visible.exists_firstRow? (Visible.covered_mono
      (Outline.messages_subset hz) (Visible.mem_covered_of_firstRow? hrow))
    obtain ⟨_, e', -, -, he', -⟩ := exists_blockFrame? hd hc hfirst
    have houter := henc.holds (mem_innerRects.mpr ⟨y, hy, e', he', rfl⟩)
    exact houter.trans hc (ih y hy e' he' z hz e he)

/-- In front of its first row and behind its last one a frame takes no more room than there is. -/
theorem edges_within (hd : d.Registered) (hc : c.Nonneg) (hb : b ∈ d.outline.allBlocks 0)
    (hf : blockFrame? c d v b = some f) :
    ∃ first last, (Visible.of d v).firstRow? b.body = some first ∧
      (Visible.of d v).lastRow? b.body = some last ∧
      (heights c d (.of d v)).row first -
        ((headerRows (.of d v) d.outline).count first : α) * c.blockHeaderPadding ≤ f.rect.y ∧
      f.rect.y ≤ (heights c d (.of d v)).row first ∧
      (heights c d (.of d v)).row last ≤ f.rect.bottom ∧
      f.rect.bottom ≤ (heights c d (.of d v)).row last +
        ((footerRows (.of d v) d.outline).count last : α) * c.blockFooterPadding := by
  have hhead := hc.header
  have hfoot := hc.footer
  obtain ⟨first, last, hfirst, hlast, -, henc⟩ := blockFrame?_spec hd hc hf
  have htop := le_top hd hc b hb f first hf hfirst
  have hbottom := bottom_le hd hc b hb f last hf hlast
  have hheads := count_mul_le hhead (sublist_headerRows hb hfirst) first
  have hfeet := count_mul_le hfoot (sublist_footerRows hb hlast) last
  have habove := ((henc.top f.rect.y).mp le_rfl).1
  have hbelow := ((henc.bottom f.rect.bottom).mp le_rfl).1
  refine ⟨first, last, hfirst, hlast, ?_, ?_, ?_, ?_⟩ <;> linarith

theorem apart_of_lt (hd : d.Registered) (hc : c.Nonneg) (hb : b ∈ d.outline.allBlocks 0)
    (hz : z ∈ d.outline.allBlocks 0) (hf : blockFrame? c d v b = some f)
    (he : blockFrame? c d v z = some e)
    (hlt : ∀ m ∈ b.body.messages, ∀ n ∈ z.body.messages, m.index < n.index) :
    f.rect.bottom + c.stepSpacing ≤ e.rect.y := by
  obtain ⟨-, last, -, hlast, -, -, -, hbottom⟩ := edges_within hd hc hb hf
  obtain ⟨first, -, hfirst, -, htop, -⟩ := edges_within hd hc hz he
  have hrows : last < first := Visible.covered_lt hd hlt (Visible.mem_covered_of_lastRow? hlast)
    (Visible.mem_covered_of_firstRow? hfirst)
  have hgap := hc.row_le_row (d := d) hrows (Visible.lt_count_of_firstRow? hfirst)
  linarith

/-- A frame reaches over the rows from the first to the last one of its block, and no others. -/
theorem reaches_iff (hd : d.Registered) (hc : c.Nonneg) (hstep : 0 < c.stepSpacing)
    (hb : b ∈ d.outline.allBlocks 0) (hf : blockFrame? c d v b = some f) :
    ∃ first last, (Visible.of d v).firstRow? b.body = some first ∧
      (Visible.of d v).lastRow? b.body = some last ∧ ∀ row < (Visible.of d v).count,
        (f.rect.y ≤ (heights c d (.of d v)).row row ∧
          (heights c d (.of d v)).row row ≤ f.rect.bottom ↔ first ≤ row ∧ row ≤ last) := by
  obtain ⟨first, last, hfirst, hlast, htop, habove, hbelow, hbottom⟩ := edges_within hd hc hb hf
  refine ⟨first, last, hfirst, hlast, fun row hrow => ⟨?_, ?_⟩⟩
  · rintro ⟨hge, hle⟩
    refine ⟨?_, ?_⟩
    · by_contra hlt
      have hgap := hc.row_le_row (d := d) (Nat.not_le.mp hlt) (Visible.lt_count_of_firstRow? hfirst)
      have hfeet := hc.footers ((footerRows (.of d v) d.outline).count row)
      linarith
    · by_contra hlt
      have hgap := hc.row_le_row (d := d) (Nat.not_le.mp hlt) hrow
      have hheads := hc.headers ((headerRows (.of d v) d.outline).count row)
      linarith
  · rintro ⟨hge, hle⟩
    exact ⟨habove.trans (hc.row_mono hge hrow),
      (hc.row_mono hle (Visible.lt_count_of_lastRow? hlast)).trans hbelow⟩

end

/-! ### The frames of a drawing -/

/-- The blocks that have a visible step. -/
def shownBlocks (d : Diagram) (v : View) : List NestedBlock :=
  (d.outline.allBlocks 0).filter fun b => ((Visible.of d v).firstRow? b.body).isSome

/-- The frame is that of the block, and it reaches over the rows from the first to the last one of
the block. -/
structure Drawing.Marks {α : Type} [LE α] [Add α] (g : Drawing α) (w : Visible) (b : NestedBlock)
    (f : Frame α) : Prop where
  kind : f.kind = b.head.kind
  label : f.label = b.head.label
  line : f.line = b.head.line
  depth : f.depth = b.depth
  rows : ∃ first last, w.firstRow? b.body = some first ∧ w.lastRow? b.body = some last ∧
    ∀ row t, g.steps[row]? = some t →
      (f.rect.y ≤ t.y ∧ t.y ≤ f.rect.bottom ↔ first ≤ row ∧ row ≤ last)

theorem forall₂_filterMap {β γ : Type} {p : β → Bool} {f : β → Option γ} {l : List β}
    (h : ∀ b ∈ l, (f b).isSome = p b) :
    List.Forall₂ (fun b r => b ∈ l ∧ f b = some r) (l.filter p) (l.filterMap f) := by
  induction l with
  | nil => exact .nil
  | cons b l ih =>
      obtain ⟨hb, hl⟩ := List.forall_mem_cons.mp h
      have hrest : List.Forall₂ (fun x r => x ∈ b :: l ∧ f x = some r) (l.filter p)
          (l.filterMap f) := (ih hl).imp fun x r hr => ⟨List.mem_cons_of_mem b hr.1, hr.2⟩
      cases hf : f b with
      | none =>
          rw [hf] at hb
          rw [List.filter_cons_of_neg (by simp [← hb]), List.filterMap_cons_none hf]
          exact hrest
      | some r =>
          rw [hf] at hb
          rw [List.filter_cons_of_pos (by simp [← hb]), List.filterMap_cons_some hf]
          exact .cons ⟨List.mem_cons_self, hf⟩ hrest

theorem pairwise_zip {β γ : Type} {R : β → γ → Prop} {S : β → β → Prop}
    {T : β × γ → β × γ → Prop} {l : List β} {l' : List γ} (h : List.Forall₂ R l l')
    (hS : l.Pairwise S) (hT : ∀ x y, R x.1 x.2 → R y.1 y.2 → S x.1 y.1 → T x y) :
    (l.zip l').Pairwise T := by
  induction h with
  | nil => exact .nil
  | @cons b r l l' hr hrest ih =>
      obtain ⟨hb, hl⟩ := List.pairwise_cons.mp hS
      rw [List.zip_cons_cons]
      refine List.pairwise_cons.mpr ⟨?_, ih hl⟩
      intro y hy
      have hy' : R y.1 y.2 := (List.forall₂_iff_zip.mp hrest).2 hy
      exact hT (b, r) y hr hy' (hb _ (List.of_mem_zip hy).1)

section
variable {α : Type} [Field α] [LinearOrder α] {c : Config α} {d : Diagram} {v : View}
  {ts : List (PlacedStep α)} {g : Drawing α} {dx : α}

theorem y_of_agrees (hts : stepsOf c d v = .ok ts) (h : g.Agrees ((sketch c d v ts).shift dx))
    {row : Nat} {t : PlacedStep α} (ht : g.steps[row]? = some t) :
    row < (Visible.of d v).count ∧ t.y = (heights c d (.of d v)).row row := by
  have hsteps : g.steps = ts.map fun s =>
      { s with sourceX := s.sourceX + dx, targetX := s.targetX + dx } := h.steps
  rw [hsteps, List.getElem?_map] at ht
  obtain ⟨s, hs, rfl⟩ := Option.map_eq_some_iff.mp ht
  obtain ⟨_, _, -, hstep⟩ := getElem?_placedSteps hts hs
  obtain ⟨_, _, -, -, rfl⟩ := placeStep_eq_ok.mp hstep
  refine ⟨?_, rfl⟩
  rw [← length_placedSteps hts]
  exact (List.getElem?_eq_some_iff.mp hs).1

variable [IsStrictOrderedRing α]

theorem forall₂_frames (hd : d.Registered) (hc : c.Nonneg)
    (h : g.Agrees ((sketch c d v ts).shift dx)) :
    List.Forall₂ (fun b f' => ∃ f, b ∈ d.outline.allBlocks 0 ∧ blockFrame? c d v b = some f ∧
      f' = { f with rect := f.rect.shift dx }) (shownBlocks d v) g.frames := by
  have hsketch : (sketch c d v ts).frames =
      (d.outline.allBlocks 0).filterMap (blockFrame? c d v) := by
    simp only [sketch, framesOf_eq]
  rw [h.frames]
  refine List.forall₂_map_right_iff.mpr ?_
  rw [hsketch]
  exact (forall₂_filterMap fun b _ => isSome_blockFrame? hd hc.roomy b).imp fun b f hf => ⟨f, hf.1, hf.2, rfl⟩

end

end Lifeline.Layout

namespace Lifeline

open Layout

section
variable {α : Type} [Field α] [LinearOrder α] [IsStrictOrderedRing α]

/-- **Frames are nested like their blocks.** A document that could be read has a drawing under every
view, for measures that are not negative and steps that do not coincide, in exact arithmetic. There
is one frame for each block with a visible step, in the order of the blocks, and it reaches over
exactly the visible steps from the first to the last one that its block covers. Of two frames the
earlier one holds the later one, with room on all four sides, if the block of the later one lies
inside the block of the earlier one; otherwise the later one begins below the earlier one, by a step
spacing at least. -/
theorem Diagram.frames_read {text : List Char} {d : Diagram} (h : empty.read text = (none, d))
    (v : View) (c : Config α) (hc : c.Nonneg) (hstep : 0 < c.stepSpacing) :
    ∃ g, d.layout c v = .ok g ∧
      List.Forall₂ (g.Marks (.of d v)) (shownBlocks d v) g.frames ∧
      ((shownBlocks d v).zip g.frames).Pairwise fun x y =>
        if y.1 ∈ x.1.body.allBlocks (x.1.depth + 1) then x.2.rect.Holds c y.2.rect
        else x.2.rect.bottom + c.stepSpacing ≤ y.2.rect.y := by
  obtain ⟨hsound, hread⟩ := sound_of_read h
  have hd := hsound.registered
  obtain ⟨ts, g, hts, hg, hmoves⟩ := hd.layout hread c v
  obtain ⟨dx, hagrees⟩ := hmoves.exists_shift
  have hframes := forall₂_frames hd hc hagrees
  refine ⟨g, hg, hframes.imp ?_, pairwise_zip hframes
    ((Outline.pairwise_allBlocks hsound.sorted).filter _) ?_⟩
  · rintro b _ ⟨f, hb, hf, rfl⟩
    obtain ⟨_, _, -, -, -, henc⟩ := blockFrame?_spec hd hc hf
    obtain ⟨first, last, hfirst, hlast, hrows⟩ := reaches_iff hd hc hstep hb hf
    refine ⟨henc.kind, henc.label, henc.line, henc.depth, first, last, hfirst, hlast, ?_⟩
    intro row t ht
    obtain ⟨hrow, hy⟩ := y_of_agrees hts hagrees ht
    rw [hy]
    exact hrows row hrow
  · rintro ⟨b, _⟩ ⟨z, _⟩ ⟨f, hb, hf, rfl⟩ ⟨e, hz, he, rfl⟩ hbz
    by_cases hinside : z ∈ b.body.allBlocks (b.depth + 1)
    · rw [if_pos hinside]
      exact (holds_of_mem hd hc b hb f hf z hinside e he).shift dx
    · rw [if_neg hinside]
      have hgap := apart_of_lt hd hc hb hz hf he (hbz.resolve_left hinside)
      exact hgap

end

/-- Blocks that begin together, an alternative, a block that is hidden, and one behind it. -/
def stacked : List Char :=
  ("loop outer\n  if first\n    A -> B: ask <- answer\n    loop inner\n      B -> C: go\n  else\n" ++
    "    A -> A: think\n== Hidden ==\nloop none\n  C -> A: back\n== Shown ==\nparallel last\n" ++
    "  A -> C: end").toList

theorem Diagram.frames_read_stacked : ∃ d, empty.read stacked = (none, d) ∧
    (Config.standard : Config ℚ).Nonneg ∧ 0 < (Config.standard : Config ℚ).stepSpacing ∧
    (d.layout (Config.standard : Config ℚ) ⟨[0], [], true⟩).toOption.map (fun g =>
        g.frames.map fun f => (f.line, f.depth, f.rect.y, f.rect.bottom)) =
      some [(1, 0, 80, 344), (2, 1, 108, 332), (4, 2, 176, 216), (12, 0, 480, 520)] ∧
    ∃ g, d.layout (Config.standard : Config ℚ) ⟨[0], [], true⟩ = .ok g ∧
      List.Forall₂ (g.Marks (.of d ⟨[0], [], true⟩)) (shownBlocks d ⟨[0], [], true⟩) g.frames ∧
      ((shownBlocks d ⟨[0], [], true⟩).zip g.frames).Pairwise fun x y =>
        if y.1 ∈ x.1.body.allBlocks (x.1.depth + 1) then x.2.rect.Holds .standard y.2.rect
        else x.2.rect.bottom + (Config.standard : Config ℚ).stepSpacing ≤ y.2.rect.y := by
  have htext : stacked = _ :=
    Text.toList_append_eq (Text.toList_append_eq String.toList_ofList String.toList_ofList)
      String.toList_ofList
  have h := read_of_fst empty stacked (by rw [htext]; decide +kernel)
  have hc : (Config.standard : Config ℚ).Nonneg := by decide +kernel
  have hstep : 0 < (Config.standard : Config ℚ).stepSpacing := by decide +kernel
  exact ⟨_, h, hc, hstep, by rw [htext]; decide +kernel,
    frames_read h ⟨[0], [], true⟩ .standard hc hstep⟩

end Lifeline
