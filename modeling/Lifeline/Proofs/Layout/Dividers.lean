import Lifeline.Proofs.Layout.Arms

/-! # Dividers and the frames beside them

The top of a frame stands above its first row by exactly one head for each block that begins there,
the blocks inside it included, and the bottom below its last row by one end for each block that ends
there (`top_eq`, `bottom_eq`): of the blocks that stand in one block, only one covers a row
(`IsEdge.exists_inner`).

A divider stands halfway between two rows, and each block inside its own has all its rows on one
side of it. So a divider cuts through a frame where the heads or the ends of blocks take more than
half of the distance between the two rows, and nowhere else (`cuts_iff`). Where no row of the block
is above the divider, it cuts through all frames that begin with it (`cuts_iff_headless`).

`Diagram.dividers_read` says so of every document, for the default measures. -/

namespace Lifeline

open Layout

namespace Layout

/-! ### Blocks that begin or end at a row -/

/-- The number of blocks that begin at a row, among a block and those inside it. -/
def begins (w : Visible) (b : NestedBlock) (row : Nat) : Nat :=
  (b :: b.body.allBlocks (b.depth + 1)).countP fun z => w.firstRow? z.body = some row

/-- The number of blocks that end at a row, among a block and those inside it. -/
def ends (w : Visible) (b : NestedBlock) (row : Nat) : Nat :=
  (b :: b.body.allBlocks (b.depth + 1)).countP fun z => w.lastRow? z.body = some row

/-- An edge of an outline is one of its rows, and that of every part which covers it. -/
structure IsEdge (w : Visible) (edge : Outline → Option Nat) : Prop where
  mem : ∀ {o row}, edge o = some row → row ∈ w.covered o
  of_mem : ∀ {o o' row}, edge o = some row → o'.messages ⊆ o.messages → row ∈ w.covered o' →
    edge o' = some row

section
variable {d : Diagram} {v : View} {w : Visible} {b z : NestedBlock} {o : Outline} {depth row : Nat}
  {edge : Outline → Option Nat}

theorem isEdge_firstRow? (w : Visible) : IsEdge w w.firstRow? where
  mem := Visible.mem_covered_of_firstRow?
  of_mem := fun h hsub hmem => Visible.firstRow?_eq_some_iff.mpr
    ⟨hmem, fun r hr => (Visible.firstRow?_eq_some_iff.mp h).2 r (Visible.covered_mono hsub hr)⟩

theorem isEdge_lastRow? (w : Visible) : IsEdge w w.lastRow? where
  mem := Visible.mem_covered_of_lastRow?
  of_mem := fun h hsub hmem => Visible.lastRow?_eq_some_iff.mpr
    ⟨hmem, fun r hr => (Visible.lastRow?_eq_some_iff.mp h).2 r (Visible.covered_mono hsub hr)⟩

theorem IsEdge.countP_eq_zero (he : IsEdge w edge) (h : row ∉ w.covered o) :
    (o.allBlocks depth).countP (fun z => edge z.body = some row) = 0 := by
  refine List.countP_eq_zero.mpr fun z hz hrow => h ?_
  exact Visible.covered_mono (Outline.messages_subset hz) (he.mem (of_decide_eq_true hrow))

theorem IsEdge.countP_cons_eq_zero (he : IsEdge w edge) (h : row ∉ w.covered b.body) :
    (b :: b.body.allBlocks depth).countP (fun z => edge z.body = some row) = 0 := by
  rw [List.countP_cons, he.countP_eq_zero h, Nat.zero_add,
    if_neg fun hrow => h (he.mem (of_decide_eq_true hrow))]

/-- Of the blocks that stand in no other one, only one covers a row, so all blocks with an edge at
the row are this one and those inside it. -/
theorem IsEdge.exists_topBlock (he : IsEdge (.of d v) edge) (hd : d.Registered)
    (ho : o.messages.Pairwise fun m n => m.index < n.index)
    (h : 0 < (o.allBlocks depth).countP fun z => edge z.body = some row) :
    ∃ z ∈ o.topBlocks depth, row ∈ (Visible.of d v).covered z.body ∧
      (o.allBlocks depth).countP (fun y => edge y.body = some row) =
        (z :: z.body.allBlocks (z.depth + 1)).countP fun y => edge y.body = some row := by
  induction o with
  | empty => cases h
  | entry e rest ih => exact ih (ho.sublist (Outline.sublist_messages_entry e rest)) h
  | block head body rest _ ih =>
      have htop : (Outline.block head body rest).topBlocks depth =
          ⟨depth, head, body⟩ :: rest.topBlocks depth := rfl
      rw [Outline.messages_block, List.pairwise_append] at ho
      obtain ⟨-, hrest, hbefore⟩ := ho
      rw [Outline.allBlocks, ← List.cons_append, List.countP_append] at h ⊢
      rw [htop]
      by_cases hrow : row ∈ (Visible.of d v).covered body
      · have hnone : row ∉ (Visible.of d v).covered rest := fun hmem =>
          lt_irrefl row (Visible.covered_lt hd hbefore hrow hmem)
        rw [he.countP_eq_zero hnone, Nat.add_zero]
        exact ⟨_, List.mem_cons_self, hrow, rfl⟩
      · have hown : ((⟨depth, head, body⟩ : NestedBlock) :: body.allBlocks (depth + 1)).countP
            (fun y => edge y.body = some row) = 0 := he.countP_cons_eq_zero hrow
        rw [hown, Nat.zero_add] at h ⊢
        obtain ⟨z, hz, hmem, hcount⟩ := ih hrest h
        exact ⟨z, List.mem_cons_of_mem _ hz, hmem, hcount⟩

/-- Where blocks inside a block share an edge with it, so does one that stands in it, around all
the others. -/
theorem IsEdge.exists_inner (he : IsEdge (.of d v) edge) (hd : d.Sound)
    (hb : b ∈ d.outline.allBlocks 0) (hrow : edge b.body = some row)
    (h : 0 < (b.body.allBlocks (b.depth + 1)).countP fun z => edge z.body = some row) :
    ∃ z ∈ b.body.topBlocks (b.depth + 1), edge z.body = some row ∧
      (b.body.allBlocks (b.depth + 1)).countP (fun y => edge y.body = some row) =
        (z :: z.body.allBlocks (z.depth + 1)).countP fun y => edge y.body = some row := by
  obtain ⟨z, hz, hmem, hcount⟩ := he.exists_topBlock hd.registered
    (hd.sorted.sublist (Outline.sublist_messages hb)) h
  have hsub := Outline.messages_subset (Outline.topBlocks_subset hz)
  exact ⟨z, hz, he.of_mem hrow hsub hmem, hcount⟩

theorem begins_of_firstRow? (h : w.firstRow? b.body = some row) :
    begins w b row = (row :: headerRows w b.body).count row := by
  rw [begins, List.countP_cons_of_pos (by simpa using h), List.count_cons_self,
    headerRows_eq w (b.depth + 1), List.count_filterMap]
  exact congrArg (· + 1) (List.countP_congr fun z _ => by simp)

theorem ends_of_lastRow? (h : w.lastRow? b.body = some row) :
    ends w b row = (row :: footerRows w b.body).count row := by
  rw [ends, List.countP_cons_of_pos (by simpa using h), List.count_cons_self,
    footerRows_eq w (b.depth + 1), List.count_filterMap]
  exact congrArg (· + 1) (List.countP_congr fun z _ => by simp)

theorem begins_eq_zero (h : row ∉ w.covered b.body) : begins w b row = 0 :=
  (isEdge_firstRow? w).countP_cons_eq_zero h

theorem ends_eq_zero (h : row ∉ w.covered b.body) : ends w b row = 0 :=
  (isEdge_lastRow? w).countP_cons_eq_zero h

theorem begins_le (hb : b ∈ d.outline.allBlocks 0) : begins w b row ≤ (gapAt d w row).headers := by
  have hheaders : (gapAt d w row).headers =
      (d.outline.allBlocks 0).countP fun z => w.firstRow? z.body = some row := by
    rw [gapAt, headerRows_eq w 0, List.count_filterMap]
    exact List.countP_congr fun z _ => by simp
  rw [hheaders]
  exact (Outline.sublist_allBlocks hb).countP_le

theorem ends_le (hb : b ∈ d.outline.allBlocks 0) :
    ends w b row ≤ (gapAt d w (row + 1)).footers := by
  have hfooters : (gapAt d w (row + 1)).footers =
      (d.outline.allBlocks 0).countP fun z => w.lastRow? z.body = some row := by
    rw [footers_gapAt_succ, footerRows_eq w 0, List.count_filterMap]
    exact List.countP_congr fun z _ => by simp
  rw [hfooters]
  exact (Outline.sublist_allBlocks hb).countP_le

theorem branches_pos {arm : Branch × Outline} (hb : b ∈ d.outline.allBlocks 0)
    (harm : arm ∈ b.body.arms.2) (hrow : w.firstRow? arm.2 = some row) :
    0 < (gapAt d w row).branches := by
  refine List.count_pos_iff.mpr ?_
  rw [branchRows_eq w 0]
  exact List.mem_flatMap.mpr ⟨b, hb, List.mem_filterMap.mpr ⟨arm, harm, hrow⟩⟩

theorem begins_pos (h : w.firstRow? b.body = some row) : 0 < begins w b row := by
  rw [begins_of_firstRow? h, List.count_cons_self]
  exact Nat.succ_pos _

end

/-! ### Exact edges -/

section
variable {α : Type} [Field α] [LinearOrder α] [IsStrictOrderedRing α] {c : Config α} {d : Diagram}
  {v : View}

/-- A frame stands above its first row by the heads of the blocks that begin there. -/
theorem top_eq (hd : d.Sound) (hc : c.Nonneg) : ∀ b ∈ d.outline.allBlocks 0, ∀ f first,
    blockFrame? c d v b = some f → (Visible.of d v).firstRow? b.body = some first →
      f.rect.y = (heights c d (.of d v)).row first -
        (begins (.of d v) b first : α) * c.blockHeaderPadding := by
  refine Outline.allBlocks_induct fun b hb ih f first hf hfirst => le_antisymm ?_ ?_
  · obtain ⟨first', last, hfirst', -, -, henc⟩ := blockFrame?_spec hd.registered hc hf
    obtain rfl : first' = first := Option.some.inj (hfirst'.symm.trans hfirst)
    obtain ⟨hrow, hinner⟩ := (henc.top f.rect.y).mp le_rfl
    rw [begins, List.countP_cons_of_pos (by simpa using hfirst)]
    rcases Nat.eq_zero_or_pos ((b.body.allBlocks (b.depth + 1)).countP fun z =>
      (Visible.of d v).firstRow? z.body = some first') with hnone | hpos
    · rw [hnone]
      push_cast
      linarith
    · obtain ⟨z, hz, hrowz, hcount⟩ := (isEdge_firstRow? _).exists_inner hd hb hfirst hpos
      obtain ⟨_, e, -, -, he, -⟩ := exists_blockFrame? (c := c) hd.registered hc hrowz
      have htop := ih z hz e first' he hrowz
      have hle := hinner e.rect (mem_innerRects.mpr ⟨z, hz, e, he, rfl⟩)
      rw [hcount]
      rw [begins] at htop
      push_cast
      linarith
  · rw [begins_of_firstRow? hfirst]
    exact le_top hd.registered hc b hb f first hf hfirst

theorem bottom_eq (hd : d.Sound) (hc : c.Nonneg) : ∀ b ∈ d.outline.allBlocks 0, ∀ f last,
    blockFrame? c d v b = some f → (Visible.of d v).lastRow? b.body = some last →
      f.rect.bottom = (heights c d (.of d v)).row last +
        (ends (.of d v) b last : α) * c.blockFooterPadding := by
  refine Outline.allBlocks_induct fun b hb ih f last hf hlast => le_antisymm ?_ ?_
  · rw [ends_of_lastRow? hlast]
    exact bottom_le hd.registered hc b hb f last hf hlast
  · obtain ⟨first, last', -, hlast', -, henc⟩ := blockFrame?_spec hd.registered hc hf
    obtain rfl : last' = last := Option.some.inj (hlast'.symm.trans hlast)
    obtain ⟨hrow, hinner⟩ := (henc.bottom f.rect.bottom).mp le_rfl
    rw [ends, List.countP_cons_of_pos (by simpa using hlast)]
    rcases Nat.eq_zero_or_pos ((b.body.allBlocks (b.depth + 1)).countP fun z =>
      (Visible.of d v).lastRow? z.body = some last') with hnone | hpos
    · rw [hnone]
      push_cast
      linarith
    · obtain ⟨z, hz, hrowz, hcount⟩ := (isEdge_lastRow? _).exists_inner hd hb hlast hpos
      obtain ⟨first, hfirst⟩ := Visible.exists_firstRow? (Visible.mem_covered_of_lastRow? hrowz)
      obtain ⟨_, e, -, -, he, -⟩ := exists_blockFrame? (c := c) hd.registered hc hfirst
      have hbottom := ih z hz e last' he hrowz
      have hle := hinner e.rect (mem_innerRects.mpr ⟨z, hz, e, he, rfl⟩)
      rw [hcount]
      rw [ends] at hbottom
      push_cast
      linarith

end

/-! ### The default distances -/

/-- The divider runs through the frame. -/
def Divider.Cuts {α : Type} [Add α] [LT α] (x : Divider α) (f : Frame α) : Prop :=
  f.rect.y < x.y ∧ x.y < f.rect.bottom

/-- The distance between a row and the one above it, with the default measures: that of a step, and
the room for the ends, the sections, the heads and the branches in front of the row. -/
def spaceAbove (d : Diagram) (w : Visible) (row : Nat) : Nat :=
  40 + 12 * (gapAt d w row).footers + 48 * (gapAt d w row).sections.length +
    28 * (gapAt d w row).headers + 24 * (gapAt d w row).branches

section
variable {α : Type} [Field α] {d : Diagram} {w : Visible} {row : Nat}

theorem row_succ_standard (h : row + 1 < w.count) :
    (heights (Config.standard : Config α) d w).row (row + 1) =
      (heights (Config.standard : Config α) d w).row row + (spaceAbove d w (row + 1) : α) := by
  rw [row_succ h, Gap.room, spaceAbove]
  simp only [Config.standard]
  push_cast
  ring

variable [LinearOrder α] [IsStrictOrderedRing α]

theorem nonneg_standard : (Config.standard : Config α).Nonneg := by
  simp [Config.Nonneg, Config.measures, Config.standard]

theorem forty_le_spaceAbove (d : Diagram) (w : Visible) (row : Nat) :
    (40 : α) ≤ spaceAbove d w row := by
  have hnat : 40 ≤ spaceAbove d w row := by
    rw [spaceAbove]
    omega
  exact_mod_cast hnat

variable {v : View} {b z : NestedBlock} {e : Frame α} {arm : Branch × Outline}
  {above first : Nat} {x : Divider α}

/-- What is known of the edges of a frame, with the default measures: where they are, and that they
keep clear of all rows but those of the block. -/
theorem edges_standard (hd : d.Sound) (hz : z ∈ d.outline.allBlocks 0)
    (he : blockFrame? (Config.standard : Config α) d v z = some e) :
    ∃ top bottom, (Visible.of d v).firstRow? z.body = some top ∧
      (Visible.of d v).lastRow? z.body = some bottom ∧
      e.rect.y = (heights (Config.standard : Config α) d (.of d v)).row top -
        28 * (begins (.of d v) z top : α) ∧
      e.rect.bottom = (heights (Config.standard : Config α) d (.of d v)).row bottom +
        12 * (ends (.of d v) z bottom : α) ∧
      (∀ r < top, (heights (Config.standard : Config α) d (.of d v)).row r ≤ e.rect.y) ∧
      ∀ r < (Visible.of d v).count, bottom < r →
        e.rect.bottom ≤ (heights (Config.standard : Config α) d (.of d v)).row r := by
  have hc : (Config.standard : Config α).Nonneg := nonneg_standard
  have hstep := hc.step
  obtain ⟨top, bottom, htop, hbottom, hge, -, -, hle⟩ := edges_within hd.registered hc hz he
  have hy := top_eq hd hc z hz e top he htop
  have hends := bottom_eq hd hc z hz e bottom he hbottom
  have hheader : (Config.standard : Config α).blockHeaderPadding = 28 := Nat.cast_ofNat
  have hfooter : (Config.standard : Config α).blockFooterPadding = 12 := Nat.cast_ofNat
  rw [hheader, mul_comm] at hy
  rw [hfooter, mul_comm] at hends
  refine ⟨top, bottom, htop, hbottom, hy, hends, ?_, ?_⟩
  · intro r hr
    have hgap := hc.row_le_row (d := d) hr (Visible.lt_count_of_firstRow? htop)
    have hfeet := hc.footers ((footerRows (.of d v) d.outline).count r)
    linarith
  · intro r hr hlt
    have hgap := hc.row_le_row (d := d) hlt hr
    have hheads := hc.headers ((headerRows (.of d v) d.outline).count r)
    linarith

theorem cuts_iff_of_above (hd : d.Sound) (hz : z ∈ d.outline.allBlocks 0)
    (he : blockFrame? .standard d v z = some e) (hcount : above + 1 < (Visible.of d v).count)
    (hrows : ∀ r ∈ (Visible.of d v).covered z.body, r ≤ above)
    (hx : x.y + x.y = (heights (Config.standard : Config α) d (.of d v)).row above +
      (heights (Config.standard : Config α) d (.of d v)).row (above + 1)) :
    x.Cuts e ↔ spaceAbove d (.of d v) (above + 1) < 24 * ends (.of d v) z above := by
  have hwide : (40 : α) ≤ spaceAbove d (.of d v) (above + 1) := forty_le_spaceAbove ..
  rw [row_succ_standard hcount] at hx
  obtain ⟨top, bottom, htop, hbottom, hy, hends, -, hclear⟩ := edges_standard hd hz he
  have hlast := hrows _ (Visible.mem_covered_of_lastRow? hbottom)
  have hfirst := hrows _ (Visible.mem_covered_of_firstRow? htop)
  have hbelow := nonneg_standard.row_mono (c := (Config.standard : Config α)) (d := d) hfirst
    (Nat.lt_of_succ_lt hcount)
  have hbegins : (0 : α) ≤ begins (.of d v) z top := Nat.cast_nonneg _
  rcases hlast.eq_or_lt with rfl | hlt
  · constructor
    · rintro ⟨-, hcut⟩
      have hmore : (spaceAbove d (.of d v) (bottom + 1) : α) < 24 * ends (.of d v) z bottom := by
        linarith
      exact_mod_cast hmore
    · intro hmore
      have hmore : (spaceAbove d (.of d v) (bottom + 1) : α) < 24 * ends (.of d v) z bottom := by
        exact_mod_cast hmore
      exact ⟨by linarith, by linarith⟩
  · have hnone : ends (.of d v) z above = 0 := ends_eq_zero fun hmem =>
      hlt.not_ge ((Visible.lastRow?_eq_some_iff.mp hbottom).2 _ hmem)
    have hle := hclear above (Nat.lt_of_succ_lt hcount) hlt
    rw [hnone]
    constructor
    · rintro ⟨-, hcut⟩
      exact absurd hcut (not_lt.mpr (by linarith))
    · intro hmore
      omega

theorem cuts_iff_of_below (hd : d.Sound) (hz : z ∈ d.outline.allBlocks 0)
    (he : blockFrame? .standard d v z = some e) (hcount : above + 1 < (Visible.of d v).count)
    (hrows : ∀ r ∈ (Visible.of d v).covered z.body, above + 1 ≤ r)
    (hx : x.y + x.y = (heights (Config.standard : Config α) d (.of d v)).row above +
      (heights (Config.standard : Config α) d (.of d v)).row (above + 1)) :
    x.Cuts e ↔ spaceAbove d (.of d v) (above + 1) < 56 * begins (.of d v) z (above + 1) := by
  have hwide : (40 : α) ≤ spaceAbove d (.of d v) (above + 1) := forty_le_spaceAbove ..
  have hspace : (heights (Config.standard : Config α) d (.of d v)).row (above + 1) = _ :=
    row_succ_standard hcount
  obtain ⟨top, bottom, htop, hbottom, hy, hends, hclear, -⟩ := edges_standard hd hz he
  have hfirst := hrows _ (Visible.mem_covered_of_firstRow? htop)
  have hlast := hrows _ (Visible.mem_covered_of_lastRow? hbottom)
  have hbelow := nonneg_standard.row_mono (c := (Config.standard : Config α)) (d := d) hlast
    (Visible.lt_count_of_lastRow? hbottom)
  have hends' : (0 : α) ≤ ends (.of d v) z bottom := Nat.cast_nonneg _
  rcases hfirst.eq_or_lt with rfl | hlt
  · constructor
    · rintro ⟨hcut, -⟩
      have hmore : (spaceAbove d (.of d v) (above + 1) : α) <
          56 * begins (.of d v) z (above + 1) := by
        linarith
      exact_mod_cast hmore
    · intro hmore
      have hmore : (spaceAbove d (.of d v) (above + 1) : α) <
          56 * begins (.of d v) z (above + 1) := by
        exact_mod_cast hmore
      exact ⟨by linarith, by linarith⟩
  · have hnone : begins (.of d v) z (above + 1) = 0 := begins_eq_zero fun hmem =>
      hlt.not_ge ((Visible.firstRow?_eq_some_iff.mp htop).2 _ hmem)
    have hle := hclear (above + 1) hlt
    rw [hnone]
    constructor
    · rintro ⟨hcut, -⟩
      exact absurd hcut (not_lt.mpr (by linarith))
    · intro hmore
      omega

/-- Where no row of its block is above it, a divider cuts through the frames that begin with it. -/
theorem cuts_iff_headless (hd : d.Sound) (hz : z ∈ d.outline.allBlocks 0)
    (he : blockFrame? .standard d v z = some e)
    (hrows : ∀ r ∈ (Visible.of d v).covered z.body, row ≤ r)
    (hx : x.y = (heights (Config.standard : Config α) d (.of d v)).row row - 12) :
    x.Cuts e ↔ 0 < begins (.of d v) z row := by
  obtain ⟨top, bottom, htop, hbottom, hy, hends, hclear, -⟩ := edges_standard hd hz he
  have hfirst := hrows _ (Visible.mem_covered_of_firstRow? htop)
  have hlast := hrows _ (Visible.mem_covered_of_lastRow? hbottom)
  have hbelow := nonneg_standard.row_mono (c := (Config.standard : Config α)) (d := d) hlast
    (Visible.lt_count_of_lastRow? hbottom)
  have hends' : (0 : α) ≤ ends (.of d v) z bottom := Nat.cast_nonneg _
  rcases hfirst.eq_or_lt with rfl | hlt
  · have hpos := begins_pos htop
    have hone : (1 : α) ≤ begins (.of d v) z row := by exact_mod_cast hpos
    exact iff_of_true ⟨by linarith, by linarith⟩ hpos
  · have hnone : begins (.of d v) z row = 0 := begins_eq_zero fun hmem =>
      hlt.not_ge ((Visible.firstRow?_eq_some_iff.mp htop).2 _ hmem)
    have hle := hclear row hlt
    refine iff_of_false ?_ (by omega)
    rintro ⟨hcut, -⟩
    linarith

/-- Halfway between two rows, a divider cuts through the frame of a block inside its own if the
heads of the blocks that begin with the frame, or the ends of those that end with it, take more than
half of the distance between the rows. -/
theorem cuts_iff (hd : d.Sound) (hb : b ∈ d.outline.allBlocks 0) (harm : arm ∈ b.body.arms.2)
    (hrow : (Visible.of d v).firstRow? arm.2 = some row) (hlt : first < row)
    (hz : z ∈ b.body.allBlocks (b.depth + 1)) (he : blockFrame? .standard d v z = some e)
    (hx : x.y = half ((heights (Config.standard : Config α) d (.of d v)).row (row - 1) +
      (heights (Config.standard : Config α) d (.of d v)).row row)) :
    x.Cuts e ↔ spaceAbove d (.of d v) row < 56 * begins (.of d v) z row ∨
      spaceAbove d (.of d v) row < 24 * ends (.of d v) z (row - 1) := by
  have hzd := Outline.allBlocks_trans hb hz
  have hcount := Visible.lt_count_of_firstRow? hrow
  obtain ⟨above, rfl⟩ : ∃ above, row = above + 1 := ⟨row - 1, by omega⟩
  have hhalf := half_add_half
    ((heights (Config.standard : Config α) d (.of d v)).row above +
      (heights (Config.standard : Config α) d (.of d v)).row (above + 1))
  rw [Nat.add_sub_cancel] at hx ⊢
  rw [← hx] at hhalf
  rcases Visible.above_or_below_arm hd.registered
    (hd.sorted.sublist (Outline.sublist_messages hb)) harm hz hrow with habove | hbelow
  · have hnone : begins (.of d v) z (above + 1) = 0 :=
      begins_eq_zero fun hmem => lt_irrefl _ (habove _ hmem)
    rw [cuts_iff_of_above hd hzd he hcount (fun r hr => Nat.lt_succ_iff.mp (habove r hr)) hhalf,
      hnone]
    omega
  · have hnone : ends (.of d v) z above = 0 :=
      ends_eq_zero fun hmem => (hbelow _ hmem).not_gt (Nat.lt_succ_self _)
    rw [cuts_iff_of_below hd hzd he hcount hbelow hhalf, hnone]
    omega

/-- Next to two heads and five ends, at most, half of the distance is enough. -/
theorem not_cuts (hd : d.Sound) (hb : b ∈ d.outline.allBlocks 0) (harm : arm ∈ b.body.arms.2)
    (hrow : (Visible.of d v).firstRow? arm.2 = some row) (hlt : first < row)
    (hz : z ∈ b.body.allBlocks (b.depth + 1)) (he : blockFrame? .standard d v z = some e)
    (hx : x.y = half ((heights (Config.standard : Config α) d (.of d v)).row (row - 1) +
      (heights (Config.standard : Config α) d (.of d v)).row row))
    (hheads : (gapAt d (.of d v) row).headers ≤ 2)
    (hfeet : (gapAt d (.of d v) row).footers ≤ 5) : ¬ x.Cuts e := by
  have hzd := Outline.allBlocks_trans hb hz
  have hbegins : begins (.of d v) z row ≤ (gapAt d (.of d v) row).headers := begins_le hzd
  have hends : ends (.of d v) z (row - 1) ≤ (gapAt d (.of d v) (row - 1 + 1)).footers :=
    ends_le hzd
  have hbranch := branches_pos hb harm hrow
  rw [Nat.sub_add_cancel (show 1 ≤ row by omega)] at hends
  rw [cuts_iff hd hb harm hrow hlt hz he hx, spaceAbove]
  omega

end

/-- The frames of the blocks inside a block, each with its block. -/
def Drawing.framesInside {α : Type} (g : Drawing α) (d : Diagram) (v : View) (b : NestedBlock) :
    List (NestedBlock × Frame α) :=
  ((shownBlocks d v).zip g.frames).filter fun p => p.1 ∈ b.body.allBlocks (b.depth + 1)

/-- The divider in front of an arm whose first row is `row`, in a block whose first row is `first`:
where it stands, and which frames of blocks inside that block it cuts through. -/
structure Drawing.Divides {α : Type} [Add α] [Div α] [NatCast α] [LT α] (g : Drawing α)
    (d : Diagram) (v : View) (b : NestedBlock) (arm : Branch × Outline) (x : Divider α)
    (first row : Nat) : Prop where
  opens : (Visible.of d v).firstRow? b.body = some first
  turns : (Visible.of d v).firstRow? arm.2 = some row
  label : x.label = arm.1.label ∧ x.isElse = arm.1.isElse
  midway : first < row → ∃ s t, g.steps[row - 1]? = some s ∧ g.steps[row]? = some t ∧
    t.y = s.y + (spaceAbove d (.of d v) row : α) ∧ x.y = half (s.y + t.y)
  between : first < row → ∀ p ∈ g.framesInside d v b,
    (x.Cuts p.2 ↔ spaceAbove d (.of d v) row < 56 * begins (.of d v) p.1 row ∨
      spaceAbove d (.of d v) row < 24 * ends (.of d v) p.1 (row - 1))
  clear : first < row → (gapAt d (.of d v) row).headers ≤ 2 → (gapAt d (.of d v) row).footers ≤ 5 →
    ∀ p ∈ g.framesInside d v b, ¬ x.Cuts p.2
  ahead : ¬ first < row → ∃ t, g.steps[row]? = some t ∧ t.y = x.y + ((12 : Nat) : α)
  headless : ¬ first < row → ∀ p ∈ g.framesInside d v b,
    (x.Cuts p.2 ↔ 0 < begins (.of d v) p.1 row)

/-- The frame is that of the block, and it has one divider for each arm of the block that has a
visible step, the main one apart. -/
structure Drawing.Branches {α : Type} [Add α] [Div α] [NatCast α] [LT α] (g : Drawing α)
    (d : Diagram) (v : View) (b : NestedBlock) (f : Frame α) : Prop where
  kind : f.kind = b.head.kind
  label : f.label = b.head.label
  line : f.line = b.head.line
  depth : f.depth = b.depth
  dividers : List.Forall₂ (fun arm x => ∃ first row, g.Divides d v b arm x first row)
    (shownArms d v b) f.dividers

section
variable {α : Type} [Field α] [LinearOrder α] [IsStrictOrderedRing α] {d : Diagram} {v : View}
  {b : NestedBlock} {f : Frame α} {g : Drawing α} {dx : α} {ts : List (PlacedStep α)}

theorem half_branchPadding : half (Config.standard : Config α).branchPadding = 12 := by
  have hpad : (Config.standard : Config α).branchPadding = 24 := Nat.cast_ofNat
  have hhalf := half_add_half (Config.standard : Config α).branchPadding
  rw [hpad] at hhalf ⊢
  linarith

omit [IsStrictOrderedRing α] in
theorem exists_step_of_agrees {c : Config α} (hts : stepsOf c d v = .ok ts)
    (h : g.Agrees ((sketch c d v ts).shift dx)) {row : Nat} (hrow : row < (Visible.of d v).count) :
    ∃ t, g.steps[row]? = some t ∧ t.y = (heights c d (.of d v)).row row := by
  have hlength : g.steps.length = (Visible.of d v).count := by
    rw [h.steps, ← length_placedSteps hts]
    exact List.length_map _
  have ht := List.getElem?_eq_getElem (hrow.trans_eq hlength.symm)
  exact ⟨_, ht, (y_of_agrees hts h ht).2⟩

theorem exists_of_mem_framesInside (hd : d.Registered)
    (h : g.Agrees ((sketch (Config.standard : Config α) d v ts).shift dx))
    {p : NestedBlock × Frame α} (hp : p ∈ g.framesInside d v b) :
    p.1 ∈ b.body.allBlocks (b.depth + 1) ∧ ∃ e, blockFrame? .standard d v p.1 = some e ∧
      ∀ x : Divider α, x.Cuts p.2 ↔ x.Cuts e := by
  obtain ⟨hzip, hinside⟩ := List.mem_filter.mp hp
  obtain ⟨e, -, he, heq⟩ :=
    (List.forall₂_iff_zip.mp (forall₂_frames hd nonneg_standard h)).2 hzip
  refine ⟨of_decide_eq_true hinside, e, he, fun x => ?_⟩
  rw [heq]
  rfl

theorem forall₂_divides (hd : d.Sound) (hb : b ∈ d.outline.allBlocks 0)
    (hf : blockFrame? .standard d v b = some f) (hts : stepsOf .standard d v = .ok ts)
    (h : g.Agrees ((sketch (Config.standard : Config α) d v ts).shift dx)) :
    List.Forall₂ (fun arm x => ∃ first row, g.Divides d v b arm x first row) (shownArms d v b)
      f.dividers := by
  obtain ⟨first, hfirst, hdividers⟩ := forall₂_dividers hf
  refine hdividers.imp ?_
  rintro arm x ⟨harm, row, hrow, rfl⟩
  have hcount := Visible.lt_count_of_firstRow? hrow
  obtain ⟨t, ht, hy⟩ := exists_step_of_agrees hts h hcount
  refine ⟨first, row, hfirst, hrow, ⟨rfl, rfl⟩, ?_, ?_, ?_, ?_, ?_⟩
  · intro hlt
    obtain ⟨s, hs, hy'⟩ := exists_step_of_agrees hts h ((Nat.sub_le row 1).trans_lt hcount)
    refine ⟨s, t, hs, ht, ?_, ?_⟩
    · have hsucc : row - 1 + 1 = row := Nat.sub_add_cancel (Nat.one_le_of_lt hlt)
      have hspace : (heights (Config.standard : Config α) d (.of d v)).row (row - 1 + 1) = _ :=
        row_succ_standard (hsucc.trans_lt hcount)
      rw [hsucc] at hspace
      rw [hy, hy', hspace]
    · dsimp only
      rw [if_pos hlt, hy, hy']
  · intro hlt p hp
    obtain ⟨hz, e, he, hcuts⟩ := exists_of_mem_framesInside hd.registered h hp
    rw [hcuts]
    exact cuts_iff hd hb harm hrow hlt hz he (if_pos hlt)
  · intro hlt hheads hfeet p hp
    obtain ⟨hz, e, he, hcuts⟩ := exists_of_mem_framesInside hd.registered h hp
    rw [hcuts]
    exact not_cuts hd hb harm hrow hlt hz he (if_pos hlt) hheads hfeet
  · intro hle
    refine ⟨t, ht, ?_⟩
    dsimp only
    rw [if_neg hle, half_branchPadding, hy, Nat.cast_ofNat, sub_add_cancel]
  · intro hle p hp
    obtain ⟨hz, e, he, hcuts⟩ := exists_of_mem_framesInside hd.registered h hp
    obtain ⟨first', hfirst', hmin⟩ := Visible.exists_firstRow?_of_arm harm hrow
    obtain rfl : first' = first := Option.some.inj (hfirst'.symm.trans hfirst)
    obtain rfl : first' = row := by omega
    have hrows : ∀ r ∈ (Visible.of d v).covered p.1.body, first' ≤ r := fun r hr =>
      (Visible.firstRow?_eq_some_iff.mp hfirst).2 r
        (Visible.covered_mono (Outline.messages_subset hz) hr)
    rw [hcuts]
    refine cuts_iff_headless hd (Outline.allBlocks_trans hb hz) he hrows ?_
    dsimp only
    rw [if_neg hle, half_branchPadding]

end

end Layout

/-- **Dividers beside nested frames.** A document that could be read has a drawing under every view.
With the default measures and in exact arithmetic, each frame of this drawing has one divider for
each arm of its block that has a visible step, the main one apart. If the block has a visible step
above the arm, the divider stands halfway between the first row of the arm and the row above it. It
cuts through the frame of a block inside that one just where the heads of the blocks that begin with
the arm, among this inner block and those inside it, take more than half of the distance between the
two rows, or the ends of the blocks that end above the divider do. It cuts through no frame if at
most two blocks begin at the lower row and at most five end at the upper one. If the block begins
with the arm, the divider stands above the first row, and it cuts through the frames of the inner
blocks that begin there, too. -/
theorem Diagram.dividers_read {α : Type} [Field α] [LinearOrder α] [IsStrictOrderedRing α]
    {text : List Char} {d : Diagram} (h : empty.read text = (none, d)) (v : View) :
    ∃ g, d.layout (Config.standard : Config α) v = .ok g ∧
      List.Forall₂ (g.Branches d v) (shownBlocks d v) g.frames := by
  obtain ⟨hsound, hread⟩ := sound_of_read h
  have hd := hsound.registered
  obtain ⟨ts, g, hts, hg, hmoves⟩ := hd.layout hread (Config.standard : Config α) v
  obtain ⟨dx, hagrees⟩ := hmoves.exists_shift
  refine ⟨g, hg, (forall₂_frames hd nonneg_standard hagrees).imp ?_⟩
  rintro b _ ⟨f, hb, hf, rfl⟩
  obtain ⟨_, _, -, -, -, henc⟩ := blockFrame?_spec hd nonneg_standard hf
  exact ⟨henc.kind, henc.label, henc.line, henc.depth,
    forall₂_divides (f := f) hsound hb hf hts hagrees⟩

/-- A block that begins with its second arm, an arm with three blocks at its first row behind one
without blocks, and one with two blocks there behind the end of three others. -/
def armed : List Char :=
  ("if a\nelse if b\n  loop b\n    A -> B: one\nelse if c\n  A -> B: two\nelse if d\n" ++
    "  if d\n    if d\n      if d\n        A -> B: three\nelse\n" ++
    "  if e\n    if e\n      A -> B: four").toList

theorem Diagram.dividers_read_armed : ∃ d, empty.read armed = (none, d) ∧
    (d.layout (Config.standard : Config ℚ) .everything).toOption.map (fun g =>
        (g.steps.map PlacedStep.y, g.frames.map fun f =>
          (f.line, [f.rect.y, f.rect.bottom], f.dividers.map Divider.y))) =
      some ([160, 236, 384, 540], [(1, [104, 576], [148, 198, 310, 462]), (3, [132, 172], []),
        (8, [300, 420], []), (9, [328, 408], []), (10, [356, 396], []), (13, [484, 564], []),
        (14, [512, 552], [])]) ∧
    ∃ g, d.layout (Config.standard : Config ℚ) .everything = .ok g ∧
      List.Forall₂ (g.Branches d .everything) (shownBlocks d .everything) g.frames := by
  have htext : armed = _ :=
    Text.toList_append_eq (Text.toList_append_eq String.toList_ofList String.toList_ofList)
      String.toList_ofList
  have h := read_of_fst empty armed (by rw [htext]; decide +kernel)
  exact ⟨_, h, by rw [htext]; decide +kernel, dividers_read h .everything⟩

namespace Layout

/-- A divider cuts through the frame of a block inside its own. -/
def Drawing.Torn {α : Type} [Add α] [LT α] (g : Drawing α) (d : Diagram) (v : View) : Prop :=
  ∃ p ∈ (shownBlocks d v).zip g.frames, ∃ x ∈ p.2.dividers, ∃ q ∈ g.framesInside d v p.1,
    x.Cuts q.2

section
variable {α : Type} [Add α] [LT α] [DecidableLT α]

instance (x : Divider α) (f : Frame α) : Decidable (x.Cuts f) :=
  inferInstanceAs (Decidable (_ ∧ _))

instance (g : Drawing α) (d : Diagram) (v : View) : Decidable (g.Torn d v) :=
  inferInstanceAs (Decidable (∃ p ∈ (shownBlocks d v).zip g.frames, ∃ x ∈ p.2.dividers,
    ∃ q ∈ g.framesInside d v p.1, x.Cuts q.2))

end

end Layout

/-- Three blocks that begin with an arm. -/
def deep : List Char :=
  "if a\n  A -> B\nelse\n  if b\n    if c\n      if d\n        A -> B: x".toList

theorem Diagram.dividers_read_deep : ∃ d, empty.read deep = (none, d) ∧
    (d.layout (Config.standard : Config ℚ) .everything).toOption.map (fun g =>
      (decide (g.Torn d .everything), g.frames.map fun f =>
        (f.line, [f.rect.y, f.rect.bottom], f.dividers.map Divider.y))) =
      some (true, [(1, [80, 304], [182]), (4, [172, 292], []), (5, [200, 280], []),
        (6, [228, 268], [])]) := by
  have htext : deep = _ := String.toList_ofList
  have h := read_of_fst empty deep (by rw [htext]; decide +kernel)
  exact ⟨_, h, by rw [htext]; decide +kernel⟩

end Lifeline
