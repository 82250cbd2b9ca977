import Lifeline.Proofs.Diagram.History
import Lifeline.Proofs.Layout.Heights
import Lifeline.Proofs.Layout.Placement

/-! # A layout stays in its lists

A layout looks up participants by their indices, slots, gaps between headers, gaps between rows,
steps and heights by their rows, and it puts the frame of a block in front of the frames inside it.
Every such index is one of the list it is used with, for every diagram with a history and under
every view, whatever the sections and notes are that the view names. So the layout of a diagram
that could be read is never cut short (`Diagram.layout_total`). -/

namespace Lifeline

open Layout

/-! ### Participants and slots -/

namespace Diagram

/-- The positions that the participants ask for, in the grouped order. -/
def positions (d : Diagram) : List (Option Int) :=
  d.groupedOrder.map fun i => (d.participants[i]?).bind Participant.position

/-- The indices behind the order of the participants: those of the participants, and the slots and
items of those that ask for a slot. -/
structure OrderInRange (d : Diagram) : Prop where
  grouped : ∀ i ∈ d.groupedOrder, i < d.participants.length
  requested : ∀ r ∈ Order.requests d.positions.length d.positions,
    r.1 < d.positions.length ∧ r.2 < d.groupedOrder.length
  tried : ∀ r ∈ Order.requests d.positions.length d.positions,
    ∀ slot ∈ Order.candidates d.positions.length r.1, slot < d.positions.length
  arranged : ∀ item ∈ Order.arrangement d.positions, item < d.groupedOrder.length
  ordered : ∀ i ∈ d.order, i < d.participants.length

theorem orderInRange (d : Diagram) : d.OrderInRange := by
  have hlen : d.positions.length = d.groupedOrder.length := List.length_map _
  refine ⟨?_, ?_, ?_, ?_, ?_⟩
  · exact fun i hi => List.mem_range.mp (d.groupedOrder_perm.mem_iff.mp hi)
  · intro r hr
    rw [← hlen]
    exact Order.requests_lt hr
  · intro r hr slot hslot
    exact Order.candidates_lt (Order.requests_lt hr).1 hslot
  · intro item hitem
    rw [← hlen]
    exact List.mem_range.mp ((Order.arrangement_perm d.positions).mem_iff.mp hitem)
  · exact fun i hi => List.mem_range.mp (d.order_perm.mem_iff.mp hi)

end Diagram

namespace Layout

/-! ### Gaps between headers -/

section
variable {α : Type} [Add α] [Sub α] [Mul α] [Div α] [NatCast α] [Max α] [LT α] [DecidableLT α]

/-- The slots of the two ends of a message among widths and gaps: those between the two are a part
of the list. -/
structure GapsInRange (c : Config α) (d : Diagram) : Prop where
  widened : ∀ before m after, d.messages = before ++ m :: after →
    ∃ sender receiver,
      d.orderedParticipants.findIdx? (fun p => p.id == m.sender) = some sender ∧
      d.orderedParticipants.findIdx? (fun p => p.id == m.receiver) = some receiver ∧
      max sender receiver < (d.orderedParticipants.map (headerWidth c)).length ∧
      max sender receiver < (gapsFor c d.orderedParticipants before).length ∧
      (sender ≠ receiver → min sender receiver + 1 ≤ max sender receiver)
  placed : (gapsFor c d.orderedParticipants d.messages).length = d.orderedParticipants.length

theorem gapsInRange (c : Config α) {d : Diagram} (h : d.Registered) : GapsInRange c d := by
  have hslot : ∀ id ∈ d.ids, ∃ slot,
      d.orderedParticipants.findIdx? (fun p => p.id == id) = some slot ∧
        slot < d.orderedParticipants.length := by
    intro id hid
    have hmem := (d.orderedParticipants_perm.map Participant.id).mem_iff.mpr hid
    obtain ⟨p, hp, hpid⟩ := List.mem_map.mp hmem
    have hsome : (d.orderedParticipants.findIdx? fun p => p.id == id).isSome = true := by
      rw [List.findIdx?_isSome]
      exact List.any_eq_true.mpr ⟨p, hp, by simpa using hpid⟩
    obtain ⟨slot, hslot⟩ := Option.isSome_iff_exists.mp hsome
    exact ⟨slot, hslot, (List.findIdx?_eq_some_iff_findIdx_eq.mp hslot).1⟩
  refine ⟨?_, length_gapsFor c _ _⟩
  intro before m after hm
  obtain ⟨hsender, hreceiver⟩ := h.ends m (hm ▸ List.mem_append_right _ List.mem_cons_self)
  obtain ⟨sender, hsender, hlt⟩ := hslot m.sender hsender
  obtain ⟨receiver, hreceiver, hlt'⟩ := hslot m.receiver hreceiver
  refine ⟨sender, receiver, hsender, hreceiver, ?_, ?_, by omega⟩
  · rw [List.length_map]
    exact max_lt hlt hlt'
  · rw [length_gapsFor]
    exact max_lt hlt hlt'

end

/-! ### Rows -/

/-- The rows and the gaps in front of them: a row is that of a step, and blocks and sections have
their gaps. -/
structure RowsInRange (d : Diagram) (w : Visible) : Prop where
  step : ∀ row < w.count, ∃ place s, w.rows[row]? = some (place, s) ∧ w.steps[place]? = some s
  headers : ∀ row ∈ headerRows w d.outline, row < (gaps d w).length
  branches : ∀ row ∈ branchRows w d.outline, row < (gaps d w).length
  footers : ∀ row ∈ footerRows w d.outline, row + 1 < (gaps d w).length
  sections : ∀ s ∈ d.sections, sectionRow w s < (gaps d w).length
  divided : ∀ g ∈ gaps d w, ∀ i ∈ g.sections, i < d.sections.length

theorem rowsInRange (d : Diagram) (v : View) : RowsInRange d (.of d v) := by
  refine ⟨?_, ?_, ?_, ?_, ?_, ?_⟩
  · intro row hrow
    have hget := List.getElem?_eq_getElem (l := (Visible.of d v).rows) hrow
    exact ⟨_, _, hget, Visible.step_of_row hget⟩
  · intro row hrow
    rw [length_gaps]
    exact (lt_count_of_mem_headerRows hrow).trans (Nat.lt_succ_self _)
  · intro row hrow
    rw [length_gaps]
    exact (lt_count_of_mem_branchRows hrow).trans (Nat.lt_succ_self _)
  · intro row hrow
    rw [length_gaps]
    exact Nat.succ_lt_succ (lt_count_of_mem_footerRows hrow)
  · intro s _
    rw [length_gaps]
    exact Nat.lt_succ_of_le (sectionRow_le _ s)
  · intro g hg i hi
    exact List.mem_range.mp ((sections_gaps_perm d _).mem_iff.mp (List.mem_flatMap.mpr ⟨g, hg, hi⟩))

/-! ### Heights -/

/-- The rows that heights are looked up for: those of activations, of blocks, of their branches with
the row above, and of notes. Every section has a height of its own. -/
structure HeightsInRange {α : Type} (d : Diagram) (w : Visible) (h : Heights α) : Prop where
  rows : h.rows.length = w.count
  sections : (h.sections.map Prod.fst).Perm (List.range d.sections.length)
  activations : ∀ a ∈ Timeline.activations w.steps, ∀ row,
    w.firstFrom? a.first = some row ∨ w.row? a.last = some row ∨ w.lastBefore? a.last = some row →
      row < h.rows.length
  blocks : ∀ body row, w.firstRow? body = some row ∨ w.lastRow? body = some row ∨
    row ∈ w.covered body → row < h.rows.length
  branches : ∀ body first arm row, w.firstRow? body = some first → w.firstRow? arm = some row →
    row < h.rows.length ∧ (first < row → 1 ≤ row ∧ row - 1 < h.rows.length)
  notes : ∀ n ∈ d.outline.notes, ∀ m ∈ n.afterMessage, ∀ row ∈ (w.ownRows m).getLast?,
    row < h.rows.length

theorem heightsInRange {α : Type} [Add α] [Mul α] [NatCast α] (c : Config α) (d : Diagram)
    (w : Visible) : HeightsInRange d w (heights c d w) := by
  have hrows : (heights c d w).rows.length = w.count := length_rows_heights
  refine ⟨hrows, sections_heights_perm, ?_, ?_, ?_, ?_⟩ <;> rw [hrows]
  · rintro a - row (h | h | h)
    · exact Visible.lt_count_of_firstFrom? h
    · exact Visible.lt_count_of_row? h
    · exact Visible.lt_count_of_lastBefore? h
  · rintro body row (h | h | h)
    · exact Visible.lt_count_of_firstRow? h
    · exact Visible.lt_count_of_lastRow? h
    · exact Visible.lt_count_of_mem_covered h
  · intro body first arm row _ hrow
    have hlt := Visible.lt_count_of_firstRow? hrow
    exact ⟨hlt, fun hfirst => by omega⟩
  · intro n _ m _ row hrow
    exact Visible.lt_count_of_mem_ownRows (List.mem_of_getLast? hrow)

/-! ### Frames -/

section
variable {α : Type} [Add α] [Sub α] [Mul α] [Div α] [NatCast α] [Max α] [Min α] [LT α]
  [DecidableLT α]

/-- Places the frames of an outline behind others: the slot of a frame is the number of those that
were placed before the frames inside it. -/
def insertFrames (c : Config α) (ps : List (PlacedParticipant α)) (w : Visible) (h : Heights α)
    (depth : Nat) (placed : List (Frame α)) : Outline → List (Frame α) × List (Rect α)
  | .empty => (placed, [])
  | .entry _ rest => insertFrames c ps w h depth placed rest
  | .block head body rest =>
    let slot := placed.length
    let (inside, rects) := insertFrames c ps w h (depth + 1) placed body
    match frameOf? c ps w h depth head body rects with
    | some frame =>
      let (all, besides) := insertFrames c ps w h depth (inside.insertIdx slot frame) rest
      (all, frame.rect :: besides)
    | none => insertFrames c ps w h depth inside rest

theorem insertIdx_length_append {β : Type} (front back : List β) (b : β) :
    (front ++ back).insertIdx front.length b = front ++ b :: back := by
  induction front with
  | nil => rfl
  | cons f front ih =>
      rw [List.cons_append, List.length_cons, List.insertIdx_succ_cons, ih, List.cons_append]

/-- Frames that are inserted at their slots stand in the order of the blocks. -/
theorem insertFrames_eq (c : Config α) (ps : List (PlacedParticipant α)) (w : Visible)
    (h : Heights α) (depth : Nat) (placed : List (Frame α)) (o : Outline) :
    insertFrames c ps w h depth placed o =
      (placed ++ (framesOf c ps w h depth o).1, (framesOf c ps w h depth o).2) := by
  induction o generalizing depth placed with
  | empty => simp [insertFrames, framesOf]
  | entry e rest ih => exact ih depth placed
  | block head body rest ihb ih =>
      simp only [insertFrames, framesOf, ihb]
      cases frameOf? c ps w h depth head body (framesOf c ps w h (depth + 1) body).2 with
      | none => simp [ih]
      | some frame => simp [ih, insertIdx_length_append]

/-- Every slot is one of the frames that are placed by then, or the one behind them. -/
def SlotsInRange (c : Config α) (d : Diagram) (w : Visible) (h : Heights α) : Prop :=
  let ps := placedParticipants c d
  (framesOf c ps w h 0 d.outline).1 = (insertFrames c ps w h 0 [] d.outline).1 ∧
    ∀ depth placed o, placed.length ≤ (insertFrames c ps w h depth placed o).1.length

theorem slotsInRange (c : Config α) (d : Diagram) (w : Visible) (h : Heights α) :
    SlotsInRange c d w h := by
  refine ⟨?_, ?_⟩
  · rw [insertFrames_eq]
    rfl
  · intro depth placed o
    rw [insertFrames_eq, List.length_append]
    exact Nat.le_add_right _ _

end

end Layout

variable {α : Type} [Add α] [Sub α] [Mul α] [Div α] [NatCast α] [Max α] [Min α] [LT α]
  [DecidableLT α]

/-- **The layout of a diagram is never cut short.** Behind any operations that leave no error, a
diagram has a drawing under every view and with all measures, also where the view names sections
and notes that do not exist: every participant has a lifeline. And every index that the layout
uses is in range, be it of a participant or a slot, of a width or a gap between headers, of a row,
a step or the gap in front of a row, of a height, or of the slot of a frame. -/
theorem Diagram.layout_total (c : Config α) (v : View) (ops : List Operation)
    (h : (after ops).failure = none) :
    (∃ g, (after ops).layout c v = .ok g) ∧
    (after ops).OrderInRange ∧
    GapsInRange c (after ops) ∧
    RowsInRange (after ops) (.of (after ops) v) ∧
    HeightsInRange (after ops) (.of (after ops) v)
      (heights c (after ops) (.of (after ops) v)) ∧
    SlotsInRange c (after ops) (.of (after ops) v)
      (heights c (after ops) (.of (after ops) v)) := by
  have hsound := sound_after ops
  obtain ⟨ts, g, -, hg, -⟩ := hsound.registered.layout h c v
  exact ⟨⟨g, hg⟩, orderInRange _, gapsInRange c hsound.registered, rowsInRange _ v,
    heightsInRange c _ _, slotsInRange c _ _ _⟩

/-- A participant with a position beyond the last slot; a document with sections, blocks and
notes; and messages by hand behind it. -/
def crowded : List Operation :=
  [.addParticipant ⟨"Z", "Zed", .database, 0, some (-9)⟩,
    .read ("## Team\n  A\n  B\n\nA -> B: ask <- answer\n== Hidden ==\nloop often\n  B -> Z: go\n  note: inside\n" ++
      "== Shown ==\nif so\n  A -> A: think\nelse\n  Z ~> C: tell\nnote left of C: end").toList,
    .addTopMessage ⟨9, "C", "D", "late", some "done", 0, false⟩,
    .addMessage ⟨9, "D", "A", "aside", none, 0, true⟩]

/-- A view that collapses a section, and one that does not exist, and a note that does not. -/
def crowdedView : View := ⟨[0, 9], [7], true⟩

theorem Diagram.layout_total_crowded :
    (after crowded).failure = none ∧
    (∃ g, (after crowded).layout (Config.standard : Config ℚ) crowdedView = .ok g) ∧
    (after crowded).OrderInRange ∧
    RowsInRange (after crowded) (.of (after crowded) crowdedView) ∧
    HeightsInRange (after crowded) (.of (after crowded) crowdedView)
      (heights (Config.standard : Config ℚ) (after crowded) (.of (after crowded) crowdedView)) := by
  have hread : (after crowded).failure = none := by
    unfold crowded
    rw [String.toList_append, String.toList_ofList, String.toList_ofList]
    decide +kernel
  have h := layout_total (Config.standard : Config ℚ) crowdedView crowded hread
  exact ⟨hread, h.1, h.2.1, h.2.2.2.1, h.2.2.2.2.1⟩

end Lifeline
