import Lifeline.Proofs.Layout.Assembly
import Lifeline.Proofs.Layout.Descent
import Lifeline.Proofs.Layout.Shown
import Lifeline.Proofs.Layout.Views

/-! # Notes stand in stacks

A note goes below its anchor and below the bottom of its stack (`Stacks.le_top`). A stack only grows
downwards, so a note is clear of all the notes that have come before it in the stack, though the
anchors of a stack may come in any order (`gap_le_of_bottom?`, `pairwise_placeNotes`). Its box
stands at a fixed distance from its lifeline, and the two are moved together
(`PlacedNote.Beside.shift`).

`Diagram.notes_read` says so of every document. -/

namespace Lifeline.Layout

/-! ### Own rows -/

namespace Visible

variable {d : Diagram} {v : View} {w : Visible} {m place row : Nat}

theorem sorted_ownRows (w : Visible) (m : Nat) : (w.ownRows m).Pairwise (· < ·) := by
  have hrows : (w.rows.zipIdx.map Prod.snd).Pairwise (· < ·) := by
    rw [List.zipIdx_map_snd]
    exact List.pairwise_lt_range'
  refine List.Pairwise.filterMap _ ?_ (List.pairwise_map.mp hrows)
  intro e e' hlt row hrow row' hrow'
  dsimp only at hrow hrow'
  split at hrow
  · split at hrow'
    · rwa [← Option.some.inj hrow, ← Option.some.inj hrow']
    · cases hrow'
  · cases hrow

theorem getLast?_ownRows (h : (w.ownRows m).getLast? = some row) :
    row ∈ w.ownRows m ∧ ∀ r ∈ w.ownRows m, r ≤ row := by
  refine ⟨List.mem_of_getLast? h, fun r hr => ?_⟩
  obtain ⟨front, hfront⟩ := List.getLast?_eq_some_iff.mp h
  have hsorted := w.sorted_ownRows m
  rw [hfront, List.pairwise_append] at hsorted
  rw [hfront] at hr
  rcases List.mem_append.mp hr with hr | hr
  · exact (hsorted.2.2 r hr row (List.mem_singleton_self row)).le
  · exact (List.mem_singleton.mp hr).le

/-- What comes before the call of a message comes before the first step that is one. -/
theorem lt_callPlace?_iff : (∀ next ∈ (of d v).callPlace? m, place < next) ↔
    ∀ next s, (Timeline.steps d.messages)[next]? = some s → s.isCall = true → s.message = m →
      place < next := by
  constructor
  · intro h next s hs hcall hm
    cases hfirst : (of d v).callPlace? m with
    | none =>
        have hnone := List.findIdx?_eq_none_iff.mp hfirst s (List.mem_of_getElem? hs)
        simp [hcall, hm] at hnone
    | some first =>
        have hplace := h first hfirst
        obtain ⟨hlt, -, hearlier⟩ := List.findIdx?_eq_some_iff_getElem.mp hfirst
        by_contra hge
        have hno := hearlier next (by omega)
        have hget : (of d v).steps[next]? = some s := hs
        rw [(List.getElem?_eq_some_iff.mp hget).2] at hno
        simp [hcall, hm] at hno
  · intro h next hnext
    obtain ⟨s, hs, hcall, hm⟩ := callPlace?_spec hnext
    exact h next s hs hcall hm

end Visible

/-! ### Stacks -/

/-- The note stands beside a lifeline, with the margin of notes between the two. -/
def PlacedNote.Beside {α : Type} [Add α] [Sub α] (p : PlacedNote α) (c : Config α) (x : α) : Prop :=
  match p.side with
  | .right => p.rect.x = x + c.noteMargin
  | .left => p.rect.right = x - c.noteMargin

/-- The note in its box, below an anchor and beside a lifeline. -/
structure PlacedNote.Hangs {α : Type} [Add α] [Sub α] [LE α] (p : PlacedNote α) (c : Config α)
    (n : Note) (anchor x : α) : Prop where
  participant : p.participant = n.participant
  side : p.side = n.side
  below : anchor + c.noteOffset ≤ p.rect.y
  beside : p.Beside c x

/-- The note in its box, clear of the notes that its stack holds so far. -/
structure PlacedNote.Lands {α : Type} [Add α] [Sub α] [Mul α] [NatCast α] [Max α] [LE α]
    (p : PlacedNote α) (c : Config α) (placed : Stacks α) (n : Note) (anchor x : α) : Prop where
  hangs : p.Hangs c n anchor x
  gap : ∀ bottom ∈ placed.bottom? (stackOf n), bottom + c.noteGap ≤ p.rect.y
  height : ∃ isCollapsed, p.rect.height = noteHeight c isCollapsed n

/-- Where the two notes stand in one stack, the second one is clear of the first one. -/
def PlacedNote.Clears {α : Type} [Add α] [LE α] (c : Config α) (p q : PlacedNote α) : Prop :=
  p.participant = q.participant → p.side = q.side → p.rect.bottom + c.noteGap ≤ q.rect.y

section
variable {α : Type} [Field α] {c : Config α} {v : View} {w : Visible} {h : Heights α}
  {ps : List (PlacedParticipant α)} {placed : Stacks α} {notes : List (Note × Nat)}
  {p : PlacedNote α} {n : Note} {anchor x : α}

theorem PlacedNote.beside_of_rect
    (hrect : p.rect = noteRect c p.side x p.rect.y (p.rect.width, p.rect.height)) :
    p.Beside c x := by
  unfold Beside
  cases hside : p.side with
  | right =>
      rw [hrect, hside]
      rfl
  | left =>
      rw [hrect, hside]
      simp only [noteRect, Rect.right]
      ring

theorem PlacedNote.Beside.shift (hp : p.Beside c x) (dx : α) (fold : Option (Rect α)) :
    PlacedNote.Beside { p with rect := p.rect.shift dx, fold := fold } c (x + dx) := by
  unfold Beside at hp ⊢
  cases hside : p.side with
  | right =>
      rw [hside] at hp
      simp only [Rect.shift, hp]
      ring
  | left =>
      simp only [hside, Rect.right, Rect.shift] at hp ⊢
      linear_combination hp

variable [LinearOrder α]

theorem PlacedNote.Hangs.stackOf_eq (hp : p.Hangs c n anchor x) :
    stackOf n = (p.participant, p.side) :=
  congrArg₂ Prod.mk hp.participant.symm hp.side.symm

theorem Stacks.le_top (placed : Stacks α) (key : String × Side) (anchor : α) :
    anchor + c.noteOffset ≤ placed.top c key anchor ∧
      ∀ bottom ∈ placed.bottom? key, bottom + c.noteGap ≤ placed.top c key anchor := by
  unfold Stacks.top
  cases placed.bottom? key with
  | none => exact ⟨le_rfl, fun bottom hbottom => by cases hbottom⟩
  | some bottom =>
      refine ⟨le_max_left _ _, fun b hb => ?_⟩
      obtain rfl := Option.some.inj hb
      exact le_max_right _ _

/-- What becomes of a note: it is left out, or it lands on its stack. -/
theorem placeNotes_cases (c : Config α) (v : View) (w : Visible) (h : Heights α)
    (ps : List (PlacedParticipant α)) (placed : Stacks α) (n : Note) (index : Nat)
    (rest : List (Note × Nat)) :
    placeNotes c v w h ps placed ((n, index) :: rest) = placeNotes c v w h ps placed rest ∨
      ∃ p anchor x, anchor? c w h n = some anchor ∧ lifeline? ps n.participant = some x ∧
        p.index = index ∧ p.Lands c placed n anchor x ∧
        placeNotes c v w h ps placed ((n, index) :: rest) =
          p :: placeNotes c v w h ps ((stackOf n, p.rect.bottom) :: placed) rest := by
  cases hanchor : anchor? c w h n with
  | none => exact .inl (placeNotes_cons_none (.inl hanchor))
  | some anchor =>
  cases hx : lifeline? ps n.participant with
  | none => exact .inl (placeNotes_cons_none (.inr hx))
  | some x =>
      obtain ⟨p, hp, hrect, heq⟩ := placeNotes_cons v placed index rest hanchor hx
      simp only [PlacedNote.post, Prod.mk.injEq] at hp
      obtain ⟨⟨hindex, hparticipant, hside, -, -⟩, hy, hheight⟩ := hp
      have htop := Stacks.le_top (c := c) placed (stackOf n) anchor
      rw [← hy] at htop
      rw [← hside] at hrect
      exact .inr ⟨p, anchor, x, rfl, rfl, hindex, ⟨⟨hparticipant, hside, htop.1,
        PlacedNote.beside_of_rect hrect⟩, htop.2, _, hheight⟩, heq⟩

theorem exists_hangs (hp : p ∈ placeNotes c v w h ps placed notes) :
    ∃ n anchor x, (n, p.index) ∈ notes ∧ anchor? c w h n = some anchor ∧
      lifeline? ps n.participant = some x ∧ p.Hangs c n anchor x := by
  induction notes generalizing placed with
  | nil => cases hp
  | cons e rest ih =>
      obtain ⟨n, index⟩ := e
      have hrest : ∀ placed : Stacks α, p ∈ placeNotes c v w h ps placed rest →
          ∃ n' anchor x, (n', p.index) ∈ (n, index) :: rest ∧ anchor? c w h n' = some anchor ∧
            lifeline? ps n'.participant = some x ∧ p.Hangs c n' anchor x := by
        intro placed hp
        obtain ⟨n', anchor, x, hn, hp⟩ := ih hp
        exact ⟨n', anchor, x, List.mem_cons_of_mem _ hn, hp⟩
      rcases placeNotes_cases c v w h ps placed n index rest with
        heq | ⟨q, anchor, x, hanchor, hx, rfl, hq, heq⟩
      · rw [heq] at hp
        exact hrest _ hp
      · rw [heq] at hp
        rcases List.mem_cons.mp hp with rfl | hp
        · exact ⟨n, anchor, x, List.mem_cons_self, hanchor, hx, hq.hangs⟩
        · exact hrest _ hp

variable [IsStrictOrderedRing α]

theorem Config.Nonneg.noteHeight (hc : c.Nonneg) (isCollapsed : Bool) (n : Note) :
    0 ≤ noteHeight c isCollapsed n := by
  have hsize : 0 ≤ c.collapsedNoteSize := hc _ (by simp [measures])
  have hline : 0 ≤ c.noteLineHeight := hc _ (by simp [measures])
  have hpadding : 0 ≤ c.notePadding := hc _ (by simp [measures])
  cases isCollapsed with
  | true => exact hsize
  | false =>
      simp only [Layout.noteHeight, noteSize, twice, Bool.false_eq_true, if_false]
      positivity

/-- Below the bottom of a stack there is the gap of notes in front of all its further notes. The
stack may meanwhile have grown, but only downwards. -/
theorem gap_le_of_bottom? (hc : c.Nonneg) {key : String × Side} {bottom : α}
    (hbottom : placed.bottom? key = some bottom) (hp : p ∈ placeNotes c v w h ps placed notes)
    (hkey : (p.participant, p.side) = key) : bottom + c.noteGap ≤ p.rect.y := by
  have hgap : 0 ≤ c.noteGap := hc _ (by simp [Config.measures])
  induction notes generalizing placed bottom with
  | nil => cases hp
  | cons e rest ih =>
      obtain ⟨n, index⟩ := e
      rcases placeNotes_cases c v w h ps placed n index rest with
        heq | ⟨q, anchor, x, -, -, -, hq, heq⟩
      · rw [heq] at hp
        exact ih hbottom hp
      · have hown : stackOf n = key → bottom + c.noteGap ≤ q.rect.y := by
          rintro rfl
          exact hq.gap bottom hbottom
        rw [heq] at hp
        rcases List.mem_cons.mp hp with rfl | hp
        · exact hown (hq.hangs.stackOf_eq.trans hkey)
        · by_cases hsame : stackOf n = key
          · have hpushed := ih (by rw [Stacks.bottom?_cons, if_pos hsame]) hp
            obtain ⟨isCollapsed, hheight⟩ := hq.height
            have hnonneg := hc.noteHeight isCollapsed n
            have hbelow := hown hsame
            rw [Rect.bottom, hheight] at hpushed
            linarith
          · exact ih (by rw [Stacks.bottom?_cons, if_neg hsame, hbottom]) hp

/-- Every note is clear of the notes that have come before it in its stack. -/
theorem pairwise_placeNotes (hc : c.Nonneg) :
    (placeNotes c v w h ps placed notes).Pairwise (PlacedNote.Clears c) := by
  induction notes generalizing placed with
  | nil => exact .nil
  | cons e rest ih =>
      obtain ⟨n, index⟩ := e
      rcases placeNotes_cases c v w h ps placed n index rest with
        heq | ⟨q, anchor, x, -, -, -, hq, heq⟩
      · rw [heq]
        exact ih
      · rw [heq]
        refine List.pairwise_cons.mpr ⟨fun p hp hid hsides => ?_, ih⟩
        have hkey : stackOf n = (p.participant, p.side) :=
          hq.hangs.stackOf_eq.trans (congrArg₂ Prod.mk hid hsides)
        have hbottom : Stacks.bottom? ((stackOf n, q.rect.bottom) :: placed)
            (p.participant, p.side) = some q.rect.bottom := by
          rw [Stacks.bottom?_cons, if_pos hkey]
        exact gap_le_of_bottom? hc hbottom hp rfl

end

/-! ### The notes of a drawing -/

/-- The step is one of the message, and it comes before the next message is called. -/
def PlacedStep.Owned {α : Type} (t : PlacedStep α) (ms : List Message) (m : Nat) : Prop :=
  t.step.message = m ∧ ∀ next s, (Timeline.steps ms)[next]? = some s → s.isCall = true →
    s.message = m + 1 → t.place < next

/-- The step is the last one that the drawing shows of a message before the next message is
called. -/
structure Drawing.LastOwned {α : Type} (g : Drawing α) (ms : List Message) (m : Nat)
    (t : PlacedStep α) : Prop where
  mem : t ∈ g.steps
  owned : t.Owned ms m
  last : ∀ s ∈ g.steps, s.Owned ms m → s.place ≤ t.place

/-- The notes come in the order of their indices, each clear of those before it in its stack. Every
note is below the last step that its message owns, or below the head of the drawing where it is
behind no message; and every note is beside the lifeline of its participant. -/
structure Drawing.Noted {α : Type} [Add α] [Sub α] [LE α] (g : Drawing α) (c : Config α)
    (d : Diagram) : Prop where
  stacked : g.notes.Pairwise fun p q => p.index < q.index ∧ p.Clears c q
  anchored : ∀ p ∈ g.notes, ∃ n, d.outline.notes[p.index]? = some n ∧
    p.participant = n.participant ∧ p.side = n.side ∧
    match n.afterMessage with
    | none => c.headerHeight + c.noteOffset ≤ p.rect.y
    | some m => ∃ t, g.LastOwned d.messages m t ∧ t.y + c.noteOffset ≤ p.rect.y
  beside : ∀ p ∈ g.notes, (∃ q ∈ g.participants, q.id = p.participant) ∧
    ∀ q ∈ g.participants, q.id = p.participant → p.Beside c q.x

section
variable {α : Type} [Field α] [LinearOrder α] {c : Config α} {d : Diagram} {v : View}
  {ts : List (PlacedStep α)} {g : Drawing α} {dx : α}

theorem Drawing.Fits.owned_iff (hts : stepsOf c d v = .ok ts) (h : (draft c d v ts).Fits g)
    {m row : Nat} {t : PlacedStep α} (ht : g.steps[row]? = some t) :
    t.Owned d.messages m ↔ row ∈ (Visible.of d v).ownRows m := by
  have hat := (h.row_of_step hts ht).1
  rw [Visible.mem_ownRows, PlacedStep.Owned, ← Visible.lt_callPlace?_iff (v := v)]
  constructor
  · rintro ⟨hmessage, hnext⟩
    exact ⟨t.place, t.step, hat, hmessage, hnext⟩
  · rintro ⟨place, s, hat', hmessage, hnext⟩
    obtain ⟨rfl, rfl⟩ := Prod.mk.inj (Option.some.inj (hat'.symm.trans hat))
    exact ⟨hmessage, hnext⟩

/-- A note behind a message is attached to the last step that the message owns. -/
theorem Drawing.Fits.lastOwned (hts : stepsOf c d v = .ok ts) (h : (draft c d v ts).Fits g)
    {m row : Nat} (hrow : ((Visible.of d v).ownRows m).getLast? = some row) :
    ∃ t, g.LastOwned d.messages m t ∧ t.y = (heights c d (.of d v)).row row := by
  obtain ⟨hmem, hlast⟩ := Visible.getLast?_ownRows hrow
  have hcount : row < g.steps.length := by
    rw [h.length_steps hts]
    exact Visible.lt_count_of_mem_ownRows hmem
  have ht := List.getElem?_eq_getElem hcount
  refine ⟨_, ⟨List.getElem_mem hcount, (h.owned_iff hts ht).mpr hmem, ?_⟩, (h.row_of_step hts ht).2⟩
  intro s hs howned
  obtain ⟨r, hr⟩ := List.mem_iff_getElem?.mp hs
  exact h.place_le hts hr ht (hlast r ((h.owned_iff hts hr).mp howned))

omit [Field α] [LinearOrder α] in
theorem Drawing.Shows.sorted_notes (h : g.Shows d v) :
    g.notes.Pairwise fun p q => p.index < q.index := by
  have hindices : g.notes.map PlacedNote.index = (visibleNotes d v).map Prod.snd := by
    have hnotes := congrArg (List.map Prod.fst) h.notes
    rw [List.map_map, List.map_map] at hnotes
    exact hnotes
  have hsub : ((visibleNotes d v).map Prod.snd).Sublist (d.outline.notes.zipIdx.map Prod.snd) := by
    unfold visibleNotes
    split
    · exact List.filter_sublist.map _
    · exact List.nil_sublist _
  rw [List.zipIdx_map_snd, ← hindices] at hsub
  exact List.pairwise_map.mp (List.Pairwise.sublist hsub List.pairwise_lt_range')

omit [Field α] [LinearOrder α] in
theorem lifeline?_of_mem {ps : List (PlacedParticipant α)} {q : PlacedParticipant α}
    (hids : (ps.map PlacedParticipant.id).Nodup) (hq : q ∈ ps) : lifeline? ps q.id = some q.x := by
  obtain ⟨q', hq', hid, hx⟩ := exists_lifeline? (List.mem_map_of_mem hq)
  rwa [List.inj_on_of_nodup_map hids hq' hq hid] at hx

omit [Field α] [LinearOrder α] in
theorem exists_of_lifeline? {ps : List (PlacedParticipant α)} {id : String} {x : α}
    (hx : lifeline? ps id = some x) : ∃ q ∈ ps, q.id = id := by
  obtain ⟨q, hq, -⟩ := Option.map_eq_some_iff.mp hx
  exact ⟨q, List.mem_of_find?_eq_some hq, by simpa using List.find?_some hq⟩

theorem exists_hangs_placedNotes {p : PlacedNote α} {w : Visible} {h : Heights α}
    {ps : List (PlacedParticipant α)} (hp : p ∈ placedNotes c d v w h ps) :
    ∃ n anchor x, d.outline.notes[p.index]? = some n ∧ anchor? c w h n = some anchor ∧
      lifeline? ps n.participant = some x ∧ p.Hangs c n anchor x := by
  unfold placedNotes at hp
  split at hp
  · obtain ⟨n, anchor, x, hn, hangs⟩ := exists_hangs hp
    exact ⟨n, anchor, x, List.mem_zipIdx_iff_getElem?.mp hn, hangs⟩
  · cases hp

variable [IsStrictOrderedRing α]

theorem pairwise_placedNotes (hc : c.Nonneg) (w : Visible) (h : Heights α)
    (ps : List (PlacedParticipant α)) :
    (placedNotes c d v w h ps).Pairwise (PlacedNote.Clears c) := by
  unfold placedNotes
  split
  · exact pairwise_placeNotes hc
  · exact .nil

theorem Drawing.Settles.noted (hd : d.Sound) (hc : c.Nonneg) (hts : stepsOf c d v = .ok ts)
    (hfits : (draft c d v ts).Fits g) (h : (whole c d v ts).Settles dx g) : g.Noted c d := by
  have hnotes : g.notes = (placedNotes c d v (.of d v) (heights c d (.of d v))
      (placedParticipants c d)).map fun p =>
        { p with rect := p.rect.shift dx, fold := p.fold.map fun r => r.shift dx } := h.notes
  have hparticipants : g.participants = (placedParticipants c d).map fun q =>
      { q with x := q.x + dx, rect := q.rect.shift dx } := h.agrees.participants
  refine ⟨(hfits.shows (shows_draft hd hts)).sorted_notes.and ?_, ?_, ?_⟩
  · rw [hnotes]
    exact List.pairwise_map.mpr (pairwise_placedNotes hc _ _ _)
  · intro p hp
    rw [hnotes] at hp
    obtain ⟨p₀, hp₀, rfl⟩ := List.mem_map.mp hp
    obtain ⟨n, anchor, x, hn, hanchor, -, hangs⟩ := exists_hangs_placedNotes hp₀
    refine ⟨n, hn, hangs.participant, hangs.side, ?_⟩
    unfold anchor? at hanchor
    cases hafter : n.afterMessage with
    | none =>
        rw [hafter] at hanchor
        obtain rfl := Option.some.inj hanchor
        exact hangs.below
    | some m =>
        rw [hafter] at hanchor
        obtain ⟨row, hrow, rfl⟩ := Option.map_eq_some_iff.mp hanchor
        obtain ⟨t, ht, hy⟩ := hfits.lastOwned hts hrow
        exact ⟨t, ht, hy ▸ hangs.below⟩
  · intro p hp
    rw [hnotes] at hp
    obtain ⟨p₀, hp₀, rfl⟩ := List.mem_map.mp hp
    obtain ⟨n, anchor, x, -, -, hx, hangs⟩ := exists_hangs_placedNotes hp₀
    have hids : ((placedParticipants c d).map PlacedParticipant.id).Nodup :=
      (ids_placedParticipants_perm c d).nodup_iff.mpr hd.registered.ids
    rw [hparticipants]
    refine ⟨?_, ?_⟩
    · obtain ⟨q, hq, hid⟩ := exists_of_lifeline? hx
      exact ⟨_, List.mem_map_of_mem hq, hid.trans hangs.participant.symm⟩
    · intro q hq hid
      obtain ⟨q₀, hq₀, rfl⟩ := List.mem_map.mp hq
      have hlifeline := lifeline?_of_mem hids hq₀
      have hsame : q₀.id = n.participant := hid.trans hangs.participant
      rw [hsame, hx] at hlifeline
      obtain rfl := Option.some.inj hlifeline
      exact hangs.beside.shift dx _

end

end Lifeline.Layout

namespace Lifeline

open Layout

/-- **Notes stand in stacks.** A document that could be read has a drawing under every view, which
shows the notes that are not behind a hidden message. Where no measure is negative, and in exact
arithmetic, a note begins below every earlier note on the same side of the same participant, by the
gap of notes at least; it begins below the last step that is drawn of its message before the next
message is called, or below the head of the drawing if it comes before all messages, by the offset
of notes at least; and in the drawing as it is moved to its place, its box is beside the lifeline of
its participant, with exactly the margin of notes between the two. -/
theorem Diagram.notes_read {α : Type} [Field α] [LinearOrder α] [IsStrictOrderedRing α]
    {text : List Char} {d : Diagram} (h : empty.read text = (none, d)) (v : View) (c : Config α)
    (hc : c.Nonneg) : ∃ g, d.layout c v = .ok g ∧ g.Shows d v ∧ g.Noted c d := by
  obtain ⟨hsound, hread⟩ := sound_of_read h
  by_cases hps : d.participants = []
  · obtain ⟨ts, g, hts, hg, hfits⟩ := hsound.registered.layout_fits hread c v
    refine ⟨g, hg, hfits.shows (shows_draft hsound hts), ?_⟩
    simp only [Diagram.layout, hread, hps, List.isEmpty_nil, if_true, Except.ok.injEq] at hg
    subst hg
    exact ⟨.nil, fun p hp => (List.not_mem_nil hp).elim, fun p hp => (List.not_mem_nil hp).elim⟩
  · obtain ⟨ts, g, dx, hts, hg, hfits, hsettles⟩ := hsound.registered.layout_settles hread hps c v
    exact ⟨g, hg, hfits.shows (shows_draft hsound hts), hsettles.noted hsound hc hts hfits⟩

/-- A note in front of all messages, notes on both sides of a participant, of which one is pushed
down by those above it, and a note behind a message whose return comes after a hidden call. -/
def flanked : List Char :=
  ("## Team\n  A\n\nnote left of A: head\nA -> B: ask <- answer\nnote right of A: asked\n" ++
    "B -> C: go\nnote right of A: between\nnote left of A\n  two\n  lines\n" ++
    "note left of A: pushed\n== Hidden ==\nC -> B: back\nnote: unseen\n" ++
    "== Shown ==\nB -> A: end\nnote left of A: last").toList

theorem Diagram.notes_read_flanked : ∃ d, empty.read flanked = (none, d) ∧
    (Config.standard : Config ℚ).Nonneg ∧
    (d.layout (Config.standard : Config ℚ) ⟨[0], [4], true⟩).toOption.map (fun g =>
        (g.participants.map PlacedParticipant.x, g.steps.map fun t => (t.step.message, t.y),
          g.notes.map fun n => (n.index, [n.rect.x, n.rect.right, n.rect.y, n.rect.bottom]))) =
      some ([83, 203, 323], [(0, 80), (1, 120), (3, 256), (0, 296)],
        [(0, [27, 71, 90, 122]), (1, [95, 146, 90, 122]), (2, [95, 160, 130, 162]),
          (3, [20, 71, 130, 178]), (4, [55, 71, 186, 202]), (6, [27, 71, 266, 298])]) ∧
    ∃ g, d.layout (Config.standard : Config ℚ) ⟨[0], [4], true⟩ = .ok g ∧
      g.Shows d ⟨[0], [4], true⟩ ∧ g.Noted .standard d := by
  have htext : flanked = _ :=
    Text.toList_append_eq (Text.toList_append_eq (Text.toList_append_eq String.toList_ofList
      String.toList_ofList) String.toList_ofList) String.toList_ofList
  have h := read_of_fst empty flanked (by rw [htext]; decide +kernel)
  have hc : (Config.standard : Config ℚ).Nonneg := by decide +kernel
  exact ⟨_, h, hc, by rw [htext]; decide +kernel, notes_read h ⟨[0], [4], true⟩ .standard hc⟩

end Lifeline
