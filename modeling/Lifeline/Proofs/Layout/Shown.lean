import Lifeline.Proofs.Layout.Ends
import Lifeline.Proofs.Layout.Nesting

/-! # A drawing shows what its view leaves visible

What a view leaves visible can be said without rows, heights or lifelines: steps whose message is
not hidden, blocks with such a message, activations with such a step, and notes behind such a
message. The layout decides this once, for the steps, and everything else follows from the rows of
the visible steps. `Diagram.shown_read` says that nothing is lost and nothing is added on the way.
-/

namespace Lifeline.Layout

open Visible (isHidden isSilent)

/-! ### What is visible -/

section
variable (d : Diagram) (v : View)

/-- The steps that are neither hidden nor silent, with their places. -/
def visibleSteps : List (Nat × Step) :=
  ((Timeline.steps d.messages).zipIdx.filter fun e =>
    !isHidden d v e.1.message && !isSilent e.1).map Prod.swap

/-- The activations around a visible step. -/
def visibleActivations : List Activation :=
  (Timeline.activations (Timeline.steps d.messages)).filter fun a =>
    (visibleSteps d v).any fun e => a.covers e.1

/-- The blocks that have a message that is not hidden, at any depth. -/
def visibleBlocks : List NestedBlock :=
  (d.outline.allBlocks 0).filter fun b => b.body.messages.any fun m => !isHidden d v m.index

/-- The notes that are not behind a hidden message, with their indices. -/
def visibleNotes : List (Note × Nat) :=
  if v.showNotes then
    d.outline.notes.zipIdx.filter fun e => e.1.afterMessage.all fun m => !isHidden d v m
  else []

end

/-- The drawing shows the visible steps, activations and notes, all of them in their order. -/
structure Drawing.Shows {α : Type} (g : Drawing α) (d : Diagram) (v : View) : Prop where
  steps : g.steps.map (fun s => (s.place, s.step)) = visibleSteps d v
  activations : g.activations.map PlacedActivation.activation = visibleActivations d v
  notes : g.notes.map (fun n => (n.index, n.participant, n.side, n.line, n.isCollapsed)) =
    (visibleNotes d v).map fun e =>
      (e.2, e.1.participant, e.1.side, e.1.line, v.foldsNote e.2)

/-- The drawing has one frame for each visible block, in the order of the blocks. -/
def Drawing.Frames {α : Type} (g : Drawing α) (d : Diagram) (v : View) : Prop :=
  g.frames.map (fun f => (f.kind, f.label, f.line, f.depth)) =
    (visibleBlocks d v).map fun b => (b.head.kind, b.head.label, b.head.line, b.depth)

/-! ### Steps and activations -/

section
variable {d : Diagram} {v : View}

theorem rows_eq_visibleSteps (hd : d.Registered) : (Visible.of d v).rows = visibleSteps d v := by
  rw [Visible.rows_of, visibleSteps]
  refine congrArg (List.map Prod.swap) (List.filter_congr fun e he => ?_)
  exact Visible.shows_eq hd (List.mem_of_getElem? (List.mem_zipIdx_iff_getElem?.mp he))

variable {α : Type} [Add α] [Sub α] [Mul α] [Div α] [NatCast α] {c : Config α} {h : Heights α}
  {ps : List (PlacedParticipant α)} {a : Activation}

/-- An activation has a rectangle if a visible step is inside it. -/
theorem isSome_placeActivation? (hd : d.Registered) {x : α}
    (hx : lifeline? ps a.participant = some x) :
    (placeActivation? c (.of d v) h ps a).isSome =
      (visibleSteps d v).any fun e => a.covers e.1 := by
  rw [Bool.eq_iff_iff, List.any_eq_true, ← rows_eq_visibleSteps hd]
  constructor
  · intro hsome
    obtain ⟨b, hb⟩ := Option.isSome_iff_exists.mp hsome
    simp only [placeActivation?, Option.bind_eq_bind, Option.bind_eq_some_iff,
      Option.filter_eq_some_iff] at hb
    obtain ⟨row, ⟨hfirst, hlast⟩, -⟩ := hb
    obtain ⟨hlt, hle, -⟩ := List.findIdx?_eq_some_iff_getElem.mp hfirst
    rw [List.getElem?_eq_getElem hlt, Option.any_some] at hlast
    obtain ⟨e, he, heq⟩ := List.mem_map.mp (List.getElem_mem hlt)
    refine ⟨e, he, Timeline.covers_iff.mpr ?_⟩
    rw [heq]
    exact ⟨by simpa using hle, by simpa using hlast⟩
  · rintro ⟨e, he, hcovers⟩
    obtain ⟨row, hrow⟩ := List.getElem?_of_mem he
    have hplace : (Visible.of d v).places[row]? = some e.1 := by
      rw [Visible.getElem?_places, hrow]
      rfl
    obtain ⟨b, hb⟩ := exists_placeActivation? (c := c) (h := h) (Visible.sorted_places d v) hplace
      hcovers hx
    rw [hb]
    rfl

end

/-! ### Notes -/

section
variable {α : Type} {c : Config α} {d : Diagram} {v : View} {h : Heights α}

theorem isSome_anchor? (hd : d.Registered) {n : Note}
    (hn : ∀ m ∈ n.afterMessage, m < d.messages.length) :
    (anchor? c (.of d v) h n).isSome = n.afterMessage.all fun m => !isHidden d v m := by
  unfold anchor?
  cases hafter : n.afterMessage with
  | none => rfl
  | some m =>
      have hrows := Visible.exists_mem_ownRows (v := v) hd (hn m hafter)
      rw [Option.isSome_map, Option.all_some, Bool.eq_iff_iff, List.getLast?_isSome,
        Bool.not_eq_true', ← hrows]
      refine ⟨List.exists_mem_of_ne_nil _, ?_⟩
      rintro ⟨_, hrow⟩
      exact List.ne_nil_of_mem hrow

variable [Add α] [Sub α] [Mul α] [NatCast α] [Max α]

/-- The notes that are placed are those that have an anchor and a lifeline. -/
theorem map_placeNotes (w : Visible) (ps : List (PlacedParticipant α)) (placed : Stacks α)
    (notes : List (Note × Nat)) :
    (placeNotes c v w h ps placed notes).map (fun p => p.post.1) =
      (notes.filter fun e =>
        (anchor? c w h e.1).isSome && (lifeline? ps e.1.participant).isSome).map fun e =>
          (e.2, e.1.participant, e.1.side, e.1.line, v.foldsNote e.2) := by
  induction notes generalizing placed with
  | nil => rfl
  | cons e rest ih =>
      obtain ⟨n, index⟩ := e
      cases hanchor : anchor? c w h n with
      | none =>
          rw [placeNotes_cons_none (.inl hanchor), List.filter_cons_of_neg (by simp [hanchor])]
          exact ih placed
      | some anchor =>
      cases hx : lifeline? ps n.participant with
      | none =>
          rw [placeNotes_cons_none (.inr hx), List.filter_cons_of_neg (by simp [hx])]
          exact ih placed
      | some x =>
          obtain ⟨p, hp, -, heq⟩ := placeNotes_cons v placed index rest hanchor hx
          rw [heq, List.filter_cons_of_pos (by simp [hanchor, hx]), List.map_cons, List.map_cons,
            ih, hp]

end

/-! ### The draft of a drawing -/

section
variable {α : Type} [Add α] [Sub α] [Mul α] [Div α] [NatCast α] [Max α] [Min α] [LT α]
  [DecidableLT α] {c : Config α} {d : Diagram} {v : View} {ts : List (PlacedStep α)}

theorem map_notes_draft (hd : d.Sound) :
    (draft c d v ts).notes.map (fun p => p.post.1) = (visibleNotes d v).map fun e =>
      (e.2, e.1.participant, e.1.side, e.1.line, v.foldsNote e.2) := by
  simp only [draft, placedNotes, visibleNotes]
  cases v.showNotes with
  | false => rfl
  | true =>
      rw [if_pos rfl, if_pos rfl, map_placeNotes]
      refine congrArg (List.map _) (List.filter_congr fun e he => ?_)
      have hget := List.mem_zipIdx_iff_getElem?.mp he
      obtain ⟨hid, hafter⟩ := hd.refers_note (List.mem_of_getElem? hget)
      obtain ⟨p, -, -, hx⟩ := exists_lifeline? ((mem_ids_placedParticipants c).mpr hid)
      rw [isSome_anchor? hd.registered hafter, hx, Option.isSome_some, Bool.and_true]

theorem map_activations_draft (hd : d.Registered) :
    (draft c d v ts).activations.map PlacedActivation.activation = visibleActivations d v := by
  have hsome : ∀ a ∈ Timeline.activations (Timeline.steps d.messages),
      (placeActivation? c (.of d v) (heights c d (.of d v)) (placedParticipants c d) a).isSome =
        (visibleSteps d v).any fun e => a.covers e.1 := by
    intro a ha
    obtain ⟨m, hm, -, hparticipant, -⟩ := Timeline.exists_message_of_activation ha
    obtain ⟨p, -, -, hx⟩ := exists_lifeline? ((mem_ids_placedParticipants c).mpr
      (hparticipant ▸ (hd.ends m hm).2))
    exact isSome_placeActivation? hd hx
  refine (map_eq_of_forall₂ (forall₂_filterMap hsome) fun a b hb => ?_).symm.trans (List.map_id _)
  exact (activation_placeActivation? hb.2).symm

theorem map_steps_draft (hd : d.Registered) (hts : stepsOf c d v = .ok ts) :
    (draft c d v ts).steps.map (fun s => (s.place, s.step)) = visibleSteps d v := by
  have hsteps := congrArg (List.map fun e => (e.1, e.2.1)) (map_placedSteps hts)
  rw [List.map_map, List.map_map, rows_eq_visibleSteps hd] at hsteps
  exact hsteps.trans (List.zipIdx_map_fst ..)

theorem shows_draft (hd : d.Sound) (hts : stepsOf c d v = .ok ts) :
    (draft c d v ts).Shows d v :=
  ⟨map_steps_draft hd.registered hts, map_activations_draft hd.registered, map_notes_draft hd⟩

end

section
variable {α : Type} [Add α] {g e : Drawing α} {d : Diagram} {v : View}

theorem Drawing.Fits.shows (h : e.Fits g) (he : e.Shows d v) : g.Shows d v := by
  have hlevel := h.level
  refine ⟨?_, ?_, ?_⟩
  · have hsteps := congrArg (List.map fun s => (s.1, s.2.1)) hlevel.steps
    rw [List.map_map, List.map_map] at hsteps
    exact hsteps.trans he.steps
  · have hactivations := congrArg (List.map Prod.fst) hlevel.activations
    rw [List.map_map, List.map_map] at hactivations
    exact hactivations.trans he.activations
  · have hnotes := congrArg (List.map Prod.fst) h.notes
    rw [List.map_map, List.map_map] at hnotes
    exact hnotes.trans he.notes

theorem Drawing.Fits.frames (h : e.Fits g) (he : e.Frames d v) : g.Frames d v := by
  have hframes := congrArg (List.map fun f => (f.1, f.2.1, f.2.2.1, f.2.2.2.1)) h.level.frames
  rw [List.map_map, List.map_map] at hframes
  exact hframes.trans he

end

section
variable {α : Type} [Add α] [Sub α] [Mul α] [Div α] [NatCast α] [LinearOrder α] {c : Config α}
  {d : Diagram} {v : View} {ts : List (PlacedStep α)}

/-- The blocks with a frame are those that are visible. -/
theorem isSome_blockFrame?_iff (hd : d.Sound) (hc : c.Roomy) {b : NestedBlock}
    (hb : b ∈ d.outline.allBlocks 0) :
    (blockFrame? c d v b).isSome = b.body.messages.any fun m => !isHidden d v m.index := by
  have hmessages : ∀ m ∈ b.body.messages, m.index < d.messages.length := fun m hm =>
    (List.getElem?_eq_some_iff.mp (hd.getElem?_message (Outline.messages_subset hb hm))).1
  rw [isSome_blockFrame? hd.registered hc, Bool.eq_iff_iff,
    Visible.isSome_firstRow?_iff hd.registered hmessages]
  simp

theorem frames_draft (hd : d.Sound) (hc : c.Roomy) : (draft c d v ts).Frames d v := by
  have hframes : (draft c d v ts).frames =
      (d.outline.allBlocks 0).filterMap (blockFrame? c d v) := by
    simp only [draft, sketch, framesOf_eq]
  rw [Drawing.Frames, hframes]
  exact (map_eq_of_forall₂ (forall₂_filterMap fun b hb => isSome_blockFrame?_iff hd hc hb)
    fun b f hf => (tag_of_blockFrame? hf.2).symm).symm

end

end Lifeline.Layout

namespace Lifeline

open Layout

/-- **A drawing shows what its view leaves visible.** A document that could be read has a drawing
under every view and with all measures. It shows the steps of the timeline in their order, but for
those of messages in collapsed sections and for returns without a label; the activations around
such a step; and, if the view shows notes, the notes in their order and under their indices, but
for those behind a message in a collapsed section. It has one frame for each block that holds a
message of no collapsed section, in the order of the document and with the number of blocks around
it, whenever the numbers that distances are computed with are in linear order and there is room, or
none, beside a lifeline. -/
theorem Diagram.shown_read {text : List Char} {d : Diagram} (h : empty.read text = (none, d))
    (v : View) :
    (∀ (α : Type) [Add α] [Sub α] [Mul α] [Div α] [NatCast α] [Max α] [Min α] [LT α]
      [DecidableLT α] (c : Config α), ∃ g, d.layout c v = .ok g ∧ g.Shows d v) ∧
    ∀ (α : Type) [Add α] [Sub α] [Mul α] [Div α] [NatCast α] [LinearOrder α] (c : Config α),
      c.Roomy → ∃ g, d.layout c v = .ok g ∧ g.Frames d v := by
  obtain ⟨hsound, hread⟩ := sound_of_read h
  refine ⟨?_, ?_⟩
  · intro α _ _ _ _ _ _ _ _ _ c
    obtain ⟨ts, g, hts, hg, hfits⟩ := hsound.registered.layout_fits hread c v
    exact ⟨g, hg, hfits.shows (shows_draft hsound hts)⟩
  · intro α _ _ _ _ _ _ c hc
    obtain ⟨ts, g, hts, hg, hfits⟩ := hsound.registered.layout_fits hread c v
    exact ⟨g, hg, hfits.frames (frames_draft hsound hc)⟩

/-- A section that starts inside a block and hides the rest of it: an inner block with a call to
oneself, a note, and the call of an activation that goes on behind the section. -/
def partlyHidden : List Char :=
  ("A -> B: ask\nloop outer\n  B -> C: go <- gone\n  == Hidden ==\n  if inner\n    C -> C: look\n" ++
    "  note left of A: unseen\nparallel none\n  C -> A: back\n== Shown ==\nif last\n  A ~> C: end\n" ++
    "  note: seen").toList

theorem Diagram.shown_read_partlyHidden : ∃ d, empty.read partlyHidden = (none, d) ∧
    ((visibleSteps d ⟨[0], [1], true⟩).map Prod.fst,
      (visibleActivations d ⟨[0], [1], true⟩).map (fun a => (a.first, a.last)),
      (visibleBlocks d ⟨[0], [1], true⟩).map (fun b => (b.head.line, b.depth)),
      (visibleNotes d ⟨[0], [1], true⟩).map Prod.snd) =
      ([0, 1, 5, 7], [(4, 6), (1, 7), (0, 8)], [(2, 0), (11, 0)], [1]) ∧
    (Config.standard : Config ℚ).Roomy ∧
    (∃ g, d.layout (Config.standard : Config ℚ) ⟨[0], [1], true⟩ = .ok g ∧
      g.Shows d ⟨[0], [1], true⟩) ∧
    ∃ g, d.layout (Config.standard : Config ℚ) ⟨[0], [1], true⟩ = .ok g ∧
      g.Frames d ⟨[0], [1], true⟩ := by
  have htext : partlyHidden = _ :=
    Text.toList_append_eq (Text.toList_append_eq String.toList_ofList String.toList_ofList)
      String.toList_ofList
  have h := read_of_fst empty partlyHidden (by rw [htext]; decide +kernel)
  have hroomy : (Config.standard : Config ℚ).Roomy :=
    Config.Nonneg.roomy (by decide +kernel)
  have hshown := shown_read h ⟨[0], [1], true⟩
  exact ⟨_, h, by rw [htext]; decide +kernel, hroomy, hshown.1 ℚ .standard,
    hshown.2 ℚ .standard hroomy⟩

end Lifeline
