import Lifeline.Proofs.Diagram.History
import Lifeline.Proofs.Layout.Placement
import Lifeline.Proofs.Reader.Order
import Mathlib.Algebra.Field.Basic
import Mathlib.Algebra.Order.Field.Rat
import Mathlib.Tactic.Ring

/-! # What notes leave alone

Which steps are visible, and with them all heights but those of notes, follows from the sections
that are collapsed (`Visible.of_congr`). A note is placed below its anchor and below the notes on
the same side of the same participant that come before it, so whether a note is collapsed shows in
the notes behind it in its own stack and in no others (`forall₂_placeNotes`).

`Diagram.views_read` compares the drawings of a document under two views that collapse the same
sections. -/

namespace Lifeline.Layout

/-! ### Views that collapse the same sections -/

section
variable {v v' : View}

theorem Visible.isHidden_congr (h : ∀ i, v.hidesSection i = v'.hidesSection i) (d : Diagram)
    (message : Nat) : isHidden d v message = isHidden d v' message := by
  unfold isHidden
  cases d.sectionOf? message with
  | none => rfl
  | some i => exact h i

theorem Visible.of_congr (h : ∀ i, v.hidesSection i = v'.hidesSection i) (d : Diagram) :
    Visible.of d v = Visible.of d v' := by
  have hhidden : isHidden d v = isHidden d v' := funext (isHidden_congr h d)
  rw [of, of, hhidden]

end

/-! ### Stacks of notes -/

section
variable {α : Type}

/-- The two are the same note, with the same edges if it comes before the note `i` or stands in
another stack than that one. -/
def PlacedNote.Keeps (i : Nat) (key : Option (String × Side)) (p p' : PlacedNote α) : Prop :=
  p.index = p'.index ∧ p.participant = p'.participant ∧ p.side = p'.side ∧
    (p.index < i ∨ some (p.participant, p.side) ≠ key →
      p.rect.y = p'.rect.y ∧ p.rect.height = p'.rect.height)

theorem Drawing.Fits.forall₂_notes [Add α] {g g' e e' : Drawing α} {i : Nat}
    {key : Option (String × Side)} (hg : e.Fits g) (hg' : e'.Fits g')
    (h : List.Forall₂ (PlacedNote.Keeps i key) e.notes e'.notes) :
    List.Forall₂ (PlacedNote.Keeps i key) g.notes g'.notes := by
  have hpost : ∀ ns ns' : List (PlacedNote α), List.Forall₂ (PlacedNote.Keeps i key) ns ns' ↔
      List.Forall₂ (fun a b : (Nat × String × Side × Nat × Bool) × α × α =>
        a.1.1 = b.1.1 ∧ a.1.2.1 = b.1.2.1 ∧ a.1.2.2.1 = b.1.2.2.1 ∧
          (a.1.1 < i ∨ some (a.1.2.1, a.1.2.2.1) ≠ key → a.2.1 = b.2.1 ∧ a.2.2 = b.2.2))
        (ns.map PlacedNote.post) (ns'.map PlacedNote.post) := by
    intro ns ns'
    rw [List.forall₂_map_left_iff, List.forall₂_map_right_iff]
    rfl
  rw [hpost] at h ⊢
  rwa [hg.notes, hg'.notes]

theorem Stacks.bottom?_cons (placed : Stacks α) (key key' : String × Side) (bottom : α) :
    bottom? ((key, bottom) :: placed) key' =
      if key = key' then some bottom else bottom? placed key' := by
  unfold bottom?
  by_cases hkey : key = key'
  · rw [List.find?_cons_of_pos (by simpa using hkey), if_pos hkey]
    rfl
  · rw [List.find?_cons_of_neg (by simpa using hkey), if_neg hkey]

variable {placed placed' : Stacks α} {n : Note} {index i : Nat} {key : Option (String × Side)}
  {rest notes : List (Note × Nat)}

/-- Two states of the stacks in front of the same notes. They differ in the stack `key` at most, and
not at all as long as the note `i` is still to come. -/
structure Stacks.Agree (i : Nat) (key : Option (String × Side)) (notes : List (Note × Nat))
    (placed placed' : Stacks α) : Prop where
  others : ∀ k, some k ≠ key → placed.bottom? k = placed'.bottom? k
  before : placed = placed' ∨ ∀ e ∈ notes, i < e.2

theorem Stacks.Agree.tail {e : Note × Nat} (hs : Agree i key (e :: rest) placed placed') :
    Agree i key rest placed placed' :=
  ⟨hs.others, hs.before.imp_right fun h => (List.forall_mem_cons.mp h).2⟩

theorem Stacks.Agree.bottom? (hs : Agree i key ((n, index) :: rest) placed placed')
    (hn : index < i ∨ some (stackOf n) ≠ key) :
    placed.bottom? (stackOf n) = placed'.bottom? (stackOf n) := by
  rcases hn with hlt | hne
  · rcases hs.before with rfl | hall
    · rfl
    · exact absurd (hall _ List.mem_cons_self) hlt.not_gt
  · exact hs.others _ hne

/-- A note goes on both stacks, with the same lower edge if it stays. -/
theorem Stacks.Agree.push {bottom bottom' : α}
    (hs : Agree i key ((n, index) :: rest) placed placed') (hlt : ∀ e ∈ rest, index < e.2)
    (hn : index < i ∨ some (stackOf n) ≠ key → bottom = bottom') :
    Agree i key rest ((stackOf n, bottom) :: placed) ((stackOf n, bottom') :: placed') := by
  refine ⟨?_, ?_⟩
  · intro k hk
    rw [bottom?_cons, bottom?_cons, hs.others k hk]
    by_cases hown : stackOf n = k
    · rw [hn (.inr (hown ▸ hk))]
    · rw [if_neg hown, if_neg hown]
  · rcases Nat.lt_or_ge index i with hbelow | habove
    · rcases hs.before with rfl | hall
      · exact Or.inl (by rw [hn (.inl hbelow)])
      · exact absurd (hall _ List.mem_cons_self) hbelow.not_gt
    · exact Or.inr fun e he => habove.trans_lt (hlt e he)

variable [Add α] [Sub α] [Mul α] [NatCast α] [Max α] {c : Config α} {v v' : View}
  {w : Visible} {h : Heights α} {ps : List (PlacedParticipant α)}

/-- Where only the note `i`, which belongs to the stack `key`, may be collapsed or not, the notes
before it and those in other stacks stay. -/
theorem forall₂_placeNotes (hfolds : ∀ j, j ≠ i → v.foldsNote j = v'.foldsNote j)
    (hkey : ∀ e ∈ notes, e.2 = i → key = some (stackOf e.1))
    (hsorted : notes.Pairwise fun e f => e.2 < f.2) (hs : Stacks.Agree i key notes placed placed') :
    List.Forall₂ (PlacedNote.Keeps i key) (placeNotes c v w h ps placed notes)
      (placeNotes c v' w h ps placed' notes) := by
  induction notes generalizing placed placed' with
  | nil => exact .nil
  | cons e rest ih =>
      obtain ⟨n, index⟩ := e
      obtain ⟨hown, hkeys⟩ := List.forall_mem_cons.mp hkey
      obtain ⟨hlt, hrest⟩ := List.pairwise_cons.mp hsorted
      have hskip := ih hkeys hrest hs.tail
      cases hanchor : anchor? c w h n with
      | none => rwa [placeNotes_cons_none (.inl hanchor), placeNotes_cons_none (.inl hanchor)]
      | some anchor =>
      cases hx : lifeline? ps n.participant with
      | none => rwa [placeNotes_cons_none (.inr hx), placeNotes_cons_none (.inr hx)]
      | some x =>
          obtain ⟨p, hp, -, heq⟩ := placeNotes_cons v placed index rest hanchor hx
          obtain ⟨p', hp', -, heq'⟩ := placeNotes_cons v' placed' index rest hanchor hx
          simp only [PlacedNote.post, Prod.mk.injEq] at hp hp'
          obtain ⟨⟨hindex, hparticipant, hside, -, -⟩, hy, hheight⟩ := hp
          obtain ⟨⟨hindex', hparticipant', hside', -, -⟩, hy', hheight'⟩ := hp'
          have hstays : index < i ∨ some (stackOf n) ≠ key →
              p.rect.y = p'.rect.y ∧ p.rect.height = p'.rect.height := by
            intro hn
            have hne : index ≠ i := by
              rintro rfl
              exact hn.elim (lt_irrefl _) fun hne => hne (hown rfl).symm
            rw [hy, hy', hheight, hheight', hfolds index hne, Stacks.top, Stacks.top, hs.bottom? hn]
            exact ⟨rfl, rfl⟩
          rw [heq, heq']
          refine .cons ⟨hindex.trans hindex'.symm, hparticipant.trans hparticipant'.symm,
            hside.trans hside'.symm, ?_⟩ (ih hkeys hrest (hs.push hlt fun hn => ?_))
          · rw [hindex, hparticipant, hside]
            exact hstays
          · rw [(hstays hn).1, (hstays hn).2]

end

/-! ### The drawings of two views -/

section
variable {α : Type} [Add α] [Sub α] [Mul α] [Div α] [NatCast α] [Max α] [LT α] [DecidableLT α]
  {c : Config α} {d : Diagram} {v v' : View} {ts : List (PlacedStep α)}

theorem stepsOf_congr (h : ∀ i, v.hidesSection i = v'.hidesSection i) :
    stepsOf c d v = stepsOf c d v' := by
  rw [stepsOf, stepsOf, Visible.of_congr h]

variable [Min α]

theorem sketch_congr (h : ∀ i, v.hidesSection i = v'.hidesSection i) :
    sketch c d v ts = sketch c d v' ts := by
  rw [sketch, sketch, Visible.of_congr h]

theorem level_draft (h : ∀ i, v.hidesSection i = v'.hidesSection i) :
    (draft c d v ts).Level (draft c d v' ts) := by
  have hbands : ∀ heights : Heights α,
      (bandsOf d v heights).map Band.y = (bandsOf d v' heights).map Band.y := by
    intro heights
    rw [bandsOf, bandsOf, List.map_map, List.map_map]
    rfl
  refine ((draft_agrees c d v ts).trans ?_).level ?_
  · rw [sketch_congr h]
    exact (draft_agrees c d v' ts).symm
  · simp only [draft, Visible.of_congr h]
    cases d.participants.isEmpty with
    | true => rfl
    | false => exact hbands _

/-- Under two views that show notes and differ in whether one note is collapsed, the notes before it
and those in other stacks stay. -/
theorem forall₂_draft (h : ∀ i, v.hidesSection i = v'.hidesSection i) (hv : v.showNotes = true)
    (hv' : v'.showNotes = true) {i : Nat} (hfolds : ∀ j, j ≠ i → v.foldsNote j = v'.foldsNote j) :
    List.Forall₂ (PlacedNote.Keeps i ((d.outline.notes[i]?).map stackOf)) (draft c d v ts).notes
      (draft c d v' ts).notes := by
  simp only [draft, placedNotes, hv, hv', if_true, Visible.of_congr h]
  refine forall₂_placeNotes hfolds ?_ ?_ ⟨fun _ _ => rfl, Or.inl rfl⟩
  · rintro ⟨n, index⟩ hn rfl
    rw [List.mem_zipIdx_iff_getElem?.mp hn]
    rfl
  · have hindices : (d.outline.notes.zipIdx.map Prod.snd).Pairwise (· < ·) := by
      rw [List.zipIdx_map_snd]
      exact List.pairwise_lt_range'
    exact List.pairwise_map.mp hindices

end

theorem Drawing.agrees_shift_shift {α : Type} [AddCommGroup α] (g : Drawing α) (dx dx' : α) :
    ((g.shift dx).shift (dx' - dx)).Agrees (g.shift dx') := by
  have hsum : ∀ x, x + dx + (dx' - dx) = x + dx' := fun x => by
    rw [add_assoc, add_sub_cancel]
  refine ⟨?_, ?_, ?_, ?_⟩
  all_goals
    simp only [shift, Rect.shift, List.map_map]
    refine List.map_congr_left fun x _ => ?_
    simp only [Function.comp_apply, hsum]

end Lifeline.Layout

namespace Lifeline

open Layout

/-- **Notes move nothing else.** A document that could be read has drawings under any two views that
collapse the same sections. They show the same steps, activations, frames and dividers at the same
heights, and the bands of the sections at the same heights, whatever the numbers are that distances
are computed with. If both views show notes and differ in whether the note `i` is collapsed, and in
no other note, then every note before that one, and every note of another participant or on the
other side, has the same upper edge and the same height. In exact arithmetic the second drawing
shows the participants, steps, activations and frames of the first one, all of them moved by one
distance. -/
theorem Diagram.views_read {text : List Char} {d : Diagram} (h : empty.read text = (none, d))
    {v v' : View} (hsections : ∀ i, v.hidesSection i = v'.hidesSection i) :
    (∀ (α : Type) [Add α] [Sub α] [Mul α] [Div α] [NatCast α] [Max α] [Min α] [LT α]
      [DecidableLT α] (c : Config α), ∃ g g', d.layout c v = .ok g ∧ d.layout c v' = .ok g' ∧
        g.Level g' ∧
        (v.showNotes = true → v'.showNotes = true → ∀ i,
          (∀ j, j ≠ i → v.foldsNote j = v'.foldsNote j) →
            List.Forall₂ (PlacedNote.Keeps i ((d.outline.notes[i]?).map stackOf))
              g.notes g'.notes)) ∧
    ∀ (α : Type) [Field α] [LinearOrder α] (c : Config α), ∃ g g' dx, d.layout c v = .ok g ∧
      d.layout c v' = .ok g' ∧ g'.Agrees (g.shift dx) := by
  obtain ⟨hsound, hread⟩ := sound_of_read h
  have hd := hsound.registered
  refine ⟨?_, ?_⟩
  · intro α _ _ _ _ _ _ _ _ _ c
    obtain ⟨ts, g, hts, hg, hfits⟩ := hd.layout_fits hread c v
    obtain ⟨ts', g', hts', hg', hfits'⟩ := hd.layout_fits hread c v'
    rw [stepsOf_congr hsections, hts'] at hts
    obtain rfl := Except.ok.inj hts
    refine ⟨g, g', hg, hg', hfits.level.trans ((level_draft hsections).trans hfits'.level.symm), ?_⟩
    intro hv hv' i hfolds
    exact hfits.forall₂_notes hfits' (forall₂_draft hsections hv hv' hfolds)
  · intro α _ _ c
    obtain ⟨ts, g, hts, hg, hmoves⟩ := hd.layout hread c v
    obtain ⟨ts', g', hts', hg', hmoves'⟩ := hd.layout hread c v'
    rw [stepsOf_congr hsections, hts'] at hts
    obtain rfl := Except.ok.inj hts
    obtain ⟨dx, hagrees⟩ := hmoves.exists_shift
    obtain ⟨dx', hagrees'⟩ := hmoves'.exists_shift
    rw [← sketch_congr hsections] at hagrees'
    exact ⟨g, g', dx' - dx, hg, hg', (hagrees'.trans ((sketch c d v ts').agrees_shift_shift
      dx dx').symm).trans (hagrees.symm.shift _)⟩

/-- Notes in two stacks of one participant, and one behind a message that is hidden. -/
def annotated : List Char :=
  ("A -> B: ask <- answer\nnote: first\n== Hidden ==\nB -> C: go\nnote right of A: unseen\n" ++
    "== Shown ==\nif so\n  A -> A: think\n  note left of A\n    in three\n    lines\n    of text\n" ++
    "note right of A: aside\nnote left of A: last").toList

/-- The third note is collapsed. -/
def thirdFolded : View := ⟨[0], [2], true⟩

theorem Diagram.views_read_annotated : ∃ d, empty.read annotated = (none, d) ∧
    [⟨[0], [], true⟩, thirdFolded].map (fun v =>
        (d.layout (Config.standard : Config ℚ) v).toOption.map fun g =>
          (g.participants.map PlacedParticipant.x,
            g.notes.map fun n => (n.index, n.rect.y, n.rect.height))) =
      [some ([104, 241, 361], [(0, 90, 32), (2, 294, 64), (3, 294, 32), (4, 366, 32)]),
        some ([76, 213, 333], [(0, 90, 32), (2, 294, 16), (3, 294, 32), (4, 318, 32)])] ∧
    (∀ i, (⟨[0], [], true⟩ : View).hidesSection i = thirdFolded.hidesSection i) ∧
    (∀ j, j ≠ 2 → (⟨[0], [], true⟩ : View).foldsNote j = thirdFolded.foldsNote j) ∧
    (∃ g g', d.layout (Config.standard : Config ℚ) ⟨[0], [], true⟩ = .ok g ∧
      d.layout (Config.standard : Config ℚ) thirdFolded = .ok g' ∧ g.Level g' ∧
      List.Forall₂ (PlacedNote.Keeps 2 ((d.outline.notes[2]?).map stackOf)) g.notes g'.notes) ∧
    ∃ g g' dx, d.layout (Config.standard : Config ℚ) ⟨[0], [], true⟩ = .ok g ∧
      d.layout (Config.standard : Config ℚ) thirdFolded = .ok g' ∧ g'.Agrees (g.shift dx) := by
  have htext : annotated = _ :=
    Text.toList_append_eq (Text.toList_append_eq String.toList_ofList String.toList_ofList)
      String.toList_ofList
  have h := read_of_fst empty annotated (by rw [htext]; decide +kernel)
  have hsections : ∀ i, (⟨[0], [], true⟩ : View).hidesSection i = thirdFolded.hidesSection i :=
    fun _ => rfl
  have hfolds : ∀ j, j ≠ 2 → (⟨[0], [], true⟩ : View).foldsNote j = thirdFolded.foldsNote j := by
    intro j hj
    simp [View.foldsNote, thirdFolded, hj]
  have hviews := views_read h hsections
  obtain ⟨g, g', hg, hg', hlevel, hnotes⟩ := hviews.1 ℚ .standard
  exact ⟨_, h, by rw [htext]; decide +kernel, hsections, hfolds,
    ⟨g, g', hg, hg', hlevel, hnotes rfl rfl 2 hfolds⟩, hviews.2 ℚ .standard⟩

end Lifeline
