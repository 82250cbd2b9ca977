import Lifeline.Proofs.Diagram.History
import Lifeline.Proofs.Layout.Heights
import Lifeline.Proofs.Layout.Placement
import Lifeline.Proofs.Reader.Order
import Mathlib.Algebra.Order.Field.Rat

/-! # Where arrows end

An activation keeps its rectangle as long as one of its steps is visible
(`exists_placeActivation?`), and an arrow ends at the side of the innermost rectangle around its
step (`arrowEnd_innermost`). On the timeline the call and the return of a message have the same
activations around them, so the two arrows of a message mirror each other; and the innermost
activation at the source of a call is that of the innermost pending call to its sender.

`Diagram.ends_read` says so of every document, in a form that does not mention how an end is
found. -/

namespace Lifeline.Layout

/-- The distance is that of the left or of the right side. -/
def Rect.HasSide {α : Type} [Add α] (r : Rect α) (x : α) : Prop := x = r.x ∨ x = r.right

/-! ### The innermost rectangle -/

section
variable {α : Type} {as : List (PlacedActivation α)} {a : PlacedActivation α}

theorem deepest?_concat (as : List (PlacedActivation α)) (a : PlacedActivation α) :
    deepest? (as ++ [a]) = match deepest? as with
      | none => some a
      | some b => if a.activation.depth < b.activation.depth then some b else some a :=
  List.foldl_concat ..

theorem deepest?_spec (as : List (PlacedActivation α)) :
    (deepest? as = none → as = []) ∧ ∀ a, deepest? as = some a →
      a ∈ as ∧ ∀ b ∈ as, b.activation.depth ≤ a.activation.depth := by
  induction as using List.reverseRecOn with
  | nil => simp [deepest?]
  | append_singleton as x ih =>
      rw [deepest?_concat]
      cases hd : deepest? as with
      | none =>
          obtain rfl := ih.1 hd
          simp
      | some b =>
          obtain ⟨hb, hmax⟩ := ih.2 b hd
          dsimp only
          split
          · next hlt =>
              refine ⟨by simp, ?_⟩
              rintro _ ⟨rfl⟩
              refine ⟨List.mem_append_left _ hb, ?_⟩
              intro y hy
              rcases List.mem_append.mp hy with hy | hy
              · exact hmax y hy
              · exact List.mem_singleton.mp hy ▸ hlt.le
          · next hge =>
              refine ⟨by simp, ?_⟩
              rintro _ ⟨rfl⟩
              refine ⟨List.mem_append_right _ (List.mem_singleton_self _), ?_⟩
              intro y hy
              rcases List.mem_append.mp hy with hy | hy
              · exact (hmax y hy).trans (Nat.not_lt.mp hge)
              · exact List.mem_singleton.mp hy ▸ le_rfl

theorem deepest?_eq_some (ha : a ∈ as)
    (h : ∀ b ∈ as, b = a ∨ b.activation.depth < a.activation.depth) : deepest? as = some a := by
  obtain ⟨hnone, hsome⟩ := deepest?_spec as
  cases hd : deepest? as with
  | none =>
      rw [hnone hd] at ha
      exact absurd ha List.not_mem_nil
  | some b =>
      obtain ⟨hb, hmax⟩ := hsome b hd
      rcases h b hb with rfl | hlt
      · rfl
      · exact absurd (hmax a ha) (Nat.not_le.mpr hlt)

section
variable [Add α] [LT α] [DecidableLT α] {id : String} {place place' : Nat}
  {ignores ignores' : Activation → Bool} {here there : α} {isSelfCall : Bool}

/-- An end depends on the activations around it, and on nothing else. -/
theorem arrowEnd_congr (h : ∀ a ∈ as, a.activation.participant = id →
    (a.activation.covers place && !ignores a.activation) =
      (a.activation.covers place' && !ignores' a.activation)) :
    arrowEnd as id place ignores here there isSelfCall =
      arrowEnd as id place' ignores' here there isSelfCall := by
  have haround : (as.filter fun a => a.activation.participant == id &&
      a.activation.covers place && !ignores a.activation) =
      as.filter fun a => a.activation.participant == id &&
        a.activation.covers place' && !ignores' a.activation := by
    refine List.filter_congr fun a ha => ?_
    rw [Bool.and_assoc, Bool.and_assoc]
    by_cases hid : a.activation.participant = id
    · rw [h a ha hid]
    · rw [beq_false_of_ne hid, Bool.false_and, Bool.false_and]
  rw [arrowEnd, arrowEnd, haround]

theorem arrowEnd_eq_here (h : ∀ a ∈ as, a.activation.participant = id →
    a.activation.covers place = true → ignores a.activation = true) :
    arrowEnd as id place ignores here there isSelfCall = here := by
  have haround : (as.filter fun a => a.activation.participant == id &&
      a.activation.covers place && !ignores a.activation) = [] := by
    refine List.filter_eq_nil_iff.mpr fun a ha => ?_
    simp only [Bool.and_eq_true, beq_iff_eq, Bool.not_eq_true', not_and, Bool.not_eq_false]
    rintro ⟨hid, hcovers⟩
    exact h a ha hid hcovers
  rw [arrowEnd, haround]
  rfl

/-- An end is at a side of the deepest activation around it. -/
theorem hasSide_arrowEnd (ha : a ∈ as) (hid : a.activation.participant = id)
    (hcovers : a.activation.covers place = true) (hignores : ignores a.activation = false)
    (h : ∀ b ∈ as, b.activation.participant = id → b.activation.covers place = true →
      ignores b.activation = false → b = a ∨ b.activation.depth < a.activation.depth) :
    a.rect.HasSide (arrowEnd as id place ignores here there isSelfCall) := by
  have hdeepest : deepest? (as.filter fun a => a.activation.participant == id &&
      a.activation.covers place && !ignores a.activation) = some a := by
    refine deepest?_eq_some (List.mem_filter.mpr ⟨ha, by simp [hid, hcovers, hignores]⟩) ?_
    intro b hb
    obtain ⟨hb, hcond⟩ := List.mem_filter.mp hb
    simp only [Bool.and_eq_true, beq_iff_eq, Bool.not_eq_true'] at hcond
    exact h b hb hcond.1.1 hcond.1.2 hcond.2
  rw [arrowEnd]
  simp only [hdeepest]
  split
  · exact Or.inl rfl
  · exact Or.inr rfl

end

end

/-! ### The rectangles of activations -/

section
variable {α : Type} [Add α] [Sub α] [Mul α] [Div α] [NatCast α] {c : Config α} {w : Visible}
  {h : Heights α} {ps : List (PlacedParticipant α)} {a : Activation} {b b' : PlacedActivation α}

theorem activation_placeActivation? (hb : placeActivation? c w h ps a = some b) :
    b.activation = a := by
  unfold placeActivation? at hb
  simp only [Option.bind_eq_bind, Option.bind_eq_some_iff, Option.pure_def, Option.some.injEq] at hb
  obtain ⟨row, -, bottom, -, x, -, rfl⟩ := hb
  rfl

theorem mem_placedActivations : b ∈ placedActivations c w h ps ↔
    b.activation ∈ Timeline.activations w.steps ∧
      placeActivation? c w h ps b.activation = some b := by
  rw [placedActivations, List.mem_filterMap]
  constructor
  · rintro ⟨a, ha, hb⟩
    obtain rfl := activation_placeActivation? hb
    exact ⟨ha, hb⟩
  · rintro ⟨hmem, hb⟩
    exact ⟨_, hmem, hb⟩

theorem eq_of_activation_eq (hb : b ∈ placedActivations c w h ps)
    (hb' : b' ∈ placedActivations c w h ps) (heq : b.activation = b'.activation) : b = b' := by
  have h1 := (mem_placedActivations.mp hb).2
  have h2 := (mem_placedActivations.mp hb').2
  rw [heq] at h1
  exact Option.some.inj (h1.symm.trans h2)

theorem exists_placeActivation? (hw : w.places.Pairwise (· < ·)) {row place : Nat} {x : α}
    (hrow : w.places[row]? = some place) (hcovers : a.covers place = true)
    (hx : lifeline? ps a.participant = some x) : ∃ b, placeActivation? c w h ps a = some b := by
  obtain ⟨hfirst, hlast⟩ := Timeline.covers_iff.mp hcovers
  obtain ⟨first, p, hfrom, hp, hle⟩ := Visible.firstFrom?_of_le hw hrow hfirst
  have htop : (w.firstFrom? a.first).filter (fun row => (w.places[row]?).any (· ≤ a.last)) =
      some first := by
    rw [hfrom, Option.filter_some_pos]
    simpa [hp] using hle.trans hlast
  obtain ⟨bottom, hbottom⟩ : ∃ bottom, activationBottom? c w h a = some bottom := by
    unfold activationBottom?
    cases hlastRow : w.row? a.last with
    | some row => exact ⟨_, rfl⟩
    | none =>
        have hlt : place < a.last := by
          refine lt_of_le_of_ne hlast ?_
          rintro rfl
          rw [Visible.row?_of_places hw hrow] at hlastRow
          simp at hlastRow
        obtain ⟨last, hlast⟩ := Visible.lastBefore?_isSome (List.mem_of_getElem? hrow) hlt
        rw [hlast]
        exact ⟨_, rfl⟩
  simp only [placeActivation?, htop, hbottom, hx, Option.bind_eq_bind, Option.bind_some]
  exact ⟨_, rfl⟩

end

/-! ### The ends of the arrows of a timeline -/

section
variable {α : Type} [Add α] [Sub α] [Mul α] [Div α] [NatCast α] [LT α] [DecidableLT α]
  {c : Config α} {d : Diagram} {v : View} {h : Heights α} {ps : List (PlacedParticipant α)}
  {a : Activation} {row place : Nat} {x here there : α} {isSelfCall : Bool}

/-- Where one activation around a visible step lies inside all others of its participant, the
arrow ends at its side. -/
theorem arrowEnd_innermost (ignores : Activation → Bool)
    (ha : a ∈ Timeline.activations (Timeline.steps d.messages))
    (hrow : (Visible.of d v).places[row]? = some place) (hx : lifeline? ps a.participant = some x)
    (hcovers : a.covers place = true) (hignores : ignores a = false)
    (hinner : ∀ b ∈ Timeline.activations (Timeline.steps d.messages),
      b.participant = a.participant → b.covers place = true → ignores b = false →
        b = a ∨ a.Inside b) :
    ∃ box ∈ placedActivations c (.of d v) h ps, box.activation = a ∧
      box.rect.HasSide (arrowEnd (placedActivations c (.of d v) h ps) a.participant place ignores
        here there isSelfCall) := by
  obtain ⟨box, hbox⟩ := exists_placeActivation? (c := c) (h := h) (Visible.sorted_places d v) hrow
    hcovers hx
  have hact := activation_placeActivation? hbox
  have hmem : box ∈ placedActivations c (.of d v) h ps := List.mem_filterMap.mpr ⟨a, ha, hbox⟩
  subst hact
  refine ⟨box, hmem, rfl, hasSide_arrowEnd hmem rfl hcovers hignores ?_⟩
  intro b hb hid hbcovers hbignores
  have hb' := (mem_placedActivations.mp hb).1
  rcases hinner _ hb' hid hbcovers hbignores with heq | hinside
  · exact Or.inl (eq_of_activation_eq hb hmem heq)
  · exact Or.inr (Timeline.depth_lt_of_inside ha hb' hid.symm hinside)

end

/-! ### What a drawing shows of calls -/

section
variable {α : Type} [Add α]

/-- The two arrows of every synchronous message have their ends at the same places. -/
def Drawing.Mirrored (g : Drawing α) (ms : List Message) : Prop :=
  ∀ m ∈ ms, m.isAsync = false → ∀ call ∈ g.steps, ∀ ret ∈ g.steps,
    call.step = m.call → ret.step = m.return →
      ret.sourceX = call.targetX ∧ ret.targetX = call.sourceX

/-- The target of every synchronous call is a side of the activation that it opens. The source of
every call is a side of the activation that the innermost pending call to its sender has opened,
and the lifeline of the sender where no call to it is pending. -/
def Drawing.Attached (g : Drawing α) (ms : List Message) : Prop :=
  ∀ call ∈ g.steps, call.step.isCall = true →
    (call.step.isAsync = false → ∃ a ∈ g.activations, a.activation.first = call.place ∧
      a.activation.participant = call.step.target ∧ a.rect.HasSide call.targetX) ∧
    ∃ p, Timeline.Progress.readAll? ⟨[], ms⟩ ((Timeline.steps ms).take call.place) = some p ∧
      match p.pending.find? fun m => m.receiver = call.step.source with
      | some m => ∃ a ∈ g.activations, (Timeline.steps ms)[a.activation.first]? = some m.call ∧
          a.activation.participant = call.step.source ∧ a.rect.HasSide call.sourceX
      | none => ∃ q ∈ g.participants, q.id = call.step.source ∧ call.sourceX = q.x

end

section
variable {α : Type} [Add α] [Sub α] [Mul α] [Div α] [NatCast α] [Max α] [LT α] [DecidableLT α]
  {c : Config α} {d : Diagram} {v : View} {ts : List (PlacedStep α)}

theorem mem_stepsOf (hts : stepsOf c d v = .ok ts) {t : PlacedStep α} (ht : t ∈ ts) :
    ∃ row, (Visible.of d v).places[row]? = some t.place ∧
      (Timeline.steps d.messages)[t.place]? = some t.step ∧
      placeStep (heights c d (.of d v)) (placedParticipants c d)
        (placedActivations c (.of d v) (heights c d (.of d v)) (placedParticipants c d))
        row t.place t.step = .ok t := by
  obtain ⟨row, hrow⟩ := List.getElem?_of_mem ht
  obtain ⟨place, s, hplace, hstep⟩ := getElem?_placedSteps hts hrow
  obtain ⟨_, _, -, -, rfl⟩ := placeStep_eq_ok.mp hstep
  refine ⟨row, ?_, Visible.step_of_row hplace, hstep⟩
  rw [Visible.getElem?_places, hplace]
  rfl

theorem hasSide_targetX (h : d.Registered) (hts : stepsOf c d v = .ok ts) {call : PlacedStep α}
    (hcall : call ∈ ts) (hisCall : call.step.isCall = true) (hsync : call.step.isAsync = false) :
    ∃ a ∈ placedActivations c (.of d v) (heights c d (.of d v)) (placedParticipants c d),
      a.activation.first = call.place ∧ a.activation.participant = call.step.target ∧
        a.rect.HasSide call.targetX := by
  obtain ⟨row, hrow, hplace, hends⟩ := mem_stepsOf hts hcall
  obtain ⟨x, y, -, hy, heq⟩ := placeStep_eq_ok.mp hends
  have htargetX := congrArg PlacedStep.targetX heq
  dsimp only at htargetX
  rcases Timeline.exists_message_of_mem_steps (List.mem_of_getElem? hplace) with
    ⟨m, hm, hstep | ⟨-, hstep⟩⟩
  · rw [hstep] at hplace hsync
    obtain ⟨own, hown, hreceiver, hfirst, -⟩ := Timeline.exists_activation hm hsync
    have hindex : (d.messages.map Message.index).Nodup := h.index ▸ List.nodup_range
    have hopens : own.first = call.place := Timeline.place_unique hindex hfirst hplace rfl rfl
    have htarget : own.participant = call.step.target := by
      rw [hreceiver, hstep]
      rfl
    have hcovers : own.covers call.place = true :=
      Timeline.covers_iff.mpr ⟨hopens.le, hopens ▸ (Timeline.first_lt_last hown).le⟩
    rw [← htarget] at htargetX hy
    rw [htargetX]
    have hseen : (!call.step.isCall && own.last == call.place) = false := by simp [hisCall]
    obtain ⟨box, hbox, rfl, hside⟩ := arrowEnd_innermost
      (fun a => !call.step.isCall && a.last == call.place) hown hrow hy hcovers hseen
      fun b hb _ hbcovers _ => Timeline.inside_of_covers_first hown hb (hopens ▸ hbcovers)
    exact ⟨box, hbox, hopens, htarget, hside⟩
  · rw [hstep] at hisCall
    simp [Step.isCall, Message.return] at hisCall

/-- A call begins at the activation of the innermost pending call to its sender. -/
theorem hasSide_sourceX (h : d.Registered) (hts : stepsOf c d v = .ok ts) {call : PlacedStep α}
    (hcall : call ∈ ts) (hisCall : call.step.isCall = true) :
    ∃ p, Timeline.Progress.readAll? ⟨[], d.messages⟩
        ((Timeline.steps d.messages).take call.place) = some p ∧
      (∀ m, p.pending.find? (fun m => m.receiver = call.step.source) = some m →
        ∃ a ∈ placedActivations c (.of d v) (heights c d (.of d v)) (placedParticipants c d),
          (Timeline.steps d.messages)[a.activation.first]? = some m.call ∧
            a.activation.participant = call.step.source ∧ a.rect.HasSide call.sourceX) ∧
      (p.pending.find? (fun m => m.receiver = call.step.source) = none →
        ∃ q ∈ placedParticipants c d, q.id = call.step.source ∧ call.sourceX = q.x) := by
  obtain ⟨row, hrow, hplace, hends⟩ := mem_stepsOf hts hcall
  obtain ⟨x, y, hx, -, heq⟩ := placeStep_eq_ok.mp hends
  have hsourceX := congrArg PlacedStep.sourceX heq
  dsimp only at hsourceX
  obtain ⟨p, hp, hsome, hnone⟩ := Timeline.innermost_covering
    (List.getElem?_eq_some_iff.mp hplace).1 call.step.source
  refine ⟨p, hp, ?_, ?_⟩
  · intro m hm
    obtain ⟨a, ha, hid, hopened, hfirst, hlast, hinner⟩ := hsome m hm
    rw [← hid] at hsourceX hx
    rw [hsourceX]
    have hinnermost : ∀ b ∈ Timeline.activations (Timeline.steps d.messages),
        b.participant = a.participant → b.covers call.place = true →
          (call.step.isCall && b.first == call.place) = false → b = a ∨ a.Inside b := by
      intro b hb hbid hcovers hseen
      have hne : b.first ≠ call.place := by simpa [hisCall] using hseen
      have hcovers := Timeline.covers_iff.mp hcovers
      exact hinner b hb (hbid.trans hid) (lt_of_le_of_ne hcovers.1 hne) hcovers.2
    have hseen : (call.step.isCall && a.first == call.place) = false := by
      simp [hisCall, hfirst.ne]
    obtain ⟨box, hbox, rfl, hside⟩ := arrowEnd_innermost
      (fun a => call.step.isCall && a.first == call.place) ha hrow hx
      (Timeline.covers_iff.mpr ⟨hfirst.le, hlast⟩) hseen hinnermost
    exact ⟨box, hbox, hopened, hid, hside⟩
  · intro hfind
    obtain ⟨q, hq, hid, hqx⟩ := exists_lifeline? ((mem_ids_placedParticipants c).mpr
      (h.ends_of_mem_steps (List.mem_of_getElem? hplace)).1)
    refine ⟨q, hq, hid, ?_⟩
    rw [hsourceX, arrowEnd_eq_here]
    · exact Option.some.inj (hx.symm.trans hqx)
    · intro b hb hbid hcovers
      obtain ⟨hfirst, hlast⟩ := Timeline.covers_iff.mp hcovers
      have hbefore := hnone hfind _ (mem_placedActivations.mp hb).1 hbid
      simp only [hisCall, Bool.true_and, beq_iff_eq]
      omega

variable [Min α]

/-- At the return of a message the activations around its ends are those at its call. -/
theorem mirrored_sketch (h : d.Registered) (hts : stepsOf c d v = .ok ts) :
    (sketch c d v ts).Mirrored d.messages := by
  intro m hm hsync call hcall ret hret hcallStep hretStep
  obtain ⟨row, -, hcallPlace, hcallEnds⟩ := mem_stepsOf hts hcall
  obtain ⟨row', -, hretPlace, hretEnds⟩ := mem_stepsOf hts hret
  rw [hcallStep] at hcallPlace hcallEnds
  rw [hretStep] at hretPlace hretEnds
  have hindex : (d.messages.map Message.index).Nodup := h.index ▸ List.nodup_range
  obtain ⟨own, hown, -, hfirst, hlast⟩ := Timeline.exists_activation hm hsync
  have hcallFirst : call.place = own.first :=
    Timeline.place_unique hindex hcallPlace hfirst rfl rfl
  have hretLast : ret.place = own.last := Timeline.place_unique hindex hretPlace hlast rfl rfl
  have hself : m.return.isSelfCall = m.call.isSelfCall := by
    simp [Step.isSelfCall, Message.call, Message.return, Bool.beq_comm]
  obtain ⟨x, y, hx, hy, hcallEq⟩ := placeStep_eq_ok.mp hcallEnds
  obtain ⟨y', x', hy', hx', hretEq⟩ := placeStep_eq_ok.mp hretEnds
  obtain rfl : y = y' := Option.some.inj (hy.symm.trans hy')
  obtain rfl : x = x' := Option.some.inj (hx.symm.trans hx')
  have hcovers := fun b hb => Timeline.covers_first_iff_last (b := b) hown hb
  rw [hcallEq, hretEq, hself, hcallFirst, hretLast]
  dsimp only [Message.call, Message.return]
  refine ⟨arrowEnd_congr ?_, arrowEnd_congr ?_⟩
  · intro b hb _
    obtain ⟨hcov, -⟩ := hcovers _ (mem_placedActivations.mp hb).1
    simp [Step.isCall, hcov]
  · intro b hb _
    obtain ⟨hcov, hends⟩ := hcovers _ (mem_placedActivations.mp hb).1
    rw [Bool.eq_iff_iff]
    simp [Step.isCall, hcov, hends]

theorem attached_sketch (h : d.Registered) (hts : stepsOf c d v = .ok ts) :
    (sketch c d v ts).Attached d.messages := by
  intro call hcall hisCall
  refine ⟨hasSide_targetX h hts hcall hisCall, ?_⟩
  obtain ⟨p, hp, hsome, hnone⟩ := hasSide_sourceX h hts hcall hisCall
  refine ⟨p, hp, ?_⟩
  split
  · next m hm => exact hsome m hm
  · next hfind => exact hnone hfind

end

/-! ### Drawings that are moved -/

theorem Drawing.Mirrored.moves {α : Type} [Add α] {g g' : Drawing α} {ms : List Message}
    (h : g.Mirrored ms) (hmoves : g.Moves g') : g'.Mirrored ms := by
  rcases hmoves with hagrees | ⟨dx, hagrees⟩
  · unfold Mirrored
    rw [hagrees.steps]
    exact h
  · intro m hm hsync call hcall ret hret hcallStep hretStep
    rw [hagrees.steps] at hcall hret
    obtain ⟨call, hcall', rfl⟩ := List.mem_map.mp hcall
    obtain ⟨ret, hret', rfl⟩ := List.mem_map.mp hret
    obtain ⟨h1, h2⟩ := h m hm hsync call hcall' ret hret' hcallStep hretStep
    exact ⟨congrArg (· + dx) h1, congrArg (· + dx) h2⟩

section
variable {α : Type} [Field α]

theorem Rect.HasSide.shift {r : Rect α} {x : α} (h : r.HasSide x) (dx : α) :
    (r.shift dx).HasSide (x + dx) := by
  rcases h with rfl | rfl
  · exact Or.inl rfl
  · refine Or.inr ?_
    simp only [right, Rect.shift]
    ring

theorem Drawing.Attached.moves {g g' : Drawing α} {ms : List Message} (h : g.Attached ms)
    (hmoves : g.Moves g') : g'.Attached ms := by
  obtain ⟨dx, hagrees⟩ := hmoves.exists_shift
  have hactivation : ∀ a ∈ g.activations, { a with rect := a.rect.shift dx } ∈ g'.activations :=
    fun a ha => hagrees.activations ▸ List.mem_map_of_mem ha
  have hparticipant : ∀ q ∈ g.participants,
      { q with x := q.x + dx, rect := q.rect.shift dx } ∈ g'.participants :=
    fun q hq => hagrees.participants ▸ List.mem_map_of_mem hq
  intro call hcall hisCall
  rw [hagrees.steps] at hcall
  obtain ⟨call, hcall', rfl⟩ := List.mem_map.mp hcall
  obtain ⟨htarget, p, hp, hsource⟩ := h call hcall' hisCall
  refine ⟨fun hsync => ?_, p, hp, ?_⟩
  · obtain ⟨a, ha, hfirst, hid, hside⟩ := htarget hsync
    exact ⟨_, hactivation a ha, hfirst, hid, hside.shift dx⟩
  · cases hfind : p.pending.find? fun m => m.receiver = call.step.source with
    | some m =>
        rw [hfind] at hsource
        obtain ⟨a, ha, hfirst, hid, hside⟩ := hsource
        exact ⟨_, hactivation a ha, hfirst, hid, hside.shift dx⟩
    | none =>
        rw [hfind] at hsource
        obtain ⟨q, hq, hid, hx⟩ := hsource
        exact ⟨_, hparticipant q hq, hid, congrArg (· + dx) hx⟩

end

end Lifeline.Layout

namespace Lifeline

open Layout

/-- **Arrows meet their activations.** A document that could be read has a drawing under every view
and with all measures, in which the two arrows of every synchronous message have the same two ends,
for calls to oneself as for any others, whatever the numbers are that distances are computed with.
In exact arithmetic every synchronous call ends at a side of the activation that it opens; and every
call begins at a side of the activation opened by the innermost pending call to its sender, or at
the lifeline of the sender where no call to it is pending. -/
theorem Diagram.ends_read {text : List Char} {d : Diagram} (h : empty.read text = (none, d))
    (v : View) :
    (∀ (α : Type) [Add α] [Sub α] [Mul α] [Div α] [NatCast α] [Max α] [Min α] [LT α]
      [DecidableLT α] (c : Config α), ∃ g, d.layout c v = .ok g ∧ g.Mirrored d.messages) ∧
    ∀ (α : Type) [Field α] [LinearOrder α] [IsStrictOrderedRing α] (c : Config α),
      ∃ g, d.layout c v = .ok g ∧ g.Attached d.messages := by
  obtain ⟨hsound, hread⟩ := sound_of_read h
  refine ⟨?_, ?_⟩
  · intro α _ _ _ _ _ _ _ _ _ c
    obtain ⟨ts, g, hts, hg, hmoves⟩ := hsound.registered.layout hread c v
    exact ⟨g, hg, (mirrored_sketch hsound.registered hts).moves hmoves⟩
  · intro α _ _ _ c
    obtain ⟨ts, g, hts, hg, hmoves⟩ := hsound.registered.layout hread c v
    exact ⟨g, hg, (attached_sketch hsound.registered hts).moves hmoves⟩

/-- Calls back to someone who is pending, and calls to oneself; a section hides one of them. -/
def nestedCalls : List Char :=
  ("A -> B: ask <- answer\n== Hidden ==\nB -> B: think\n== Shown ==\nB ~> C: tell\n" ++
    "B -> A: ask back <- there\nA -> B: insist <- fine\nB -> B: again").toList

theorem Diagram.ends_read_nestedCalls : ∃ d, empty.read nestedCalls = (none, d) ∧
    (d.layout (Config.standard : Config ℚ) ⟨[0], [], true⟩).toOption.map (fun g =>
        g.steps.map fun s => (s.place, s.sourceX, s.targetX)) =
      some [(0, 60, 175), (3, 185, 317), (4, 175, 65), (5, 65, 180), (6, 190, 195), (8, 180, 65),
        (9, 65, 175), (10, 175, 60)] ∧
    (∃ g, d.layout (Config.standard : Config ℚ) ⟨[0], [], true⟩ = .ok g ∧ g.Mirrored d.messages) ∧
    ∃ g, d.layout (Config.standard : Config ℚ) ⟨[0], [], true⟩ = .ok g ∧ g.Attached d.messages := by
  have htext : nestedCalls = _ := Text.toList_append_eq String.toList_ofList String.toList_ofList
  have h := read_of_fst empty nestedCalls (by rw [htext]; decide +kernel)
  have hends := ends_read h ⟨[0], [], true⟩
  exact ⟨_, h, by rw [htext]; decide +kernel, hends.1 ℚ .standard, hends.2 ℚ .standard⟩

end Lifeline
