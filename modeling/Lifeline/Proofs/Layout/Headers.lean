import Lifeline.Proofs.Layout.Heights
import Lifeline.Proofs.Layout.Labels
import Mathlib.Data.List.Chain

/-! # Headers stand side by side

The header of a participant begins where the header on its left ends, with the gap of that one
between the two (`placedAt_succ`). Gaps only grow while they are widened for one message after the
other, so in the end a gap is as wide as any message has asked for, whatever messages come later:
behind a participant who calls itself there is room for the loop of the call and for its label
(`loop_le_gap`). All this is about distances, so it stays when the drawing is moved
(`Headed.shift`).

`Diagram.headers_read` says so of every document. -/

namespace Lifeline.Layout

/-- What is drawn in a header. -/
def captionOf (p : Participant) : String × String × ParticipantKind :=
  (p.id, p.label, p.kind)

/-- What is drawn in the header of a participant that has its place. -/
def PlacedParticipant.caption {α : Type} (p : PlacedParticipant α) :
    String × String × ParticipantKind :=
  (p.id, p.label, p.kind)

/-- The headers of the participants of a diagram, from left to right. Each is drawn around its
lifeline and is wide enough for its label; between two of them there is a gap, and where the
participant on the left calls itself, the loop of the call and its label have room between its
lifeline and the next header. -/
structure Headed {α : Type} [Add α] [Mul α] [Div α] [NatCast α] [Max α] [LE α] (c : Config α)
    (d : Diagram) (ps : List (PlacedParticipant α)) : Prop where
  ordered : ps.map PlacedParticipant.caption = d.orderedParticipants.map captionOf
  complete : (ps.map PlacedParticipant.caption).Perm (d.participants.map captionOf)
  centred : ∀ p ∈ ps, p.x = p.rect.x + half p.rect.width
  wide : ∀ p ∈ ps, c.textWidth p.label + twice c.participantPadding ≤ p.rect.width
  apart : ps.IsChain fun p q => p.rect.right + c.participantGap ≤ q.rect.x
  loops : ∀ m ∈ d.messages, m.sender = m.receiver → (∃ p ∈ ps, p.id = m.sender) ∧
    ∀ i p q, ps[i]? = some p → p.id = m.sender → ps[i + 1]? = some q →
      p.x + c.selfCallWidth +
        (max (c.textWidth m.label) (c.textWidth (m.reply.getD "")) + twice c.messageLabelPadding) ≤
          q.rect.x

section
variable {α : Type} [Field α] [LinearOrder α] {c : Config α} {ps : List Participant}
  {gaps : List α} {left gap : α} {d : Diagram} {m : Message} {i : Nat}

/-! ### Neighbours -/

theorem placedAt_succ {p q : PlacedParticipant α}
    (hp : (placeParticipants c left (ps.zip gaps))[i]? = some p)
    (hq : (placeParticipants c left (ps.zip gaps))[i + 1]? = some q) :
    ∃ gap, gaps[i]? = some gap ∧ q.rect.x = p.rect.right + gap := by
  rw [getElem?_placeParticipants] at hp hq
  obtain ⟨⟨a, gap⟩, hat, rfl⟩ := Option.map_eq_some_iff.mp hp
  obtain ⟨⟨b, gap'⟩, -, rfl⟩ := Option.map_eq_some_iff.mp hq
  obtain ⟨hlt, hget⟩ := List.getElem?_eq_some_iff.mp hat
  refine ⟨gap, (List.getElem?_zip_eq_some.mp hat).2, ?_⟩
  rw [List.take_succ_eq_append_getElem hlt, List.map_append, List.sum_append, hget]
  simp only [placedAt, Rect.right, List.map_cons, List.map_nil, List.sum_singleton]
  ring

/-- Behind its turn a call to oneself has room for its loop and its label, and keeps it. -/
theorem loop_le_gap (before behind : List Message)
    (hi : ps.findIdx? (fun p => p.id == m.sender) = some i)
    (hj : ps.findIdx? (fun p => p.id == m.receiver) = some i) (hnext : i + 1 < ps.length)
    (hgap : (gapsFor c ps (before ++ m :: behind))[i]? = some gap) :
    labelWidth c m + c.selfCallWidth - half ((ps.map (headerWidth c)).getD i 0) ≤ gap := by
  have hlen := length_gapsFor c ps before
  have hturn : widenFor c ps (gapsFor c ps before) m = (gapsFor c ps before).modify i
      (max · (labelWidth c m + c.selfCallWidth - half ((ps.map (headerWidth c)).getD i 0))) := by
    simp only [widenFor, hi, hj, widenGaps_self]
    rw [if_pos (by rw [hlen]; exact hnext)]
  have hlater : List.Forall₂ (· ≤ ·) (widenFor c ps (gapsFor c ps before) m)
      (gapsFor c ps (before ++ m :: behind)) := by
    rw [gapsFor_append, List.foldl_cons]
    exact le_foldl_widenFor behind _
  obtain ⟨hlt, rfl⟩ := List.getElem?_eq_some_iff.mp hgap
  have hat : i < (widenFor c ps (gapsFor c ps before) m).length := hlater.length_eq.symm ▸ hlt
  have hle := hlater.get hat hlt
  simp only [List.get_eq_getElem, hturn, List.getElem_modify, if_true] at hle
  exact (le_max_right _ _).trans hle

/-! ### The headers of a diagram -/

theorem exists_placedAt {p : PlacedParticipant α} (hp : (placedParticipants c d)[i]? = some p) :
    ∃ left a, d.orderedParticipants[i]? = some a ∧ p = placedAt c left a := by
  rw [placedParticipants, getElem?_placeParticipants] at hp
  obtain ⟨⟨a, gap⟩, hat, rfl⟩ := Option.map_eq_some_iff.mp hp
  exact ⟨_, a, (List.getElem?_zip_eq_some.mp hat).1, rfl⟩

theorem map_caption_placedParticipants (c : Config α) (d : Diagram) :
    (placedParticipants c d).map PlacedParticipant.caption =
      d.orderedParticipants.map captionOf := by
  have hlen := length_gapsFor c d.orderedParticipants d.messages
  apply List.ext_getElem?
  intro i
  rw [List.getElem?_map, List.getElem?_map, placedParticipants, getElem?_placeParticipants,
    Option.map_map, ← List.map_fst_zip hlen.ge, List.getElem?_map, Option.map_map,
    List.map_fst_zip hlen.ge]
  rfl

theorem findIdx?_orderedParticipants (hd : d.Registered) {a : Participant}
    (ha : d.orderedParticipants[i]? = some a) :
    (d.orderedParticipants.findIdx? fun p => p.id == a.id) = some i := by
  have hids : (d.orderedParticipants.map Participant.id).Nodup :=
    (d.orderedParticipants_perm.map Participant.id).nodup_iff.mpr hd.ids
  obtain ⟨hlt, rfl⟩ := List.getElem?_eq_some_iff.mp ha
  refine List.findIdx?_eq_some_iff_getElem.mpr ⟨hlt, beq_self_eq_true _, fun j hj => ?_⟩
  have hne := (List.pairwise_iff_getElem.mp (List.pairwise_map.mp hids)) j i (hj.trans hlt) hlt hj
  simpa using hne

variable [IsStrictOrderedRing α]

/-- A participant who calls itself, and the header on its right. -/
theorem loop_le_next (hd : d.Registered) (hm : m ∈ d.messages) (hself : m.sender = m.receiver)
    {p q : PlacedParticipant α} (hp : (placedParticipants c d)[i]? = some p)
    (hid : p.id = m.sender) (hq : (placedParticipants c d)[i + 1]? = some q) :
    p.x + c.selfCallWidth + labelWidth c m ≤ q.rect.x := by
  obtain ⟨_, a, ha, rfl⟩ := exists_placedAt hp
  obtain ⟨_, b, hb, -⟩ := exists_placedAt hq
  have hslot := findIdx?_orderedParticipants hd ha
  rw [show a.id = m.sender from hid] at hslot
  have hnext : i + 1 < d.orderedParticipants.length := (List.getElem?_eq_some_iff.mp hb).1
  obtain ⟨gap, hgap, hx⟩ := placedAt_succ hp hq
  obtain ⟨before, behind, hms⟩ := List.append_of_mem hm
  rw [hms] at hgap
  have hroom := loop_le_gap before behind hslot (hself ▸ hslot) hnext hgap
  rw [List.getD_eq_getElem?_getD, List.getElem?_map, ha] at hroom
  have hhalves := half_add_half (headerWidth c a)
  rw [hx]
  simp only [placedAt, Rect.right, Option.map_some, Option.getD_some] at hroom ⊢
  linarith

theorem headed_placedParticipants (hd : d.Registered) (c : Config α) :
    Headed c d (placedParticipants c d) := by
  have hordered := map_caption_placedParticipants c d
  have hplaced : ∀ p ∈ placedParticipants c d, ∃ left a, p = placedAt c left a := by
    intro p hp
    obtain ⟨i, hi⟩ := List.mem_iff_getElem?.mp hp
    obtain ⟨left, a, -, hpa⟩ := exists_placedAt hi
    exact ⟨left, a, hpa⟩
  refine ⟨hordered, ?_, ?_, ?_, ?_, fun m hm hself => ⟨?_, fun i p q hp hid hq => ?_⟩⟩
  · rw [hordered]
    exact d.orderedParticipants_perm.map _
  · intro p hp
    obtain ⟨left, a, rfl⟩ := hplaced p hp
    rfl
  · intro p hp
    obtain ⟨left, a, rfl⟩ := hplaced p hp
    exact le_max_left _ _
  · refine List.isChain_iff_getElem.mpr fun i hi => ?_
    obtain ⟨gap, hgap, hx⟩ := placedAt_succ
      (List.getElem?_eq_getElem (Nat.lt_of_succ_lt hi)) (List.getElem?_eq_getElem hi)
    have hwide : c.participantGap ≤ gap := participantGap_le (List.mem_of_getElem? hgap)
    rw [hx]
    exact add_le_add_right hwide _
  · obtain ⟨p, hp, hid, -⟩ := exists_lifeline?
      ((mem_ids_placedParticipants c).mpr (hd.ends m hm).1)
    exact ⟨p, hp, hid⟩
  · exact loop_le_next hd hm hself hp hid hq

theorem Headed.shift {ps : List (PlacedParticipant α)} (h : Headed c d ps) (dx : α) :
    Headed c d (ps.map fun p => { p with x := p.x + dx, rect := p.rect.shift dx }) := by
  have hcaptions : (ps.map fun p => { p with x := p.x + dx, rect := p.rect.shift dx }).map
      PlacedParticipant.caption = ps.map PlacedParticipant.caption := by
    rw [List.map_map]
    rfl
  refine ⟨hcaptions.trans h.ordered, hcaptions ▸ h.complete, ?_, ?_, ?_, ?_⟩
  · intro p hp
    obtain ⟨q, hq, rfl⟩ := List.mem_map.mp hp
    simp only [Rect.shift, h.centred q hq]
    ring
  · intro p hp
    obtain ⟨q, hq, rfl⟩ := List.mem_map.mp hp
    exact h.wide q hq
  · refine List.isChain_map_of_isChain _ (fun p q hpq => ?_) h.apart
    simp only [Rect.shift, Rect.right] at hpq ⊢
    linarith
  · intro m hm hself
    obtain ⟨⟨p, hp, hid⟩, hloop⟩ := h.loops m hm hself
    refine ⟨⟨_, List.mem_map_of_mem hp, hid⟩, fun i p q hp hid hq => ?_⟩
    rw [List.getElem?_map] at hp hq
    obtain ⟨p₀, hp₀, rfl⟩ := Option.map_eq_some_iff.mp hp
    obtain ⟨q₀, hq₀, rfl⟩ := Option.map_eq_some_iff.mp hq
    have hroom := hloop i p₀ q₀ hp₀ hid hq₀
    simp only [Rect.shift]
    linarith

end

end Lifeline.Layout

namespace Lifeline.Diagram

open Layout

/-- **Headers stand side by side.** A document that could be read has a drawing under every view,
and in exact arithmetic, whatever the measures are, its headers are those of the participants of the
document in their order. Each header is drawn around its lifeline and is as wide as its label with
the padding on both sides, or wider; each begins behind the one on its left, by the gap of
participants at least; and behind the lifeline of a participant who calls itself the next header
leaves room for the loop and for the label or the reply with the padding of labels on both sides. -/
theorem headers_read {α : Type} [Field α] [LinearOrder α] [IsStrictOrderedRing α]
    {text : List Char} {d : Diagram} (h : empty.read text = (none, d)) (c : Config α) (v : View) :
    ∃ g, d.layout c v = .ok g ∧ Headed c d g.participants := by
  obtain ⟨hsound, hread⟩ := sound_of_read h
  obtain ⟨ts, g, -, hg, hmoves⟩ := hsound.registered.layout hread c v
  obtain ⟨dx, hagrees⟩ := hmoves.exists_shift
  refine ⟨g, hg, ?_⟩
  rw [hagrees.participants]
  exact (headed_placedParticipants hsound.registered c).shift dx

/-- Participants in another order than that of their mention, by a group and by positions; the
label of a message, a loop and its reply need wider gaps; and a note moves everything. -/
def rearranged : List Char :=
  "## Team\n  C\n\n".toList ++ "B is a database aka Long Label Of A Store".toList ++
    " position 0\nA -> B: a label that is".toList ++ " rather long\n".toList ++
    "B -> B: again: and answered at length\n".toList ++
    "note left of B: far out on the left\n".toList ++ "C -> C: retry\nD -> A: end".toList

theorem headers_read_rearranged : ∃ d, empty.read rearranged = (none, d) ∧
    (d.layout (Config.standard : Config ℚ) .everything).toOption.map (fun g =>
        g.participants.map fun p => (p.id, p.rect.x, p.x, p.rect.right)) =
      some [("B", 191 / 2, 181, 533 / 2), ("C", 397, 437, 477), ("A", 534, 574, 614),
        ("D", 654, 694, 734)] ∧
    ∃ g, d.layout (Config.standard : Config ℚ) .everything = .ok g ∧
      Headed .standard d g.participants := by
  have htext : rearranged = _ :=
    congrArg₂ _ (congrArg₂ _ (congrArg₂ _ (congrArg₂ _ (congrArg₂ _ (congrArg₂ _
      String.toList_ofList String.toList_ofList) String.toList_ofList) String.toList_ofList)
      String.toList_ofList) String.toList_ofList) String.toList_ofList
  have h := read_of_fst empty rearranged (by rw [htext]; decide +kernel)
  exact ⟨_, h, by rw [htext]; decide +kernel, headers_read h .standard .everything⟩

end Lifeline.Diagram
