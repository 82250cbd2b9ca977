import Lifeline.Diagram.Basic
import Lifeline.Proofs.Diagram.Walk
import Mathlib.Data.List.Infix
import Mathlib.Data.List.Nodup

/-! # How diagrams grow

Nothing that a diagram holds is taken away or moved by adding to it: the names of the participants,
the messages, the section dividers and the outline of the old diagram are front parts of those of
the new one (`Diagram.Grows`). A diagram is in order (`Diagram.Sound`) if its participants and
messages are registered properly (`Diagram.Registered`) and its outline refers to what is there
(`Item.Refers`). The operations that add participants and messages keep diagrams in order. -/

namespace Lifeline

namespace Diagram

/-- The names of the participants, in the order of their registration. -/
def ids (d : Diagram) : List String := d.participants.map Participant.id

/-- All that the first diagram holds comes first in the second one. -/
structure Grows (d e : Diagram) : Prop where
  ids : d.ids <+: e.ids
  messages : d.messages <+: e.messages
  sections : d.sections <+: e.sections
  outline : ∃ o, e.outline = d.outline ++ o

/-- No participant is registered twice, and the messages are numbered in their order and go between
registered participants. -/
structure Registered (d : Diagram) : Prop where
  ids : d.ids.Nodup
  index : d.messages.map Message.index = List.range d.messages.length
  ends : ∀ m ∈ d.messages, m.sender ∈ d.ids ∧ m.receiver ∈ d.ids

end Diagram

/-- A message is the one of its index in the list of messages; a note stands at a registered
participant, and behind a message of the list if it is behind any. -/
def Item.Refers (d : Diagram) : Item → Prop
  | .entry (.message m) => d.messages[m.index]? = some m
  | .entry (.note n) => n.participant ∈ d.ids ∧ ∀ i ∈ n.afterMessage, i < d.messages.length
  | _ => True

/-- The diagram is in order. The branches of its outline belong to blocks, and the messages of the
outline stand in the order of the list, though some may be missing. -/
structure Diagram.Sound (d : Diagram) : Prop where
  registered : d.Registered
  orderly : d.outline.Orderly
  top : d.outline.branches = []
  refers : ∀ p ∈ Outline.places [] d.outline, p.item.Refers d
  sorted : d.outline.messages.Pairwise fun m n => m.index < n.index

namespace Diagram

variable {d e f : Diagram}

theorem hasParticipant_iff {id : String} : d.hasParticipant id = true ↔ id ∈ d.ids := by
  simp [hasParticipant, ids]

/-! ### Growth -/

theorem Grows.refl (d : Diagram) : d.Grows d :=
  ⟨List.prefix_rfl, List.prefix_rfl, List.prefix_rfl, .empty, (Outline.append_empty _).symm⟩

theorem Grows.trans (h : d.Grows e) (h' : e.Grows f) : d.Grows f := by
  obtain ⟨o, ho⟩ := h.outline
  obtain ⟨o', ho'⟩ := h'.outline
  refine ⟨h.ids.trans h'.ids, h.messages.trans h'.messages, h.sections.trans h'.sections,
    o ++ o', ?_⟩
  rw [ho', ho, Outline.append_assoc]

theorem grows_extend (d : Diagram) (o : Outline) : d.Grows (d.extend o) :=
  ⟨List.prefix_rfl, List.prefix_rfl, List.prefix_rfl, o, rfl⟩

/-- What an item refers to stays where it is. -/
theorem Grows.refers (h : d.Grows e) {i : Item} (hi : i.Refers d) : i.Refers e := by
  rcases i with (m | s | n | b) | head
  · show e.messages[m.index]? = some m
    obtain ⟨ms, hms⟩ := h.messages
    rw [← hms, List.getElem?_append_left (List.getElem?_eq_some_iff.mp hi).1]
    exact hi
  · trivial
  · obtain ⟨hid, hafter⟩ := hi
    exact ⟨h.ids.subset hid, fun i hi => (hafter i hi).trans_le h.messages.length_le⟩
  · trivial
  · trivial

theorem ids_congr (h : e.participants = d.participants) : e.ids = d.ids :=
  congrArg (List.map Participant.id) h

theorem Grows.of_eq (hp : e.participants = d.participants) (hm : e.messages = d.messages)
    (hs : e.sections = d.sections) (ho : e.outline = d.outline) : d.Grows e := by
  refine ⟨(ids_congr hp).symm ▸ List.prefix_rfl, hm ▸ List.prefix_rfl, hs ▸ List.prefix_rfl,
    .empty, ?_⟩
  rw [ho, Outline.append_empty]

theorem Registered.congr (h : d.Registered) (hp : e.participants = d.participants)
    (hm : e.messages = d.messages) : e.Registered := by
  have hids := ids_congr hp
  refine ⟨hids ▸ h.ids, hm ▸ h.index, ?_⟩
  rw [hm, hids]
  exact h.ends

/-- The lists may grow while the outline stays. -/
theorem Sound.mono (h : d.Sound) (hgrows : d.Grows e) (hregistered : e.Registered)
    (houtline : e.outline = d.outline) : e.Sound := by
  refine ⟨hregistered, houtline ▸ h.orderly, houtline ▸ h.top, ?_, houtline ▸ h.sorted⟩
  rw [houtline]
  exact fun p hp => hgrows.refers (h.refers p hp)

/-! ### Participants -/

/-- Participants are registered or updated, and nothing else changes. -/
structure Registers (d e : Diagram) : Prop where
  same : ∃ ps, e = { d with participants := ps }
  ids : d.ids <+: e.ids
  nodup : d.ids.Nodup → e.ids.Nodup

theorem Registers.trans (h : d.Registers e) (h' : e.Registers f) : d.Registers f := by
  obtain ⟨ps, rfl⟩ := h.same
  obtain ⟨qs, rfl⟩ := h'.same
  exact ⟨⟨qs, rfl⟩, h.ids.trans h'.ids, fun hd => h'.nodup (h.nodup hd)⟩

theorem Registers.grows (h : d.Registers e) : d.Grows e := by
  obtain ⟨ps, rfl⟩ := h.same
  exact ⟨h.ids, List.prefix_rfl, List.prefix_rfl, .empty, (Outline.append_empty _).symm⟩

theorem Registers.messages (h : d.Registers e) : e.messages = d.messages := by
  obtain ⟨ps, rfl⟩ := h.same
  rfl

theorem registers_append {p : Participant} (h : d.hasParticipant p.id = false) :
    d.Registers { d with participants := d.participants ++ [p] } := by
  have hids : ids { d with participants := d.participants ++ [p] } = d.ids ++ [p.id] :=
    List.map_append
  have hnew : p.id ∉ d.ids := by
    rw [← hasParticipant_iff, h]
    exact Bool.false_ne_true
  refine ⟨⟨_, rfl⟩, ⟨[p.id], hids.symm⟩, fun hd => ?_⟩
  rw [hids, List.nodup_append]
  refine ⟨hd, List.nodup_singleton _, ?_⟩
  rintro a ha b hb rfl
  exact hnew (List.mem_singleton.mp hb ▸ ha)

theorem registers_addParticipant (d : Diagram) (p : Participant) :
    d.Registers (d.addParticipant p) := by
  unfold addParticipant
  split
  · have hids : (d.participants.map fun q => if q.id = p.id then q.update p else q).map
        Participant.id = d.ids := by
      rw [List.map_map]
      refine List.map_congr_left fun q _ => ?_
      by_cases hq : q.id = p.id <;> simp [hq, Participant.update]
    refine ⟨⟨_, rfl⟩, ?_, fun hd => ?_⟩
    · rw [ids, ids, hids]
      exact List.prefix_rfl
    · rw [ids, hids]
      exact hd
  · next h => exact registers_append (by simpa using h)

theorem registers_ensureParticipant (d : Diagram) (id : String) (kind : ParticipantKind)
    (line : Nat) : d.Registers (d.ensureParticipant id kind line) := by
  unfold ensureParticipant
  split
  · exact ⟨⟨_, rfl⟩, List.prefix_rfl, fun hd => hd⟩
  · next h => exact registers_append (by simpa [Participant.named] using h)

theorem mem_ids_ensureParticipant (d : Diagram) (id : String) (kind : ParticipantKind)
    (line : Nat) : id ∈ (d.ensureParticipant id kind line).ids := by
  unfold ensureParticipant
  split
  · next h => exact hasParticipant_iff.mp h
  · simp [ids, Participant.named]

theorem Registered.registers (h : d.Registered) (hreg : d.Registers e) : e.Registered := by
  have hids := hreg.ids.subset
  obtain ⟨ps, rfl⟩ := hreg.same
  exact ⟨hreg.nodup h.ids, h.index, fun m hm => (h.ends m hm).imp (@hids _) (@hids _)⟩

/-! ### Messages -/

theorem Registered.getElem?_index (h : d.Registered) {i : Nat} {m : Message}
    (hm : d.messages[i]? = some m) : m.index = i := by
  have hi := (List.getElem?_eq_some_iff.mp hm).1
  have hmap : (d.messages.map Message.index)[i]? = some m.index := by
    rw [List.getElem?_map, hm]
    rfl
  rw [h.index, List.getElem?_range hi] at hmap
  exact (Option.some.inj hmap).symm

theorem grows_addMessage (d : Diagram) (m : Message) : d.Grows (d.addMessage m) := by
  have hreg := (registers_ensureParticipant d m.sender .default m.line).trans
    (registers_ensureParticipant _ m.receiver .default m.line)
  have hgrows := hreg.grows
  refine ⟨hgrows.ids, ?_, hgrows.sections, hgrows.outline⟩
  rw [messages_addMessage]
  exact List.prefix_append _ _

theorem outline_addMessage (d : Diagram) (m : Message) :
    (d.addMessage m).outline = d.outline := by
  have h : ∀ (d : Diagram) id k l, (d.ensureParticipant id k l).outline = d.outline := by
    intro d id k l
    unfold ensureParticipant
    split <;> rfl
  simp [addMessage, h]

theorem failure_addMessage (d : Diagram) (m : Message) :
    (d.addMessage m).failure = d.failure := by
  have h : ∀ (d : Diagram) id k l, (d.ensureParticipant id k l).failure = d.failure := by
    intro d id k l
    unfold ensureParticipant
    split <;> rfl
  simp [addMessage, h]

/-- The new message has the next index, and its ends are registered with it. -/
theorem Registered.addMessage (h : d.Registered) (m : Message) : (d.addMessage m).Registered := by
  let c := d.ensureParticipant m.sender .default m.line
  have hreg := registers_ensureParticipant c m.receiver .default m.line
  have hends :=
    (h.registers (registers_ensureParticipant d m.sender .default m.line)).registers hreg
  have hsender : m.sender ∈ c.ids := mem_ids_ensureParticipant d m.sender .default m.line
  have hids : (d.addMessage m).ids = (c.ensureParticipant m.receiver .default m.line).ids := rfl
  refine ⟨hends.ids, ?_, ?_⟩
  · rw [messages_addMessage, List.map_append, h.index, List.length_append, List.length_singleton,
      List.range_succ]
    rfl
  · intro n hn
    rw [messages_addMessage, List.mem_append, List.mem_singleton] at hn
    rw [hids]
    rcases hn with hn | rfl
    · have hc :=
        hreg.messages.trans (registers_ensureParticipant d m.sender .default m.line).messages
      exact hends.ends n (hc ▸ hn)
    · exact ⟨hreg.ids.subset hsender, mem_ids_ensureParticipant c m.receiver .default m.line⟩

end Diagram

end Lifeline
