import Lifeline.Proofs.Reader.Soundness

/-! # The history of a diagram

A diagram may be built in any number of steps: texts are read into it one after the other, whether
or not they can be read to the end, and participants and messages are added by hand. Each step
keeps the diagram in order (`Operation.sound_apply`) and, unless it clears the diagram, adds to what
is there (`Operation.grows_apply`). So every diagram with a history is in order, whatever the
history is (`Diagram.sound_after`). -/

namespace Lifeline

/-- What can be done to a diagram. -/
inductive Operation
  /-- A text is read into the diagram, up to its end or to the first line at fault. -/
  | read (text : List Char)
  | addParticipant (p : Participant)
  | ensureParticipant (id : String) (kind : ParticipantKind) (line : Nat)
  /-- A message goes to the list alone. -/
  | addMessage (m : Message)
  /-- A message goes to the list and to the end of the outline. -/
  | addTopMessage (m : Message)
  | clear
  deriving DecidableEq, Repr

/-- The diagram behind an operation. -/
def Operation.apply (d : Diagram) : Operation → Diagram
  | read text => (d.read text).2
  | addParticipant p => d.addParticipant p
  | ensureParticipant id kind line => d.ensureParticipant id kind line
  | addMessage m => d.addMessage m
  | addTopMessage m => d.addTopMessage m
  | clear => .empty

/-- The diagram that operations make of an empty one. -/
def Diagram.after (ops : List Operation) : Diagram := ops.foldl Operation.apply .empty

namespace Diagram

variable {d e : Diagram}

theorem sound_empty : empty.Sound :=
  ⟨⟨List.nodup_nil, rfl, by simp [empty]⟩, trivial, rfl, by simp [empty, Outline.places],
    List.Pairwise.nil⟩

theorem Sound.registers (h : d.Sound) (hreg : d.Registers e) : e.Sound := by
  refine h.mono hreg.grows (h.registered.registers hreg) ?_
  obtain ⟨ps, rfl⟩ := hreg.same
  rfl

theorem Sound.addMessage (h : d.Sound) (m : Message) : (d.addMessage m).Sound :=
  h.mono (grows_addMessage d m) (h.registered.addMessage m) (outline_addMessage d m)

theorem Sound.addTopMessage (h : d.Sound) (m : Message) : (d.addTopMessage m).Sound :=
  .of_state (h.start.addMessage (m := { m with index := d.messages.length }) rfl)

theorem grows_addTopMessage (d : Diagram) (m : Message) : d.Grows (d.addTopMessage m) :=
  (grows_addMessage d m).trans (grows_extend _ _)

end Diagram

variable {d : Diagram}

theorem Operation.sound_apply (h : d.Sound) (op : Operation) : (op.apply d).Sound := by
  cases op with
  | read text => exact (h.read text).1
  | addParticipant p => exact h.registers (Diagram.registers_addParticipant d p)
  | ensureParticipant id kind line =>
      exact h.registers (Diagram.registers_ensureParticipant d id kind line)
  | addMessage m => exact h.addMessage m
  | addTopMessage m => exact h.addTopMessage m
  | clear => exact Diagram.sound_empty

/-- Every operation but clearing adds to what is there. -/
theorem Operation.grows_apply (h : d.Sound) {op : Operation} (hop : op ≠ .clear) :
    d.Grows (op.apply d) := by
  cases op with
  | read text => exact (h.read text).2
  | addParticipant p => exact (Diagram.registers_addParticipant d p).grows
  | ensureParticipant id kind line =>
      exact (Diagram.registers_ensureParticipant d id kind line).grows
  | addMessage m => exact Diagram.grows_addMessage d m
  | addTopMessage m => exact Diagram.grows_addTopMessage d m
  | clear => exact absurd rfl hop

/-- A diagram is in order behind any operations. -/
theorem Diagram.sound_after (ops : List Operation) : (after ops).Sound := by
  suffices h : ∀ d : Diagram, d.Sound → (ops.foldl Operation.apply d).Sound from h _ sound_empty
  induction ops with
  | nil => exact fun _ h => h
  | cons op ops ih => exact fun d h => ih _ (op.sound_apply h)

/-- A text that can be read into an empty diagram leaves one in order, and no error. -/
theorem Diagram.sound_of_read {text : List Char} (h : empty.read text = (none, d)) :
    d.Sound ∧ d.failure = none := by
  have hsound := (sound_empty.read text).1
  rw [h] at hsound
  exact ⟨hsound, sound_empty.failure_of_read h⟩

theorem Diagram.Sound.walk_messages (h : d.Sound) :
    d.outline.walk.filterMap (fun p => p.item.message?) = d.outline.messages := by
  rw [Outline.walk_eq_places h.orderly, Outline.messages_eq_filterMap_places []]

theorem Diagram.Sound.refers_entry (h : d.Sound) {e : Entry} (he : e ∈ d.outline.entries) :
    (Item.entry e).Refers d := by
  rw [Outline.entries_eq_filterMap_places []] at he
  obtain ⟨p, hp, hpe⟩ := List.mem_filterMap.mp he
  obtain ⟨_ | _, path⟩ := p
  · obtain rfl := Option.some.inj hpe
    exact h.refers _ hp
  · simp [Item.entry?] at hpe

theorem Diagram.Sound.getElem?_message (h : d.Sound) {m : Message} (hm : m ∈ d.outline.messages) :
    d.messages[m.index]? = some m := by
  obtain ⟨e, he, hem⟩ := List.mem_filterMap.mp hm
  cases e <;> simp only [Option.some.injEq, reduceCtorEq] at hem
  exact hem ▸ h.refers_entry he

theorem Diagram.Sound.refers_note (h : d.Sound) {n : Note} (hn : n ∈ d.outline.notes) :
    n.participant ∈ d.ids ∧ ∀ i ∈ n.afterMessage, i < d.messages.length := by
  obtain ⟨e, he, hen⟩ := List.mem_filterMap.mp hn
  cases e <;> simp only [Option.some.injEq, reduceCtorEq] at hen
  exact hen ▸ h.refers_entry he

/-- **A diagram is consistent behind any operations.** Its participants have different names; every
message has its place in the list as its index, and both of its ends are registered. The outline
names messages of the list under increasing indices, also on the walk through its arms; its notes
stand at registered participants, behind messages of the list if behind any. And all that a diagram
holds comes first in what the next operation makes of it, unless it is cleared. -/
theorem Diagram.consistent_after (ops : List Operation) :
    (after ops).ids.Nodup ∧
    (∀ (i : Nat) (m : Message), (after ops).messages[i]? = some m → m.index = i ∧
      (after ops).hasParticipant m.sender = true ∧
      (after ops).hasParticipant m.receiver = true) ∧
    (after ops).outline.messageIndices.Pairwise (· < ·) ∧
    (after ops).outline.walk.filterMap (fun p => p.item.message?) =
      (after ops).outline.messages ∧
    (∀ m ∈ (after ops).outline.messages, (after ops).messages[m.index]? = some m) ∧
    (∀ n ∈ (after ops).outline.notes, (after ops).hasParticipant n.participant = true ∧
      ∀ i ∈ n.afterMessage, i < (after ops).messages.length) ∧
    ∀ op : Operation, op ≠ .clear →
      (after ops).ids <+: (op.apply (after ops)).ids ∧
      (after ops).messages <+: (op.apply (after ops)).messages ∧
      (after ops).sections <+: (op.apply (after ops)).sections ∧
      ∃ new, (op.apply (after ops)).outline = (after ops).outline ++ new := by
  have h := sound_after ops
  simp only [hasParticipant_iff]
  refine ⟨h.registered.ids, ?_, ?_, h.walk_messages, ?_, ?_, ?_⟩
  · intro i m hm
    exact ⟨h.registered.getElem?_index hm, h.registered.ends m (List.mem_of_getElem? hm)⟩
  · exact List.pairwise_map.mpr h.sorted
  · intro m hm
    obtain ⟨e, he, hem⟩ := List.mem_filterMap.mp hm
    cases e <;> simp only [Option.some.injEq, reduceCtorEq] at hem
    exact hem ▸ h.refers_entry he
  · intro n hn
    obtain ⟨e, he, hen⟩ := List.mem_filterMap.mp hn
    cases e <;> simp only [Option.some.injEq, reduceCtorEq] at hen
    exact hen ▸ h.refers_entry he
  · intro op hop
    obtain ⟨hids, hmessages, hsections, houtline⟩ := op.grows_apply h hop
    exact ⟨hids, hmessages, hsections, houtline⟩

/-- A reading that stops inside a block, with a note behind it; a message by hand; and another
reading. -/
def interrupted : List Operation :=
  [.read "A -> B: first\nnote: kept\nloop again\n  B -> C: lost\n  async C -> A: no".toList,
    .addMessage ⟨7, "D", "A", "aside", none, 0, false⟩,
    .read "== Later ==\nif ok\n  A -> E: next\nelse\n  E -> E: self\nnote left of E: end".toList]

theorem Diagram.consistent_after_interrupted :
    (after interrupted).messages.length = 5 ∧
    (after interrupted).outline.messageIndices = [0, 3, 4] ∧
    (after interrupted).outline.messageIndices.Pairwise (· < ·) ∧
    (∀ m ∈ (after interrupted).outline.messages,
      (after interrupted).messages[m.index]? = some m) ∧
    (∀ n ∈ (after interrupted).outline.notes,
      (after interrupted).hasParticipant n.participant = true ∧
        ∀ i ∈ n.afterMessage, i < (after interrupted).messages.length) ∧
    Operation.addTopMessage ⟨0, "F", "A", "more", none, 0, true⟩ ≠ .clear ∧
    (after interrupted).messages <+: ((Operation.addTopMessage
      ⟨0, "F", "A", "more", none, 0, true⟩).apply (after interrupted)).messages := by
  have h := consistent_after interrupted
  have hop : Operation.addTopMessage ⟨0, "F", "A", "more", none, 0, true⟩ ≠ .clear := by decide
  have hvalues : (after interrupted).messages.length = 5 ∧
      (after interrupted).outline.messageIndices = [0, 3, 4] := by
    unfold interrupted
    rw [String.toList_ofList, String.toList_ofList]
    decide +kernel
  exact ⟨hvalues.1, hvalues.2, h.2.2.1, h.2.2.2.2.1, h.2.2.2.2.2.1, hop,
    (h.2.2.2.2.2.2 _ hop).2.1⟩

end Lifeline
