import Lifeline.Kind.Rules
import Lifeline.Proofs.Diagram.Growth
import Lifeline.Proofs.Order.Arrangement
import Lifeline.Syntax.Declaration

/-! # What is said of participants

A line may declare a participant, give it a position, or only name it. `portrait` tells what a
participant looks like after a list of such mentions, field by field: the first mention decides its
line, the last declaration its kind and its label, and the last position given stays. A diagram
records one mention after the other (`Diagram.record`), with a different rule for each kind of
mention; what it holds in the end are the portraits, in the order of the first mentions
(`cast_record`). -/

namespace Lifeline

open Lifeline.Syntax (Declaration)

/-- What a line says when it mentions a participant. -/
inductive Saying
  | declares (declaration : Declaration)
  | places (id : List Char) (position : Int)
  | names (id : List Char)
  deriving DecidableEq, Repr

/-- A mention of a participant. -/
structure Mention where
  line : Nat
  saying : Saying
  deriving DecidableEq, Repr

namespace Mention

/-- The participant that is mentioned. -/
def name (m : Mention) : String :=
  match m.saying with
  | .declares declaration => String.ofList declaration.id
  | .places id _ => String.ofList id
  | .names id => String.ofList id

/-- The declaration that the mention is. -/
def declaration? (m : Mention) : Option Declaration :=
  match m.saying with
  | .declares declaration => some declaration
  | _ => none

/-- The position that the mention gives. -/
def position? (m : Mention) : Option Int :=
  match m.saying with
  | .declares declaration => declaration.position
  | .places _ position => some position
  | .names _ => none

end Mention

/-- The label of a participant: the alias of its declaration, or its name. -/
def labelOf (name : String) (declaration : Option Declaration) : String :=
  ((declaration.bind Declaration.aka).map String.ofList).getD name

/-- The kind of a participant: the one that its declaration names, which is the plain one if there
is no such kind, and without a declaration the kind that its name suggests. -/
def kindOf (name : String) : Option Declaration → ParticipantKind
  | some declaration => (ParticipantKind.ofName? (String.ofList declaration.kind)).getD .default
  | none => inferKind name.toList

/-- A participant as its mentions describe it, if it is mentioned at all. -/
def portrait (mentions : List Mention) (name : String) : Option Participant :=
  let own := mentions.filter fun m => m.name == name
  let declaration := (own.filterMap Mention.declaration?).getLast?
  own.head?.map fun first =>
    { id := name
      label := labelOf name declaration
      kind := kindOf name declaration
      line := first.line
      position := (own.filterMap Mention.position?).getLast? }

/-- A mention is recorded: a declaration registers or updates its participant, and so does a
position, which leaves the rest of the participant alone; a name is registered if it is new. -/
def Diagram.record (d : Diagram) (m : Mention) : Diagram :=
  match m.saying with
  | .declares declaration =>
    d.addParticipant
      { id := String.ofList declaration.id
        label := String.ofList (declaration.aka.getD declaration.id)
        kind := (ParticipantKind.ofName? (String.ofList declaration.kind)).getD .default
        line := m.line
        position := declaration.position }
  | .places id n =>
    d.addParticipant
      { (d.participant? (String.ofList id)).getD
          (.named (String.ofList id) (inferKind id) m.line) with position := some n }
  | .names id => d.ensureParticipant (String.ofList id) (inferKind id) m.line

/-! ### What one more mention changes -/

namespace Mention

/-- The participant that a first mention registers. -/
def fresh (m : Mention) : Participant :=
  { id := m.name
    label := labelOf m.name m.declaration?
    kind := kindOf m.name m.declaration?
    line := m.line
    position := m.position? }

/-- The participant after a further mention of it. -/
def revise (m : Mention) (p : Participant) : Participant :=
  { p with
    label := m.declaration?.elim p.label fun declaration => labelOf p.id (some declaration)
    kind := m.declaration?.elim p.kind fun declaration => kindOf p.id (some declaration)
    position := m.position?.or p.position }

theorem id_revise (m : Mention) (p : Participant) : (m.revise p).id = p.id := rfl

end Mention

section
variable {mentions : List Mention} {m : Mention} {name : String}

theorem portrait_of_not_mem (h : name ∉ mentions.map Mention.name) :
    portrait mentions name = none := by
  have hnone : mentions.filter (fun m => m.name == name) = [] := by
    rw [List.filter_eq_nil_iff]
    intro m hm hname
    exact h (List.mem_map.mpr ⟨m, hm, beq_iff_eq.mp hname⟩)
  simp [portrait, hnone]

theorem portrait_concat_of_ne (h : m.name ≠ name) :
    portrait (mentions ++ [m]) name = portrait mentions name := by
  have hown : (mentions ++ [m]).filter (fun m => m.name == name) =
      mentions.filter fun m => m.name == name := by
    simp [List.filter_append, h]
  unfold portrait
  rw [hown]

theorem portrait_concat_of_none (h : portrait mentions m.name = none) :
    portrait (mentions ++ [m]) m.name = some m.fresh := by
  have hnone : mentions.filter (fun n => n.name == m.name) = [] := by
    simpa [portrait] using h
  have hown : (mentions ++ [m]).filter (fun n => n.name == m.name) = [m] := by
    simp [List.filter_append, hnone]
  unfold portrait
  rw [hown]
  cases hd : m.declaration? <;> cases hp : m.position? <;> simp [Mention.fresh, hd, hp]

theorem getLast?_filterMap_concat {α β : Type} (f : α → Option β) (l : List α) (a : α) :
    ((l ++ [a]).filterMap f).getLast? = (f a).or (l.filterMap f).getLast? := by
  rw [List.filterMap_append, List.getLast?_append]
  cases h : f a <;> simp [h]

theorem getLast?_own {β : Type} {f : Mention → Option β} {before behind : List Mention}
    (hm : (f m).isSome = true)
    (hbehind : ∀ later ∈ behind, later.name = m.name → f later = none) :
    (((before ++ m :: behind).filter fun n => n.name == m.name).filterMap f).getLast? = f m := by
  obtain ⟨b, hb⟩ := Option.isSome_iff_exists.mp hm
  have hnone : (behind.filter fun later => later.name == m.name).filterMap f = [] := by
    rw [List.filterMap_eq_nil_iff]
    intro later hlater
    obtain ⟨hmem, hname⟩ := List.mem_filter.mp hlater
    exact hbehind later hmem (beq_iff_eq.mp hname)
  simp [List.filter_append, hnone, hb]

/-- Behind the last mention that gives a position, the portrait keeps this position. -/
theorem position_portrait {before behind : List Mention} {p : Participant}
    (h : portrait (before ++ m :: behind) m.name = some p) (hm : m.position?.isSome = true)
    (hbehind : ∀ later ∈ behind, later.name = m.name → later.position? = none) :
    p.position = m.position? := by
  obtain ⟨first, -, rfl⟩ := Option.map_eq_some_iff.mp h
  exact getLast?_own hm hbehind

theorem declaration_portrait {before behind : List Mention} {p : Participant}
    (h : portrait (before ++ m :: behind) m.name = some p) (hm : m.declaration?.isSome = true)
    (hbehind : ∀ later ∈ behind, later.name = m.name → later.declaration? = none) :
    p.label = labelOf m.name m.declaration? ∧ p.kind = kindOf m.name m.declaration? := by
  obtain ⟨first, -, rfl⟩ := Option.map_eq_some_iff.mp h
  exact ⟨congrArg (labelOf m.name) (getLast?_own hm hbehind),
    congrArg (kindOf m.name) (getLast?_own hm hbehind)⟩

theorem portrait_concat_of_some {p : Participant} (h : portrait mentions m.name = some p) :
    portrait (mentions ++ [m]) m.name = some (m.revise p) := by
  have hown : (mentions ++ [m]).filter (fun n => n.name == m.name) =
      (mentions.filter fun n => n.name == m.name) ++ [m] := by
    simp [List.filter_append]
  unfold portrait at h ⊢
  rw [hown]
  generalize mentions.filter (fun n => n.name == m.name) = own at h ⊢
  obtain ⟨first, hfirst, rfl⟩ := Option.map_eq_some_iff.mp h
  have hhead : (own ++ [m]).head? = some first := by
    rw [List.head?_append, hfirst]
    rfl
  dsimp only
  rw [hhead, Option.map_some, getLast?_filterMap_concat, getLast?_filterMap_concat]
  cases hd : m.declaration? <;> simp [Mention.revise, hd]

end

/-! ### Recording -/

namespace Diagram

variable {d e : Diagram} {p : Participant} {m : Mention}

theorem ensureParticipant_of_mem {id : String} (h : id ∈ d.ids) (kind : ParticipantKind)
    (line : Nat) : d.ensureParticipant id kind line = d :=
  if_pos (hasParticipant_iff.mpr h)

theorem participants_ensureParticipant_of_not_mem {id : String} (h : id ∉ d.ids)
    (kind : ParticipantKind) (line : Nat) :
    (d.ensureParticipant id kind line).participants =
      d.participants ++ [.named id kind line] := by
  rw [ensureParticipant, if_neg (mt hasParticipant_iff.mp h)]

theorem participants_addParticipant_of_mem (h : p.id ∈ d.ids) :
    (d.addParticipant p).participants =
      d.participants.map fun q => if q.id = p.id then q.update p else q := by
  rw [addParticipant, if_pos (hasParticipant_iff.mpr h)]

theorem participants_addParticipant_of_not_mem (h : p.id ∉ d.ids) :
    (d.addParticipant p).participants = d.participants ++ [p] := by
  rw [addParticipant, if_neg (mt hasParticipant_iff.mp h)]

theorem participant?_of_mem (hnodup : d.ids.Nodup) (hp : p ∈ d.participants) :
    d.participant? p.id = some p := by
  cases hfound : d.participant? p.id with
  | none =>
      have := List.find?_eq_none.mp hfound p hp
      simp at this
  | some q =>
      have hq : q ∈ d.participants := List.mem_of_find?_eq_some hfound
      have hid : q.id = p.id := by simpa using List.find?_some hfound
      rw [List.inj_on_of_nodup_map hnodup hq hp hid]

theorem participant?_of_not_mem {id : String} (h : id ∉ d.ids) : d.participant? id = none := by
  rw [participant?, List.find?_eq_none]
  intro p hp hid
  exact h (List.mem_map.mpr ⟨p, hp, by simpa using hid⟩)

theorem participants_record_congr (h : d.participants = e.participants) (m : Mention) :
    (d.record m).participants = (e.record m).participants := by
  have hids : d.ids = e.ids := congrArg (List.map Participant.id) h
  have hadd : ∀ p, (d.addParticipant p).participants = (e.addParticipant p).participants := by
    intro p
    by_cases hp : p.id ∈ e.ids
    · rw [participants_addParticipant_of_mem (hids ▸ hp), participants_addParticipant_of_mem hp, h]
    · rw [participants_addParticipant_of_not_mem (hids ▸ hp),
        participants_addParticipant_of_not_mem hp, h]
  have hensure : ∀ id kind line, (d.ensureParticipant id kind line).participants =
      (e.ensureParticipant id kind line).participants := by
    intro id kind line
    by_cases hid : id ∈ e.ids
    · rw [ensureParticipant_of_mem (hids ▸ hid), ensureParticipant_of_mem hid, h]
    · rw [participants_ensureParticipant_of_not_mem (hids ▸ hid),
        participants_ensureParticipant_of_not_mem hid, h]
  have hfind : d.participant? = e.participant? := by
    funext id
    rw [participant?, participant?, h]
  unfold record
  split
  · exact hadd _
  · rw [hfind]
    exact hadd _
  · exact hensure _ _ _

theorem participants_foldl_record_congr (h : d.participants = e.participants)
    (mentions : List Mention) :
    (mentions.foldl record d).participants = (mentions.foldl record e).participants := by
  induction mentions generalizing d e with
  | nil => exact h
  | cons m rest ih => exact ih (participants_record_congr h m)

/-- A first mention registers its participant. -/
theorem participants_record_of_not_mem (h : m.name ∉ d.ids) :
    (d.record m).participants = d.participants ++ [m.fresh] := by
  obtain ⟨line, saying⟩ := m
  cases saying with
  | declares declaration =>
      refine (participants_addParticipant_of_not_mem h).trans ?_
      cases haka : declaration.aka <;>
        simp [haka, Mention.fresh, Mention.name, Mention.declaration?, Mention.position?, labelOf,
          kindOf]
  | places id n =>
      have hnone : d.participant? (String.ofList id) = none := participant?_of_not_mem h
      simp only [record, hnone, Option.getD_none]
      refine (participants_addParticipant_of_not_mem h).trans ?_
      simp [Participant.named, Mention.fresh, Mention.name, Mention.declaration?,
        Mention.position?, labelOf, kindOf]
  | names id =>
      refine (participants_ensureParticipant_of_not_mem h _ _).trans ?_
      simp [Participant.named, Mention.fresh, Mention.name, Mention.declaration?,
        Mention.position?, labelOf, kindOf]

/-- A further mention revises its participant and leaves the others alone. -/
theorem participants_record_of_mem (hnodup : d.ids.Nodup) (h : m.name ∈ d.ids) :
    (d.record m).participants =
      d.participants.map fun p => if p.id = m.name then m.revise p else p := by
  obtain ⟨line, saying⟩ := m
  cases saying with
  | declares declaration =>
      refine (participants_addParticipant_of_mem h).trans (List.map_congr_left fun p _ => ?_)
      refine ite_congr rfl (fun hp => ?_) fun _ => rfl
      have hp : p.id = String.ofList declaration.id := hp
      cases haka : declaration.aka <;>
        simp [Participant.update, Mention.revise, Mention.declaration?, Mention.position?, labelOf,
          kindOf, haka, hp]
  | places id n =>
      obtain ⟨q, hq, hid⟩ := List.mem_map.mp h
      have hid : q.id = String.ofList id := hid
      have hfound : d.participant? (String.ofList id) = some q :=
        hid ▸ participant?_of_mem hnodup hq
      simp only [record, hfound, Option.getD_some]
      let moved : Participant := { q with position := some n }
      have hknown : moved.id ∈ d.ids := List.mem_map.mpr ⟨q, hq, rfl⟩
      refine (participants_addParticipant_of_mem hknown).trans
        (List.map_congr_left fun p hp => ?_)
      refine ite_congr (congrArg _ hid) (fun hpid => ?_) fun _ => rfl
      obtain rfl := List.inj_on_of_nodup_map hnodup hp hq (hpid.trans hid.symm)
      rfl
  | names id =>
      have hsame : d.record ⟨line, .names id⟩ = d := ensureParticipant_of_mem h _ _
      rw [hsame]
      refine (List.map_id' _).symm.trans (List.map_congr_left fun p _ => ?_)
      split <;> rfl

end Diagram

/-- The participants are those that are mentioned, in the order of their first mentions, and each is
as its mentions describe it. -/
structure Cast (mentions : List Mention) (d : Diagram) : Prop where
  ids : d.ids = Order.firstOccurrences [] (mentions.map Mention.name)
  portraits : ∀ p ∈ d.participants, portrait mentions p.id = some p

section
variable {mentions : List Mention} {d : Diagram}

theorem Cast.nodup (h : Cast mentions d) : d.ids.Nodup :=
  h.ids ▸ (Order.firstOccurrences_spec [] _).1

theorem Cast.mem_ids (h : Cast mentions d) {name : String} :
    name ∈ d.ids ↔ name ∈ mentions.map Mention.name := by
  rw [h.ids, (Order.firstOccurrences_spec [] _).2]
  simp

/-- One more mention is recorded. -/
theorem Cast.record (h : Cast mentions d) (m : Mention) :
    Cast (mentions ++ [m]) (d.record m) := by
  have hids : ∀ e : Diagram, e.ids = e.participants.map Participant.id := fun _ => rfl
  by_cases hm : m.name ∈ d.ids
  · have hold := Diagram.participants_record_of_mem h.nodup hm
    refine ⟨?_, ?_⟩
    · rw [List.map_append, List.map_singleton, Order.firstOccurrences_concat,
        if_pos (Or.inr (h.mem_ids.mp hm)), ← h.ids, hids, hold, List.map_map]
      refine List.map_congr_left fun p _ => ?_
      by_cases hp : p.id = m.name <;> simp [hp, Mention.id_revise]
    · rw [hold]
      intro q hq
      obtain ⟨p, hp, rfl⟩ := List.mem_map.mp hq
      have hportrait := h.portraits p hp
      by_cases hpm : p.id = m.name
      · rw [if_pos hpm, Mention.id_revise, hpm]
        exact portrait_concat_of_some (hpm ▸ hportrait)
      · rw [if_neg hpm, portrait_concat_of_ne (Ne.symm hpm)]
        exact hportrait
  · have hnew := Diagram.participants_record_of_not_mem hm
    have hunmentioned : m.name ∉ mentions.map Mention.name := fun hmem => hm (h.mem_ids.mpr hmem)
    refine ⟨?_, ?_⟩
    · rw [List.map_append, List.map_singleton, Order.firstOccurrences_concat,
        if_neg (by simpa using hunmentioned), ← h.ids, hids, hnew, List.map_append]
      rfl
    · rw [hnew]
      intro p hp
      rcases List.mem_append.mp hp with hp | hp
      · have hne : m.name ≠ p.id := by
          rintro heq
          exact hm (heq ▸ List.mem_map_of_mem hp)
        rw [portrait_concat_of_ne hne]
        exact h.portraits p hp
      · obtain rfl := List.mem_singleton.mp hp
        exact portrait_concat_of_none (portrait_of_not_mem hunmentioned)

/-- A diagram without participants that records mentions holds their portraits. -/
theorem cast_record (h : d.participants = []) (mentions : List Mention) :
    Cast mentions (mentions.foldl Diagram.record d) := by
  induction mentions using List.reverseRecOn with
  | nil =>
      refine ⟨?_, ?_⟩
      · simp [Diagram.ids, h, Order.firstOccurrences]
      · simp [h]
  | append_singleton mentions m ih =>
      rw [List.foldl_append]
      exact ih.record m

end

end Lifeline
