import Lifeline.Proofs.Reader.Stack
import Lifeline.Reader.Step

/-! # What a line adds

A line of the head of a document describes participants, groups and options and leaves the outline
alone (`Describes`). Any other line first closes blocks and then adds at most one place, at the end
of the outline and inside the blocks that are still open (`Extends`); a message or section divider
goes to the lists of the diagram at the same time. -/

namespace Lifeline.Reader

open Lifeline.Syntax (Content Heading Line NoteHeader Statement)

/-- At most one place is added to what has been read, on a line of its own, inside the open
blocks. -/
structure Extends (s t : State) (line : Nat) (new : Option Place) : Prop where
  places : t.places = s.places ++ new.toList
  line : ∀ p ∈ new, p.item.line = line
  path : ∀ p ∈ new, p.item.isBranch = false → p.path = s.path
  messages : t.diagram.messages =
    s.diagram.messages ++ (new.bind fun p => p.item.message?).toList
  index : ∀ m ∈ new.bind (fun p => p.item.message?), m.index = s.diagram.messages.length
  sections : t.diagram.sections =
    s.diagram.sections ++ (new.bind fun p => p.item.section?).toList
  groups : t.diagram.groups = s.diagram.groups
  orderly : s.Orderly → t.Orderly

/-- Nothing but the head of the document changes; a new group may come before the first content. -/
structure Describes (s t : State) (line : Nat) : Prop where
  outline : t.diagram.outline = s.diagram.outline
  stack : t.stack = s.stack
  messages : t.diagram.messages = s.diagram.messages
  sections : t.diagram.sections = s.diagram.sections
  hasContent : t.hasContent = s.hasContent
  note : t.note = s.note
  groups : t.diagram.groups.map Group.line = s.diagram.groups.map Group.line ∨
    s.hasContent = false ∧
      t.diagram.groups.map Group.line = s.diagram.groups.map Group.line ++ [line]

section
variable {s t u : State} {line : Nat} {new : Option Place}

theorem places_congr (ho : t.diagram.outline = s.diagram.outline) (hs : t.stack = s.stack) :
    t.places = s.places := by
  unfold State.places
  rw [ho, hs]

theorem frames_congr (hs : t.stack = s.stack) : t.frames = s.frames := by
  unfold State.frames
  rw [hs]

theorem State.Orderly.congr (h : s.Orderly) (ho : t.diagram.outline = s.diagram.outline)
    (hs : t.stack = s.stack) : t.Orderly :=
  ⟨ho ▸ h.outline, ho ▸ h.top, hs ▸ h.body, hs ▸ h.hasElse⟩

theorem lists_of_besides (h : t.besides = s.besides) :
    t.diagram.messages = s.diagram.messages ∧ t.diagram.sections = s.diagram.sections ∧
      t.diagram.groups = s.diagram.groups :=
  ⟨congrArg (fun s => s.diagram.messages) h, congrArg (fun s => s.diagram.sections) h,
    congrArg (fun s => s.diagram.groups) h⟩

theorem hasContent_of_besides (h : t.besides = s.besides) : t.hasContent = s.hasContent :=
  congrArg (fun s => s.hasContent) h

theorem note_of_besides (h : t.besides = s.besides) : t.note = s.note :=
  congrArg (fun s => s.note) h

theorem note_closeBlocks (h : s.note = none) (indent : Nat) (startsBranch : Bool) :
    (s.closeBlocks indent startsBranch).note = none :=
  (note_of_besides (besides_closeBlocks s indent startsBranch)).trans h

theorem Extends.refl (s : State) (line : Nat) : Extends s s line none :=
  ⟨(List.append_nil _).symm, by simp, by simp, (List.append_nil _).symm, by simp,
    (List.append_nil _).symm, rfl, id⟩

theorem Extends.congr (h : Extends u t line new) (houtline : u.diagram.outline = s.diagram.outline)
    (hstack : u.stack = s.stack) (hmessages : u.diagram.messages = s.diagram.messages)
    (hsections : u.diagram.sections = s.diagram.sections)
    (hgroups : u.diagram.groups = s.diagram.groups) : Extends s t line new := by
  obtain ⟨h1, h2, h3, h4, h5, h6, h7, h8⟩ := h
  refine ⟨?_, h2, ?_, hmessages ▸ h4, hmessages ▸ h5, hsections ▸ h6, hgroups ▸ h7,
    fun h => h8 (h.congr houtline hstack)⟩
  · rw [h1, places_congr houtline hstack]
  · intro p hp hb
    rw [h3 p hp hb]
    exact congrArg framesPath (frames_congr hstack)

end

/-! ### The head of the document -/

section
variable {s t : State} {line : Nat}

theorem Describes.refl (s : State) (line : Nat) : Describes s s line :=
  ⟨rfl, rfl, rfl, rfl, rfl, rfl, Or.inl rfl⟩

theorem State.stop_ne_ok (s : State) (fault : Fault) (t : State) : s.stop fault ≠ .ok t := by
  simp [State.stop]

theorem map_modify {α β : Type} (part : α → β) (l : List α) (i : Nat) (f : α → α) (f' : β → β)
    (h : ∀ a, part (f a) = f' (part a)) :
    (l.modify i f).map part = (l.map part).modify i f' := by
  apply List.ext_getElem?
  intro j
  rw [List.getElem?_map, List.getElem?_modify, List.getElem?_modify, List.getElem?_map]
  cases l[j]? with
  | none => rfl
  | some a => by_cases hij : i = j <;> simp [hij, h]

theorem map_modify_of_same {α β : Type} (part : α → β) (l : List α) (i : Nat) (f : α → α)
    (h : ∀ a, part (f a) = part a) : (l.modify i f).map part = l.map part :=
  (map_modify part l i f id h).trans (List.modify_id i _)

/-- A group heading opens the group of its name, which it colors, or a new one if no group has its
name. -/
theorem readGroup_ok {h : Heading} (ht : s.readGroup h line = .ok t) : s.hasContent = false ∧
    ((∃ i, (s.diagram.groups.map Group.name)[i]? = some (String.ofList h.label) ∧ t = { s with
        diagram := { s.diagram with groups := s.diagram.groups.modify i fun g =>
          { g with color := (h.color.map String.ofList).or g.color } }
        group := some i }) ∨
      String.ofList h.label ∉ s.diagram.groups.map Group.name ∧ t = { s with
        diagram := { s.diagram with groups := s.diagram.groups ++
          [⟨String.ofList h.label, h.color.map String.ofList, [], line⟩] }
        group := some s.diagram.groups.length }) := by
  unfold State.readGroup at ht
  split at ht
  · exact absurd ht (State.stop_ne_ok _ _ _)
  · next hc =>
      refine ⟨by simpa using hc, ?_⟩
      cases hx : hexColor? h with
      | some color => simp [hx, State.stop] at ht
      | none =>
          simp only [hx] at ht
          split at ht
          · next i hfound =>
              obtain ⟨hi, hname, -⟩ := List.findIdx?_eq_some_iff_getElem.mp hfound
              refine Or.inl ⟨i, ?_, (Except.ok.inj ht).symm⟩
              rw [List.getElem?_map, List.getElem?_eq_getElem hi, Option.map_some,
                beq_iff_eq.mp hname]
          · next hnone =>
              refine Or.inr ⟨fun hmem => ?_, (Except.ok.inj ht).symm⟩
              obtain ⟨g, hg, hname⟩ := List.mem_map.mp hmem
              have := List.findIdx?_eq_none_iff.mp hnone g hg
              simp [hname] at this

theorem Describes.readGroup {h : Heading} (ht : s.readGroup h line = .ok t) :
    Describes s t line := by
  obtain ⟨hc, ⟨i, -, rfl⟩ | ⟨-, rfl⟩⟩ := readGroup_ok ht
  · exact ⟨rfl, rfl, rfl, rfl, rfl, rfl, Or.inl (map_modify_of_same _ _ _ _ fun _ => rfl)⟩
  · exact ⟨rfl, rfl, rfl, rfl, rfl, rfl, Or.inr ⟨hc, List.map_append⟩⟩

theorem readOption_ok {key : String} {value : List Char} (ht : s.readOption key value = .ok t) :
    (key = "chart" ∧ Text.equalsIgnoringCase value "sequence".toList = true ∧
        t = { s with hasChart := true }) ∨
      ∃ title options, t = { s with
        diagram := { s.diagram with title := title, options := options } } := by
  unfold State.readOption at ht
  dsimp only at ht
  split at ht
  · next hkey =>
      split at ht
      · next hvalue => exact Or.inl ⟨hkey, hvalue, (Except.ok.inj ht).symm⟩
      · exact absurd ht (State.stop_ne_ok _ _ _)
  · repeat' split at ht
    all_goals first
      | exact absurd ht (State.stop_ne_ok _ _ _)
      | exact Or.inr ⟨_, _, (Except.ok.inj ht).symm⟩

theorem Describes.readOption {key : String} {value : List Char}
    (ht : s.readOption key value = .ok t) : Describes s t line := by
  obtain ⟨-, -, rfl⟩ | ⟨title, options, rfl⟩ := readOption_ok ht <;>
    exact ⟨rfl, rfl, rfl, rfl, rfl, rfl, Or.inl rfl⟩

/-- The participants that have joined a group in this reading. -/
def State.joined (s : State) : List String := s.membership.map Prod.fst

/-- While members are listed, a participant joins the group, or has joined it before; otherwise
nothing happens. -/
theorem joinGroup_ok {id : String} (ht : s.joinGroup id = .ok t) :
    (t = s ∧ ∀ i ∈ s.group, (id, i) ∈ s.membership) ∨
    ∃ i, s.group = some i ∧ id ∉ s.joined ∧
      t = { s with
        diagram := { s.diagram with
          groups := s.diagram.groups.modify i fun g => { g with members := g.members ++ [id] } }
        membership := s.membership ++ [(id, i)] } := by
  unfold State.joinGroup at ht
  cases hg : s.group with
  | none =>
      simp only [hg] at ht
      exact Or.inl ⟨(Except.ok.inj ht).symm, by simp⟩
  | some i =>
      simp only [hg] at ht
      cases hm : s.membership.find? fun m => m.1 == id with
      | none =>
          simp only [hm] at ht
          refine Or.inr ⟨i, rfl, fun hid => ?_, (Except.ok.inj ht).symm⟩
          obtain ⟨m, hmem, rfl⟩ := List.mem_map.mp hid
          have := List.find?_eq_none.mp hm m hmem
          simp at this
      | some entry =>
          simp only [hm] at ht
          have hid : entry.1 = id := by simpa using List.find?_some hm
          by_cases hj : i = entry.2
          · rw [if_pos hj] at ht
            refine Or.inl ⟨(Except.ok.inj ht).symm, ?_⟩
            rintro _ ⟨rfl⟩
            rw [← hid, hj]
            exact List.mem_of_find?_eq_some hm
          · rw [if_neg hj] at ht
            exact absurd ht (State.stop_ne_ok _ _ _)

theorem Describes.joinGroup {id : String} (ht : s.joinGroup id = .ok t) : Describes s t line := by
  obtain ⟨rfl, -⟩ | ⟨i, -, -, rfl⟩ := joinGroup_ok ht
  · exact .refl t line
  · exact ⟨rfl, rfl, rfl, rfl, rfl, rfl, Or.inl (map_modify_of_same _ _ _ _ fun _ => rfl)⟩

theorem Describes.joinGroup_of {ps : List Participant} {id : String}
    (ht : ({ s with diagram := { s.diagram with participants := ps } } : State).joinGroup id =
      .ok t) : Describes s t line := by
  have hdesc : Describes { s with diagram := { s.diagram with participants := ps } } t line :=
    .joinGroup ht
  obtain ⟨h1, h2, h3, h4, h5, h6, h7⟩ := hdesc
  exact ⟨h1, h2, h3, h4, h5, h6, h7⟩

theorem addParticipant_eq (d : Diagram) (p : Participant) :
    ∃ ps, d.addParticipant p = { d with participants := ps } := by
  unfold Diagram.addParticipant
  split <;> exact ⟨_, rfl⟩

theorem ensureParticipant_eq (d : Diagram) (id : String) (kind : ParticipantKind) (line : Nat) :
    ∃ ps, d.ensureParticipant id kind line = { d with participants := ps } := by
  unfold Diagram.ensureParticipant
  split <;> exact ⟨_, rfl⟩

theorem addMessage_eq (d : Diagram) (m : Message) :
    ∃ ps, d.addMessage m = { d with
      participants := ps, messages := d.messages ++ [{ m with index := d.messages.length }] } := by
  obtain ⟨ps, hps⟩ := ensureParticipant_eq d m.sender .default m.line
  obtain ⟨qs, hqs⟩ := ensureParticipant_eq { d with participants := ps } m.receiver .default m.line
  refine ⟨qs, ?_⟩
  simp only [Diagram.addMessage, hps, hqs]

/-- The participant that a line puts into the group whose members are being listed. -/
def Line.member? : Line → Option String
  | .declaration declaration => some (String.ofList declaration.id)
  | .position id _ => some (String.ofList id)
  | .member id => some (String.ofList id)
  | _ => none

/-- A line with a member for the group registers or updates participants before the group is
joined. -/
theorem readForm_of_member {form : Line} {id : String} {text : List Char} {indent : Nat}
    (h : Line.member? form = some id) (ht : s.readForm form text indent line = .ok t) :
    ∃ ps, ({ s with diagram := { s.diagram with participants := ps } } : State).joinGroup id =
      .ok t := by
  cases form with
  | declaration decl =>
      obtain rfl := Option.some.inj h
      obtain ⟨ps, hps⟩ := addParticipant_eq s.diagram
        ⟨String.ofList decl.id, String.ofList (decl.aka.getD decl.id),
          (ParticipantKind.ofName? (String.ofList decl.kind)).getD .default, line, decl.position⟩
      simp only [State.readForm, State.readDeclaration, hps] at ht
      exact ⟨ps, ht⟩
  | position id n =>
      obtain rfl := Option.some.inj h
      obtain ⟨ps, hps⟩ := addParticipant_eq s.diagram
        { (s.diagram.participant? (String.ofList id)).getD
            (.named (String.ofList id) (inferKind id) line) with position := some n }
      simp only [State.readForm, State.readPosition, hps] at ht
      exact ⟨ps, ht⟩
  | member id =>
      obtain rfl := Option.some.inj h
      obtain ⟨ps, hps⟩ := ensureParticipant_eq s.diagram (String.ofList id) (inferKind id) line
      simp only [State.readForm, State.readMember, hps] at ht
      exact ⟨ps, ht⟩
  | _ => cases h

/-- A line that is neither content nor a section divider only describes. -/
theorem Describes.readForm {form : Line} {text : List Char} {indent : Nat}
    (hsection : ∀ h, form ≠ .section h) (hcontent : ∀ c, form ≠ .content c)
    (ht : s.readForm form text indent line = .ok t) : Describes s t line := by
  cases form with
  | blank =>
      obtain rfl := Except.ok.inj ht
      exact ⟨rfl, rfl, rfl, rfl, rfl, rfl, Or.inl rfl⟩
  | group h => exact .readGroup ht
  | comment =>
      obtain rfl := Except.ok.inj ht
      exact .refl s line
  | hash => exact absurd ht (State.stop_ne_ok _ _ _)
  | «section» h => exact absurd rfl (hsection h)
  | option key value => exact .readOption ht
  | declaration decl =>
      obtain ⟨ps, hjoin⟩ := readForm_of_member rfl ht
      exact .joinGroup_of hjoin
  | position id n =>
      obtain ⟨ps, hjoin⟩ := readForm_of_member rfl ht
      exact .joinGroup_of hjoin
  | member id =>
      obtain ⟨ps, hjoin⟩ := readForm_of_member rfl ht
      exact .joinGroup_of hjoin
  | content c => exact absurd rfl (hcontent c)

end

/-! ### Entries -/

section
variable {s t u : State} {line : Nat}

theorem places_alone {e : Entry} (he : e.branch? = none) (path : Path) :
    Outline.places path e.alone = [⟨.entry e, path⟩] := by
  have hpath : path.behind e = path := by
    cases path with
    | nil => rfl
    | cons h around => simp [Path.behind, he]
  simp [Entry.alone, Outline.places, hpath]

theorem branches_alone {e : Entry} (he : e.branch? = none) : e.alone.branches = [] := by
  simp [Entry.alone, Outline.branches, he]

theorem orderly_alone (e : Entry) : e.alone.Orderly := ⟨fun _ _ _ => rfl, trivial⟩

/-- An entry that starts no branch is added inside the open blocks; the lists of the diagram have
been extended before. -/
theorem Extends.append {e : Entry} (he : e.branch? = none)
    (houtline : u.diagram.outline = s.diagram.outline) (hstack : u.stack = s.stack)
    (hmessages : u.diagram.messages = s.diagram.messages ++ (Item.entry e).message?.toList)
    (hindex : ∀ m ∈ (Item.entry e).message?, m.index = s.diagram.messages.length)
    (hsections : u.diagram.sections = s.diagram.sections ++ (Item.entry e).section?.toList)
    (hgroups : u.diagram.groups = s.diagram.groups) :
    Extends s (u.append e.alone) e.line (some ⟨.entry e, s.path⟩) ∧
      (u.append e.alone).frames = s.frames ∧ (u.append e.alone).besides = u.besides := by
  have hbesides := besides_append u (o := e.alone)
  obtain ⟨hm, hs, hg⟩ := lists_of_besides hbesides
  have hpath : u.path = s.path := congrArg framesPath (frames_congr hstack)
  refine ⟨⟨?_, by simp [Item.line], by simp, hm.trans hmessages, hindex, hs.trans hsections,
    hg.trans hgroups, ?_⟩, ?_, hbesides⟩
  · rw [places_append, places_alone he, places_congr houtline hstack, hpath]
    rfl
  · exact fun h => (h.congr houtline hstack).append (orderly_alone e) (branches_alone he)
  · rw [frames_append _ (branches_alone he), frames_congr hstack]

theorem Extends.addNote (s : State) (participant : Option String) (side : Side) (text : List Char)
    (line : Nat) (afterMessage : Option Nat) :
    ∃ new, Extends s (s.addNote participant side text line afterMessage) line new ∧
      (∀ p ∈ new, ∃ n, p.item = .entry (.note n)) ∧
      (s.addNote participant side text line afterMessage).frames = s.frames ∧
      (s.addNote participant side text line afterMessage).besides = s.besides := by
  obtain h | ⟨id, -, -, -, h⟩ := addNote_eq s participant side text line afterMessage
  · rw [h]
    exact ⟨none, .refl s line, by simp, rfl, rfl⟩
  · rw [h]
    obtain ⟨hext, hframes, hbesides⟩ := Extends.append (s := s) (u := s)
      (e := .note ⟨String.ofList text, side, id, line, afterMessage⟩) rfl rfl rfl
      (List.append_nil _).symm (by simp [Item.message?]) (List.append_nil _).symm rfl
    exact ⟨_, hext, by simp, hframes, hbesides⟩

theorem Extends.closeNote {n : OpenNote} (hn : s.note = some n) :
    ∃ new, Extends s s.closeNote n.line new ∧ (∀ p ∈ new, ∃ m, p.item = .entry (.note m)) ∧
      s.closeNote.frames = s.frames ∧ s.closeNote.hasContent = s.hasContent ∧
      s.closeNote.note = none := by
  rw [closeNote_of_some hn]
  obtain ⟨new, hext, hitem, hframes, hbesides⟩ := Extends.addNote { s with note := none }
    n.participant n.side n.text n.line n.afterMessage
  exact ⟨new, hext.congr rfl rfl rfl rfl rfl, hitem, hframes,
    congrArg (fun s => s.hasContent) hbesides, congrArg (fun s => s.note) hbesides⟩

/-- A section divider closes blocks and is added behind them. -/
theorem Extends.readSection {h : Heading} {indent : Nat}
    (ht : s.readSection h indent line = .ok t) :
    ∃ d : Section, Extends (s.closeBlocks indent false) t line
        (some ⟨.entry (.section d), (s.closeBlocks indent false).path⟩) ∧
      t.frames = (s.closeBlocks indent false).frames ∧ t.hasContent = true ∧
      t.note = (s.closeBlocks indent false).note := by
  unfold State.readSection at ht
  cases hx : hexColor? h with
  | some color => simp [hx, State.stop] at ht
  | none =>
      simp only [hx] at ht
      obtain rfl := Except.ok.inj ht
      generalize s.closeBlocks indent false = c
      let d : Section :=
        ⟨String.ofList h.label, h.color.map String.ofList, line, c.diagram.messages.length⟩
      obtain ⟨hext, hframes, hbesides⟩ := Extends.append (s := c) (e := .section d)
        (u := { c with
          diagram := { c.diagram with sections := c.diagram.sections ++ [d] }, hasContent := true })
        rfl rfl rfl (List.append_nil _).symm (by simp [Item.message?]) rfl rfl
      exact ⟨d, hext, hframes, congrArg (fun s => s.hasContent) hbesides,
        congrArg (fun s => s.note) hbesides⟩

theorem besides_readSection {h : Heading} {indent : Nat}
    (ht : s.readSection h indent line = .ok t) :
    ∃ sections, t.besides = { s.besides with
      diagram := { s.besides.diagram with sections := sections }, hasContent := true } := by
  unfold State.readSection at ht
  split at ht
  · exact absurd ht (State.stop_ne_ok _ _ _)
  · obtain rfl := Except.ok.inj ht
    dsimp only
    rw [besides_append, ← besides_closeBlocks s indent false]
    exact ⟨_, rfl⟩

/-- A message is added to the outline and to the list of messages. -/
theorem Extends.readMessage (s : State) (statement : Statement) (line : Nat) :
    ∃ m : Message, Extends s (s.readMessage statement line) line
        (some ⟨.entry (.message m), s.path⟩) ∧
      (s.readMessage statement line).frames = s.frames ∧
      (s.readMessage statement line).hasContent = true ∧
      (s.readMessage statement line).note = s.note := by
  unfold State.readMessage
  obtain ⟨ps, hps⟩ := ensureParticipant_eq s.diagram (String.ofList statement.sender)
    (inferKind statement.sender) line
  obtain ⟨qs, hqs⟩ := ensureParticipant_eq { s.diagram with participants := ps }
    (String.ofList statement.receiver) (inferKind statement.receiver) line
  simp only [hps, hqs]
  generalize (if statement.isAsync = true then (statement.label, none)
    else Syntax.splitReply statement.label) = labels
  let m : Message :=
    { index := s.diagram.messages.length
      sender := String.ofList statement.sender
      receiver := String.ofList statement.receiver
      label := String.ofList labels.1
      reply := labels.2.map String.ofList
      line := line
      isAsync := statement.isAsync }
  obtain ⟨rs, hrs⟩ := addMessage_eq { s.diagram with participants := qs } m
  obtain ⟨hext, hframes, hbesides⟩ := Extends.append (s := s) (e := .message m)
    (u := { s with
      diagram := { s.diagram with participants := rs, messages := s.diagram.messages ++ [m] }
      hasContent := true
      lastSender := some (String.ofList statement.sender) })
    rfl rfl rfl rfl (by simp [Item.message?, m]) (List.append_nil _).symm rfl
  refine ⟨m, ?_⟩
  simp only [m] at hrs
  rw [hrs]
  exact ⟨hext, hframes, congrArg (fun s => s.hasContent) hbesides,
    congrArg (fun s => s.note) hbesides⟩

theorem Extends.openBlock (s : State) (head : BlockHead) (indent : Nat) :
    Extends s { s with stack := ⟨head, indent, .empty, false⟩ :: s.stack, hasContent := true }
      head.line (some ⟨.block head, s.path⟩) := by
  refine ⟨?_, by simp [Item.line], by simp, (List.append_nil _).symm, by simp [Item.message?],
    (List.append_nil _).symm, rfl, ?_⟩
  · simp [State.places, State.path, State.frames, stackPlaces, Outline.places]
  · rintro ⟨houtline, htop, hbody, helse⟩
    refine ⟨houtline, htop, ?_, ?_⟩
    · intro b hb
      rcases List.mem_cons.mp hb with rfl | hb
      · trivial
      · exact hbody b hb
    · intro b hb
      rcases List.mem_cons.mp hb with rfl | hb
      · simp [Outline.branches]
      · exact helse b hb

/-- A branch is added to the innermost open block, whose next arm it starts. -/
theorem Extends.addBranch {b : OpenBlock} {bs : List OpenBlock} (hs : s.stack = b :: bs)
    (helse : b.hasElse = false) (x : Branch) :
    Extends s { s with
        stack := { b with body := b.body ++ (Entry.branch x).alone, hasElse := x.isElse } :: bs
        hasContent := true }
      x.line
      (some ⟨.entry (.branch x), (b.head, x.arm) :: framesPath (bs.map OpenBlock.frame)⟩) := by
  refine ⟨?_, by simp [Item.line, Entry.line], by simp [Item.isBranch], (List.append_nil _).symm,
    by simp [Item.message?], (List.append_nil _).symm, rfl, ?_⟩
  · simp [State.places, hs, stackPlaces, Outline.places_append, Outline.endPath_main, Entry.alone,
      Outline.places, Path.behind, Entry.branch?]
  · rintro ⟨houtline, htop, hbody, hflag⟩
    rw [hs] at hbody hflag
    have hnone : ∀ y ∈ b.body.branches, y.isElse = false := by
      intro y hy
      by_contra hne
      have := (hflag b List.mem_cons_self).mpr ⟨y, hy, by simpa using hne⟩
      simp [helse] at this
    refine ⟨houtline, htop, ?_, ?_⟩
    · intro c hc
      rcases List.mem_cons.mp hc with rfl | hc
      · refine (hbody b List.mem_cons_self).append (orderly_alone _) ?_
        rintro ⟨y, hy, hye⟩
        simp [hnone y hy] at hye
      · exact hbody c (List.mem_cons_of_mem b hc)
    · intro c hc
      rcases List.mem_cons.mp hc with rfl | hc
      · simp only [Outline.branches_append, Entry.alone, Outline.branches, Entry.branch?,
          Option.toList_some, List.append_nil, List.mem_append, List.mem_singleton]
        constructor
        · exact fun hx => ⟨x, Or.inr rfl, hx⟩
        · rintro ⟨y, hy | rfl, hye⟩
          · simp [hnone y hy] at hye
          · exact hye
      · exact hflag c (List.mem_cons_of_mem b hc)

/-! ### Content -/

/-- A line that starts a branch is passed over, or adds the branch to the block of its indentation;
a parallel block of this indentation is a fault. -/
theorem readBranch_ok {label : Option (List Char)} {indent : Nat}
    (ht : s.readBranch label indent line = .ok t) :
    (t = { s with hasContent := true } ∧ ∀ b ∈ s.stack.head?, b.indent = indent →
        b.head.kind = .loop ∨ b.head.kind = .choice ∧ b.hasElse = true) ∨
    ∃ b bs, s.stack = b :: bs ∧ b.indent = indent ∧ b.head.kind = .choice ∧ b.hasElse = false ∧
      t = { s with
        stack := { b with
          body := b.body ++ (Entry.branch ⟨label.map String.ofList, line⟩).alone
          hasElse := label.isNone } :: bs
        hasContent := true } := by
  unfold State.readBranch at ht
  cases hs : s.stack with
  | nil =>
      simp only [hs] at ht
      exact Or.inl ⟨(Except.ok.inj ht).symm, by simp⟩
  | cons b bs =>
      simp only [hs] at ht
      by_cases hi : b.indent = indent
      · rw [if_neg (by simp [hi])] at ht
        cases hk : b.head.kind with
        | parallel => simp [hk, State.stop] at ht
        | loop =>
            simp only [hk] at ht
            exact Or.inl ⟨(Except.ok.inj ht).symm, by simp [hk]⟩
        | choice =>
            simp only [hk] at ht
            cases he : b.hasElse with
            | true =>
                simp only [he, if_true] at ht
                exact Or.inl ⟨(Except.ok.inj ht).symm, by simp [hk, he]⟩
            | false =>
                simp only [he, Bool.false_eq_true, if_false] at ht
                exact Or.inr ⟨b, bs, rfl, hi, hk, he, (Except.ok.inj ht).symm⟩
      · rw [if_pos hi] at ht
        refine Or.inl ⟨(Except.ok.inj ht).symm, ?_⟩
        intro c hc hci
        obtain rfl : b = c := by simpa using hc
        exact absurd hci hi

theorem readNote_of_text {header : NoteHeader} {text : List Char} (h : header.text = some text)
    (s : State) (indent line : Nat) :
    ∃ afterMessage, s.readNote header indent line =
      ({ s with hasContent := true } : State).addNote
        ((header.participant.map String.ofList).or s.lastSender) (header.side.getD .right) text line
        afterMessage := by
  unfold State.readNote
  simp only [h]
  exact ⟨_, rfl⟩

theorem readNote_of_none {header : NoteHeader} (h : header.text = none) (s : State)
    (indent line : Nat) :
    ∃ n : OpenNote, n.line = line ∧ n.indent = indent ∧
      s.readNote header indent line = { s with hasContent := true, note := some n } := by
  unfold State.readNote
  simp only [h]
  exact ⟨_, rfl, rfl, rfl⟩

theorem Extends.start (s : State) (line : Nat) (note : Option OpenNote) :
    Extends s { s with hasContent := true, note := note } line none :=
  (Extends.refl { s with hasContent := true, note := note } line).congr rfl rfl rfl rfl rfl

/-- The head of the block that content on a line opens. -/
def Content.head? (line : Nat) : Content → Option BlockHead
  | .block kind label => some ⟨kind, String.ofList label, line⟩
  | _ => none

/-- The branch that content on a line starts. -/
def Content.branch? (line : Nat) : Content → Option Branch
  | .branch label => some ⟨label.map String.ofList, line⟩
  | _ => none

/-- Content adds at most one place on its line, or begins a note whose text is still to come. -/
theorem Extends.readContent {c : Content} {indent : Nat} (hn : s.note = none)
    (ht : s.readContent c indent line = .ok t) :
    ∃ new, Extends s t line new ∧
      (∀ p ∈ new, p.item.block? = Content.head? line c ∧
        p.item.isBranch = (Content.branch? line c).isSome) ∧
      (t.hasContent = true ∨ new = none ∧ t.note = none ∧ t.hasContent = s.hasContent) ∧
      ∀ n ∈ t.note, n.line = line ∧ new = none ∧ Content.head? line c = none ∧
        Content.branch? line c = none := by
  cases c with
  | asyncKeyword => exact absurd ht (State.stop_ne_ok _ _ _)
  | message statement =>
      obtain rfl := Except.ok.inj ht
      obtain ⟨m, hext, -, hcontent, hnote⟩ := Extends.readMessage s statement line
      refine ⟨_, hext, ?_, Or.inl hcontent, ?_⟩
      · rintro _ ⟨rfl⟩
        exact ⟨rfl, rfl⟩
      · simp [hnote, hn]
  | block kind label =>
      obtain rfl := Except.ok.inj ht
      refine ⟨_, .openBlock s ⟨kind, String.ofList label, line⟩ indent, ?_, Or.inl rfl, ?_⟩
      · rintro _ ⟨rfl⟩
        exact ⟨rfl, rfl⟩
      · simp [hn]
  | branch label =>
      obtain ⟨rfl, -⟩ | ⟨b, bs, hs, -, -, helse, rfl⟩ := readBranch_ok ht
      · exact ⟨none, .start s line s.note, by simp, Or.inl rfl, by simp [hn]⟩
      · have hext := Extends.addBranch hs helse ⟨label.map String.ofList, line⟩
        simp only [Branch.isElse, Option.isNone_map] at hext
        refine ⟨_, hext, ?_, Or.inl rfl, ?_⟩
        · rintro _ ⟨rfl⟩
          exact ⟨rfl, rfl⟩
        · simp [hn]
  | note header =>
      obtain rfl := Except.ok.inj ht
      cases htext : header.text with
      | none =>
          obtain ⟨n, hline, -, heq⟩ := readNote_of_none htext s indent line
          rw [heq]
          refine ⟨none, .start s line _, by simp, Or.inl rfl, ?_⟩
          rintro _ ⟨rfl⟩
          exact ⟨hline, rfl, rfl, rfl⟩
      | some text =>
          obtain ⟨after, heq⟩ := readNote_of_text htext s indent line
          rw [heq]
          obtain ⟨new, hext, hitem, -, hbesides⟩ :=
            Extends.addNote { s with hasContent := true } _ _ text line after
          refine ⟨new, hext.congr rfl rfl rfl rfl rfl, ?_,
            Or.inl (hasContent_of_besides hbesides), ?_⟩
          · intro p hp
            obtain ⟨n, hn⟩ := hitem p hp
            rw [hn]
            exact ⟨rfl, rfl⟩
          · intro n hnote
            rw [(note_of_besides hbesides).trans hn] at hnote
            cases hnote
  | other =>
      obtain rfl := Except.ok.inj ht
      exact ⟨none, .refl s line, by simp, Or.inr ⟨rfl, hn, rfl⟩, by simp [hn]⟩

end

end Lifeline.Reader
