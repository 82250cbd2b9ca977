import Lifeline.Proofs.Diagram.Growth
import Lifeline.Proofs.Reader.Rows
import Lifeline.Reader.Document

/-! # Reading keeps a diagram in order

A text may be read into a diagram that holds content already, and reading may stop at any line,
with blocks and a note still open. `State.Sound origin s` says what holds of the state behind every
line: the diagram is in order, has grown out of `origin`, and whatever is open refers to what it
holds. A fault leaves the diagram of such a state (`Outcome`), so however a reading ends, it has
added to a diagram in order and left one (`Diagram.Sound.read`). -/

namespace Lifeline.Reader

open Lifeline.Syntax (Content Declaration Heading Line NoteHeader Statement)

/-- The diagram has grown out of `origin`, and all that has been read, open blocks included, is in
order. -/
structure State.Sound (origin : Diagram) (s : State) : Prop where
  grows : origin.Grows s.diagram
  failure : s.diagram.failure = origin.failure
  registered : s.diagram.Registered
  orderly : s.Orderly
  refers : ∀ p ∈ s.places, p.item.Refers s.diagram
  sorted : (s.places.filterMap fun p => p.item.message?).Pairwise fun m n => m.index < n.index
  note : ∀ n ∈ s.note, ∀ i ∈ n.afterMessage, i < s.diagram.messages.length

/-- What holds of the state behind a line; a fault leaves the diagram of such a state. -/
def Outcome (P : State → Prop) : Except Stop State → Prop
  | .ok t => P t
  | .error stop => ∃ t, P t ∧ t.diagram = stop.diagram

section
variable {origin : Diagram} {s t : State}

theorem Outcome.stop {P : State → Prop} (h : P s) (fault : Fault) : Outcome P (s.stop fault) :=
  ⟨s, h, rfl⟩

/-! ### What keeps a state sound -/

theorem State.Sound.mono (h : s.Sound origin) (hgrows : s.diagram.Grows t.diagram)
    (hfailure : t.diagram.failure = s.diagram.failure) (hregistered : t.diagram.Registered)
    (houtline : t.diagram.outline = s.diagram.outline)
    (hstack : t.stack = s.stack)
    (hnote : ∀ n ∈ t.note, ∀ i ∈ n.afterMessage, i < t.diagram.messages.length) :
    t.Sound origin := by
  have hplaces := places_congr houtline hstack
  refine ⟨h.grows.trans hgrows, hfailure.trans h.failure, hregistered,
    h.orderly.congr houtline hstack, ?_, ?_, hnote⟩
  · intro p hp
    exact hgrows.refers (h.refers p (hplaces ▸ hp))
  · rw [hplaces]
    exact h.sorted

theorem State.Sound.congr (h : s.Sound origin) (hdiagram : t.diagram = s.diagram)
    (hstack : t.stack = s.stack)
    (hnote : ∀ n ∈ t.note, ∀ i ∈ n.afterMessage, i < t.diagram.messages.length) :
    t.Sound origin :=
  h.mono (hdiagram ▸ .refl _) (congrArg _ hdiagram) (hdiagram ▸ h.registered) (congrArg _ hdiagram)
    hstack hnote

theorem State.Sound.registers {d : Diagram} (h : s.Sound origin) (hd : s.diagram.Registers d) :
    ({ s with diagram := d } : State).Sound origin := by
  obtain ⟨ps, rfl⟩ := hd.same
  exact h.mono hd.grows rfl (h.registered.registers hd) rfl rfl h.note

/-- The title, the options and the groups refer to nothing that has to be kept. -/
theorem State.Sound.describe (h : s.Sound origin)
    (hparticipants : t.diagram.participants = s.diagram.participants)
    (hmessages : t.diagram.messages = s.diagram.messages)
    (hsections : t.diagram.sections = s.diagram.sections)
    (houtline : t.diagram.outline = s.diagram.outline)
    (hfailure : t.diagram.failure = s.diagram.failure) (hstack : t.stack = s.stack)
    (hnote : t.note = s.note) : t.Sound origin := by
  refine h.mono (.of_eq hparticipants hmessages hsections houtline) hfailure
    (h.registered.congr hparticipants hmessages) houtline hstack ?_
  rw [hnote, hmessages]
  exact h.note

theorem failure_append (s : State) (o : Outline) :
    (s.append o).diagram.failure = s.diagram.failure := by
  unfold State.append
  split <;> rfl

theorem grows_append (s : State) (o : Outline) : s.diagram.Grows (s.append o).diagram := by
  unfold State.append
  split
  · exact Diagram.grows_extend s.diagram o
  · exact .refl _

theorem registered_append (h : s.diagram.Registered) (o : Outline) :
    (s.append o).diagram.Registered := by
  unfold State.append
  split
  · exact h.congr rfl rfl
  · exact h

/-- An entry that refers to what the diagram holds is added behind all others. -/
theorem State.Sound.append (h : s.Sound origin) {e : Entry} (he : e.branch? = none)
    (hrefers : (Item.entry e).Refers s.diagram)
    (hlast : ∀ m ∈ (Item.entry e).message?, ∀ p ∈ s.places, ∀ n ∈ p.item.message?,
      n.index < m.index) : (s.append e.alone).Sound origin := by
  have hgrows := grows_append s e.alone
  have hplaces : (s.append e.alone).places = s.places ++ [⟨.entry e, s.path⟩] := by
    rw [places_append, places_alone he]
  refine ⟨h.grows.trans hgrows, (failure_append s _).trans h.failure,
    registered_append h.registered _, h.orderly.append (orderly_alone e) (branches_alone he),
    ?_, ?_, ?_⟩
  · intro p hp
    rw [hplaces, List.mem_append, List.mem_singleton] at hp
    rcases hp with hp | rfl
    · exact hgrows.refers (h.refers p hp)
    · exact hgrows.refers hrefers
  · rw [hplaces, List.filterMap_append, List.pairwise_append]
    refine ⟨h.sorted, ?_, ?_⟩
    · cases hm : (Item.entry e).message? <;> simp [hm]
    · intro n hn m hm
      obtain ⟨p, hp, hpn⟩ := List.mem_filterMap.mp hn
      obtain ⟨q, hq, hqm⟩ := List.mem_filterMap.mp hm
      obtain rfl := List.mem_singleton.mp hq
      exact hlast m hqm p hp n hpn
  · intro n hn
    rw [note_of_besides (besides_append s (o := e.alone))] at hn
    rw [(lists_of_besides (besides_append s (o := e.alone))).1]
    exact h.note n hn

theorem State.Sound.closeBlock (h : s.Sound origin) : s.closeBlock.Sound origin := by
  have hbesides := besides_closeBlock s
  obtain ⟨hgrows, hfailure, hregistered⟩ : s.diagram.Grows s.closeBlock.diagram ∧
      s.closeBlock.diagram.failure = s.diagram.failure ∧ s.closeBlock.diagram.Registered := by
    unfold State.closeBlock
    split
    · exact ⟨.refl _, rfl, h.registered⟩
    · next b bs _ =>
        let u : State := { s with stack := bs }
        exact ⟨grows_append u _, failure_append u _, registered_append (s := u) h.registered _⟩
  refine ⟨h.grows.trans hgrows, hfailure.trans h.failure, hregistered, h.orderly.closeBlock,
    ?_, ?_, ?_⟩
  · rw [places_closeBlock]
    exact fun p hp => hgrows.refers (h.refers p hp)
  · rw [places_closeBlock]
    exact h.sorted
  · rw [note_of_besides hbesides, (lists_of_besides hbesides).1]
    exact h.note

theorem State.Sound.closeBlocks (h : s.Sound origin) (indent : Nat) (startsBranch : Bool) :
    (s.closeBlocks indent startsBranch).Sound origin :=
  closeWhile_of_closeBlock (P := State.Sound origin) (fun _ => State.Sound.closeBlock) _ _ h

theorem State.Sound.closeAll (h : s.Sound origin) : s.closeAll.Sound origin :=
  closeWhile_of_closeBlock (P := State.Sound origin) (fun _ => State.Sound.closeBlock) _ _ h

theorem State.Sound.addNote (h : s.Sound origin) (participant : Option String) (side : Side)
    (text : List Char) (line : Nat) {after : Option Nat}
    (hafter : ∀ i ∈ after, i < s.diagram.messages.length) :
    (s.addNote participant side text line after).Sound origin := by
  obtain heq | ⟨id, -, -, hid, heq⟩ := addNote_eq s participant side text line after
  · rw [heq]
    exact h
  · rw [heq]
    exact h.append rfl ⟨Diagram.hasParticipant_iff.mp hid, hafter⟩ (by simp [Item.message?])

theorem State.Sound.closeNote (h : s.Sound origin) : s.closeNote.Sound origin := by
  cases hn : s.note with
  | none => rwa [closeNote_of_none hn]
  | some n =>
      rw [closeNote_of_some hn]
      have hfree : ({ s with note := none } : State).Sound origin := h.congr rfl rfl (by simp)
      exact hfree.addNote _ _ _ _ (h.note n hn)

/-! ### Lines of the head -/

theorem State.Sound.readGroup (h : s.Sound origin) (heading : Heading) (line : Nat) :
    Outcome (State.Sound origin) (s.readGroup heading line) := by
  unfold State.readGroup
  split
  · exact .stop h _
  · split
    · exact .stop h _
    · dsimp only
      split
      · exact h.describe rfl rfl rfl rfl rfl rfl rfl
      · exact h.describe rfl rfl rfl rfl rfl rfl rfl

theorem State.Sound.readOption (h : s.Sound origin) (key : String) (value : List Char) :
    Outcome (State.Sound origin) (s.readOption key value) := by
  unfold State.readOption
  dsimp only
  split
  · split
    · exact h.describe rfl rfl rfl rfl rfl rfl rfl
    · exact .stop h _
  · split
    · exact .stop h _
    · split
      · exact h.describe rfl rfl rfl rfl rfl rfl rfl
      · exact h.describe rfl rfl rfl rfl rfl rfl rfl

theorem State.Sound.joinGroup (h : s.Sound origin) (id : String) :
    Outcome (State.Sound origin) (s.joinGroup id) := by
  unfold State.joinGroup
  split
  · exact h
  · split
    · split
      · exact h
      · exact .stop h _
    · exact h.describe rfl rfl rfl rfl rfl rfl rfl

theorem State.Sound.readDeclaration (h : s.Sound origin) (decl : Declaration) (line : Nat) :
    Outcome (State.Sound origin) (s.readDeclaration decl line) :=
  (h.registers (Diagram.registers_addParticipant _ _)).joinGroup _

theorem State.Sound.readPosition (h : s.Sound origin) (id : List Char) (n : Int) (line : Nat) :
    Outcome (State.Sound origin) (s.readPosition id n line) :=
  (h.registers (Diagram.registers_addParticipant _ _)).joinGroup _

theorem State.Sound.readMember (h : s.Sound origin) (id : List Char) (line : Nat) :
    Outcome (State.Sound origin) (s.readMember id line) :=
  (h.registers (Diagram.registers_ensureParticipant _ _ _ _)).joinGroup _

/-! ### Lines of content -/

theorem State.Sound.readSection (h : s.Sound origin) (heading : Heading) (indent line : Nat) :
    Outcome (State.Sound origin) (s.readSection heading indent line) := by
  unfold State.readSection
  split
  · exact .stop h _
  · have hclosed := h.closeBlocks indent false
    dsimp only
    generalize s.closeBlocks indent false = c at hclosed ⊢
    let divider : Section := ⟨String.ofList heading.label, heading.color.map String.ofList, line,
      c.diagram.messages.length⟩
    let u : State := { c with
      diagram := { c.diagram with sections := c.diagram.sections ++ [divider] }
      hasContent := true }
    have hgrows : c.diagram.Grows u.diagram :=
      ⟨List.prefix_rfl, List.prefix_rfl, List.prefix_append _ _, .empty,
        (Outline.append_empty _).symm⟩
    have hu : u.Sound origin :=
      hclosed.mono hgrows rfl (hclosed.registered.congr rfl rfl) rfl rfl hclosed.note
    exact hu.append (e := .section divider) rfl trivial (by simp [Item.message?])

theorem State.Sound.index_lt (h : s.Sound origin) {p : Place} (hp : p ∈ s.places) {m : Message}
    (hm : p.item.message? = some m) : m.index < s.diagram.messages.length := by
  have hrefers := h.refers p hp
  obtain ⟨i, path⟩ := p
  rcases i with (n | _ | _ | _) | _ <;>
    simp only [Item.message?, Option.some.injEq, reduceCtorEq] at hm
  subst hm
  exact (List.getElem?_eq_some_iff.mp hrefers).1

/-- A message goes to the list, with its ends registered, and to the outline. -/
theorem State.Sound.addMessage (h : s.Sound origin) {m : Message}
    (hm : m.index = s.diagram.messages.length) :
    (({ s with diagram := s.diagram.addMessage m } : State).append
      (Entry.message m).alone).Sound origin := by
  have hgrows := Diagram.grows_addMessage s.diagram m
  have hmessages : (s.diagram.addMessage m).messages = s.diagram.messages ++ [m] := by
    rw [Diagram.messages_addMessage, ← hm]
  have hu : ({ s with diagram := s.diagram.addMessage m } : State).Sound origin := by
    refine h.mono hgrows (Diagram.failure_addMessage _ m) (h.registered.addMessage m)
      (Diagram.outline_addMessage _ m) rfl ?_
    exact fun n hn i hi => (h.note n hn i hi).trans_le hgrows.messages.length_le
  have hplaces : ({ s with diagram := s.diagram.addMessage m } : State).places = s.places :=
    places_congr (Diagram.outline_addMessage _ m) rfl
  refine hu.append rfl ?_ ?_
  · show (s.diagram.addMessage m).messages[m.index]? = some m
    rw [hmessages, hm, List.getElem?_concat_length]
  · rintro _ ⟨rfl⟩ p hp n hn
    rw [hm]
    exact h.index_lt (hplaces ▸ hp) hn

theorem State.Sound.readMessage (h : s.Sound origin) (statement : Statement) (line : Nat) :
    (s.readMessage statement line).Sound origin := by
  have hreg := (Diagram.registers_ensureParticipant s.diagram (String.ofList statement.sender)
    (inferKind statement.sender) line).trans (Diagram.registers_ensureParticipant _
      (String.ofList statement.receiver) (inferKind statement.receiver) line)
  unfold State.readMessage
  dsimp only
  generalize ((s.diagram.ensureParticipant (String.ofList statement.sender)
    (inferKind statement.sender) line).ensureParticipant (String.ofList statement.receiver)
      (inferKind statement.receiver) line) = d at hreg ⊢
  let u : State := { s with
    diagram := d, hasContent := true, lastSender := some (String.ofList statement.sender) }
  have hu : u.Sound origin := (h.registers hreg).describe rfl rfl rfl rfl rfl rfl rfl
  exact State.Sound.addMessage (s := u) hu rfl

/-- What a line adds besides messages and notes refers to nothing. -/
theorem State.Sound.extend {line : Nat} {p : Place} (h : s.Sound origin)
    (hext : Extends s t line (some p)) (hdiagram : t.diagram = s.diagram)
    (hnote : t.note = s.note) (hrefers : p.item.Refers s.diagram)
    (hmessage : p.item.message? = none) : t.Sound origin := by
  have hplaces : t.places = s.places ++ [p] := hext.places
  refine ⟨hdiagram ▸ h.grows, hdiagram ▸ h.failure, hdiagram ▸ h.registered,
    hext.orderly h.orderly, ?_, ?_, ?_⟩
  · rw [hplaces, hdiagram]
    intro q hq
    rcases List.mem_append.mp hq with hq | hq
    · exact h.refers q hq
    · exact List.mem_singleton.mp hq ▸ hrefers
  · simp only [hplaces, List.filterMap_append, List.filterMap_cons, hmessage, List.filterMap_nil,
      List.append_nil]
    exact h.sorted
  · rw [hnote, hdiagram]
    exact h.note

theorem State.Sound.openBlock (h : s.Sound origin) (head : BlockHead) (indent : Nat) :
    ({ s with stack := ⟨head, indent, .empty, false⟩ :: s.stack, hasContent := true } :
      State).Sound origin :=
  h.extend (Extends.openBlock s head indent) rfl rfl trivial rfl

theorem State.Sound.readBranch (h : s.Sound origin) (label : Option (List Char))
    (indent line : Nat) : Outcome (State.Sound origin) (s.readBranch label indent line) := by
  have hcontent : ({ s with hasContent := true } : State).Sound origin :=
    h.describe rfl rfl rfl rfl rfl rfl rfl
  unfold State.readBranch
  dsimp only
  split
  · exact hcontent
  · next b bs hs =>
      split
      · exact hcontent
      · split
        · exact .stop hcontent _
        · exact hcontent
        · split
          · exact hcontent
          · next helse =>
              have hext := Extends.addBranch hs (Bool.not_eq_true _ ▸ helse)
                ⟨label.map String.ofList, line⟩
              simp only [Branch.isElse, Option.isNone_map] at hext
              exact h.extend hext rfl rfl trivial rfl

theorem lt_of_mem_last {count i : Nat}
    (h : i ∈ (match count with | 0 => none | n + 1 => some n : Option Nat)) : i < count := by
  cases count with
  | zero => exact absurd h (Option.not_mem_none i)
  | succ n =>
      obtain rfl := Option.some.inj h
      exact Nat.lt_succ_self n

theorem State.Sound.readNote (h : s.Sound origin) (header : NoteHeader) (indent line : Nat) :
    (s.readNote header indent line).Sound origin := by
  have hcontent : ({ s with hasContent := true } : State).Sound origin :=
    h.describe rfl rfl rfl rfl rfl rfl rfl
  unfold State.readNote
  dsimp only
  split
  · exact hcontent.addNote _ _ _ _ fun _ hi => lt_of_mem_last hi
  · exact hcontent.congr rfl rfl (by rintro _ ⟨rfl⟩; exact fun _ hi => lt_of_mem_last hi)

theorem State.Sound.readContent (h : s.Sound origin) (content : Content) (indent line : Nat) :
    Outcome (State.Sound origin) (s.readContent content indent line) := by
  cases content with
  | asyncKeyword => exact .stop h _
  | message statement => exact h.readMessage statement line
  | block kind label => exact h.openBlock _ indent
  | branch label => exact h.readBranch label indent line
  | note header => exact h.readNote header indent line
  | other => exact h

/-! ### Along a reading -/

theorem State.Sound.readForm (h : s.Sound origin) (form : Line) (text : List Char)
    (indent line : Nat) : Outcome (State.Sound origin) (s.readForm form text indent line) := by
  cases form with
  | blank => exact h.describe rfl rfl rfl rfl rfl rfl rfl
  | group heading => exact h.readGroup heading line
  | comment => exact h
  | hash => exact .stop h _
  | «section» heading => exact h.readSection heading indent line
  | option key value => exact h.readOption key value
  | declaration decl => exact h.readDeclaration decl line
  | position id n => exact h.readPosition id n line
  | member id => exact h.readMember id line
  | content c => exact (h.closeBlocks indent _).readContent c indent line

theorem State.Sound.readPlain (h : s.Sound origin) (raw : List Char) (line : Nat) :
    Outcome (State.Sound origin) (s.readPlain raw line) := by
  unfold State.readPlain
  dsimp only
  split
  · have hgroup : ({ s with group := none } : State).Sound origin :=
      h.describe rfl rfl rfl rfl rfl rfl rfl
    exact hgroup.readForm _ _ _ line
  · exact h.readForm _ _ _ line

/-- Each line keeps the state sound, or leaves the diagram of a sound state. -/
theorem State.Sound.readLine (h : s.Sound origin) (raw : List Char) (line : Nat) :
    Outcome (State.Sound origin) (s.readLine raw line) := by
  unfold State.readLine
  split
  · exact h.readPlain raw line
  · next n hn =>
      split
      · next m hm =>
          have hafter : m.afterMessage = n.afterMessage := by
            unfold OpenNote.collect? at hm
            dsimp only at hm
            split at hm
            · rw [← Option.some.inj hm]
            · simp at hm
          refine h.congr rfl rfl ?_
          rintro _ ⟨rfl⟩
          rw [hafter]
          exact h.note n hn
      · exact h.closeNote.readPlain raw line

/-- What each line keeps holds at the end of the lines; at the first one at fault, it holds of a
state with the diagram that is left. -/
theorem Outcome.readLines {P : State → Prop}
    (hstep : ∀ s raw line, P s → Outcome P (s.readLine raw line)) (h : P s) (line : Nat)
    (lines : List (List Char)) :
    (∀ t, s.readLines line lines = .ok t → P t) ∧
      ∀ e d, s.readLines line lines = .error (e, d) → ∃ t : State, P t ∧ t.diagram = d := by
  induction lines generalizing s line with
  | nil =>
      refine ⟨fun t ht => ?_, fun e d hd => ?_⟩
      · exact Except.ok.inj ht ▸ h
      · simp [State.readLines] at hd
  | cons raw rest ih =>
      have hline := hstep s raw line h
      rw [State.readLines]
      cases hr : s.readLine raw line with
      | ok u =>
          rw [hr] at hline
          exact ih hline (line + 1)
      | error stop =>
          rw [hr] at hline
          obtain ⟨t, ht, hdiagram⟩ := hline
          refine ⟨fun _ hok => by simp at hok, ?_⟩
          rintro _ _ ⟨rfl⟩
          exact ⟨t, ht, hdiagram⟩

theorem State.Sound.readLines (h : s.Sound origin) (line : Nat) (lines : List (List Char)) :
    (∀ t, s.readLines line lines = .ok t → t.Sound origin) ∧
      ∀ e d, s.readLines line lines = .error (e, d) →
        ∃ t : State, t.Sound origin ∧ t.diagram = d :=
  Outcome.readLines (fun _ raw line h => State.Sound.readLine h raw line) h line lines

end

end Lifeline.Reader

namespace Lifeline

open Reader

variable {d : Diagram}

theorem Outline.pairwise_places {o : Outline} {R : Message → Message → Prop} :
    ((places [] o).filterMap fun p => p.item.message?).Pairwise R ↔ o.messages.Pairwise R := by
  rw [← messages_eq_filterMap_places]

theorem Diagram.Sound.start (h : d.Sound) : (State.start d).Sound d := by
  have hplaces : (State.start d).places = Outline.places [] d.outline := List.append_nil _
  refine ⟨.refl d, rfl, h.registered, ⟨h.orderly, h.top, ?_, ?_⟩, ?_, ?_, ?_⟩
  · simp [State.start]
  · simp [State.start]
  · rw [hplaces]
    exact h.refers
  · rw [hplaces]
    exact Outline.pairwise_places.mpr h.sorted
  · simp [State.start]

/-- What is in the diagram of a sound state comes first among all that has been read. -/
theorem Diagram.Sound.of_state {s : State} (h : s.Sound d) : s.diagram.Sound := by
  have hplaces : s.places = Outline.places [] s.diagram.outline ++ stackPlaces s.stack := rfl
  refine ⟨h.registered, h.orderly.outline, h.orderly.top, ?_, ?_⟩
  · exact fun p hp => h.refers p (hplaces ▸ List.mem_append_left _ hp)
  · have hsorted := h.sorted
    rw [hplaces, List.filterMap_append, List.pairwise_append] at hsorted
    exact Outline.pairwise_places.mp hsorted.1

/-- **Reading keeps a diagram in order, however it ends.** A text is read into a diagram by adding
to it, up to the end or to the first line at fault, and what is left is in order. -/
theorem Diagram.Sound.read (h : d.Sound) (text : List Char) :
    (d.read text).2.Sound ∧ d.Grows (d.read text).2 := by
  obtain ⟨hok, herror⟩ := h.start.readLines 1 (Text.lines text)
  have hleft : ∀ {s : State} (failure : Option ReadError), s.Sound d →
      ({ s.diagram with failure := failure } : Diagram).Sound ∧
        d.Grows { s.diagram with failure := failure } := by
    intro s failure hs
    have hgrows : s.diagram.Grows { s.diagram with failure := failure } :=
      .of_eq rfl rfl rfl rfl
    exact ⟨(Diagram.Sound.of_state hs).mono hgrows (hs.registered.congr rfl rfl) rfl,
      hs.grows.trans hgrows⟩
  unfold Diagram.read
  split
  · next error e heq =>
      obtain ⟨t, ht, rfl⟩ := herror error e heq
      exact hleft _ ht
  · next s heq =>
      have hfinish : s.finish.Sound d := (hok s heq).closeNote.closeAll
      dsimp only
      split
      · exact hleft _ hfinish
      · exact ⟨.of_state hfinish, hfinish.grows⟩

theorem Diagram.Sound.failure_of_read (h : d.Sound) {text : List Char} {e : Diagram}
    (hread : d.read text = (none, e)) : e.failure = d.failure := by
  obtain ⟨hok, -⟩ := h.start.readLines 1 (Text.lines text)
  unfold Diagram.read at hread
  split at hread
  · simp at hread
  · next s heq =>
      dsimp only at hread
      split at hread
      · simp at hread
      · have hfinish : s.finish.Sound d := (hok s heq).closeNote.closeAll
        obtain ⟨-, rfl⟩ := Prod.mk.inj hread
        exact hfinish.failure

end Lifeline
