import Lifeline.Proofs.Reader.Membership
import Lifeline.Proofs.Reader.Signs
import Lifeline.Proofs.Syntax.Names
import Lifeline.Proofs.Text.Front

/-! # Who is a participant

A name comes into a diagram as the sender of a message, by a declaration, by a position, or as the
member of a group. Each of these lines takes other names: messages take those of letters and numbers
of any kind, declarations and positions those of word characters, and groups only those that begin
like a key. -/

namespace Lifeline

/-! ### Names that are recorded -/

namespace Diagram

variable {d : Diagram} {id : String}

theorem mem_ids_addParticipant {p : Participant} (h : id ∈ (d.addParticipant p).ids) :
    id ∈ d.ids ∨ id = p.id := by
  by_cases hp : p.id ∈ d.ids
  · refine Or.inl ?_
    rw [ids, participants_addParticipant_of_mem hp, List.map_map] at h
    obtain ⟨q, hq, rfl⟩ := List.mem_map.mp h
    refine List.mem_map.mpr ⟨q, hq, ?_⟩
    by_cases hid : q.id = p.id <;> simp [hid, Participant.update]
  · rw [ids, participants_addParticipant_of_not_mem hp, List.map_append, List.mem_append] at h
    exact h.imp_right List.mem_singleton.mp

theorem mem_ids_record {m : Mention} (h : id ∈ (d.record m).ids) : id ∈ d.ids ∨ id = m.name := by
  obtain ⟨line, saying⟩ := m
  cases saying with
  | declares declaration => exact mem_ids_addParticipant h
  | places name n =>
      refine (mem_ids_addParticipant h).imp_right fun hid => hid.trans ?_
      show ((d.participant? (String.ofList name)).getD _).id = String.ofList name
      cases hfound : d.participant? (String.ofList name) with
      | none => rfl
      | some q => simpa using List.find?_some hfound
  | names name =>
      by_cases hname : String.ofList name ∈ d.ids
      · have hsame : d.record ⟨line, .names name⟩ = d := ensureParticipant_of_mem hname _ _
        exact Or.inl (hsame ▸ h)
      · rw [ids, record, participants_ensureParticipant_of_not_mem hname, List.map_append,
          List.mem_append] at h
        exact h.imp_right List.mem_singleton.mp

theorem mem_ids_foldl_record {mentions : List Mention}
    (h : id ∈ (mentions.foldl record d).ids) : id ∈ d.ids ∨ id ∈ mentions.map Mention.name := by
  induction mentions generalizing d with
  | nil => exact Or.inl h
  | cons m rest ih =>
      rw [List.map_cons, List.mem_cons]
      rcases ih h with hid | hid
      · exact (mem_ids_record hid).imp_right Or.inl
      · exact Or.inr (Or.inr hid)

end Diagram

namespace Reader

open Lifeline.Syntax (Content Line Statement isIdChar isKeyStart isMemberLine isNameChar)

/-! ### The four lines -/

section
variable (s : State) (line : Nat) (name : List Char)

/-- In the state `s` the line `name -> Z` states a message of the name. -/
def State.Sends : Prop :=
  ∃ t m, s.readLine (name ++ " -> Z".toList) line = .ok t ∧
    t.diagram.messages = s.diagram.messages ++ [m] ∧ m.sender = String.ofList name

/-- The line `name is a service` declares a participant of the name. -/
def State.Declares : Prop :=
  ∃ t p, s.readLine (name ++ " is a service".toList) line = .ok t ∧
    p ∈ t.diagram.participants ∧ p.id = String.ofList name ∧ p.kind = .service

/-- The line `name position 0` gives a participant of the name the first position. -/
def State.Moves : Prop :=
  ∃ t p, s.readLine (name ++ " position 0".toList) line = .ok t ∧
    p ∈ t.diagram.participants ∧ p.id = String.ofList name ∧ p.position = some 0

/-- The name, indented on a line of its own, becomes a member of the group that is listed. -/
def State.Enlists : Prop :=
  ∃ t i g, s.readLine ("  ".toList ++ name) line = .ok t ∧ s.group = some i ∧
    t.diagram.groups[i]? = some g ∧ String.ofList name ∈ g.members

end

section
variable {s t : State} {line indent : Nat} {name tail : List Char}

/-! ### Lines that are read -/

theorem joinGroup_of_none (h : s.group = none) (id : String) : s.joinGroup id = .ok s := by
  rw [State.joinGroup, h]

theorem exists_joinGroup {i : Nat} {id : String} (h : s.group = some i)
    (hi : i < s.diagram.groups.length) (hnew : id ∉ s.joined) :
    ∃ t g, s.joinGroup id = .ok t ∧ t.diagram.groups[i]? = some g ∧ id ∈ g.members := by
  have hfind : s.membership.find? (fun m => m.1 == id) = none := by
    rw [List.find?_eq_none]
    intro m hm hid
    exact hnew (List.mem_map.mpr ⟨m, hm, by simpa using hid⟩)
  let joined : Group :=
    { s.diagram.groups[i] with members := s.diagram.groups[i].members ++ [id] }
  rw [State.joinGroup, h, hfind]
  refine ⟨_, joined, rfl, ?_, by simp [joined]⟩
  dsimp only
  rw [List.getElem?_modify_eq, List.getElem?_eq_getElem hi]
  rfl

theorem exists_readMember {i : Nat} (h : s.group = some i) (hi : i < s.diagram.groups.length)
    (hnew : String.ofList name ∉ s.joined) (line : Nat) :
    ∃ t g, s.readMember name line = .ok t ∧ t.diagram.groups[i]? = some g ∧
      String.ofList name ∈ g.members := by
  obtain ⟨ps, hps⟩ := ensureParticipant_eq s.diagram (String.ofList name) (inferKind name) line
  rw [State.readMember, hps]
  exact exists_joinGroup (s := { s with diagram := { s.diagram with participants := ps } }) h hi
    hnew

theorem messages_readMessage (s : State) (statement : Statement) (line : Nat) :
    ∃ m : Message, (s.readMessage statement line).diagram.messages = s.diagram.messages ++ [m] ∧
      m.sender = String.ofList statement.sender := by
  obtain ⟨ps, hps⟩ := ensureParticipant_eq s.diagram (String.ofList statement.sender)
    (inferKind statement.sender) line
  obtain ⟨qs, hqs⟩ := ensureParticipant_eq { s.diagram with participants := ps }
    (String.ofList statement.receiver) (inferKind statement.receiver) line
  unfold State.readMessage
  dsimp only
  rw [hps, hqs, (lists_of_besides (besides_append _)).1]
  dsimp only
  rw [Diagram.messages_addMessage]
  exact ⟨_, rfl, rfl⟩

theorem names_mentions {r : Row} {form : Line} (hrole : r.role = .form form) :
    r.mentions.map Mention.name = form.names.map String.ofList := by
  unfold Row.mentions
  rw [hrole]
  cases form with
  | content c => cases c <;> rfl
  | _ => rfl

/-- Whom a line newly registers, it mentions. -/
theorem mem_names_of_readLine {raw : List Char} {form : Line} (hrole : s.scan.role raw = .form form)
    (ht : s.readLine raw line = .ok t) (hfresh : String.ofList name ∉ s.diagram.ids)
    (hmem : String.ofList name ∈ t.diagram.ids) : name ∈ form.names := by
  have hparticipants := participants_readLine ht
  rw [Diagram.ids, hparticipants] at hmem
  have hname := (Diagram.mem_ids_foldl_record hmem).resolve_left hfresh
  rw [names_mentions hrole] at hname
  obtain ⟨other, hother, heq⟩ := List.mem_map.mp hname
  rwa [← String.ofList_injective heq]

theorem messages_ready (s : State) (indent : Nat) :
    (s.ready indent).diagram.messages = s.diagram.messages :=
  congrArg Prod.snd (signs_ready s indent)

theorem exists_readForm_message (s : State) (statement : Statement) (text : List Char)
    (indent line : Nat) : ∃ t m,
      s.readForm (.content (.message statement)) text indent line = .ok t ∧
      t.diagram.messages = s.diagram.messages ++ [m] ∧
      m.sender = String.ofList statement.sender := by
  have hclosed := (lists_of_besides (besides_closeBlocks s indent (Syntax.startsBranch text))).1
  obtain ⟨m, hm, hsender⟩ := messages_readMessage
    (s.closeBlocks indent (Syntax.startsBranch text)) statement line
  exact ⟨_, m, rfl, by rw [hm, hclosed], hsender⟩

theorem exists_of_messages {form : Line} {text : List Char} {m : Message}
    (ht : s.readForm form text indent line = .ok t)
    (hm : t.diagram.messages = s.diagram.messages ++ [m]) :
    ∃ statement, form = .content (.message statement) ∧
      String.ofList statement.sender = m.sender := by
  have hnew : t.diagram.messages ≠ s.diagram.messages := by
    rw [hm]
    simp
  obtain hsame | ⟨value, rfl, -⟩ | ⟨statement, rfl⟩ := signs_readForm ht
  · exact absurd (congrArg Prod.snd hsame) hnew
  · have ht : s.readOption "chart" value = .ok t := ht
    obtain ⟨-, -, rfl⟩ | ⟨title, options, rfl⟩ := readOption_ok ht <;> exact absurd rfl hnew
  · refine ⟨statement, rfl, ?_⟩
    obtain ⟨u, n, hu, hn, hsender⟩ := exists_readForm_message s statement text indent line
    obtain rfl := Except.ok.inj (hu.symm.trans ht)
    rw [hn] at hm
    rw [← hsender, List.singleton_inj.mp (List.append_cancel_left hm)]

theorem mem_names_of_member {form : Line} (h : Line.member? form = some (String.ofList name)) :
    name ∈ form.names := by
  have hname : ∀ other : List Char, some (String.ofList other) = some (String.ofList name) →
      name ∈ [other] := fun other heq =>
    List.mem_singleton.mpr (String.ofList_injective (Option.some.inj heq)).symm
  cases form with
  | declaration d => exact hname d.id h
  | position id n => exact hname id h
  | member id => exact hname id h
  | _ => cases h

/-- A line that is not indented describes a new participant: the members of a group are listed no
more, so nobody is refused. -/
theorem exists_fresh_of_describes {raw : List Char} {form : Line} {m : Mention}
    (hrole : s.scan.role raw = .form form) (hindent : Syntax.indent raw = 0)
    (hmember : Line.member? form = some m.name)
    (hmentions : Row.mentions ⟨line, Syntax.indent raw, .form form⟩ = [m])
    (hfresh : m.name ∉ s.diagram.ids) :
    ∃ t, s.readLine raw line = .ok t ∧ m.fresh ∈ t.diagram.participants := by
  obtain ⟨-, heq⟩ := readLine_form hrole line
  have hgroup : (s.ready (Syntax.indent raw)).group = none := by
    have h := congrArg State.group (besides_ready s (Syntax.indent raw))
    rw [hindent] at h ⊢
    exact h
  have hjoin : ∀ d id, ({ s.ready (Syntax.indent raw) with diagram := d } : State).joinGroup id =
      .ok { s.ready (Syntax.indent raw) with diagram := d } :=
    fun d id => joinGroup_of_none (s := { s.ready (Syntax.indent raw) with diagram := d }) hgroup id
  have hread : ∃ t, s.readLine raw line = .ok t := by
    rw [heq]
    cases form with
    | declaration d => exact ⟨_, hjoin _ _⟩
    | position id n => exact ⟨_, hjoin _ _⟩
    | member id => exact ⟨_, hjoin _ _⟩
    | _ => cases hmember
  obtain ⟨t, ht⟩ := hread
  refine ⟨t, ht, ?_⟩
  rw [participants_readLine ht, hrole, hmentions]
  show m.fresh ∈ (s.diagram.record m).participants
  rw [Diagram.participants_record_of_not_mem hfresh]
  simp

theorem indent_of_name (hne : name ≠ []) (hname : ∀ c ∈ name, Unicode.isBlank c = false)
    (tail : List Char) : Syntax.indent (name ++ tail) = 0 := by
  obtain ⟨c, rest, rfl⟩ := List.exists_cons_of_ne_nil hne
  refine Text.indent_cons_of_not ?_ _
  by_contra hspace
  have := hname c List.mem_cons_self
  simp [Unicode.isBlank_of_isSpaceOrTab (by simpa using hspace)] at this

/-- A name that a line without the tip of an arrow mentions has the characters of declared names. -/
theorem isIdChar_of_mem_names {raw : List Char} {inGroup : Bool}
    (h : name ∈ (Line.read inGroup (Text.trim raw)).names) (htip : '>' ∈ raw → '>' ∈ name) :
    name ≠ [] ∧ ∀ c ∈ name, isIdChar c = true := by
  obtain ⟨hne, hall | ⟨hall, hmem⟩⟩ := Syntax.name_of_read h
  · exact ⟨hne, hall⟩
  · obtain ⟨front, behind, hline⟩ := Text.eq_append_trim raw
    have hmem : '>' ∈ raw := by
      rw [hline]
      simp [hmem]
    exact absurd (hall '>' (htip hmem)) (by decide)

/-- A line without an arrow behind the name registers the name only if it can be declared. -/
theorem name_of_readLine (hnote : s.note = none) (htip : '>' ∉ tail)
    (ht : s.readLine (name ++ tail) line = .ok t) (hfresh : String.ofList name ∉ s.diagram.ids)
    (hmem : String.ofList name ∈ t.diagram.ids) :
    name ≠ [] ∧ ∀ c ∈ name, isIdChar c = true :=
  isIdChar_of_mem_names (mem_names_of_readLine (role_of_none hnote _) ht hfresh hmem) fun hraw =>
    (List.mem_append.mp hraw).resolve_right htip

theorem trim_indented (hne : name ≠ []) (hname : ∀ c ∈ name, Unicode.isBlank c = false) :
    Text.trim ("  ".toList ++ name) = name := by
  have htrim : Text.trim (name ++ []) = name ++ [] := Syntax.trim_of_name hne hname rfl
  rw [List.append_nil] at htrim
  rw [Text.trim, Text.trimStart_append_of_blank (List.all_eq_true.mp (by decide))]
  exact htrim

/-! ### Which names the four lines take -/

theorem sends_iff (hnote : s.note = none) : s.Sends line name ↔ name ≠ [] ∧
    (∀ c ∈ name, isNameChar c = true) ∧
      Text.equalsIgnoringCase name "async".toList = false := by
  constructor
  · rintro ⟨t, m, ht, hmessages, hsender⟩
    have hrole := role_of_none hnote (name ++ " -> Z".toList)
    obtain ⟨-, heq⟩ := readLine_form hrole line
    obtain ⟨statement, hform, hstatement⟩ := exists_of_messages (heq ▸ ht)
      (hmessages.trans (congrArg (· ++ [m]) (messages_ready s _).symm))
    exact Syntax.sender_of_read hform (String.ofList_injective (hstatement.trans hsender))
  · rintro ⟨hne, hname, hasync⟩
    have hblank : ∀ c ∈ name, Unicode.isBlank c = false :=
      fun c hc => Syntax.isBlank_of_isNameChar (hname c hc)
    have hrole : s.scan.role (name ++ " -> Z".toList) =
        .form (.content (.message ⟨name, ['Z'], [], false⟩)) := by
      rw [role_of_none hnote, Syntax.trim_of_name hne hblank (by decide),
        Syntax.read_sender hne hname hasync]
    obtain ⟨-, heq⟩ := readLine_form hrole line
    obtain ⟨t, m, ht, hm, hsender⟩ := exists_readForm_message
      (s.ready (Syntax.indent (name ++ " -> Z".toList))) ⟨name, ['Z'], [], false⟩
      (Text.trim (name ++ " -> Z".toList)) (Syntax.indent (name ++ " -> Z".toList)) line
    exact ⟨t, m, heq.trans ht, by rw [hm, messages_ready], hsender⟩

theorem declares_iff (hnote : s.note = none) (hfresh : String.ofList name ∉ s.diagram.ids) :
    s.Declares line name ↔ name ≠ [] ∧ ∀ c ∈ name, isIdChar c = true := by
  constructor
  · rintro ⟨t, p, ht, hp, hid, -⟩
    exact name_of_readLine hnote (by decide) ht hfresh (hid ▸ List.mem_map_of_mem hp)
  · rintro ⟨hne, hname⟩
    have hblank : ∀ c ∈ name, Unicode.isBlank c = false :=
      fun c hc => Syntax.isBlank_of_isIdChar (hname c hc)
    have hrole : s.scan.role (name ++ " is a service".toList) =
        .form (.declaration ⟨name, "service".toList, none, none⟩) := by
      rw [role_of_none hnote, Syntax.trim_of_name hne hblank (by decide),
        Syntax.read_declaration hname hne]
    let m : Mention := ⟨line, .declares ⟨name, "service".toList, none, none⟩⟩
    obtain ⟨t, ht, hmem⟩ := exists_fresh_of_describes (m := m) hrole
      (indent_of_name hne hblank _) rfl rfl hfresh
    have hkind : (ParticipantKind.ofName? (String.ofList "service".toList)).getD .default =
        .service := by decide +kernel
    refine ⟨t, _, ht, hmem, rfl, ?_⟩
    simpa only [Mention.fresh, Mention.declaration?, kindOf] using hkind

theorem moves_iff (hnote : s.note = none) (hfresh : String.ofList name ∉ s.diagram.ids) :
    s.Moves line name ↔ name ≠ [] ∧ ∀ c ∈ name, isIdChar c = true := by
  constructor
  · rintro ⟨t, p, ht, hp, hid, -⟩
    exact name_of_readLine hnote (by decide) ht hfresh (hid ▸ List.mem_map_of_mem hp)
  · rintro ⟨hne, hname⟩
    have hblank : ∀ c ∈ name, Unicode.isBlank c = false :=
      fun c hc => Syntax.isBlank_of_isIdChar (hname c hc)
    have hrole : s.scan.role (name ++ " position 0".toList) = .form (.position name 0) := by
      rw [role_of_none hnote, Syntax.trim_of_name hne hblank (by decide),
        Syntax.read_position hname hne]
    obtain ⟨t, ht, hmem⟩ := exists_fresh_of_describes (m := ⟨line, .places name 0⟩) hrole
      (indent_of_name hne hblank _) rfl rfl hfresh
    exact ⟨t, _, ht, hmem, rfl, rfl⟩

theorem enlists_iff {before : List String} (hnote : s.note = none) (hgroup : s.group.isSome = true)
    (henrolled : s.Enrolled before) (hfresh : String.ofList name ∉ s.diagram.members) :
    s.Enlists line name ↔ isMemberLine name = true := by
  constructor
  · rintro ⟨t, i, g, ht, -, hg, hmem⟩
    have hjoins := Joins.readLine ht
    have hold : String.ofList name ∉ before ++ s.joined := fun hid =>
      hfresh (henrolled.members.mem_iff.mpr hid)
    have hnew : String.ofList name ∈ before ++ t.joined :=
      (hjoins.enrolled henrolled).members.mem_iff.mp
        (List.mem_flatMap.mpr ⟨g, List.mem_of_getElem? hg, hmem⟩)
    rw [List.mem_append, not_or] at hold
    have hjoins := ((hjoins.mem _).mp ((List.mem_append.mp hnew).resolve_left hold.1)).resolve_left
      hold.2
    rw [Scan.joins?, role_of_none hnote] at hjoins
    dsimp only at hjoins
    split at hjoins
    · next hlisted =>
        rw [hlisted] at hjoins
        obtain ⟨hne, hname⟩ := isIdChar_of_mem_names (mem_names_of_member hjoins) (by simp)
        rw [trim_indented hne fun c hc => Syntax.isBlank_of_isIdChar (hname c hc),
          Syntax.read_alone hname hne] at hjoins
        split at hjoins
        · next hmember => exact hmember
        · cases hjoins
    · cases hjoins
  · intro hmember
    obtain ⟨hne, hname⟩ := Syntax.name_of_isMemberLine hmember
    obtain ⟨i, hi⟩ := Option.isSome_iff_exists.mp hgroup
    have hindent : Syntax.indent ("  ".toList ++ name) = Syntax.indent name + 2 := rfl
    have hrole : s.scan.role ("  ".toList ++ name) = .form (.member name) := by
      have hlisted : s.scan.inGroup = true := hgroup
      rw [role_of_none hnote, trim_indented hne fun c hc => Syntax.isBlank_of_isIdChar (hname c hc),
        hindent, hlisted, decide_eq_true (Nat.succ_pos _), Bool.and_self,
        Syntax.read_alone hname hne, if_pos hmember]
    obtain ⟨-, heq⟩ := readLine_form hrole line
    have hready := roster_ready s (Syntax.indent ("  ".toList ++ name))
    rw [hindent, if_neg (Nat.succ_ne_zero _)] at hready
    rw [hindent] at heq
    generalize s.ready (Syntax.indent name + 2) = u at heq hready
    have hu : u.group = some i := (congrArg Roster.group hready).trans hi
    have hgroups : u.diagram.groups = s.diagram.groups := congrArg Roster.groups hready
    have hjoined : u.joined = s.joined :=
      congrArg (fun r : Roster => r.membership.map Prod.fst) hready
    have hnew : String.ofList name ∉ s.joined := fun hid =>
      hfresh (henrolled.members.mem_iff.mpr (List.mem_append_right _ hid))
    obtain ⟨t, g, ht, hg, hmem⟩ :=
      exists_readMember hu (hgroups ▸ henrolled.group i hi) (hjoined ▸ hnew) line
    exact ⟨t, i, g, heq.trans ht, hi, hg, hmem⟩

theorem isMemberLine_iff (hne : name ≠ []) : isMemberLine name = true ↔
    (∀ c ∈ name, isIdChar c = true) ∧ ∀ c ∈ name.head?, isKeyStart c = true := by
  obtain ⟨c, rest, rfl⟩ := List.exists_cons_of_ne_nil hne
  constructor
  · intro h
    refine ⟨Syntax.isIdChar_of_isMemberLine h, ?_⟩
    rintro _ ⟨rfl⟩
    simp_all [isMemberLine]
  · rintro ⟨hall, hhead⟩
    have hc := hhead c rfl
    simp_all [isMemberLine]

/-- **Which names the lines take.** While the members of a group are listed, let a name be new to
the participants and to the groups. It is the sender of a message `name -> Z` if it consists of
letters, numbers, underscores, dots and hyphens and is not the word `async`; it is declared and
given a position if it consists of word characters, dots and hyphens; and it becomes a member of the
group if it also begins with a letter from A to Z or an underscore. So the four lines agree about a
name other than `async` exactly where the two kinds of characters agree about it and a name that is
declared begins like a key. -/
theorem names_taken {before : List String} (hnote : s.note = none)
    (hgroup : s.group.isSome = true) (henrolled : s.Enrolled before)
    (hfresh : String.ofList name ∉ s.diagram.ids)
    (hmember : String.ofList name ∉ s.diagram.members) (line : Nat) :
    (s.Sends line name ↔ name ≠ [] ∧ (∀ c ∈ name, isNameChar c = true) ∧
        Text.equalsIgnoringCase name "async".toList = false) ∧
      (s.Declares line name ↔ name ≠ [] ∧ ∀ c ∈ name, isIdChar c = true) ∧
      (s.Moves line name ↔ name ≠ [] ∧ ∀ c ∈ name, isIdChar c = true) ∧
      (s.Enlists line name ↔ name ≠ [] ∧ (∀ c ∈ name, isIdChar c = true) ∧
        ∀ c ∈ name.head?, isKeyStart c = true) ∧
      (name ≠ [] → Text.equalsIgnoringCase name "async".toList = false →
        (((s.Sends line name ↔ s.Declares line name) ∧
            (s.Declares line name ↔ s.Moves line name) ∧
            (s.Moves line name ↔ s.Enlists line name)) ↔
          ((∀ c ∈ name, isNameChar c = true) ↔ ∀ c ∈ name, isIdChar c = true) ∧
            ((∀ c ∈ name, isIdChar c = true) → ∀ c ∈ name.head?, isKeyStart c = true))) := by
  have henlists : s.Enlists line name ↔ name ≠ [] ∧ (∀ c ∈ name, isIdChar c = true) ∧
      ∀ c ∈ name.head?, isKeyStart c = true := by
    rw [enlists_iff hnote hgroup henrolled hmember]
    by_cases hne : name = []
    · subst hne
      simp [isMemberLine]
    · rw [isMemberLine_iff hne]
      simp [hne]
  refine ⟨sends_iff hnote, declares_iff hnote hfresh, moves_iff hnote hfresh, henlists, ?_⟩
  intro hne hasync
  rw [sends_iff hnote, declares_iff hnote hfresh, moves_iff hnote hfresh, henlists]
  simp only [hne, hasync, ne_eq, not_false_eq_true, true_and, and_true, iff_self_and]

/-- The state behind the heading of a group. -/
def listing : State :=
  { State.start { Diagram.empty with groups := [⟨"Back", none, [], 1⟩] } with group := some 0 }

theorem enrolled_listing : listing.Enrolled [] :=
  ⟨List.Perm.refl _, List.nodup_nil, fun _ hi => Option.some.inj hi ▸ Nat.one_pos⟩

theorem names_taken_listing :
    ((State.start .empty).readLine "## Back".toList 1).toOption = some listing ∧
      listing.Sends 2 "Api-1.x".toList ∧ listing.Declares 2 "Api-1.x".toList ∧
      listing.Moves 2 "Api-1.x".toList ∧ listing.Enlists 2 "Api-1.x".toList := by
  have hfresh : String.ofList "Api-1.x".toList ∉ listing.diagram.ids := by decide
  obtain ⟨hsends, hdeclares, hmoves, henlists, -⟩ :=
    names_taken rfl rfl enrolled_listing hfresh (by decide) 2
  have hid : ∀ c ∈ "Api-1.x".toList, isIdChar c = true := List.all_eq_true.mp (by decide)
  have hname : ∀ c ∈ "Api-1.x".toList, isNameChar c = true :=
    List.all_eq_true.mp (by decide)
  have hhead : ∀ c ∈ "Api-1.x".toList.head?, isKeyStart c = true :=
    (Option.all_eq_true _ _).mp (by decide)
  exact ⟨by decide, hsends.mpr ⟨by decide, hname, by decide⟩, hdeclares.mpr ⟨by decide, hid⟩,
    hmoves.mpr ⟨by decide, hid⟩, henlists.mpr ⟨by decide, hid, hhead⟩⟩

/-- The four lines disagree: about names that begin with a digit, about numbers that are no digits,
and about letters with a combining mark. -/
theorem names_differ :
    (listing.Sends 2 "1A".toList ∧ listing.Declares 2 "1A".toList ∧ listing.Moves 2 "1A".toList ∧
        ¬listing.Enlists 2 "1A".toList) ∧
      (listing.Sends 2 "x²".toList ∧ ¬listing.Declares 2 "x²".toList) ∧
      listing.Declares 2 "e\u0301".toList ∧ ¬listing.Sends 2 "e\u0301".toList := by
  have henlists : listing.Enlists 2 "1A".toList ↔ isMemberLine "1A".toList = true :=
    enlists_iff rfl rfl enrolled_listing (by decide)
  have hid : ∀ c ∈ "1A".toList, isIdChar c = true := List.all_eq_true.mp (by decide)
  have hname : ∀ c ∈ "1A".toList, isNameChar c = true := List.all_eq_true.mp (by decide)
  have hsquare : ∀ c ∈ "x²".toList, isNameChar c = true := List.all_eq_true.mp (by decide)
  have haccent : ∀ c ∈ "e\u0301".toList, isIdChar c = true :=
    List.all_eq_true.mp (by decide)
  refine ⟨⟨(sends_iff rfl).mpr ⟨by decide, hname, by decide⟩,
    (declares_iff rfl (by decide)).mpr ⟨by decide, hid⟩,
    (moves_iff rfl (by decide)).mpr ⟨by decide, hid⟩, ?_⟩,
    ⟨(sends_iff rfl).mpr ⟨by decide, hsquare, by decide⟩, ?_⟩,
    (declares_iff rfl (by decide)).mpr ⟨by decide, haccent⟩, ?_⟩
  · rw [henlists]
    decide
  · rw [declares_iff rfl (by decide)]
    exact fun h => absurd (h.2 '²' (by decide)) (by decide)
  · rw [sends_iff rfl]
    exact fun h => absurd (h.2.1 '\u0301' (by decide)) (by decide)

end

end Reader

end Lifeline
