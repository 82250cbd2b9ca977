import Lifeline.Proofs.Order.Grouping

/-! # Groups as they are written

`register` goes through the rows of a text and notes the headings of groups, and who is listed below
which of them, also where a heading comes again. The groups of a text that is read into an empty
diagram are those of its headings, each with its members in the order in which they are first listed
(`Diagram.groups_read`). So everybody stands where the text puts them: members of groups first, and
then the others (`Diagram.order_read`). -/

namespace Lifeline.Reader

open Lifeline.Order (firstOccurrences)
open Lifeline.Syntax (Heading Line)

/-- What rows say about groups. -/
structure Register where
  /-- The names of group headings. -/
  headings : List String
  /-- The participants below headings, each with the name of the group. -/
  entries : List (String × String)
  /-- The group whose members may be listed next. -/
  current : Option String
  deriving DecidableEq, Repr

namespace Register

/-- The register of no rows. -/
def empty : Register := ⟨[], [], none⟩

/-- A participant is listed, unless no list of members is open. -/
def enter (g : Register) (id : String) : Register :=
  match g.current with
  | none => g
  | some name => { g with entries := g.entries ++ [(name, id)] }

/-- What is noted where a line is of a form: a heading opens its group, a blank line ends the list
of members, and any other line may be one of the list. -/
def read (g : Register) : Line → Register
  | .blank => { g with current := none }
  | .group h =>
    { g with
      headings := g.headings ++ [String.ofList h.label]
      current := some (String.ofList h.label) }
  | form => (Line.member? form).elim g g.enter

/-- The register with a further row. Members are listed on indented lines. -/
def next (g : Register) (r : Row) : Register :=
  match r.role with
  | .body => g
  | .form form => ({ g with current := if r.indent = 0 then none else g.current }).read form

/-- The participants below the headings of a name, in the order of the rows. -/
def listed (g : Register) (name : String) : List String :=
  g.entries.filterMap fun e => if e.1 = name then some e.2 else none

end Register

/-- What rows say about groups. -/
def registerOf (rs : List Row) : Register := rs.foldl Register.next .empty

/-- What a text says about groups. -/
def register (text : List Char) : Register := registerOf (rows text)

/-- The groups of a state by their names, with their members. -/
def State.lists (s : State) : List (String × List String) :=
  s.diagram.groups.map fun e => (e.name, e.members)

/-- The groups of a state are those of the headings, with the members that have been listed, and the
reader knows who is a member of which group. -/
structure State.Follows (s : State) (g : Register) : Prop where
  names : s.lists.map Prod.fst = firstOccurrences [] g.headings
  members : ∀ e ∈ s.lists, e.2 = firstOccurrences [] (g.listed e.1)
  current : s.group.map (fun i => (s.lists.map Prod.fst)[i]?) = g.current.map some
  membership : ∀ id i, (id, i) ∈ s.membership ↔ ∃ e, s.lists[i]? = some e ∧ id ∈ e.2
  known : ∀ e ∈ g.entries, e.1 ∈ g.headings

section
variable {s t : State} {g : Register} {line : Nat} {name id : String}

/-! ### Registers -/

theorem Register.listed_concat (g : Register) (other id name : String) :
    ({ g with entries := g.entries ++ [(other, id)] } : Register).listed name =
      if other = name then g.listed name ++ [id] else g.listed name := by
  unfold listed
  rw [List.filterMap_append]
  by_cases h : other = name
  · simp [h]
  · simp [h]

theorem Register.mem_listed : id ∈ g.listed name ↔ (name, id) ∈ g.entries := by
  rw [listed, List.mem_filterMap]
  constructor
  · rintro ⟨⟨other, member⟩, he, hid⟩
    split at hid
    · next hname =>
        obtain rfl : other = name := hname
        obtain rfl := Option.some.inj hid
        exact he
    · cases hid
  · exact fun he => ⟨(name, id), he, if_pos rfl⟩

/-! ### Groups -/

theorem lists_of_groups (h : t.diagram.groups = s.diagram.groups) : t.lists = s.lists :=
  congrArg (List.map _) h

namespace State.Follows

theorem nodup_names (h : s.Follows g) : (s.lists.map Prod.fst).Nodup :=
  h.names ▸ (Order.firstOccurrences_spec [] _).1

theorem mem_names (h : s.Follows g) : name ∈ s.lists.map Prod.fst ↔ name ∈ g.headings := by
  rw [h.names, (Order.firstOccurrences_spec [] _).2]
  simp

theorem mem_members (h : s.Follows g) {e : String × List String} (he : e ∈ s.lists) :
    id ∈ e.2 ↔ id ∈ g.listed e.1 := by
  rw [h.members e he, (Order.firstOccurrences_spec [] _).2]
  simp

theorem eq_of_name (h : s.Follows g) {e e' : String × List String} {i j : Nat}
    (he : s.lists[i]? = some e) (he' : s.lists[j]? = some e') (hname : e.1 = e'.1) : i = j := by
  have hi : (s.lists.map Prod.fst)[i]? = some e.1 := by rw [List.getElem?_map, he, Option.map_some]
  have hj : (s.lists.map Prod.fst)[j]? = some e'.1 := by
    rw [List.getElem?_map, he', Option.map_some]
  refine (List.getElem?_inj (List.getElem?_eq_some_iff.mp hi).1 h.nodup_names).mp ?_
  rw [hi, hj, hname]

/-- Members are listed in the group of the last heading. -/
theorem exists_current (h : s.Follows g) {i : Nat} (hi : s.group = some i) :
    ∃ e, s.lists[i]? = some e ∧ g.current = some e.1 := by
  have hcurrent := h.current
  rw [hi, Option.map_some] at hcurrent
  obtain ⟨name, hname, heq⟩ := Option.map_eq_some_iff.mp hcurrent.symm
  rw [List.getElem?_map] at heq
  obtain ⟨e, he, rfl⟩ := Option.map_eq_some_iff.mp heq.symm
  exact ⟨e, he, hname⟩

theorem congr (h : s.Follows g) {current : Option String} (hlists : t.lists = s.lists)
    (hmembership : t.membership = s.membership)
    (hcurrent : t.group.map (fun i => (s.lists.map Prod.fst)[i]?) = current.map some) :
    t.Follows { g with current := current } := by
  refine ⟨?_, ?_, ?_, ?_, h.known⟩
  · rw [hlists, h.names]
  · rw [hlists]
    exact h.members
  · rw [hlists, hcurrent]
  · rw [hlists, hmembership]
    exact h.membership

theorem of_same (h : s.Follows g) (hgroups : t.diagram.groups = s.diagram.groups)
    (hmembership : t.membership = s.membership) (hgroup : t.group = s.group) : t.Follows g := by
  refine h.congr (lists_of_groups hgroups) hmembership ?_
  rw [hgroup, h.current]

theorem of_roster (h : s.Follows g) (hroster : t.roster = s.roster) : t.Follows g :=
  h.of_same (congrArg Roster.groups hroster) (congrArg Roster.membership hroster)
    (congrArg Roster.group hroster)

theorem ready (h : s.Follows g) (indent : Nat) : (s.ready indent).Follows
    { g with current := if indent = 0 then none else g.current } := by
  have hroster := roster_ready s indent
  have hgroup : (s.ready indent).group = if indent = 0 then none else s.group :=
    congrArg Roster.group hroster
  refine h.congr (lists_of_groups (congrArg Roster.groups hroster))
    (congrArg Roster.membership hroster) ?_
  rw [hgroup]
  split
  · rfl
  · exact h.current

theorem reopen (h : s.Follows g) (hname : name ∈ g.headings) :
    s.Follows { g with headings := g.headings ++ [name] } := by
  refine ⟨?_, h.members, h.current, h.membership, ?_⟩
  · rw [Order.firstOccurrences_concat, if_pos (Or.inr hname)]
    exact h.names
  · exact fun e he => List.mem_append_left _ (h.known e he)

theorem openNew (h : s.Follows g) (hname : name ∉ g.headings)
    (hlists : t.lists = s.lists ++ [(name, [])]) (hmembership : t.membership = s.membership)
    (hgroup : t.group = some s.lists.length) :
    t.Follows { g with headings := g.headings ++ [name], current := some name } := by
  have hnone : g.listed name = [] := List.eq_nil_iff_forall_not_mem.mpr fun id hid =>
    hname (h.known _ (Register.mem_listed.mp hid))
  refine ⟨?_, ?_, ?_, fun id i => ?_, fun e he => List.mem_append_left _ (h.known e he)⟩
  · rw [hlists, List.map_append, h.names, Order.firstOccurrences_concat,
      if_neg (by simpa using hname)]
    rfl
  · rw [hlists]
    refine List.forall_mem_append.mpr ⟨h.members, List.forall_mem_singleton.mpr ?_⟩
    exact (congrArg (firstOccurrences []) hnone).symm
  · rw [hgroup, hlists]
    simp
  · rw [hmembership, h.membership, hlists]
    constructor
    · rintro ⟨e, he, hid⟩
      exact ⟨e, (List.getElem?_append_left (List.getElem?_eq_some_iff.mp he).1).trans he, hid⟩
    · rintro ⟨e, he, hid⟩
      rcases Nat.lt_or_ge i s.lists.length with hlt | hge
      · rw [List.getElem?_append_left hlt] at he
        exact ⟨e, he, hid⟩
      · rw [List.getElem?_append_right hge] at he
        obtain rfl := List.mem_singleton.mp (List.mem_of_getElem? he)
        exact absurd hid List.not_mem_nil

theorem readGroup (h : s.Follows g) {heading : Heading}
    (ht : s.readGroup heading line = .ok t) : t.Follows
      { g with
        headings := g.headings ++ [String.ofList heading.label]
        current := some (String.ofList heading.label) } := by
  have hnames : s.diagram.groups.map Group.name = s.lists.map Prod.fst := by
    rw [State.lists, List.map_map]
    rfl
  obtain ⟨-, ⟨i, hname, rfl⟩ | ⟨hnew, rfl⟩⟩ := readGroup_ok ht
  · rw [hnames] at hname
    have hmem := h.mem_names.mp (List.mem_of_getElem? hname)
    refine reopen (g := { g with current := some (String.ofList heading.label) }) ?_ hmem
    exact h.congr (map_modify_of_same _ _ _ _ fun _ => rfl) rfl (congrArg some hname)
  · rw [hnames, h.mem_names] at hnew
    refine h.openNew hnew List.map_append rfl ?_
    rw [State.lists, List.length_map]

theorem relist (h : s.Follows g) (hid : id ∈ g.listed name) :
    s.Follows { g with entries := g.entries ++ [(name, id)] } := by
  refine ⟨h.names, fun e he => ?_, h.current, h.membership, ?_⟩
  · rw [Register.listed_concat]
    split
    · next hname =>
        rw [Order.firstOccurrences_concat, if_pos (Or.inr (hname ▸ hid))]
        exact h.members e he
    · exact h.members e he
  · refine List.forall_mem_append.mpr ⟨h.known, List.forall_mem_singleton.mpr ?_⟩
    exact h.known _ (Register.mem_listed.mp hid)

/-- A participant is listed that is no member of any group. -/
theorem enlist (h : s.Follows g) {e : String × List String} {i : Nat} (he : s.lists[i]? = some e)
    (hid : id ∉ s.joined)
    (hlists : t.lists = s.lists.modify i fun e => (e.1, e.2 ++ [id]))
    (hmembership : t.membership = s.membership ++ [(id, i)]) (hgroup : t.group = s.group) :
    t.Follows { g with entries := g.entries ++ [(e.1, id)] } := by
  have hnames : t.lists.map Prod.fst = s.lists.map Prod.fst := by
    rw [hlists]
    exact map_modify_of_same _ _ _ _ fun _ => rfl
  have hmember : id ∉ e.2 := fun hmem =>
    hid (List.mem_map_of_mem ((h.membership id i).mpr ⟨e, he, hmem⟩))
  have hlisted : id ∉ g.listed e.1 := mt (h.mem_members (List.mem_of_getElem? he)).mpr hmember
  refine ⟨?_, ?_, ?_, fun x j => ?_, ?_⟩
  · rw [hnames, h.names]
  · intro e' he'
    obtain ⟨j, hj⟩ := List.mem_iff_getElem?.mp he'
    rw [hlists, List.getElem?_modify] at hj
    obtain ⟨old, hold, rfl⟩ := Option.map_eq_some_iff.mp hj
    have hmembers := h.members old (List.mem_of_getElem? hold)
    by_cases hij : i = j
    · subst hij
      obtain rfl := Option.some.inj (he.symm.trans hold)
      rw [if_pos rfl, Register.listed_concat, if_pos rfl, Order.firstOccurrences_concat,
        if_neg (by simpa using hlisted), ← hmembers]
    · have hname : e.1 ≠ old.1 := mt (h.eq_of_name he hold) hij
      rw [if_neg hij, Register.listed_concat, if_neg hname]
      exact hmembers
  · rw [hgroup, hnames, h.current]
  · rw [hmembership, List.mem_append, List.mem_singleton, h.membership, hlists,
      List.getElem?_modify]
    by_cases hij : i = j
    · subst hij
      simp [he]
    · simp [hij, Ne.symm hij]
  · refine List.forall_mem_append.mpr ⟨h.known, List.forall_mem_singleton.mpr ?_⟩
    exact h.mem_names.mp (List.mem_map_of_mem (List.mem_of_getElem? he))

/-- A participant is listed, for the first time or once more. -/
theorem joinGroup (h : s.Follows g) (ht : s.joinGroup id = .ok t) : t.Follows (g.enter id) := by
  unfold Register.enter
  obtain ⟨rfl, hbefore⟩ | ⟨i, hi, hnew, rfl⟩ := joinGroup_ok ht
  · cases hgroup : t.group with
    | none =>
        have hcurrent := h.current
        rw [hgroup, Option.map_none] at hcurrent
        rw [Option.map_eq_none_iff.mp hcurrent.symm]
        exact h
    | some i =>
        obtain ⟨e, he, hcurrent⟩ := h.exists_current hgroup
        obtain ⟨e', he', hid⟩ := (h.membership id i).mp (hbefore i hgroup)
        obtain rfl := Option.some.inj (he.symm.trans he')
        simp only [hcurrent]
        exact hcurrent ▸ h.relist ((h.mem_members (List.mem_of_getElem? he)).mp hid)
  · obtain ⟨e, he, hcurrent⟩ := h.exists_current hi
    simp only [hcurrent]
    refine hcurrent ▸ h.enlist he hnew ?_ rfl rfl
    exact map_modify _ _ _ _ _ fun _ => rfl

theorem joinGroup_of (h : s.Follows g) {ps : List Participant}
    (ht : ({ s with diagram := { s.diagram with participants := ps } } : State).joinGroup id =
      .ok t) : t.Follows (g.enter id) :=
  joinGroup (s := { s with diagram := { s.diagram with participants := ps } })
    (h.of_same rfl rfl rfl) ht

/-! ### Lines -/

theorem readForm (h : s.Follows g) {form : Line} {text : List Char} {indent : Nat}
    (ht : s.readForm form text indent line = .ok t) : t.Follows (g.read form) := by
  cases form with
  | blank =>
      obtain rfl := Except.ok.inj ht
      exact h.congr rfl rfl rfl
  | group heading => exact h.readGroup ht
  | comment =>
      obtain rfl := Except.ok.inj ht
      exact h
  | hash => exact absurd ht (State.stop_ne_ok _ _ _)
  | «section» heading => exact h.of_roster (roster_readSection ht)
  | option key value => exact h.of_roster (roster_readOption ht)
  | declaration decl =>
      obtain ⟨ps, hjoin⟩ := readForm_of_member rfl ht
      exact h.joinGroup_of hjoin
  | position id n =>
      obtain ⟨ps, hjoin⟩ := readForm_of_member rfl ht
      exact h.joinGroup_of hjoin
  | member id =>
      obtain ⟨ps, hjoin⟩ := readForm_of_member rfl ht
      exact h.joinGroup_of hjoin
  | content c =>
      have hclosed := h.of_roster (roster_closeBlocks s indent (Syntax.startsBranch text))
      have ht : (s.closeBlocks indent (Syntax.startsBranch text)).readContent c indent line =
        .ok t := ht
      cases c with
      | message statement =>
          obtain rfl := Except.ok.inj ht
          have hroster := roster_readMessage (s.closeBlocks indent (Syntax.startsBranch text))
            statement line
          exact hclosed.of_same (congrArg Roster.groups hroster)
            (congrArg Roster.membership hroster) (congrArg Roster.group hroster)
      | _ => exact hclosed.of_roster (roster_readContent (by simp) ht)

theorem readLine (h : s.Follows g) {raw : List Char} (ht : s.readLine raw line = .ok t) :
    t.Follows (g.next ⟨line, Syntax.indent raw, s.scan.role raw⟩) := by
  unfold Register.next
  cases hrole : s.scan.role raw with
  | body =>
      obtain ⟨n, -, heq⟩ := readLine_body hrole line
      obtain rfl := Except.ok.inj (heq.symm.trans ht)
      exact h.of_roster rfl
  | form form =>
      obtain ⟨-, heq⟩ := readLine_form hrole line
      exact (h.ready _).readForm (heq ▸ ht)

end State.Follows

end

/-! ### Who is listed -/

section
variable {g : Register} {e : String × String}

theorem Register.mem_entries_enter {id : String} (he : e ∈ (g.enter id).entries) :
    e ∈ g.entries ∨ e.2 = id := by
  unfold enter at he
  split at he
  · exact Or.inl he
  · refine (List.mem_append.mp he).imp_right fun hnew => ?_
    rw [List.mem_singleton.mp hnew]

theorem Register.mem_entries_next {r : Row} (he : e ∈ (g.next r).entries) :
    e ∈ g.entries ∨ e.2 ∈ r.mentions.map Mention.name := by
  unfold next at he
  unfold Row.mentions
  split at he
  · exact Or.inl he
  · next form hrole =>
      rw [hrole]
      cases form with
      | declaration decl => exact (mem_entries_enter he).imp_right List.mem_singleton.mpr
      | position id n => exact (mem_entries_enter he).imp_right List.mem_singleton.mpr
      | member id => exact (mem_entries_enter he).imp_right List.mem_singleton.mpr
      | _ => exact Or.inl he

theorem name_of_mem_entries {rs : List Row} (he : e ∈ (registerOf rs).entries) :
    e.2 ∈ (rs.flatMap Row.mentions).map Mention.name := by
  induction rs using List.reverseRecOn with
  | nil => cases he
  | append_singleton rs r ih =>
      rw [registerOf, List.foldl_append] at he
      rw [List.flatMap_append, List.map_append, List.mem_append, List.flatMap_singleton]
      exact (Register.mem_entries_next he).imp_left ih

end

end Lifeline.Reader

namespace Lifeline.Diagram

open Lifeline.Order
open Lifeline.Reader

variable {text : List Char} {d : Diagram}

/-- **Groups are what their headings list.** A text that is read into an empty diagram leaves a
group for each name of a heading, in the order of the first headings, with the participants that
are listed below any of its headings, in the order in which they are listed first. -/
theorem groups_read (h : empty.read text = (none, d)) :
    d.groups.map Group.name = firstOccurrences [] (register text).headings ∧
      ∀ g ∈ d.groups, g.members = firstOccurrences [] ((register text).listed g.name) := by
  obtain ⟨s, hs, rfl⟩ := read_eq_none h
  have hstart : (State.start empty).Follows (registerOf []) :=
    ⟨rfl, by simp [State.lists, State.start, empty], rfl,
      by simp [State.lists, State.start, empty], by simp [registerOf, Register.empty]⟩
  have hrun := State.readLines_induct (P := fun past _ s => s.Follows (registerOf past))
    (fun past line s raw t hpast ht => ?_) [] hstart hs
  · have hend := hrun.of_roster (roster_finish s)
    refine ⟨?_, fun g hg => ?_⟩
    · have hnames := hend.names
      rw [State.lists, List.map_map] at hnames
      exact hnames
    · exact hend.members (g.name, g.members) (List.mem_map_of_mem hg)
  · rw [registerOf, List.foldl_append]
    exact hpast.readLine ht

theorem ids_read (h : empty.read text = (none, d)) :
    d.ids = firstOccurrences [] ((mentions text).map Mention.name) := by
  rw [ids, participants_read h]
  exact (cast_record (d := empty) rfl (mentions text)).1

theorem nodup_ids_read (h : empty.read text = (none, d)) : d.ids.Nodup :=
  ids_read h ▸ (firstOccurrences_spec [] _).1

theorem members_subset_ids (h : empty.read text = (none, d)) : d.members ⊆ d.ids := by
  obtain ⟨-, hmembers⟩ := groups_read h
  intro id hid
  obtain ⟨g, hg, hid⟩ := List.mem_flatMap.mp hid
  rw [hmembers g hg, (firstOccurrences_spec [] _).2] at hid
  rw [ids_read h, (firstOccurrences_spec [] _).2]
  exact ⟨name_of_mem_entries (Register.mem_listed.mp hid.1), List.not_mem_nil⟩

/-- The participant of the name has no position. -/
def isUnplaced (d : Diagram) (id : String) : Bool :=
  (d.participant? id).any fun p => p.position.isNone

theorem ids_unplaced (h : empty.read text = (none, d)) :
    (d.orderedParticipants.filter fun p => p.position.isNone).map Participant.id =
      d.groupedNames.filter d.isUnplaced := by
  have hids := nodup_ids_read h
  rw [← ids_groupedParticipants hids (nodup_members_read h) (members_subset_ids h),
    List.filter_map, filter_orderedParticipants]
  refine congrArg (List.map Participant.id) (List.filter_congr fun p hp => ?_)
  have hfound := participant?_of_mem hids (d.groupedParticipants_perm.mem_iff.mp hp)
  rw [Function.comp_apply, isUnplaced, hfound, Option.any_some]

theorem ids_of_unplaced (h : empty.read text = (none, d))
    (hnone : ∀ p ∈ d.participants, p.position = none) :
    d.orderedParticipants.map Participant.id = d.groupedNames := by
  have hsame : ∀ l : List Participant, l.Perm d.participants →
      l.filter (fun p => p.position.isNone) = l := fun l hl =>
    List.filter_eq_self.mpr fun p hp => Option.isNone_iff_eq_none.mpr (hnone p (hl.mem_iff.mp hp))
  rw [← hsame _ d.orderedParticipants_perm, filter_orderedParticipants,
    hsame _ d.groupedParticipants_perm]
  exact ids_groupedParticipants (nodup_ids_read h) (nodup_members_read h) (members_subset_ids h)

/-- **Members stand side by side.** A text that is read into an empty diagram puts all its
participants in order, members of groups before the others: groups as their headings come first,
members as they are first listed, the others as they are first mentioned. In this order stand all
who have no position. So where nobody has one, the members of each group are neighbours. -/
theorem order_read (h : empty.read text = (none, d)) :
    d.order.Perm (List.range d.participants.length) ∧
      (d.groups.map Group.name = firstOccurrences [] (register text).headings ∧
        ∀ g ∈ d.groups, g.members = firstOccurrences [] ((register text).listed g.name)) ∧
      d.ids = firstOccurrences [] ((mentions text).map Mention.name) ∧
      (d.orderedParticipants.filter fun p => p.position.isNone).map Participant.id =
        d.groupedNames.filter d.isUnplaced ∧
      d.members.Nodup ∧ d.members ⊆ d.orderedParticipants.map Participant.id ∧
      ((∀ p ∈ d.participants, p.position = none) →
        d.orderedParticipants.map Participant.id = d.groupedNames ∧
          ∀ g ∈ d.groups, g.members <:+: d.orderedParticipants.map Participant.id) := by
  have hperm := d.orderedParticipants_perm.map Participant.id
  refine ⟨d.order_perm, groups_read h, ids_read h, ids_unplaced h, nodup_members_read h,
    fun id hid => hperm.mem_iff.mpr (members_subset_ids h hid), fun hnone => ?_⟩
  have hids := ids_of_unplaced h hnone
  refine ⟨hids, fun g hg => ?_⟩
  rw [hids, groupedNames, members, List.flatMap_def]
  have hgroup := List.infix_of_mem_flatten (List.mem_map_of_mem (f := Group.members) hg)
  exact hgroup.trans (List.infix_append' [] _ _)

/-- A document that opens a group again and lists a member twice. -/
def regrouped : List Char :=
  "## Back\n  Db\n  Web\n// front\n## Front\n  Ui\n\n## Back\n  Cache\n  Db\nMe -> Ui: go".toList

/-- The same document with a position at its end. -/
def promoted : List Char := regrouped ++ "\nUi position 0".toList

theorem order_read_regrouped : ∃ d e, empty.read regrouped = (none, d) ∧
    empty.read promoted = (none, e) ∧
    (∀ p ∈ d.participants, p.position = none) ∧
    d.orderedParticipants.map Participant.id = ["Db", "Web", "Cache", "Ui", "Me"] ∧
    e.orderedParticipants.map Participant.id = ["Ui", "Db", "Web", "Cache", "Me"] ∧
    (d.groups.map Group.name = firstOccurrences [] (register regrouped).headings ∧
      ∀ g ∈ d.groups, g.members = firstOccurrences [] ((register regrouped).listed g.name)) ∧
    d.orderedParticipants.map Participant.id = d.groupedNames ∧
    (∀ g ∈ d.groups, g.members <:+: d.orderedParticipants.map Participant.id) ∧
    e.order.Perm (List.range e.participants.length) ∧
    (e.orderedParticipants.filter fun p => p.position.isNone).map Participant.id =
      e.groupedNames.filter e.isUnplaced := by
  have hregrouped : regrouped = _ := String.toList_ofList
  have hpromoted : promoted = _ := congrArg₂ _ hregrouped String.toList_ofList
  have hd : (empty.read regrouped).1 = none ∧
      (∀ p ∈ (empty.read regrouped).2.participants, p.position = none) ∧
      (empty.read regrouped).2.orderedParticipants.map Participant.id =
        ["Db", "Web", "Cache", "Ui", "Me"] := by
    rw [hregrouped]
    decide +kernel
  have he : (empty.read promoted).1 = none ∧
      (empty.read promoted).2.orderedParticipants.map Participant.id =
        ["Ui", "Db", "Web", "Cache", "Me"] := by
    rw [hpromoted]
    decide +kernel
  obtain ⟨hd, hnone, hdids⟩ := hd
  obtain ⟨he, heids⟩ := he
  have hread := read_of_fst empty regrouped hd
  have hmoved := read_of_fst empty promoted he
  obtain ⟨-, hgroups, -, -, -, -, hneighbours⟩ := order_read hread
  obtain ⟨hperm, -, -, hunplaced, -⟩ := order_read hmoved
  exact ⟨_, _, hread, hmoved, hnone, hdids, heids, hgroups, (hneighbours hnone).1,
    (hneighbours hnone).2, hperm, hunplaced⟩

end Lifeline.Diagram
