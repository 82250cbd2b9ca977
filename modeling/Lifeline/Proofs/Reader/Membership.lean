import Lifeline.Proofs.Reader.Roster
import Mathlib.Data.List.Dedup

/-! # The members of groups

While the members of a group are listed, a line may put a participant into the group. The reader
knows whom it has put into which group and passes over or refuses whoever comes again; but it knows
this of the text that it reads only (`State.Enrolled`). One text therefore puts every participant
into at most one group, and lists it once, whereas a diagram into which several texts are read lists
a participant as often as there are texts that put it into a group
(`Diagram.members_readAll`). -/

namespace Lifeline

/-- The participants that the groups list, group by group. -/
def Diagram.members (d : Diagram) : List String := d.groups.flatMap Group.members

namespace Reader

open Lifeline.Syntax (Content Heading Line)

/-- The participant that a line puts into a group, if it is one of the list of a group's members. -/
def Scan.joins? (c : Scan) (raw : List Char) : Option String :=
  match c.role raw with
  | .body => none
  | .form form => if 0 < Syntax.indent raw && c.inGroup then Line.member? form else none

/-- The participants that lines put into groups, in the order of the lines. -/
def joinsFrom (c : Scan) : List (List Char) → List String
  | [] => []
  | raw :: rest => (c.joins? raw).toList ++ joinsFrom (c.next raw) rest

/-- The participants that a text puts into groups, each of them once. -/
def grouped (text : List Char) : List String :=
  (joinsFrom ⟨false, none⟩ (Text.lines text)).dedup

/-- The groups list those that they have listed before the reading, and those that have joined one
since then; nobody has joined twice. -/
structure State.Enrolled (before : List String) (s : State) : Prop where
  members : s.diagram.members.Perm (before ++ s.joined)
  nodup : s.joined.Nodup
  group : ∀ i ∈ s.group, i < s.diagram.groups.length

/-- At most one participant joins a group. -/
structure Joins (s t : State) (new : Option String) : Prop where
  enrolled : ∀ {before}, s.Enrolled before → t.Enrolled before
  mem : ∀ id, id ∈ t.joined ↔ id ∈ s.joined ∨ id ∈ new

section
variable {s t : State} {line : Nat}

theorem Joins.of_same (hgroups : t.diagram.groups = s.diagram.groups)
    (hmembership : t.membership = s.membership) (hgroup : ∀ i ∈ t.group, i ∈ s.group) :
    Joins s t none := by
  have hjoined : t.joined = s.joined := congrArg (List.map Prod.fst) hmembership
  refine ⟨fun h => ⟨?_, ?_, ?_⟩, ?_⟩
  · rw [Diagram.members, hgroups, hjoined]
    exact h.members
  · rw [hjoined]
    exact h.nodup
  · intro i hi
    rw [hgroups]
    exact h.group i (hgroup i hi)
  · simp [hjoined]

theorem Joins.of_roster (h : t.roster = s.roster) : Joins s t none := by
  have hgroup : t.group = s.group := congrArg Roster.group h
  refine .of_same (congrArg Roster.groups h) (congrArg Roster.membership h) ?_
  rw [hgroup]
  exact fun _ hi => hi

theorem Joins.ready (s : State) (indent : Nat) : Joins s (s.ready indent) none := by
  have hroster := roster_ready s indent
  have hgroup : (s.ready indent).group = if indent = 0 then none else s.group :=
    congrArg Roster.group hroster
  refine .of_same (congrArg Roster.groups hroster) (congrArg Roster.membership hroster) ?_
  rw [hgroup]
  split
  · simp
  · exact fun _ hi => hi

theorem Joins.trans {u : State} {new : Option String} (h : Joins s t none) (h' : Joins t u new) :
    Joins s u new := by
  refine ⟨fun hs => h'.enrolled (h.enrolled hs), fun id => ?_⟩
  rw [h'.mem, h.mem]
  simp

/-! ### Groups -/

theorem members_modify_perm (groups : List Group) {i : Nat} (hi : i < groups.length) (id : String) :
    ((groups.modify i fun g => { g with members := g.members ++ [id] }).flatMap
      Group.members).Perm (groups.flatMap Group.members ++ [id]) := by
  obtain ⟨front, g, behind, hgroups, -, hmodified⟩ :=
    List.exists_of_modify (fun g : Group => { g with members := g.members ++ [id] }) hi
  rw [hmodified, hgroups]
  simp only [List.flatMap_append, List.flatMap_cons, List.append_assoc]
  exact (List.perm_append_comm.append_left _).append_left _

theorem members_modify_color (groups : List Group) (i : Nat) (f : Group → Option String) :
    (groups.modify i fun g => { g with color := f g }).flatMap Group.members =
      groups.flatMap Group.members := by
  rw [List.flatMap_def, List.flatMap_def]
  exact congrArg List.flatten (map_modify_of_same _ _ _ _ fun _ => rfl)

/-- A group heading puts nobody into the group that it opens. -/
theorem Joins.readGroup {h : Heading} (ht : s.readGroup h line = .ok t) : Joins s t none := by
  obtain ⟨-, ⟨i, hname, rfl⟩ | ⟨-, rfl⟩⟩ := readGroup_ok ht
  · refine ⟨fun hs => ⟨?_, hs.nodup, ?_⟩, by simp [State.joined]⟩
    · rw [Diagram.members, members_modify_color]
      exact hs.members
    · rintro _ ⟨rfl⟩
      obtain ⟨hi, -⟩ := List.getElem?_eq_some_iff.mp hname
      rwa [List.length_modify, ← List.length_map]
  · refine ⟨fun hs => ⟨?_, hs.nodup, ?_⟩, by simp [State.joined]⟩
    · rw [Diagram.members, List.flatMap_append, List.flatMap_singleton, List.append_nil]
      exact hs.members
    · rintro _ ⟨rfl⟩
      simp

theorem Joins.joinGroup {id : String} (ht : s.joinGroup id = .ok t) :
    Joins s t (if s.group.isSome then some id else none) := by
  obtain ⟨rfl, hbefore⟩ | ⟨i, hi, hnew, rfl⟩ := joinGroup_ok ht
  · refine ⟨fun h => h, fun x => ?_⟩
    split
    · next hg =>
        refine ⟨Or.inl, ?_⟩
        rintro (hx | hx)
        · exact hx
        · obtain rfl := Option.some.inj hx
          obtain ⟨i, hi⟩ := Option.isSome_iff_exists.mp hg
          exact List.mem_map_of_mem (hbefore i hi)
    · simp
  · have hjoined : (s.membership ++ [(id, i)]).map Prod.fst = s.joined ++ [id] := List.map_append
    refine ⟨fun h => ⟨?_, ?_, ?_⟩, fun x => ?_⟩
    · rw [State.joined, hjoined, ← List.append_assoc]
      exact (members_modify_perm _ (h.group i hi) id).trans (h.members.append_right _)
    · rw [State.joined, hjoined]
      exact List.nodup_append.mpr ⟨h.nodup, List.nodup_singleton id, by
        rintro a ha b hb rfl
        exact hnew (List.mem_singleton.mp hb ▸ ha)⟩
    · intro j hj
      rw [List.length_modify]
      exact h.group j hj
    · rw [State.joined, hjoined, hi]
      simp [eq_comm]

theorem Joins.joinGroup_of {ps : List Participant} {id : String}
    (ht : ({ s with diagram := { s.diagram with participants := ps } } : State).joinGroup id =
      .ok t) : Joins s t (if s.group.isSome then some id else none) :=
  Joins.trans (t := { s with diagram := { s.diagram with participants := ps } })
    (.of_same rfl rfl fun _ hi => hi) (.joinGroup ht)

/-! ### Lines -/

theorem Joins.readForm {form : Line} {text : List Char} {indent : Nat}
    (ht : s.readForm form text indent line = .ok t) :
    Joins s t (if s.group.isSome then Line.member? form else none) := by
  have hnone : Joins s t none → Joins s t (if s.group.isSome then none else none) := by
    rw [ite_self]
    exact id
  cases form with
  | blank =>
      obtain rfl := Except.ok.inj ht
      exact hnone (.of_same rfl rfl (by simp))
  | group h => exact hnone (.readGroup ht)
  | comment =>
      obtain rfl := Except.ok.inj ht
      exact hnone (.of_roster rfl)
  | hash => exact absurd ht (State.stop_ne_ok _ _ _)
  | «section» h => exact hnone (.of_roster (roster_readSection ht))
  | option key value => exact hnone (.of_roster (roster_readOption ht))
  | declaration decl =>
      obtain ⟨ps, hjoin⟩ := readForm_of_member rfl ht
      exact .joinGroup_of hjoin
  | position id n =>
      obtain ⟨ps, hjoin⟩ := readForm_of_member rfl ht
      exact .joinGroup_of hjoin
  | member id =>
      obtain ⟨ps, hjoin⟩ := readForm_of_member rfl ht
      exact .joinGroup_of hjoin
  | content c =>
      have hclosed := roster_closeBlocks s indent (Syntax.startsBranch text)
      refine hnone (.trans (.of_roster hclosed) ?_)
      have ht : (s.closeBlocks indent (Syntax.startsBranch text)).readContent c indent line =
        .ok t := ht
      cases c with
      | message statement =>
          obtain rfl := Except.ok.inj ht
          have hroster := roster_readMessage (s.closeBlocks indent (Syntax.startsBranch text))
            statement line
          have hgroup := congrArg Roster.group hroster
          exact .of_same (congrArg Roster.groups hroster) (congrArg Roster.membership hroster)
            fun i hi => hgroup.symm.trans hi
      | _ => exact .of_roster (roster_readContent (by simp) ht)

/-- A line puts into a group whom the lines before it and its own form say. -/
theorem Joins.readLine {raw : List Char} (ht : s.readLine raw line = .ok t) :
    Joins s t (s.scan.joins? raw) := by
  unfold Scan.joins?
  cases hrole : s.scan.role raw with
  | body =>
      obtain ⟨n, -, heq⟩ := readLine_body hrole line
      obtain rfl := Except.ok.inj (heq.symm.trans ht)
      exact .of_roster rfl
  | form form =>
      obtain ⟨-, heq⟩ := readLine_form hrole line
      have hgroup : (s.ready (Syntax.indent raw)).group.isSome =
          (decide (0 < Syntax.indent raw) && s.scan.inGroup) :=
        congrArg Scan.inGroup (scan_ready s _)
      have hform := Joins.readForm (heq ▸ ht)
      rw [hgroup] at hform
      exact (Joins.ready s _).trans hform

theorem Joins.readLines {lines : List (List Char)} (ht : s.readLines line lines = .ok t) :
    (∀ {before}, s.Enrolled before → t.Enrolled before) ∧
      ∀ id, id ∈ t.joined ↔ id ∈ s.joined ∨ id ∈ joinsFrom s.scan lines := by
  induction lines generalizing s line with
  | nil =>
      obtain rfl := Except.ok.inj ht
      exact ⟨fun h => h, by simp [joinsFrom]⟩
  | cons raw rest ih =>
      rw [State.readLines] at ht
      split at ht
      · next u hu =>
          obtain ⟨henrolled, hmem⟩ := ih ht
          have hjoins := Joins.readLine hu
          refine ⟨fun h => henrolled (hjoins.enrolled h), fun id => ?_⟩
          rw [hmem, hjoins.mem, scan_readLine hu, joinsFrom, List.mem_append, Option.mem_toList,
            Option.mem_def, or_assoc]
      · simp at ht

end

end Reader

open Reader

/-- Reads texts into a diagram one after the other, as long as each can be read to the end. -/
def Diagram.readAll (d : Diagram) : List (List Char) → Option Diagram
  | [] => some d
  | text :: rest =>
    match d.read text with
    | (none, e) => e.readAll rest
    | (some _, _) => none

namespace Diagram

/-- A text adds to the groups whom it puts into one, each of them once. -/
theorem members_read {e d : Diagram} {text : List Char} (h : e.read text = (none, d)) :
    d.members.Perm (e.members ++ grouped text) := by
  obtain ⟨s, hs, rfl⟩ := read_eq_none h
  obtain ⟨henrolled, hmem⟩ := Joins.readLines hs
  have hstart : (State.start e).Enrolled e.members :=
    ⟨by simp [State.joined, State.start], by simp [State.joined, State.start],
      by simp [State.start]⟩
  have hend := (Joins.of_roster (roster_finish s)).enrolled (henrolled hstart)
  have hjoined : s.finish.joined = s.joined :=
    congrArg (fun r : Roster => r.membership.map Prod.fst) (roster_finish s)
  refine hend.members.trans (List.Perm.append_left _ ?_)
  rw [hjoined]
  refine (List.perm_ext_iff_of_nodup (hjoined ▸ hend.nodup) (List.nodup_dedup _)).mpr fun id => ?_
  rw [hmem, List.mem_dedup]
  simp [State.joined, State.start, State.scan]

theorem members_readAll_perm {texts : List (List Char)} {e d : Diagram}
    (h : e.readAll texts = some d) : d.members.Perm (e.members ++ texts.flatMap grouped) := by
  induction texts generalizing e with
  | nil =>
      obtain rfl := Option.some.inj h
      simp
  | cons text rest ih =>
      rw [readAll] at h
      split at h
      · next c hc =>
          rw [List.flatMap_cons, ← List.append_assoc]
          exact (ih h).trans ((members_read hc).append_right _)
      · simp at h

end Diagram

theorem count_flatMap_grouped (texts : List (List Char)) (id : String) :
    (texts.flatMap grouped).count id = texts.countP fun text => id ∈ grouped text := by
  induction texts with
  | nil => rfl
  | cons text rest ih =>
      rw [List.flatMap_cons, List.count_append, ih, List.countP_cons, Nat.add_comm]
      congr 1
      simp [grouped, List.count_dedup]

theorem Diagram.nodup_members_read {text : List Char} {d : Diagram}
    (h : empty.read text = (none, d)) : d.members.Nodup := by
  have hperm : d.members.Perm (grouped text) := members_read h
  exact hperm.nodup_iff.mpr (List.nodup_dedup _)

/-- **How often groups list a participant.** In a diagram into which texts have been read one after
the other, the groups together list every participant as often as there are texts that put it into
a group. So none of them is listed twice, be it by one group or by two, if and only if no two of
the texts put the same participant into a group. -/
theorem Diagram.members_readAll {texts : List (List Char)} {d : Diagram}
    (h : empty.readAll texts = some d) :
    (∀ id, d.members.count id = texts.countP fun text => id ∈ grouped text) ∧
      (d.members.Nodup ↔ texts.Pairwise fun a b => (grouped a).Disjoint (grouped b)) := by
  have hperm : d.members.Perm (texts.flatMap grouped) := members_readAll_perm h
  refine ⟨fun id => ?_, ?_⟩
  · rw [hperm.count_eq, count_flatMap_grouped]
  · rw [hperm.nodup_iff, List.nodup_flatMap]
    exact ⟨And.right, fun hdisjoint => ⟨fun _ _ => List.nodup_dedup _, hdisjoint⟩⟩

/-- A document whose only group declares its member once more. -/
def edge : List Char :=
  "## Edge\n  Router\n  Router is a gateway\nRouter -> Core: ask".toList

/-- A document with a group of another participant. -/
def core : List Char := "## Core\n  Core position 0\nCore -> Router: push".toList

theorem Diagram.members_readAll_edge_core : ∃ d, empty.readAll [edge, core, edge] = some d ∧
    d.members = ["Router", "Router", "Core"] ∧
    (∀ id, d.members.count id = [edge, core, edge].countP fun text => id ∈ grouped text) ∧
    (d.members.Nodup ↔
      [edge, core, edge].Pairwise fun a b => (grouped a).Disjoint (grouped b)) := by
  have hedge : edge = _ := String.toList_ofList
  have hcore : core = _ := String.toList_ofList
  have hmembers : (empty.readAll [edge, core, edge]).map members =
      some ["Router", "Router", "Core"] := by
    rw [hedge, hcore]
    decide +kernel
  obtain ⟨d, hd, hlist⟩ := Option.map_eq_some_iff.mp hmembers
  exact ⟨d, hd, hlist, members_readAll hd⟩

/-- A document that is read twice lists its members twice. -/
theorem Diagram.members_readAll_twice :
    ¬ ∀ texts d, empty.readAll texts = some d → d.members.Nodup := by
  intro hnodup
  have hedge : edge = _ := String.toList_ofList
  have hmembers : (empty.readAll [edge, edge]).map members = some ["Router", "Router"] := by
    rw [hedge]
    decide +kernel
  obtain ⟨d, hd, hlist⟩ := Option.map_eq_some_iff.mp hmembers
  have := hnodup _ d hd
  rw [hlist] at this
  exact absurd this (by decide)

end Lifeline
