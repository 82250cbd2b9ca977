import Lifeline.Proofs.Reader.Enrolment
import Lifeline.Proofs.Reader.Head
import Lifeline.Proofs.Reader.Roster
import Lifeline.Proofs.Syntax.Attributes

/-! # Attributes that are written and read

A declaration that is written with all its attributes stays the portrait of its participant until
another line says something else. A group has the last color that one of its headings gives
(`Diagram.titles_read`), and every section divider leaves its section (`Diagram.sections_read`). So
the attributes that lines are written with are those of the participant, the group and the section
in the diagram (`Diagram.attributes_read`). -/

namespace Lifeline

namespace Reader

open Lifeline.Syntax (Content Declaration Heading Line)

/-! ### Rows of headings -/

/-- The name and the color of the group that the row is a heading of. -/
def Row.title? (r : Row) : Option (String × Option String) :=
  match r.role with
  | .form (.group h) => some (String.ofList h.label, h.color.map String.ofList)
  | _ => none

/-- The color that the row gives the group of a name. -/
def Row.color? (name : String) (r : Row) : Option String :=
  r.title?.bind fun title => if title.1 = name then title.2 else none

/-- The last color that rows give the group of a name. -/
def colorOf (rs : List Row) (name : String) : Option String :=
  (rs.filterMap (Row.color? name)).getLast?

/-- The label, the color and the line of the section that the row begins. -/
def Row.divider? (r : Row) : Option (String × Option String × Nat) :=
  match r.role with
  | .form (.section h) => some (String.ofList h.label, h.color.map String.ofList, r.number)
  | _ => none

/-- The names and the colors of the groups of a state. -/
def State.titles (s : State) : List (String × Option String) :=
  s.diagram.groups.map fun g => (g.name, g.color)

/-- The groups of a state are those of the headings, each with the last color that it is given. -/
structure State.Titled (rs : List Row) (s : State) : Prop where
  nodup : (s.titles.map Prod.fst).Nodup
  names : ∀ name, name ∈ s.titles.map Prod.fst ↔ ∃ r ∈ rs, ∃ color, r.title? = some (name, color)
  colors : ∀ e ∈ s.titles, e.2 = colorOf rs e.1

section
variable {s t : State} {rs : List Row} {r : Row} {line indent : Nat} {name : String}

theorem colorOf_concat (rs : List Row) (r : Row) (name : String) :
    colorOf (rs ++ [r]) name = (r.color? name).or (colorOf rs name) :=
  getLast?_filterMap_concat (Row.color? name) rs r

/-! ### Groups -/

theorem titles_of_groups (h : t.diagram.groups = s.diagram.groups) : t.titles = s.titles :=
  congrArg (List.map _) h

theorem titles_joinGroup {ps : List Participant} {id : String}
    (ht : ({ s with diagram := { s.diagram with participants := ps } } : State).joinGroup id =
      .ok t) : t.titles = s.titles := by
  obtain ⟨rfl, -⟩ | ⟨i, -, -, rfl⟩ := joinGroup_ok ht
  · rfl
  · exact map_modify_of_same _ _ _ _ fun _ => rfl

theorem titles_readForm {form : Line} {text : List Char} (hform : ∀ h, form ≠ .group h)
    (ht : s.readForm form text indent line = .ok t) : t.titles = s.titles := by
  cases form with
  | blank =>
      obtain rfl := Except.ok.inj ht
      rfl
  | group h => exact absurd rfl (hform h)
  | comment =>
      obtain rfl := Except.ok.inj ht
      rfl
  | hash => exact absurd ht (State.stop_ne_ok _ _ _)
  | «section» h => exact titles_of_groups (congrArg Roster.groups (roster_readSection ht))
  | option key value => exact titles_of_groups (congrArg Roster.groups (roster_readOption ht))
  | declaration decl =>
      obtain ⟨ps, hjoin⟩ := readForm_of_member rfl ht
      exact titles_joinGroup hjoin
  | position id n =>
      obtain ⟨ps, hjoin⟩ := readForm_of_member rfl ht
      exact titles_joinGroup hjoin
  | member id =>
      obtain ⟨ps, hjoin⟩ := readForm_of_member rfl ht
      exact titles_joinGroup hjoin
  | content c =>
      obtain ⟨ps, ms, o, hdiagram⟩ := diagram_readContent ht
      have hclosed : (s.closeBlocks indent (Syntax.startsBranch text)).diagram.groups =
          s.diagram.groups := congrArg Roster.groups (roster_closeBlocks s _ _)
      refine titles_of_groups ?_
      rw [hdiagram]
      exact hclosed

namespace State.Titled

theorem of_same (h : s.Titled rs) (ht : t.titles = s.titles) (hr : r.title? = none) :
    t.Titled (rs ++ [r]) := by
  refine ⟨ht ▸ h.nodup, fun name => ?_, fun e he => ?_⟩
  · rw [ht, h.names]
    simp [hr]
  · rw [h.colors e (ht ▸ he), colorOf_concat, Row.color?, hr]
    rfl

theorem exists_title_concat {color : Option String} (h : s.Titled rs)
    (hr : r.title? = some (name, color)) (other : String) :
    (∃ q ∈ rs ++ [r], ∃ c, q.title? = some (other, c)) ↔
      other ∈ s.titles.map Prod.fst ∨ other = name := by
  rw [h.names]
  simp [hr, or_and_right, exists_or, eq_comm]

theorem colorOf_title {color : Option String} (hr : r.title? = some (name, color))
    (other : String) : colorOf (rs ++ [r]) other =
      if name = other then color.or (colorOf rs other) else colorOf rs other := by
  rw [colorOf_concat, Row.color?, hr, Option.bind_some]
  split <;> rfl

theorem repaint {color : Option String} {i : Nat} (h : s.Titled rs)
    (hr : r.title? = some (name, color)) (hi : (s.titles.map Prod.fst)[i]? = some name)
    (ht : t.titles = s.titles.modify i fun e => (e.1, color.or e.2)) : t.Titled (rs ++ [r]) := by
  have hsame : t.titles.map Prod.fst = s.titles.map Prod.fst :=
    ht ▸ map_modify_of_same Prod.fst s.titles i _ fun _ => rfl
  refine ⟨hsame ▸ h.nodup, fun other => ?_, fun e he => ?_⟩
  · rw [hsame, h.exists_title_concat hr]
    refine ⟨Or.inl, fun hother => hother.elim id ?_⟩
    rintro rfl
    exact List.mem_of_getElem? hi
  · rw [ht] at he
    obtain ⟨j, hj⟩ := List.getElem?_of_mem he
    rw [List.getElem?_modify] at hj
    obtain ⟨old, hold, rfl⟩ := Option.map_eq_some_iff.mp hj
    have hname : (s.titles.map Prod.fst)[j]? = some old.1 := by
      rw [List.getElem?_map, hold, Option.map_some]
    have hcolor := h.colors old (List.mem_of_getElem? hold)
    rw [colorOf_title hr]
    by_cases hij : i = j
    · obtain rfl : name = old.1 := Option.some.inj (hi.symm.trans (hij ▸ hname))
      simp [hij, hcolor]
    · have hne : name ≠ old.1 := fun heq => hij <|
        (List.getElem?_inj (List.getElem?_eq_some_iff.mp hi).1 h.nodup).mp
          (hi.trans (heq ▸ hname.symm))
      simp [hij, hne, hcolor]

/-- The first heading of a group adds it. -/
theorem add {color : Option String} (h : s.Titled rs) (hr : r.title? = some (name, color))
    (hnew : name ∉ s.titles.map Prod.fst) (ht : t.titles = s.titles ++ [(name, color)]) :
    t.Titled (rs ++ [r]) := by
  have hnone : colorOf rs name = none := by
    rw [colorOf, List.getLast?_eq_none_iff, List.filterMap_eq_nil_iff]
    intro q hq
    by_contra hcolor
    obtain ⟨color, hcolor⟩ := Option.ne_none_iff_exists'.mp hcolor
    obtain ⟨⟨other, c⟩, htitle, heq⟩ := Option.bind_eq_some_iff.mp hcolor
    split at heq
    · next hother => exact hnew ((h.names name).mpr ⟨q, hq, c, by rw [htitle, ← hother]⟩)
    · cases heq
  refine ⟨?_, fun other => ?_, fun e he => ?_⟩
  · rw [ht, List.map_append, List.map_singleton]
    refine List.nodup_append.mpr ⟨h.nodup, List.nodup_singleton _, ?_⟩
    rintro other hother _ hname rfl
    obtain rfl : other = name := List.mem_singleton.mp hname
    exact hnew hother
  · rw [ht, h.exists_title_concat hr]
    simp
  · rw [ht] at he
    rw [colorOf_title hr]
    rcases List.mem_append.mp he with he | he
    · have hne : name ≠ e.1 := fun heq => hnew (heq ▸ List.mem_map_of_mem he)
      rw [if_neg hne, h.colors e he]
    · obtain rfl := List.mem_singleton.mp he
      rw [if_pos rfl, hnone, Option.or_none]

theorem readGroup (h : s.Titled rs) {heading : Heading} (hr : r.role = .form (.group heading))
    (ht : s.readGroup heading line = .ok t) : t.Titled (rs ++ [r]) := by
  have htitle : r.title? =
      some (String.ofList heading.label, heading.color.map String.ofList) := by
    rw [Row.title?, hr]
  have hnames : s.titles.map Prod.fst = s.diagram.groups.map Group.name := List.map_map
  obtain ⟨-, ⟨i, hi, rfl⟩ | ⟨hnew, rfl⟩⟩ := readGroup_ok ht
  · exact h.repaint htitle (hnames ▸ hi) (map_modify _ _ _ _ _ fun _ => rfl)
  · exact h.add htitle (hnames ▸ hnew) List.map_append

theorem readLine (h : s.Titled rs) {raw : List Char} (ht : s.readLine raw line = .ok t) :
    t.Titled (rs ++ [⟨line, Syntax.indent raw, s.scan.role raw⟩]) := by
  cases hrole : s.scan.role raw with
  | body =>
      obtain ⟨n, -, heq⟩ := readLine_body hrole line
      obtain rfl := Except.ok.inj (heq.symm.trans ht)
      exact h.of_same rfl rfl
  | form form =>
      obtain ⟨-, heq⟩ := readLine_form hrole line
      have hready : (s.ready (Syntax.indent raw)).titles = s.titles :=
        titles_of_groups (congrArg Roster.groups (roster_ready s _))
      have hform : (s.ready (Syntax.indent raw)).Titled rs := by
        refine ⟨?_, ?_, ?_⟩ <;> rw [hready]
        exacts [h.nodup, h.names, h.colors]
      rw [heq] at ht
      cases form with
      | group heading => exact hform.readGroup rfl ht
      | _ => exact hform.of_same (titles_readForm (by simp) ht) rfl

end State.Titled

/-! ### Sections -/

/-- The label, the color and the line of a section. -/
def writing (d : Section) : String × Option String × Nat := (d.label, d.color, d.line)

theorem sections_readSection {h : Heading} (ht : s.readSection h indent line = .ok t) :
    t.diagram.sections.map writing = s.diagram.sections.map writing ++
      [(String.ofList h.label, h.color.map String.ofList, line)] := by
  unfold State.readSection at ht
  split at ht
  · exact absurd ht (State.stop_ne_ok _ _ _)
  · obtain rfl := Except.ok.inj ht
    dsimp only
    have hclosed := (lists_of_besides (besides_closeBlocks s indent false)).2.1
    rw [(lists_of_besides (besides_append _)).2.1]
    dsimp only
    rw [hclosed, List.map_append]
    rfl

theorem sections_readLine {raw : List Char} (ht : s.readLine raw line = .ok t) :
    t.diagram.sections.map writing = s.diagram.sections.map writing ++
      (Row.divider? ⟨line, Syntax.indent raw, s.scan.role raw⟩).toList := by
  cases hrole : s.scan.role raw with
  | body =>
      obtain ⟨n, -, heq⟩ := readLine_body hrole line
      obtain rfl := Except.ok.inj (heq.symm.trans ht)
      exact (List.append_nil _).symm
  | form form =>
      obtain ⟨-, heq⟩ := readLine_form hrole line
      have hready : (s.ready (Syntax.indent raw)).diagram.sections = s.diagram.sections := by
        have h := congrArg (fun s : State => s.diagram.sections)
          (besides_ready s (Syntax.indent raw))
        exact h
      rw [heq] at ht
      rw [← hready]
      cases form with
      | «section» h => exact sections_readSection ht
      | content c =>
          obtain ⟨ps, ms, o, hdiagram⟩ := diagram_readContent ht
          have hclosed := (lists_of_besides (besides_closeBlocks (s.ready (Syntax.indent raw))
            (Syntax.indent raw) (Syntax.startsBranch (Text.trim raw)))).2.1
          rw [hdiagram]
          exact (congrArg (List.map writing) hclosed).trans (List.append_nil _).symm
      | _ =>
          have hdesc := (Describes.readForm (by simp) (by simp) ht).sections
          exact (congrArg (List.map writing) hdesc).trans (List.append_nil _).symm

end

/-! ### Lines of a text -/

/-- The line stands in the text, as the line of an index, outside the bodies of notes. Blanks around
it do not count. -/
def StandsAt (text : List Char) (i : Nat) (line : List Char) : Prop :=
  ∃ raw r, (Text.lines text)[i]? = some raw ∧ Text.trim raw = line ∧ (rows text)[i]? = some r ∧
    r.role ≠ .body

/-- Behind the line of an index, no line declares the participant or gives it a position. -/
def Settled (text : List Char) (i : Nat) (id : String) : Prop :=
  ∀ r ∈ (rows text).drop (i + 1), ∀ m ∈ r.mentions, m.name = id →
    m.declaration? = none ∧ m.position? = none

instance (text : List Char) (i : Nat) (id : String) : Decidable (Settled text i id) :=
  inferInstanceAs (Decidable (∀ r ∈ (rows text).drop (i + 1), ∀ m ∈ r.mentions, m.name = id →
    m.declaration? = none ∧ m.position? = none))

/-- No heading of the group stands on another line than that of the index. -/
def OnlyHeading (text : List Char) (i : Nat) (name : String) : Prop :=
  ∀ r ∈ rows text, r.title?.map Prod.fst = some name → r.number = i + 1

instance (text : List Char) (i : Nat) (name : String) : Decidable (OnlyHeading text i name) :=
  inferInstanceAs (Decidable (∀ r ∈ rows text, r.title?.map Prod.fst = some name →
    r.number = i + 1))

section
variable {text line : List Char} {i : Nat}

theorem number_of_rowsFrom {c : Scan} {number : Nat} {lines : List (List Char)} {r : Row}
    (h : (rowsFrom c number lines)[i]? = some r) : r.number = number + i := by
  induction lines generalizing c number i with
  | nil => cases h
  | cons raw rest ih =>
      cases i with
      | zero =>
          obtain rfl := Option.some.inj h
          rfl
      | succ i =>
          rw [ih h]
          omega

/-- Outside the bodies of notes, a line is what it is read as. -/
theorem StandsAt.exists_row {form : Line} (h : StandsAt text i line)
    (hline : ∀ inGroup, Line.read inGroup line = form) :
    ∃ r, (rows text)[i]? = some r ∧ r.number = i + 1 ∧ r.role = .form form := by
  obtain ⟨raw, r, hraw, rfl, hr, hbody⟩ := h
  refine ⟨r, hr, (number_of_rowsFrom hr).trans (Nat.add_comm 1 i), ?_⟩
  obtain ⟨c, hc⟩ := exists_of_rowsFrom hr hraw
  rw [Scan.role] at hc
  split at hc
  · exact absurd hc hbody
  · rw [hc, hline]

end

end Reader

open Reader
open Lifeline.Syntax (Heading PlainAlias declarationLine groupLine isIdChar sectionLine)

theorem ParticipantKind.ofName?_name (kind : ParticipantKind) : ofName? kind.name = some kind := by
  cases kind <;> decide +kernel

namespace Diagram

variable {text : List Char} {d : Diagram}

/-- A group has the last color that one of its headings gives, and groups have different names. -/
theorem titles_read (h : empty.read text = (none, d)) : (d.groups.map Group.name).Nodup ∧
    (∀ name, name ∈ d.groups.map Group.name ↔
      ∃ r ∈ rows text, ∃ color, r.title? = some (name, color)) ∧
    ∀ g ∈ d.groups, g.color = colorOf (rows text) g.name := by
  obtain ⟨s, hs, rfl⟩ := read_eq_none h
  have hstart : (State.start empty).Titled [] :=
    ⟨.nil, by simp [State.titles, State.start, empty], by simp [State.titles, State.start, empty]⟩
  have hrun := State.readLines_induct (P := fun past _ s => s.Titled past)
    (fun past line s raw t hpast ht => hpast.readLine ht) [] hstart hs
  have hend : s.finish.titles = s.titles :=
    titles_of_groups (congrArg Roster.groups (roster_finish s))
  have hnames : s.titles.map Prod.fst = s.finish.diagram.groups.map Group.name := by
    rw [← hend]
    exact List.map_map
  refine ⟨hnames ▸ hrun.nodup, hnames ▸ hrun.names, fun g hg => ?_⟩
  exact hrun.colors (g.name, g.color) (hend ▸ List.mem_map_of_mem hg)

theorem sections_read (h : empty.read text = (none, d)) :
    d.sections.map writing = (rows text).filterMap Row.divider? := by
  obtain ⟨s, hs, rfl⟩ := read_eq_none h
  have hrun := State.readLines_induct
    (P := fun past _ s => s.diagram.sections.map writing = past.filterMap Row.divider?)
    (fun past line s raw t hpast ht => ?_) [] rfl hs
  · have hend := congrArg (fun s : State => s.diagram.sections) (besides_finish s)
    exact (congrArg (List.map writing) hend).trans hrun
  · rw [sections_readLine ht, hpast, List.filterMap_append]
    cases hrow : Row.divider? ⟨line, Syntax.indent raw, s.scan.role raw⟩ <;> simp [hrow]

/-- The last declaration of a participant, written with an alias and a position, says what it is
like. -/
theorem declaration_read (h : empty.read text = (none, d)) {i : Nat} {id aka : List Char}
    {kind : ParticipantKind} {n : Int} (hne : id ≠ []) (hid : ∀ c ∈ id, isIdChar c = true)
    (haka : PlainAlias aka) (hleast : leastPosition ≤ n) (hgreatest : n ≤ greatestPosition)
    (hstands : StandsAt text i (declarationLine id kind aka n))
    (hlast : Settled text i (String.ofList id)) :
    ∃ p, d.participant? (String.ofList id) = some p ∧ p.kind = kind ∧
      p.label = String.ofList aka ∧ p.position = some n := by
  obtain ⟨r, hr, -, hrole⟩ := hstands.exists_row
    (Syntax.read_declarationLine hne hid haka hleast hgreatest kind)
  let m : Mention := ⟨r.number, .declares ⟨id, kind.name.toList, some aka, some n⟩⟩
  have hmentions := mentions_of_getElem? hr
  have hrow : r.mentions = [m] := by rw [Row.mentions, hrole]
  rw [hrow, List.singleton_append] at hmentions
  obtain ⟨p, hp, hpid, hportrait⟩ := exists_portrait h (m := m) (by rw [hmentions]; simp)
  rw [hmentions] at hportrait
  have hlater : ∀ later ∈ ((rows text).drop (i + 1)).flatMap Row.mentions, later.name = m.name →
      later.declaration? = none ∧ later.position? = none := by
    intro later hmem hname
    obtain ⟨q, hq, hmem⟩ := List.mem_flatMap.mp hmem
    exact hlast q hq later hmem hname
  obtain ⟨hlabel, hkind⟩ := declaration_portrait hportrait rfl
    fun later hmem hname => (hlater later hmem hname).1
  have hposition := position_portrait hportrait rfl
    fun later hmem hname => (hlater later hmem hname).2
  have hname : p.id = String.ofList id := hpid
  refine ⟨p, hname ▸ participant?_of_mem (nodup_ids_read h) hp, ?_, hlabel, hposition⟩
  rw [hkind]
  show (ParticipantKind.ofName? (String.ofList kind.name.toList)).getD .default = kind
  rw [String.ofList_toList, ParticipantKind.ofName?_name, Option.getD_some]

/-- The only heading of a group gives it its color, or none. -/
theorem group_read (h : empty.read text = (none, d)) {i : Nat} {heading : Heading}
    (hplain : heading.Plain) (hstands : StandsAt text i (groupLine heading))
    (honly : OnlyHeading text i (String.ofList heading.label)) :
    ∃ g ∈ d.groups, g.name = String.ofList heading.label ∧
      g.color = heading.color.map String.ofList ∧
      ∀ other ∈ d.groups, other.name = g.name → other = g := by
  obtain ⟨r, hr, hnumber, hrole⟩ := hstands.exists_row (Syntax.read_groupLine hplain)
  obtain ⟨hnodup, hnames, hcolors⟩ := titles_read h
  have htitle : r.title? =
      some (String.ofList heading.label, heading.color.map String.ofList) := by
    rw [Row.title?, hrole]
  have hmem := List.mem_of_getElem? hr
  obtain ⟨g, hg, hname⟩ := List.mem_map.mp ((hnames _).mpr ⟨r, hmem, _, htitle⟩)
  refine ⟨g, hg, hname, ?_, fun other hother heq => List.inj_on_of_nodup_map hnodup hother hg heq⟩
  have hsame : ∀ q ∈ rows text, ∀ c, q.color? (String.ofList heading.label) = some c →
      heading.color.map String.ofList = some c := by
    intro q hq c hc
    obtain ⟨⟨other, color⟩, hother, heq⟩ := Option.bind_eq_some_iff.mp hc
    split at heq
    · next hlabel =>
        obtain rfl : other = String.ofList heading.label := hlabel
        have hqnumber := honly q hq (by rw [hother, Option.map_some])
        obtain ⟨j, hj⟩ := List.getElem?_of_mem hq
        have hij : i = j := by
          have := number_of_rowsFrom hj
          omega
        obtain rfl : r = q := Option.some.inj (hr.symm.trans (hij ▸ hj))
        rw [htitle] at hother
        rw [← heq, (Prod.mk.inj (Option.some.inj hother)).2]
    · cases heq
  rw [hcolors g hg, hname, colorOf]
  cases hlast : ((rows text).filterMap (Row.color? (String.ofList heading.label))).getLast? with
  | some c =>
      obtain ⟨q, hq, hc⟩ := List.mem_filterMap.mp (List.mem_of_getLast? hlast)
      exact (hsame q hq c hc).symm
  | none =>
      have hnil := List.filterMap_eq_nil_iff.mp (List.getLast?_eq_none_iff.mp hlast) r hmem
      rw [Row.color?, htitle, Option.bind_some, if_pos rfl] at hnil
      exact hnil.symm

theorem section_read (h : empty.read text = (none, d)) {i : Nat} {heading : Heading}
    (hplain : heading.Plain) (hstands : StandsAt text i (sectionLine heading)) :
    ∃ s ∈ d.sections, s.label = String.ofList heading.label ∧
      s.color = heading.color.map String.ofList ∧ s.line = i + 1 := by
  obtain ⟨r, hr, hnumber, hrole⟩ := hstands.exists_row (Syntax.read_sectionLine hplain)
  have hdivider : r.divider? =
      some (String.ofList heading.label, heading.color.map String.ofList, i + 1) := by
    rw [Row.divider?, hrole, hnumber]
  have hmem := List.mem_filterMap.mpr ⟨r, List.mem_of_getElem? hr, hdivider⟩
  rw [← sections_read h] at hmem
  obtain ⟨s, hs, hwriting⟩ := List.mem_map.mp hmem
  obtain ⟨hlabel, hrest⟩ := Prod.mk.inj hwriting
  obtain ⟨hcolor, hline⟩ := Prod.mk.inj hrest
  exact ⟨s, hs, hlabel, hcolor, hline⟩

/-- **What is written is read.** In a text that is read to its end, let a line outside the bodies of
notes be written with attributes. A declaration with a kind, an alias and a position of 64 bits
leaves its participant with these three, if no later line declares it or gives it a position. A
group heading leaves a group of exactly its name and its color, or without a color if it is written
without one, if the group has no other heading; and so does a section divider with its section.
Aliases and labels may be any trimmed texts, also such as hold keywords, as long as the alias has no
arrow and no quotes around it and the label no parenthesis; colors are names. -/
theorem attributes_read (h : empty.read text = (none, d)) :
    (∀ (i : Nat) (id : List Char) (kind : ParticipantKind) (aka : List Char) (n : Int),
      id ≠ [] → (∀ c ∈ id, isIdChar c = true) → PlainAlias aka → leastPosition ≤ n →
      n ≤ greatestPosition → StandsAt text i (declarationLine id kind aka n) →
      Settled text i (String.ofList id) →
      ∃ p, d.participant? (String.ofList id) = some p ∧ p.kind = kind ∧
        p.label = String.ofList aka ∧ p.position = some n) ∧
    (∀ (i : Nat) (heading : Heading), heading.Plain → StandsAt text i (groupLine heading) →
      OnlyHeading text i (String.ofList heading.label) →
      ∃ g ∈ d.groups, g.name = String.ofList heading.label ∧
        g.color = heading.color.map String.ofList ∧
        ∀ other ∈ d.groups, other.name = g.name → other = g) ∧
    (∀ (i : Nat) (heading : Heading), heading.Plain → StandsAt text i (sectionLine heading) →
      ∃ s ∈ d.sections, s.label = String.ofList heading.label ∧
        s.color = heading.color.map String.ofList ∧ s.line = i + 1) :=
  ⟨fun _ _ _ _ _ hne hid haka hleast hgreatest => declaration_read h hne hid haka hleast hgreatest,
    fun _ _ => group_read h, fun _ _ => section_read h⟩

/-- A document with an alias and labels that hold keywords, endings and half a pair of quotes. -/
def attributed : List Char :=
  "Db is a database aka 'a queue' aka".toList ++ " position 7".toList ++
    " position -9223372036854775808\n".toList ++
    "## aka position 1 ==) x (light (blue)\n".toList ++ "  Web\n## Plain\nWeb -> Db: ask\n".toList ++
    "== = position 2 == x (tea (green) ==\n".toList ++ "== Done ==".toList

theorem attributes_read_attributed : ∃ d, empty.read attributed = (none, d) ∧
    StandsAt attributed 0 (declarationLine "Db".toList .database
      "'a queue' aka position 7".toList leastPosition) ∧
    (∃ p, d.participant? "Db" = some p ∧ p.kind = .database ∧
      p.label = "'a queue' aka position 7" ∧ p.position = some leastPosition) ∧
    (∃ g ∈ d.groups, g.name = "aka position 1 ==) x" ∧ g.color = some "light (blue" ∧
      ∀ other ∈ d.groups, other.name = g.name → other = g) ∧
    (∃ g ∈ d.groups, g.name = "Plain" ∧ g.color = none ∧
      ∀ other ∈ d.groups, other.name = g.name → other = g) ∧
    (∃ s ∈ d.sections, s.label = "= position 2 == x" ∧ s.color = some "tea (green" ∧
      s.line = 6) ∧
    (∃ s ∈ d.sections, s.label = "Done" ∧ s.color = none ∧ s.line = 7) := by
  have htext : attributed = _ :=
    congrArg₂ _ (congrArg₂ _ (congrArg₂ _ (congrArg₂ _ (congrArg₂ _ (congrArg₂ _
      String.toList_ofList String.toList_ofList) String.toList_ofList) String.toList_ofList)
      String.toList_ofList) String.toList_ofList) String.toList_ofList
  have hread : (empty.read attributed).1 = none ∧
      Text.lines attributed =
        ["Db is a database aka 'a queue' aka position 7 position -9223372036854775808".toList,
          "## aka position 1 ==) x (light (blue)".toList, "  Web".toList, "## Plain".toList,
          "Web -> Db: ask".toList, "== = position 2 == x (tea (green) ==".toList,
          "== Done ==".toList] ∧
      rows attributed =
        [⟨1, 0, .form (.declaration ⟨"Db".toList, "database".toList,
            some "'a queue' aka position 7".toList, some leastPosition⟩)⟩,
          ⟨2, 0, .form (.group ⟨"aka position 1 ==) x".toList, some "light (blue".toList⟩)⟩,
          ⟨3, 2, .form (.member "Web".toList)⟩, ⟨4, 0, .form (.group ⟨"Plain".toList, none⟩)⟩,
          ⟨5, 0, .form (.content (.message ⟨"Web".toList, "Db".toList, "ask".toList, false⟩))⟩,
          ⟨6, 0, .form (.section ⟨"= position 2 == x".toList, some "tea (green".toList⟩)⟩,
          ⟨7, 0, .form (.section ⟨"Done".toList, none⟩)⟩] := by
    rw [htext]
    decide +kernel
  obtain ⟨hnone, hlines, hrows⟩ := hread
  obtain ⟨d, h⟩ : ∃ d, empty.read attributed = (none, d) := ⟨_, read_of_fst _ _ hnone⟩
  obtain ⟨hdeclaration, hgroup, hsection⟩ := attributes_read h
  have hstands : ∀ i raw r, (Text.lines attributed)[i]? = some raw →
      (rows attributed)[i]? = some r → r.role ≠ .body → StandsAt attributed i (Text.trim raw) :=
    fun i raw r hraw hr hbody => ⟨raw, r, hraw, rfl, hr, hbody⟩
  rw [hlines, hrows] at hstands
  have hdb := hstands 0 _ _ rfl rfl (by simp)
  have hlast : Settled attributed 0 (String.ofList "Db".toList) := by
    rw [Settled, hrows]
    decide
  have honly : OnlyHeading attributed 1 (String.ofList "aka position 1 ==) x".toList) ∧
      OnlyHeading attributed 3 (String.ofList "Plain".toList) := by
    rw [OnlyHeading, OnlyHeading, hrows]
    decide
  refine ⟨d, h, hdb, ?_, ?_, ?_, ?_, ?_⟩
  · simpa only [String.ofList_toList] using hdeclaration 0 "Db".toList .database
      "'a queue' aka position 7".toList leastPosition (by decide)
      (List.all_eq_true.mp (by decide)) (by decide) (by decide) (by decide) hdb hlast
  · simpa only [String.ofList_toList, Option.map_some] using
      hgroup 1 ⟨"aka position 1 ==) x".toList, some "light (blue".toList⟩ (by decide)
        (hstands 1 _ _ rfl rfl (by simp)) honly.1
  · simpa only [String.ofList_toList, Option.map_none] using
      hgroup 3 ⟨"Plain".toList, none⟩ (by decide) (hstands 3 _ _ rfl rfl (by simp)) honly.2
  · simpa only [String.ofList_toList, Option.map_some] using
      hsection 5 ⟨"= position 2 == x".toList, some "tea (green".toList⟩ (by decide)
        (hstands 5 _ _ rfl rfl (by simp))
  · simpa only [String.ofList_toList, Option.map_none] using
      hsection 6 ⟨"Done".toList, none⟩ (by decide) (hstands 6 _ _ rfl rfl (by simp))

end Diagram

end Lifeline
