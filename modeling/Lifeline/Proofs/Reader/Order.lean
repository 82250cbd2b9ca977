import Lifeline.Proofs.Reader.Rows

/-! # The order of a document

Entries reach the outline through a stack of open blocks, and a note is added behind the lines of
its body, while the lists of a diagram grow at once. `State.Ordered` says that both stay in step
behind every line: all that has been read stands on increasing lines, below the next one and behind
every group, and the messages and sections among it are those of the lists. At the end of a
document the outline holds everything (`Diagram.walk_read`). -/

namespace Lifeline.Reader

/-- Everything read so far is in the order of its lines, and in step with the lists of the diagram;
`line` is the number of the next line. -/
structure State.Ordered (s : State) (line : Nat) : Prop where
  orderly : s.Orderly
  messages : s.diagram.messages = s.places.filterMap fun p => p.item.message?
  index : s.diagram.messages.map Message.index = List.range s.diagram.messages.length
  sections : s.diagram.sections = s.places.filterMap fun p => p.item.section?
  sorted : s.places.Pairwise fun p q => p.item.line < q.item.line
  below : ∀ p ∈ s.places, p.item.line < line
  note : ∀ n ∈ s.note, n.line < line ∧ ∀ p ∈ s.places, p.item.line < n.line
  groups : ∀ g ∈ s.diagram.groups.map Group.line,
    g < line ∧ (∀ p ∈ s.places, g < p.item.line) ∧ ∀ n ∈ s.note, g < n.line
  /-- Groups come before content. -/
  fresh : s.hasContent = false → s.places = [] ∧ s.note = none

section
variable {s t : State} {line next : Nat}

theorem filterMap_toList {α β : Type} (new : Option α) (f : α → Option β) :
    new.toList.filterMap f = (new.bind f).toList := by
  cases new with
  | none => rfl
  | some a => cases h : f a <;> simp [h]

theorem State.Ordered.congr (h : s.Ordered line) (horderly : t.Orderly)
    (hplaces : t.places = s.places) (hmessages : t.diagram.messages = s.diagram.messages)
    (hsections : t.diagram.sections = s.diagram.sections)
    (hgroups : t.diagram.groups.map Group.line = s.diagram.groups.map Group.line)
    (hnote : t.note.map OpenNote.line = s.note.map OpenNote.line)
    (hcontent : t.hasContent = s.hasContent) : t.Ordered line := by
  have hline : ∀ n ∈ t.note, ∃ m ∈ s.note, m.line = n.line := by
    intro n hn
    have hmap : s.note.map OpenNote.line = some n.line := by
      rw [← hnote, hn]
      rfl
    obtain ⟨m, hm, hmn⟩ := Option.map_eq_some_iff.mp hmap
    exact ⟨m, hm, hmn⟩
  refine ⟨horderly, ?_, ?_, ?_, ?_, ?_, ?_, ?_, ?_⟩
  · rw [hmessages, hplaces, h.messages]
  · rw [hmessages, h.index]
  · rw [hsections, hplaces, h.sections]
  · rw [hplaces]
    exact h.sorted
  · rw [hplaces]
    exact h.below
  · intro n hn
    obtain ⟨m, hm, hmn⟩ := hline n hn
    rw [hplaces, ← hmn]
    exact h.note m hm
  · intro g hg
    rw [hgroups] at hg
    obtain ⟨h1, h2, h3⟩ := h.groups g hg
    refine ⟨h1, hplaces ▸ h2, ?_⟩
    intro n hn
    obtain ⟨m, hm, hmn⟩ := hline n hn
    exact hmn ▸ h3 m hm
  · intro hc
    obtain ⟨h1, h2⟩ := h.fresh (hcontent ▸ hc)
    refine ⟨hplaces.trans h1, ?_⟩
    rwa [h2, Option.map_none, Option.map_eq_none_iff] at hnote

/-- What is added on a line behind everything else keeps the order. -/
theorem State.Ordered.extend {new : Option Place} {here : Nat} (h : s.Ordered line)
    (hext : Extends s t here new) (hplaces : ∀ p ∈ s.places, p.item.line < here)
    (hgroups : ∀ g ∈ s.diagram.groups.map Group.line, g < here) (hhere : here < next)
    (hle : line ≤ next)
    (hfresh : t.hasContent = true ∨ new = none ∧ t.note = none ∧ t.hasContent = s.hasContent)
    (hnote : ∀ n ∈ t.note, n.line = here ∧ new = none) : t.Ordered next := by
  have hmem : ∀ p ∈ t.places, p ∈ s.places ∨ p.item.line = here := by
    intro p hp
    rw [hext.places, List.mem_append, Option.mem_toList] at hp
    exact hp.imp_right (hext.line p)
  refine ⟨hext.orderly h.orderly, ?_, ?_, ?_, ?_, ?_, ?_, ?_, ?_⟩
  · rw [hext.messages, hext.places, List.filterMap_append, filterMap_toList, h.messages]
  · rw [hext.messages, List.map_append, h.index]
    cases hm : new.bind fun p => p.item.message? with
    | none => simp
    | some m => simp [hext.index m hm, List.range_succ]
  · rw [hext.sections, hext.places, List.filterMap_append, filterMap_toList, h.sections]
  · rw [hext.places, List.pairwise_append]
    refine ⟨h.sorted, ?_, ?_⟩
    · cases new <;> simp
    · intro p hp q hq
      rw [hext.line q (Option.mem_toList.mp hq)]
      exact hplaces p hp
  · intro p hp
    rcases hmem p hp with hp | hp
    · exact Nat.lt_of_lt_of_le (h.below p hp) hle
    · omega
  · intro n hn
    obtain ⟨hline, rfl⟩ := hnote n hn
    refine ⟨hline ▸ hhere, ?_⟩
    rw [hext.places, hline]
    simpa using hplaces
  · intro g hg
    rw [hext.groups] at hg
    have hlt := hgroups g hg
    refine ⟨Nat.lt_trans hlt hhere, ?_, ?_⟩
    · intro p hp
      rcases hmem p hp with hp | hp
      · exact (h.groups g hg).2.1 p hp
      · exact hp ▸ hlt
    · intro n hn
      exact (hnote n hn).1 ▸ hlt
  · intro hc
    obtain hcontent | ⟨rfl, hnone, hcontent⟩ := hfresh
    · simp [hc] at hcontent
    · refine ⟨?_, hnone⟩
      rw [hext.places, (h.fresh (hcontent ▸ hc)).1]
      rfl

theorem State.Ordered.later (h : s.Ordered line) (hle : line ≤ next) : s.Ordered next := by
  obtain ⟨h1, h2, h3, h4, h5, hbelow, hnote, hgroups, hfresh⟩ := h
  refine ⟨h1, h2, h3, h4, h5, ?_, ?_, ?_, hfresh⟩
  · exact fun p hp => Nat.lt_of_lt_of_le (hbelow p hp) hle
  · exact fun n hn => ⟨Nat.lt_of_lt_of_le (hnote n hn).1 hle, (hnote n hn).2⟩
  · exact fun g hg => ⟨Nat.lt_of_lt_of_le (hgroups g hg).1 hle, (hgroups g hg).2⟩

/-! ### The invariant along a reading -/

theorem State.Ordered.closeNote (h : s.Ordered line) : s.closeNote.Ordered line := by
  cases hn : s.note with
  | none => rwa [closeNote_of_none hn]
  | some n =>
      obtain ⟨new, hext, -, -, hcontent, hnone⟩ := Extends.closeNote hn
      obtain ⟨hlt, hplaces⟩ := h.note n hn
      refine h.extend hext hplaces (fun g hg => (h.groups g hg).2.2 n hn) hlt le_rfl ?_ ?_
      · left
        rw [hcontent]
        by_contra hc
        have := (h.fresh (by simpa using hc)).2
        simp [hn] at this
      · simp [hnone]

theorem State.Ordered.close (h : s.Ordered line) (horderly : t.Orderly)
    (hplaces : t.places = s.places) (hbesides : t.besides = s.besides) : t.Ordered line := by
  obtain ⟨hmessages, hsections, hgroups⟩ := lists_of_besides hbesides
  exact h.congr horderly hplaces hmessages hsections (congrArg _ hgroups)
    (congrArg _ (note_of_besides hbesides)) (hasContent_of_besides hbesides)

theorem State.Ordered.closeBlocks (h : s.Ordered line) (indent : Nat) (startsBranch : Bool) :
    (s.closeBlocks indent startsBranch).Ordered line :=
  h.close (h.orderly.closeBlocks indent startsBranch) (places_closeBlocks s indent startsBranch)
    (besides_closeBlocks s indent startsBranch)

theorem State.Ordered.closeAll (h : s.Ordered line) : s.closeAll.Ordered line :=
  h.close h.orderly.closeAll (places_closeAll s) (besides_closeAll s)

theorem State.Ordered.ready (h : s.Ordered line) (indent : Nat) :
    (s.ready indent).Ordered line := by
  have hclosed := h.closeNote
  unfold State.ready
  split
  · exact hclosed.congr (hclosed.orderly.congr rfl rfl) (places_congr rfl rfl) rfl rfl rfl rfl rfl
  · exact hclosed

/-- A line of the head adds at most a group, and that in front of all content. -/
theorem State.Ordered.describe (h : s.Ordered line) (hdesc : Describes s t line) :
    t.Ordered (line + 1) := by
  have horderly := h.orderly.congr hdesc.outline hdesc.stack
  have hplaces := places_congr hdesc.outline hdesc.stack
  have hnote := congrArg (Option.map OpenNote.line) hdesc.note
  obtain hgroups | ⟨hfresh, hgroups⟩ := hdesc.groups
  · exact (h.congr horderly hplaces hdesc.messages hdesc.sections hgroups hnote
      hdesc.hasContent).later (Nat.le_succ line)
  · -- a group is new only in front of all content: nothing has been read that it could follow
    obtain ⟨hempty, hnone⟩ := h.fresh hfresh
    have hempty : t.places = [] := hplaces.trans hempty
    have hnone : t.note = none := hdesc.note.trans hnone
    refine ⟨horderly, ?_, ?_, ?_, ?_, ?_, ?_, ?_, fun _ => ⟨hempty, hnone⟩⟩
    · rw [hdesc.messages, hplaces, h.messages]
    · rw [hdesc.messages, h.index]
    · rw [hdesc.sections, hplaces, h.sections]
    · simp [hempty]
    · simp [hempty]
    · simp [hnone]
    · intro g hg
      rw [hgroups, List.mem_append, List.mem_singleton] at hg
      refine ⟨?_, by simp [hempty], by simp [hnone]⟩
      rcases hg with hg | rfl
      · exact Nat.lt_succ_of_lt (h.groups g hg).1
      · exact Nat.lt_succ_self g

theorem State.Ordered.add {r : Row} {new : Option Place} (h : s.Ordered r.number)
    (hadds : Adds s t r new) : t.Ordered (r.number + 1) := by
  have hclosed := h.closeBlocks r.indent r.branch?.isSome
  have hcontent := hasContent_of_besides (besides_closeBlocks s r.indent r.branch?.isSome)
  refine hclosed.extend hadds.ext hclosed.below (fun g hg => (hclosed.groups g hg).1)
    (Nat.lt_succ_self _) (Nat.le_succ _) ?_ fun n hn => ?_
  · rw [hcontent]
    exact hadds.fresh
  · obtain ⟨hline, hnew, -⟩ := hadds.note n hn
    exact ⟨hline, hnew⟩

/-- Each line keeps the order. -/
theorem State.Ordered.readLine {raw : List Char} (h : s.Ordered line)
    (ht : s.readLine raw line = .ok t) : t.Ordered (line + 1) := by
  cases hrole : s.scan.role raw with
  | body =>
      obtain ⟨n, hn, heq⟩ := readLine_body hrole line
      obtain rfl := Except.ok.inj (heq.symm.trans ht)
      apply State.Ordered.later _ (Nat.le_succ line)
      refine h.congr (h.orderly.congr rfl rfl) (places_congr rfl rfl) rfl rfl rfl ?_ rfl
      rw [hn]
      rfl
  | form form =>
      obtain ⟨hform, heq⟩ := readLine_form hrole line
      have hready := h.ready (Syntax.indent raw)
      let r : Row := ⟨line, Syntax.indent raw, .form form⟩
      obtain ⟨-, hdesc⟩ | ⟨-, new, hadds⟩ :=
        readForm_cases (r := r) rfl (note_ready s _) hform (heq ▸ ht)
      · exact hready.describe hdesc
      · exact State.Ordered.add (r := r) hready hadds

theorem ordered_start : (State.start .empty).Ordered 1 := by
  refine ⟨⟨trivial, rfl, ?_, ?_⟩, rfl, rfl, rfl, List.Pairwise.nil, ?_, ?_, ?_, fun _ => ⟨rfl, rfl⟩⟩
  all_goals simp [State.start, Diagram.empty, State.places, Outline.places, stackPlaces]

end

end Lifeline.Reader

namespace Lifeline

open Reader

theorem walk_finish {s : State} (h : s.closeNote.Orderly) :
    s.finish.diagram.outline.walk = s.finish.places := by
  rw [State.finish, Outline.walk_eq_places h.closeAll.outline, State.places, stack_closeAll,
    stackPlaces, List.append_nil]

theorem Diagram.read_eq_none {e d : Diagram} {text : List Char} (h : e.read text = (none, d)) :
    ∃ s, (State.start e).readLines 1 (Text.lines text) = .ok s ∧ d = s.finish.diagram := by
  unfold Diagram.read at h
  split at h
  · simp at h
  · next s hs =>
      refine ⟨s, hs, ?_⟩
      simp only at h
      split at h
      · simp at h
      · exact (Prod.mk.inj h).2.symm

theorem Diagram.read_of_fst (e : Diagram) (text : List Char) (h : (e.read text).1 = none) :
    e.read text = (none, (e.read text).2) := by
  rw [← h]

/-- The diagram of a reading that ends well is what an ordered state without open blocks holds. -/
theorem Diagram.exists_ordered {text : List Char} {d : Diagram}
    (h : empty.read text = (none, d)) :
    ∃ (s : State) (line : Nat), s.Ordered line ∧ s.diagram = d ∧ s.places = d.outline.walk := by
  obtain ⟨s, hs, rfl⟩ := read_eq_none h
  have hordered := State.readLines_induct (P := fun _ line s => s.Ordered line)
    (fun _ _ _ _ _ h ht => h.readLine ht) [] ordered_start hs
  have hclosed := hordered.closeNote
  exact ⟨s.finish, _, hclosed.closeAll, rfl, (walk_finish hclosed.orderly).symm⟩

theorem getElem?_of_map_eq_range {α : Type} {f : α → Nat} {xs : List α}
    (h : xs.map f = List.range xs.length) {x : α} (hx : x ∈ xs) : xs[f x]? = some x := by
  obtain ⟨i, hi⟩ := List.mem_iff_getElem?.mp hx
  have hlt : i < xs.length := (List.getElem?_eq_some_iff.mp hi).1
  have hf : (xs.map f)[i]? = some (f x) := by rw [List.getElem?_map, hi, Option.map_some]
  rw [h, List.getElem?_range hlt] at hf
  rwa [← Option.some.inj hf]

/-- **What has been read stands in the order of the document.** In a diagram read from a text the
messages of the outline are those of the list, in its order and under their indices, and so are the
section dividers; the walk through the outline meets increasing lines, and every group comes before
everything that the walk meets. -/
theorem Diagram.walk_read {text : List Char} {d : Diagram} (h : empty.read text = (none, d)) :
    d.outline.messageIndices = List.range d.messages.length ∧
      d.outline.walk.filterMap (fun p => p.item.message?) = d.messages ∧
      (∀ m ∈ d.outline.messages, d.messages[m.index]? = some m) ∧
      d.outline.walk.filterMap (fun p => p.item.section?) = d.sections ∧
      d.outline.walk.Pairwise (fun p q => p.item.line < q.item.line) ∧
      ∀ g ∈ d.groups, ∀ p ∈ d.outline.walk, g.line < p.item.line := by
  obtain ⟨s, line, hordered, rfl, hwalk⟩ := exists_ordered h
  have hmessages : s.diagram.outline.messages = s.diagram.messages := by
    rw [Outline.messages_eq_filterMap_places [], ← Outline.walk_eq_places hordered.orderly.outline,
      ← hwalk, hordered.messages]
  refine ⟨?_, ?_, ?_, ?_, ?_, ?_⟩
  · rw [Outline.messageIndices, hmessages, hordered.index]
  · rw [← hwalk, hordered.messages]
  · intro m hm
    exact getElem?_of_map_eq_range hordered.index (hmessages ▸ hm)
  · rw [← hwalk, hordered.sections]
  · rw [← hwalk]
    exact hordered.sorted
  · intro g hg
    rw [← hwalk]
    exact (hordered.groups g.line (List.mem_map_of_mem hg)).2.1

/-- A document with a group, a section divider, branches and a note of several lines. -/
def branching : List Char :=
  "## Back\n  Db\n== Start ==\nif cached\n  App -> App: use\nelse if stale\n  App -> Db: ask
  note\n    slow\nelse\n  App ~> Log: miss\nApp -> Log: done".toList

theorem Diagram.walk_read_branching : ∃ d, empty.read branching = (none, d) ∧
    d.outline.walk.map (fun p => p.item.line) = [3, 4, 5, 6, 7, 8, 10, 11, 12] ∧
    d.outline.messageIndices = List.range d.messages.length ∧
    d.outline.walk.filterMap (fun p => p.item.message?) = d.messages ∧
    (∀ m ∈ d.outline.messages, d.messages[m.index]? = some m) ∧
    d.outline.walk.filterMap (fun p => p.item.section?) = d.sections ∧
    d.outline.walk.Pairwise (fun p q => p.item.line < q.item.line) ∧
    ∀ g ∈ d.groups, ∀ p ∈ d.outline.walk, g.line < p.item.line := by
  have hread : (empty.read branching).1 = none ∧
      (empty.read branching).2.outline.walk.map (fun p => p.item.line) =
        [3, 4, 5, 6, 7, 8, 10, 11, 12] := by
    unfold branching
    rw [String.toList_ofList]
    decide +kernel
  have h := read_of_fst empty branching hread.1
  exact ⟨_, h, hread.2, walk_read h⟩

end Lifeline
