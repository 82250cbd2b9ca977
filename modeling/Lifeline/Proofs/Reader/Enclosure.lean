import Lifeline.Proofs.Reader.Indentation
import Lifeline.Proofs.Reader.Order

/-! # What a block encloses

The reader closes blocks from the innermost one on, and keeps a block open for a branch line
whether or not it can take the branch. Since the open blocks are indented less and less, and since
a branch in a parallel block is a fault, this comes to keeping the blocks that the row leaves open
(`frames_readContent`): behind every line the open blocks are those of the rows. So the path of
everything in the outline is the one at which its row stands (`Diagram.path_read`). -/

namespace Lifeline.Reader

open Lifeline.Syntax (Content)

/-! ### The open blocks behind a line -/

section
variable {s t u : State} {r : Row} {fs : List Frame}

theorem arm_eq_otherwise (h : u.Orderly) {b : OpenBlock} (hb : b ∈ u.stack) :
    b.arm = .otherwise ↔ b.hasElse = true :=
  (h.body b hb).lastArm_eq.trans (h.hasElse b hb).symm

theorem endsAt_eq_false {indent : Nat} {startsBranch : Bool} {f : Frame} :
    f.endsAt indent startsBranch = false ↔
      f.indent < indent ∨ f.indent = indent ∧ startsBranch = true ∧ f.head.kind ≠ .loop := by
  unfold Frame.endsAt
  by_cases hlt : f.indent < indent
  · simp [hlt, Nat.not_le.mpr hlt]
  · simp [hlt, Nat.not_lt.mp hlt, and_assoc, and_left_comm]

theorem not_of_mem_head {p : Frame → Bool} {f : Frame} (h : f ∈ (fs.dropWhile p).head?) :
    p f = false := by
  have hhead := List.head?_dropWhile_not p fs
  rw [Option.mem_def.mp h] at hhead
  exact hhead

/-- Closing blocks one by one is keeping those that the row leaves open, unless the row starts a
branch of a parallel block. -/
theorem dropWhile_endsAt (hr : r.isStructural = true)
    (hs : Descending fs)
    (hparallel : ∀ f ∈ (fs.dropWhile (Frame.endsAt r.indent r.branch?.isSome)).head?,
      f.indent = r.indent → r.branch?.isSome = true → f.head.kind ≠ .parallel) :
    fs.dropWhile (Frame.endsAt r.indent r.branch?.isSome) = fs.filter r.keeps := by
  induction fs with
  | nil => rfl
  | cons f fs ih =>
      obtain ⟨hf, hs⟩ := List.pairwise_cons.mp hs
      cases hends : f.endsAt r.indent r.branch?.isSome with
      | true =>
          rw [List.dropWhile_cons_of_pos hends] at hparallel ⊢
          rw [List.filter_cons_of_neg, ih hs hparallel]
          intro hkeeps
          have hno : f.endsAt r.indent r.branch?.isSome = false := by
            rw [endsAt_eq_false]
            rcases (keeps_iff hr).mp hkeeps with hlt | ⟨hkind, hindent, hbranch⟩
            · exact Or.inl hlt
            · exact Or.inr ⟨hindent.symm, hbranch, by simp [hkind]⟩
          simp [hends] at hno
      | false =>
          rw [List.dropWhile_cons_of_neg (by simp [hends])] at hparallel ⊢
          have hopen := endsAt_eq_false.mp hends
          refine (List.filter_eq_self.mpr ?_).symm
          intro g hg
          rw [keeps_iff hr]
          rcases List.mem_cons.mp hg with rfl | hg
          · rcases hopen with hlt | ⟨hindent, hbranch, hloop⟩
            · exact Or.inl hlt
            · refine Or.inr ⟨?_, hindent.symm, hbranch⟩
              have hpar := hparallel g rfl hindent hbranch
              cases hk : g.head.kind with
              | choice => rfl
              | loop => exact absurd hk hloop
              | parallel => exact absurd hk hpar
          · left
            have := hf g hg
            omega

/-- A branch changes the arm of the block of its indentation, if that has no `else`; it is a fault
in a parallel block. -/
theorem frames_readBranch {label : Option (List Char)}
    (hbranch : r.branch? = some ⟨label.map String.ofList, r.number⟩) (horderly : u.Orderly)
    (hs : Descending u.frames)
    (hopen : ∀ f ∈ u.frames.head?,
      f.indent ≤ r.indent ∧ (f.indent = r.indent → f.head.kind ≠ .loop))
    (ht : u.readBranch label r.indent r.number = .ok t) :
    t.frames = u.frames.map r.enter ∧
      ∀ f ∈ u.frames.head?, f.indent = r.indent → f.head.kind ≠ .parallel := by
  cases hstack : u.stack with
  | nil =>
      have hframes : u.frames = [] := by rw [State.frames, hstack, List.map_nil]
      obtain ⟨rfl, -⟩ | ⟨b, bs, hcons, -⟩ := readBranch_ok ht
      · rw [hframes]
        exact ⟨hframes, by simp⟩
      · simp [hstack] at hcons
  | cons b bs =>
      have hframes : u.frames = b.frame :: bs.map OpenBlock.frame := by
        rw [State.frames, hstack, List.map_cons]
      rw [hframes] at hs hopen ⊢
      obtain ⟨hle, hloop⟩ := hopen b.frame rfl
      have htail : (bs.map OpenBlock.frame).map r.enter = bs.map OpenBlock.frame :=
        map_enter_of_lt fun f hf => Nat.lt_of_lt_of_le ((List.pairwise_cons.mp hs).1 f hf) hle
      have helse := arm_eq_otherwise horderly (hstack ▸ List.mem_cons_self : b ∈ u.stack)
      rw [List.map_cons, htail]
      obtain ⟨rfl, hpassed⟩ | ⟨c, cs, hcons, hindent, hkind, hnone, rfl⟩ := readBranch_ok ht
      · have hhead := hpassed b (by simp [hstack])
        constructor
        · have henter : r.enter b.frame = b.frame := by
            by_cases hindent : b.indent = r.indent
            · rcases hhead hindent with hkind | ⟨-, hflag⟩
              · exact absurd hkind (hloop hindent)
              · exact enter_of_otherwise (helse.mpr hflag)
            · exact enter_of_ne fun heq => hindent heq.symm
          rw [henter]
          exact hframes
        · rintro _ ⟨rfl⟩ hindent hparallel
          rcases hhead hindent with hkind | ⟨hkind, -⟩
          · exact absurd (hkind.symm.trans hparallel) (by decide)
          · exact absurd (hkind.symm.trans hparallel) (by decide)
      · obtain ⟨rfl, rfl⟩ := List.cons.inj (hstack.symm.trans hcons)
        constructor
        · have harm : b.frame.arm ≠ .otherwise := by
            show b.arm ≠ .otherwise
            simp [helse, hnone]
          rw [enter_of_some hbranch hindent.symm harm]
          simp only [State.frames, List.map_cons, OpenBlock.frame, OpenBlock.arm, Outline.lastArm,
            Outline.branches_append, Entry.alone, Outline.branches, Entry.branch?,
            Option.toList_some, List.append_nil, List.getLast?_concat, Option.map_some,
            Option.getD_some]
        · rintro _ ⟨rfl⟩ - hparallel
          exact absurd (hkind.symm.trans hparallel) (by decide)

theorem frames_readContent_plain {c : Content} {indent line : Nat}
    (hb : Content.branch? line c = none) (ht : u.readContent c indent line = .ok t) :
    t.frames =
      ((Content.head? line c).toList.map fun head => ⟨head, indent, .main⟩) ++ u.frames := by
  cases c with
  | asyncKeyword => exact absurd ht (State.stop_ne_ok _ _ _)
  | message statement =>
      obtain rfl := Except.ok.inj ht
      obtain ⟨m, -, hframes, -⟩ := Extends.readMessage u statement line
      exact hframes
  | block kind label =>
      obtain rfl := Except.ok.inj ht
      rfl
  | branch label => simp [Content.branch?] at hb
  | note header =>
      obtain rfl := Except.ok.inj ht
      cases htext : header.text with
      | none =>
          obtain ⟨n, -, -, heq⟩ := readNote_of_none htext u indent line
          rw [heq]
          rfl
      | some text =>
          obtain ⟨after, heq⟩ := readNote_of_text htext u indent line
          rw [heq]
          obtain ⟨new, -, -, hframes, -⟩ := Extends.addNote { u with hasContent := true } _ _
            text line after
          exact hframes
  | other =>
      obtain rfl := Except.ok.inj ht
      rfl

/-- Behind a line of content the open blocks are those of the rows. -/
theorem frames_readContent {c : Content} (hc : r.content? = some c) (hs : Descending s.frames)
    (horderly : s.Orderly)
    (ht : (s.closeBlocks r.indent r.branch?.isSome).readContent c r.indent r.number = .ok t) :
    t.frames = advance s.frames r := by
  have hr := isStructural_of_content hc
  have hframes := frames_closeBlocks s r.indent r.branch?.isSome
  have hopens : r.opens? = Content.head? r.number c := by rw [Row.opens?, hc, Option.bind_some]
  have hbranch : r.branch? = Content.branch? r.number c := by rw [Row.branch?, hc, Option.bind_some]
  cases hb : Content.branch? r.number c with
  | none =>
      rw [frames_readContent_plain hb ht, hframes, dropWhile_endsAt hr hs (by simp [hbranch, hb]),
        advance_of_branch (hbranch.trans hb), Row.opened, hopens]
  | some x =>
      obtain ⟨label, rfl⟩ : ∃ label, c = .branch label := by
        cases c <;> first | exact ⟨_, rfl⟩ | simp [Content.branch?] at hb
      have hopen : ∀ f ∈ (s.closeBlocks r.indent r.branch?.isSome).frames.head?,
          f.indent ≤ r.indent ∧ (f.indent = r.indent → f.head.kind ≠ .loop) := by
        rw [hframes]
        intro f hf
        rcases endsAt_eq_false.mp (not_of_mem_head hf) with hlt | ⟨hindent, -, hloop⟩
        · exact ⟨Nat.le_of_lt hlt, fun heq => absurd heq (Nat.ne_of_lt hlt)⟩
        · exact ⟨Nat.le_of_eq hindent, fun _ => hloop⟩
      obtain ⟨hmap, hparallel⟩ := frames_readBranch hbranch (horderly.closeBlocks _ _)
        (hframes ▸ hs.sublist (List.dropWhile_sublist _)) hopen ht
      rw [hframes] at hmap hparallel
      rw [hmap, dropWhile_endsAt hr hs fun f hf hindent _ => hparallel f hf hindent, advance,
        opened_of_none hopens, List.nil_append]

theorem frames_readForm {form : Syntax.Line} {text : List Char} {inGroup : Bool}
    (hrole : r.role = .form form) (hr : r.isStructural = true)
    (hform : form = Syntax.Line.read inGroup text) (hs : Descending s.frames)
    (horderly : s.Orderly) (ht : s.readForm form text r.indent r.number = .ok t) :
    t.frames = advance s.frames r := by
  cases form with
  | «section» heading =>
      obtain ⟨hopens, hbranch⟩ := plain_of_section hrole
      obtain ⟨d, -, hframes, -⟩ := Extends.readSection ht
      have hclosed := dropWhile_endsAt hr hs (by simp [hbranch])
      rw [hbranch] at hclosed
      rw [hframes, frames_closeBlocks, advance_of_branch hbranch, opened_of_none hopens,
        List.nil_append]
      exact hclosed
  | content c =>
      refine frames_readContent (by rw [Row.content?, hrole]) hs horderly ?_
      rw [isSome_branch hrole hform]
      exact ht
  | _ => simp [Row.isStructural, hrole] at hr

end

/-! ### The invariant along a reading -/

/-- A row of a line has a path; it starts no branch and opens a block as given. -/
def Stands (past : List Row) (line : Nat) (block? : Option BlockHead) (path : Path) : Prop :=
  ∃ before l after, past = before ++ l :: after ∧ l.number = line ∧ l.isStructural = true ∧
    l.branch? = none ∧ l.opens? = block? ∧ path = pathAt before l

/-- The open blocks are those of the rows read so far, and everything read stands at the path of its
row; branches stand inside their blocks. -/
structure State.Indented (s : State) (past : List Row) : Prop where
  orderly : s.Orderly
  frames : s.frames = openFrames past
  note : ∀ n ∈ s.note, Stands past n.line none s.path
  places : ∀ p ∈ s.places, p.item.isBranch = false →
    Stands past p.item.line p.item.block? p.path

section
variable {s t : State} {past : List Row} {r : Row} {line : Nat} {block? : Option BlockHead}
  {path : Path}

theorem Stands.append (h : Stands past line block? path) (r : Row) :
    Stands (past ++ [r]) line block? path := by
  obtain ⟨before, l, after, rfl, hl⟩ := h
  exact ⟨before, l, after ++ [r], by simp, hl⟩

theorem stands_last (past : List Row) (hr : r.isStructural = true) (hb : r.branch? = none) :
    Stands (past ++ [r]) r.number r.opens? (pathAt past r) :=
  ⟨past, r, [], rfl, rfl, hr, hb, rfl, rfl⟩

theorem State.Indented.closeNote (h : s.Indented past) : s.closeNote.Indented past := by
  cases hn : s.note with
  | none => rwa [closeNote_of_none hn]
  | some n =>
      obtain ⟨new, hext, hitem, hframes, -, hnone⟩ := Extends.closeNote hn
      refine ⟨hext.orderly h.orderly, hframes.trans h.frames, by simp [hnone], ?_⟩
      intro p hp hb
      rw [hext.places, List.mem_append, Option.mem_toList] at hp
      rcases hp with hp | hp
      · exact h.places p hp hb
      · obtain ⟨m, hm⟩ := hitem p hp
        rw [hext.line p hp, hext.path p hp hb, hm]
        exact h.note n hn

theorem State.Indented.ready (h : s.Indented past) (indent : Nat) :
    (s.ready indent).Indented past := by
  obtain ⟨horderly, hframes, hnote, hplaces⟩ := h.closeNote
  unfold State.ready
  split
  · exact ⟨horderly.congr rfl rfl, hframes, hnote, hplaces⟩
  · exact ⟨horderly, hframes, hnote, hplaces⟩

theorem State.Indented.pass (h : s.Indented past) (hr : r.isStructural = false)
    (houtline : t.diagram.outline = s.diagram.outline) (hstack : t.stack = s.stack)
    (hnote : ∀ n ∈ t.note, ∃ m ∈ s.note, m.line = n.line) : t.Indented (past ++ [r]) := by
  have hframes := frames_congr hstack
  refine ⟨h.orderly.congr houtline hstack, ?_, ?_, ?_⟩
  · rw [hframes, h.frames, openFrames_append, advance_of_not_structural hr]
  · intro n hn
    obtain ⟨m, hm, hmn⟩ := hnote n hn
    have hpath : t.path = s.path := congrArg framesPath hframes
    rw [hpath, ← hmn]
    exact (h.note m hm).append r
  · intro p hp hb
    rw [places_congr houtline hstack] at hp
    exact (h.places p hp hb).append r

/-- What a structural row adds stands in the blocks that it leaves open. -/
theorem State.Indented.add {new : Option Place} (h : s.Indented past)
    (hr : r.isStructural = true) (hadds : Adds s t r new)
    (hframes : t.frames = advance s.frames r) : t.Indented (past ++ [r]) := by
  obtain ⟨hext, hitem, -, hnote⟩ := hadds
  have hopen : r.branch? = none →
      (s.closeBlocks r.indent r.branch?.isSome).path = pathAt past r := by
    intro hb
    have hs : Descending s.frames := h.frames ▸ descending_openFrames past
    rw [State.path, frames_closeBlocks, dropWhile_endsAt hr hs (by simp [hb]), h.frames]
    rfl
  refine ⟨hext.orderly (h.orderly.closeBlocks _ _), ?_, ?_, ?_⟩
  · rw [hframes, h.frames, openFrames_append]
  · intro n hn
    obtain ⟨hline, -, hopens, hb⟩ := hnote n hn
    have hpath : t.path = pathAt past r := by
      rw [State.path, hframes, advance_of_branch hb, opened_of_none hopens, h.frames]
      rfl
    rw [hline, hpath, ← hopens]
    exact stands_last past hr hb
  · intro p hp hb
    rw [hext.places, places_closeBlocks, List.mem_append, Option.mem_toList] at hp
    rcases hp with hp | hp
    · exact (h.places p hp hb).append r
    · obtain ⟨hblock, hbranch⟩ := hitem p hp
      have hnone : r.branch? = none := by simpa [hb] using hbranch
      rw [hext.line p hp, hext.path p hp hb, hblock, hopen hnone]
      exact stands_last past hr hnone

theorem State.Indented.readLine {raw : List Char} (h : s.Indented past)
    (ht : s.readLine raw line = .ok t) :
    t.Indented (past ++ [⟨line, Syntax.indent raw, s.scan.role raw⟩]) := by
  cases hrole : s.scan.role raw with
  | body =>
      obtain ⟨n, hn, heq⟩ := readLine_body hrole line
      obtain rfl := Except.ok.inj (heq.symm.trans ht)
      refine h.pass rfl rfl rfl ?_
      rintro _ ⟨rfl⟩
      exact ⟨n, hn, rfl⟩
  | form form =>
      obtain ⟨hform, heq⟩ := readLine_form hrole line
      have hready := h.ready (Syntax.indent raw)
      have hdescending := hready.frames ▸ descending_openFrames past
      let r : Row := ⟨line, Syntax.indent raw, .form form⟩
      rw [heq] at ht
      obtain ⟨hr, hdesc⟩ | ⟨hr, new, hadds⟩ := readForm_cases (r := r) rfl (note_ready s _) hform ht
      · exact hready.pass hr hdesc.outline hdesc.stack (by simp [hdesc.note, note_ready])
      · exact hready.add hr hadds
          (frames_readForm (r := r) rfl hr hform hdescending hready.orderly ht)

theorem indented_start : (State.start .empty).Indented [] := by
  refine ⟨ordered_start.orderly, rfl, ?_, ?_⟩
  · simp [State.start]
  · simp [State.start, Diagram.empty, State.places, Outline.places, stackPlaces]

end

end Lifeline.Reader

namespace Lifeline

open Reader

/-- **Blocks enclose by indentation.** In a diagram read from a text, whatever is met on the walk
through the outline, branches apart, stands on a line of the text. It lies inside a block exactly if
the block is opened on an earlier line that is indented less and every structural line in between
leaves the block open; and it lies in the arm to which the branches in between lead. -/
theorem Diagram.path_read {text : List Char} {d : Diagram} (h : empty.read text = (none, d))
    {p : Place} (hp : p ∈ d.outline.walk) (hb : p.item.isBranch = false) :
    ∃ before l after, rows text = before ++ l :: after ∧ l.number = p.item.line ∧
      l.isStructural = true ∧ l.opens? = p.item.block? ∧
      ∀ head arm, (head, arm) ∈ p.path ↔
        ∃ front b between, before = front ++ b :: between ∧ b.opens? = some head ∧
          b.Encloses head.kind between l ∧ arm = armBehind b.indent between := by
  obtain ⟨s, hs, rfl⟩ := read_eq_none h
  have hindented := State.readLines_induct (P := fun past _ s => s.Indented past)
    (fun _ _ _ _ _ h ht => h.readLine ht) [] indented_start hs
  obtain ⟨horderly, -, -, hplaces⟩ := hindented.closeNote
  have hwalk : s.finish.diagram.outline.walk = s.closeNote.places :=
    (walk_finish horderly).trans (places_closeAll _)
  rw [hwalk] at hp
  obtain ⟨before, l, after, hrows, hline, hl, hbranch, hopens, hpath⟩ := hplaces p hp hb
  refine ⟨before, l, after, hrows, hline, hl, hopens, fun head arm => ?_⟩
  rw [hpath]
  exact mem_pathAt hl hbranch

/-- A document with a comment inside a block, and a line without meaning that ends one. -/
def nested : List Char :=
  "if ready\n  App -> Db: ask\nelse\n  loop retry\n    App -> Log: miss\n// remark
    Log -> App: noted\nskipped\n  App -> Log: done".toList

theorem Diagram.path_read_nested : ∃ d p, empty.read nested = (none, d) ∧
    p ∈ d.outline.walk ∧ p.item.isBranch = false ∧ p.item.line = 7 ∧
    p.path.map (fun e => (e.1.line, e.2)) = [(4, .main), (1, .otherwise)] ∧
    ∃ before l after, rows nested = before ++ l :: after ∧ l.number = p.item.line ∧
      l.isStructural = true ∧ l.opens? = p.item.block? ∧
      ∀ head arm, (head, arm) ∈ p.path ↔
        ∃ front b between, before = front ++ b :: between ∧ b.opens? = some head ∧
          b.Encloses head.kind between l ∧ arm = armBehind b.indent between := by
  have hread : (empty.read nested).1 = none ∧
      ∃ p ∈ (empty.read nested).2.outline.walk, p.item.isBranch = false ∧ p.item.line = 7 ∧
        p.path.map (fun e => (e.1.line, e.2)) = [(4, .main), (1, .otherwise)] := by
    unfold nested
    rw [String.toList_ofList]
    decide +kernel
  obtain ⟨hnone, p, hp, hb, hline, hpath⟩ := hread
  have h := read_of_fst empty nested hnone
  exact ⟨_, p, h, hp, hb, hline, hpath, path_read h hp hb⟩

end Lifeline
