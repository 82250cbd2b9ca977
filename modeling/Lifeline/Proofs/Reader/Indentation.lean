import Lifeline.Proofs.Reader.Rows
import Mathlib.Data.List.Induction

/-! # Blocks by indentation

Which blocks are open behind some rows can be told from the rows alone: one that opens a block adds
it, and a structural row closes those that it does not leave open (`openFrames`). A row leaves a
block open if it is indented deeper, or if it starts a branch of a choice at the choice's own
indentation. So a block is open exactly if every structural row behind its head leaves it open, and
its arm is that of the branches at its indentation (`mem_openFrames`). -/

namespace Lifeline.Reader

namespace Row

/-- The row is indented deeper than a block, or starts a branch of it. -/
def LeavesOpen (r : Row) (kind : BlockKind) (indent : Nat) : Prop :=
  indent < r.indent ∨ kind = .choice ∧ r.indent = indent ∧ r.branch?.isSome = true

instance (r : Row) (kind : BlockKind) (indent : Nat) : Decidable (r.LeavesOpen kind indent) :=
  inferInstanceAs (Decidable (_ ∨ _))

/-- The row `l`, behind the rows `between` that follow `b`, lies in the block that `b` opens. -/
def Encloses (b : Row) (kind : BlockKind) (between : List Row) (l : Row) : Prop :=
  b.indent < l.indent ∧ ∀ m ∈ between, m.isStructural = true → m.LeavesOpen kind b.indent

/-- The row leaves the open block open. -/
def keeps (r : Row) (f : Frame) : Bool := !r.isStructural || r.LeavesOpen f.head.kind f.indent

/-- The open block behind the row: its branch starts another arm, unless an `else` came before. -/
def enter (r : Row) (f : Frame) : Frame :=
  match r.branch? with
  | some x => if r.indent = f.indent ∧ f.arm ≠ .otherwise then { f with arm := x.arm } else f
  | none => f

/-- The block that the row opens, if it opens one. -/
def opened (r : Row) : List Frame := r.opens?.toList.map fun head => ⟨head, r.indent, .main⟩

end Row

/-- The branches of some indentation that rows start. -/
def branchesAt (indent : Nat) (between : List Row) : List Branch :=
  (between.filter fun m => m.indent = indent).filterMap Row.branch?

/-- The arm of a block of some indentation behind the rows that follow its head: that of `else`, if
one of them is an `else` of this indentation, otherwise that of the last `else if` among them. -/
def armBehind (indent : Nat) (between : List Row) : Arm :=
  if (branchesAt indent between).any Branch.isElse then .otherwise
  else
    match (branchesAt indent between).getLast? with
    | some x => .elseIf x.line
    | none => .main

/-- The blocks that are open behind one more row. -/
def advance (fs : List Frame) (r : Row) : List Frame := r.opened ++ (fs.filter r.keeps).map r.enter

/-- The blocks that are open behind rows, innermost first. -/
def openFrames (past : List Row) : List Frame := past.foldl advance []

/-- The blocks are indented less and less, from the innermost one on. -/
def Descending (fs : List Frame) : Prop := fs.Pairwise fun f g => g.indent < f.indent

theorem openFrames_append (past : List Row) (r : Row) :
    openFrames (past ++ [r]) = advance (openFrames past) r := by
  rw [openFrames, List.foldl_append]
  rfl

section
variable {r : Row} {f g : Frame}

@[simp] theorem head_enter (r : Row) (f : Frame) : (r.enter f).head = f.head := by
  unfold Row.enter
  split
  · split <;> rfl
  · rfl

@[simp] theorem indent_enter (r : Row) (f : Frame) : (r.enter f).indent = f.indent := by
  unfold Row.enter
  split
  · split <;> rfl
  · rfl

theorem enter_of_none (h : r.branch? = none) (f : Frame) : r.enter f = f := by
  unfold Row.enter
  rw [h]

theorem enter_of_ne (h : r.indent ≠ f.indent) : r.enter f = f := by
  unfold Row.enter
  split
  · exact if_neg fun hboth => h hboth.1
  · rfl

theorem enter_of_otherwise (h : f.arm = .otherwise) : r.enter f = f := by
  unfold Row.enter
  split
  · exact if_neg fun hboth => hboth.2 h
  · rfl

theorem map_enter_of_lt {fs : List Frame} (h : ∀ f ∈ fs, f.indent < r.indent) :
    fs.map r.enter = fs := by
  have hid : ∀ f ∈ fs, r.enter f = id f := fun f hf => enter_of_ne (Nat.ne_of_gt (h f hf))
  rw [List.map_congr_left hid, List.map_id]

theorem enter_of_some {x : Branch} (h : r.branch? = some x) (hi : r.indent = f.indent)
    (harm : f.arm ≠ .otherwise) : r.enter f = { f with arm := x.arm } := by
  unfold Row.enter
  rw [h]
  exact if_pos ⟨hi, harm⟩

theorem keeps_congr (hhead : f.head = g.head) (hindent : f.indent = g.indent) :
    r.keeps f = r.keeps g := by
  unfold Row.keeps
  rw [hhead, hindent]

theorem keeps_of_not_structural (h : r.isStructural = false) (f : Frame) : r.keeps f = true := by
  simp [Row.keeps, h]

theorem isStructural_of_content {c : Syntax.Content} (h : r.content? = some c) :
    r.isStructural = true := by
  unfold Row.content? at h
  unfold Row.isStructural
  split at h
  · next heq => rw [heq]
  · simp at h

theorem content_of_opens {head : BlockHead} (h : r.opens? = some head) :
    ∃ c, r.content? = some c ∧ Content.head? r.number c = some head :=
  Option.bind_eq_some_iff.mp h

theorem branch_of_opens {head : BlockHead} (h : r.opens? = some head) : r.branch? = none := by
  obtain ⟨c, hc, hhead⟩ := content_of_opens h
  rw [Row.branch?, hc]
  cases c <;> first | rfl | simp [Content.head?] at hhead

theorem keeps_iff (hr : r.isStructural = true) :
    r.keeps f = true ↔ r.LeavesOpen f.head.kind f.indent := by
  simp [Row.keeps, hr]

/-- A row that starts no branch leaves only the blocks open that are indented less. -/
theorem keeps_iff_of_plain (hr : r.isStructural = true) (hb : r.branch? = none) :
    r.keeps f = true ↔ f.indent < r.indent := by
  rw [keeps_iff hr]
  simp [Row.LeavesOpen, hb]

theorem mem_opened : f ∈ r.opened ↔
    r.opens? = some f.head ∧ f.indent = r.indent ∧ f.arm = .main := by
  unfold Row.opened
  rw [List.mem_map]
  constructor
  · rintro ⟨head, hhead, rfl⟩
    exact ⟨Option.mem_toList.mp hhead, rfl, rfl⟩
  · rintro ⟨hhead, hindent, harm⟩
    refine ⟨f.head, Option.mem_toList.mpr hhead, ?_⟩
    rw [← hindent, ← harm]

theorem mem_advance {fs : List Frame} : f ∈ advance fs r ↔
    f ∈ r.opened ∨ ∃ g ∈ fs, r.keeps g = true ∧ r.enter g = f := by
  simp only [advance, List.mem_append, List.mem_map, List.mem_filter, and_assoc]

end

/-! ### The open blocks -/

theorem descending_openFrames (past : List Row) : Descending (openFrames past) := by
  induction past using List.reverseRecOn with
  | nil => exact List.Pairwise.nil
  | append_singleton past r ih =>
      rw [openFrames_append, advance, Descending, List.pairwise_append, List.pairwise_map]
      refine ⟨?_, ?_, ?_⟩
      · unfold Row.opened
        cases r.opens? <;> simp
      · simpa using ih.filter _
      · intro f hf g hg
        obtain ⟨hhead, hindent, -⟩ := mem_opened.mp hf
        obtain ⟨q, hq, rfl⟩ := List.mem_map.mp hg
        obtain ⟨c, hc, -⟩ := content_of_opens hhead
        rw [indent_enter, hindent]
        exact (keeps_iff_of_plain (isStructural_of_content hc) (branch_of_opens hhead)).mp
          (List.mem_filter.mp hq).2

theorem branchesAt_append (indent : Nat) (between : List Row) (r : Row) :
    branchesAt indent (between ++ [r]) =
      branchesAt indent between ++ if r.indent = indent then r.branch?.toList else [] := by
  unfold branchesAt
  rw [List.filter_append, List.filterMap_append]
  by_cases hi : r.indent = indent
  · cases hb : r.branch? <;> simp [hi, hb]
  · simp [hi]

theorem armBehind_congr {indent : Nat} {rs qs : List Row}
    (h : branchesAt indent rs = branchesAt indent qs) :
    armBehind indent rs = armBehind indent qs := by
  unfold armBehind
  rw [h]

theorem armBehind_eq_otherwise {indent : Nat} {between : List Row} :
    armBehind indent between = .otherwise ↔
      (branchesAt indent between).any Branch.isElse = true := by
  unfold armBehind
  split
  · next h => simp [h]
  · next h => cases (branchesAt indent between).getLast? <;> simp [h]

/-- Behind one more row the arm is the one that the row leads to. -/
theorem armBehind_append (head : BlockHead) (indent : Nat) (between : List Row) (r : Row) :
    armBehind indent (between ++ [r]) = (r.enter ⟨head, indent, armBehind indent between⟩).arm := by
  have happend := branchesAt_append indent between r
  by_cases hi : r.indent = indent
  · cases hb : r.branch? with
    | none =>
        rw [enter_of_none hb]
        exact armBehind_congr (by simpa [hb] using happend)
    | some x =>
        rw [if_pos hi, hb, Option.toList_some] at happend
        by_cases helse : armBehind indent between = .otherwise
        · rw [enter_of_otherwise helse, helse, armBehind_eq_otherwise, happend, List.any_append,
            armBehind_eq_otherwise.mp helse, Bool.true_or]
        · rw [enter_of_some hb hi helse]
          have hno : (branchesAt indent between).any Branch.isElse = false := by
            simpa [armBehind_eq_otherwise] using helse
          unfold armBehind Branch.arm
          rw [happend, List.any_append, hno]
          cases hx : x.isElse <;> simp [hx]
  · rw [enter_of_ne hi]
    exact armBehind_congr (by simpa [hi] using happend)

/-- **The blocks that are open behind some rows.** A block is open exactly if every row behind its
head leaves it open; its arm is that of the branches at its indentation. -/
theorem mem_openFrames {past : List Row} {f : Frame} : f ∈ openFrames past ↔
    ∃ before b between, past = before ++ b :: between ∧ b.opens? = some f.head ∧
      f.indent = b.indent ∧ f.arm = armBehind b.indent between ∧
      ∀ m ∈ between, m.keeps f = true := by
  induction past using List.reverseRecOn generalizing f with
  | nil => simp [openFrames]
  | append_singleton past r ih =>
      rw [openFrames_append, mem_advance]
      constructor
      · rintro (hf | ⟨g, hg, hkeeps, rfl⟩)
        · obtain ⟨hhead, hindent, harm⟩ := mem_opened.mp hf
          exact ⟨past, r, [], rfl, hhead, hindent, harm, by simp⟩
        · obtain ⟨before, b, between, rfl, hhead, hindent, harm, hall⟩ := ih.mp hg
          refine ⟨before, b, between ++ [r], by simp, by simpa using hhead, by simpa using hindent,
            ?_, ?_⟩
          · rw [← hindent] at harm ⊢
            rw [armBehind_append g.head, ← harm]
          · intro m hm
            rw [keeps_congr (head_enter r g) (indent_enter r g)]
            rcases List.mem_append.mp hm with hm | hm
            · exact hall m hm
            · obtain rfl := List.mem_singleton.mp hm
              exact hkeeps
      · rintro ⟨before, b, between, hpast, hhead, hindent, harm, hall⟩
        rcases List.eq_nil_or_concat between with rfl | ⟨between, m, rfl⟩
        · obtain ⟨-, hr⟩ := List.append_inj' hpast rfl
          obtain rfl := List.singleton_inj.mp hr
          exact Or.inl (mem_opened.mpr ⟨hhead, hindent, harm⟩)
        · rw [List.concat_eq_append, ← List.cons_append, ← List.append_assoc] at hpast
          obtain ⟨rfl, hr⟩ := List.append_inj' hpast rfl
          obtain rfl := List.singleton_inj.mp hr
          rw [List.concat_eq_append, armBehind_append f.head, ← hindent] at harm
          let g : Frame := ⟨f.head, f.indent, armBehind f.indent between⟩
          have hg : ∀ q ∈ between.concat r, q.keeps g = true := fun q hq => by
            rw [← hall q hq]
            exact keeps_congr rfl rfl
          refine Or.inr ⟨g, ih.mpr ⟨before, b, between, rfl, hhead, hindent, ?_, ?_⟩, ?_, ?_⟩
          · rw [← hindent]
          · exact fun q hq => hg q (by simp [hq])
          · exact hg r (by simp)
          · apply Frame.ext
            · exact head_enter r g
            · exact indent_enter r g
            · exact harm.symm

/-- The path at which the row `l` stands behind the rows `before`. -/
def pathAt (before : List Row) (l : Row) : Path := framesPath ((openFrames before).filter l.keeps)

/-- A row that starts no branch stands in the blocks that enclose it. -/
theorem mem_pathAt {before : List Row} {l : Row} (hl : l.isStructural = true)
    (hb : l.branch? = none) {head : BlockHead} {arm : Arm} : (head, arm) ∈ pathAt before l ↔
      ∃ front b between, before = front ++ b :: between ∧ b.opens? = some head ∧
        b.Encloses head.kind between l ∧ arm = armBehind b.indent between := by
  unfold pathAt framesPath
  rw [List.mem_map]
  constructor
  · rintro ⟨f, hf, heq⟩
    obtain ⟨rfl, rfl⟩ := Prod.mk.inj heq
    obtain ⟨hf, hkeeps⟩ := List.mem_filter.mp hf
    obtain ⟨front, b, between, hbefore, hhead, hindent, harm, hall⟩ := mem_openFrames.mp hf
    refine ⟨front, b, between, hbefore, hhead, ⟨?_, ?_⟩, harm⟩
    · rw [← hindent]
      exact (keeps_iff_of_plain hl hb).mp hkeeps
    · intro m hm hstructural
      rw [← hindent]
      exact (keeps_iff hstructural).mp (hall m hm)
  · rintro ⟨front, b, between, hbefore, hhead, ⟨hindent, hall⟩, harm⟩
    let f : Frame := ⟨head, b.indent, arm⟩
    refine ⟨f, List.mem_filter.mpr ⟨?_, ?_⟩, rfl⟩
    · refine mem_openFrames.mpr ⟨front, b, between, hbefore, hhead, rfl, harm, ?_⟩
      intro m hm
      cases hstructural : m.isStructural with
      | true => exact (keeps_iff hstructural).mpr (hall m hm hstructural)
      | false => exact keeps_of_not_structural hstructural f
    · exact (keeps_iff_of_plain hl hb).mpr hindent

/-! ### One more row -/

section
variable {r : Row}

theorem opened_of_none (h : r.opens? = none) : r.opened = [] := by
  unfold Row.opened
  rw [h]
  rfl

theorem advance_of_branch (hb : r.branch? = none) (fs : List Frame) :
    advance fs r = r.opened ++ fs.filter r.keeps := by
  have hid : r.enter = id := funext (enter_of_none hb)
  rw [advance, hid, List.map_id]

theorem advance_of_not_structural (h : r.isStructural = false) (fs : List Frame) :
    advance fs r = fs := by
  have hc : r.content? = none := by
    by_contra hne
    obtain ⟨c, hc⟩ := Option.ne_none_iff_exists'.mp hne
    simp [isStructural_of_content hc] at h
  rw [advance_of_branch (by simp [Row.branch?, hc]), opened_of_none (by simp [Row.opens?, hc]),
    List.nil_append]
  exact List.filter_eq_self.mpr fun f _ => keeps_of_not_structural h f

end

end Lifeline.Reader
