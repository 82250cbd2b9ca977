import Lifeline.Diagram.Outline
import Mathlib.Data.List.Basic

/-! # A walk through an outline

Every entry of an outline and every head of a block has a place: the blocks around it, innermost
first, each with the arm that it stands in. `Outline.places` lists the places from front to back.
`Outline.walk` visits a block arm by arm instead: the main arm, then those of `else if`, then those
of `else`. The two agree where no branch follows an `else` (`walkFrom_eq_places`). -/

namespace Lifeline

/-- The line of an entry. -/
def Entry.line : Entry → Nat
  | .message m => m.line
  | .section s => s.line
  | .note n => n.line
  | .branch b => b.line

/-- The branch that an entry starts. -/
def Entry.branch? : Entry → Option Branch
  | .branch b => some b
  | _ => none

/-- What stands on a line of the document: an entry, or the head of a block. -/
inductive Item
  | entry (e : Entry)
  | block (head : BlockHead)
  deriving DecidableEq, Repr

namespace Item

/-- The line of an item. -/
def line : Item → Nat
  | entry e => e.line
  | block head => head.line

/-- The entry, where the item is one. -/
def entry? : Item → Option Entry
  | entry e => some e
  | block _ => none

/-- The message, where the item is one. -/
def message? : Item → Option Message
  | entry (.message m) => some m
  | _ => none

/-- The section divider, where the item is one. -/
def section? : Item → Option Section
  | entry (.section s) => some s
  | _ => none

/-- The head of a block, where the item is one. -/
def block? : Item → Option BlockHead
  | block head => some head
  | entry _ => none

/-- The item starts another branch of the block around it. -/
def isBranch : Item → Bool
  | entry (.branch _) => true
  | _ => false

end Item

/-- A part of a body: up to the first branch, from an `else if` on, or from an `else` on. -/
inductive Arm
  | main
  | elseIf (line : Nat)
  | otherwise
  deriving DecidableEq, Repr

/-- The arm that a branch starts. -/
def Branch.arm (b : Branch) : Arm := if b.isElse then .otherwise else .elseIf b.line

/-- The blocks around a place, innermost first, each with the arm that the place is in. -/
abbrev Path := List (BlockHead × Arm)

/-- The path behind an entry: a branch starts another arm of the innermost block. -/
def Path.behind (e : Entry) : Path → Path
  | [] => []
  | (head, arm) :: around => (head, (e.branch?.map Branch.arm).getD arm) :: around

/-- An item and the blocks around it. -/
structure Place where
  item : Item
  path : Path
  deriving DecidableEq, Repr

namespace Outline

/-- The places of an outline that lies at a path, from front to back. -/
def places (path : Path) : Outline → List Place
  | empty => []
  | entry e rest => ⟨.entry e, path.behind e⟩ :: places (path.behind e) rest
  | block head body rest =>
      ⟨.block head, path⟩ :: (places ((head, .main) :: path) body ++ places path rest)

/-- The path behind an outline. -/
def endPath (path : Path) : Outline → Path
  | empty => path
  | entry e rest => endPath (path.behind e) rest
  | block _ _ rest => endPath path rest

/-- The branches of a body, those of inner blocks apart. -/
def branches : Outline → List Branch
  | empty => []
  | entry e rest => e.branch?.toList ++ rest.branches
  | block _ _ rest => rest.branches

/-- The arm in which a body ends. -/
def lastArm (o : Outline) : Arm := (o.branches.getLast?.map Branch.arm).getD .main

/-- The arms of a body in the order in which a block presents them: the main arm, then those of
`else if`, then those of `else`. -/
def inOrder (arms : List Place × List (Branch × List Place)) : List Place :=
  arms.1 ++ (arms.2.filter fun a => !a.1.isElse).flatMap (·.2) ++
    (arms.2.filter fun a => a.1.isElse).flatMap (·.2)

/-- A body's main arm and its other arms, as they are visited; the line that starts an arm is
visited first. -/
def walkFrom (path : Path) : Outline → List Place × List (Branch × List Place)
  | empty => ([], [])
  | entry e rest =>
      let here : Place := ⟨.entry e, path.behind e⟩
      let (main, others) := walkFrom (path.behind e) rest
      match e.branch? with
      | some b => ([], (b, here :: main) :: others)
      | none => (here :: main, others)
  | block head body rest =>
      let (main, others) := walkFrom path rest
      (⟨.block head, path⟩ :: (inOrder (walkFrom ((head, .main) :: path) body) ++ main), others)

/-- Everything that is met on the way through the blocks of an outline, arm by arm. -/
def walk (o : Outline) : List Place := inOrder (walkFrom [] o)

/-- In no body of the outline a branch follows an `else`. -/
def Orderly : Outline → Prop
  | empty => True
  | entry e rest => (∀ b ∈ e.branch?, b.isElse = true → rest.branches = []) ∧ rest.Orderly
  | block _ body rest => body.Orderly ∧ rest.Orderly

/-! ### One outline after the other -/

theorem places_append (path : Path) (a b : Outline) :
    places path (a ++ b) = places path a ++ places (endPath path a) b := by
  induction a generalizing path with
  | empty => rfl
  | entry e rest ih => simp only [entry_append, places, endPath, ih, List.cons_append]
  | block head body rest _ ih =>
      simp only [block_append, places, endPath, ih, List.cons_append, List.append_assoc]

theorem branches_append (a b : Outline) : (a ++ b).branches = a.branches ++ b.branches := by
  induction a with
  | empty => rfl
  | entry e rest ih => simp only [entry_append, branches, ih, List.append_assoc]
  | block head body rest _ ih => simp only [block_append, branches, ih]

/-- Two outlines make an orderly one if both are, and branches of the second one only follow a
first one without `else`. -/
theorem Orderly.append {a b : Outline} (ha : a.Orderly) (hb : b.Orderly)
    (h : (∃ x ∈ a.branches, x.isElse = true) → b.branches = []) : (a ++ b).Orderly := by
  induction a with
  | empty => exact hb
  | entry e rest ih =>
      obtain ⟨helse, hrest⟩ := ha
      refine ⟨?_, ih hrest ?_⟩
      · intro x hx hxe
        show (rest ++ b).branches = []
        rw [branches_append, helse x hx hxe, List.nil_append]
        exact h ⟨x, List.mem_append_left _ (Option.mem_toList.mpr hx), hxe⟩
      · rintro ⟨x, hx, hxe⟩
        exact h ⟨x, List.mem_append_right _ hx, hxe⟩
  | block head body rest _ ih => exact ⟨ha.1, ih ha.2 h⟩

theorem Orderly.lastArm_eq {o : Outline} (h : o.Orderly) :
    o.lastArm = .otherwise ↔ ∃ x ∈ o.branches, x.isElse = true := by
  unfold lastArm
  induction o with
  | empty => simp [branches]
  | entry e rest ih =>
      obtain ⟨helse, hrest⟩ := h
      have ih := ih hrest
      rw [branches]
      cases he : e.branch? with
      | none => simpa using ih
      | some x =>
          have hx : x.arm = .otherwise ↔ x.isElse = true := by
            cases hxe : x.isElse <;> simp [Branch.arm, hxe]
          cases hrest : rest.branches with
          | nil => simpa using hx
          | cons y ys =>
              have hno : x.isElse ≠ true := fun hxe => by simp [helse x he hxe] at hrest
              rw [hrest] at ih
              simpa [hno, List.getLast?_cons_cons] using ih
  | block head body rest _ ih => exact ih h.2

/-! ### The path behind an outline -/

@[simp] theorem endPath_nil (o : Outline) : endPath [] o = [] := by
  induction o with
  | empty => rfl
  | entry e rest ih => exact ih
  | block head body rest _ ih => exact ih

/-- Behind a body the path is that of its last arm. -/
theorem endPath_cons (head : BlockHead) (arm : Arm) (path : Path) (o : Outline) :
    endPath ((head, arm) :: path) o =
      (head, (o.branches.getLast?.map Branch.arm).getD arm) :: path := by
  induction o generalizing arm with
  | empty => rfl
  | entry e rest ih =>
      rw [endPath, Path.behind, ih, branches, List.getLast?_append]
      cases rest.branches.getLast? <;> cases e.branch? <;> rfl
  | block h body rest _ ih => exact ih arm

theorem endPath_main (head : BlockHead) (path : Path) (o : Outline) :
    endPath ((head, .main) :: path) o = (head, o.lastArm) :: path :=
  endPath_cons head .main path o

/-! ### The walk -/

theorem walkFrom_branches (path : Path) (o : Outline) :
    (walkFrom path o).2.map (·.1) = o.branches := by
  induction o generalizing path with
  | empty => rfl
  | entry e rest ih =>
      rw [walkFrom, branches]
      cases he : e.branch? with
      | none => exact ih _
      | some b => exact congrArg (b :: ·) (ih _)
  | block head body rest _ ih => exact ih path

theorem inOrder_cons (p : Place) (main : List Place) (others : List (Branch × List Place)) :
    inOrder (p :: main, others) = p :: inOrder (main, others) := rfl

theorem inOrder_append (ps main : List Place) (others : List (Branch × List Place)) :
    inOrder (ps ++ main, others) = ps ++ inOrder (main, others) := by
  simp [inOrder]

/-- An arm of `else if` comes before the arms behind it, and an `else` is the last branch. -/
theorem inOrder_branch (b : Branch) (here : Place) (main : List Place)
    (others : List (Branch × List Place)) (h : b.isElse = true → others = []) :
    inOrder ([], (b, here :: main) :: others) = here :: inOrder (main, others) := by
  cases hb : b.isElse with
  | true => simp [inOrder, h hb, hb]
  | false => simp [inOrder, hb]

/-- Where no branch follows an `else`, the walk meets everything from front to back. -/
theorem walkFrom_eq_places {o : Outline} (h : o.Orderly) (path : Path) :
    inOrder (walkFrom path o) = places path o := by
  induction o generalizing path with
  | empty => rfl
  | entry e rest ih =>
      obtain ⟨helse, hrest⟩ := h
      have hrest := ih hrest (path.behind e)
      rw [walkFrom, places, ← hrest]
      cases he : e.branch? with
      | none => exact inOrder_cons _ _ _
      | some b =>
          refine inOrder_branch b _ _ _ fun hb => ?_
          rw [← List.map_eq_nil_iff, walkFrom_branches]
          exact helse b he hb
  | block head body rest ihb ih =>
      rw [walkFrom, places, inOrder_cons, inOrder_append, ihb h.1, ih h.2]

theorem walk_eq_places {o : Outline} (h : o.Orderly) : o.walk = places [] o :=
  walkFrom_eq_places h []

/-! ### What the places hold -/

theorem entries_eq_filterMap_places (path : Path) (o : Outline) :
    o.entries = (places path o).filterMap fun p => p.item.entry? := by
  induction o generalizing path with
  | empty => rfl
  | entry e rest ih => simp [entries, places, Item.entry?, ih (path.behind e)]
  | block head body rest ihb ih =>
      rw [entries, places, ihb ((head, .main) :: path), ih path,
        List.filterMap_cons_none rfl, List.filterMap_append]

theorem messages_eq_filterMap_places (path : Path) (o : Outline) :
    o.messages = (places path o).filterMap fun p => p.item.message? := by
  rw [messages, entries_eq_filterMap_places path, List.filterMap_filterMap]
  refine List.filterMap_congr fun p _ => ?_
  rcases p with ⟨e | head, _⟩
  · cases e <;> rfl
  · rfl

end Outline

end Lifeline
