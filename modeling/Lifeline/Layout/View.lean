/-! # Views

A view says which sections and notes of a diagram are collapsed, and whether notes are shown. It
is kept apart from the diagram: the same diagram can be laid out under any view. -/

namespace Lifeline.Layout

/-- A set of indices, as the increasing list of its members. -/
abbrev IndexSet := List Nat

namespace IndexSet

/-- The set with a further member. -/
def insert (n : Nat) : IndexSet → IndexSet
  | [] => [n]
  | m :: rest => if n < m then n :: m :: rest else if n = m then m :: rest else m :: insert n rest

/-- The set of the members of a list. -/
def ofList (ns : List Nat) : IndexSet := ns.foldr insert []

/-- Adds a member, or removes it if it is one. -/
def toggle (n : Nat) (s : IndexSet) : IndexSet :=
  if n ∈ s then s.filter (· ≠ n) else insert n s

theorem mem_insert {n m : Nat} {s : IndexSet} : m ∈ insert n s ↔ m = n ∨ m ∈ s := by
  induction s with
  | nil => simp [insert]
  | cons k rest ih =>
    simp only [insert]
    split
    · simp
    · split
      · next h => subst h; simp
      · simp only [List.mem_cons, ih]; exact or_left_comm

/-- Toggling changes the membership of one index and of no other. -/
theorem mem_toggle {n m : Nat} {s : IndexSet} :
    m ∈ toggle n s ↔ if m = n then n ∉ s else m ∈ s := by
  unfold toggle
  split
  · next h => by_cases hm : m = n <;> simp [hm, h]
  · next h => by_cases hm : m = n <;> simp [mem_insert, hm, h]

end IndexSet

/-- What is collapsed, and whether notes are shown. -/
structure View where
  collapsedSections : IndexSet
  collapsedNotes : IndexSet
  showNotes : Bool
  deriving DecidableEq, Repr, Inhabited

namespace View

/-- Everything is shown. -/
def everything : View := ⟨[], [], true⟩

/-- Collapses a section, or expands it. -/
def toggleSection (v : View) (i : Nat) : View :=
  { v with collapsedSections := IndexSet.toggle i v.collapsedSections }

/-- Collapses a note, or expands it. -/
def toggleNote (v : View) (i : Nat) : View :=
  { v with collapsedNotes := IndexSet.toggle i v.collapsedNotes }

/-- The view without notes. -/
def hideNotes (v : View) : View := { v with showNotes := false }

/-- The section is collapsed. -/
def hidesSection (v : View) (i : Nat) : Bool := v.collapsedSections.contains i

/-- The note is collapsed. -/
def foldsNote (v : View) (i : Nat) : Bool := v.collapsedNotes.contains i

end View

end Lifeline.Layout
