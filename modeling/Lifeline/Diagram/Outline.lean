import Lifeline.Diagram.Message

/-! # The outline of a diagram

The body of a document is a sequence of messages, section dividers, notes and blocks; a block has
a body of its own. An `else if` or `else` is an entry of the body of its block: the entries up to
the first one are the block's main branch, and each of them starts another branch. So reading an
outline from front to back, bodies included, meets everything in the order of the document:
`Outline.entries` spells that order out, and the lists of messages, sections and notes are read
off it. -/

namespace Lifeline

/-- A divider that owns the messages after it, and the number of messages before it. -/
structure Section where
  label : String
  color : Option String
  line : Nat
  firstMessage : Nat
  deriving DecidableEq, Repr, Inhabited

/-- The side of a lifeline that a note stands on. -/
inductive Side
  | left
  | right
  deriving DecidableEq, Repr, Inhabited

/-- A note beside a lifeline, and the last message before it. -/
structure Note where
  text : String
  side : Side
  participant : String
  line : Nat
  afterMessage : Option Nat
  deriving DecidableEq, Repr, Inhabited

/-- What a block does with its body. -/
inductive BlockKind
  | choice
  | loop
  | parallel
  deriving DecidableEq, Repr, Inhabited

/-- The word that opens a block. -/
def BlockKind.keyword : BlockKind → String
  | .choice => "if"
  | .loop => "loop"
  | .parallel => "parallel"

/-- The line that opens a block. -/
structure BlockHead where
  kind : BlockKind
  label : String
  line : Nat
  deriving DecidableEq, Repr, Inhabited

/-- The line that starts another branch of a block: `else if` with its label, or `else`. -/
structure Branch where
  label : Option String
  line : Nat
  deriving DecidableEq, Repr, Inhabited

/-- The branch has no condition. -/
def Branch.isElse (b : Branch) : Bool := b.label.isNone

/-- An entry of an outline, blocks apart. -/
inductive Entry
  | message (m : Message)
  | section (s : Section)
  | note (n : Note)
  | branch (b : Branch)
  deriving DecidableEq, Repr, Inhabited

/-- A sequence of entries and blocks. -/
inductive Outline
  | empty
  | entry (e : Entry) (rest : Outline)
  | block (head : BlockHead) (body rest : Outline)
  deriving DecidableEq, Repr, Inhabited

namespace Outline

/-- One outline after the other. -/
def append : Outline → Outline → Outline
  | empty, after => after
  | entry e rest, after => entry e (rest.append after)
  | block head body rest, after => block head body (rest.append after)

instance : Append Outline := ⟨append⟩

/-- The entries from front to back, those inside blocks included. -/
def entries : Outline → List Entry
  | empty => []
  | entry e rest => e :: rest.entries
  | block _ body rest => body.entries ++ rest.entries

/-- The messages, in order. -/
def messages (o : Outline) : List Message :=
  o.entries.filterMap fun
    | .message m => some m
    | _ => none

/-- The indices of the messages, in order. -/
def messageIndices (o : Outline) : List Nat := o.messages.map Message.index

/-- The section dividers, in order. -/
def sections (o : Outline) : List Section :=
  o.entries.filterMap fun
    | .section s => some s
    | _ => none

/-- The notes, in order. -/
def notes (o : Outline) : List Note :=
  o.entries.filterMap fun
    | .note n => some n
    | _ => none

/-- The blocks that stand in no other block, with their bodies. -/
def blocks : Outline → List (BlockHead × Outline)
  | empty => []
  | entry _ rest => rest.blocks
  | block head body rest => (head, body) :: rest.blocks

/-- The number of entries and blocks that stand in no block; branches do not count. -/
def size : Outline → Nat
  | empty => 0
  | entry (.branch _) rest => rest.size
  | entry _ rest => rest.size + 1
  | block _ _ rest => rest.size + 1

/-- The main branch of a body, and the others, each with the line that starts it. -/
def arms : Outline → Outline × List (Branch × Outline)
  | empty => (empty, [])
  | entry (.branch b) rest =>
    let (main, others) := rest.arms
    (empty, (b, main) :: others)
  | entry e rest =>
    let (main, others) := rest.arms
    (entry e main, others)
  | block head body rest =>
    let (main, others) := rest.arms
    (block head body main, others)

@[simp] theorem entry_append (e : Entry) (a b : Outline) :
    entry e a ++ b = entry e (a ++ b) := rfl

@[simp] theorem block_append (h : BlockHead) (body a b : Outline) :
    block h body a ++ b = block h body (a ++ b) := rfl

@[simp] theorem append_empty (o : Outline) : o ++ empty = o := by
  induction o with
  | empty => rfl
  | entry e rest ih => rw [entry_append, ih]
  | block h body rest _ ih => rw [block_append, ih]

theorem append_assoc (a b c : Outline) : a ++ b ++ c = a ++ (b ++ c) := by
  induction a with
  | empty => rfl
  | entry e rest ih => simp only [entry_append, ih]
  | block h body rest _ ih => simp only [block_append, ih]

end Outline

/-- The entry as an outline of its own. -/
def Entry.alone (e : Entry) : Outline := .entry e .empty

end Lifeline
