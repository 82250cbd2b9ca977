import Lifeline.Timeline.Step

/-! # Activations

A participant is active from a synchronous call to it until the matching return. A return closes
the activation that its participant opened last; a return without an open activation closes none,
and an activation that never closes is not reported. -/

namespace Lifeline

/-- A stretch of steps in which a participant is active, and the number of its activations that
are still open when it ends. -/
structure Activation where
  participant : String
  first : Nat
  last : Nat
  depth : Nat
  deriving DecidableEq, Repr, Inhabited

/-- The step lies in the stretch. -/
def Activation.covers (a : Activation) (step : Nat) : Bool := a.first ≤ step && step ≤ a.last

namespace Timeline

/-- The open activations: for each a participant and its first step, innermost first. -/
abbrev Open := List (String × Nat)

/-- The innermost open activation of a participant, the others of it, and all that stay open. -/
def closeInnermost? (id : String) : Open → Option (Nat × Open)
  | [] => none
  | (p, first) :: rest =>
    if p = id then some (first, rest)
    else (closeInnermost? id rest).map fun (n, rest) => (n, (p, first) :: rest)

/-- The activations that steps close, of which the first has the number `index`. -/
def activationsFrom (opened : Open) (index : Nat) : List Step → List Activation
  | [] => []
  | s :: rest =>
    match s.kind with
    | .call =>
      activationsFrom (if s.isAsync then opened else (s.target, index) :: opened) (index + 1) rest
    | .return =>
      match closeInnermost? s.source opened with
      | none => activationsFrom opened (index + 1) rest
      | some (first, opened) =>
        ⟨s.source, first, index, opened.countP fun o => o.1 = s.source⟩ ::
          activationsFrom opened (index + 1) rest

/-- The activations of a list of steps, in the order in which they end. -/
def activations (steps : List Step) : List Activation := activationsFrom [] 0 steps

end Timeline

end Lifeline
