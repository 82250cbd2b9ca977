import Lifeline.Diagram.Message

/-! # The timeline

A list of messages is spelled out as calls and returns. A synchronous call is pending until its
receiver is done: as soon as a message comes from someone else, and at the end. Pending calls
return innermost first; a call to oneself returns at once, and an asynchronous one never does. -/

namespace Lifeline

/-- A call, or the return of one. -/
inductive StepKind
  | call
  | «return»
  deriving DecidableEq, Repr, Inhabited

/-- A call or a return, and the index of its message. -/
structure Step where
  kind : StepKind
  source : String
  target : String
  label : String
  message : Nat
  isAsync : Bool
  deriving DecidableEq, Repr, Inhabited

/-- The step is a call. -/
def Step.isCall (s : Step) : Bool := s.kind == .call

/-- The step goes back to where it comes from. -/
def Step.isSelfCall (s : Step) : Bool := s.source == s.target

/-- The call of a message. -/
def Message.call (m : Message) : Step :=
  ⟨.call, m.sender, m.receiver, m.label, m.index, m.isAsync⟩

/-- The return of a message, labelled with its reply. -/
def Message.return (m : Message) : Step :=
  ⟨.return, m.receiver, m.sender, m.reply.getD "", m.index, false⟩

namespace Timeline

/-- The pending calls, innermost first, whose receiver is not the sender of the next message; and
the others. -/
def unwind (sender : String) (pending : List Message) : List Message × List Message :=
  pending.span fun m => m.receiver ≠ sender

/-- The steps of a list of messages, where some calls are pending, innermost first. -/
def stepsFrom (pending : List Message) : List Message → List Step
  | [] => pending.map Message.return
  | m :: rest =>
    let (done, stillPending) := unwind m.sender pending
    done.map Message.return ++ m.call ::
      if m.isAsync then stepsFrom stillPending rest
      else if m.isSelfCall then m.return :: stepsFrom stillPending rest
      else stepsFrom (m :: stillPending) rest

/-- The steps of a list of messages. -/
def steps (messages : List Message) : List Step := stepsFrom [] messages

end Timeline

end Lifeline
