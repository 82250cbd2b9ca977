/-! # Messages

A message goes from one participant to another, perhaps the same one. A synchronous message is
answered, and may carry the text of the answer; an asynchronous one is not. -/

namespace Lifeline

/-- A message, with its place in the list of all messages. -/
structure Message where
  index : Nat
  sender : String
  receiver : String
  label : String
  reply : Option String
  line : Nat
  isAsync : Bool
  deriving DecidableEq, Repr, Inhabited

/-- The message goes back to its sender. -/
def Message.isSelfCall (m : Message) : Bool := m.sender == m.receiver

end Lifeline
