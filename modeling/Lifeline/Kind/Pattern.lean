import Lifeline.Diagram.Participant
import Lifeline.Text.Fold

/-! # Patterns of names

A pattern asks whether a name is, starts with, ends in or holds one of several words. Words are
written in small letters and compared without regard to case. -/

namespace Lifeline

/-- A condition on a name. -/
inductive NamePattern
  | is (words : List String)
  | starts (words : List String)
  | ends (words : List String)
  | holds (words : List String)
  deriving DecidableEq, Repr

/-- The name meets the condition. -/
def NamePattern.fits (p : NamePattern) (name : List Char) : Bool :=
  let name := Text.folded name
  match p with
  | .is words => words.any fun w => w.toList == name
  | .starts words => words.any fun w => w.toList.isPrefixOf name
  | .ends words => words.any fun w => w.toList.isSuffixOf name
  | .holds words => words.any fun w => Text.contains w.toList name

end Lifeline
