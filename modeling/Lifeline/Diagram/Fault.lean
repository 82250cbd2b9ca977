/-! # Errors

The causes for which reading, detecting or laying out a diagram can fail, and their wording. A
fault is an offence of a single line; a reading fails at the first one. -/

namespace Lifeline

/-- What is wrong with a line. -/
inductive Fault
  /-- A `#` that starts no group heading. -/
  | strayHash
  /-- A group heading after the first content. -/
  | lateGroup
  /-- A group color that is not a name. -/
  | hexGroupColor (color : String)
  /-- A section color that is not a name. -/
  | hexSectionColor (color : String)
  /-- A chart of another type. -/
  | unsupportedChart (value : String)
  /-- An option after the first content. -/
  | lateOption (key : String)
  /-- A participant that joins a second group. -/
  | alreadyGrouped (id group : String)
  /-- A line with an arrow that starts with `async`. -/
  | asyncKeyword
  /-- An `else` or, with a condition, an `else if` in a parallel block. -/
  | branchInParallel (hasCondition : Bool)
  deriving DecidableEq, Repr, Inhabited

/-- The wording of a fault. -/
def Fault.message : Fault → String
  | .strayHash => "Use '//' for comments; '#' is reserved for '## Group' headings"
  | .lateGroup => "Group headings must appear before any content"
  | .hexGroupColor color => s!"Group color '{color}' must be a named color, not a hex value"
  | .hexSectionColor color => s!"Section color '{color}' must be a named color, not a hex value"
  | .unsupportedChart value => s!"Unsupported chart type '{value}'; expected 'sequence'"
  | .lateOption key => s!"Option '{key}' must appear before content"
  | .alreadyGrouped id group => s!"Participant '{id}' is already in group '{group}'"
  | .asyncKeyword => "The 'async' keyword is not supported; use '~>' for async messages"
  | .branchInParallel hasCondition =>
    if hasCondition then "'else if' is not supported in 'parallel' blocks"
    else "'else' is not supported in 'parallel' blocks"

/-- Why a document could not be read. -/
inductive ReadError
  /-- A line, counted from one, is at fault. -/
  | atLine (line : Nat) (fault : Fault)
  /-- Nothing in the document belongs to a sequence diagram. -/
  | noContent
  deriving DecidableEq, Repr, Inhabited

/-- The wording of an error, without the line. -/
def ReadError.bareMessage : ReadError → String
  | .atLine _ fault => fault.message
  | .noContent =>
    "No sequence content detected: add 'chart: sequence' or a message like 'A -> B: hello'"

/-- The wording of an error. -/
def ReadError.message : ReadError → String
  | .atLine line fault => s!"Line {line}: {fault.message}"
  | .noContent => ReadError.noContent.bareMessage

end Lifeline
