import Lifeline.Text.Line
import Lifeline.Unicode.Case

/-! # About the library

Names and versions of the reader and the layout, and the formats in which a program that uses the
library may log. -/

namespace Lifeline

/-- A part of the library, by name and version. -/
structure Component where
  name : String
  version : String
  deriving DecidableEq, Repr

/-- The reader of sequence diagrams. -/
def readerComponent : Component := ⟨"sequence", "0.1.0"⟩

/-- The layout of sequence diagrams. -/
def layoutComponent : Component := ⟨"timeline", "0.1.0"⟩

/-- How log lines are written. -/
inductive LogFormat
  | compact
  | pretty
  | json
  deriving DecidableEq, Repr, Inhabited

namespace LogFormat

/-- All formats. -/
def all : List LogFormat := [.compact, .pretty, .json]

/-- The word for a format. -/
def name : LogFormat → String
  | .compact => "compact"
  | .pretty => "pretty"
  | .json => "json"

/-- The format that a text names, whatever its case. -/
def ofName? (text : String) : Option LogFormat :=
  all.find? fun f => f.name == Unicode.lowercase text

/-- The error for a text that names no format. -/
def unknownMessage (text : String) : String := s!"Unknown log format: {text}"

/-- The error for a program that asks for such a format. -/
def invalidMessage (text : String) : String := s!"Invalid log format: {unknownMessage text}"

end LogFormat

end Lifeline
