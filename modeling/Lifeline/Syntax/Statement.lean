import Lifeline.Text.Line
import Lifeline.Unicode.Blank
import Lifeline.Unicode.Letter

/-! # Messages as they are written

A message is written `A -> B: label`, or with `~>` for one that is not answered. Around the names
stand spaces and tabs; the label is optional. A name goes on up to the first character that no
name may hold, or up to an arrow. -/

namespace Lifeline.Syntax

open Lifeline.Unicode (isAlphanumeric isSpaceOrTab)

/-- A character of a name in a message. -/
def isNameChar (c : Char) : Bool := isAlphanumeric c || c == '_' || c == '.' || c == '-'

/-- A message as it is written: its two ends, the text of its label, and its arrow. -/
structure Statement where
  sender : List Char
  receiver : List Char
  label : List Char
  isAsync : Bool
  deriving DecidableEq, Repr

/-- An arrow at the beginning of a text: whether it is asynchronous, and the rest. -/
def arrow? : List Char → Option (Bool × List Char)
  | '-' :: '>' :: rest => some (false, rest)
  | '~' :: '>' :: rest => some (true, rest)
  | _ => none

/-- An arrow stands somewhere in the text. -/
def hasArrow (text : List Char) : Bool :=
  Text.contains ['-', '>'] text || Text.contains ['~', '>'] text

/-- The name at the beginning of a text, and the rest. -/
def name : List Char → List Char × List Char
  | [] => ([], [])
  | c :: rest =>
    if isNameChar c && (arrow? (c :: rest)).isNone then
      let (more, rest) := name rest
      (c :: more, rest)
    else ([], c :: rest)

/-- A name with spaces and tabs around it, and the rest; a name is not empty. -/
def paddedName? (text : List Char) : Option (List Char × List Char) :=
  match name (text.dropWhile isSpaceOrTab) with
  | ([], _) => none
  | (letters, rest) => some (letters, rest.dropWhile isSpaceOrTab)

/-- The label behind the receiver: nothing, or a colon and text without line ends. -/
def statementLabel? : List Char → Option (List Char)
  | [] => some []
  | ':' :: rest =>
    if rest.all fun c => c ≠ '\n' ∧ c ≠ '\r' then some (Text.trim rest) else none
  | _ => none

/-- The message that a line states. -/
def statement? (line : List Char) : Option Statement := do
  let (sender, rest) ← paddedName? line
  let (isAsync, rest) ← arrow? rest
  let (receiver, rest) ← paddedName? rest
  let label ← statementLabel? rest
  return ⟨sender, receiver, label, isAsync⟩

/-- Splitting off a name loses nothing. -/
theorem name_append (text : List Char) : (name text).1 ++ (name text).2 = text := by
  induction text with
  | nil => rfl
  | cons c rest ih =>
    simp only [name]
    split
    · simp [ih]
    · rfl

theorem isNameChar_of_mem_name {text : List Char} {c : Char} (h : c ∈ (name text).1) :
    isNameChar c = true := by
  induction text with
  | nil => simp [name] at h
  | cons d rest ih =>
    simp only [name] at h
    split at h
    · next hd =>
      rcases List.mem_cons.1 h with rfl | h
      · exact (Bool.and_eq_true_iff.1 hd).1
      · exact ih h
    · simp at h

end Lifeline.Syntax
