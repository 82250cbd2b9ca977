import Lifeline.Syntax.Declaration
import Lifeline.Text.Fold

/-! # Evidence for a sequence diagram

Without reading a document line by line, three signs tell that it is a sequence diagram: a line
`chart: sequence`, something shaped like an arrow between two texts, and something shaped like a
declaration. `confidence` weighs them, in hundredths. -/

namespace Lifeline.Detection

open Lifeline.Unicode (isBlank isWordChar)

/-- Behind the first blanks, an arrow is still to come that has text in front of it and behind
it; `hasText` tells that text has been met. -/
def arrowBehind (hasText : Bool) : List Char → Bool
  | [] => false
  | c :: rest =>
    (hasText && (c == '-' || c == '~') && (match rest with
      | '>' :: behind => behind.any fun c => !isBlank c
      | _ => false)) || arrowBehind (hasText || !isBlank c) rest

/-- Some line holds an arrow between two texts. -/
def hasArrowLike (text : List Char) : Bool := (Text.lines text).any (arrowBehind false)

/-- The blanks at the beginning of a text reach its end or a line feed. -/
def endsLine (text : List Char) : Bool :=
  match text.takeWhile isBlank, text.dropWhile isBlank with
  | _, [] => true
  | blanks, _ => blanks.contains '\n'

/-- The text, from the beginning of a line on, starts with the header `chart: sequence`. -/
def startsWithHeader (text : List Char) : Bool :=
  match (Text.dropWord? "chart".toList (Text.trimStart text)).map Text.trimStart with
  | some (':' :: rest) =>
    match Text.dropWord? "sequence".toList (Text.trimStart rest) with
    | some rest => endsLine rest
    | none => false
  | _ => false

/-- Some line is the header `chart: sequence`; `atStart` tells that a line begins here. -/
def hasHeaderFrom (atStart : Bool) : List Char → Bool
  | [] => false
  | c :: rest => (atStart && startsWithHeader (c :: rest)) || hasHeaderFrom (c == '\n') rest

/-- Some line is the header `chart: sequence`. -/
def hasHeader (text : List Char) : Bool := hasHeaderFrom true text

/-- The text starts with `is`, an article and a word. -/
def startsWithPredicate (text : List Char) : Bool :=
  match (Text.dropWord? ['i', 's'] text).bind Syntax.article? with
  | some (c :: _) => isWordChar c
  | _ => false

/-- Something shaped like a declaration is still to come: text, a gap, and a predicate. The flags
tell that text has been met and that the last character is blank. -/
def declarationBehind (hasText behindGap : Bool) : List Char → Bool
  | [] => false
  | c :: rest =>
    (hasText && behindGap && startsWithPredicate (c :: rest)) ||
      declarationBehind (hasText || !isBlank c) (isBlank c) rest

/-- The text holds something shaped like a declaration. -/
def hasDeclaration (text : List Char) : Bool := declarationBehind false false text

/-- How sure it is that a text is a sequence diagram, in hundredths. -/
def confidence (text : List Char) : Nat :=
  if hasHeader text then 100
  else if hasArrowLike text then if hasDeclaration text then 80 else 60
  else 0

/-- The text is taken for a sequence diagram. -/
def accepts (text : List Char) : Bool := 50 < confidence text

theorem accepts_iff (text : List Char) :
    accepts text = true ↔ hasHeader text = true ∨ hasArrowLike text = true := by
  unfold accepts confidence
  split
  · simp_all
  · split
    · split <;> simp_all
    · simp_all

end Lifeline.Detection
