import Lifeline.Inline.Style
import Lifeline.Unicode.Blank
import Lifeline.Unicode.Punctuation

/-! # Emphasis

Runs of `*` and `_` open and close emphasis. Whether a run may do so depends on its two
neighbours. A run that closes looks for the nearest open run of its character that fits; two
delimiters on each side make the text between bold, one makes it italic, and what lies inside a
larger number takes the style of the innermost pair. Runs that find no partner are text.

`resolve` reads a row of texts and runs from left to right. It keeps the runs that are still
open, each with the styled text behind it, and ends with styled text alone. -/

namespace Lifeline.Inline

open Lifeline.Unicode (isBlank isPunctuation)

/-- A run of one delimiter, and what its neighbours let it do. -/
structure Run where
  char : Char
  length : Nat
  canOpen : Bool
  canClose : Bool
  deriving DecidableEq, Repr

/-- The run may both open and close. -/
def Run.both (r : Run) : Bool := r.canOpen && r.canClose

/-- A run of a delimiter between its neighbours, `none` at the ends of the text. A run opens in
front of a character that is not blank, and closes behind one; next to punctuation only where the
other side is blank or punctuation, and an underscore never inside a word. -/
def Run.between (before : Option Char) (char : Char) (length : Nat) (after : Option Char) :
    Run where
  char := char
  length := length
  canOpen := match after with
    | none => false
    | some a => !isBlank a && match before with
      | none => true
      | some b => char == '*' && !isPunctuation a || isBlank b || isPunctuation b
  canClose := match before with
    | none => false
    | some b => !isBlank b && match after with
      | none => true
      | some a => char == '*' && !isPunctuation b || isBlank a || isPunctuation a

/-- A piece of a line in which emphasis is still to be found. -/
inductive Mark
  | text (glyphs : List Glyph)
  | run (r : Run)
  deriving Repr

/-- An open run, of which one delimiter and `extra` more are left, and the text behind it. -/
structure Opener where
  char : Char
  extra : Nat
  length : Nat
  both : Bool
  content : List Glyph
  deriving Repr

/-- The delimiters that are left and the text behind them, as plain text. -/
def Opener.asText (o : Opener) : List Glyph :=
  styled .plain (List.replicate (o.extra + 1) o.char) ++ o.content

/-- An open run fits a closing one of its character, unless one of the two can do both and their
lengths add up to a multiple of three without both being multiples of three. -/
def Opener.fits (o : Opener) (r : Run) : Bool :=
  o.char == r.char &&
    (!r.both && !o.both || (r.length + o.length) % 3 ≠ 0 || r.length % 3 == 0)

/-- A line read up to some point: the text in front of the open runs, and the open runs,
innermost first. -/
structure Pending where
  before : List Glyph
  openers : List Opener
  deriving Repr

/-- Styled text behind everything read so far. -/
def Pending.append (p : Pending) (glyphs : List Glyph) : Pending :=
  match p.openers with
  | [] => { p with before := p.before ++ glyphs }
  | o :: os => { p with openers := { o with content := o.content ++ glyphs } :: os }

/-- The innermost open run that fits, the text behind it, in which the runs further in are plain
text, and the runs further out. -/
def partner? (r : Run) : List Opener → Option (Opener × List Glyph × List Opener)
  | [] => none
  | o :: os =>
    if o.fits r then some (o, o.content, os)
    else (partner? r os).map fun (m, content, outer) => (m, content ++ o.asText, outer)

/-- Closes open runs with the delimiters of a closing run, of which `left` are still free. -/
def Pending.close (p : Pending) (r : Run) (left : Nat) : Pending × Nat :=
  match left with
  | 0 => (p, 0)
  | n + 1 =>
    match partner? r p.openers with
    | none => (p, n + 1)
    | some (o, content, outer) =>
      let inner := min n o.extra
      let emphasised := paint (if inner = 0 then .italic else .bold) content
      let p : Pending :=
        if inner < o.extra then
          ⟨p.before, { o with extra := o.extra - inner - 1, content := emphasised } :: outer⟩
        else (⟨p.before, outer⟩ : Pending).append emphasised
      p.close r (n - inner)
  termination_by left

/-- One more piece of the line. -/
def Pending.read (p : Pending) : Mark → Pending
  | .text glyphs => p.append glyphs
  | .run r =>
    let (p, left) := if r.canClose then p.close r r.length else (p, r.length)
    match left with
    | 0 => p
    | n + 1 =>
      if r.canOpen then { p with openers := ⟨r.char, n, r.length, r.both, []⟩ :: p.openers }
      else p.append (styled .plain (List.replicate (n + 1) r.char))

/-- The styled text, where the runs that are still open are plain text. -/
def Pending.finish (p : Pending) : List Glyph :=
  p.openers.foldr (fun o outer => outer ++ o.asText) p.before

/-- The styled text of a row of texts and runs. -/
def resolve (marks : List Mark) : List Glyph := (marks.foldl Pending.read ⟨[], []⟩).finish

end Lifeline.Inline
