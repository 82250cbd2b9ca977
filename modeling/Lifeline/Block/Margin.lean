import Lifeline.Unicode.Blank

/-! # Margins

What a line of Markdown begins with decides what it is, and blanks count there by columns: a tab
reaches to the next multiple of four. A tab may be used up in part; the columns that are left of
it are then blanks that stand in front of the rest of the line. -/

namespace Lifeline.Block

open Lifeline.Unicode (isLineBlank isSpaceOrTab)

/-- The columns between two tab stops. -/
def tabStop : Nat := 4

/-- What is left of a line: the column that it begins in, the blanks that are left of a tab, and
the characters behind them. -/
structure Rest where
  column : Nat
  spare : Nat
  text : List Char
  deriving DecidableEq, Repr

/-- A line from its first character on. -/
def Rest.ofLine (line : List Char) : Rest := ⟨0, 0, line⟩

/-- Passes over up to `n` columns of spaces and tabs: how many there were, and what is left. -/
def skipBlanks (n column : Nat) : List Char → Nat × Rest
  | [] => (0, ⟨column, 0, []⟩)
  | c :: text =>
    if n = 0 then (0, ⟨column, 0, c :: text⟩)
    else if c = ' ' then
      let (k, rest) := skipBlanks (n - 1) (column + 1) text
      (k + 1, rest)
    else if c = '\t' then
      let width := tabStop - column % tabStop
      if width ≤ n then
        let (k, rest) := skipBlanks (n - width) (column + width) text
        (k + width, rest)
      else (n, ⟨column + n, width - n, text⟩)
    else (0, ⟨column, 0, c :: text⟩)

/-- Passes over up to `n` columns of blanks: how many there were, and what is left. -/
def Rest.skip (r : Rest) (n : Nat) : Nat × Rest :=
  if n < r.spare then (n, ⟨r.column + n, r.spare - n, r.text⟩)
  else
    let (k, rest) := skipBlanks (n - r.spare) (r.column + r.spare) r.text
    (k + r.spare, rest)

/-- Nothing but blanks is left. -/
def Rest.isBlank (r : Rest) : Bool := r.text.all isLineBlank

/-- What is left, with the blanks of a tab as spaces. -/
def Rest.toList (r : Rest) : List Char := List.replicate r.spare ' ' ++ r.text

/-- What is left without the spaces and tabs at its beginning. -/
def Rest.unindented (r : Rest) : List Char := r.text.dropWhile isSpaceOrTab

/-- A line that begins with neither a space nor a tab has nothing to pass over. -/
theorem skipBlanks_of_ne {c : Char} (hs : c ≠ ' ') (ht : c ≠ '\t') (n column : Nat)
    (text : List Char) : skipBlanks n column (c :: text) = (0, ⟨column, 0, c :: text⟩) := by
  simp [skipBlanks, hs, ht]

end Lifeline.Block
