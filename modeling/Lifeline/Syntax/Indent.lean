/-! # Indentation

The indentation of a line decides the block that it belongs to. A space counts one column and a
tab four; other blanks do not count. -/

namespace Lifeline.Syntax

/-- The columns of a tab. -/
def tabWidth : Nat := 4

/-- The indentation of a line, in columns. -/
def indent : List Char → Nat
  | [] => 0
  | c :: rest =>
    if c = ' ' then indent rest + 1
    else if c = '\t' then indent rest + tabWidth
    else 0

theorem indent_space (line : List Char) : indent (' ' :: line) = indent line + 1 := rfl

theorem indent_tab (line : List Char) : indent ('\t' :: line) = indent line + tabWidth := rfl

end Lifeline.Syntax
