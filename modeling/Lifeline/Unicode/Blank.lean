import Lifeline.Unicode.Range

/-! # Blank characters

A character is blank when it has the property White_Space. Every place that trims, splits into
words or asks for a gap between two words uses this one class. -/

namespace Lifeline.Unicode

/-- The intervals of White_Space. -/
def blankRanges : List (Nat × Nat) := [
  (0x9, 0xD), (0x20, 0x20), (0x85, 0x85), (0xA0, 0xA0), (0x1680, 0x1680), (0x2000, 0x200A),
  (0x2028, 0x2029), (0x202F, 0x202F), (0x205F, 0x205F), (0x3000, 0x3000)]

/-- The character has the property White_Space. -/
def isBlank (c : Char) : Bool := inRanges blankRanges c.toNat

/-- A space or a tab. -/
def isSpaceOrTab (c : Char) : Bool := c == ' ' || c == '\t'

/-- Tab, vertical tab, form feed or space: the blanks that Markdown drops at the end of a line. -/
def isLineBlank (c : Char) : Bool := c == ' ' || c == '\t' || c == '\x0b' || c == '\x0c'

theorem isBlank_of_isSpaceOrTab {c : Char} (h : isSpaceOrTab c = true) : isBlank c = true := by
  simp only [isSpaceOrTab, Bool.or_eq_true, beq_iff_eq] at h
  rcases h with rfl | rfl <;> decide

end Lifeline.Unicode
