import Lifeline.Text.Line

/-! # Comparing without regard to case

`foldCase` brings letters to one case for comparison with words in small letters. Besides the 26
letters it folds the two characters that are case variants of one of them: the long s and the
sign of the unit kelvin. -/

namespace Lifeline.Text

/-- The letter by which a character is compared. -/
def foldCase (c : Char) : Char :=
  if c = '\u017f' then 's' else if c = '\u212a' then 'k' else c.toLower

/-- The text begins with a word in small letters: what follows the word. -/
def dropWord? : List Char → List Char → Option (List Char)
  | [], text => some text
  | _ :: _, [] => none
  | w :: word, c :: text => if foldCase c = w then dropWord? word text else none

/-- The text with every letter brought to one case. -/
def folded (text : List Char) : List Char := text.map foldCase

theorem dropWord?_nil (text : List Char) : dropWord? [] text = some text := by
  cases text <;> rfl

/-- What precedes the rest is the word, up to case. -/
theorem eq_append_of_dropWord? {word text rest : List Char} (h : dropWord? word text = some rest) :
    ∃ front, text = front ++ rest ∧ folded front = word := by
  induction word generalizing text with
  | nil => rw [dropWord?_nil] at h; exact ⟨[], by simp_all [folded]⟩
  | cons w word ih =>
    cases text with
    | nil => simp [dropWord?] at h
    | cons c text =>
      simp only [dropWord?] at h
      split at h
      · next hc =>
        obtain ⟨front, rfl, hf⟩ := ih h
        exact ⟨c :: front, rfl, by simp_all [folded]⟩
      · simp at h

end Lifeline.Text
