import Lifeline.Text.Fold
import Lifeline.Unicode.Case
import Mathlib.Data.List.Basic

/-! # Words in any case

Three ways of comparing with a word in small letters are used: lower case by the tables, lower case
of the 26 letters only, and folding. A text that is the word by one of the first two is the word by
the third (`folded_of_lowercase`, `folded_of_equalsIgnoringCase`), and is then found by `dropWord?`
(`dropWord?_append`). -/

namespace Lifeline.Text

open Lifeline.Unicode (lowerChar lowercase lowercaseAfter lowercaseRows lowercaseShift)

/-- The converse of `eq_append_of_dropWord?`. -/
theorem dropWord?_append {word front : List Char} (h : folded front = word) (rest : List Char) :
    dropWord? word (front ++ rest) = some rest := by
  induction front generalizing word with
  | nil =>
      subst h
      exact dropWord?_nil rest
  | cons c front ih =>
      subst h
      rw [folded, List.map_cons, List.cons_append, dropWord?, if_pos rfl]
      exact ih rfl

/-- Words are compared that consist of small letters. -/
def IsSmall (word : List Char) : Prop := ∀ c ∈ word, 0x61 ≤ c.toNat ∧ c.toNat ≤ 0x7A

instance (word : List Char) : Decidable (IsSmall word) := List.decidableBAll _ word

/-! ### Lower case of the 26 letters -/

theorem foldCase_of_toLower {c : Char} (h : c.toLower.toNat < 0x80) : foldCase c = c.toLower := by
  unfold foldCase
  split
  · next hc =>
      subst hc
      exact absurd h (by decide)
  · split
    · next hc =>
        subst hc
        exact absurd h (by decide)
    · rfl

theorem folded_of_equalsIgnoringCase {text word : List Char} (hword : IsSmall word)
    (h : equalsIgnoringCase text word = true) : folded text = word := by
  have hlower : word.map Char.toLower = word := by
    refine (List.map_congr_left fun c hc => ?_).trans (List.map_id _)
    have htable : ∀ n < 0x80, 0x61 ≤ n → (Char.ofNat n).toLower = Char.ofNat n := by decide
    obtain ⟨hlo, hhi⟩ := hword c hc
    have hsmall := htable c.toNat (by omega) hlo
    rwa [Char.ofNat_toNat] at hsmall
  rw [equalsIgnoringCase, hlower, beq_iff_eq] at h
  rw [← h] at hword ⊢
  refine List.map_congr_left fun c hc => foldCase_of_toLower ?_
  have hc := hword _ (List.mem_map_of_mem hc)
  omega

/-! ### Lower case by the tables -/

theorem exists_of_lowercaseShift (rows : List (Nat × Nat × Nat × Int)) (n : Nat) :
    lowercaseShift rows n = 0 ∨
      ∃ r ∈ rows, r.1 ≤ n ∧ n ≤ r.2.1 ∧ lowercaseShift rows n = r.2.2.2 := by
  induction rows with
  | nil => exact Or.inl rfl
  | cons r rows ih =>
      obtain ⟨first, last, step, shift⟩ := r
      rw [lowercaseShift]
      split
      · exact Or.inl rfl
      · split
        · next hfirst hin =>
            simp only [Bool.and_eq_true, decide_eq_true_eq] at hin
            exact Or.inr ⟨_, List.mem_cons_self, Nat.not_lt.mp hfirst, hin.1, rfl⟩
        · refine ih.imp_right ?_
          rintro ⟨r, hr, hrow⟩
          exact ⟨r, List.mem_cons_of_mem _ hr, hrow⟩

/-- Apart from the sign of the unit kelvin, no character beyond the first 128 has one of them as its
lower case. -/
theorem kelvin_of_rows : ∀ r ∈ lowercaseRows,
    0x80 ≤ (r.1 : Int) + r.2.2.2 ∨ r.1 = 0x212A ∧ r.2.1 = 0x212A := by decide +kernel

theorem toNat_ofNat_cases (n : Nat) : (Char.ofNat n).toNat = n ∨ (Char.ofNat n).toNat = 0 := by
  rw [Char.ofNat]
  by_cases hvalid : n.isValidChar
  · rw [dif_pos hvalid]
    exact Or.inl rfl
  · rw [dif_neg hvalid]
    exact Or.inr rfl

theorem foldCase_of_lowerChar {c : Char} (hpos : 0 < (lowerChar c).toNat)
    (hlt : (lowerChar c).toNat < 0x80) : foldCase c = lowerChar c := by
  unfold lowerChar at hpos hlt ⊢
  split
  · next hc =>
      rw [if_pos hc] at hlt
      exact foldCase_of_toLower hlt
  · next hc =>
      rw [if_neg hc] at hpos hlt
      have hcode := toNat_ofNat_cases (c.toNat + lowercaseShift lowercaseRows c.toNat).toNat
      rcases exists_of_lowercaseShift lowercaseRows c.toNat with hshift | ⟨r, hr, hlo, hhi, hshift⟩
      · omega
      · rcases kelvin_of_rows r hr with hrow | ⟨hfirst, hlast⟩
        · omega
        · have hkelvin : c.toNat = 0x212A := by omega
          obtain rfl : c = '\u212a' := by rw [← Char.ofNat_toNat c, hkelvin]
          decide +kernel

theorem folded_of_lowercaseAfter {text word : List Char} (before : List Char)
    (hword : IsSmall word) (h : lowercaseAfter before text = word) : folded text = word := by
  induction text generalizing before word with
  | nil => exact h
  | cons c rest ih =>
      rw [lowercaseAfter] at h
      subst h
      by_cases hsigma : c = 'Σ'
      · subst hsigma
        have hfirst := hword _ List.mem_cons_self
        split at hfirst <;> exact absurd hfirst (by decide)
      by_cases hdotted : c = 'İ'
      · subst hdotted
        have hsecond := hword _ (List.mem_cons_of_mem _ List.mem_cons_self)
        exact absurd hsecond (by decide)
      simp only [beq_iff_eq, hsigma, hdotted, if_false, List.singleton_append] at hword ⊢
      obtain ⟨⟨hlo, hhi⟩, hrest⟩ := List.forall_mem_cons.mp hword
      rw [folded, List.map_cons, foldCase_of_lowerChar (by omega) (by omega)]
      exact congrArg _ (ih (c :: before) hrest rfl)

theorem folded_of_lowercase {text : List Char} {word : String} (hword : IsSmall word.toList)
    (h : lowercase (String.ofList text) = word) : folded text = word.toList := by
  subst h
  rw [lowercase, String.toList_ofList, String.toList_ofList] at hword ⊢
  exact folded_of_lowercaseAfter [] hword rfl

end Lifeline.Text
