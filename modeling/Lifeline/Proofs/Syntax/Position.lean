import Lifeline.Proofs.Syntax.Names
import Lifeline.Proofs.Syntax.Reply

/-! # Positions as they are written

A line that gives a position ends in it: the position is what the last word of the line says
(`positionNumber?_of_read`). A word of ASCII digits, perhaps behind a minus sign, denotes a number
of any size (`Denotes`), and what is read of it is this number, brought into the range of positions
(`positionNumber?_of_denotes`). -/

namespace Lifeline

/-! ### Last words -/

namespace Text

open Lifeline.Unicode (isBlank)

/-- What follows the last blank of a text. -/
def lastWord (text : List Char) : List Char :=
  (text.reverse.takeWhile fun c => !isBlank c).reverse

/-- No blank stands in the text. -/
def BlankFree (text : List Char) : Prop := ∀ c ∈ text, isBlank c = false

theorem lastWord_append {gap word : List Char} (hgap : ∀ c ∈ gap, isBlank c = true)
    (hne : gap ≠ []) (hword : BlankFree word) (front : List Char) :
    lastWord (front ++ gap ++ word) = word := by
  obtain ⟨init, b, rfl⟩ := gap.eq_nil_or_concat.resolve_left hne
  have hb : isBlank b = true := hgap b (by simp)
  have hrev : (front ++ init.concat b ++ word).reverse =
      word.reverse ++ b :: (init.reverse ++ front.reverse) := by simp
  rw [lastWord, hrev, List.takeWhile_append_of_pos, List.takeWhile_cons_of_neg (by simp [hb]),
    List.append_nil, List.reverse_reverse]
  intro c hc
  simp [hword c (List.mem_reverse.mp hc)]

end Text

namespace Syntax

open Lifeline.Text (BlankFree lastWord)
open Lifeline.Unicode (isBlank isDecimalDigit)

/-! ### Numbers -/

/-- The word writes the number: digits, perhaps behind a minus sign. -/
def Denotes (word : List Char) (z : Int) : Prop :=
  ∃ digits, digits ≠ [] ∧ (∀ c ∈ digits, c.isDigit = true) ∧
    (word = digits ∧ z = Nat.ofDigitChars 10 digits 0 ∨
      word = '-' :: digits ∧ z = -(Nat.ofDigitChars 10 digits 0 : Int))

/-- Every number is written in this way. -/
theorem denotes_toString (n : Int) : Denotes (toString n).toList n := by
  have hdigits : ∀ m : Nat, ∀ c ∈ Nat.toDigits 10 m, c.isDigit = true := fun m c hc =>
    Nat.isDigit_of_mem_toDigits (by decide) (by decide) hc
  cases n with
  | ofNat m =>
      refine ⟨Nat.toDigits 10 m, Nat.toDigits_ne_nil, hdigits m, Or.inl ⟨Nat.toList_repr, ?_⟩⟩
      rw [Nat.ofDigitChars_ten_toDigits]
      rfl
  | negSucc m =>
      refine ⟨Nat.toDigits 10 (m + 1), Nat.toDigits_ne_nil, hdigits _, Or.inr ⟨?_, ?_⟩⟩
      · rw [← Nat.toList_repr]
        exact String.toList_append
      · rw [Nat.ofDigitChars_ten_toDigits]
        rfl

theorem isDecimalDigit_of_isDigit {c : Char} (h : c.isDigit = true) : isDecimalDigit c = true := by
  have hlt : c.toNat < 0x80 := by
    have hle := (of_decide_eq_true (Bool.and_eq_true_iff.mp h).2)
    exact lt_of_le_of_lt (UInt32.le_iff_toNat_le.mp hle) (by decide)
  rw [isDecimalDigit, if_pos hlt]
  exact h

theorem isBlank_of_isDecimalDigit {c : Char} (h : isDecimalDigit c = true) :
    isBlank c = false :=
  isBlank_of_isIdChar (by simp [isIdChar, Unicode.isWordChar, h])

theorem foldl_digits (digits : List Char) (n : Nat) :
    digits.foldl (fun (n : Int) c => n * 10 + (c.toNat - '0'.toNat : Nat)) (n : Int) =
      (Nat.ofDigitChars 10 digits n : Nat) := by
  induction digits generalizing n with
  | nil => rfl
  | cons c digits ih =>
      have hstep : (n : Int) * 10 + (c.toNat - '0'.toNat : Nat) =
          ((10 * n + (c.toNat - '0'.toNat) : Nat) : Int) := by
        rw [Nat.mul_comm]
        rfl
      rw [List.foldl_cons, hstep, ih, Nat.ofDigitChars_cons]

/-- A number is read as the position next to it that is in range. -/
theorem positionNumber?_of_denotes {word : List Char} {z : Int} (h : Denotes word z) :
    positionNumber? word = some (max leastPosition (min greatestPosition z)) := by
  obtain ⟨digits, hne, hdigits, hword⟩ := h
  have hall : digits.all Char.isDigit = true := List.all_eq_true.mpr hdigits
  have hdecimal : digits ≠ [] ∧ digits.all isDecimalDigit = true :=
    ⟨hne, List.all_eq_true.mpr fun c hc => isDecimalDigit_of_isDigit (hdigits c hc)⟩
  have hvalue := foldl_digits digits 0
  rw [Int.natCast_zero] at hvalue
  have hbounds : leastPosition ≤ 0 ∧ 0 ≤ greatestPosition := by decide
  rcases hword with ⟨rfl, rfl⟩ | ⟨rfl, rfl⟩
  · obtain ⟨c, rest, rfl⟩ := List.exists_cons_of_ne_nil hne
    have hminus : c ≠ '-' := by
      rintro rfl
      exact absurd (hdigits '-' List.mem_cons_self) (by decide)
    have hread : positionNumber? (c :: rest) = some (positionOf false (c :: rest)) := by
      unfold positionNumber?
      split
      next sign digits heq =>
        split at heq
        · next rest' hcons => exact absurd (List.cons.inj hcons).1 hminus
        · obtain ⟨rfl, rfl⟩ := Prod.mk.inj heq
          rw [if_pos hdecimal]
    rw [hread, positionOf, if_pos hall, if_neg (by decide), hvalue]
    congr 1
    omega
  · have hread : positionNumber? ('-' :: digits) = some (positionOf true digits) :=
      if_pos hdecimal
    rw [hread, positionOf, if_pos hall, if_pos rfl, hvalue]
    congr 1
    omega

theorem blankFree_of_positionNumber? {word : List Char} {n : Int}
    (h : positionNumber? word = some n) : BlankFree word := by
  have hdigits : ∀ digits : List Char, digits.all isDecimalDigit = true → BlankFree digits :=
    fun digits hall c hc => isBlank_of_isDecimalDigit (List.all_eq_true.mp hall c hc)
  unfold positionNumber? at h
  split at h
  next sign digits heq =>
    split at h
    · next hdecimal =>
        split at heq
        · obtain ⟨-, rfl⟩ := Prod.mk.inj heq
          exact List.forall_mem_cons.mpr ⟨by decide, hdigits _ hdecimal.2⟩
        · obtain ⟨-, rfl⟩ := Prod.mk.inj heq
          exact hdigits _ hdecimal.2
    · cases h

/-! ### Positions at the end of a line -/

section
variable {text rest : List Char}

theorem eq_append_of_blanks? (h : blanks? text = some rest) :
    ∃ gap, gap ≠ [] ∧ (∀ c ∈ gap, isBlank c = true) ∧ text = gap ++ rest := by
  cases text with
  | nil => cases h
  | cons c text =>
      rw [blanks?] at h
      split at h
      · next hc =>
          obtain rfl := Option.some.inj h
          refine ⟨c :: text.takeWhile isBlank, List.cons_ne_nil _ _, ?_, ?_⟩
          · exact List.forall_mem_cons.mpr ⟨hc, fun d hd => List.mem_takeWhile_imp hd⟩
          · rw [List.cons_append]
            exact congrArg _ List.takeWhile_append_dropWhile.symm
      · cases h

theorem suffix_of_blanks? (h : blanks? text = some rest) : rest <:+ text := by
  obtain ⟨gap, -, -, rfl⟩ := eq_append_of_blanks? h
  exact List.suffix_append gap rest

theorem suffix_of_dropWord? {word : List Char} (h : Text.dropWord? word text = some rest) :
    rest <:+ text := by
  obtain ⟨front, rfl, -⟩ := Text.eq_append_of_dropWord? h
  exact List.suffix_append front rest

theorem suffix_of_gapWord? {word : String} (h : gapWord? word text = some rest) :
    rest <:+ text := by
  obtain ⟨behind, hbehind, hrest⟩ := Option.bind_eq_some_iff.mp h
  exact (suffix_of_dropWord? hrest).trans (suffix_of_blanks? hbehind)

theorem suffix_of_gapWord?_blanks? {word : String}
    (h : (gapWord? word text).bind blanks? = some rest) : rest <:+ text := by
  obtain ⟨behind, hbehind, hrest⟩ := Option.bind_eq_some_iff.mp h
  exact (suffix_of_blanks? hrest).trans (suffix_of_gapWord? hbehind)

theorem suffix_of_article? (h : article? text = some rest) : rest <:+ text := by
  unfold article? at h
  split at h
  · cases h
  · next behind hbehind =>
      refine List.IsSuffix.trans ?_ (suffix_of_gapWord? hbehind)
      split at h
      · next found hfound =>
          obtain rfl := Option.some.inj h
          obtain ⟨middle, hmiddle, hrest⟩ := Option.bind_eq_some_iff.mp hfound
          exact (suffix_of_blanks? hrest).trans (suffix_of_dropWord? hmiddle)
      · exact suffix_of_blanks? h

end

/-- The text ends in the position. -/
def EndsIn (text : List Char) (n : Int) : Prop :=
  ∃ ending, ending <:+ text ∧ positionEnding? ending = some n

section
variable {text rest : List Char} {n : Int}

theorem EndsIn.of_suffix (h : EndsIn rest n) (hrest : rest <:+ text) : EndsIn text n := by
  obtain ⟨ending, hending, hn⟩ := h
  exact ⟨ending, hending.trans hrest, hn⟩

theorem EndsIn.positionNumber?_lastWord (h : EndsIn text n) :
    positionNumber? (lastWord text) = some n := by
  obtain ⟨_, ⟨front, rfl⟩, hn⟩ := h
  obtain ⟨word, hword, hnumber⟩ := Option.bind_eq_some_iff.mp hn
  obtain ⟨behind, hbehind, hgap⟩ := Option.bind_eq_some_iff.mp hword
  obtain ⟨middle, rfl⟩ := suffix_of_gapWord? hbehind
  obtain ⟨gap, hne, hblank, rfl⟩ := eq_append_of_blanks? hgap
  rw [← List.append_assoc, ← List.append_assoc,
    Text.lastWord_append hblank hne (blankFree_of_positionNumber? hnumber), hnumber]

theorem endsIn_of_splitAlias (h : (splitAlias text).2 = some n) : EndsIn text n := by
  induction text with
  | nil => cases h
  | cons c rest ih =>
      have hrest : rest <:+ c :: rest := List.suffix_cons c rest
      rw [splitAlias] at h
      split at h
      · next m hm =>
          obtain rfl := Option.some.inj h
          exact ⟨rest, hrest, hm⟩
      · exact (ih h).of_suffix hrest

theorem endsIn_of_declarationEnding? {aka : Option (List Char)}
    (h : declarationEnding? text = some (aka, some n)) : EndsIn text n := by
  unfold declarationEnding? at h
  split at h
  · cases h
  · split at h
    · next rest hrest =>
        obtain ⟨behind, hbehind, hnonempty⟩ := Option.bind_eq_some_iff.mp hrest
        obtain rfl := eq_of_mem_nonempty? hnonempty
        have hsplit : (splitAlias rest).2 = some n :=
          (Prod.mk.inj (Option.some.inj h)).2
        exact (endsIn_of_splitAlias hsplit).of_suffix (suffix_of_gapWord?_blanks? hbehind)
    · obtain ⟨m, hm, heq⟩ := Option.map_eq_some_iff.mp h
      obtain rfl := Option.some.inj (Prod.mk.inj heq).2
      exact ⟨text, List.suffix_refl text, hm⟩

theorem endsIn_of_declaration? {d : Declaration} (h : declaration? text = some d)
    (hn : d.position = some n) : EndsIn text n := by
  unfold declaration? at h
  dsimp only at h
  split at h
  · cases h
  · split at h
    · cases h
    · next rest hrest =>
        obtain ⟨behind, hbehind, harticle⟩ := Option.bind_eq_some_iff.mp hrest
        have hsuffix : rest <:+ text := (suffix_of_article? harticle).trans
          ((suffix_of_gapWord? hbehind).trans (List.drop_suffix _ _))
        split at h
        · cases h
        · obtain ⟨⟨aka, position⟩, hending, rfl⟩ := Option.map_eq_some_iff.mp h
          obtain rfl : position = some n := hn
          exact (endsIn_of_declarationEnding? hending).of_suffix
            ((List.drop_suffix _ _).trans hsuffix)

theorem endsIn_of_positionLine? {id : List Char} (h : positionLine? text = some (id, n)) :
    EndsIn text n := by
  unfold positionLine? at h
  dsimp only at h
  split at h
  · cases h
  · obtain ⟨m, hm, heq⟩ := Option.map_eq_some_iff.mp h
    obtain ⟨-, rfl⟩ := Prod.mk.inj heq
    exact ⟨_, List.drop_suffix _ _, hm⟩

/-! ### The position of a line -/

/-- The position that a line gives. -/
def Line.position? : Line → Option Int
  | .declaration d => d.position
  | .position _ n => some n
  | _ => none

theorem endsIn_of_readDescription? {inGroup : Bool} {form : Line}
    (h : Line.readDescription? inGroup text = some form) (hn : form.position? = some n) :
    EndsIn text n := by
  simp only [Line.readDescription?] at h
  split at h
  · obtain rfl := Option.some.inj h
    cases hn
  · split at h
    · next d hd =>
        obtain rfl := Option.some.inj h
        exact endsIn_of_declaration? hd hn
    · split at h
      · next id m hposition =>
          obtain rfl := Option.some.inj h
          obtain rfl := Option.some.inj hn
          exact endsIn_of_positionLine? hposition
      · split at h
        · obtain rfl := Option.some.inj h
          cases hn
        · cases h

/-- A line that gives a position ends in it, and the position is what its last word says. -/
theorem positionNumber?_of_read {inGroup : Bool}
    (h : (Line.read inGroup text).position? = some n) :
    positionNumber? (lastWord text) = some n := by
  refine EndsIn.positionNumber?_lastWord ?_
  obtain hnone | hdescription | ⟨statement, -, hread⟩ := names_cases inGroup text
  · cases hform : Line.read inGroup text <;> simp [hform, Line.names, Line.position?] at hnone h
  · exact endsIn_of_readDescription? hdescription h
  · rw [hread] at h
    cases h

end

end Syntax

end Lifeline
