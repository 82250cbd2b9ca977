import Lifeline.Syntax.Line
import Mathlib.Data.List.Basic

/-! # Lines that start a branch

Whether a line starts a branch is asked before the line is read, to decide which blocks stay open.
A line that begins with `else` is no message and opens no block, so the answer agrees with the
content that is then found (`startsBranch_iff`). -/

namespace Lifeline.Syntax

open Lifeline.Unicode (isBlank isBlank_of_isSpaceOrTab isSpaceOrTab)

/-! ### Blanks -/

theorem toNat_mem_of_isBlank {c : Char} (h : isBlank c = true) :
    c.toNat ∈ Unicode.blankRanges.flatMap fun r => List.range' r.1 (r.2 + 1 - r.1) := by
  obtain ⟨r, hr, hlo, hhi⟩ := Unicode.exists_of_inRanges h
  refine List.mem_flatMap.mpr ⟨r, hr, List.mem_range'_1.mpr ⟨hlo, ?_⟩⟩
  omega

theorem of_isBlank {p : Char → Bool} {c : Char} (h : isBlank c = true)
    (hp : ∀ n ∈ Unicode.blankRanges.flatMap fun r => List.range' r.1 (r.2 + 1 - r.1),
      p (Char.ofNat n) = true) : p c = true := by
  have := hp c.toNat (toNat_mem_of_isBlank h)
  rwa [Char.ofNat_toNat] at this

theorem not_inName_of_isBlank {c : Char} (h : isBlank c = true) :
    isNameChar c = false ∧ isIdChar c = false := by
  have := of_isBlank (p := fun c => !isNameChar c && !isIdChar c) h (by decide +kernel)
  simpa using this

theorem isNameChar_of_isBlank {c : Char} (h : isBlank c = true) : isNameChar c = false :=
  (not_inName_of_isBlank h).1

theorem foldCase_of_isBlank {c : Char} (h : isBlank c = true) : Text.foldCase c = c := by
  have := of_isBlank (p := fun c => Text.foldCase c == c) h (by decide)
  simpa using this

/-! ### Arrows -/

/-- The character begins no arrow. -/
def isPlain (c : Char) : Bool := c != '-' && c != '~'

theorem isPlain_of_isBlank {c : Char} (h : isBlank c = true) : isPlain c = true :=
  of_isBlank h (by decide)

theorem isPlain_of_foldCase {c : Char} (h : isPlain (Text.foldCase c) = true) :
    isPlain c = true := by
  by_contra hc
  have : c = '-' ∨ c = '~' := by
    by_cases hdash : c = '-' <;> simp_all [isPlain]
  rcases this with rfl | rfl <;> exact absurd h (by decide)

theorem arrow?_eq_none {text : List Char} (h : ∀ c ∈ text.head?, isPlain c = true) :
    arrow? text = none := by
  unfold arrow?
  split
  · exact absurd (h '-' rfl) (by decide)
  · exact absurd (h '~' rfl) (by decide)
  · rfl

/-- A name may end inside a text without arrows and spaces, or reach what follows it; there is no
arrow in either case. -/
theorem arrow?_behind_name {front rest : List Char}
    (hfront : ∀ c ∈ front, isPlain c = true ∧ isSpaceOrTab c = false)
    (hname : (name rest).2 = rest) (hrest : arrow? (rest.dropWhile isSpaceOrTab) = none) :
    arrow? ((name (front ++ rest)).2.dropWhile isSpaceOrTab) = none := by
  induction front with
  | nil => rwa [List.nil_append, hname]
  | cons c front ih =>
      obtain ⟨hplain, hspace⟩ := hfront c List.mem_cons_self
      rw [List.cons_append, name]
      split
      · exact ih fun d hd => hfront d (List.mem_cons_of_mem c hd)
      · apply arrow?_eq_none
        rw [List.dropWhile_cons_of_neg (by simp [hspace])]
        rintro _ ⟨rfl⟩
        exact hplain

theorem arrow?_dropWhile {text : List Char}
    (h : ∀ c ∈ (Text.trimStart text).head?, isPlain c = true) :
    arrow? (text.dropWhile isSpaceOrTab) = none := by
  induction text with
  | nil => rfl
  | cons c text ih =>
      by_cases hspace : isSpaceOrTab c = true
      · rw [List.dropWhile_cons_of_pos hspace]
        apply ih
        have hblank : isBlank c = true := isBlank_of_isSpaceOrTab hspace
        rwa [Text.trimStart, List.dropWhile_cons_of_pos hblank] at h
      · rw [List.dropWhile_cons_of_neg hspace]
        apply arrow?_eq_none
        rintro _ ⟨rfl⟩
        by_cases hblank : isBlank c = true
        · exact isPlain_of_isBlank hblank
        · apply h
          rw [Text.trimStart, List.dropWhile_cons_of_neg hblank]
          rfl

/-! ### The word `else` -/

theorem dropWord?_cons {w : Char} {word line rest : List Char}
    (h : Text.dropWord? (w :: word) line = some rest) :
    ∃ c text, line = c :: text ∧ Text.foldCase c = w := by
  cases line with
  | nil => simp [Text.dropWord?] at h
  | cons c text =>
      refine ⟨c, text, rfl, ?_⟩
      by_contra hc
      simp [Text.dropWord?, hc] at h

theorem dropWord?_of_keywordText? {word : String} {line text : List Char}
    (h : keywordText? word line = some text) :
    ∃ rest, Text.dropWord? word.toList line = some rest := by
  unfold keywordText? at h
  split at h
  · next heq => exact ⟨_, heq⟩
  · next heq => exact ⟨_, heq⟩
  · simp at h

/-- A line that starts a branch begins with `else`, behind which there is nothing, or a gap and
another word. -/
theorem eq_append_of_branchOpening? {line : List Char} {label : Option (List Char)}
    (h : branchOpening? line = some label) :
    ∃ front rest, line = front ++ rest ∧ Text.folded front = ['e', 'l', 's', 'e'] ∧
      (∀ c ∈ rest.head?, isBlank c = true) ∧
      ∀ c ∈ (Text.trimStart rest).head?, Text.foldCase c = 'i' := by
  unfold branchOpening? at h
  split at h
  · next heq =>
      obtain ⟨front, hline, hfront⟩ := Text.eq_append_of_dropWord? heq
      exact ⟨front, [], hline, hfront, by simp, by simp [Text.trimStart]⟩
  · next rest _ heq =>
      obtain ⟨front, hline, hfront⟩ := Text.eq_append_of_dropWord? heq
      refine ⟨front, rest, hline, hfront, ?_⟩
      obtain ⟨text, hbind, -⟩ := Option.map_eq_some_iff.mp h
      obtain ⟨behind, hblanks, hkeyword⟩ := Option.bind_eq_some_iff.mp hbind
      cases rest with
      | nil => simp [blanks?] at hblanks
      | cons c more =>
          by_cases hc : isBlank c = true
          · simp only [blanks?, hc, if_true, Option.some.injEq] at hblanks
            refine ⟨by simp [hc], ?_⟩
            have htrim : Text.trimStart (c :: more) = behind := by
              rw [← hblanks]
              exact List.dropWhile_cons_of_pos hc
            obtain ⟨_, hword⟩ := dropWord?_of_keywordText? hkeyword
            obtain ⟨i, after, hi, hfold⟩ := dropWord?_cons hword
            rw [htrim, hi]
            rintro _ ⟨rfl⟩
            exact hfold
          · simp [blanks?, hc] at hblanks
  · simp at h

section
variable {line : List Char} {label : Option (List Char)}

theorem head_of_branchOpening? (h : branchOpening? line = some label) :
    ∃ c text, line = c :: text ∧ Text.foldCase c = 'e' ∧ isBlank c = false := by
  have hword : ∃ rest, Text.dropWord? ['e', 'l', 's', 'e'] line = some rest := by
    unfold branchOpening? at h
    split at h
    · next heq => exact ⟨_, heq⟩
    · next heq => exact ⟨_, heq⟩
    · simp at h
  obtain ⟨_, hword⟩ := hword
  obtain ⟨c, text, hline, hc⟩ := dropWord?_cons hword
  refine ⟨c, text, hline, hc, ?_⟩
  by_contra hblank
  rw [foldCase_of_isBlank (by simpa using hblank)] at hc
  rw [hc] at hblank
  exact hblank (by decide)

theorem isPlain_of_mem_else {front : List Char} (h : Text.folded front = ['e', 'l', 's', 'e'])
    {c : Char} (hc : c ∈ front) : isPlain c = true ∧ isSpaceOrTab c = false := by
  have hmem : Text.foldCase c ∈ ['e', 'l', 's', 'e'] := h ▸ List.mem_map_of_mem hc
  constructor
  · apply isPlain_of_foldCase
    have hall : ['e', 'l', 's', 'e'].all isPlain = true := by decide
    exact List.all_eq_true.mp hall _ hmem
  · cases hspace : isSpaceOrTab c with
    | false => rfl
    | true =>
        rw [foldCase_of_isBlank (isBlank_of_isSpaceOrTab hspace)] at hmem
        have hnone : ['e', 'l', 's', 'e'].any isSpaceOrTab = false := by decide
        exact absurd hspace (List.any_eq_false.mp hnone c hmem)

/-- A line that starts a branch states no message. -/
theorem statement?_of_branchOpening? (h : branchOpening? line = some label) :
    statement? line = none := by
  obtain ⟨front, rest, hline, hfront, hblank, hword⟩ := eq_append_of_branchOpening? h
  obtain ⟨c, text, hcons, -, hletter⟩ := head_of_branchOpening? h
  have hname : (name rest).2 = rest := by
    cases rest with
    | nil => rfl
    | cons d more => simp [name, isNameChar_of_isBlank (hblank d rfl)]
  have hrest : arrow? (rest.dropWhile isSpaceOrTab) = none := by
    apply arrow?_dropWhile
    intro d hd
    apply isPlain_of_foldCase
    rw [hword d hd]
    decide
  have harrow := arrow?_behind_name (fun c hc => isPlain_of_mem_else hfront hc) hname hrest
  rw [← hline] at harrow
  have hspaces : line.dropWhile isSpaceOrTab = line := by
    rw [hcons, List.dropWhile_cons_of_neg]
    exact fun hspace => by simp [isBlank_of_isSpaceOrTab hspace] at hletter
  cases hpadded : paddedName? line with
  | none => simp [statement?, hpadded]
  | some padded =>
      obtain ⟨sender, behind⟩ := padded
      have hbehind : arrow? behind = none := by
        unfold paddedName? at hpadded
        rw [hspaces] at hpadded
        split at hpadded
        · simp at hpadded
        · next heq =>
            obtain ⟨-, rfl⟩ := Prod.mk.inj (Option.some.inj hpadded)
            rwa [heq] at harrow
      simp [statement?, hpadded, hbehind]

theorem blockOpening?_of_branchOpening? (h : branchOpening? line = some label) :
    blockOpening? line = none := by
  obtain ⟨c, text, rfl, hc, -⟩ := head_of_branchOpening? h
  simp [blockOpening?, keywordText?, BlockKind.keyword, Text.dropWord?, hc]

theorem firstWord_of_branchOpening? (h : branchOpening? line = some label) :
    Text.equalsIgnoringCase (Text.firstWord line) ['a', 's', 'y', 'n', 'c'] = false := by
  obtain ⟨c, text, rfl, hc, hblank⟩ := head_of_branchOpening? h
  have hlower : c.toLower ≠ 'a' := by
    intro hlower
    have : Text.foldCase c = 's' ∨ Text.foldCase c = 'k' ∨ Text.foldCase c = 'a' := by
      unfold Text.foldCase
      rw [hlower]
      split
      · exact Or.inl rfl
      · split
        · exact Or.inr (Or.inl rfl)
        · exact Or.inr (Or.inr rfl)
    rw [hc] at this
    exact absurd this (by decide)
  simp [Text.firstWord, Text.trimStart, hblank, Text.equalsIgnoringCase, hlower]

end

theorem readDescription?_ne_content (inGroup : Bool) (line : List Char) (c : Content) :
    Line.readDescription? inGroup line ≠ some (.content c) := by
  intro h
  simp only [Line.readDescription?] at h
  generalize (if (noteHeader? line).isSome = true then none else option? line) = key at h
  repeat' split at h
  all_goals simp at h

theorem content_of_read {inGroup : Bool} {line : List Char} {c : Content}
    (h : Line.read inGroup line = .content c) : c = Content.read line := by
  have hno := readDescription?_ne_content inGroup line c
  unfold Line.read at h
  repeat' split at h
  all_goals simp_all

/-- What a line is when it is asked for a branch is what its content turns out to be. -/
theorem startsBranch_iff {inGroup : Bool} {line : List Char} {c : Content}
    (h : Line.read inGroup line = .content c) :
    startsBranch line = true ↔ ∃ label, c = .branch label := by
  obtain rfl := content_of_read h
  unfold startsBranch Content.read
  cases hbranch : branchOpening? line with
  | some label =>
      rw [firstWord_of_branchOpening? hbranch, statement?_of_branchOpening? hbranch,
        blockOpening?_of_branchOpening? hbranch]
      simp
  | none =>
      simp only [Option.isSome_none, Bool.false_eq_true, false_iff, not_exists]
      intro label heq
      repeat' split at heq
      all_goals simp at heq

end Lifeline.Syntax
