import Lifeline.Proofs.Syntax.Names

/-! # Options

A line `key: value` is read as an option (`read_of_writes`), whatever the value looks like, unless
the line holds an arrow or the key is the word `note`. -/

namespace Lifeline.Syntax

open Lifeline.Unicode (isBlank)

/-- A key is written like the member of a group: a letter from A to Z or an underscore, and then any
characters of names. -/
abbrev IsKey (key : List Char) : Prop := isMemberLine key = true

/-- The line reads `key: value`, blanks in front of the key apart. -/
def Writes (line key value : List Char) : Prop :=
  ∃ front, (∀ c ∈ front, isBlank c = true) ∧ line = front ++ (key ++ ':' :: value)

section
variable {line key value : List Char}

theorem trim_of_writes (h : Writes line key value) (hkey : IsKey key) :
    Text.trim line = key ++ ':' :: Text.trimEnd value := by
  obtain ⟨front, hfront, rfl⟩ := h
  obtain ⟨hne, hall⟩ := name_of_isMemberLine hkey
  obtain ⟨c, rest, rfl⟩ := List.exists_cons_of_ne_nil hne
  have hc := isBlank_of_isIdChar (hall c List.mem_cons_self)
  rw [Text.trim, Text.trimStart_append_of_blank hfront, List.cons_append,
    Text.trimStart_cons_of_not hc, ← List.cons_append, Text.trimEnd_append_cons (by decide)]

theorem option?_append (hkey : IsKey key) (value : List Char) : option? (key ++ ':' :: value) =
    some (Unicode.lowercase (String.ofList key), Text.trim value) := by
  cases key with
  | nil => exact absurd hkey (by decide)
  | cons c rest =>
      have hkey : isKeyStart c = true ∧ ∀ d ∈ rest, isIdChar d = true := by
        simpa [IsKey, isMemberLine] using hkey
      have hcolon : (':' :: value).head?.any isIdChar = false := by
        show isIdChar ':' = false
        decide
      rw [List.cons_append, option?, if_pos hkey.1]
      dsimp only
      rw [takeWhile_isIdChar hkey.2 hcolon, List.drop_left,
        Text.trimStart_cons_of_not (by decide)]
      rfl

/-- A word without a colon at the beginning of `key: value` is a part of the key. -/
theorem exists_of_dropWord?_append {word rest : List Char} (hword : ':' ∉ word)
    (h : Text.dropWord? word (key ++ ':' :: value) = some rest) :
    ∃ front more, key = front ++ more ∧ Text.folded front = word ∧ rest = more ++ ':' :: value := by
  induction word generalizing key with
  | nil =>
      rw [Text.dropWord?_nil] at h
      exact ⟨[], key, rfl, rfl, (Option.some.inj h).symm⟩
  | cons w word ih =>
      cases key with
      | nil =>
          obtain ⟨c, text, hline, hc⟩ := dropWord?_cons h
          obtain ⟨rfl, -⟩ := List.cons.inj hline
          exact absurd (List.mem_cons.mpr (Or.inl hc)) hword
      | cons c key =>
          rw [List.cons_append, Text.dropWord?] at h
          split at h
          · next hc =>
              obtain ⟨front, more, rfl, hfront, hrest⟩ :=
                ih (fun hmem => hword (List.mem_cons_of_mem w hmem)) h
              refine ⟨c :: front, more, rfl, ?_, hrest⟩
              rw [Text.folded, List.map_cons, hc]
              exact congrArg _ hfront
          · cases h

theorem gapWord?_cons_of_not {c : Char} (h : isBlank c = false) (word : String)
    (text : List Char) : gapWord? word (c :: text) = none := by
  rw [gapWord?, blanks?, if_neg (by simp [h]), Option.bind_none]

theorem noteHeader?_append (hkey : IsKey key) (hnote : Text.folded key ≠ ['n', 'o', 't', 'e'])
    (value : List Char) : noteHeader? (key ++ ':' :: value) = none := by
  unfold noteHeader?
  split
  · rfl
  · next rest hdrop =>
      obtain ⟨front, more, rfl, hfront, rfl⟩ := exists_of_dropWord?_append (by decide) hdrop
      cases more with
      | nil => exact absurd hfront (by simpa using hnote)
      | cons c more =>
          -- the key goes on behind the word, so neither a gap nor a colon follows the word
          have hid : isIdChar c = true := isIdChar_of_isMemberLine hkey c (by simp)
          have hblank := isBlank_of_isIdChar hid
          have hcolon : c ≠ ':' := by
            rintro rfl
            exact absurd hid (by decide)
          have htext : noteText? (c :: (more ++ ':' :: value)) = none := by
            rw [noteText?, Text.trimStart_cons_of_not hblank]
            split <;> simp_all
          rw [List.cons_append]
          simp only [gapWord?_cons_of_not hblank, noteEnding?, noteParticipant?, htext,
            Option.bind_none, Option.map_none]

theorem hasArrow_trim (h : hasArrow line = false) : hasArrow (Text.trim line) = false := by
  obtain ⟨front, behind, hline⟩ := Text.eq_append_trim line
  have hno : ∀ piece, Text.contains piece line = false →
      Text.contains piece (Text.trim line) = false := by
    intro piece hpiece
    by_contra hmem
    have htrimmed := Text.contains_iff.mp (by simpa using hmem)
    have hpart : piece <:+: line := htrimmed.trans ⟨front, behind, hline.symm⟩
    simp [Text.contains_iff.mpr hpart] at hpiece
  rw [hasArrow, Bool.or_eq_false_iff] at h ⊢
  exact ⟨hno _ h.1, hno _ h.2⟩

/-- **A line `key: value` is an option** unless it holds an arrow or its key is `note`. -/
theorem read_of_writes (h : Writes line key value) (hkey : IsKey key)
    (hnote : Text.folded key ≠ ['n', 'o', 't', 'e']) (harrow : hasArrow line = false)
    (inGroup : Bool) : Line.read inGroup (Text.trim line) =
      .option (Unicode.lowercase (String.ofList key)) (Text.trim value) := by
  obtain ⟨hne, hall⟩ := name_of_isMemberLine hkey
  have harrow := hasArrow_trim harrow
  have hoption := option?_append hkey (Text.trimEnd value)
  rw [Text.trim_trimEnd] at hoption
  rw [trim_of_writes h hkey] at harrow ⊢
  rw [read_of_name hne hall (by decide), harrow, if_neg (by simp), Line.readDescription?,
    noteHeader?_append hkey hnote, hoption]
  rfl

end

end Lifeline.Syntax
