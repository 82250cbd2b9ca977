import Lifeline.Detection.Evidence
import Lifeline.Proofs.Syntax.Branch
import Lifeline.Proofs.Text.Fold
import Lifeline.Proofs.Text.Line

/-! # Signs that lines leave

The signs of a sequence diagram are looked for in the text as it stands, while lines are trimmed
before they are read. A line that is read as the option `chart: sequence` is a header of the text
all the same, in any case and with any blanks and line ends around it (`hasHeader_of_mem_lines`),
and a line that is read as a message holds an arrow between two texts
(`hasArrowLike_of_mem_lines`). -/

namespace Lifeline.Detection

open Lifeline.Syntax
open Lifeline.Unicode (isBlank)

/-! ### Headers -/

section
variable {line raw behind : List Char}

/-- The line is the option `chart: sequence`. -/
def IsHeader (line : List Char) : Prop := ∃ value, option? line = some ("chart", value) ∧
  Text.equalsIgnoringCase value "sequence".toList = true

theorem exists_of_option? {key : String} {value : List Char}
    (h : option? line = some (key, value)) :
    ∃ word rest text, line = word ++ rest ∧ word ≠ [] ∧
      Unicode.lowercase (String.ofList word) = key ∧ Text.trimStart rest = ':' :: text ∧
      Text.trim text = value := by
  unfold option? at h
  split at h
  · simp at h
  · next c rest =>
      split at h
      · dsimp only at h
        split at h
        · next text heq =>
            simp only [Option.some.injEq, Prod.mk.injEq] at h
            obtain ⟨hkey, hvalue⟩ := h
            refine ⟨c :: rest.takeWhile isIdChar, _, text, ?_, List.cons_ne_nil _ _, hkey, heq,
              hvalue⟩
            rw [List.cons_append, List.prefix_iff_eq_append.mp (List.takeWhile_prefix _)]
        · simp at h
      · simp at h

theorem endsLine_append {blanks : List Char} (hblanks : ∀ c ∈ blanks, isBlank c = true)
    (hbehind : Text.FinishesLine behind) : endsLine (blanks ++ behind) = true := by
  unfold endsLine
  rw [List.takeWhile_append_of_pos hblanks, List.dropWhile_append_of_pos hblanks]
  have hreturn : isBlank '\r' = true := by decide
  have hfeed : isBlank '\n' = true := by decide
  rcases hbehind with rfl | ⟨rest, rfl | rfl⟩
  · rfl
  · split
    · rfl
    · simp [hfeed]
  · split
    · rfl
    · simp [hreturn, hfeed]

theorem startsWithHeader_append (h : IsHeader (Text.trim raw))
    (hbehind : Text.FinishesLine behind) :
    startsWithHeader (raw ++ behind) = true := by
  obtain ⟨value, hoption, hvalue⟩ := h
  obtain ⟨word, rest, text, hline, hne, hkey, hcolon, rfl⟩ := exists_of_option? hoption
  have hword : Text.folded word = "chart".toList := Text.folded_of_lowercase (by decide) hkey
  have hname := Text.folded_of_equalsIgnoringCase (by decide) hvalue
  obtain ⟨blanks, hblanks, htrim⟩ := Text.trimStart_eq_append raw
  obtain ⟨gap, hgap, htext⟩ := Text.trimStart_eq_append text
  have hraw : Text.trimStart (raw ++ behind) = word ++ (rest ++ (blanks ++ behind)) := by
    rw [Text.trimStart_append (Text.trimStart_ne_nil (by simp [hline, hne])), htrim, hline]
    simp
  have hrest : Text.trimStart (rest ++ (blanks ++ behind)) =
      ':' :: (text ++ (blanks ++ behind)) := by
    rw [Text.trimStart_append (by rw [hcolon]; exact List.cons_ne_nil _ _), hcolon]
    rfl
  have hsequence : Text.trimStart (text ++ (blanks ++ behind)) =
      Text.trim text ++ (gap ++ blanks ++ behind) := by
    have hnonempty : Text.trim text ≠ [] := by
      intro hnil
      rw [hnil] at hname
      exact absurd hname (by decide)
    rw [Text.trimStart_append (Text.trimStart_ne_nil hnonempty), htext]
    simp
  unfold startsWithHeader
  simp only [hraw, Text.dropWord?_append hword, Option.map_some, hrest]
  rw [hsequence, Text.dropWord?_append hname]
  refine endsLine_append ?_ hbehind
  intro c hc
  exact (List.mem_append.mp hc).elim (hgap c) (hblanks c)

/-- A header at the beginning of any line is a header of the text. -/
theorem hasHeaderFrom_append {atStart : Bool} {front text : List Char}
    (hstart : front = [] → atStart = true) (hfront : Text.BeginsLine front)
    (h : startsWithHeader text = true) : hasHeaderFrom atStart (front ++ text) = true := by
  induction front generalizing atStart with
  | nil =>
      cases text with
      | nil => exact absurd h (by decide)
      | cons c rest =>
          rw [List.nil_append, hasHeaderFrom, hstart rfl, h]
          rfl
  | cons c front ih =>
      rw [List.cons_append, hasHeaderFrom, Bool.or_eq_true]
      refine Or.inr (ih ?_ ?_)
      · rintro rfl
        simpa using hfront c rfl
      · cases front with
        | nil => exact Text.beginsLine_nil
        | cons d front => exact fun e he => hfront e (by rwa [List.getLast?_cons_cons])

theorem hasHeader_of_mem_lines {text : List Char} (hraw : raw ∈ Text.lines text)
    (h : IsHeader (Text.trim raw)) : hasHeader text = true := by
  obtain ⟨front, behind, rfl, hfront, hbehind⟩ := Text.exists_of_mem_lines hraw
  rw [List.append_assoc]
  exact hasHeaderFrom_append (fun _ => rfl) hfront (startsWithHeader_append h hbehind)

end

/-! ### Arrows -/

section
variable {text rest : List Char}

theorem arrowBehind_cons {hasText : Bool} {c : Char}
    (h : arrowBehind (hasText || !isBlank c) rest = true) :
    arrowBehind hasText (c :: rest) = true :=
  Bool.or_eq_true_iff.mpr (Or.inr h)

/-- An arrow counts if there is text in front of it and behind it. -/
theorem arrowBehind_append {hasText : Bool} {a : Char} {front behind : List Char}
    (ha : a = '-' ∨ a = '~') (hfront : hasText = true ∨ ∃ c ∈ front, isBlank c = false)
    (hbehind : ∃ c ∈ behind, isBlank c = false) :
    arrowBehind hasText (front ++ a :: '>' :: behind) = true := by
  induction front generalizing hasText with
  | nil =>
      have htext : hasText = true := by
        obtain htext | ⟨c, hc, -⟩ := hfront
        · exact htext
        · exact absurd hc List.not_mem_nil
      have hany : behind.any (fun c => !isBlank c) = true := by
        obtain ⟨c, hc, hblank⟩ := hbehind
        exact List.any_eq_true.mpr ⟨c, hc, by rw [hblank]; rfl⟩
      unfold arrowBehind
      rcases ha with rfl | rfl <;> simp [htext, hany]
  | cons c front ih =>
      refine arrowBehind_cons (ih ?_)
      rcases hfront with htext | ⟨d, hd, hblank⟩
      · exact Or.inl (by rw [htext]; rfl)
      · rcases List.mem_cons.mp hd with rfl | hd
        · exact Or.inl (by rw [hblank, Bool.not_false, Bool.or_true])
        · exact Or.inr ⟨d, hd, hblank⟩

theorem exists_of_paddedName? {letters : List Char} (h : paddedName? text = some (letters, rest)) :
    ∃ front, text = front ++ rest ∧ ∃ c ∈ front, isBlank c = false := by
  unfold paddedName? at h
  split at h
  · simp at h
  · next letters' behind hnil hname =>
      obtain ⟨rfl, rfl⟩ := Prod.mk.inj (Option.some.inj h)
      have happend := name_append (text.dropWhile Unicode.isSpaceOrTab)
      rw [hname] at happend
      refine ⟨text.takeWhile Unicode.isSpaceOrTab ++ letters' ++
        behind.takeWhile Unicode.isSpaceOrTab, ?_, ?_⟩
      · rw [List.append_assoc, List.append_assoc, List.takeWhile_append_dropWhile, happend,
          List.takeWhile_append_dropWhile]
      · obtain ⟨c, more, rfl⟩ := List.exists_cons_of_ne_nil hnil
        have hletter : isNameChar c = true :=
          isNameChar_of_mem_name (by rw [hname]; exact List.mem_cons_self)
        refine ⟨c, by simp, ?_⟩
        cases hblank : isBlank c with
        | false => rfl
        | true => exact absurd (hletter.symm.trans (isNameChar_of_isBlank hblank)) (by decide)

theorem exists_of_arrow? {isAsync : Bool} (h : arrow? text = some (isAsync, rest)) :
    ∃ a, text = a :: '>' :: rest ∧ (a = '-' ∨ a = '~') := by
  unfold arrow? at h
  split at h
  · obtain ⟨-, rfl⟩ := Prod.mk.inj (Option.some.inj h)
    exact ⟨'-', rfl, Or.inl rfl⟩
  · obtain ⟨-, rfl⟩ := Prod.mk.inj (Option.some.inj h)
    exact ⟨'~', rfl, Or.inr rfl⟩
  · simp at h

/-- A message is an arrow between two names. -/
theorem exists_of_statement? {s : Statement} (h : statement? text = some s) :
    ∃ front a behind, text = front ++ a :: '>' :: behind ∧ (a = '-' ∨ a = '~') ∧
      (∃ c ∈ front, isBlank c = false) ∧ ∃ c ∈ behind, isBlank c = false := by
  simp only [statement?, Option.bind_eq_bind, Option.bind_eq_some_iff] at h
  obtain ⟨⟨sender, behind⟩, hsender, ⟨isAsync, rest⟩, harrow, ⟨receiver, label⟩, hreceiver, -⟩ := h
  obtain ⟨front, rfl, hfront⟩ := exists_of_paddedName? hsender
  obtain ⟨a, rfl, ha⟩ := exists_of_arrow? harrow
  obtain ⟨name, rfl, c, hc, hblank⟩ := exists_of_paddedName? hreceiver
  exact ⟨front, a, _, rfl, ha, hfront, c, List.mem_append_left _ hc, hblank⟩

theorem hasArrowLike_of_mem_lines {raw : List Char} (hraw : raw ∈ Text.lines text) {s : Statement}
    (h : statement? (Text.trim raw) = some s) : hasArrowLike text = true := by
  obtain ⟨front, a, behind, hline, ha, ⟨c, hc, hblank⟩, ⟨d, hd, hblank'⟩⟩ := exists_of_statement? h
  obtain ⟨before, after, htext⟩ := Text.eq_append_trim raw
  have harrow : raw = (before ++ front) ++ a :: '>' :: (behind ++ after) := by
    rw [htext, hline]
    simp
  refine List.any_eq_true.mpr ⟨raw, hraw, ?_⟩
  rw [harrow]
  exact arrowBehind_append ha (.inr ⟨c, List.mem_append_right _ hc, hblank⟩)
    ⟨d, List.mem_append_left _ hd, hblank'⟩

end

end Lifeline.Detection
