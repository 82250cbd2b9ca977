import Lifeline.Proofs.Syntax.Names

/-! # The wording of a message

A message is worded as a name, an arrow, another name and perhaps a label, with spaces and tabs
around the names (`Wording`). A minus may stand in a name and begins an arrow as well, so a reader
has to know where a name ends; it does, because no name holds the tip of an arrow
(`paddedName?_append`). What is read off a line are the parts of its wording, and no line can be
worded in two ways (`statement?_worded`). -/

namespace Lifeline.Syntax

open Lifeline.Unicode (isSpaceOrTab)

/-- A name with the spaces and tabs around it. -/
structure Padded where
  front : List Char
  letters : List Char
  gap : List Char
  spaces : ∀ c ∈ front ++ gap, isSpaceOrTab c = true
  nonempty : letters ≠ []
  isName : ∀ c ∈ letters, isNameChar c = true

namespace Padded

/-- The name and its surroundings, as they are written. -/
def text (p : Padded) : List Char := p.front ++ p.letters ++ p.gap

end Padded

/-- An arrow as it is written. -/
def arrow (isAsync : Bool) : List Char := if isAsync then ['~', '>'] else ['-', '>']

/-- A label as it is written behind the receiver. -/
def labelText : Option (List Char) → List Char
  | none => []
  | some text => ':' :: text

/-- The parts of a message: two names, an arrow between them, and perhaps a label on one line. -/
structure Wording where
  sender : Padded
  isAsync : Bool
  receiver : Padded
  label : Option (List Char)
  oneLine : ∀ text ∈ label, '\n' ∉ text ∧ '\r' ∉ text

namespace Wording

/-- The message as it is written. -/
def line (w : Wording) : List Char :=
  w.sender.text ++ (arrow w.isAsync ++ (w.receiver.text ++ labelText w.label))

/-- The message that is stated: without a label, its text is empty. -/
def statement (w : Wording) : Statement :=
  ⟨w.sender.letters, w.receiver.letters, Text.trim (w.label.getD []), w.isAsync⟩

end Wording

/-! ### Names with spaces around them -/

/-- A name, with the spaces behind it, ends in front of the text. -/
structure EndsName (rest : List Char) : Prop where
  stops : name rest = ([], rest)
  unspaced : ∀ c ∈ rest.head?, isSpaceOrTab c = false
  untipped : rest.head? ≠ some '>'

section
variable {p q : Padded} {front text rest letters : List Char}

theorem endsName_arrow (isAsync : Bool) (rest : List Char) : EndsName (arrow isAsync ++ rest) := by
  cases isAsync with
  | true => exact ⟨rfl, by rintro _ ⟨rfl⟩; rfl, by simp [arrow]⟩
  | false => exact ⟨rfl, by rintro _ ⟨rfl⟩; rfl, by simp [arrow]⟩

theorem endsName_labelText (label : Option (List Char)) : EndsName (labelText label) := by
  cases label with
  | none => exact ⟨rfl, by simp [labelText], by simp [labelText]⟩
  | some text => exact ⟨name_of_head rfl, by rintro _ ⟨rfl⟩; rfl, by simp [labelText]⟩

theorem dropWhile_spaces (hfront : ∀ c ∈ front, isSpaceOrTab c = true)
    (hrest : ∀ c ∈ rest.head?, isSpaceOrTab c = false) :
    (front ++ rest).dropWhile isSpaceOrTab = rest := by
  rw [List.dropWhile_append_of_pos hfront]
  cases rest with
  | nil => rfl
  | cons c rest => exact List.dropWhile_cons_of_neg (by simp [hrest c rfl])

theorem isSpaceOrTab_of_isNameChar {c : Char} (h : isNameChar c = true) :
    isSpaceOrTab c = false := by
  by_contra hspace
  have hblank := Unicode.isBlank_of_isSpaceOrTab (by simpa using hspace)
  rw [isBlank_of_isNameChar h] at hblank
  cases hblank

theorem Padded.unspaced_letters (p : Padded) (rest : List Char) :
    ∀ c ∈ (p.letters ++ rest).head?, isSpaceOrTab c = false := by
  obtain ⟨c, more, hletters⟩ := List.exists_cons_of_ne_nil p.nonempty
  rw [hletters]
  rintro _ ⟨rfl⟩
  exact isSpaceOrTab_of_isNameChar (p.isName c (by simp [hletters]))

theorem EndsName.name_gap (h : EndsName rest) (p : Padded) :
    name (p.gap ++ rest) = ([], p.gap ++ rest) ∧ (p.gap ++ rest).head? ≠ some '>' := by
  cases hgap : p.gap with
  | nil => exact ⟨h.stops, h.untipped⟩
  | cons c gap =>
      have hc : isSpaceOrTab c = true := p.spaces c (by simp [hgap])
      constructor
      · apply name_of_head
        exact isNameChar_of_isBlank (Unicode.isBlank_of_isSpaceOrTab hc)
      · rintro ⟨rfl⟩
        exact absurd hc (by decide)

theorem paddedName?_append (p : Padded) (h : EndsName rest) :
    paddedName? (p.text ++ rest) = some (p.letters, rest) := by
  have htext : p.text ++ rest = p.front ++ (p.letters ++ (p.gap ++ rest)) := by simp [Padded.text]
  have hfront : (p.text ++ rest).dropWhile isSpaceOrTab = p.letters ++ (p.gap ++ rest) := by
    rw [htext]
    exact dropWhile_spaces (fun c hc => p.spaces c (List.mem_append_left _ hc))
      (p.unspaced_letters _)
  have hgap : (p.gap ++ rest).dropWhile isSpaceOrTab = rest :=
    dropWhile_spaces (fun c hc => p.spaces c (List.mem_append_right _ hc)) h.unspaced
  obtain ⟨hstop, htip⟩ := h.name_gap p
  rw [paddedName?, hfront, name_append_of_stop p.isName hstop htip]
  split
  · next heq => exact absurd (congrArg Prod.fst heq) p.nonempty
  · next heq =>
      obtain ⟨rfl, rfl⟩ := Prod.mk.inj heq
      rw [hgap]

theorem exists_padded (h : paddedName? text = some (letters, rest)) :
    ∃ p : Padded, p.letters = letters ∧ p.text ++ rest = text := by
  obtain ⟨hne, hname⟩ := name_of_paddedName? h
  unfold paddedName? at h
  split at h
  · cases h
  · next letters' behind _ heq =>
      obtain ⟨rfl, rfl⟩ := Prod.mk.inj (Option.some.inj h)
      refine ⟨⟨text.takeWhile isSpaceOrTab, letters', behind.takeWhile isSpaceOrTab, ?_, hne,
        hname⟩, rfl, ?_⟩
      · intro c hc
        exact (List.mem_append.mp hc).elim List.mem_takeWhile_imp List.mem_takeWhile_imp
      · have happend := name_append (text.dropWhile isSpaceOrTab)
        rw [heq] at happend
        simp only [Padded.text, List.append_assoc, List.takeWhile_append_dropWhile, happend]

/-- The spaces around a name are known from the text. -/
theorem Padded.eq_of_text (hletters : p.letters = q.letters)
    (htext : p.text ++ rest = q.text ++ rest) : p = q := by
  have htext : p.text = q.text := List.append_cancel_right htext
  have hbehind : ∀ r : Padded, r.text.dropWhile isSpaceOrTab = r.letters ++ r.gap := by
    intro r
    rw [Padded.text, List.append_assoc]
    exact dropWhile_spaces (fun c hc => r.spaces c (List.mem_append_left _ hc))
      (r.unspaced_letters _)
  have hgap : p.gap = q.gap := by
    have hdrop := hbehind p
    rw [htext, hbehind q, hletters] at hdrop
    exact (List.append_cancel_left hdrop).symm
  have hfront : p.front = q.front := by
    simp only [Padded.text, hletters, hgap] at htext
    exact List.append_cancel_right (List.append_cancel_right htext)
  cases p
  cases q
  simp_all

end

/-! ### Arrows and labels -/

section
variable {text behind label : List Char} {isAsync : Bool}

theorem arrow?_append (isAsync : Bool) (behind : List Char) :
    arrow? (arrow isAsync ++ behind) = some (isAsync, behind) := by
  cases isAsync <;> rfl

theorem eq_append_of_arrow? (h : arrow? text = some (isAsync, behind)) :
    text = arrow isAsync ++ behind := by
  unfold arrow? at h
  split at h
  · cases h
    rfl
  · cases h
    rfl
  · cases h

/-- What is behind the receiver is a label on one line, or nothing. -/
theorem statementLabel?_eq_some_iff : statementLabel? text = some label ↔
    ∃ written, (∀ t ∈ written, '\n' ∉ t ∧ '\r' ∉ t) ∧ labelText written = text ∧
      Text.trim (written.getD []) = label := by
  have hline : ∀ t : List Char, (t.all fun c => c ≠ '\n' ∧ c ≠ '\r') = true ↔
      '\n' ∉ t ∧ '\r' ∉ t := by
    intro t
    simp only [List.all_eq_true, decide_eq_true_eq]
    constructor
    · exact fun h => ⟨fun hc => (h _ hc).1 rfl, fun hc => (h _ hc).2 rfl⟩
    · rintro ⟨hn, hr⟩ c hc
      exact ⟨fun heq => hn (heq ▸ hc), fun heq => hr (heq ▸ hc)⟩
  constructor
  · intro h
    unfold statementLabel? at h
    split at h
    · obtain rfl := Option.some.inj h
      exact ⟨none, by simp, rfl, rfl⟩
    · next rest =>
        split at h
        · next hall =>
            obtain rfl := Option.some.inj h
            refine ⟨some rest, ?_, rfl, rfl⟩
            rintro _ ⟨rfl⟩
            exact (hline rest).mp hall
        · cases h
    · cases h
  · rintro ⟨written, hwritten, rfl, rfl⟩
    cases written with
    | none => rfl
    | some t =>
        rw [labelText, statementLabel?, if_pos ((hline t).mpr (hwritten t rfl))]
        rfl

end

/-! ### Messages -/

theorem Wording.statement?_line (w : Wording) : statement? w.line = some w.statement := by
  have hlabel : statementLabel? (labelText w.label) = some (Text.trim (w.label.getD [])) :=
    statementLabel?_eq_some_iff.mpr ⟨w.label, w.oneLine, rfl, rfl⟩
  rw [statement?, line, paddedName?_append w.sender (endsName_arrow _ _)]
  simp only [Option.bind_eq_bind, Option.bind_some, arrow?_append,
    paddedName?_append w.receiver (endsName_labelText _), hlabel]
  rfl

theorem exists_wording {line : List Char} {s : Statement} (h : statement? line = some s) :
    ∃ w : Wording, w.line = line ∧ w.statement = s := by
  simp only [statement?, Option.bind_eq_bind, Option.bind_eq_some_iff] at h
  obtain ⟨⟨_, rest⟩, hsender, ⟨isAsync, behind⟩, harrow, ⟨_, text⟩, hreceiver, label, hlabel,
    heq⟩ := h
  obtain ⟨sender, rfl, rfl⟩ := exists_padded hsender
  obtain rfl := eq_append_of_arrow? harrow
  obtain ⟨receiver, rfl, rfl⟩ := exists_padded hreceiver
  obtain ⟨written, hwritten, rfl, rfl⟩ := statementLabel?_eq_some_iff.mp hlabel
  exact ⟨⟨sender, isAsync, receiver, written, hwritten⟩, rfl, Option.some.inj heq⟩

theorem labelText_injective : Function.Injective labelText := by
  intro a b h
  cases a <;> cases b <;> simp_all [labelText]

/-- A line has one wording at most: each part is what the reader finds there. -/
theorem Wording.line_injective : Function.Injective Wording.line := by
  rintro ⟨sender, isAsync, receiver, label, hlabel⟩
    ⟨sender', isAsync', receiver', label', hlabel'⟩ h
  simp only [line] at h
  have hsender := paddedName?_append sender (endsName_arrow isAsync
    (receiver.text ++ labelText label))
  rw [h, paddedName?_append sender' (endsName_arrow _ _)] at hsender
  obtain ⟨hletters, hbehind⟩ := Prod.mk.inj (Option.some.inj hsender)
  have harrow := arrow?_append isAsync (receiver.text ++ labelText label)
  rw [← hbehind, arrow?_append] at harrow
  obtain ⟨rfl, htext⟩ := Prod.mk.inj (Option.some.inj harrow)
  have hreceiver := paddedName?_append receiver (endsName_labelText label)
  rw [← htext, paddedName?_append receiver' (endsName_labelText _)] at hreceiver
  obtain ⟨hletters', hrest⟩ := Prod.mk.inj (Option.some.inj hreceiver)
  obtain rfl := labelText_injective hrest
  obtain rfl := Padded.eq_of_text hletters' htext
  obtain rfl := Padded.eq_of_text hletters h.symm
  rfl

/-- **A line states a message exactly if it is worded as one.** What is stated are the two names,
the trimmed label and the arrow of its wording, of which there is only one; a line that cannot be
worded as a message states none. -/
theorem statement?_worded : Function.Injective Wording.line ∧
    (∀ line s, statement? line = some s ↔ ∃ w : Wording, w.line = line ∧ w.statement = s) ∧
    ∀ line, statement? line = none ↔ ¬∃ w : Wording, w.line = line := by
  refine ⟨Wording.line_injective, fun line s => ⟨exists_wording, ?_⟩, fun line => ?_⟩
  · rintro ⟨w, rfl, rfl⟩
    exact w.statement?_line
  · rw [Option.eq_none_iff_forall_ne_some]
    constructor
    · rintro hnone ⟨w, rfl⟩
      exact hnone _ w.statement?_line
    · intro hno s hs
      obtain ⟨w, hw, -⟩ := exists_wording hs
      exact hno ⟨w, hw⟩

/-- A minus in front of an arrow belongs to the name. -/
example : statement? "\tA-->B- : x -> y\u00a0".toList =
    some ⟨['A', '-'], ['B', '-'], "x -> y".toList, false⟩ := by decide +kernel

end Lifeline.Syntax
