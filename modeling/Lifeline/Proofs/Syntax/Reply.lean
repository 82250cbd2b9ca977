import Mathlib.Data.List.DropRight
import Lifeline.Proofs.Text.Line
import Lifeline.Syntax.Reply

/-! # Where a label is divided from its reply

A label is divided at an arrow `<-`, at the colon of a signature, or at any other colon with text on
both sides. An arrow counts before a signature, and a signature before other colons; of several
arrows the first one counts, and of several colons the last one (`Divides`). A label is split where
it is divided, and nothing but blanks around the separator is lost (`splitReply_splits`). -/

namespace Lifeline.Syntax

open Lifeline.Text (Trimmed trim trimStart)
open Lifeline.Unicode (isBlank isWordChar)

/-- The text in front of an arrow, and the text behind it. -/
def AtArrow (text before behind : List Char) : Prop := text = before ++ '<' :: '-' :: behind

/-- A name with its arguments. -/
structure Signature where
  letter : Char
  letters : List Char
  args : List Char
  begins : letter.isAlpha = true ∨ letter = '_'
  continues : ∀ c ∈ letters, isWordChar c = true ∨ c = '.'
  closes : ')' ∉ args

/-- The signature as it is written. -/
def Signature.text (s : Signature) : List Char :=
  s.letter :: s.letters ++ '(' :: s.args ++ [')']

/-- The text in front of the colon behind a signature, and the text behind this colon, which must
go on to the end of the line. -/
def AtSignature (text before behind : List Char) : Prop :=
  text = before ++ ':' :: behind ∧
    (∃ (s : Signature) (gap : List Char), (∀ c ∈ gap, isBlank c = true) ∧ before = s.text ++ gap) ∧
    ∃ gap reply, (∀ c ∈ gap, isBlank c = true) ∧ behind = gap ++ reply ∧ reply ≠ [] ∧ '\n' ∉ reply

/-- The text in front of a colon that is not that of an address, and the text behind this colon;
neither is blank. -/
def AtColon (text before behind : List Char) : Prop :=
  text = before ++ ':' :: behind ∧ ¬['/', '/'] <+: behind ∧
    (∃ c ∈ before, isBlank c = false) ∧ ∃ c ∈ behind, isBlank c = false

/-- Where a text is divided: the text in front of the separator, the separator, and the text behind
it. -/
inductive Divides (text : List Char) : List Char → List Char → List Char → Prop
  /-- At the first arrow. -/
  | arrow {before behind : List Char} (h : AtArrow text before behind)
      (first : ∀ b r, AtArrow text b r → before.length ≤ b.length) :
      Divides text before ['<', '-'] behind
  /-- Without an arrow, behind a signature. -/
  | signature {before behind : List Char} (noArrow : ∀ b r, ¬AtArrow text b r)
      (h : AtSignature text before behind) : Divides text before [':'] behind
  /-- Without an arrow and a signature, at the last colon. -/
  | colon {before behind : List Char} (noArrow : ∀ b r, ¬AtArrow text b r)
      (noSignature : ∀ b r, ¬AtSignature text b r) (h : AtColon text before behind)
      (last : ∀ b r, AtColon text b r → b.length ≤ before.length) : Divides text before [':'] behind

/-- A label and its reply, if there is one, are what stands around the separator, and only blanks
stand between. -/
structure SplitAt (text before separator behind : List Char)
    (parts : List Char × Option (List Char)) : Prop where
  label : parts.1 = trim before
  reply : ∀ reply ∈ parts.2, reply = trim behind
  silent : parts.2 = none ↔ ∀ c ∈ behind, isBlank c = true
  answered : separator = [':'] → parts.2 ≠ none
  tiles : ∃ gap gap', (∀ c ∈ gap ++ gap', isBlank c = true) ∧
    text = parts.1 ++ gap ++ separator ++ gap' ++ parts.2.getD []

section
variable {text before behind : List Char}

/-! ### Arrows -/

/-- The first arrow is found, if there is one. -/
theorem splitReplyArrow?_spec (text : List Char) :
    (∀ a b, splitReplyArrow? text = some (a, b) →
      AtArrow text a b ∧ ∀ a' b', AtArrow text a' b' → a.length ≤ a'.length) ∧
    (splitReplyArrow? text = none → ∀ a b, ¬AtArrow text a b) := by
  fun_induction splitReplyArrow? text with
  | case1 =>
      refine ⟨by simp, fun _ a b h => ?_⟩
      simp [AtArrow] at h
  | case2 rest =>
      refine ⟨?_, by simp⟩
      rintro a b ⟨⟩
      exact ⟨rfl, fun _ _ _ => Nat.zero_le _⟩
  | case3 c rest hc ih =>
      have hrest : ∀ a b, AtArrow (c :: rest) a b → ∃ a', a = c :: a' ∧ AtArrow rest a' b := by
        intro a b h
        cases a with
        | nil =>
            obtain ⟨rfl, htail⟩ := List.cons.inj h
            exact absurd htail (hc b rfl)
        | cons d a =>
            obtain ⟨rfl, htail⟩ := List.cons.inj h
            exact ⟨a, rfl, htail⟩
      constructor
      · intro a b h
        obtain ⟨⟨a', b'⟩, hfound, heq⟩ := Option.map_eq_some_iff.mp h
        obtain ⟨rfl, rfl⟩ := Prod.mk.inj heq
        obtain ⟨hat, hfirst⟩ := ih.1 a' b' hfound
        refine ⟨congrArg (c :: ·) hat, fun e r he => ?_⟩
        obtain ⟨e', rfl, he'⟩ := hrest e r he
        exact Nat.succ_le_succ (hfirst e' r he')
      · intro hnone a b h
        obtain ⟨a', rfl, h'⟩ := hrest a b h
        exact ih.2 (Option.map_eq_none_iff.mp hnone) a' b h'

theorem AtArrow.eq_of_length {a b a' b' : List Char} (h : AtArrow text a b)
    (h' : AtArrow text a' b') (hlength : a.length = a'.length) : a = a' ∧ b = b' := by
  obtain ⟨ha, hb⟩ := List.append_inj (h.symm.trans h') hlength
  exact ⟨ha, (List.cons.inj (List.cons.inj hb).2).2⟩

theorem splitReplyArrow?_of_first (h : AtArrow text before behind)
    (hfirst : ∀ b r, AtArrow text b r → before.length ≤ b.length) :
    splitReplyArrow? text = some (before, behind) := by
  obtain ⟨hsome, hnone⟩ := splitReplyArrow?_spec text
  cases hfound : splitReplyArrow? text with
  | none => exact absurd h (hnone hfound before behind)
  | some p =>
      obtain ⟨hat, hle⟩ := hsome p.1 p.2 hfound
      obtain ⟨hbefore, hbehind⟩ := hat.eq_of_length h
        (Nat.le_antisymm (hle _ _ h) (hfirst _ _ hat))
      rw [← hbefore, ← hbehind]

theorem splitReplyArrow?_eq_none (h : ∀ b r, ¬AtArrow text b r) : splitReplyArrow? text = none := by
  cases hfound : splitReplyArrow? text with
  | none => rfl
  | some p => exact absurd ((splitReplyArrow?_spec text).1 p.1 p.2 hfound).1 (h p.1 p.2)

/-! ### Signatures -/

theorem takeWhile_append_cons {p : Char → Bool} {run : List Char} (hrun : ∀ c ∈ run, p c = true)
    {c : Char} (hc : p c = false) (rest : List Char) :
    (run ++ c :: rest).takeWhile p = run := by
  rw [List.takeWhile_append_of_pos hrun, List.takeWhile_cons_of_neg (by simp [hc]), List.append_nil]

/-- A signature is read up to the colon behind it. -/
theorem splitSignature?_append (s : Signature) {gap reply : List Char}
    (hgap : ∀ c ∈ gap, isBlank c = true) (hreply : trimStart reply ≠ [])
    (hline : '\n' ∉ trimStart reply) :
    splitSignature? (s.text ++ gap ++ ':' :: reply) = some (s.text, trimStart reply) := by
  have hletters : ∀ c ∈ s.letters, (isWordChar c || c == '.') = true := fun c hc => by
    simpa using s.continues c hc
  have hargs : ∀ c ∈ s.args, (decide (c ≠ ')')) = true := fun c hc => by
    simpa using ne_of_mem_of_not_mem hc s.closes
  have hletter : (s.letter.isAlpha || s.letter == '_') = true := by simpa using s.begins
  have htext : s.text ++ gap ++ ':' :: reply =
      s.letter :: (s.letters ++ '(' :: (s.args ++ ')' :: (gap ++ ':' :: reply))) := by
    simp [Signature.text]
  have hcolon : trimStart (gap ++ ':' :: reply) = ':' :: reply := by
    rw [Text.trimStart_append_of_blank hgap]
    exact Text.trimStart_cons_of_not (by decide)
  rw [htext, splitSignature?, if_pos hletter]
  simp only [takeWhile_append_cons hletters (rfl : (isWordChar '(' || '(' == '.') = false),
    takeWhile_append_cons hargs (rfl : decide (')' ≠ ')') = false), List.drop_left, hcolon]
  rw [if_neg (by simp [hreply, hline])]
  simp [Signature.text]

theorem splitSignature?_eq_none (h : ∀ b r, ¬AtSignature text b r) :
    splitSignature? text = none := by
  fun_cases splitSignature? text with
  | case3 letter rest hletter letters inner hinner args tail htail behind hbehind reply hreply =>
      have hdrop : ∀ (p : Char → Bool) (l : List Char),
          l.takeWhile p ++ l.drop (l.takeWhile p).length = l := fun p l =>
        List.prefix_iff_eq_append.mp (List.takeWhile_prefix p)
      have hletters : letters ++ '(' :: inner = rest := by rw [← hinner]; exact hdrop _ rest
      have hargs : args ++ ')' :: tail = inner := by rw [← htail]; exact hdrop _ inner
      have hgap : tail.takeWhile isBlank ++ ':' :: behind = tail := by
        rw [← hbehind]
        exact List.takeWhile_append_dropWhile
      let s : Signature := {
        letter, letters, args
        begins := by simpa using hletter
        continues := fun c hc => by simpa using List.mem_takeWhile_imp hc
        closes := fun hc => by simpa using List.mem_takeWhile_imp hc }
      refine absurd ⟨?_, ⟨s, tail.takeWhile isBlank, ?_, rfl⟩, behind.takeWhile isBlank, reply, ?_,
        ?_, ?_, ?_⟩ (h (s.text ++ tail.takeWhile isBlank) behind)
      · simp [s, Signature.text, hgap, hargs, hletters]
      · exact fun c hc => List.mem_takeWhile_imp hc
      · exact fun c hc => List.mem_takeWhile_imp hc
      · exact List.takeWhile_append_dropWhile.symm
      · exact fun hnil => hreply (by simp [hnil])
      · exact fun hmem => hreply (by simp [hmem])
  | _ => rfl

/-! ### Other colons -/

theorem trim_ne_nil_iff {side : List Char} : trim side ≠ [] ↔ ∃ c ∈ side, isBlank c = false := by
  rw [Ne, Text.trim_eq_nil_iff]
  simp only [not_forall, Bool.not_eq_true, exists_prop]

theorem atColon_iff {c : Char} : AtColon (before ++ c :: behind) before behind ↔
    c = ':' ∧ ['/', '/'].isPrefixOf behind = false ∧ trim before ≠ [] ∧ trim behind ≠ [] := by
  rw [AtColon, trim_ne_nil_iff, trim_ne_nil_iff, ← Bool.not_eq_true, List.isPrefixOf_iff_prefix]
  simp

theorem AtColon.eq_of_length {a b a' b' : List Char} (h : AtColon text a b)
    (h' : AtColon text a' b') (hlength : a.length = a'.length) : a = a' ∧ b = b' := by
  obtain ⟨ha, hb⟩ := List.append_inj (h.1.symm.trans h'.1) hlength
  exact ⟨ha, (List.cons.inj hb).2⟩

/-- The last colon is found, if there is one behind what has been read already. -/
theorem splitLastColon?_spec (before text : List Char) :
    (∀ label reply, splitLastColon? before text = some (label, reply) → ∃ b r,
      AtColon (before.reverse ++ text) b r ∧ before.length ≤ b.length ∧
      label = trim b ∧ reply = trim r ∧
      ∀ b' r', AtColon (before.reverse ++ text) b' r' → b'.length ≤ b.length) ∧
    (splitLastColon? before text = none →
      ∀ b r, AtColon (before.reverse ++ text) b r → b.length < before.length) := by
  induction text generalizing before with
  | nil =>
      refine ⟨by simp [splitLastColon?], ?_⟩
      rintro - b r ⟨htext, -⟩
      have hlength := congrArg List.length htext
      simp only [List.append_nil, List.length_reverse, List.length_append,
        List.length_cons] at hlength
      omega
  | cons c rest ih =>
      have hmove : before.reverse ++ c :: rest = (c :: before).reverse ++ rest := by simp
      obtain ⟨hsome, hnone⟩ := ih (c :: before)
      rw [← hmove] at hsome hnone
      unfold splitLastColon?
      cases hfound : splitLastColon? (c :: before) rest with
      | some parts =>
          refine ⟨fun label reply heq => ?_, by simp⟩
          obtain ⟨b, r, hat, hle, hparts⟩ := hsome label reply (hfound.trans heq)
          rw [List.length_cons] at hle
          exact ⟨b, r, hat, by omega, hparts⟩
      | none =>
          -- a colon further on is excluded, so one here is the last one
          have hbound : ∀ b r, AtColon (before.reverse ++ c :: rest) b r →
              b.length ≤ before.length := by
            intro b r hat
            have hlt := hnone hfound b r hat
            rw [List.length_cons] at hlt
            omega
          have hhere : AtColon (before.reverse ++ c :: rest) before.reverse rest ↔ _ := atColon_iff
          dsimp only
          split
          · next hcolon =>
              refine ⟨?_, by simp⟩
              rintro _ _ ⟨⟩
              refine ⟨before.reverse, rest, hhere.mpr hcolon, by simp, rfl, rfl, fun b r hat => ?_⟩
              rw [List.length_reverse]
              exact hbound b r hat
          · next hno =>
              refine ⟨by simp, fun _ b r hat => ?_⟩
              refine lt_of_le_of_ne (hbound b r hat) fun hlength => hno (hhere.mp ?_)
              obtain ⟨rfl, hr⟩ := List.append_inj hat.1 (by simp [hlength])
              obtain ⟨-, rfl⟩ := List.cons.inj hr
              exact hat

theorem splitLastColon?_of_last (h : AtColon text before behind)
    (hlast : ∀ b r, AtColon text b r → b.length ≤ before.length) :
    splitLastColon? [] text = some (trim before, trim behind) := by
  obtain ⟨hsome, hnone⟩ := splitLastColon?_spec [] text
  cases hfound : splitLastColon? [] text with
  | none => exact absurd (hnone hfound before behind h) (Nat.not_lt_zero _)
  | some p =>
      obtain ⟨b, r, hat, -, hlabel, hreply, hle⟩ := hsome p.1 p.2 hfound
      obtain ⟨rfl, rfl⟩ := hat.eq_of_length h (Nat.le_antisymm (hlast _ _ hat) (hle _ _ h))
      rw [← hlabel, ← hreply]

/-! ### Labels -/

theorem nonempty?_eq_none_iff : nonempty? text = none ↔ text = [] := by
  cases text <;> simp [nonempty?]

theorem eq_of_mem_nonempty? {reply : List Char} (h : reply ∈ nonempty? text) : reply = text := by
  unfold nonempty? at h
  split at h
  · cases h
  · exact (Option.some.inj h).symm

theorem getD_nonempty? (text : List Char) : (nonempty? text).getD [] = text := by
  cases text <;> rfl

/-- A text around a separator that has been trimmed is split into what trimming leaves of its
sides. -/
theorem splitAt_trim {separator : List Char} (h : Trimmed (before ++ separator ++ behind))
    (hanswer : separator = [':'] → ∃ c ∈ behind, isBlank c = false) :
    SplitAt (before ++ separator ++ behind) before separator behind
      (trim before, nonempty? (trim behind)) := by
  have hsilent : nonempty? (trim behind) = none ↔ ∀ c ∈ behind, isBlank c = true :=
    nonempty?_eq_none_iff.trans (Text.trim_eq_nil_iff behind)
  obtain ⟨gap', hgap', hbehind⟩ := h.eq_append_trim
  rw [List.append_assoc] at h
  obtain ⟨gap, hgap, hbefore⟩ := h.eq_trim_append
  refine ⟨rfl, fun _ => eq_of_mem_nonempty?, hsilent, ?_, gap, gap', ?_, ?_⟩
  · intro hseparator hnone
    obtain ⟨c, hc, hvisible⟩ := hanswer hseparator
    have hblank := hsilent.mp hnone c hc
    simp [hvisible] at hblank
  · exact fun c hc => (List.mem_append.mp hc).elim (hgap c) (hgap' c)
  · rw [getD_nonempty?]
    calc before ++ separator ++ behind
      _ = trim before ++ gap ++ separator ++ (gap' ++ trim behind) := by
          rw [← hbefore, ← hbehind]
      _ = trim before ++ gap ++ separator ++ gap' ++ trim behind := by
          rw [List.append_assoc _ gap']

theorem Signature.trim_text {s : Signature} (hletter : isBlank s.letter = false) {gap : List Char}
    (hgap : ∀ c ∈ gap, isBlank c = true) : trim (s.text ++ gap) = s.text := by
  have htext : s.text ++ gap = (s.letter :: s.letters ++ '(' :: s.args) ++ ')' :: gap := by
    simp [Signature.text]
  have hgap : Text.trimEnd gap = [] := by
    rw [← List.nil_append gap, Text.trimEnd_append_of_blank hgap, Text.trimEnd_nil]
  have hstart : trimStart (s.text ++ gap) = s.text ++ gap := Text.trimStart_cons_of_not hletter
  rw [trim, hstart, htext, Text.trimEnd_append_cons (by decide), hgap, Signature.text]

theorem exists_visible_of_trimmed (h : Trimmed (before ++ behind)) (hne : behind ≠ []) :
    ∃ c ∈ behind, isBlank c = false := by
  obtain ⟨init, c, rfl⟩ := (List.eq_nil_or_concat behind).resolve_left hne
  exact ⟨c, by simp, h.last c (by simp)⟩

theorem Divides.tiles {separator : List Char} (h : Divides text before separator behind)
    (htext : Trimmed text) : text = before ++ separator ++ behind ∧
      (separator = [':'] → ∃ c ∈ behind, isBlank c = false) := by
  cases h with
  | arrow hat _ => exact ⟨by rw [hat]; simp, by simp⟩
  | signature _ hat =>
      obtain ⟨rfl, -, gap, reply, -, rfl, hne, -⟩ := hat
      rw [List.append_cons] at htext ⊢
      exact ⟨rfl, fun _ => exists_visible_of_trimmed htext (by simp [hne])⟩
  | colon _ _ hat _ => exact ⟨by rw [hat.1]; simp, fun _ => hat.2.2.2⟩

theorem splitReply_of_divides {raw separator : List Char}
    (h : Divides (trim raw) before separator behind) :
    splitReply raw = (trim before, nonempty? (trim behind)) := by
  have htrimmed := Text.trimmed_trim raw
  obtain ⟨-, hanswer⟩ := h.tiles htrimmed
  rw [splitReply]
  cases h with
  | arrow hat hfirst => simp only [splitReplyArrow?_of_first hat hfirst]
  | signature hno hat =>
      obtain ⟨htext, ⟨s, gap, hgap, rfl⟩, gap', reply, hgap', rfl, -, hline⟩ := hat
      rw [htext] at htrimmed
      have hletter : isBlank s.letter = false := htrimmed.head s.letter rfl
      have hstart : trimStart (gap' ++ reply) = trimStart reply :=
        Text.trimStart_append_of_blank hgap'
      have hsignature := splitSignature?_append s hgap
        (Text.trimStart_ne_nil (trim_ne_nil_iff.mpr (hanswer rfl)))
        (by
          rw [hstart]
          exact fun hmem => hline ((List.dropWhile_sublist _).mem hmem))
      have hagain : trim (trimStart (gap' ++ reply)) = trim (gap' ++ reply) := by
        rw [trim, trim, trimStart, trimStart, List.dropWhile_idempotent]
      simp only [htext, splitReplyArrow?_eq_none (htext ▸ hno), hsignature, hagain,
        Signature.trim_text hletter hgap]
  | colon hno hnoSignature hat hlast =>
      have hreply : trim behind ≠ [] := trim_ne_nil_iff.mpr hat.2.2.2
      simp only [splitReplyArrow?_eq_none hno, splitSignature?_eq_none hnoSignature,
        splitLastColon?_of_last hat hlast, nonempty?, List.isEmpty_iff, hreply, if_false]

theorem splitReply_of_not_divides {raw : List Char} (h : ∀ b s r, ¬Divides (trim raw) b s r) :
    splitReply raw = (trim raw, none) := by
  have hnoArrow : splitReplyArrow? (trim raw) = none := by
    cases hfound : splitReplyArrow? (trim raw) with
    | none => rfl
    | some p =>
        obtain ⟨hat, hfirst⟩ := (splitReplyArrow?_spec _).1 p.1 p.2 hfound
        exact absurd (.arrow hat hfirst) (h _ _ _)
  have hno := (splitReplyArrow?_spec _).2 hnoArrow
  have hnoSignature : ∀ b r, ¬AtSignature (trim raw) b r := fun _ _ hat =>
    h _ _ _ (.signature hno hat)
  have hnoColon : splitLastColon? [] (trim raw) = none := by
    cases hfound : splitLastColon? [] (trim raw) with
    | none => rfl
    | some p =>
        obtain ⟨b, r, hat, -, -, -, hlast⟩ := (splitLastColon?_spec [] _).1 p.1 p.2 hfound
        exact absurd (.colon hno hnoSignature hat hlast) (h _ _ _)
  rw [splitReply]
  simp only [hnoArrow, splitSignature?_eq_none hnoSignature, hnoColon]

/-- **A label is split where it is divided**: its label and its reply are the two sides without the
blanks around them, and a text that is not divided is a label without a reply. -/
theorem splitReply_splits (raw : List Char) :
    (∀ before separator behind, Divides (trim raw) before separator behind →
      SplitAt (trim raw) before separator behind (splitReply raw)) ∧
    ((∀ before separator behind, ¬Divides (trim raw) before separator behind) →
      splitReply raw = (trim raw, none)) ∧
    Trimmed (splitReply raw).1 ∧ ∀ reply ∈ (splitReply raw).2, Trimmed reply := by
  refine ⟨fun before separator behind h => ?_, splitReply_of_not_divides, ?_⟩
  · obtain ⟨htext, hanswer⟩ := h.tiles (Text.trimmed_trim raw)
    have hsplit := splitAt_trim (htext ▸ Text.trimmed_trim raw) hanswer
    rwa [← htext, ← splitReply_of_divides h] at hsplit
  · by_cases h : ∃ before separator behind, Divides (trim raw) before separator behind
    · obtain ⟨before, separator, behind, hdivides⟩ := h
      rw [splitReply_of_divides hdivides]
      refine ⟨Text.trimmed_trim before, fun reply hreply => ?_⟩
      rw [eq_of_mem_nonempty? hreply]
      exact Text.trimmed_trim behind
    · rw [splitReply_of_not_divides fun b s r hdivides => h ⟨b, s, r, hdivides⟩]
      exact ⟨Text.trimmed_trim raw, by simp⟩

/-- The colon behind a signature counts, although it is not the last one. -/
theorem splitReply_splits_signature :
    Divides (trim " f(id) : User: x ".toList) "f(id) ".toList [':'] " User: x".toList ∧
    SplitAt (trim " f(id) : User: x ".toList) "f(id) ".toList [':'] " User: x".toList
      (splitReply " f(id) : User: x ".toList) := by
  have htext : trim " f(id) : User: x ".toList = "f(id) : User: x".toList := by decide +kernel
  have hnoArrow : ∀ b r, ¬AtArrow (trim " f(id) : User: x ".toList) b r := by
    intro b r hat
    have hmem : '<' ∈ "f(id) : User: x".toList := by
      rw [← htext, hat]
      simp
    exact absurd hmem (by decide +kernel)
  let s : Signature := {
    letter := 'f', letters := [], args := ['i', 'd']
    begins := .inl rfl
    continues := by simp
    closes := by simp }
  have hat : AtSignature (trim " f(id) : User: x ".toList) "f(id) ".toList " User: x".toList := by
    have hspace : ∀ c ∈ [' '], isBlank c = true := List.forall_mem_singleton.mpr (by decide)
    refine ⟨?_, ⟨s, [' '], hspace, ?_⟩, [' '], "User: x".toList, hspace, ?_, ?_, ?_⟩
    all_goals decide +kernel
  exact ⟨.signature hnoArrow hat, (splitReply_splits _).1 _ _ _ (.signature hnoArrow hat)⟩

end

end Lifeline.Syntax
