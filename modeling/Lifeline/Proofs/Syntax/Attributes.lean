import Lifeline.Proofs.Syntax.Position

/-! # Lines written with all their attributes

A declaration may be written with an alias and a position, a heading with a color. The alias and the
label are the shortest texts in front of what may end their line. No shorter one is taken than what
has been written: in front of the ending, no part of the rest is an ending too
(`positionEnding?_append`, `groupEnding?_append`, `sectionEnding?_append`), also where the alias or
the label holds keywords itself. So reading gives back the parts that were written
(`read_declarationLine`, `read_groupLine`, `read_sectionLine`). -/

namespace Lifeline

/-! ### Texts in front of an ending -/

namespace Text

open Lifeline.Unicode (isBlank)

variable {text : List Char}

/-- The text has a last character, which is not blank. -/
def EndsVisibly (text : List Char) : Prop := ∃ c, text.getLast? = some c ∧ isBlank c = false

theorem Trimmed.endsVisibly (h : Trimmed text) (hne : text ≠ []) : EndsVisibly text := by
  obtain ⟨c, hc⟩ := Option.isSome_iff_exists.mp (List.getLast?_isSome.mpr hne)
  exact ⟨c, hc, h.last c hc⟩

theorem EndsVisibly.trimStart_append (h : EndsVisibly text) (tail : List Char) :
    ∃ c rest, c ∈ text ∧ trimStart (text ++ tail) = c :: rest ++ tail := by
  obtain ⟨last, hlast, hvisible⟩ := h
  have hne : trimStart text ≠ [] := by
    intro hnil
    have hblank := List.dropWhile_eq_nil_iff.mp hnil last (List.mem_of_getLast? hlast)
    simp [hvisible] at hblank
  obtain ⟨c, rest, hstart⟩ := List.exists_cons_of_ne_nil hne
  refine ⟨c, rest, ?_, ?_⟩
  · exact (List.dropWhile_sublist isBlank).subset (by rw [← trimStart, hstart]; simp)
  · rw [Text.trimStart_append hne, hstart]

theorem EndsVisibly.of_cons_cons {c d : Char} (h : EndsVisibly (c :: d :: text)) :
    EndsVisibly (d :: text) := by
  rwa [EndsVisibly, List.getLast?_cons_cons] at h

theorem trimStart_append_of_head (hne : text ≠ []) (h : ∀ c ∈ text.head?, isBlank c = false)
    (tail : List Char) : trimStart (text ++ tail) = text ++ tail := by
  obtain ⟨c, rest, rfl⟩ := List.exists_cons_of_ne_nil hne
  exact trimStart_cons_of_not (h c rfl)

end Text

namespace Syntax

open Lifeline.Text (BlankFree EndsVisibly Trimmed)
open Lifeline.Unicode (isBlank isWordChar)

/-! ### Written lines -/

/-- A declaration with an alias and a position. -/
def declarationLine (id : List Char) (kind : ParticipantKind) (aka : List Char) (n : Int) :
    List Char :=
  id ++ " is a ".toList ++ kind.name.toList ++ " aka ".toList ++ aka ++ " position ".toList ++
    (toString n).toList

/-- The color of a heading in parentheses, if it has one. -/
def Heading.suffix (h : Heading) : List Char :=
  h.color.elim [] fun color => " (".toList ++ color ++ [')']

/-- The heading of a group. -/
def groupLine (h : Heading) : List Char := "## ".toList ++ h.label ++ h.suffix

/-- A section divider that is closed. -/
def sectionLine (h : Heading) : List Char := "== ".toList ++ h.label ++ h.suffix ++ " ==".toList

/-- The text has one pair of quotes of the same kind around it. -/
def Quoted (text : List Char) : Prop :=
  2 ≤ text.length ∧ text.head? = text.getLast? ∧
    (text.head? = some '"' ∨ text.head? = some '\'')

instance (text : List Char) : Decidable (Quoted text) :=
  inferInstanceAs (Decidable (_ ∧ _ ∧ (_ ∨ _)))

/-- An alias that is read as it is written. -/
structure PlainAlias (aka : List Char) : Prop where
  ne_nil : aka ≠ []
  trimmed : Trimmed aka
  arrow : hasArrow aka = false
  quoted : ¬Quoted aka

instance (aka : List Char) : Decidable (PlainAlias aka) :=
  decidable_of_iff (aka ≠ [] ∧ Trimmed aka ∧ hasArrow aka = false ∧ ¬Quoted aka)
    ⟨fun ⟨h₁, h₂, h₃, h₄⟩ => ⟨h₁, h₂, h₃, h₄⟩, fun ⟨h₁, h₂, h₃, h₄⟩ => ⟨h₁, h₂, h₃, h₄⟩⟩

/-- A heading that is read as it is written: its color is a name, and no parenthesis stands where
it could end the label or the color. -/
structure Heading.Plain (h : Heading) : Prop where
  ne_nil : h.label ≠ []
  trimmed : Trimmed h.label
  label : '(' ∉ h.label
  color : ∀ color ∈ h.color, color ≠ [] ∧ Trimmed color ∧ ')' ∉ color ∧
    looksLikeHex color = false

instance (h : Heading) : Decidable h.Plain :=
  decidable_of_iff (h.label ≠ [] ∧ Trimmed h.label ∧ '(' ∉ h.label ∧ ∀ color ∈ h.color,
      color ≠ [] ∧ Trimmed color ∧ ')' ∉ color ∧ looksLikeHex color = false)
    ⟨fun ⟨h₁, h₂, h₃, h₄⟩ => ⟨h₁, h₂, h₃, h₄⟩, fun ⟨h₁, h₂, h₃, h₄⟩ => ⟨h₁, h₂, h₃, h₄⟩⟩

/-! ### Declarations -/

section
variable {aka front text behind : List Char} {n : Int}

/-- In front of a text, only a tip at its beginning could make an arrow. -/
theorem hasArrow_append_left (htip : '>' ∉ front) (hlast : ∀ c ∈ front.getLast?, isPlain c = true)
    (text : List Char) : hasArrow (front ++ text) = hasArrow text := by
  have hcontains : ∀ a, (∀ c ∈ front.getLast?, c ≠ a) →
      Text.contains [a, '>'] (front ++ text) = Text.contains [a, '>'] text := by
    intro a ha
    induction front with
    | nil => rfl
    | cons c front ih =>
        rw [List.mem_cons, not_or] at htip
        cases front with
        | nil => simp [Text.contains, List.isPrefixOf, (ha c rfl).symm]
        | cons d front =>
            have hd : '>' ≠ d := fun hd => htip.2 (hd ▸ List.mem_cons_self)
            rw [List.getLast?_cons_cons] at hlast ha
            rw [List.cons_append, Text.contains, ih htip.2 hlast ha]
            simp [List.isPrefixOf, hd]
  rw [hasArrow, hasArrow, hcontains, hcontains]
  · rintro c hc rfl
    exact absurd (hlast _ hc) (by decide)
  · rintro c hc rfl
    exact absurd (hlast _ hc) (by decide)

theorem hasArrow_append_right (htip : '>' ∉ behind) (text : List Char) :
    hasArrow (text ++ behind) = hasArrow text := by
  have hcontains : ∀ a,
      Text.contains [a, '>'] (text ++ behind) = Text.contains [a, '>'] text := by
    intro a
    induction text with
    | nil =>
        have hno : Text.contains [a, '>'] behind ≠ true := fun h =>
          htip ((Text.contains_iff.mp h).subset (by simp))
        rw [List.nil_append, Bool.eq_false_iff.mpr hno]
        rfl
    | cons c text ih =>
        rw [List.cons_append, Text.contains, Text.contains, ih]
        cases text with
        | nil =>
            cases behind with
            | nil => rfl
            | cons d behind =>
                have hd : '>' ≠ d := fun hd => htip (hd ▸ List.mem_cons_self)
                simp [List.isPrefixOf, hd]
        | cons d text => simp [List.isPrefixOf]
  rw [hasArrow, hasArrow, hcontains, hcontains]

/-- Behind its first blank, a text that does not end in one still has a character. -/
theorem exists_of_blanks?_append {tail middle : List Char} (h : EndsVisibly text)
    (hm : blanks? (text ++ tail) = some middle) : ∃ c rest, middle = c :: rest ++ tail := by
  cases text with
  | nil =>
      obtain ⟨c, hlast, -⟩ := h
      cases hlast
  | cons b text =>
      rw [List.cons_append, blanks?] at hm
      split at hm
      · next hb =>
          obtain rfl := Option.some.inj hm
          cases text with
          | nil =>
              obtain ⟨_, ⟨rfl⟩, hvisible⟩ := h
              simp [hb] at hvisible
          | cons d text =>
              obtain ⟨c, rest, -, hstart⟩ := h.of_cons_cons.trimStart_append tail
              exact ⟨c, rest, hstart⟩
      · cases hm

/-- In front of a position stands no text that could belong to it. -/
theorem positionEnding?_append (h : EndsVisibly text) {word : List Char} (hword : BlankFree word) :
    positionEnding? (text ++ (" position ".toList ++ word)) = none := by
  by_contra hsome
  obtain ⟨n, hn⟩ := Option.ne_none_iff_exists'.mp hsome
  obtain ⟨number, hnumber, hread⟩ := Option.bind_eq_some_iff.mp hn
  obtain ⟨rest, hrest, hgap⟩ := Option.bind_eq_some_iff.mp hnumber
  obtain ⟨middle, hmiddle, hkeyword⟩ := Option.bind_eq_some_iff.mp hrest
  obtain ⟨c, behind, hstart⟩ := exists_of_blanks?_append h hmiddle
  obtain ⟨keyword, heq, hfolded⟩ := Text.eq_append_of_dropWord? hkeyword
  obtain ⟨gap, hne, hblank, rfl⟩ := eq_append_of_blanks? hgap
  have hlength : keyword.length = 8 := by
    rw [← List.length_map (f := Text.foldCase), ← Text.folded, hfolded]
    rfl
  have hwhole : (c :: behind ++ " position".toList) ++ [' '] ++ word =
      keyword ++ gap ++ number := by
    rw [List.append_assoc keyword, ← heq, hstart]
    simp
  have hwords : word = number := by
    have hlast := congrArg Text.lastWord hwhole
    rwa [Text.lastWord_append (List.forall_mem_singleton.mpr (by decide)) (by simp) hword,
      Text.lastWord_append hblank hne (blankFree_of_positionNumber? hread)] at hlast
  rw [hwords, List.append_cancel_right_eq] at hwhole
  have hfront : c :: behind ++ " positio".toList ++ ['n', ' '] = keyword ++ gap := by
    rw [← hwhole]
    simp
  obtain ⟨rest, hrest, -⟩ | ⟨rest, -, hgap⟩ := List.append_eq_append_iff.mp hfront
  · have hle := congrArg List.length hrest
    simp [hlength] at hle
    omega
  · have hn := hblank 'n' (by rw [hgap]; simp)
    exact absurd hn (by decide)

theorem positionEnding?_position {word : List Char} (h : Denotes word n) :
    positionEnding? (" position ".toList ++ word) =
      some (max leastPosition (min greatestPosition n)) := by
  have hnumber := positionNumber?_of_denotes h
  have hfree := blankFree_of_positionNumber? hnumber
  have hne : word ≠ [] := by
    rintro rfl
    cases hnumber
  have hgap : blanks? (' ' :: word) = some word := by
    refine congrArg some ?_
    have hkept := Text.trimStart_append_of_head hne
      (fun c hc => hfree c (List.mem_of_head? hc)) []
    rwa [List.append_nil] at hkept
  have hkeyword : gapWord? "position" (" position ".toList ++ word) = some (' ' :: word) := rfl
  rw [positionEnding?, hkeyword, Option.bind_some, hgap, Option.bind_some, hnumber]

/-- No shorter alias is split off than the one in front of the position. -/
theorem splitAlias_append (h : EndsVisibly aka) {word : List Char} (hword : Denotes word n) :
    splitAlias (aka ++ (" position ".toList ++ word)) =
      (aka, some (max leastPosition (min greatestPosition n))) := by
  induction aka with
  | nil =>
      obtain ⟨c, hlast, -⟩ := h
      cases hlast
  | cons c aka ih =>
      rw [List.cons_append, splitAlias]
      cases aka with
      | nil => rw [List.nil_append, positionEnding?_position hword]
      | cons d aka =>
          have hfree := blankFree_of_positionNumber? (positionNumber?_of_denotes hword)
          rw [positionEnding?_append h.of_cons_cons hfree, ih h.of_cons_cons]

theorem not_mem_of_denotes {word : List Char} (h : Denotes word n) : '>' ∉ word := by
  obtain ⟨digits, -, hdigits, ⟨rfl, -⟩ | ⟨rfl, -⟩⟩ := h
  · exact not_mem_of_forall hdigits (by decide)
  · rw [List.mem_cons, not_or]
    exact ⟨by decide, not_mem_of_forall hdigits (by decide)⟩

theorem unquote_of_not (h : ¬Quoted text) : unquote text = text := by
  unfold unquote
  split
  · next hlast => exact absurd ⟨by simp, hlast.symm, Or.inl rfl⟩ h
  · next hlast => exact absurd ⟨by simp, hlast.symm, Or.inr rfl⟩ h
  · rfl

theorem declarationEnding?_append (h : PlainAlias aka) {word : List Char} (hword : Denotes word n) :
    declarationEnding? (" aka ".toList ++ (aka ++ (" position ".toList ++ word))) =
      some (some aka, some (max leastPosition (min greatestPosition n))) := by
  have hkeyword : gapWord? "aka" (" aka ".toList ++ (aka ++ (" position ".toList ++ word))) =
      some (' ' :: (aka ++ (" position ".toList ++ word))) := rfl
  have hgap : blanks? (' ' :: (aka ++ (" position ".toList ++ word))) =
      some (aka ++ (" position ".toList ++ word)) :=
    congrArg some (Text.trimStart_append_of_head h.ne_nil h.trimmed.head _)
  have hnonempty : ∀ rest, nonempty? (aka ++ rest) = some (aka ++ rest) := by
    obtain ⟨c, aka, rfl⟩ := List.exists_cons_of_ne_nil h.ne_nil
    exact fun rest => rfl
  have halias : nonempty? (Text.trim aka) = some aka := by
    rw [h.trimmed.trim_eq, ← List.append_nil aka, hnonempty]
  unfold declarationEnding?
  split
  · next hnil => cases hnil
  · rw [hkeyword, Option.bind_some, hgap, Option.bind_some, hnonempty]
    dsimp only
    rw [splitAlias_append (h.trimmed.endsVisibly h.ne_nil) hword, halias, Option.map_some,
      unquote_of_not h.quoted]

theorem isWordChar_of_mem_name (kind : ParticipantKind) :
    kind.name.toList ≠ [] ∧ ∀ c ∈ kind.name.toList, isWordChar c = true := by
  constructor
  · cases kind <;> decide
  · exact List.all_eq_true.mp (by cases kind <;> decide +kernel)

theorem article?_append (kind : ParticipantKind) (rest : List Char) :
    article? (" a ".toList ++ (kind.name.toList ++ rest)) = some (kind.name.toList ++ rest) := by
  cases kind <;> rfl

theorem declaration?_append {id : List Char} (hne : id ≠ []) (hid : ∀ c ∈ id, isIdChar c = true)
    (h : PlainAlias aka) (kind : ParticipantKind) {word : List Char} (hword : Denotes word n) :
    declaration? (id ++ (" is a ".toList ++ (kind.name.toList ++ (" aka ".toList ++
      (aka ++ (" position ".toList ++ word)))))) = some ⟨id, kind.name.toList, some aka,
        some (max leastPosition (min greatestPosition n))⟩ := by
  obtain ⟨hkind, hletters⟩ := isWordChar_of_mem_name kind
  have hkeyword : ∀ rest, gapWord? "is" (" is a ".toList ++ rest) = some (" a ".toList ++ rest) :=
    fun rest => rfl
  have hword' : ∀ rest, (kind.name.toList ++ (" aka ".toList ++ rest)).takeWhile isWordChar =
      kind.name.toList := by
    intro rest
    rw [List.takeWhile_append_of_pos hletters]
    exact List.append_nil _
  rw [declaration?, takeWhile_isIdChar hid rfl, if_neg (by simpa using hne), List.drop_left,
    hkeyword, Option.bind_some, article?_append]
  dsimp only
  rw [hword', if_neg (by simpa using hkind), List.drop_left, declarationEnding?_append h hword]
  rfl

theorem hasArrow_declarationLine {id : List Char} (hid : ∀ c ∈ id, isIdChar c = true)
    (h : PlainAlias aka) (hn : Denotes (toString n).toList n) (kind : ParticipantKind) :
    hasArrow (declarationLine id kind aka n) = false := by
  have htip : '>' ∉ id ++ " is a ".toList ++ kind.name.toList ++ " aka ".toList := by
    simp only [List.mem_append, not_or]
    exact ⟨⟨⟨not_mem_of_forall hid (by decide), by decide⟩,
      not_mem_of_forall (isWordChar_of_mem_name kind).2 (by decide)⟩, by decide⟩
  have hlast : ∀ c ∈ (id ++ " is a ".toList ++ kind.name.toList ++ " aka ".toList).getLast?,
      isPlain c = true := by
    rw [List.getLast?_append]
    rintro _ ⟨rfl⟩
    decide
  rw [declarationLine, hasArrow_append_right (not_mem_of_denotes hn),
    hasArrow_append_right (by decide), hasArrow_append_left htip hlast, h.arrow]

/-- A written declaration is read as it is. -/
theorem read_declarationLine {id : List Char} (hne : id ≠ []) (hid : ∀ c ∈ id, isIdChar c = true)
    (h : PlainAlias aka) (hleast : leastPosition ≤ n) (hgreatest : n ≤ greatestPosition)
    (kind : ParticipantKind) (inGroup : Bool) :
    Line.read inGroup (declarationLine id kind aka n) =
      .declaration ⟨id, kind.name.toList, some aka, some n⟩ := by
  have hword := denotes_toString n
  have hstored : max leastPosition (min greatestPosition n) = n := by omega
  have hdeclaration := declaration?_append hne hid h kind hword
  have harrow := hasArrow_declarationLine hid h hword kind
  simp only [declarationLine, List.append_assoc] at harrow ⊢
  have hcolon : ∀ rest, (Text.trimStart (" is a ".toList ++ rest)).head? ≠ some ':' := by
    intro rest hhead
    exact absurd (Option.some.inj hhead : 'i' = ':') (by decide)
  rw [read_of_name hne hid (by decide), harrow, if_neg (by simp),
    readDescription?_of_option? (option?_eq_none hid hne rfl (hcolon _)), hdeclaration, hstored]
  rfl

end

/-! ### Headings -/

section
variable {text label color tail : List Char}

theorem parenthesised?_of_ne {c : Char} (h : c ≠ '(') (rest : List Char) :
    parenthesised? (c :: rest) = none := by
  unfold parenthesised?
  split
  · next heq => exact absurd (List.cons.inj heq).1 h
  · rfl

theorem parenthesised?_append (h : ')' ∉ color) (rest : List Char) :
    parenthesised? ('(' :: (color ++ ')' :: rest)) = some (color, rest) := by
  have htake : (color ++ ')' :: rest).takeWhile (· ≠ ')') = color := by
    rw [List.takeWhile_append_of_pos, List.takeWhile_cons_of_neg (by simp), List.append_nil]
    intro c hc
    exact decide_eq_true fun heq => h (heq ▸ hc)
  rw [parenthesised?, htake, List.drop_left]

theorem groupEnding?_append (h : EndsVisibly text) (hopen : '(' ∉ text) (tail : List Char) :
    groupEnding? (text ++ tail) = none := by
  obtain ⟨c, rest, hc, hstart⟩ := h.trimStart_append tail
  have hno := parenthesised?_of_ne (fun heq => hopen (heq ▸ hc)) (rest ++ tail)
  rw [groupEnding?, hstart]
  dsimp only [List.cons_append]
  rw [hno]

theorem sectionEnding?_append (h : EndsVisibly text) (hopen : '(' ∉ text)
    (htail : 2 ≤ tail.length) : sectionEnding? (text ++ tail) = none := by
  obtain ⟨c, rest, hc, hstart⟩ := h.trimStart_append tail
  have hno := parenthesised?_of_ne (fun heq => hopen (heq ▸ hc)) (rest ++ tail)
  have hcloses : closesSection (c :: (rest ++ tail)) = false := by
    by_contra hcloses
    have hcases : c :: (rest ++ tail) = [] ∨ c :: (rest ++ tail) = ['=', '='] := by
      simpa [closesSection] using hcloses
    have hlength : (c :: (rest ++ tail)).length ≤ 2 := by
      rcases hcases with heq | heq <;> simp [heq]
    simp at hlength
    omega
  unfold sectionEnding?
  dsimp only
  rw [hstart, List.cons_append, hno, hcloses]
  rfl

/-- No shorter label is split off than the one in front of its ending. -/
theorem splitEnding_append {ending? : List Char → Option (Option (List Char))}
    {color : Option (List Char)} (h : EndsVisibly label)
    (hnone : ∀ rest, rest <:+ label → EndsVisibly rest → ending? (rest ++ tail) = none)
    (htail : ending? tail = some color) :
    splitEnding ending? (label ++ tail) = ⟨label, color⟩ := by
  induction label with
  | nil =>
      obtain ⟨c, hlast, -⟩ := h
      cases hlast
  | cons c label ih =>
      rw [List.cons_append, splitEnding]
      cases label with
      | nil => rw [List.nil_append, htail]
      | cons d label =>
          have hsuffix : d :: label <:+ c :: d :: label := List.suffix_cons c _
          rw [hnone _ hsuffix h.of_cons_cons, ih h.of_cons_cons
            fun rest hrest => hnone rest (hrest.trans hsuffix)]

variable {h : Heading}

theorem groupEnding?_suffix (hplain : h.Plain) : groupEnding? h.suffix = some h.color := by
  obtain ⟨label, _ | color⟩ := h
  · rfl
  · have hclose := (hplain.color color rfl).2.2.1
    have hstart : Text.trimStart (" (".toList ++ color ++ [')']) = '(' :: (color ++ ')' :: []) := by
      rw [List.append_assoc]
      rfl
    rw [Heading.suffix, Option.elim_some, groupEnding?, hstart]
    dsimp only
    rw [parenthesised?_append hclose]

theorem sectionEnding?_suffix (hplain : h.Plain) :
    sectionEnding? (h.suffix ++ " ==".toList) = some h.color := by
  obtain ⟨label, _ | color⟩ := h
  · rfl
  · have hclose := (hplain.color color rfl).2.2.1
    have hstart : Text.trimStart (" (".toList ++ color ++ [')'] ++ " ==".toList) =
        '(' :: (color ++ ')' :: " ==".toList) := by
      rw [List.append_assoc, List.append_assoc]
      rfl
    rw [Heading.suffix, Option.elim_some, sectionEnding?, hstart, parenthesised?_append hclose]
    rfl

theorem Heading.Plain.tidy_eq (hplain : h.Plain) : h.tidy = h := by
  obtain ⟨label, _ | color⟩ := h
  · rw [Heading.tidy, hplain.trimmed.trim_eq]
    rfl
  · obtain ⟨hne, htrimmed, -⟩ := hplain.color color rfl
    have hcolor : nonempty? color = some color := by
      obtain ⟨c, color, rfl⟩ := List.exists_cons_of_ne_nil hne
      rfl
    rw [Heading.tidy, hplain.trimmed.trim_eq, Option.map_some, htrimmed.trim_eq, Option.bind_some,
      hcolor]

theorem trimStart_label (hplain : h.Plain) (tail : List Char) : ∃ c rest,
    h.label ++ tail = c :: rest ∧ Text.trimStart (h.label ++ tail) = c :: rest ∧
      Text.trimStart (' ' :: (h.label ++ tail)) = c :: rest := by
  obtain ⟨c, rest, heq⟩ := List.exists_cons_of_ne_nil hplain.ne_nil
  have hstart := Text.trimStart_append_of_head hplain.ne_nil hplain.trimmed.head tail
  rw [heq, List.cons_append] at hstart ⊢
  exact ⟨c, rest ++ tail, rfl, hstart, hstart⟩

theorem read_groupLine (hplain : h.Plain) (inGroup : Bool) :
    Line.read inGroup (groupLine h) = .group h := by
  have hsplit : splitEnding groupEnding? (h.label ++ h.suffix) = h :=
    splitEnding_append (hplain.trimmed.endsVisibly hplain.ne_nil)
      (fun rest hrest hvisible => groupEnding?_append hvisible
        (fun hmem => hplain.label (hrest.subset hmem)) _) (groupEnding?_suffix hplain)
  have hline : groupLine h = '#' :: '#' :: ' ' :: (h.label ++ h.suffix) := rfl
  obtain ⟨c, rest, heq, hstart, -⟩ := trimStart_label hplain h.suffix
  have hheading : groupHeading? (groupLine h) = some h := by
    rw [hline, groupHeading?, if_pos (by decide), hstart]
    dsimp only
    rw [← heq, hsplit, hplain.tidy_eq]
  rw [Line.read, hheading]
  rfl

/-- A written section divider is read as it is. -/
theorem read_sectionLine (hplain : h.Plain) (inGroup : Bool) :
    Line.read inGroup (sectionLine h) = .section h := by
  have hsplit : splitEnding sectionEnding? (h.label ++ (h.suffix ++ " ==".toList)) = h :=
    splitEnding_append (hplain.trimmed.endsVisibly hplain.ne_nil)
      (fun rest hrest hvisible => sectionEnding?_append hvisible
        (fun hmem => hplain.label (hrest.subset hmem)) (by simp)) (sectionEnding?_suffix hplain)
  have hline : sectionLine h = '=' :: '=' :: ' ' :: (h.label ++ (h.suffix ++ " ==".toList)) := by
    rw [sectionLine, List.append_assoc, List.append_assoc]
    rfl
  obtain ⟨c, rest, heq, -, hstart⟩ := trimStart_label hplain (h.suffix ++ " ==".toList)
  have hdivider : sectionDivider? (sectionLine h) = some h := by
    rw [hline, sectionDivider?, hstart]
    dsimp only
    rw [← heq, hsplit, hplain.tidy_eq]
  rw [Line.read, hdivider, hline]
  rfl

end

end Syntax

end Lifeline
