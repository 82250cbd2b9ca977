import Lifeline.Proofs.Detection.Signs

/-! # Lines that begin with a name

A name may state a message, be declared, be given a position, be the member of a group, or be the
key of an option. The characters of names differ: a message takes letters and numbers of any kind
(`isNameChar`), the other lines take word characters (`isIdChar`), and keys and members must begin
with a letter from A to Z or an underscore (`isKeyStart`). A line that begins with such a name is
read accordingly, and a line that is read so has such a name (`name_of_read`). -/

namespace Lifeline.Syntax

open Lifeline.Unicode (isBlank isSpaceOrTab isBlank_of_isSpaceOrTab)

/-! ### Characters -/

section
variable {c : Char}

theorem isBlank_of_isNameChar (h : isNameChar c = true) : isBlank c = false := by
  by_contra hblank
  have hno := isNameChar_of_isBlank (by simpa using hblank)
  simp [h] at hno

theorem isBlank_of_isIdChar (h : isIdChar c = true) : isBlank c = false := by
  by_contra hblank
  have hno := (not_inName_of_isBlank (by simpa using hblank)).2
  simp [h] at hno

theorem toNat_lt_of_isAlpha (h : c.isAlpha = true) : c.toNat < 0x80 := by
  rcases Bool.or_eq_true_iff.mp h with hupper | hlower
  · have hle := (of_decide_eq_true hupper).2
    exact lt_of_le_of_lt (UInt32.le_iff_toNat_le.mp hle) (by decide)
  · have hle := of_decide_eq_true (Bool.and_eq_true_iff.mp hlower).2
    exact lt_of_le_of_lt (UInt32.le_iff_toNat_le.mp hle) (by decide)

theorem toNat_lt_of_isAlpha_toLower (h : c.toLower.isAlpha = true) : c.toNat < 0x80 := by
  unfold Char.toLower at h
  split at h
  · next hupper =>
      have hle := UInt32.le_iff_toNat_le.mp hupper.2
      simp at hle
      omega
  · exact toNat_lt_of_isAlpha h

theorem isIdChar_of_isKeyStart (h : isKeyStart c = true) : isIdChar c = true := by
  have htable : ∀ n < 0x80, (Char.ofNat n).toLower.isAlpha = true →
      isIdChar (Char.ofNat n) = true := by decide
  unfold isKeyStart Text.foldCase at h
  by_cases hs : c = '\u017f'
  · subst hs
    decide
  by_cases hk : c = '\u212a'
  · subst hk
    decide +kernel
  rw [if_neg hs, if_neg hk, Bool.or_eq_true, beq_iff_eq] at h
  rcases h with h | rfl
  · have hchar := htable c.toNat (toNat_lt_of_isAlpha_toLower h)
    rw [Char.ofNat_toNat] at hchar
    exact hchar h
  · decide

end

theorem isIdChar_of_isMemberLine {line : List Char} (h : isMemberLine line = true) :
    ∀ c ∈ line, isIdChar c = true := by
  cases line with
  | nil => simp
  | cons c rest =>
      have h : isKeyStart c = true ∧ ∀ d ∈ rest, isIdChar d = true := by
        simpa [isMemberLine] using h
      exact List.forall_mem_cons.mpr ⟨isIdChar_of_isKeyStart h.1, h.2⟩

theorem not_mem_of_forall {p : Char → Bool} {text : List Char} {c : Char}
    (h : ∀ d ∈ text, p d = true) (hc : p c = false) : c ∉ text := fun hmem => by
  simp [h c hmem] at hc

/-! ### Arrows -/

theorem hasArrow_eq_false {line : List Char} (h : '>' ∉ line) : hasArrow line = false := by
  have hno : ∀ a, Text.contains [a, '>'] line = false := by
    intro a
    by_contra hmem
    have hpart := Text.contains_iff.mp (by simpa using hmem)
    exact h (hpart.subset (by simp))
  rw [hasArrow, hno, hno]
  rfl

theorem arrow?_cons_eq_none {rest : List Char} (h : ∀ d ∈ rest.head?, d ≠ '>') (c : Char) :
    arrow? (c :: rest) = none := by
  unfold arrow?
  split
  · next heq => exact absurd rfl (h '>' (by simp_all))
  · next heq => exact absurd rfl (h '>' (by simp_all))
  · rfl

/-- A name goes on up to where no further one begins. -/
theorem name_append_of_stop {s tail : List Char} (hs : ∀ c ∈ s, isNameChar c = true)
    (hstop : name tail = ([], tail)) (htip : tail.head? ≠ some '>') :
    name (s ++ tail) = (s, tail) := by
  induction s with
  | nil => exact hstop
  | cons c s ih =>
      obtain ⟨hc, hs⟩ := List.forall_mem_cons.mp hs
      have hnext : ∀ d ∈ (s ++ tail).head?, d ≠ '>' := by
        cases s with
        | nil => exact fun d hd heq => htip (heq ▸ hd)
        | cons e s =>
            rintro _ ⟨rfl⟩ rfl
            exact absurd (hs '>' List.mem_cons_self) (by decide)
      rw [List.cons_append, name, ih hs, arrow?_cons_eq_none hnext, hc]
      rfl

theorem name_of_head {tail : List Char} (h : tail.head?.any isNameChar = false) :
    name tail = ([], tail) := by
  cases tail with
  | nil => rfl
  | cons c tail =>
      have hc : isNameChar c = false := h
      simp [name, hc]

theorem name_of_append {s tail : List Char} (hs : ∀ c ∈ s, isNameChar c = true)
    (htail : tail.head?.any isNameChar = false) (htip : tail.head? ≠ some '>') :
    name (s ++ tail) = (s, tail) :=
  name_append_of_stop hs (name_of_head htail) htip

/-! ### What a line is -/

/-- A line that begins with no mark is a description or content. -/
theorem read_cons {c : Char} (hc : c ≠ '#' ∧ c ≠ '/' ∧ c ≠ '=') (rest : List Char)
    (inGroup : Bool) : Line.read inGroup (c :: rest) =
      ((if hasArrow (c :: rest) then none
        else Line.readDescription? inGroup (c :: rest)).getD
          (.content (Content.read (c :: rest)))) := by
  have hgroup : groupHeading? (c :: rest) = none := by
    unfold groupHeading?
    split <;> simp_all
  have hsection : sectionDivider? (c :: rest) = none := by
    unfold sectionDivider?
    split <;> simp_all
  have hcomment : ['/', '/'].isPrefixOf (c :: rest) = false := by
    simp [List.isPrefixOf, Ne.symm hc.2.1]
  have hhash : ['#'].isPrefixOf (c :: rest) = false := by
    simp [List.isPrefixOf, Ne.symm hc.1]
  rw [Line.read, hgroup, hsection, hcomment, hhash]
  dsimp only [List.isEmpty_cons]
  cases (if hasArrow (c :: rest) = true then none
    else Line.readDescription? inGroup (c :: rest)) <;> rfl

section
variable {s tail : List Char}

theorem read_of_name {p : Char → Bool} (hne : s ≠ []) (hs : ∀ c ∈ s, p c = true)
    (hp : p '#' = false ∧ p '/' = false ∧ p '=' = false) (tail : List Char) (inGroup : Bool) :
    Line.read inGroup (s ++ tail) =
      ((if hasArrow (s ++ tail) then none else Line.readDescription? inGroup (s ++ tail)).getD
        (.content (Content.read (s ++ tail)))) := by
  obtain ⟨c, rest, rfl⟩ := List.exists_cons_of_ne_nil hne
  have hc := hs c List.mem_cons_self
  refine read_cons ⟨?_, ?_, ?_⟩ _ inGroup <;> rintro rfl
  · exact absurd hc (by simp [hp.1])
  · exact absurd hc (by simp [hp.2.1])
  · exact absurd hc (by simp [hp.2.2])

/-! ### Messages -/

theorem hasArrow_sender (s : List Char) : hasArrow (s ++ " -> Z".toList) = true := by
  have hpart : ['-', '>'] <:+: s ++ " -> Z".toList := ⟨s ++ [' '], [' ', 'Z'], by simp⟩
  rw [hasArrow, Text.contains_iff.mpr hpart]
  rfl

theorem trimStart_of_name (hne : s ≠ []) (hs : ∀ c ∈ s, isBlank c = false) (tail : List Char) :
    Text.trimStart (s ++ tail) = s ++ tail := by
  obtain ⟨c, rest, rfl⟩ := List.exists_cons_of_ne_nil hne
  exact Text.trimStart_cons_of_not (hs c List.mem_cons_self)

theorem trim_of_name (hne : s ≠ []) (hs : ∀ c ∈ s, isBlank c = false)
    (htail : tail.getLast?.any isBlank = false) : Text.trim (s ++ tail) = s ++ tail := by
  rcases tail.eq_nil_or_concat with rfl | ⟨init, c, rfl⟩
  · rw [Text.trim, trimStart_of_name hne hs, List.append_nil]
    obtain ⟨init, c, rfl⟩ := s.eq_nil_or_concat.resolve_left hne
    rw [List.concat_eq_append, Text.trimEnd_append_cons (hs c (by simp))]
    rfl
  · rw [Text.trim, trimStart_of_name hne hs, List.concat_eq_append, ← List.append_assoc,
      Text.trimEnd_append_cons (by simpa using htail)]
    rfl

theorem firstWord_sender (hne : s ≠ []) (hs : ∀ c ∈ s, isBlank c = false) :
    Text.firstWord (s ++ " -> Z".toList) = s := by
  rw [Text.firstWord, trimStart_of_name hne hs, List.takeWhile_append_of_pos (by simpa using hs)]
  exact List.append_nil s

/-- A text before an arrow is the sender of a message, if it is a name and not the word `async`. -/
theorem read_sender (hne : s ≠ []) (hs : ∀ c ∈ s, isNameChar c = true)
    (hasync : Text.equalsIgnoringCase s "async".toList = false) (inGroup : Bool) :
    Line.read inGroup (s ++ " -> Z".toList) = .content (.message ⟨s, ['Z'], [], false⟩) := by
  have hblank : ∀ c ∈ s, isBlank c = false := fun c hc => isBlank_of_isNameChar (hs c hc)
  have hspaces : (s ++ " -> Z".toList).dropWhile isSpaceOrTab = s ++ " -> Z".toList := by
    obtain ⟨c, rest, rfl⟩ := List.exists_cons_of_ne_nil hne
    refine List.dropWhile_cons_of_neg fun hc => ?_
    have := hblank c List.mem_cons_self
    simp [isBlank_of_isSpaceOrTab hc] at this
  have hname : paddedName? (s ++ " -> Z".toList) = some (s, "-> Z".toList) := by
    rw [paddedName?, hspaces, name_of_append hs (by decide) (by decide)]
    obtain ⟨c, rest, rfl⟩ := List.exists_cons_of_ne_nil hne
    rfl
  have hstatement : statement? (s ++ " -> Z".toList) = some ⟨s, ['Z'], [], false⟩ := by
    rw [statement?, hname]
    rfl
  have hasync : Text.equalsIgnoringCase s ['a', 's', 'y', 'n', 'c'] = false := hasync
  rw [read_of_name hne hs (by decide), hasArrow_sender, if_pos rfl, Option.getD_none,
    Content.read, firstWord_sender hne hblank, hstatement, hasArrow_sender, hasync]
  rfl

/-! ### Descriptions -/

theorem takeWhile_isIdChar (hs : ∀ c ∈ s, isIdChar c = true)
    (htail : tail.head?.any isIdChar = false) : (s ++ tail).takeWhile isIdChar = s := by
  rw [List.takeWhile_append_of_pos hs]
  cases tail with
  | nil => exact List.append_nil s
  | cons c tail =>
      have hc : isIdChar c = false := htail
      rw [List.takeWhile_cons_of_neg (by simp [hc]), List.append_nil]

theorem option?_eq_none (hs : ∀ c ∈ s, isIdChar c = true) (hne : s ≠ [])
    (htail : tail.head?.any isIdChar = false)
    (hcolon : (Text.trimStart tail).head? ≠ some ':') : option? (s ++ tail) = none := by
  obtain ⟨c, rest, rfl⟩ := List.exists_cons_of_ne_nil hne
  rw [List.cons_append, option?]
  split
  · dsimp only
    rw [takeWhile_isIdChar (fun d hd => hs d (List.mem_cons_of_mem c hd)) htail, List.drop_left]
    split
    · next heq => exact absurd (by simp [heq]) hcolon
    · rfl
  · rfl

/-- A description that is no option is a declaration, a position or the member of a group. -/
theorem readDescription?_of_option? {line : List Char} (h : option? line = none) (inGroup : Bool) :
    Line.readDescription? inGroup line =
      ((declaration? line).map Line.declaration).or
        (((positionLine? line).map fun p => Line.position p.1 p.2).or
          (if inGroup && isMemberLine line then some (.member line) else none)) := by
  have hkey : (if (noteHeader? line).isSome then none else option? line) = none := by
    rw [h, ite_self]
  rw [Line.readDescription?, hkey]
  dsimp only
  cases declaration? line with
  | some d => rfl
  | none => cases positionLine? line <;> rfl

theorem read_of_declared (hs : ∀ c ∈ s, isIdChar c = true) (hne : s ≠ [])
    (htail : tail.head?.any isIdChar = false)
    (hcolon : (Text.trimStart tail).head? ≠ some ':') (htip : '>' ∉ tail) (inGroup : Bool) :
    Line.read inGroup (s ++ tail) =
      ((((declaration? (s ++ tail)).map Line.declaration).or
        (((positionLine? (s ++ tail)).map fun p => Line.position p.1 p.2).or
          (if inGroup && isMemberLine (s ++ tail) then some (.member (s ++ tail)) else none))).getD
        (.content (Content.read (s ++ tail)))) := by
  have harrow : hasArrow (s ++ tail) = false := by
    apply hasArrow_eq_false
    rw [List.mem_append, not_or]
    exact ⟨not_mem_of_forall hs (by decide), htip⟩
  rw [read_of_name hne hs (by decide), harrow, if_neg (by simp),
    readDescription?_of_option? (option?_eq_none hs hne htail hcolon)]

theorem read_declaration (hs : ∀ c ∈ s, isIdChar c = true) (hne : s ≠ []) (inGroup : Bool) :
    Line.read inGroup (s ++ " is a service".toList) =
      .declaration ⟨s, "service".toList, none, none⟩ := by
  have hdeclaration : declaration? (s ++ " is a service".toList) =
      some ⟨s, "service".toList, none, none⟩ := by
    rw [declaration?, takeWhile_isIdChar hs (by decide), List.drop_left,
      if_neg (by simpa using hne)]
    rfl
  rw [read_of_declared hs hne (by decide) (by decide) (by decide), hdeclaration]
  rfl

theorem read_position (hs : ∀ c ∈ s, isIdChar c = true) (hne : s ≠ []) (inGroup : Bool) :
    Line.read inGroup (s ++ " position 0".toList) = .position s 0 := by
  have hdeclaration : declaration? (s ++ " position 0".toList) = none := by
    rw [declaration?, takeWhile_isIdChar hs (by decide), List.drop_left,
      if_neg (by simpa using hne)]
    rfl
  have hposition : positionLine? (s ++ " position 0".toList) = some (s, 0) := by
    rw [positionLine?, takeWhile_isIdChar hs (by decide), List.drop_left,
      if_neg (by simpa using hne)]
    rfl
  rw [read_of_declared hs hne (by decide) (by decide) (by decide), hdeclaration,
    hposition]
  rfl

/-- A name alone on its line is the member of a group, if it begins like a key. -/
theorem read_alone (hs : ∀ c ∈ s, isIdChar c = true) (hne : s ≠ []) : Line.read true s =
    if isMemberLine s = true then .member s else .content (Content.read s) := by
  have htake : s.takeWhile isIdChar = s := by
    simpa using takeWhile_isIdChar hs (show [].head?.any isIdChar = false from rfl)
  have hdeclaration : declaration? s = none := by
    rw [declaration?, htake, List.drop_length, if_neg (by simpa using hne)]
    rfl
  have hposition : positionLine? s = none := by
    rw [positionLine?, htake, List.drop_length, if_neg (by simpa using hne)]
    rfl
  have hread := read_of_declared hs hne (show [].head?.any isIdChar = false from rfl) (by decide)
    (by decide) true
  rw [List.append_nil, hdeclaration, hposition] at hread
  rw [hread]
  cases isMemberLine s <;> rfl

/-! ### The names of a line -/

/-- The names that a line mentions. -/
def Line.names : Line → List (List Char)
  | .declaration d => [d.id]
  | .position id _ => [id]
  | .member id => [id]
  | .content (.message statement) => [statement.sender, statement.receiver]
  | _ => []

theorem name_of_takeWhile {line : List Char} (h : ¬(line.takeWhile isIdChar).isEmpty = true) :
    line.takeWhile isIdChar ≠ [] ∧ ∀ c ∈ line.takeWhile isIdChar, isIdChar c = true :=
  ⟨by simpa using h, fun _ hc => List.mem_takeWhile_imp hc⟩

theorem name_of_declaration? {line : List Char} {d : Declaration} (h : declaration? line = some d) :
    d.id ≠ [] ∧ ∀ c ∈ d.id, isIdChar c = true := by
  unfold declaration? at h
  dsimp only at h
  split at h
  · cases h
  · next hid =>
      split at h
      · cases h
      · split at h
        · cases h
        · obtain ⟨ending, -, rfl⟩ := Option.map_eq_some_iff.mp h
          exact name_of_takeWhile hid

theorem name_of_positionLine? {line id : List Char} {n : Int}
    (h : positionLine? line = some (id, n)) : id ≠ [] ∧ ∀ c ∈ id, isIdChar c = true := by
  unfold positionLine? at h
  dsimp only at h
  split at h
  · cases h
  · next hid =>
      obtain ⟨m, -, heq⟩ := Option.map_eq_some_iff.mp h
      obtain ⟨rfl, -⟩ := Prod.mk.inj heq
      exact name_of_takeWhile hid

theorem name_of_isMemberLine {line : List Char} (h : isMemberLine line = true) :
    line ≠ [] ∧ ∀ c ∈ line, isIdChar c = true := by
  refine ⟨?_, isIdChar_of_isMemberLine h⟩
  rintro rfl
  exact absurd h (by decide)

theorem name_of_description {inGroup : Bool} {line : List Char} {form : Line}
    (h : Line.readDescription? inGroup line = some form) (hs : s ∈ form.names) :
    s ≠ [] ∧ ∀ c ∈ s, isIdChar c = true := by
  simp only [Line.readDescription?] at h
  split at h
  · obtain rfl := Option.some.inj h
    simp [Line.names] at hs
  · split at h
    · next d hd =>
        obtain rfl := Option.some.inj h
        obtain rfl := List.mem_singleton.mp hs
        exact name_of_declaration? hd
    · split at h
      · next id n hposition =>
          obtain rfl := Option.some.inj h
          obtain rfl := List.mem_singleton.mp hs
          exact name_of_positionLine? hposition
      · split at h
        · next hmember =>
            obtain rfl := Option.some.inj h
            obtain rfl := List.mem_singleton.mp hs
            exact name_of_isMemberLine (Bool.and_eq_true_iff.mp hmember).2
        · cases h

theorem name_of_paddedName? {line rest : List Char} (h : paddedName? line = some (s, rest)) :
    s ≠ [] ∧ ∀ c ∈ s, isNameChar c = true := by
  unfold paddedName? at h
  split at h
  · cases h
  · next letters behind hnil hname =>
      obtain ⟨rfl, -⟩ := Prod.mk.inj (Option.some.inj h)
      have hall : ∀ c ∈ (name (line.dropWhile isSpaceOrTab)).1, isNameChar c = true :=
        fun c hc => isNameChar_of_mem_name hc
      rw [hname] at hall
      exact ⟨hnil, hall⟩

theorem name_of_statement? {line : List Char} {statement : Statement}
    (h : statement? line = some statement) (hs : s ∈ [statement.sender, statement.receiver]) :
    s ≠ [] ∧ ∀ c ∈ s, isNameChar c = true := by
  simp only [statement?, Option.bind_eq_bind, Option.bind_eq_some_iff] at h
  obtain ⟨⟨sender, rest⟩, hsender, ⟨isAsync, behind⟩, -, ⟨receiver, label⟩, hreceiver, text, -,
    heq⟩ := h
  obtain rfl := Option.some.inj heq
  have hs : s = sender ∨ s = receiver := by simpa using hs
  obtain rfl | rfl := hs
  · exact name_of_paddedName? hsender
  · exact name_of_paddedName? hreceiver

theorem contentNames_cases (line : List Char) : (Line.content (Content.read line)).names = [] ∨
    ∃ statement, statement? line = some statement ∧ Content.read line = .message statement := by
  unfold Content.read
  split
  · exact Or.inl rfl
  · split
    · next statement hstatement => exact Or.inr ⟨statement, hstatement, rfl⟩
    · repeat' split
      all_goals exact Or.inl rfl

theorem names_cases (inGroup : Bool) (line : List Char) : (Line.read inGroup line).names = [] ∨
    Line.readDescription? inGroup line = some (Line.read inGroup line) ∨
    ∃ statement, statement? line = some statement ∧
      Line.read inGroup line = .content (.message statement) := by
  unfold Line.read
  repeat' split
  all_goals try exact Or.inl rfl
  · next form hform =>
      split at hform
      · cases hform
      · exact Or.inr (Or.inl hform)
  · refine (contentNames_cases line).imp_right fun ⟨statement, hstatement, hread⟩ => ?_
    exact Or.inr ⟨statement, hstatement, congrArg Line.content hread⟩

/-- A line mentions names of declared characters, or is a message. -/
theorem name_of_read {inGroup : Bool} {line : List Char}
    (hs : s ∈ (Line.read inGroup line).names) : s ≠ [] ∧
      ((∀ c ∈ s, isIdChar c = true) ∨ (∀ c ∈ s, isNameChar c = true) ∧ '>' ∈ line) := by
  obtain hnone | hdescription | ⟨statement, hstatement, hread⟩ := names_cases inGroup line
  · simp [hnone] at hs
  · obtain ⟨hne, hall⟩ := name_of_description hdescription hs
    exact ⟨hne, Or.inl hall⟩
  · rw [hread] at hs
    obtain ⟨hne, hall⟩ := name_of_statement? hstatement hs
    obtain ⟨front, a, behind, hline, -⟩ := Detection.exists_of_statement? hstatement
    refine ⟨hne, Or.inr ⟨hall, ?_⟩⟩
    rw [hline]
    simp

/-- The sender of a message is a name and not the word `async`. -/
theorem sender_of_read {inGroup : Bool} {statement : Statement}
    (h : Line.read inGroup (Text.trim (s ++ " -> Z".toList)) = .content (.message statement))
    (hs : statement.sender = s) : s ≠ [] ∧ (∀ c ∈ s, isNameChar c = true) ∧
      Text.equalsIgnoringCase s "async".toList = false := by
  have hcontent := content_of_read h
  have hname : s ∈ [statement.sender, statement.receiver] := by simp [hs]
  have hstatement : ∃ found, statement? (Text.trim (s ++ " -> Z".toList)) = some found ∧
      Content.message statement = .message found := by
    obtain hnone | ⟨found, hfound, hread⟩ := contentNames_cases (Text.trim (s ++ " -> Z".toList))
    · rw [← hcontent] at hnone
      cases hnone
    · exact ⟨found, hfound, hcontent.trans hread⟩
  obtain ⟨found, hfound, heq⟩ := hstatement
  obtain rfl := Content.message.inj heq
  obtain ⟨hne, hall⟩ := name_of_statement? hfound hname
  have hblank : ∀ c ∈ s, isBlank c = false := fun c hc => isBlank_of_isNameChar (hall c hc)
  refine ⟨hne, hall, ?_⟩
  rw [trim_of_name hne hblank (by decide), Content.read, hasArrow_sender,
    firstWord_sender hne hblank] at hcontent
  split at hcontent
  · cases hcontent
  · next hno => simpa using hno

end

end Lifeline.Syntax
