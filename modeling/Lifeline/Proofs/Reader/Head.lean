import Lifeline.Proofs.Reader.Order
import Lifeline.Proofs.Syntax.Options

/-! # The head of a document

Options change the title or an entry of the diagram, and no other line does (`header?_readLine`). So
a reading leaves the title and the options that the last lines of each key give
(`Diagram.header?_read`), and a line `key: value` outside the bodies of notes is one of these lines
(`Diagram.header_writes`). -/

namespace Lifeline

/-! ### Options of a diagram -/

namespace Diagram

variable {d e : Diagram} {key other : String}

/-- What the head of the document says under a key: the title, or an option. -/
def header? (d : Diagram) (key : String) : Option String :=
  if key = "title" then d.title else d.option? key

theorem header?_congr (htitle : e.title = d.title) (hoptions : e.options = d.options)
    (key : String) : e.header? key = d.header? key := by
  rw [header?, header?, option?, option?, htitle, hoptions]

theorem option?_setOption_of_ne (d : Diagram) (h : other ≠ key) (value : String) :
    (d.setOption other value).option? key = d.option? key := by
  have hkept : (d.options.filter fun o => o.1 ≠ other).find? (·.1 == key) =
      d.options.find? (·.1 == key) := by
    rw [List.find?_filter]
    congr 1
    funext o
    by_cases ho : o.1 = key <;> simp [ho, Ne.symm h]
  rw [option?, option?, setOption, List.find?_append, hkept]
  simp [h]

theorem header?_setOption (d : Diagram) (h : other ≠ "title") (value : String) :
    (d.setOption other value).header? key = if other = key then some value else d.header? key := by
  rw [header?, header?]
  by_cases hkey : key = "title"
  · rw [if_pos hkey, if_pos hkey, if_neg (hkey ▸ h)]
    rfl
  · rw [if_neg hkey, if_neg hkey]
    split
    · next heq => rw [← heq, option?_setOption]
    · next hne => exact option?_setOption_of_ne d hne value

theorem header?_setTitle (d : Diagram) (value : String) :
    ({ d with title := some value } : Diagram).header? key =
      if "title" = key then some value else d.header? key := by
  rw [header?, header?]
  by_cases hkey : key = "title"
  · rw [if_pos hkey, if_pos hkey.symm]
  · rw [if_neg hkey, if_neg hkey, if_neg (Ne.symm hkey)]
    rfl

end Diagram

namespace Reader

open Lifeline.Syntax (Content Heading Line NoteHeader Statement)

/-- The value that the row gives the option of a key. -/
def Row.value? (key : String) (r : Row) : Option (List Char) :=
  match r.role with
  | .form (.option other value) => if other = key then some value else none
  | _ => none

theorem value?_eq_some {key : String} {r : Row} {value : List Char} :
    r.value? key = some value ↔ r.role = .form (.option key value) := by
  unfold Row.value?
  split
  · next other text hrole =>
      rw [hrole]
      by_cases hkey : other = key <;> simp [hkey]
  · next hrole =>
      constructor
      · intro h
        cases h
      · intro h
        exact absurd h (hrole key value)

theorem exists_of_rowsFrom {c : Scan} {number i : Nat} {lines : List (List Char)} {r : Row}
    {raw : List Char} (hr : (rowsFrom c number lines)[i]? = some r) (hraw : lines[i]? = some raw) :
    ∃ c' : Scan, r.role = c'.role raw := by
  induction lines generalizing c number i with
  | nil => cases hraw
  | cons first rest ih =>
      cases i with
      | zero =>
          obtain rfl := Option.some.inj hraw
          obtain rfl := Option.some.inj hr
          exact ⟨c, rfl⟩
      | succ i => exact ih hr hraw

theorem exists_of_findSome?_reverse {key : String} {rs : List Row} {value : List Char}
    (h : rs.reverse.findSome? (Row.value? key) = some value) : ∃ before l behind,
      rs = before ++ l :: behind ∧ l.role = .form (.option key value) ∧
      ∀ m ∈ behind, ∀ w, m.role ≠ .form (.option key w) := by
  obtain ⟨behind, l, before, hrs, hl, hnone⟩ := List.findSome?_eq_some_iff.mp h
  refine ⟨before.reverse, l, behind.reverse, ?_, value?_eq_some.mp hl, fun m hm w hw => ?_⟩
  · rw [← List.reverse_reverse rs, hrs]
    simp
  · have := hnone m (List.mem_reverse.mp hm)
    rw [value?_eq_some.mpr hw] at this
    cases this

section
variable {s t : State} {line indent : Nat} {key : String}

/-! ### What leaves the head alone -/

theorem diagram_of_besides (h : t.besides = s.besides) :
    t.diagram = { s.diagram with outline := t.diagram.outline } := by
  have hdiagram := congrArg (fun u : State => { u.diagram with outline := t.diagram.outline }) h
  exact hdiagram

theorem header?_of_besides (h : t.besides = s.besides) (key : String) :
    t.diagram.header? key = s.diagram.header? key := by
  have hhead := congrArg (fun s : State => s.diagram.header? key) h
  exact hhead

theorem header?_ready (s : State) (indent : Nat) (key : String) :
    (s.ready indent).diagram.header? key = s.diagram.header? key := by
  have h := congrArg (fun s : State => s.diagram.header? key) (besides_ready s indent)
  exact h

theorem header?_finish (s : State) (key : String) :
    s.finish.diagram.header? key = s.diagram.header? key := by
  have h := congrArg (fun s : State => s.diagram.header? key) (besides_finish s)
  exact h

theorem header?_joinGroup {ps : List Participant} {id : String}
    (ht : ({ s with diagram := { s.diagram with participants := ps } } : State).joinGroup id =
      .ok t) : t.diagram.header? key = s.diagram.header? key := by
  obtain ⟨rfl, -⟩ | ⟨i, -, -, rfl⟩ := joinGroup_ok ht <;> exact Diagram.header?_congr rfl rfl key

theorem diagram_readMessage (s : State) (statement : Statement) (line : Nat) :
    ∃ ps ms o, (s.readMessage statement line).diagram =
      { s.diagram with participants := ps, messages := ms, outline := o } := by
  obtain ⟨ps, hps⟩ := ensureParticipant_eq s.diagram (String.ofList statement.sender)
    (inferKind statement.sender) line
  obtain ⟨qs, hqs⟩ := ensureParticipant_eq { s.diagram with participants := ps }
    (String.ofList statement.receiver) (inferKind statement.receiver) line
  unfold State.readMessage
  dsimp only
  rw [hps, hqs, diagram_of_besides (besides_append _)]
  obtain ⟨rs, hrs⟩ := addMessage_eq { s.diagram with participants := qs } _
  dsimp only
  rw [hrs]
  exact ⟨_, _, _, rfl⟩

theorem diagram_readContent {c : Content} (ht : s.readContent c indent line = .ok t) :
    ∃ ps ms o, t.diagram =
      { s.diagram with participants := ps, messages := ms, outline := o } := by
  cases c with
  | asyncKeyword => exact absurd ht (State.stop_ne_ok _ _ _)
  | message statement =>
      obtain rfl := Except.ok.inj ht
      exact diagram_readMessage s statement line
  | block kind label =>
      obtain rfl := Except.ok.inj ht
      exact ⟨_, _, _, rfl⟩
  | branch label =>
      obtain ⟨rfl, -⟩ | ⟨b, bs, -, -, -, -, rfl⟩ := readBranch_ok ht <;> exact ⟨_, _, _, rfl⟩
  | note header =>
      obtain rfl := Except.ok.inj ht
      unfold State.readNote
      dsimp only
      split
      · exact ⟨_, _, _, diagram_of_besides (s := { s with hasContent := true })
          (besides_addNote _ _ _ _ _ _)⟩
      · exact ⟨_, _, _, rfl⟩
  | other =>
      obtain rfl := Except.ok.inj ht
      exact ⟨_, _, _, rfl⟩

theorem header?_readContent {c : Content} (ht : s.readContent c indent line = .ok t)
    (key : String) : t.diagram.header? key = s.diagram.header? key := by
  obtain ⟨ps, ms, o, hdiagram⟩ := diagram_readContent ht
  rw [hdiagram]
  exact Diagram.header?_congr rfl rfl key

/-! ### What an option says -/

/-- An option says something under its key alone; the key `chart` says what the document is. -/
theorem header?_readOption {other : String} {value : List Char} (hkey : key ≠ "chart")
    (ht : s.readOption other value = .ok t) : t.diagram.header? key =
      if other = key then some (String.ofList value) else s.diagram.header? key := by
  unfold State.readOption at ht
  dsimp only at ht
  split at ht
  · next hchart =>
      split at ht
      · obtain rfl := Except.ok.inj ht
        rw [if_neg (hchart ▸ Ne.symm hkey)]
      · exact absurd ht (State.stop_ne_ok _ _ _)
  · split at ht
    · exact absurd ht (State.stop_ne_ok _ _ _)
    · split at ht
      · next htitle =>
          obtain rfl := Except.ok.inj ht
          rw [htitle]
          exact Diagram.header?_setTitle s.diagram _
      · next htitle =>
          obtain rfl := Except.ok.inj ht
          exact Diagram.header?_setOption s.diagram htitle _

theorem header?_readForm {r : Row} {form : Line} {text : List Char} (hkey : key ≠ "chart")
    (hrole : r.role = .form form) (ht : s.readForm form text indent line = .ok t) :
    t.diagram.header? key =
      ((r.value? key).map String.ofList).or (s.diagram.header? key) := by
  unfold Row.value?
  rw [hrole]
  cases form with
  | blank =>
      obtain rfl := Except.ok.inj ht
      rfl
  | group h =>
      obtain ⟨-, ⟨i, -, rfl⟩ | ⟨-, rfl⟩⟩ := readGroup_ok ht <;>
        exact Diagram.header?_congr rfl rfl key
  | comment =>
      obtain rfl := Except.ok.inj ht
      rfl
  | hash => exact absurd ht (State.stop_ne_ok _ _ _)
  | «section» h =>
      obtain ⟨sections, hbesides⟩ := besides_readSection ht
      have hhead := congrArg (fun s : State => s.diagram.header? key) hbesides
      exact hhead
  | option other value =>
      rw [header?_readOption hkey ht]
      by_cases hother : other = key <;> simp [hother]
  | declaration decl =>
      obtain ⟨ps, hjoin⟩ := readForm_of_member rfl ht
      exact header?_joinGroup hjoin
  | position id n =>
      obtain ⟨ps, hjoin⟩ := readForm_of_member rfl ht
      exact header?_joinGroup hjoin
  | member id =>
      obtain ⟨ps, hjoin⟩ := readForm_of_member rfl ht
      exact header?_joinGroup hjoin
  | content c =>
      have hclosed := header?_of_besides
        (besides_closeBlocks s indent (Syntax.startsBranch text)) key
      exact (header?_readContent ht key).trans hclosed

/-- A line says what its row says, and nothing else. -/
theorem header?_readLine {raw : List Char} (hkey : key ≠ "chart")
    (ht : s.readLine raw line = .ok t) : t.diagram.header? key =
      ((Row.value? key ⟨line, Syntax.indent raw, s.scan.role raw⟩).map String.ofList).or
        (s.diagram.header? key) := by
  cases hrole : s.scan.role raw with
  | body =>
      obtain ⟨n, -, heq⟩ := readLine_body hrole line
      obtain rfl := Except.ok.inj (heq.symm.trans ht)
      rfl
  | form form =>
      obtain ⟨-, heq⟩ := readLine_form hrole line
      rw [header?_readForm (r := ⟨line, Syntax.indent raw, .form form⟩) hkey rfl (heq ▸ ht),
        header?_ready]

end

end Reader

open Reader

namespace Diagram

variable {d e : Diagram} {text : List Char} {key : String}

/-- A reading that ends well leaves what the last row of each key says, and otherwise what has been
there before. -/
theorem header?_read (h : e.read text = (none, d)) (hkey : key ≠ "chart") : d.header? key =
    (((rows text).reverse.findSome? (Row.value? key)).map String.ofList).or (e.header? key) := by
  obtain ⟨s, hs, rfl⟩ := read_eq_none h
  have hrun := State.readLines_induct
    (P := fun past _ s => s.diagram.header? key =
      ((past.reverse.findSome? (Row.value? key)).map String.ofList).or (e.header? key))
    (fun past line s raw t hpast ht => ?_) [] rfl hs
  · exact (header?_finish s key).trans hrun
  · rw [header?_readLine hkey ht, hpast, List.reverse_append, List.reverse_singleton,
      List.singleton_append, List.findSome?_cons]
    cases Row.value? key ⟨line, Syntax.indent raw, s.scan.role raw⟩ <;> rfl

/-- **Every header counts, and the last one decides.** In a text that is read to its end, a line
`key: value` outside the bodies of notes is an option, unless it holds an arrow or its key is the
word `note`. Unless the key is `chart`, the diagram then has under the key in small letters the
value of the last line that is an option of this key. -/
theorem header_writes {raw key value : List Char} {i : Nat} {r : Row}
    (h : e.read text = (none, d)) (hraw : (Text.lines text)[i]? = some raw)
    (hr : (rows text)[i]? = some r) (hbody : r.role ≠ .body) (hline : Syntax.Writes raw key value)
    (hkey : Syntax.IsKey key) (hnote : Text.folded key ≠ "note".toList)
    (hchart : Unicode.lowercase (String.ofList key) ≠ "chart")
    (harrow : Syntax.hasArrow raw = false) :
    r.role = .form (.option (Unicode.lowercase (String.ofList key)) (Text.trim value)) ∧
      ∃ before l behind v, rows text = before ++ l :: behind ∧
        l.role = .form (.option (Unicode.lowercase (String.ofList key)) v) ∧
        (∀ m ∈ behind, ∀ w,
          m.role ≠ .form (.option (Unicode.lowercase (String.ofList key)) w)) ∧
        d.header? (Unicode.lowercase (String.ofList key)) = some (String.ofList v) := by
  have hrole : r.role =
      .form (.option (Unicode.lowercase (String.ofList key)) (Text.trim value)) := by
    obtain ⟨c, hc⟩ := exists_of_rowsFrom hr hraw
    rw [Scan.role] at hc
    split at hc
    · exact absurd hc hbody
    · rw [hc, Syntax.read_of_writes hline hkey hnote harrow]
  refine ⟨hrole, ?_⟩
  have hread := header?_read h hchart
  cases hlast : (rows text).reverse.findSome?
      (Row.value? (Unicode.lowercase (String.ofList key))) with
  | none =>
      have hnone := List.findSome?_eq_none_iff.mp hlast r
        (List.mem_reverse.mpr (List.mem_of_getElem? hr))
      rw [value?_eq_some.mpr hrole] at hnone
      cases hnone
  | some v =>
      obtain ⟨before, l, behind, hrows, hl, hbehind⟩ := exists_of_findSome?_reverse hlast
      exact ⟨before, l, behind, v, hrows, hl, hbehind, by rw [hread, hlast]; rfl⟩

/-- A document that says something under one key three times, once inside a note. -/
def captioned : List Char :=
  "chart: sequence\nTheme-1: is a: note\n## Back\n  Db\n  THEME-1:  # blue \ntitle:\nDb -> App
note\n  theme-1: red".toList

theorem header_writes_captioned : ∃ d r, empty.read captioned = (none, d) ∧
    (Text.lines captioned)[1]? = some "Theme-1: is a: note".toList ∧
    (rows captioned)[1]? = some r ∧ r.role ≠ .body ∧
    Syntax.Writes "Theme-1: is a: note".toList "Theme-1".toList " is a: note".toList ∧
    Syntax.IsKey "Theme-1".toList ∧ Text.folded "Theme-1".toList ≠ "note".toList ∧
    Unicode.lowercase (String.ofList "Theme-1".toList) ≠ "chart" ∧
    Syntax.hasArrow "Theme-1: is a: note".toList = false ∧
    d.header? "theme-1" = some "# blue" ∧
    r.role = .form (.option (Unicode.lowercase (String.ofList "Theme-1".toList))
      (Text.trim " is a: note".toList)) ∧
    ∃ before l behind v, rows captioned = before ++ l :: behind ∧
      l.role = .form (.option (Unicode.lowercase (String.ofList "Theme-1".toList)) v) ∧
      (∀ m ∈ behind, ∀ w,
        m.role ≠ .form (.option (Unicode.lowercase (String.ofList "Theme-1".toList)) w)) ∧
      (empty.read captioned).2.header? (Unicode.lowercase (String.ofList "Theme-1".toList)) =
        some (String.ofList v) := by
  have htext : captioned = _ := String.toList_ofList
  have h := read_of_fst empty captioned (by rw [htext]; decide +kernel)
  have hraw : (Text.lines captioned)[1]? = some "Theme-1: is a: note".toList := by
    rw [htext]
    decide +kernel
  have hr : (rows captioned)[1]? =
      some ⟨2, 0, .form (.option "theme-1" "is a: note".toList)⟩ := by
    rw [htext]
    decide +kernel
  have hwrites : Syntax.Writes "Theme-1: is a: note".toList "Theme-1".toList
      " is a: note".toList := ⟨[], by simp, by decide⟩
  exact ⟨_, _, h, hraw, hr, by simp, hwrites, by decide +kernel, by decide, by decide +kernel,
    by decide, by rw [htext]; decide +kernel,
    header_writes h hraw hr (by simp) hwrites (by decide +kernel) (by decide) (by decide +kernel)
      (by decide)⟩

/-- A title with an arrow, and an option whose key comes back with the sign of the unit kelvin. -/
def mistaken : List Char := "title: A -> B\ntoken: a\nto\u212aen: b\nA -> B".toList

/-- A line with an arrow is no header, and a key may have the small letters of another one: neither
the title nor the token is what the only lines of these keys say. -/
theorem header_writes_mistaken : ∃ d, empty.read mistaken = (none, d) ∧
    (∀ r ∈ rows mistaken, r.role ≠ .body) ∧
    Text.lines mistaken = ["title: A -> B".toList, "token: a".toList, "to\u212aen: b".toList,
      "A -> B".toList] ∧
    Syntax.Writes "title: A -> B".toList "title".toList " A -> B".toList ∧
    Syntax.Writes "token: a".toList "token".toList " a".toList ∧
    d.header? "title" = none ∧ d.header? "token" = some "b" := by
  have h := read_of_fst empty mistaken (by decide +kernel)
  exact ⟨_, h, by decide +kernel, by decide +kernel, ⟨[], by simp, by decide⟩,
    ⟨[], by simp, by decide⟩, by decide +kernel, by decide +kernel⟩

end Diagram

end Lifeline
