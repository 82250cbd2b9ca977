import Lifeline.Proofs.Text.Line
import Lifeline.Syntax.Indent
import Mathlib.Data.List.DropRight
import Mathlib.Data.List.Forall2
import Mathlib.Order.WellFounded

/-! # The fronts of lines

The spaces and tabs in front of a line are its front; they make its indentation, and what is behind
them says nothing about it (`indent_append`). A text is cut into lines at its line feeds
(`lines_eq`), so rewriting the fronts in a text rewrites those of its lines: where every line keeps
what is behind its front and changes its indentation from `n` to `f n`, the lines do too, for any
`f` that keeps the order of indentations (`Reindents.lines`). -/

namespace Lifeline.Text

open Lifeline.Syntax (indent tabWidth)
open Lifeline.Unicode (isBlank isSpaceOrTab)

/-- The other line has the same text behind its front, and the indentation `f n` in place of `n`. -/
structure Reindented (f : Nat → Nat) (line other : List Char) : Prop where
  indent_eq : indent other = f (indent line)
  behind : other.dropWhile isSpaceOrTab = line.dropWhile isSpaceOrTab

instance (f : Nat → Nat) (line other : List Char) : Decidable (Reindented f line other) :=
  decidable_of_iff
    (indent other = f (indent line) ∧ other.dropWhile isSpaceOrTab = line.dropWhile isSpaceOrTab)
    ⟨fun h => ⟨h.1, h.2⟩, fun h => ⟨h.1, h.2⟩⟩

/-- The other text differs in the fronts alone: between line feeds, indentations `n` become `f n`. -/
def Reindents (f : Nat → Nat) (text other : List Char) : Prop :=
  List.Forall₂ (Reindented f) (text.splitOn '\n') (other.splitOn '\n')

instance (f : Nat → Nat) (text other : List Char) : Decidable (Reindents f text other) :=
  inferInstanceAs (Decidable (List.Forall₂ _ _ _))

/-- The text with the fronts of its lines rewritten. -/
def mapFronts (r : List Char → List Char) (text : List Char) : List Char :=
  ['\n'].intercalate ((text.splitOn '\n').map fun line =>
    r (line.takeWhile isSpaceOrTab) ++ line.dropWhile isSpaceOrTab)

/-- A front with spaces in place of its tabs. -/
def expandTabs (front : List Char) : List Char :=
  front.flatMap fun c => if c = '\t' then List.replicate tabWidth ' ' else [c]

/-- A front written twice. -/
def doubled (front : List Char) : List Char := front ++ front

/-! ### Fronts -/

section
variable {front line other : List Char} {f : Nat → Nat}

theorem isSpaceOrTab_iff {c : Char} : isSpaceOrTab c = true ↔ c = ' ' ∨ c = '\t' := by
  simp [isSpaceOrTab]

theorem indent_append (h : ∀ c ∈ front, isSpaceOrTab c = true) (line : List Char) :
    indent (front ++ line) = indent front + indent line := by
  induction front with
  | nil => simp [indent]
  | cons c front ih =>
      obtain ⟨hc, hfront⟩ := List.forall_mem_cons.mp h
      rw [List.cons_append, indent, indent, ih hfront]
      rcases isSpaceOrTab_iff.mp hc with rfl | rfl
      · simp only [if_true]
        omega
      · simp only [Char.reduceEq, if_true, if_false]
        omega

theorem indent_cons_of_not {c : Char} (h : isSpaceOrTab c = false) (line : List Char) :
    indent (c :: line) = 0 := by
  have hnot : ¬(c = ' ' ∨ c = '\t') := by rw [← isSpaceOrTab_iff, h]; exact Bool.false_ne_true
  rw [indent, if_neg fun hc => hnot (.inl hc), if_neg fun hc => hnot (.inr hc)]

theorem indent_dropWhile (line : List Char) : indent (line.dropWhile isSpaceOrTab) = 0 := by
  have hhead := List.head?_dropWhile_not isSpaceOrTab line
  cases hline : line.dropWhile isSpaceOrTab with
  | nil => rfl
  | cons c rest =>
      rw [hline] at hhead
      exact indent_cons_of_not (by simpa using hhead) rest

theorem indent_takeWhile (line : List Char) :
    indent (line.takeWhile isSpaceOrTab) = indent line := by
  have hfront : ∀ c ∈ line.takeWhile isSpaceOrTab, isSpaceOrTab c = true :=
    fun c hc => List.mem_takeWhile_imp hc
  have happend := indent_append hfront (line.dropWhile isSpaceOrTab)
  rw [List.takeWhile_append_dropWhile, indent_dropWhile] at happend
  exact happend.symm

theorem trimStart_dropWhile (line : List Char) :
    trimStart (line.dropWhile isSpaceOrTab) = trimStart line := by
  induction line with
  | nil => rfl
  | cons c line ih =>
      cases hc : isSpaceOrTab c with
      | false => rw [List.dropWhile_cons_of_neg (by simp [hc])]
      | true =>
          rw [List.dropWhile_cons_of_pos hc, ih, trimStart, trimStart,
            List.dropWhile_cons_of_pos (Unicode.isBlank_of_isSpaceOrTab hc)]

theorem Reindented.trim (h : Reindented f line other) : trim other = trim line := by
  rw [Text.trim, ← trimStart_dropWhile, h.behind, trimStart_dropWhile]
  rfl

/-- Only a line without a character has no indentation and nothing behind its front. -/
theorem eq_nil_iff (line : List Char) :
    line = [] ↔ indent line = 0 ∧ line.dropWhile isSpaceOrTab = [] := by
  constructor
  · rintro rfl
    exact ⟨rfl, rfl⟩
  · rintro ⟨hindent, hbehind⟩
    cases line with
    | nil => rfl
    | cons c line =>
        have hc := List.dropWhile_eq_nil_iff.mp hbehind c List.mem_cons_self
        rcases isSpaceOrTab_iff.mp hc with rfl | rfl
        · rw [Syntax.indent_space] at hindent
          omega
        · rw [Syntax.indent_tab, tabWidth] at hindent
          omega

theorem Reindented.eq_nil_iff (hf : StrictMono f) (h0 : f 0 = 0) (h : Reindented f line other) :
    other = [] ↔ line = [] := by
  have hzero : f (indent line) = 0 ↔ indent line = 0 := by
    constructor
    · intro hline
      have hle := hf.le_apply (x := indent line)
      omega
    · intro hline
      rw [hline, h0]
  rw [Text.eq_nil_iff other, Text.eq_nil_iff line, h.indent_eq, h.behind, hzero]

end

/-! ### Lines -/

section
variable {f : Nat → Nat} {line other text : List Char}

/-- The lines of a text, from the pieces between its line feeds. -/
def ofPieces : List (List Char) → List (List Char)
  | [] => []
  | [last] => if last.isEmpty then [] else [last]
  | piece :: next :: rest => closeLine piece.reverse :: ofPieces (next :: rest)

theorem linesAfter_eq (before text : List Char) :
    linesAfter before text = ofPieces (text.splitOnPPrepend (· == '\n') before) := by
  induction text generalizing before with
  | nil => simp [linesAfter, ofPieces]
  | cons c rest ih =>
      by_cases hc : c = '\n'
      · obtain ⟨piece, pieces, hpieces⟩ := List.exists_cons_of_ne_nil
          (List.splitOn_ne_nil '\n' rest)
        rw [linesAfter, if_pos hc, ih, List.splitOnPPrepend_cons_pos (by simpa using hc),
          ← List.splitOnP_eq_splitOnPPrepend]
        rw [List.splitOn_eq_splitOnP] at hpieces
        rw [hpieces, ofPieces, List.reverse_reverse]
      · rw [linesAfter, if_neg hc, ih, List.splitOnPPrepend_cons_neg (by simpa using hc)]

theorem lines_eq (text : List Char) : lines text = ofPieces (text.splitOn '\n') := by
  rw [lines, linesAfter_eq, List.splitOn_eq_splitOnP, List.splitOnP_eq_splitOnPPrepend]

theorem closeLine_reverse_cons (c : Char) (line : List Char) : closeLine (c :: line).reverse =
    if line = [] ∧ c = '\r' then [] else c :: closeLine line.reverse := by
  rw [List.reverse_cons]
  rcases List.eq_nil_or_concat line with rfl | ⟨init, d, rfl⟩
  · by_cases hc : c = '\r' <;> simp [closeLine, hc]
  · rw [if_neg (by simp), List.concat_eq_append, List.reverse_append]
    by_cases hd : d = '\r' <;> simp [closeLine, hd]

theorem dropWhile_closeLine (line : List Char) :
    (closeLine line.reverse).dropWhile isSpaceOrTab =
      closeLine (line.dropWhile isSpaceOrTab).reverse := by
  induction line with
  | nil => rfl
  | cons c line ih =>
      cases hc : isSpaceOrTab c with
      | true =>
          have hne : c ≠ '\r' := by rcases isSpaceOrTab_iff.mp hc with rfl | rfl <;> decide
          rw [closeLine_reverse_cons, if_neg fun h => hne h.2, List.dropWhile_cons_of_pos hc, ih,
            List.dropWhile_cons_of_pos hc]
      | false =>
          rw [List.dropWhile_cons_of_neg (by simp [hc]), closeLine_reverse_cons]
          split
          · rfl
          · rw [List.dropWhile_cons_of_neg (by simp [hc])]

theorem indent_closeLine (line : List Char) : indent (closeLine line.reverse) = indent line := by
  induction line with
  | nil => rfl
  | cons c line ih =>
      rw [closeLine_reverse_cons]
      split
      · next h => rw [h.1, h.2]; rfl
      · rw [indent, indent, ih]

theorem Reindented.closeLine (h : Reindented f line other) :
    Reindented f (closeLine line.reverse) (closeLine other.reverse) := by
  refine ⟨?_, ?_⟩
  · rw [indent_closeLine, indent_closeLine, h.indent_eq]
  · rw [dropWhile_closeLine, dropWhile_closeLine, h.behind]

theorem forall₂_ofPieces (hf : StrictMono f) (h0 : f 0 = 0) {ps qs : List (List Char)}
    (h : List.Forall₂ (Reindented f) ps qs) :
    List.Forall₂ (Reindented f) (ofPieces ps) (ofPieces qs) := by
  induction h with
  | nil => exact .nil
  | @cons p q ps qs hpq hrest ih =>
      cases hrest with
      | nil =>
          have hempty : q.isEmpty = p.isEmpty := by
            rw [Bool.eq_iff_iff, List.isEmpty_iff, List.isEmpty_iff]
            exact hpq.eq_nil_iff hf h0
          rw [ofPieces, ofPieces, hempty]
          split
          · exact .nil
          · exact .cons hpq .nil
      | cons hnext hrest => exact .cons hpq.closeLine ih

/-- Where the fronts in a text are rewritten, so are those of its lines. -/
theorem Reindents.lines (hf : StrictMono f) (h0 : f 0 = 0) (h : Reindents f text other) :
    List.Forall₂ (Reindented f) (lines text) (lines other) := by
  rw [lines_eq, lines_eq]
  exact forall₂_ofPieces hf h0 h

/-! ### Rewriting fronts -/

theorem not_mem_of_mem_splitOn (h : line ∈ text.splitOn '\n') : '\n' ∉ line := by
  rw [List.splitOn_eq_splitOnP, List.splitOnP_eq_splitOnPPrepend] at h
  suffices hall : ∀ before : List Char, '\n' ∉ before →
      line ∈ text.splitOnPPrepend (· == '\n') before → '\n' ∉ line from hall [] (by simp) h
  clear h
  induction text with
  | nil =>
      intro before hbefore hline
      rw [List.splitOnPPrepend_nil, List.mem_singleton] at hline
      rwa [hline, List.mem_reverse]
  | cons c text ih =>
      intro before hbefore hline
      by_cases hc : c = '\n'
      · rw [List.splitOnPPrepend_cons_pos (by simpa using hc), List.mem_cons,
          List.splitOnP_eq_splitOnPPrepend] at hline
        rcases hline with rfl | hline
        · rwa [List.mem_reverse]
        · exact ih [] (by simp) hline
      · rw [List.splitOnPPrepend_cons_neg (by simpa using hc)] at hline
        refine ih (c :: before) ?_ hline
        rw [List.mem_cons, not_or]
        exact ⟨Ne.symm hc, hbefore⟩

/-- Where a front of indentation `n` is rewritten into one of indentation `f n`, so is the text. -/
theorem reindents_mapFronts {r : List Char → List Char}
    (hr : ∀ front, (∀ c ∈ front, isSpaceOrTab c = true) →
      (∀ c ∈ r front, isSpaceOrTab c = true) ∧ indent (r front) = f (indent front))
    (text : List Char) : Reindents f text (mapFronts r text) := by
  have hfront : ∀ line : List Char, ∀ c ∈ line.takeWhile isSpaceOrTab, isSpaceOrTab c = true :=
    fun line c hc => List.mem_takeWhile_imp hc
  unfold Reindents mapFronts
  rw [List.splitOn_intercalate '\n' ?_ (by simp [List.splitOn_ne_nil])]
  · rw [List.forall₂_map_right_iff, List.forall₂_same]
    intro line hline
    obtain ⟨hspaces, hindent⟩ := hr _ (hfront line)
    refine ⟨?_, ?_⟩
    · rw [indent_append hspaces, hindent, indent_takeWhile, indent_dropWhile, Nat.add_zero]
    · rw [List.dropWhile_append_of_pos hspaces, List.dropWhile_idempotent]
  · intro piece hpiece
    obtain ⟨line, hline, rfl⟩ := List.mem_map.mp hpiece
    rw [List.mem_append, not_or]
    refine ⟨fun hmem => ?_, fun hmem => ?_⟩
    · have hnot := (hr _ (hfront line)).1 _ hmem
      exact absurd hnot (by decide)
    · exact not_mem_of_mem_splitOn hline ((List.dropWhile_sublist _).subset hmem)

theorem reindents_expandTabs (text : List Char) : Reindents id text (mapFronts expandTabs text) := by
  refine reindents_mapFronts (fun front hfront => ?_) text
  induction front with
  | nil => simp [expandTabs, indent]
  | cons c front ih =>
      obtain ⟨hc, hfront⟩ := List.forall_mem_cons.mp hfront
      obtain ⟨hspaces, hindent⟩ := ih hfront
      have hcons : expandTabs (c :: front) =
          (if c = '\t' then List.replicate tabWidth ' ' else [c]) ++ expandTabs front :=
        List.flatMap_cons
      have hfirst : ∀ d ∈ if c = '\t' then List.replicate tabWidth ' ' else [c],
          isSpaceOrTab d = true := by
        intro d hd
        split at hd
        · rw [List.eq_of_mem_replicate hd]
          rfl
        · rw [List.mem_singleton.mp hd]
          exact hc
      refine ⟨fun d hd => ?_, ?_⟩
      · rw [hcons] at hd
        exact (List.mem_append.mp hd).elim (hfirst d) (hspaces d)
      · rw [hcons, indent_append hfirst, hindent]
        rcases isSpaceOrTab_iff.mp hc with rfl | rfl
        · exact Nat.add_comm _ _
        · exact Nat.add_comm _ _

theorem reindents_doubled (text : List Char) :
    Reindents (2 * ·) text (mapFronts doubled text) := by
  refine reindents_mapFronts (fun front hfront => ⟨fun c hc => ?_, ?_⟩) text
  · exact (List.mem_append.mp hc).elim (hfront c) (hfront c)
  · rw [doubled, indent_append hfront]
    omega

end

end Lifeline.Text
