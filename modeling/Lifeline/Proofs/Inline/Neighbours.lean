import Lifeline.Proofs.Inline.Fitting

/-! # Neighbours in broken lines

Two characters that stand side by side in a text and are not blank belong to one word, and so to one
piece of it or to two consecutive pieces (`parted_chunksOf`). The pieces of a word are filled into
lines as words are, with a space between them where there is room for it. A word is cut by the
columns of its characters, but the room is that of the pieces, which can be narrower: only then do
two neighbours come to stand apart (`wrap_neighbours`). -/

namespace Lifeline.Inline

open Lifeline.Unicode (isBlank)
open Lifeline.Text (Additive columns ownColumns)

/-- Two characters in lines, with as much that is visible in front of them as in the text, and what
stands between them. -/
inductive Meet (lines : List (List Span)) (front : List Glyph) (g h : Glyph) : List Char → Prop
  /-- They stand side by side. -/
  | beside {above below : List (List Span)} {line : List Span} {left right : List Glyph}
      (hlines : lines = above ++ line :: below) (hline : glyphsOf line = left ++ g :: h :: right)
      (hfront : visible (glyphsOf above.flatten ++ left) = visible front) : Meet lines front g h []
  /-- A line ends between them. -/
  | across {above below : List (List Span)} {line next : List Span} {left right : List Glyph}
      (hlines : lines = above ++ line :: next :: below) (hline : glyphsOf line = left ++ [g])
      (hnext : glyphsOf next = h :: right)
      (hfront : visible (glyphsOf above.flatten ++ left) = visible front) :
      Meet lines front g h ['\n']
  /-- There is a space between them. -/
  | apart {above below : List (List Span)} {line : List Span} {left right : List Glyph}
      {style : Style} (hlines : lines = above ++ line :: below)
      (hline : glyphsOf line = left ++ g :: ⟨' ', style⟩ :: h :: right)
      (hfront : visible (glyphsOf above.flatten ++ left) = visible front) :
      Meet lines front g h [' ']

/-- A word of the text is cut between two characters, because the first one of the next piece would
have made the piece too wide. -/
structure CutAt (limit : Nat) (text : List Glyph) (g h : Glyph) (piece next : List Glyph) :
    Prop where
  ends : piece.getLast? = some g
  begins : next.head? = some h
  stands : piece ++ next <:+: text
  visible : ∀ k ∈ piece ++ next, isBlank k.char = false
  wide : limit < ownWidth piece + ownColumns h.char

/-- A word is torn between two characters: it is cut there, but the pieces fit on one line together,
with a space between them. -/
def Torn (limit : Nat) (text : List Glyph) (g h : Glyph) : Prop :=
  ∃ piece next, CutAt limit text g h piece next ∧
    glyphColumns piece + 1 + glyphColumns next ≤ limit

/-- Nothing in the text is narrower than its characters, as long as it has no blank in it. -/
def Broad (text : List Glyph) : Prop :=
  ∀ part, part <:+: text → (∀ k ∈ part, isBlank k.char = false) → ownWidth part ≤ glyphColumns part

/-- Two characters in the pieces of a text: in one piece, or at the end of a piece and at the
beginning of the next one. -/
inductive Parted (limit : Nat) (text front : List Glyph) (g h : Glyph) (pieces : List Word) : Prop
  | whole {before after : List Word} {w : Word} {left right : List Glyph}
      (hpieces : pieces = before ++ w :: after) (hw : w.glyphs = left ++ g :: h :: right)
      (hfront : before.flatMap Word.glyphs ++ left = visible front)
  | cut {before after : List Word} {v w : Word} {left right : List Glyph}
      (hpieces : pieces = before ++ v :: w :: after) (hv : v.glyphs = left ++ [g])
      (hw : w.glyphs = h :: right) (hfront : before.flatMap Word.glyphs ++ left = visible front)
      (hcut : CutAt limit text g h v.glyphs w.glyphs)

/-! ### Parts of a list -/

section
variable {α : Type} {parts : List (List α)} {front behind : List α} {x y : α}

theorem flatten_split (h : parts.flatten = front ++ x :: behind) :
    ∃ before after left right, parts = before ++ (left ++ x :: right) :: after ∧
      front = before.flatten ++ left ∧ behind = right ++ after.flatten := by
  rcases List.flatten_eq_append_iff.mp h with ⟨before, rest, rfl, rfl, hrest⟩ |
    ⟨before, left, y, right, after, rfl, rfl, hrest⟩
  · obtain ⟨empty, right, after, rfl, hempty, rfl⟩ := List.flatten_eq_cons_iff.mp hrest.symm
    have hnil : empty.flatten = [] := List.flatten_eq_nil_iff.mpr hempty
    exact ⟨before ++ empty, after, [], right, by simp, by simp [hnil], rfl⟩
  · obtain ⟨rfl, rfl⟩ := List.cons.inj hrest
    exact ⟨before, after, left, right, rfl, rfl, rfl⟩

/-- Two neighbours in a list stand in one of its parts, or at the ends of two parts that follow each
other. -/
theorem flatten_neighbours (hne : [] ∉ parts) (h : parts.flatten = front ++ x :: y :: behind) :
    (∃ before after left right, parts = before ++ (left ++ x :: y :: right) :: after ∧
      front = before.flatten ++ left) ∨
    (∃ before after left right, parts = before ++ (left ++ [x]) :: (y :: right) :: after ∧
      front = before.flatten ++ left) := by
  obtain ⟨before, after, left, right, rfl, rfl, hbehind⟩ := flatten_split h
  cases right with
  | cons z right =>
      obtain ⟨rfl, -⟩ := List.cons.inj hbehind
      exact Or.inl ⟨before, after, left, right, rfl, rfl⟩
  | nil =>
      cases after with
      | nil => simp at hbehind
      | cons next after =>
          have hnext : next ≠ [] := fun hnil => hne (by simp [hnil])
          obtain ⟨z, right, rfl⟩ := List.exists_cons_of_ne_nil hnext
          obtain ⟨rfl, -⟩ := List.cons.inj hbehind
          exact Or.inr ⟨before, after, left, right, rfl, rfl⟩

end

section
variable {limit : Nat} {front behind text : List Glyph} {g h : Glyph}

/-! ### Words -/

theorem exists_wordsAfter (gap : Style) {letters : List Glyph} (hletters : letters ≠ [])
    (text : List Glyph) :
    ∃ more after, wordsAfter gap letters text = ⟨gap, letters.reverse ++ more⟩ :: after := by
  induction text generalizing letters with
  | nil =>
      obtain ⟨l, letters, rfl⟩ := List.exists_cons_of_ne_nil hletters
      exact ⟨[], [], by simp [wordsAfter, Word.close]⟩
  | cons k text ih =>
      rw [wordsAfter]
      split
      · obtain ⟨l, letters, rfl⟩ := List.exists_cons_of_ne_nil hletters
        exact ⟨[], wordsAfter k.style [] text, by simp [Word.close]⟩
      · obtain ⟨more, after, hafter⟩ := ih (List.cons_ne_nil k letters)
        exact ⟨k :: more, after, by simp [hafter]⟩

theorem exists_word (gap : Style) (letters front behind : List Glyph)
    (hg : isBlank g.char = false) (hh : isBlank h.char = false) :
    ∃ before after w left right,
      wordsAfter gap letters (front ++ g :: h :: behind) = before ++ w :: after ∧
      w.glyphs = left ++ g :: h :: right ∧
      before.flatMap Word.glyphs ++ left = letters.reverse ++ visible front := by
  induction front generalizing gap letters with
  | nil =>
      obtain ⟨more, after, hafter⟩ :=
        exists_wordsAfter gap (List.cons_ne_nil h (g :: letters)) behind
      refine ⟨[], after, ⟨gap, (h :: g :: letters).reverse ++ more⟩, letters.reverse, more, ?_, ?_,
        by simp [visible]⟩
      · rw [List.nil_append, wordsAfter, if_neg (by simp [hg]), wordsAfter, if_neg (by simp [hh])]
        exact hafter
      · simp
  | cons k front ih =>
      rw [List.cons_append, wordsAfter]
      cases hblank : isBlank k.char with
      | true =>
          obtain ⟨before, after, w, left, right, hwords, hw, hfront⟩ := ih k.style []
          have hclose : (Word.close gap letters).flatMap Word.glyphs = letters.reverse := by
            cases letters <;> simp [Word.close]
          refine ⟨Word.close gap letters ++ before, after, w, left, right, ?_, hw, ?_⟩
          · simp [hwords]
          · rw [List.flatMap_append, hclose, List.append_assoc, hfront,
              visible_cons_of_blank hblank]
            rfl
      | false =>
          obtain ⟨before, after, w, left, right, hwords, hw, hfront⟩ := ih gap (k :: letters)
          refine ⟨before, after, w, left, right, by simpa using hwords, hw, ?_⟩
          rw [hfront, visible, visible, List.filter_cons_of_pos (by simp [hblank])]
          simp

/-! ### Pieces -/

theorem exists_chunksAfter (limit : Nat) {piece : List Glyph} (hpiece : piece ≠ []) (used : Nat)
    (rest : List Glyph) :
    ∃ more after, chunksAfter limit piece used rest = (piece.reverse ++ more) :: after := by
  induction rest generalizing piece used with
  | nil => exact ⟨[], [], by simp [chunksAfter, hpiece]⟩
  | cons k rest ih =>
      rw [chunksAfter]
      split
      · exact ⟨[], _, by rw [List.append_nil]⟩
      · obtain ⟨more, after, hafter⟩ := ih (List.cons_ne_nil k piece) (used + ownColumns k.char)
        refine ⟨k :: more, after, hafter.trans ?_⟩
        rw [List.reverse_cons, List.append_assoc]
        rfl

/-- A piece of a long word ends where the next character would make it too wide. -/
theorem isChain_chunksAfter (limit : Nat) (piece : List Glyph) (used : Nat) (rest : List Glyph)
    (hused : used = ownWidth piece) :
    (chunksAfter limit piece used rest).IsChain fun p q =>
      ∀ k ∈ q.head?, limit < ownWidth p + ownColumns k.char := by
  induction rest generalizing piece used with
  | nil =>
      rw [chunksAfter]
      split
      · exact .nil
      · exact .singleton _
  | cons k rest ih =>
      rw [chunksAfter]
      have hone : ownColumns k.char = ownWidth [k] := by simp [ownWidth, chars]
      split
      · next hfull =>
          refine List.isChain_cons.mpr ⟨?_, ih [k] _ hone⟩
          obtain ⟨more, after, hafter⟩ :=
            exists_chunksAfter limit (List.cons_ne_nil k []) (ownColumns k.char) rest
          intro next hnext l hl
          obtain rfl : [k] ++ more = next := by
            rw [ownColumns] at hafter
            simpa [hafter] using hnext
          cases hl
          rw [ownWidth_reverse, ← hused]
          exact hfull.1
      · refine ih (k :: piece) _ ?_
        rw [ownWidth_cons, hused, Nat.add_comm]
        rfl

theorem limit_lt_of_chunks {word piece next : List Glyph} {before after : List (List Glyph)}
    (hchunks : chunks limit word = before ++ piece :: next :: after) :
    ∀ k ∈ next.head?, limit < ownWidth piece + ownColumns k.char := by
  rw [chunks] at hchunks
  split at hchunks
  · have hlength := congrArg List.length hchunks
    simp only [List.length_append, List.length_cons, List.length_nil] at hlength
    omega
  · have hchain := isChain_chunksAfter limit [] 0 word rfl
    rw [hchunks, List.isChain_append_cons_cons] at hchain
    exact hchain.2.1

theorem flatMap_pieces (gap : Style) (parts : List (List Glyph)) :
    (parts.map fun part => (⟨gap, part⟩ : Word)).flatMap Word.glyphs = parts.flatten := by
  rw [List.flatMap_map]
  exact List.flatMap_id

theorem flatMap_chunksOf (limit : Nat) (words : List Word) :
    (chunksOf limit words).flatMap Word.glyphs = words.flatMap Word.glyphs := by
  rw [chunksOf, List.flatMap_assoc]
  refine List.flatMap_congr fun w _ => ?_
  rw [flatMap_pieces, flatten_chunks]

theorem cutAt_of_chunks {word left right : List Glyph} {before after : List (List Glyph)}
    (hword : word <:+: text) (hvisible : ∀ k ∈ word, isBlank k.char = false)
    (hchunks : chunks limit word = before ++ (left ++ [g]) :: (h :: right) :: after) :
    CutAt limit text g h (left ++ [g]) (h :: right) := by
  have hstands : (left ++ [g]) ++ (h :: right) <:+: word := by
    refine ⟨before.flatten, after.flatten, ?_⟩
    rw [← flatten_chunks limit word, hchunks]
    simp
  exact ⟨by simp, rfl, hstands.trans hword, fun k hk => hvisible k (hstands.subset hk),
    limit_lt_of_chunks hchunks h rfl⟩

/-- Two neighbours that are not blank stand in one piece, or a word is cut between them. -/
theorem parted_chunksOf (limit : Nat) (htext : text = front ++ g :: h :: behind)
    (hg : isBlank g.char = false) (hh : isBlank h.char = false) :
    Parted limit text front g h (chunksOf limit (wordsOf text)) := by
  obtain ⟨before, after, w, left, right, hwords, hw, hfront⟩ :=
    exists_word .plain [] front behind hg hh
  rw [← htext] at hwords
  have hcut := cut_wordsOf text
  rw [wordsOf, hwords] at hcut
  have hvisible := hcut.visible_glyphs w (by simp)
  obtain ⟨a, b, hlocated, -⟩ := hcut.exists_append
  have hpieces : chunksOf limit (wordsOf text) = chunksOf limit before ++
      (chunks limit w.glyphs).map (fun piece => ⟨w.gap, piece⟩) ++ chunksOf limit after := by
    rw [wordsOf, hwords]
    simp [chunksOf]
  have hshown : ∀ (ps : List (List Glyph)) (left' : List Glyph), left = ps.flatten ++ left' →
      (chunksOf limit before ++ ps.map fun part => (⟨w.gap, part⟩ : Word)).flatMap Word.glyphs ++
        left' = visible front := by
    rintro ps left' rfl
    rw [List.flatMap_append, flatMap_chunksOf, flatMap_pieces, List.append_assoc, hfront]
    rfl
  rcases flatten_neighbours (nil_notMem_chunks hvisible.1) ((flatten_chunks limit _).trans hw) with
    ⟨ps, qs, left', right', hchunks, hleft⟩ | ⟨ps, qs, left', right', hchunks, hleft⟩
  · rw [hchunks, List.map_append, List.map_cons] at hpieces
    exact .whole (w := ⟨w.gap, left' ++ g :: h :: right'⟩) (by simpa using hpieces) rfl
      (hshown ps left' hleft)
  · have hcutat : CutAt limit text g h (left' ++ [g]) (h :: right') :=
      cutAt_of_chunks ⟨a, b, by rw [hlocated, List.append_assoc]⟩ hvisible.2 hchunks
    rw [hchunks, List.map_append, List.map_cons, List.map_cons] at hpieces
    exact .cut (v := ⟨w.gap, left' ++ [g]⟩) (w := ⟨w.gap, h :: right'⟩) (by simpa using hpieces)
      rfl rfl (hshown ps left' hleft) hcutat

/-! ### Lines -/

theorem exists_shown {above : List (List Word)} {line : List Word} {w : Word}
    {left right : List Glyph} (hw : w.glyphs = left ++ right)
    (hvisible : ∀ v ∈ above.flatten ++ line ++ [w], ∀ k ∈ v.glyphs, isBlank k.char = false) :
    ∃ shown, visible (glyphsOf (above.map fun line => spansOf (join line)).flatten ++ shown) =
        (above.flatten ++ line).flatMap Word.glyphs ++ left ∧
      ∀ behind, glyphsOf (spansOf (join (line ++ w :: behind))) =
        shown ++ (right ++ behind.flatMap fun v => ⟨' ', v.gap⟩ :: v.glyphs) := by
  simp only [List.forall_mem_append, List.forall_mem_singleton, hw] at hvisible
  obtain ⟨⟨habove, hline⟩, hleft, -⟩ := hvisible
  obtain ⟨lead, hlead, hjoin⟩ : ∃ lead, visible lead = line.flatMap Word.glyphs ∧
      ∀ behind, join (line ++ w :: behind) =
        lead ++ (w.glyphs ++ behind.flatMap fun v => ⟨' ', v.gap⟩ :: v.glyphs) := by
    cases line with
    | nil => exact ⟨[], rfl, fun behind => rfl⟩
    | cons v line =>
        refine ⟨join (v :: line) ++ [⟨' ', w.gap⟩], ?_, fun behind => by simp [join]⟩
        rw [visible_append, visible_cons_of_blank isBlank_space, visible_join hline]
        exact List.append_nil _
  refine ⟨lead ++ left, ?_, fun behind => by rw [glyphsOf_spansOf, hjoin, hw]; simp⟩
  rw [glyphsOf_flatten_map, visible_append, visible_append, visible_flatMap_join habove, hlead,
    visible_eq_self hleft, List.flatMap_append, List.append_assoc]

theorem add_le_room (front : List Word) (v w : Word) (behind : List Word) :
    glyphColumns v.glyphs + 1 + glyphColumns w.glyphs ≤ room (front ++ v :: w :: behind) := by
  cases front with
  | nil =>
      simp only [List.nil_append, room, List.map_cons, List.sum_cons]
      omega
  | cons u front =>
      simp only [List.cons_append, room, List.map_append, List.map_cons, List.sum_append,
        List.sum_cons]
      omega

/-- Where the pieces of a text are filled into lines, two neighbours stand apart only if their word
is torn. -/
theorem meet_of_parted {lines : List (List Word)} (hcut : Cut none text lines.flatten)
    (hfits : ∀ line ∈ lines, room line ≤ limit ∨ ∃ w, line = [w]) (hnonempty : [] ∉ lines)
    (hparted : Parted limit text front g h lines.flatten) :
    Meet (lines.map fun line => spansOf (join line)) front g h [] ∨
    Meet (lines.map fun line => spansOf (join line)) front g h ['\n'] ∨
    Meet (lines.map fun line => spansOf (join line)) front g h [' '] ∧
      Torn limit text g h := by
  have hvisible : ∀ w ∈ lines.flatten, ∀ k ∈ w.glyphs, isBlank k.char = false :=
    fun w hw => (hcut.visible_glyphs w hw).2
  have hupto : ∀ {before after : List Word} {w : Word}, lines.flatten = before ++ w :: after →
      ∀ u ∈ before ++ [w], ∀ k ∈ u.glyphs, isBlank k.char = false := by
    intro before after w hpieces u hu
    apply hvisible u
    rw [hpieces, List.append_cons]
    exact List.mem_append_left _ hu
  cases hparted with
  | @whole before after w left right hpieces hw hfront =>
      obtain ⟨above, below, l, r, rfl, rfl, -⟩ := flatten_split hpieces
      obtain ⟨shown, hshown, hline⟩ := exists_shown hw (hupto hpieces)
      exact Or.inl (.beside List.map_append (hline r) (hshown.trans hfront))
  | @cut before after v w left right hpieces hv hw hfront hcutat =>
      right
      rcases flatten_neighbours hnonempty hpieces with
        ⟨above, below, l, r, rfl, rfl⟩ | ⟨above, below, l, r, rfl, rfl⟩
      · obtain ⟨shown, hshown, hline⟩ := exists_shown hv (hupto hpieces)
        have hspace := hline (w :: r)
        rw [List.flatMap_cons, hw] at hspace
        refine Or.inr ⟨.apart List.map_append hspace (hshown.trans hfront), v.glyphs, w.glyphs,
          hcutat, ?_⟩
        rcases hfits (l ++ v :: w :: r) (by simp) with hroom | ⟨u, hu⟩
        · exact le_trans (add_le_room l v w r) hroom
        · have hlength := congrArg List.length hu
          simp only [List.length_append, List.length_cons, List.length_nil] at hlength
          omega
      · obtain ⟨shown, hshown, hline⟩ := exists_shown hv (hupto hpieces)
        have hend := hline []
        rw [List.flatMap_nil, List.append_nil] at hend
        have hnext : glyphsOf (spansOf (join (w :: r))) =
            h :: (right ++ r.flatMap fun v => ⟨' ', v.gap⟩ :: v.glyphs) := by
          rw [glyphsOf_spansOf, join, hw]
          rfl
        exact Or.inl (.across List.map_append hend hnext (hshown.trans hfront))

theorem meet_wrap (limit : Nat) {spans : List Span}
    (htext : glyphsOf spans = front ++ g :: h :: behind) (hg : isBlank g.char = false)
    (hh : isBlank h.char = false) :
    Meet (wrap limit spans) front g h [] ∨ Meet (wrap limit spans) front g h ['\n'] ∨
      Meet (wrap limit spans) front g h [' '] ∧ Torn limit (glyphsOf spans) g h := by
  by_cases hkept : limit = 0 ∨ columns (textOf spans) ≤ limit
  · rw [wrap, if_pos hkept]
    exact Or.inl (@Meet.beside _ _ _ _ [] [] spans front behind rfl htext rfl)
  · rw [not_or, not_le] at hkept
    obtain ⟨lines, hcut, hfilled, hwrap⟩ := exists_lines hkept.1 hkept.2
    have hparted := parted_chunksOf limit htext hg hh
    rw [← hfilled.flatten] at hparted
    have hlines : lines ≠ [] := by
      rintro rfl
      cases hparted with
      | whole hpieces _ _ => simp at hpieces
      | cut hpieces _ _ _ _ => simp at hpieces
    rw [hwrap, if_neg hlines]
    exact meet_of_parted hcut hfilled.fits hfilled.nonempty hparted

/-! ### Widths -/

theorem broad_of_additive {spans : List Span} (hadditive : Additive (textOf spans)) :
    Broad (glyphsOf spans) := by
  intro part hpart _
  have hchars : chars part ⊆ textOf spans := by
    rw [textOf_eq_chars]
    exact List.map_subset Glyph.char hpart.subset
  rw [glyphColumns_eq hadditive hchars, hadditive _ hchars]
  exact le_refl _

theorem Broad.not_torn (hbroad : Broad text) : ¬Torn limit text g h := by
  rintro ⟨piece, next, hcut, hfits⟩
  have hpiece : ownWidth piece ≤ glyphColumns piece :=
    hbroad piece ((List.prefix_append _ _).isInfix.trans hcut.stands) fun k hk =>
      hcut.visible k (List.mem_append_left _ hk)
  have hnext : ownWidth next ≤ glyphColumns next :=
    hbroad next ((List.suffix_append _ _).isInfix.trans hcut.stands) fun k hk =>
      hcut.visible k (List.mem_append_right _ hk)
  have hwide := hcut.wide
  obtain ⟨rest, rfl⟩ := List.head?_eq_some_iff.mp hcut.begins
  rw [ownWidth_cons] at hnext
  omega

end

/-- **Breaking a text puts a space into a word only where the word is torn.** Two characters that
stand side by side in a text and are not blank stand side by side in its lines, or a line ends
between them, or their word is torn there and a space comes between them. No word is torn in a text
whose stretches are all as wide as their characters. -/
theorem wrap_neighbours (limit : Nat) {spans : List Span} {front behind : List Glyph} {g h : Glyph}
    (htext : glyphsOf spans = front ++ g :: h :: behind) (hg : isBlank g.char = false)
    (hh : isBlank h.char = false) :
    (Meet (wrap limit spans) front g h [] ∨ Meet (wrap limit spans) front g h ['\n'] ∨
      Meet (wrap limit spans) front g h [' '] ∧ Torn limit (glyphsOf spans) g h) ∧
    (Broad (glyphsOf spans) →
      Meet (wrap limit spans) front g h [] ∨ Meet (wrap limit spans) front g h ['\n']) := by
  have hmeet := meet_wrap limit htext hg hh
  refine ⟨hmeet, fun hbroad => hmeet.imp_right fun hrest => ?_⟩
  exact hrest.resolve_right fun hapart => hbroad.not_torn hapart.2

theorem wrap_neighbours_accented :
    glyphsOf accented = [⟨'a', .bold⟩, ⟨'\u3000', .bold⟩] ++ ⟨'\u6f22', .italic⟩ ::
      ⟨'e', .italic⟩ :: [⟨'\u0301', .italic⟩] ∧
    isBlank '\u6f22' = false ∧ isBlank 'e' = false ∧ Broad (glyphsOf accented) ∧
    (Meet (wrap 1 accented) [⟨'a', .bold⟩, ⟨'\u3000', .bold⟩] ⟨'\u6f22', .italic⟩ ⟨'e', .italic⟩
        [] ∨
      Meet (wrap 1 accented) [⟨'a', .bold⟩, ⟨'\u3000', .bold⟩] ⟨'\u6f22', .italic⟩ ⟨'e', .italic⟩
        ['\n']) := by
  have htext : glyphsOf accented = [⟨'a', .bold⟩, ⟨'\u3000', .bold⟩] ++ ⟨'\u6f22', .italic⟩ ::
      ⟨'e', .italic⟩ :: [⟨'\u0301', .italic⟩] := by decide
  have hhan : isBlank '\u6f22' = false := by decide
  have he : isBlank 'e' = false := by decide
  have hbroad := broad_of_additive (Text.additive_of_place (by decide +kernel) :
    Additive (textOf accented))
  exact ⟨htext, hhan, he, hbroad, (wrap_neighbours 1 htext hhan he).2 hbroad⟩

/-- Three raised thumbs: a skin tone takes columns of its own only if it stands alone. -/
def thumbs : List Span := [⟨"👍🏽👍🏾👍🏿", .plain⟩]

/-- A space comes between two raised thumbs. -/
theorem wrap_neighbours_thumbs :
    glyphsOf thumbs = [⟨'👍', .plain⟩] ++ ⟨'🏽', .plain⟩ :: ⟨'👍', .plain⟩ ::
      styled .plain ['🏾', '👍', '🏿'] ∧
    isBlank '🏽' = false ∧ isBlank '👍' = false ∧
    Meet (wrap 5 thumbs) [⟨'👍', .plain⟩] ⟨'🏽', .plain⟩ ⟨'👍', .plain⟩ [' '] ∧
    ¬(Meet (wrap 5 thumbs) [⟨'👍', .plain⟩] ⟨'🏽', .plain⟩ ⟨'👍', .plain⟩ [] ∨
      Meet (wrap 5 thumbs) [⟨'👍', .plain⟩] ⟨'🏽', .plain⟩ ⟨'👍', .plain⟩ ['\n']) := by
  have hlines : wrap 5 thumbs = [[⟨"👍🏽 👍🏾", .plain⟩], [⟨"👍🏿", .plain⟩]] := by decide +kernel
  have hno : ∀ line ∈ wrap 5 thumbs, ¬[⟨'🏽', .plain⟩, ⟨'👍', .plain⟩] <:+: glyphsOf line ∧
      ¬[⟨'🏽', .plain⟩] <:+ glyphsOf line := by
    rw [hlines]
    decide +kernel
  refine ⟨by decide, by decide, by decide, ?_, ?_⟩
  · exact @Meet.apart _ _ _ _ [] _ _ [⟨'👍', .plain⟩] [⟨'🏾', .plain⟩] .plain hlines (by decide) rfl
  · rintro (h | h)
    · cases h with
      | @beside above below line left right hwrap hline _ =>
          apply (hno line (by rw [hwrap]; simp)).1
          exact ⟨left, right, by rw [hline]; simp⟩
    · cases h with
      | @across above below line next left right hwrap hline _ _ =>
          apply (hno line (by rw [hwrap]; simp)).2
          exact ⟨left, hline.symm⟩

end Lifeline.Inline
