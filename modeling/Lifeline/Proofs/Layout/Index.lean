import Lifeline.Proofs.Diagram.Ownership
import Lifeline.Proofs.Layout.Activity
import Lifeline.Proofs.Layout.Stacks
import Mathlib.Order.Bounds.Basic

/-! # The index of visible steps

A visible step is looked up by its row or by its place in the timeline. The places increase from
row to row, so the three searches for a place find what they are meant to find
(`Visible.row?_eq_some_iff`, `Visible.firstFrom?_eq_some_iff`, `Visible.lastBefore?_eq_some_iff`).
The rows of a message are those of its visible steps up to the call of the next message
(`Visible.mem_ownRows_iff`): its call is the first of its steps, so they come in the order of the
messages, and a message is left without rows only if its section is collapsed.

`Diagram.index_after` says so of a diagram with any history. -/

namespace Lifeline

namespace Layout.Visible

/-! ### Searches -/

section
variable {w : Visible} {place row : Nat}

theorem firstFrom?_eq_some_iff : w.firstFrom? place = some row ↔
    IsLeast {r | ∃ p, w.places[r]? = some p ∧ place ≤ p} row := by
  unfold firstFrom?
  rw [List.findIdx?_eq_some_iff_getElem]
  constructor
  · rintro ⟨hlt, hat, hbefore⟩
    refine ⟨⟨_, List.getElem?_eq_getElem hlt, of_decide_eq_true hat⟩, ?_⟩
    rintro r ⟨p, hp, hle⟩
    obtain ⟨hr, rfl⟩ := List.getElem?_eq_some_iff.mp hp
    by_contra hgt
    exact hbefore r (Nat.not_le.mp hgt) (decide_eq_true hle)
  · rintro ⟨⟨p, hp, hle⟩, hleast⟩
    obtain ⟨hlt, rfl⟩ := List.getElem?_eq_some_iff.mp hp
    refine ⟨hlt, decide_eq_true hle, fun r hr hat => ?_⟩
    have hrow := hleast ⟨_, List.getElem?_eq_getElem (hr.trans hlt), of_decide_eq_true hat⟩
    omega

variable (hw : w.places.Pairwise (· < ·))
include hw

theorem row?_eq_some_iff : w.row? place = some row ↔ w.places[row]? = some place := by
  constructor
  · intro h
    obtain ⟨hlt, hat, -⟩ := List.findIdx?_eq_some_iff_getElem.mp h
    rw [List.getElem?_eq_getElem hlt, beq_iff_eq.mp hat]
  · exact row?_of_places hw

/-- The last row before a place is the greatest of these rows. -/
theorem lastBefore?_eq_some_iff : w.lastBefore? place = some row ↔
    IsGreatest {r | ∃ p, w.places[r]? = some p ∧ p < place} row := by
  have habove : ∀ r, (∃ p, w.places[r]? = some p ∧ p < place) ↔ r < w.rowsAbove place := by
    intro r
    constructor
    · rintro ⟨p, hp, hlt⟩
      rw [getElem?_places] at hp
      obtain ⟨e, he, rfl⟩ := Option.map_eq_some_iff.mp hp
      exact (lt_rowsAbove_iff hw he).mpr hlt
    · intro hr
      have he := List.getElem?_eq_getElem (hr.trans_le (rowsAbove_le w place))
      refine ⟨_, ?_, (lt_rowsAbove_iff hw he).mp hr⟩
      rw [getElem?_places, he]
      rfl
  have hanswer : w.lastBefore? place = some row ↔ w.rowsAbove place = row + 1 := by
    constructor
    · exact rowsAbove_of_lastBefore?
    · intro h
      rw [rowsAbove_eq] at h
      unfold lastBefore?
      rw [h]
  rw [hanswer, IsGreatest, upperBounds]
  simp only [Set.mem_ofPred_eq, habove]
  constructor
  · intro h
    exact ⟨by omega, fun r hr => by omega⟩
  · rintro ⟨hrow, hgreatest⟩
    by_contra hne
    have hnext : row + 1 < w.rowsAbove place := by omega
    have hle := hgreatest hnext
    omega

end

/-- The index finds the row of every place, and the rows next to it. -/
structure Searches (w : Visible) : Prop where
  sorted : w.places.Pairwise (· < ·)
  row : ∀ place row, w.row? place = some row ↔ w.places[row]? = some place
  first : ∀ place row, w.firstFrom? place = some row ↔
    IsLeast {r | ∃ p, w.places[r]? = some p ∧ place ≤ p} row
  last : ∀ place row, w.lastBefore? place = some row ↔
    IsGreatest {r | ∃ p, w.places[r]? = some p ∧ p < place} row

theorem searches_of (d : Diagram) (v : View) : (of d v).Searches where
  sorted := sorted_places d v
  row _ _ := row?_eq_some_iff (sorted_places d v)
  first _ _ := firstFrom?_eq_some_iff
  last _ _ := lastBefore?_eq_some_iff (sorted_places d v)

/-! ### Rows of messages -/

section
variable {d : Diagram} {v : View} {m call row : Nat}

theorem callPlace?_eq_some_iff (h : d.Registered) : (of d v).callPlace? m = some call ↔
    ∃ msg, d.messages[m]? = some msg ∧ (Timeline.steps d.messages)[call]? = some msg.call := by
  constructor
  · intro hcall
    obtain ⟨s, hs, hkind, rfl⟩ := callPlace?_spec hcall
    obtain ⟨msg, hmsg, rfl | ⟨-, rfl⟩⟩ :=
      Timeline.exists_message_of_mem_steps (List.mem_of_getElem? hs)
    · obtain ⟨i, hi⟩ := List.getElem?_of_mem hmsg
      obtain rfl := h.getElem?_index hi
      exact ⟨msg, hi, hs⟩
    · cases hkind
  · rintro ⟨msg, hmsg, hstep⟩
    have hlt := (List.getElem?_eq_some_iff.mp hmsg).1
    obtain ⟨first, hfirst⟩ := exists_callPlace? (v := v) h hlt
    obtain ⟨s, hs, hkind, hmessage⟩ := callPlace?_spec hfirst
    have hindex : (d.messages.map Message.index).Nodup := h.index ▸ List.nodup_range
    rw [hfirst, Timeline.place_unique hindex hs hstep (beq_iff_eq.mp hkind)
      (hmessage.trans (h.getElem?_index hmsg).symm)]

/-- A message owns the rows of its visible steps from its call on, up to the call of the next
message. -/
theorem mem_ownRows_iff (h : d.Registered) : row ∈ (of d v).ownRows m ↔
    ∃ place s call, (of d v).rows[row]? = some (place, s) ∧ s.message = m ∧
      (of d v).callPlace? m = some call ∧ call ≤ place ∧
      ∀ next ∈ (of d v).callPlace? (m + 1), place < next := by
  rw [mem_ownRows]
  constructor
  · rintro ⟨place, s, hrow, rfl, hnext⟩
    obtain ⟨-, call, hcall, hle⟩ := exists_callPlace?_le (v := v) h (step_of_row hrow)
    exact ⟨place, s, call, hrow, rfl, hcall, hle, hnext⟩
  · rintro ⟨place, s, call, hrow, hm, -, -, hnext⟩
    exact ⟨place, s, hrow, hm, hnext⟩

theorem isHidden_eq_false_iff (h : d.Divided) (hm : m < d.messages.length) :
    isHidden d v m = false ↔ ∀ i, d.Owns i m → v.hidesSection i = false := by
  simp only [h.owns_iff_sectionOf? hm]
  unfold isHidden
  cases d.sectionOf? m with
  | none => simp
  | some i => simp

end

/-- The rows of a message: they are those of its visible steps from its call on that come before
the next call, and there are some unless the owner of the message is collapsed. -/
structure Owned (d : Diagram) (v : View) (m : Nat) : Prop where
  call : ∃ call msg, (of d v).callPlace? m = some call ∧ d.messages[m]? = some msg ∧
    (of d v).steps[call]? = some msg.call
  mem : ∀ row, row ∈ (of d v).ownRows m ↔
    ∃ place s call, (of d v).rows[row]? = some (place, s) ∧ s.message = m ∧
      (of d v).callPlace? m = some call ∧ call ≤ place ∧
      ∀ next ∈ (of d v).callPlace? (m + 1), place < next
  sorted : ((of d v).ownRows m).Pairwise (· < ·)
  shown : (of d v).ownRows m ≠ [] ↔ ∀ i, d.Owns i m → v.hidesSection i = false

theorem owned_of {d : Diagram} (h : d.Registered) (hdivided : d.Divided) (v : View) {m : Nat}
    (hm : m < d.messages.length) : Owned d v m where
  call := by
    obtain ⟨call, hcall⟩ := exists_callPlace? (v := v) h hm
    obtain ⟨msg, hmsg, hstep⟩ := (callPlace?_eq_some_iff h).mp hcall
    exact ⟨call, msg, hcall, hmsg, hstep⟩
  mem _ := mem_ownRows_iff h
  sorted := sorted_ownRows _ m
  shown := by
    rw [← isHidden_eq_false_iff hdivided hm, ← exists_mem_ownRows h hm]
    exact ⟨List.exists_mem_of_ne_nil _, fun ⟨_, hrow⟩ => List.ne_nil_of_mem hrow⟩

end Layout.Visible

open Layout

/-- **The index of visible steps is consistent.** Behind any operations, and under any view, the
places of the visible steps increase; the row of a place, the first row from a place on and the last
row before a place are found exactly if there are such rows. Every message has its call among the
steps, and it owns the rows of its visible steps from its call on, up to the call of the next
message or to the end, in increasing order. There are such rows exactly if no collapsed section owns
the message, and the rows of a message stand in front of those of all later messages. -/
theorem Diagram.index_after (ops : List Operation) (v : View) :
    (Visible.of (after ops) v).Searches ∧
    (∀ m < (after ops).messages.length, Visible.Owned (after ops) v m) ∧
    (∀ m, (after ops).messages.length ≤ m → (Visible.of (after ops) v).callPlace? m = none) ∧
    ∀ m m', m < m' → ∀ row ∈ (Visible.of (after ops) v).ownRows m,
      ∀ row' ∈ (Visible.of (after ops) v).ownRows m', row < row' := by
  have h := (sound_after ops).registered
  refine ⟨Visible.searches_of _ v, ?_, ?_, ?_⟩
  · intro m hm
    exact Visible.owned_of h (divided_after ops) v hm
  · intro m hm
    cases hcall : (Visible.of (after ops) v).callPlace? m with
    | none => rfl
    | some call =>
        obtain ⟨msg, hmsg, -⟩ := (Visible.callPlace?_eq_some_iff h).mp hcall
        exact absurd (List.getElem?_eq_some_iff.mp hmsg).1 (Nat.not_lt.mpr hm)
  · intro m m' hlt row hrow row' hrow'
    exact Visible.ownRows_lt h hlt hrow hrow'

/-- Two calls that return late, behind the steps of a hidden message and of a shown one; a reading
that stops; and a message by hand. -/
def interleaved : List Operation :=
  [.read ("A -> B: ask <- answer\nB -> C: go <- gone\n== Hidden ==\nC -> C: think <- thought\n" ++
      "== Shown ==\nC -> D: back <- done\nasync A -> B").toList,
    .addTopMessage ⟨0, "B", "A", "more", some "thanks", 0, false⟩]

theorem Diagram.index_after_interleaved :
    (Visible.of (after interleaved) ⟨[0], [], true⟩).places = [0, 1, 4, 5, 6, 7, 8, 9] ∧
    (List.range 5).map (Visible.of (after interleaved) ⟨[0], [], true⟩).ownRows =
      [[0], [1], [], [2, 3], [5, 6]] ∧
    (Visible.of (after interleaved) ⟨[0], [], true⟩).Searches ∧
    2 < (after interleaved).messages.length ∧
    Visible.Owned (after interleaved) ⟨[0], [], true⟩ 2 ∧
    (after interleaved).messages.length ≤ 5 ∧
    (Visible.of (after interleaved) ⟨[0], [], true⟩).callPlace? 5 = none ∧
    (3 : Nat) < 4 ∧ 3 ∈ (Visible.of (after interleaved) ⟨[0], [], true⟩).ownRows 3 ∧
    5 ∈ (Visible.of (after interleaved) ⟨[0], [], true⟩).ownRows 4 ∧ (3 : Nat) < 5 := by
  obtain ⟨hsearches, howned, hbeyond, hordered⟩ := index_after interleaved ⟨[0], [], true⟩
  have hvalues :
      (Visible.of (after interleaved) ⟨[0], [], true⟩).places = [0, 1, 4, 5, 6, 7, 8, 9] ∧
      (List.range 5).map (Visible.of (after interleaved) ⟨[0], [], true⟩).ownRows =
        [[0], [1], [], [2, 3], [5, 6]] ∧
      2 < (after interleaved).messages.length ∧ (after interleaved).messages.length ≤ 5 ∧
      3 ∈ (Visible.of (after interleaved) ⟨[0], [], true⟩).ownRows 3 ∧
      5 ∈ (Visible.of (after interleaved) ⟨[0], [], true⟩).ownRows 4 := by
    unfold interleaved
    rw [String.toList_append, String.toList_ofList, String.toList_ofList]
    decide +kernel
  obtain ⟨hplaces, hrows, hlt, hle, hrow, hrow'⟩ := hvalues
  exact ⟨hplaces, hrows, hsearches, hlt, howned 2 hlt, hle, hbeyond 5 hle, by decide, hrow, hrow',
    hordered 3 4 (by decide) 3 hrow 5 hrow'⟩

end Lifeline
