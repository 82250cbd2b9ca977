import Lifeline.Layout.Visible
import Mathlib.Data.List.Basic

/-! # Rows and places

The visible steps stand in the order of the timeline, so their places increase from row to row
(`sorted_places`), and every question about rows is answered by a row that exists. -/

namespace Lifeline.Layout.Visible

variable {w : Visible} {place row message : Nat} {s : Step} {o : Outline}

/-! ### Answers are rows -/

theorem length_places (w : Visible) : w.places.length = w.count := by
  simp [places, count]

theorem getElem?_places (w : Visible) (row : Nat) :
    w.places[row]? = (w.rows[row]?).map Prod.fst := by
  rw [places, List.getElem?_map]

theorem lt_count_of_firstFrom? (h : w.firstFrom? place = some row) : row < w.count := by
  rw [← length_places]
  exact (List.findIdx?_eq_some_iff_findIdx_eq.mp h).1

theorem lt_count_of_row? (h : w.row? place = some row) : row < w.count := by
  rw [← length_places]
  exact (List.findIdx?_eq_some_iff_findIdx_eq.mp h).1

theorem lt_count_of_lastBefore? (h : w.lastBefore? place = some row) : row < w.count := by
  have hle : w.places.countP (· < place) ≤ w.count := by
    rw [← length_places]
    exact List.countP_le_length
  unfold lastBefore? at h
  split at h
  · simp at h
  · next n hn =>
      obtain rfl := Option.some.inj h
      omega

/-- A message owns a row of one of its steps, in front of the call of the next message. -/
theorem mem_ownRows : row ∈ w.ownRows message ↔ ∃ place s, w.rows[row]? = some (place, s) ∧
    s.message = message ∧ ∀ next ∈ w.callPlace? (message + 1), place < next := by
  unfold ownRows
  dsimp only
  rw [List.mem_filterMap]
  constructor
  · rintro ⟨⟨⟨place, s⟩, r⟩, hmem, hif⟩
    split at hif
    · next hcond =>
        obtain rfl := Option.some.inj hif
        refine ⟨place, s, List.mem_zipIdx_iff_getElem?.mp hmem, hcond.1, ?_⟩
        simpa [Option.all_eq_true] using hcond.2
    · simp at hif
  · rintro ⟨place, s, hrow, hmessage, hnext⟩
    refine ⟨((place, s), row), List.mem_zipIdx_iff_getElem?.mpr hrow, ?_⟩
    rw [if_pos]
    exact ⟨hmessage, by simpa [Option.all_eq_true] using hnext⟩

theorem lt_count_of_mem_ownRows (h : row ∈ w.ownRows message) : row < w.count := by
  obtain ⟨place, s, hrow, -⟩ := mem_ownRows.mp h
  exact (List.getElem?_eq_some_iff.mp hrow).1

theorem lt_count_of_mem_covered (h : row ∈ w.covered o) : row < w.count := by
  obtain ⟨message, -, hrow⟩ := List.mem_flatMap.mp h
  exact lt_count_of_mem_ownRows hrow

theorem mem_covered_of_firstRow? (h : w.firstRow? o = some row) : row ∈ w.covered o :=
  List.min?_mem h

theorem mem_covered_of_lastRow? (h : w.lastRow? o = some row) : row ∈ w.covered o :=
  List.max?_mem h

theorem lt_count_of_firstRow? (h : w.firstRow? o = some row) : row < w.count :=
  lt_count_of_mem_covered (mem_covered_of_firstRow? h)

theorem lt_count_of_lastRow? (h : w.lastRow? o = some row) : row < w.count :=
  lt_count_of_mem_covered (mem_covered_of_lastRow? h)

theorem firstRow?_eq_some_iff : w.firstRow? o = some row ↔
    row ∈ w.covered o ∧ ∀ r ∈ w.covered o, row ≤ r := List.min?_eq_some_iff

theorem lastRow?_eq_some_iff : w.lastRow? o = some row ↔
    row ∈ w.covered o ∧ ∀ r ∈ w.covered o, r ≤ row := List.max?_eq_some_iff

/-! ### The rows of a view -/

section
variable {d : Diagram} {v : View}

/-- The step is drawn: its message belongs to no collapsed section, and it is not silent. -/
def shows (d : Diagram) (v : View) (s : Step) : Bool :=
  !(((List.range d.messages.length).map (isHidden d v)).getD s.message false || isSilent s)

theorem rows_of (d : Diagram) (v : View) : (of d v).rows =
    ((Timeline.steps d.messages).zipIdx.filter fun e => shows d v e.1).map Prod.swap := by
  show (Timeline.steps d.messages).zipIdx.filterMap _ = _
  generalize (Timeline.steps d.messages).zipIdx = es
  induction es with
  | nil => rfl
  | cons e es ih =>
      cases h : ((List.range d.messages.length).map (isHidden d v)).getD e.1.message false ||
          isSilent e.1 with
      | true =>
          rw [List.filterMap_cons_none (by simp only [h, ↓reduceIte]), ih,
            List.filter_cons_of_neg (by rw [shows, h]; decide)]
      | false =>
          rw [List.filterMap_cons_some (by simp only [h]; rfl), ih,
            List.filter_cons_of_pos (by rw [shows, h]; decide)]
          rfl

theorem count_of_nil (h : d.messages = []) (v : View) : (of d v).count = 0 := by
  rw [count, rows_of, h]
  rfl

theorem mem_rows_of : (place, s) ∈ (of d v).rows ↔
    (of d v).steps[place]? = some s ∧ shows d v s = true := by
  rw [rows_of, List.mem_map]
  constructor
  · rintro ⟨⟨s', place'⟩, hmem, heq⟩
    obtain ⟨rfl, rfl⟩ := Prod.mk.inj heq
    obtain ⟨hstep, hshows⟩ := List.mem_filter.mp hmem
    exact ⟨List.mem_zipIdx_iff_getElem?.mp hstep, hshows⟩
  · rintro ⟨hstep, hshows⟩
    exact ⟨(s, place), List.mem_filter.mpr ⟨List.mem_zipIdx_iff_getElem?.mpr hstep, hshows⟩, rfl⟩

theorem step_of_row (h : (of d v).rows[row]? = some (place, s)) :
    (of d v).steps[place]? = some s :=
  (mem_rows_of.mp (List.mem_of_getElem? h)).1

/-- From row to row the places increase. -/
theorem sorted_places (d : Diagram) (v : View) : (of d v).places.Pairwise (· < ·) := by
  have hsub : (of d v).places.Sublist ((Timeline.steps d.messages).zipIdx.map Prod.snd) := by
    rw [places, rows_of, List.map_map]
    exact List.filter_sublist.map _
  refine List.Pairwise.sublist hsub ?_
  rw [List.zipIdx_map_snd]
  exact List.pairwise_lt_range'

end

/-! ### Where places increase -/

section
variable (hw : w.places.Pairwise (· < ·))
include hw

/-- A lower row has a lower place. -/
theorem lt_iff_of_places {r r' p p' : Nat} (h : w.places[r]? = some p)
    (h' : w.places[r']? = some p') : p < p' ↔ r < r' := by
  obtain ⟨hr, rfl⟩ := List.getElem?_eq_some_iff.mp h
  obtain ⟨hr', rfl⟩ := List.getElem?_eq_some_iff.mp h'
  rw [List.pairwise_iff_getElem] at hw
  rcases Nat.lt_trichotomy r r' with hlt | rfl | hgt
  · exact iff_of_true (hw r r' hr hr' hlt) hlt
  · simp
  · have := hw r' r hr' hr hgt
    omega

theorem row?_of_places (h : w.places[row]? = some place) : w.row? place = some row := by
  obtain ⟨hrow, hplace⟩ := List.getElem?_eq_some_iff.mp h
  refine List.findIdx?_eq_some_iff_getElem.mpr ⟨hrow, by simpa using hplace, ?_⟩
  intro j hj
  have hlt := (lt_iff_of_places hw (List.getElem?_eq_getElem (Nat.lt_trans hj hrow)) h).mpr hj
  simp only [beq_iff_eq]
  omega

/-- From a place on there is a visible step, if one at or behind it is visible. -/
theorem firstFrom?_of_le {p : Nat} (h : w.places[row]? = some p) (hp : place ≤ p) :
    ∃ first q, w.firstFrom? place = some first ∧ w.places[first]? = some q ∧ q ≤ p := by
  cases hfirst : w.firstFrom? place with
  | none =>
      have hnone := List.findIdx?_eq_none_iff.mp hfirst p (List.mem_of_getElem? h)
      simp [hp] at hnone
  | some first =>
      obtain ⟨hlt, -, hbefore⟩ := List.findIdx?_eq_some_iff_getElem.mp hfirst
      refine ⟨first, w.places[first], rfl, List.getElem?_eq_getElem hlt, ?_⟩
      by_contra hgt
      have hrow := (lt_iff_of_places hw h (List.getElem?_eq_getElem hlt)).mp (by omega)
      have hno := hbefore row hrow
      rw [(List.getElem?_eq_some_iff.mp h).2] at hno
      simp [hp] at hno

end

theorem lastBefore?_isSome {p : Nat} (h : p ∈ w.places) (hp : p < place) :
    ∃ row, w.lastBefore? place = some row := by
  have hpos : 0 < w.places.countP (· < place) :=
    List.countP_pos_iff.mpr ⟨p, h, by simpa using hp⟩
  unfold lastBefore?
  split
  · omega
  · exact ⟨_, rfl⟩

end Lifeline.Layout.Visible
