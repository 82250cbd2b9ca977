/-! # Sets of code points

A set of characters is written as the list of its maximal intervals, in increasing order.
`inRanges` decides membership and stops at the first interval beyond the code point asked for. -/

namespace Lifeline.Unicode

/-- Membership of a code point in a set given by its increasing, disjoint intervals. -/
def inRanges : List (Nat × Nat) → Nat → Bool
  | [], _ => false
  | (lo, hi) :: rest, n => if n < lo then false else n ≤ hi || inRanges rest n

/-- Every code point of the set lies in one of the listed intervals. -/
theorem exists_of_inRanges {rs : List (Nat × Nat)} {n : Nat} (h : inRanges rs n = true) :
    ∃ r ∈ rs, r.1 ≤ n ∧ n ≤ r.2 := by
  induction rs with
  | nil => simp [inRanges] at h
  | cons r rest ih =>
    obtain ⟨lo, hi⟩ := r
    by_cases hlo : n < lo
    · simp [inRanges, hlo] at h
    · by_cases hhi : n ≤ hi
      · exact ⟨(lo, hi), List.mem_cons_self, Nat.le_of_not_lt hlo, hhi⟩
      · simp [inRanges, hlo, hhi] at h
        obtain ⟨r, hr, hb⟩ := ih h
        exact ⟨r, List.mem_cons_of_mem _ hr, hb⟩

end Lifeline.Unicode
