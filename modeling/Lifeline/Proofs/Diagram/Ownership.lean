import Lifeline.Proofs.Reader.Division

/-! # Sections own the messages behind them

A message is looked up in two ways: the section that it belongs to is the last one that begins at or
before it (`sectionOf?_eq_some_iff`), and the messages of a section are those from its first one up
to where the next section begins (`owns_iff`). The two agree because the sections come in the order
of their first messages, however many of them begin at the same message. So every message from the
first section on has exactly one owner (`ownership_after`). -/

namespace Lifeline.Diagram

/-- The message is in the range of the section. -/
def Owns (d : Diagram) (i m : Nat) : Prop :=
  (d.sectionMessages i).1 ≤ m ∧ m < (d.sectionMessages i).2

instance (d : Diagram) (i m : Nat) : Decidable (d.Owns i m) := instDecidableAnd

theorem find?_reverse_range {p : Nat → Bool} {n k : Nat} :
    (List.range n).reverse.find? p = some k ↔
      k < n ∧ p k = true ∧ ∀ j, k < j → j < n → p j = false := by
  induction n with
  | zero => simp
  | succ n ih =>
      rw [List.range_succ, List.reverse_append, List.reverse_singleton, List.singleton_append,
        List.find?_cons]
      cases hn : p n with
      | true =>
          constructor
          · intro h
            obtain rfl := Option.some.inj h
            exact ⟨Nat.lt_succ_self n, hn, fun j hj hlt => by omega⟩
          · rintro ⟨hk, -, hlast⟩
            by_contra hne
            have hkn : k < n := by
              have : k ≠ n := fun h => hne (congrArg some h.symm)
              omega
            have hfalse := hlast n hkn (Nat.lt_succ_self n)
            rw [hn] at hfalse
            cases hfalse
      | false =>
          rw [ih]
          constructor
          · rintro ⟨hk, hp, hlast⟩
            refine ⟨by omega, hp, fun j hj hlt => ?_⟩
            by_cases hjn : j = n
            · rw [hjn, hn]
            · exact hlast j hj (by omega)
          · rintro ⟨hk, hp, hlast⟩
            have hne : k ≠ n := by
              rintro rfl
              rw [hn] at hp
              cases hp
            exact ⟨by omega, hp, fun j hj hlt => hlast j hj (by omega)⟩

section
variable {d : Diagram} {i j k m n : Nat} {s t : Section}

/-- The section of a message begins at or before it, and all further sections begin behind it. -/
theorem sectionOf?_eq_some_iff : d.sectionOf? m = some k ↔
    ∃ s, d.sections[k]? = some s ∧ s.firstMessage ≤ m ∧
      ∀ j t, k < j → d.sections[j]? = some t → m < t.firstMessage := by
  rw [sectionOf?, find?_reverse_range]
  constructor
  · rintro ⟨hk, hfirst, hlater⟩
    have hs := List.getElem?_eq_getElem hk
    rw [hs] at hfirst
    refine ⟨_, hs, of_decide_eq_true hfirst, fun j t hj ht => ?_⟩
    have hbehind := hlater j hj (List.getElem?_eq_some_iff.mp ht).1
    rw [ht] at hbehind
    exact Nat.lt_of_not_le (of_decide_eq_false hbehind)
  · rintro ⟨s, hs, hfirst, hlater⟩
    refine ⟨(List.getElem?_eq_some_iff.mp hs).1, ?_, fun j hj hlt => ?_⟩
    · rw [hs]
      exact decide_eq_true hfirst
    · have ht := List.getElem?_eq_getElem hlt
      rw [ht]
      exact decide_eq_false (Nat.not_le_of_lt (hlater j _ hj ht))

theorem firstMessage_le_of_sectionOf? (h : d.sectionOf? m = some k) (hs : d.sections[k]? = some s) :
    s.firstMessage ≤ m := by
  obtain ⟨t, ht, hfirst, -⟩ := sectionOf?_eq_some_iff.mp h
  obtain rfl := Option.some.inj (hs.symm.trans ht)
  exact hfirst

theorem sectionOf?_of_le (h : d.sectionOf? n = some k) (hs : d.sections[k]? = some s)
    (hm : s.firstMessage ≤ m) (hn : m ≤ n) : d.sectionOf? m = some k := by
  obtain ⟨-, -, -, hlater⟩ := sectionOf?_eq_some_iff.mp h
  exact sectionOf?_eq_some_iff.mpr
    ⟨s, hs, hm, fun j t hj ht => Nat.lt_of_le_of_lt hn (hlater j t hj ht)⟩

theorem lt_firstMessage (h : d.sectionOf? n = some k) (hs : d.sections[k]? = some s)
    (hm : d.sectionOf? m ≠ some k) (hn : m ≤ n) : m < s.firstMessage := by
  by_contra hge
  exact hm (sectionOf?_of_le h hs (Nat.not_lt.mp hge) hn)

/-- A section owns the messages from its first one up to the beginning of the next section, or up to
the end. -/
theorem owns_iff : d.Owns i m ↔ ∃ s, d.sections[i]? = some s ∧ s.firstMessage ≤ m ∧
    match d.sections[i + 1]? with
    | some next => m < next.firstMessage
    | none => m < d.messages.length := by
  unfold Owns sectionMessages
  cases hs : d.sections[i]? with
  | none => simp
  | some s =>
      cases hnext : d.sections[i + 1]? with
      | none =>
          simp only [Option.some.injEq, exists_eq_left']
          omega
      | some next =>
          simp only [Option.some.injEq, exists_eq_left']
          omega

theorem Divided.firstMessage_mono (h : d.Divided) (hs : d.sections[i]? = some s)
    (ht : d.sections[j]? = some t) (hij : i ≤ j) : s.firstMessage ≤ t.firstMessage := by
  obtain ⟨hi, rfl⟩ := List.getElem?_eq_some_iff.mp hs
  obtain ⟨hj, rfl⟩ := List.getElem?_eq_some_iff.mp ht
  rcases Nat.eq_or_lt_of_le hij with rfl | hlt
  · exact Nat.le_refl _
  · exact List.pairwise_iff_getElem.mp h.sorted i j hi hj hlt

/-- **Both lookups agree.** The section of a message is the one that has the message in its
range. -/
theorem Divided.owns_iff_sectionOf? (h : d.Divided) (hm : m < d.messages.length) :
    d.Owns i m ↔ d.sectionOf? m = some i := by
  rw [owns_iff, sectionOf?_eq_some_iff]
  constructor
  · rintro ⟨s, hs, hfirst, hnext⟩
    refine ⟨s, hs, hfirst, fun j t hj ht => ?_⟩
    have hlt : i + 1 < d.sections.length :=
      Nat.lt_of_le_of_lt hj (List.getElem?_eq_some_iff.mp ht).1
    have hat := List.getElem?_eq_getElem hlt
    rw [hat] at hnext
    exact Nat.lt_of_lt_of_le hnext (h.firstMessage_mono hat ht hj)
  · rintro ⟨s, hs, hfirst, hlater⟩
    refine ⟨s, hs, hfirst, ?_⟩
    cases hnext : d.sections[i + 1]? with
    | none => exact hm
    | some next => exact hlater _ _ (Nat.lt_succ_self i) hnext

theorem Divided.lt_of_owns (h : d.Divided) (howns : d.Owns i m) : m < d.messages.length := by
  obtain ⟨s, -, -, hnext⟩ := owns_iff.mp howns
  cases hat : d.sections[i + 1]? with
  | none =>
      rw [hat] at hnext
      exact hnext
  | some next =>
      rw [hat] at hnext
      exact Nat.lt_of_lt_of_le hnext (h.within next (List.mem_of_getElem? hat))

theorem Divided.eq_of_owns (h : d.Divided) (hi : d.Owns i m) (hj : d.Owns j m) : i = j := by
  have hm := h.lt_of_owns hi
  rw [h.owns_iff_sectionOf? hm] at hi hj
  exact Option.some.inj (hi.symm.trans hj)

theorem exists_sectionOf? (hs : d.sections.head? = some s) (hm : s.firstMessage ≤ m) :
    ∃ i, d.sectionOf? m = some i := by
  cases hfound : d.sectionOf? m with
  | some i => exact ⟨i, rfl⟩
  | none =>
      rw [List.head?_eq_getElem?] at hs
      have hzero := List.find?_eq_none.mp hfound 0 (by
        rw [List.mem_reverse, List.mem_range]
        exact (List.getElem?_eq_some_iff.mp hs).1)
      rw [hs] at hzero
      exact absurd (decide_eq_true hm) hzero

theorem Divided.exists_owns_iff (h : d.Divided) : (∃ i, d.Owns i m) ↔
    (∃ s, d.sections.head? = some s ∧ s.firstMessage ≤ m) ∧ m < d.messages.length := by
  constructor
  · rintro ⟨i, howns⟩
    obtain ⟨s, hs, hfirst, -⟩ := owns_iff.mp howns
    have hpos : 0 < d.sections.length :=
      Nat.lt_of_le_of_lt (Nat.zero_le i) (List.getElem?_eq_some_iff.mp hs).1
    have hhead := List.getElem?_eq_getElem hpos
    refine ⟨⟨_, List.head?_eq_getElem?.trans hhead, ?_⟩, h.lt_of_owns howns⟩
    exact Nat.le_trans (h.firstMessage_mono hhead hs (Nat.zero_le i)) hfirst
  · rintro ⟨⟨s, hs, hfirst⟩, hm⟩
    obtain ⟨i, hi⟩ := exists_sectionOf? hs hfirst
    exact ⟨i, (h.owns_iff_sectionOf? hm).mpr hi⟩

end

/-- **Sections divide the messages among them.** Behind any operations the sections of a diagram
come in the order of their first messages, none behind the end. A message of the diagram belongs to
a section exactly if the range of the section holds it. The ranges of two sections have no message
in common, and together they hold the messages from the first one of the first section on. -/
theorem ownership_after (ops : List Operation) :
    (after ops).sections.Pairwise (fun s t => s.firstMessage ≤ t.firstMessage) ∧
    (∀ s ∈ (after ops).sections, s.firstMessage ≤ (after ops).messages.length) ∧
    (∀ m < (after ops).messages.length, ∀ i,
      (after ops).sectionOf? m = some i ↔ (after ops).Owns i m) ∧
    (∀ i j m, (after ops).Owns i m → (after ops).Owns j m → i = j) ∧
    ∀ m, (∃ i, (after ops).Owns i m) ↔
      (∃ s, (after ops).sections.head? = some s ∧ s.firstMessage ≤ m) ∧
        m < (after ops).messages.length := by
  have h := divided_after ops
  refine ⟨h.sorted, h.within, ?_, ?_, ?_⟩
  · intro m hm i
    exact (h.owns_iff_sectionOf? hm).symm
  · intro i j m hi hj
    exact h.eq_of_owns hi hj
  · intro m
    exact h.exists_owns_iff

/-- Two empty sections between messages, a reading that stops, messages by hand, and a section with
nothing behind it. -/
def sectioned : List Operation :=
  [.read
      "A -> B: one\n== Empty ==\n== Next ==\nif so\n  B -> A: two\n== Cut ==\nasync A -> B".toList,
    .addTopMessage ⟨0, "B", "B", "three", none, 0, false⟩,
    .read "A ~> B: four\n== Last ==".toList]

theorem ownership_after_sectioned :
    (after sectioned).messages.length = 4 ∧
    (after sectioned).sections.map Section.firstMessage = [1, 1, 2, 4] ∧
    (List.range 4).map (after sectioned).sectionOf? = [none, some 1, some 2, some 2] ∧
    2 < (after sectioned).messages.length ∧
    ((after sectioned).sectionOf? 2 = some 2 ↔ (after sectioned).Owns 2 2) ∧
    (after sectioned).Owns 2 2 ∧ (∀ j, (after sectioned).Owns j 2 → 2 = j) ∧
    ((∃ i, (after sectioned).Owns i 0) ↔
      (∃ s, (after sectioned).sections.head? = some s ∧ s.firstMessage ≤ 0) ∧
        0 < (after sectioned).messages.length) := by
  have h := ownership_after sectioned
  have hvalues : (after sectioned).messages.length = 4 ∧
      (after sectioned).sections.map Section.firstMessage = [1, 1, 2, 4] ∧
      (List.range 4).map (after sectioned).sectionOf? = [none, some 1, some 2, some 2] ∧
      (after sectioned).Owns 2 2 := by
    unfold sectioned
    rw [String.toList_ofList, String.toList_ofList]
    decide +kernel
  obtain ⟨hcount, hfirst, howner, howns⟩ := hvalues
  have hlt : 2 < (after sectioned).messages.length := by
    rw [hcount]
    decide
  exact ⟨hcount, hfirst, howner, hlt, h.2.2.1 2 hlt 2, howns, fun j => h.2.2.2.1 2 j 2 howns,
    h.2.2.2.2 0⟩

end Lifeline.Diagram
