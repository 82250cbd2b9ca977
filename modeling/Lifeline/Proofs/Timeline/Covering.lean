import Lifeline.Proofs.Timeline.Nesting
import Mathlib.Data.List.Pairwise

/-! # The activations around a step

A timeline can be cut in front of any step. The activations that cover the step and have begun
before it are then those of the calls that are pending at the cut, so the innermost activation of a
participant is that of the innermost call to it (`innermost_covering`). The call and the return of
a message are covered by the same activations (`covers_first_iff_last`). -/

namespace Lifeline.Timeline

/-! ### Steps and their messages -/

section
variable {ms : List Message} {s t : Step} {i j : Nat}

theorem exists_message_of_mem_steps (h : s ∈ steps ms) :
    ∃ m ∈ ms, s = m.call ∨ m.isAsync = false ∧ s = m.return := by
  have hmem := (steps_runs ms).perm_steps.mem_iff.mp h
  obtain ⟨m, hm, hs⟩ := List.mem_flatMap.mp hmem
  refine ⟨m, hm, ?_⟩
  cases hasync : m.isAsync with
  | true =>
      rw [Message.exchange, if_pos hasync, List.mem_singleton] at hs
      exact Or.inl hs
  | false =>
      rw [Message.exchange, if_neg (by simp [hasync]), List.mem_pair] at hs
      exact hs.imp_right fun hs => ⟨rfl, hs⟩

theorem place_unique (h : (ms.map Message.index).Nodup) (hi : (steps ms)[i]? = some s)
    (hj : (steps ms)[j]? = some t) (hkind : s.kind = t.kind) (hmessage : s.message = t.message) :
    i = j := by
  refine (List.getElem?_inj (?_ : i < _) (nodup_steps h)).mp ?_
  · rw [List.length_map]
    exact (List.getElem?_eq_some_iff.mp hi).1
  · rw [List.getElem?_map, List.getElem?_map, hi, hj, Option.map_some, Option.map_some, hkind,
      hmessage]

end

/-! ### Two activations of a timeline -/

section
variable {ms : List Message} {a b : Activation} {m : Message}

theorem mirrors_start (whole : List Step) : Mirrors whole 0 [] [] := ⟨.nil, .nil, by simp⟩

theorem exists_activation (hm : m ∈ ms) (hsync : m.isAsync = false) :
    ∃ a ∈ activations (steps ms), a.participant = m.receiver ∧
      (steps ms)[a.first]? = some m.call ∧ (steps ms)[a.last]? = some m.return := by
  have hperm := (steps_runs ms).perm_activations (by rfl) (mirrors_start (steps ms))
  have hmem : (m.receiver, some m.call, some m.return) ∈
      (([] : List Message) ++ ms.filter fun m => !m.isAsync).map fun m =>
        (m.receiver, some m.call, some m.return) :=
    List.mem_map.mpr ⟨m, List.mem_filter.mpr ⟨hm, by simp [hsync]⟩, rfl⟩
  obtain ⟨a, ha, heq⟩ := List.mem_map.mp (hperm.mem_iff.mpr hmem)
  obtain ⟨hparticipant, hcall, hreturn⟩ := Prod.mk.injEq .. ▸ Prod.mk.injEq .. ▸ heq
  exact ⟨a, ha, hparticipant, hcall, hreturn⟩

theorem exists_message_of_activation (ha : a ∈ activations (steps ms)) :
    ∃ m ∈ ms, m.isAsync = false ∧ a.participant = m.receiver ∧
      (steps ms)[a.first]? = some m.call ∧ (steps ms)[a.last]? = some m.return := by
  have hperm := (steps_runs ms).perm_activations (by rfl) (mirrors_start (steps ms))
  obtain ⟨m, hm, heq⟩ := List.mem_map.mp (hperm.mem_iff.mp (List.mem_map_of_mem ha))
  obtain ⟨hm, hsync⟩ := List.mem_filter.mp hm
  obtain ⟨hparticipant, hcall, hreturn⟩ := Prod.mk.injEq .. ▸ Prod.mk.injEq .. ▸ heq
  exact ⟨m, hm, by simpa using hsync, hparticipant.symm, hcall.symm, hreturn.symm⟩

theorem first_lt_last (ha : a ∈ activations (steps ms)) : a.first < a.last :=
  ((steps_runs ms).bounds rfl (mirrors_start _) a ha).2

theorem nested_or_apart (ha : a ∈ activations (steps ms)) (hb : b ∈ activations (steps ms)) :
    a = b ∨ a.Inside b ∨ b.Inside a ∨ a.Apart b := by
  have hsymm : Std.Symm fun a b : Activation => a.Inside b ∨ b.Inside a ∨ a.Apart b :=
    ⟨fun a b h => h.elim (Or.inr ∘ Or.inl) fun h => h.imp_right fun h => Or.inr h.symm⟩
  have hpairs : (activations (steps ms)).Pairwise fun a b => a.Inside b ∨ b.Inside a ∨ a.Apart b :=
    ((steps_runs ms).pairwise_activations rfl (mirrors_start _)).imp fun h =>
      h.imp_right fun h => Or.inr (Or.inl h)
  by_cases hab : a = b
  · exact Or.inl hab
  · exact Or.inr (hpairs.forall ha hb hab)

theorem covers_iff {i : Nat} : a.covers i = true ↔ a.first ≤ i ∧ i ≤ a.last := by
  rw [Activation.covers, Bool.and_eq_true, decide_eq_true_iff, decide_eq_true_iff]

theorem covers_first_iff_last (ha : a ∈ activations (steps ms)) (hb : b ∈ activations (steps ms)) :
    (b.covers a.first = b.covers a.last) ∧ (b.first = a.first ↔ b.last = a.last) := by
  have hlt := first_lt_last ha
  have hlt' := first_lt_last hb
  rw [Bool.eq_iff_iff, covers_iff, covers_iff]
  rcases nested_or_apart ha hb with rfl | ⟨hfirst, hlast⟩ | ⟨hfirst, hlast⟩ | hapart | hapart
  all_goals omega

/-- The activations around a call lie around the one that it opens. -/
theorem inside_of_covers_first (ha : a ∈ activations (steps ms)) (hb : b ∈ activations (steps ms))
    (hcovers : b.covers a.first = true) : b = a ∨ a.Inside b := by
  have hlt := first_lt_last ha
  rw [covers_iff] at hcovers
  rcases nested_or_apart ha hb with rfl | hin | ⟨hin, -⟩ | hapart | hapart
  · exact Or.inl rfl
  · exact Or.inr hin
  all_goals omega

theorem depth_lt_of_inside (ha : a ∈ activations (steps ms)) (hb : b ∈ activations (steps ms))
    (hparticipant : a.participant = b.participant) (h : a.Inside b) : b.depth < a.depth := by
  have hdepth : ∀ a ∈ activations (steps ms), a.depth = (activations (steps ms)).countP fun b =>
      b.participant = a.participant ∧ a.Inside b :=
    (steps_runs ms).depth_eq rfl (mirrors_start _)
  have hperm := List.perm_cons_erase hb
  have houter : b.depth = ((activations (steps ms)).erase b).countP fun x =>
      x.participant = b.participant ∧ b.Inside x := by
    rw [hdepth b hb, hperm.countP_eq, List.countP_cons_of_neg]
    simp [Activation.Inside]
  have hinner : a.depth = (((activations (steps ms)).erase b).countP fun x =>
      x.participant = a.participant ∧ a.Inside x) + 1 := by
    rw [hdepth a ha, hperm.countP_eq, List.countP_cons_of_pos]
    exact decide_eq_true ⟨hparticipant.symm, h⟩
  rw [houter, hinner]
  refine Nat.lt_succ_of_le (List.countP_mono_left fun x _ hx => ?_)
  obtain ⟨hx, hfirst, hlast⟩ := of_decide_eq_true hx
  exact decide_eq_true ⟨hx.trans hparticipant.symm, hfirst.trans h.1, h.2.trans hlast⟩

end

/-! ### The stack in front of a step -/

section
variable {whole ss tt : List Step} {index : Nat} {opened : Open} {p q : Progress}
  {pending : List Message} {id : String}

/-- Up to a cut some activations have closed, and the open ones mirror the stack. -/
theorem Runs.activations_split (h : Runs p ss q) (hw : whole.drop index = ss ++ tt)
    (ho : Mirrors whole index opened p.pending) :
    ∃ closed opened', Mirrors whole (index + ss.length) opened' q.pending ∧
      (∀ a ∈ closed, a.last < index + ss.length) ∧
      activationsFrom opened index (ss ++ tt) =
        closed ++ activationsFrom opened' (index + ss.length) tt := by
  induction h generalizing index opened with
  | done p => exact ⟨[], opened, ho, by simp, rfl⟩
  | @call m _ _ ss _ top next ih =>
      obtain ⟨hs, hw'⟩ := drop_succ_of_drop hw
      obtain ⟨closed, opened', hmirrors, hclosed, heq⟩ := ih hw' (ho.call hs)
      have hlen : index + 1 + ss.length = index + (m.call :: ss).length := by
        rw [List.length_cons]
        omega
      rw [hlen] at hmirrors hclosed heq
      refine ⟨closed, opened', hmirrors, hclosed, ?_⟩
      rw [List.cons_append, activationsFrom_call, heq]
  | @reply m _ _ ss _ due next ih =>
      obtain ⟨hs, hw'⟩ := drop_succ_of_drop hw
      obtain ⟨n, rest, rfl, -, -, -, hrest⟩ := ho.pop
      obtain ⟨closed, opened', hmirrors, hclosed, heq⟩ := ih hw' hrest
      have hlen : index + 1 + ss.length = index + (m.return :: ss).length := by
        rw [List.length_cons]
        omega
      rw [hlen] at hmirrors hclosed heq
      refine ⟨⟨m.receiver, n, index, rest.countP fun o => o.1 = m.receiver⟩ :: closed, opened',
        hmirrors, List.forall_mem_cons.mpr ⟨?_, hclosed⟩, ?_⟩
      · rw [List.length_cons]
        show index < _
        omega
      · rw [List.cons_append, activationsFrom_return, heq, List.cons_append]

/-- The innermost open activation of a participant is that of the innermost call to it. -/
theorem Mirrors.find? (h : Mirrors whole index opened pending) (id : String) :
    (∀ m, pending.find? (fun m => m.receiver = id) = some m →
      ∃ n, (id, n) ∈ opened ∧ whole[n]? = some m.call ∧
        ∀ o ∈ opened, o.1 = id → o.2 ≤ n) ∧
    (pending.find? (fun m => m.receiver = id) = none → ∀ o ∈ opened, o.1 ≠ id) := by
  obtain ⟨hcalls, hsorted, -⟩ := h
  induction hcalls with
  | nil => simp
  | @cons o m opened pending hom _ ih =>
      obtain ⟨id', n⟩ := o
      obtain ⟨rfl, hn⟩ := hom
      obtain ⟨hfirst, hsorted⟩ := List.pairwise_cons.mp hsorted
      obtain ⟨hsome, hnone⟩ := ih hsorted
      by_cases hid : m.receiver = id
      · rw [List.find?_cons_of_pos (by simpa using hid)]
        refine ⟨?_, by simp⟩
        intro m' hm'
        obtain rfl := Option.some.inj hm'
        refine ⟨n, by simp [hid], hn, ?_⟩
        intro o ho _
        rcases List.mem_cons.mp ho with rfl | ho
        · exact le_rfl
        · exact (hfirst o ho).le
      · rw [List.find?_cons_of_neg (by simpa using hid)]
        refine ⟨?_, ?_⟩
        · intro m' hm'
          obtain ⟨n', hmem, hn', hle⟩ := hsome m' hm'
          refine ⟨n', List.mem_cons_of_mem _ hmem, hn', ?_⟩
          intro o ho hoid
          rcases List.mem_cons.mp ho with rfl | ho
          · exact absurd hoid hid
          · exact hle o ho hoid
        · intro hfind o ho
          rcases List.mem_cons.mp ho with rfl | ho
          · exact hid
          · exact hnone hfind o ho

end

/-- In front of a step the innermost pending call to a participant has opened the innermost of its
activations around the step; where no call to it is pending, there is none. -/
theorem innermost_covering {ms : List Message} {i : Nat} (hi : i < (steps ms).length)
    (id : String) :
    ∃ p, Progress.readAll? ⟨[], ms⟩ ((steps ms).take i) = some p ∧
      (∀ m, p.pending.find? (fun m => m.receiver = id) = some m →
        ∃ a ∈ activations (steps ms), a.participant = id ∧ (steps ms)[a.first]? = some m.call ∧
          a.first < i ∧ i ≤ a.last ∧ ∀ b ∈ activations (steps ms), b.participant = id →
            b.first < i → i ≤ b.last → b = a ∨ a.Inside b) ∧
      (p.pending.find? (fun m => m.receiver = id) = none →
        ∀ b ∈ activations (steps ms), b.participant = id → b.first < i → b.last < i) := by
  have hcut : (steps ms).take i ++ (steps ms).drop i = steps ms := List.take_append_drop i _
  obtain ⟨p, hbefore, hafter⟩ := (hcut.symm ▸ steps_runs ms).split
  obtain ⟨closed, opened, hmirrors, hclosed, heq⟩ :=
    hbefore.activations_split (by exact hcut.symm) (mirrors_start (steps ms))
  rw [List.length_take_of_le hi.le, Nat.zero_add] at hmirrors hclosed heq
  rw [hcut] at heq
  have hbegun := hafter.begun_eq rfl hmirrors
  have hlast := hafter.bounds rfl hmirrors
  -- what has begun before the step and covers it is open at the step
  have hopen : ∀ b ∈ activations (steps ms), b.first < i → i ≤ b.last →
      (b.participant, b.first) ∈ opened := by
    intro b hb hfirst hge
    rw [activations, heq, List.mem_append] at hb
    rcases hb with hb | hb
    · exact absurd (hclosed b hb) (Nat.not_lt.mpr hge)
    · rw [← hbegun]
      exact mem_begun hb hfirst
  obtain ⟨hsome, hnone⟩ := hmirrors.find? id
  refine ⟨p, hbefore.readAll?_eq, ?_, ?_⟩
  · intro m hm
    obtain ⟨n, hmem, hn, hle⟩ := hsome m hm
    rw [← hbegun, begun, List.mem_filter, List.mem_map] at hmem
    obtain ⟨⟨a, ha, hpair⟩, hlt⟩ := hmem
    obtain ⟨rfl, rfl⟩ := Prod.mk.inj hpair
    have hfirst : a.first < i := of_decide_eq_true hlt
    have hge : i ≤ a.last := (hlast a ha).1
    have ha' : a ∈ activations (steps ms) := by
      rw [activations, heq]
      exact List.mem_append_right _ ha
    refine ⟨a, ha', rfl, hn, hfirst, hge, ?_⟩
    intro b hb hparticipant hbfirst hbge
    have hbn : b.first ≤ a.first := hle _ (hopen b hb hbfirst hbge) hparticipant
    rcases nested_or_apart ha' hb with rfl | hin | ⟨hin, -⟩ | hapart | hapart
    · exact Or.inl rfl
    · exact Or.inr hin
    all_goals omega
  · intro hfind b hb hparticipant hfirst
    by_contra hge
    exact hnone hfind _ (hopen b hb hfirst (Nat.not_lt.mp hge)) hparticipant

end Lifeline.Timeline
