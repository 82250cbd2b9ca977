import Lifeline.Proofs.Timeline.Bracketing

/-! # A timeline that is continued

What a message adds to the timeline depends only on the calls that are pending in front of it
(`exists_opening`). So two lists of messages have the same steps as far as they begin alike, and
where the shorter one ends its pending calls return in the order in which the next message of the
longer one would unwind them (`exists_stepsFrom_append`).

`steps_append` puts this in terms of the place at which the first further message is called. -/

namespace Lifeline.Timeline

/-- The step at a place is the call of the message number `n`: it is the call of that message, and
as many calls stand in front of it. -/
def CallsAt (ms : List Message) (n place : Nat) : Prop :=
  ∃ m, ms[n]? = some m ∧ (steps ms)[place]? = some m.call ∧
    ((steps ms).take place).countP Step.isCall = n

section
variable {ms : List Message} {n i j : Nat}

theorem CallsAt.unique (hi : CallsAt ms n i) (hj : CallsAt ms n j) : i = j := by
  have hle : ∀ {i j}, CallsAt ms n i → CallsAt ms n j → ¬ i < j := by
    rintro i j ⟨m, -, hcall, hcount⟩ ⟨-, -, -, hcount'⟩ hlt
    have hsucc : ((steps ms).take (i + 1)).countP Step.isCall = n + 1 := by
      rw [List.take_add_one, hcall, List.countP_append, hcount]
      rfl
    have hmono : ((steps ms).take (i + 1)).countP Step.isCall ≤
        ((steps ms).take j).countP Step.isCall :=
      (List.take_sublist_take_left hlt).countP_le
    omega
  exact Nat.le_antisymm (Nat.not_lt.mp (hle hj hi)) (Nat.not_lt.mp (hle hi hj))

end

theorem countP_isCall_returns (done : List Message) :
    (done.map Message.return).countP Step.isCall = 0 := by
  rw [List.countP_eq_zero]
  intro s hs
  obtain ⟨m, -, rfl⟩ := List.mem_map.mp hs
  simp [Step.isCall, Message.return]

theorem exists_opening (pending : List Message) (m : Message) :
    ∃ opening pending', opening.countP Step.isCall = 1 ∧
      ∀ ms, stepsFrom pending (m :: ms) = opening ++ stepsFrom pending' ms := by
  obtain ⟨⟨done, still⟩, hu⟩ : ∃ u, unwind m.sender pending = u := ⟨_, rfl⟩
  have hanswer : ∃ (answer : List Step) (pending' : List Message),
      answer.countP Step.isCall = 0 ∧
      ∀ ms, (if m.isAsync then stepsFrom still ms
        else if m.isSelfCall then m.return :: stepsFrom still ms
        else stepsFrom (m :: still) ms) = answer ++ stepsFrom pending' ms := by
    cases m.isAsync with
    | true => exact ⟨[], still, rfl, fun ms => rfl⟩
    | false =>
        cases m.isSelfCall with
        | true => exact ⟨[m.return], still, rfl, fun ms => rfl⟩
        | false => exact ⟨[], m :: still, rfl, fun ms => rfl⟩
  obtain ⟨answer, pending', hcount, hsteps⟩ := hanswer
  refine ⟨done.map Message.return ++ m.call :: answer, pending', ?_, fun ms => ?_⟩
  · rw [List.countP_append, countP_isCall_returns, List.countP_cons_of_pos rfl, hcount]
  · simp only [stepsFrom, hu, hsteps, List.append_assoc, List.cons_append]

/-- Up to the call of a further message the steps are those without it. Without it the calls that
are pending there return, those first that it would unwind. -/
theorem exists_stepsFrom_append (pending ms : List Message) (m : Message) (rest : List Message) :
    ∃ (before : List Step) (still : List Message),
      before ++ [m.call] <+: stepsFrom pending (ms ++ m :: rest) ∧
      stepsFrom pending ms = before ++ still.map Message.return ∧
      before.countP Step.isCall = ms.length := by
  induction ms generalizing pending with
  | nil =>
      obtain ⟨⟨done, still⟩, hu⟩ : ∃ u, unwind m.sender pending = u := ⟨_, rfl⟩
      obtain ⟨hpending, -, -⟩ := unwind_eq hu
      refine ⟨done.map Message.return, still, ?_, ?_, countP_isCall_returns done⟩
      · simp only [List.nil_append, stepsFrom, hu]
        exact ⟨_, List.append_assoc ..⟩
      · rw [stepsFrom, hpending, List.map_append]
  | cons first ms ih =>
      obtain ⟨opening, pending', hcount, hopening⟩ := exists_opening pending first
      obtain ⟨before, still, hlong, hshort, hbefore⟩ := ih pending'
      refine ⟨opening ++ before, still, ?_, ?_, ?_⟩
      · rw [List.cons_append, hopening, List.append_assoc, List.prefix_append_right_inj]
        exact hlong
      · rw [hopening, hshort, List.append_assoc]
      · rw [List.countP_append, hcount, hbefore, List.length_cons, Nat.add_comm]

/-- **Further messages change no step in front of the first of them.** When messages are appended
to a document, the first of them is called at one place, up to which the timeline is the one
without them; all that the shorter timeline has from this place on are returns. -/
theorem steps_append (ms : List Message) (m : Message) (rest : List Message) :
    ∃ i, (∀ j, CallsAt (ms ++ m :: rest) ms.length j ↔ j = i) ∧
      (steps (ms ++ m :: rest)).take i = (steps ms).take i ∧
      ∀ s ∈ (steps ms).drop i, s.isCall = false := by
  obtain ⟨before, still, ⟨after, hlong⟩, hshort, hcount⟩ := exists_stepsFrom_append [] ms m rest
  change _ = steps (ms ++ m :: rest) at hlong
  change steps ms = _ at hshort
  have hplace : CallsAt (ms ++ m :: rest) ms.length before.length := by
    refine ⟨m, ?_, ?_, ?_⟩
    · simp
    · simp [← hlong]
    · rw [← hlong, List.append_assoc, List.take_left, hcount]
  refine ⟨before.length, ?_, ?_, ?_⟩
  · intro j
    exact ⟨fun hj => hj.unique hplace, fun hj => hj ▸ hplace⟩
  · rw [← hlong, hshort, List.append_assoc, List.take_left, List.take_left]
  · intro s hs
    rw [hshort, List.drop_left] at hs
    obtain ⟨t, -, rfl⟩ := List.mem_map.mp hs
    rfl

end Lifeline.Timeline
