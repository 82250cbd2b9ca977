import Lifeline.Proofs.Timeline.Bracketing
import Lifeline.Timeline.Activation
import Mathlib.Data.List.Nodup

/-! # Activations of a timeline

On the timeline of a list of messages the open activations are the image of the stack of pending
calls (`Mirrors`), so every return closes the activation that its own call has opened. Along a run
of the timeline this gives three facts: the activations that close are those of the calls that
return (`Runs.perm_activations`), they are disjoint or nested (`Runs.pairwise_activations`), and
the depth of each counts those around it (`Runs.depth_eq`).

`activations_steps` puts them together for a whole document. -/

namespace Lifeline

/-- The activation lies strictly inside another one. -/
def Activation.Inside (a b : Activation) : Prop := b.first < a.first ∧ a.last < b.last

instance (a b : Activation) : Decidable (a.Inside b) := inferInstanceAs (Decidable (_ ∧ _))

/-- No step lies in both activations. -/
def Activation.Apart (a b : Activation) : Prop := a.last < b.first ∨ b.last < a.first

/-- A message and the answer to it, which an asynchronous message does not have. -/
def Message.exchange (m : Message) : List Step :=
  if m.isAsync then [m.call] else [m.call, m.return]

namespace Timeline

/-- The open activations are those of the pending calls: each names the receiver of its call, and
the place of the call in the timeline. Inner calls stand behind outer ones. -/
structure Mirrors (whole : List Step) (index : Nat) (opened : Open) (pending : List Message) :
    Prop where
  calls : List.Forall₂ (fun o m => o.1 = m.receiver ∧ whole[o.2]? = some m.call) opened pending
  sorted : opened.Pairwise fun a b => b.2 < a.2
  before : ∀ o ∈ opened, o.2 < index

/-! ### What a step does to the open activations -/

section
variable {whole : List Step} {index n : Nat} {opened rest : Open} {m : Message}
  {pending : List Message} {ss : List Step}

theorem activationsFrom_call : activationsFrom opened index (m.call :: ss) =
    activationsFrom (if m.isAsync then opened else (m.receiver, index) :: opened) (index + 1) ss :=
  rfl

theorem activationsFrom_return :
    activationsFrom ((m.receiver, n) :: rest) index (m.return :: ss) =
      ⟨m.receiver, n, index, rest.countP fun o => o.1 = m.receiver⟩ ::
        activationsFrom rest (index + 1) ss := by
  simp only [activationsFrom, Message.return, closeInnermost?, ↓reduceIte]
  rfl

theorem Mirrors.mono (h : Mirrors whole index opened pending) :
    Mirrors whole (index + 1) opened pending :=
  ⟨h.calls, h.sorted, fun o ho => Nat.lt_succ_of_lt (h.before o ho)⟩

theorem Mirrors.push (h : Mirrors whole index opened pending) (hm : whole[index]? = some m.call) :
    Mirrors whole (index + 1) ((m.receiver, index) :: opened) (m :: pending) := by
  refine ⟨.cons ⟨rfl, hm⟩ h.calls, List.pairwise_cons.mpr ⟨h.before, h.sorted⟩, ?_⟩
  intro o ho
  rcases List.mem_cons.mp ho with rfl | ho
  · exact Nat.lt_succ_self _
  · exact Nat.lt_succ_of_lt (h.before o ho)

theorem Mirrors.call (h : Mirrors whole index opened pending) (hm : whole[index]? = some m.call) :
    Mirrors whole (index + 1) (if m.isAsync then opened else (m.receiver, index) :: opened)
      (if m.isAsync then pending else m :: pending) := by
  cases m.isAsync with
  | true => exact h.mono
  | false => exact h.push hm

theorem Mirrors.pop (h : Mirrors whole index opened (m :: pending)) :
    ∃ n rest, opened = (m.receiver, n) :: rest ∧ whole[n]? = some m.call ∧ n < index ∧
      (∀ o ∈ rest, o.2 < n) ∧ Mirrors whole (index + 1) rest pending := by
  obtain ⟨hcalls, hsorted, hbefore⟩ := h
  cases hcalls with
  | @cons o _ rest _ hom htail =>
      obtain ⟨p, n⟩ := o
      obtain ⟨rfl, hn⟩ := hom
      obtain ⟨hinner, hsorted⟩ := List.pairwise_cons.mp hsorted
      refine ⟨n, rest, rfl, hn, hbefore _ List.mem_cons_self, hinner, htail, hsorted, ?_⟩
      exact fun o ho => Nat.lt_succ_of_lt (hbefore o (List.mem_cons_of_mem _ ho))

end

/-! ### Activations along a run -/

section
variable {whole ss : List Step} {index : Nat} {opened : Open} {p : Progress}

theorem drop_succ_of_drop {s : Step} (h : whole.drop index = s :: ss) :
    whole[index]? = some s ∧ whole.drop (index + 1) = ss := by
  refine ⟨?_, ?_⟩
  · rw [← List.head?_drop, h, List.head?_cons]
  · rw [← List.tail_drop, h, List.tail_cons]

theorem Runs.bounds (h : Runs p ss ⟨[], []⟩) (hw : whole.drop index = ss)
    (ho : Mirrors whole index opened p.pending) :
    ∀ a ∈ activationsFrom opened index ss, index ≤ a.last ∧ a.first < a.last := by
  induction ss generalizing p opened index with
  | nil => simp [activationsFrom]
  | cons s ss ih =>
      obtain ⟨hs, hw'⟩ := drop_succ_of_drop hw
      cases h with
      | call top next =>
          intro a ha
          obtain ⟨h1, h2⟩ := ih next hw' (ho.call hs) a ha
          exact ⟨by omega, h2⟩
      | reply due next =>
          obtain ⟨n, rest, rfl, -, hn, -, hrest⟩ := ho.pop
          rw [activationsFrom_return]
          intro a ha
          rcases List.mem_cons.mp ha with rfl | ha
          · exact ⟨le_refl index, hn⟩
          · obtain ⟨h1, h2⟩ := ih next hw' hrest a ha
            exact ⟨by omega, h2⟩

/-- The participants and first steps of the activations that have begun before a step. -/
def begun (index : Nat) (acts : List Activation) : Open :=
  (acts.map fun a => (a.participant, a.first)).filter fun o => o.2 < index

theorem mem_begun {acts : List Activation} {a : Activation} (ha : a ∈ acts)
    (h : a.first < index) : (a.participant, a.first) ∈ begun index acts :=
  List.mem_filter.mpr ⟨List.mem_map.mpr ⟨a, ha, rfl⟩, decide_eq_true h⟩

theorem begun_of_begun_succ (acts : List Activation) (index : Nat) :
    begun index acts = (begun (index + 1) acts).filter fun o => o.2 < index := by
  unfold begun
  rw [List.filter_filter]
  refine List.filter_congr fun o _ => ?_
  rw [Bool.eq_iff_iff, Bool.and_eq_true, decide_eq_true_iff, decide_eq_true_iff]
  omega

theorem Mirrors.filter_eq {pending : List Message} (h : Mirrors whole index opened pending) :
    opened.filter (fun o => o.2 < index) = opened :=
  List.filter_eq_self.mpr fun o ho => decide_eq_true (h.before o ho)

/-- The activations that have begun before a step close in the order of the stack. -/
theorem Runs.begun_eq (h : Runs p ss ⟨[], []⟩) (hw : whole.drop index = ss)
    (ho : Mirrors whole index opened p.pending) :
    begun index (activationsFrom opened index ss) = opened := by
  induction ss generalizing p opened index with
  | nil =>
      cases h
      cases ho.calls
      rfl
  | cons s ss ih =>
      obtain ⟨hs, hw'⟩ := drop_succ_of_drop hw
      cases h with
      | @call m _ _ _ _ top next =>
          rw [activationsFrom_call, begun_of_begun_succ, ih next hw' (ho.call hs)]
          cases m.isAsync with
          | true => exact ho.filter_eq
          | false =>
              rw [if_neg Bool.false_ne_true, List.filter_cons_of_neg (by simp), ho.filter_eq]
      | reply due next =>
          have hfilter := ho.filter_eq
          obtain ⟨n, rest, rfl, -, hn, -, hrest⟩ := ho.pop
          rw [List.filter_cons_of_pos (by simpa using hn)] at hfilter
          rw [activationsFrom_return, begun, List.map_cons,
            List.filter_cons_of_pos (by simpa using hn)]
          have hbegun := begun_of_begun_succ (activationsFrom rest (index + 1) ss) index
          rw [ih next hw' hrest, List.tail_eq_of_cons_eq hfilter] at hbegun
          exact congrArg _ hbegun

/-- An activation that closes later has begun inside the present one, or behind it. -/
theorem Runs.first_of_later {n : Nat} {rest : Open} {pending coming : List Message}
    (h : Runs ⟨pending, coming⟩ ss ⟨[], []⟩) (hw : whole.drop (index + 1) = ss)
    (ho : Mirrors whole (index + 1) rest pending) (hrest : ∀ o ∈ rest, o.2 < n) :
    ∀ b ∈ activationsFrom rest (index + 1) ss,
      index < b.last ∧ (b.first < n ∨ index < b.first) := by
  intro b hb
  have hlast := (h.bounds hw ho b hb).1
  refine ⟨by omega, ?_⟩
  rcases Nat.lt_or_ge b.first (index + 1) with hlt | hge
  · have hmem := mem_begun hb hlt
    rw [h.begun_eq hw ho] at hmem
    exact Or.inl (hrest _ hmem)
  · exact Or.inr hge

theorem Runs.pairwise_activations (h : Runs p ss ⟨[], []⟩) (hw : whole.drop index = ss)
    (ho : Mirrors whole index opened p.pending) :
    (activationsFrom opened index ss).Pairwise fun a b => a.Inside b ∨ a.last < b.first := by
  induction ss generalizing p opened index with
  | nil => exact .nil
  | cons s ss ih =>
      obtain ⟨hs, hw'⟩ := drop_succ_of_drop hw
      cases h with
      | call top next => exact ih next hw' (ho.call hs)
      | reply due next =>
          obtain ⟨n, rest, rfl, -, -, hrest, hmirror⟩ := ho.pop
          rw [activationsFrom_return]
          refine List.pairwise_cons.mpr ⟨?_, ih next hw' hmirror⟩
          intro b hb
          obtain ⟨hlast, hfirst | hfirst⟩ := next.first_of_later hw' hmirror hrest b hb
          · exact Or.inl ⟨hfirst, hlast⟩
          · exact Or.inr hfirst

/-- The depth of an activation is the number of those of its participant that lie around it. -/
theorem Runs.depth_eq (h : Runs p ss ⟨[], []⟩) (hw : whole.drop index = ss)
    (ho : Mirrors whole index opened p.pending) :
    ∀ a ∈ activationsFrom opened index ss, a.depth =
      (activationsFrom opened index ss).countP fun b =>
        b.participant = a.participant ∧ a.Inside b := by
  induction ss generalizing p opened index with
  | nil => simp [activationsFrom]
  | cons s ss ih =>
      obtain ⟨hs, hw'⟩ := drop_succ_of_drop hw
      cases h with
      | call top next => exact ih next hw' (ho.call hs)
      | @reply m _ _ _ _ due next =>
          obtain ⟨n, rest, rfl, -, hn, hrest, hmirror⟩ := ho.pop
          rw [activationsFrom_return]
          have hlater := next.first_of_later hw' hmirror hrest
          intro a ha
          rcases List.mem_cons.mp ha with rfl | ha
          · have hcount : rest.countP (fun o => o.1 = m.receiver) =
                (activationsFrom rest (index + 1) ss).countP fun b =>
                  b.participant = m.receiver ∧ b.first < index + 1 := by
              conv_lhs => rw [← next.begun_eq hw' hmirror]
              rw [begun, List.countP_filter, List.countP_map]
              exact List.countP_congr fun b _ => by simp
            rw [List.countP_cons_of_neg (by simp [Activation.Inside])]
            refine hcount.trans (List.countP_congr fun b hb => ?_)
            obtain ⟨hlast, hfirst⟩ := hlater b hb
            rw [decide_eq_true_iff, decide_eq_true_iff]
            refine and_congr_right fun _ => ?_
            show b.first < index + 1 ↔ b.first < n ∧ index < b.last
            omega
          · rw [List.countP_cons_of_neg]
            · exact ih next hw' hmirror a ha
            · intro hinside
              have hlt : a.last < index := (of_decide_eq_true hinside).2.2
              have := (hlater a ha).1
              omega

/-- The activations that close are those of the calls that return: those that are pending and
those that are still to come. -/
theorem Runs.perm_activations (h : Runs p ss ⟨[], []⟩) (hw : whole.drop index = ss)
    (ho : Mirrors whole index opened p.pending) :
    ((activationsFrom opened index ss).map fun a =>
        (a.participant, whole[a.first]?, whole[a.last]?)).Perm
      ((p.pending ++ p.coming.filter fun m => !m.isAsync).map fun m =>
        (m.receiver, some m.call, some m.return)) := by
  induction ss generalizing p opened index with
  | nil =>
      cases h
      exact .refl _
  | cons s ss ih =>
      obtain ⟨hs, hw'⟩ := drop_succ_of_drop hw
      cases h with
      | @call m pending coming _ _ top next =>
          refine (ih next hw' (ho.call hs)).trans (List.Perm.map _ ?_)
          cases hm : m.isAsync with
          | true => simp [hm]
          | false =>
              rw [List.filter_cons_of_pos (by simp [hm])]
              exact List.perm_middle.symm
      | @reply m pending coming _ _ due next =>
          obtain ⟨n, rest, rfl, hn, -, -, hmirror⟩ := ho.pop
          rw [activationsFrom_return, List.map_cons]
          simp only [hn, hs, List.cons_append, List.map_cons]
          exact (ih next hw' hmirror).cons _

theorem Runs.perm_steps (h : Runs p ss ⟨[], []⟩) :
    ss.Perm (p.pending.map Message.return ++ p.coming.flatMap Message.exchange) := by
  induction ss generalizing p with
  | nil =>
      cases h
      exact .refl _
  | cons s ss ih =>
      cases h with
      | @call m pending coming _ _ top next =>
          have hnext := (ih next).cons m.call
          cases hm : m.isAsync with
          | true =>
              simp only [hm, ↓reduceIte] at hnext
              simp only [List.flatMap_cons, Message.exchange, hm, ↓reduceIte, List.cons_append,
                List.nil_append]
              exact hnext.trans List.perm_middle.symm
          | false =>
              simp only [hm, Bool.false_eq_true, ↓reduceIte] at hnext
              simp only [List.flatMap_cons, Message.exchange, hm, Bool.false_eq_true, ↓reduceIte]
              exact hnext.trans (List.perm_append_comm_assoc [m.call, m.return] _ _)
      | reply due next => exact (ih next).cons _

end

theorem nodup_steps {ms : List Message} (h : (ms.map Message.index).Nodup) :
    ((steps ms).map fun s => (s.kind, s.message)).Nodup := by
  have hperm := (steps_runs ms).perm_steps.map fun s => (s.kind, s.message)
  have hmem : ∀ {m : Message} {k : StepKind × Nat},
      k ∈ m.exchange.map (fun s => (s.kind, s.message)) → k.2 = m.index := by
    intro m k hk
    cases hm : m.isAsync <;>
      simp only [Message.exchange, hm, Bool.false_eq_true, ↓reduceIte, List.map_cons, List.map_nil,
        List.mem_cons, List.not_mem_nil, or_false, Message.call, Message.return] at hk
    · rcases hk with rfl | rfl <;> rfl
    · rw [hk]
  rw [hperm.nodup_iff, List.map_nil, List.nil_append, List.map_flatMap, List.nodup_flatMap]
  refine ⟨?_, ?_⟩
  · intro m _
    cases hm : m.isAsync <;> simp [Message.exchange, hm, Message.call, Message.return]
  · refine (List.pairwise_map.mp h).imp fun hne => ?_
    intro k hk hk'
    exact hne ((hmem hk).symm.trans (hmem hk'))

/-- **Activations are the synchronous messages of a document.** When the messages have different
indices, no two calls and no two returns of the timeline belong to the same message. There is one
activation for each synchronous message, and no other: its participant is the receiver, its first
step is the call and its last step is the return of that message. Activations of one participant
have no step in common or lie strictly inside one another, and the depth of each is the number of
those around it. -/
theorem activations_steps (ms : List Message) (h : (ms.map Message.index).Nodup) :
    ((steps ms).map fun s => (s.kind, s.message)).Nodup ∧
    ((activations (steps ms)).map fun a =>
        (a.participant, (steps ms)[a.first]?, (steps ms)[a.last]?)).Perm
      ((ms.filter fun m => !m.isAsync).map fun m => (m.receiver, some m.call, some m.return)) ∧
    ((activations (steps ms)).Pairwise fun a b => a.participant = b.participant →
      a.Apart b ∨ a.Inside b ∨ b.Inside a) ∧
    ∀ a ∈ activations (steps ms), a.depth =
      (activations (steps ms)).countP fun b =>
        b.participant = a.participant ∧ a.Inside b := by
  have hrun := steps_runs ms
  have hopen : Mirrors (steps ms) 0 [] [] := ⟨.nil, .nil, by simp⟩
  refine ⟨nodup_steps h, ?_, ?_, hrun.depth_eq rfl hopen⟩
  · exact hrun.perm_activations rfl hopen
  · refine (hrun.pairwise_activations rfl hopen).imp ?_
    rintro a b (hinside | hapart) -
    · exact Or.inr (Or.inl hinside)
    · exact Or.inl (Or.inl hapart)

/-- A document in which `B` calls itself, and is called again by someone it waits for. -/
def reentrant : List Message :=
  [⟨0, "A", "B", "ask", some "answer", 1, false⟩, ⟨1, "B", "B", "think", none, 2, false⟩,
    ⟨2, "B", "C", "tell", none, 3, true⟩, ⟨3, "B", "A", "ask back", none, 4, false⟩,
    ⟨4, "A", "B", "insist", none, 5, false⟩]

theorem activations_steps_reentrant :
    (reentrant.map Message.index).Nodup ∧
    activations (steps reentrant) =
      [⟨"B", 1, 2, 1⟩, ⟨"B", 5, 6, 1⟩, ⟨"A", 4, 7, 0⟩, ⟨"B", 0, 8, 0⟩] ∧
    ((activations (steps reentrant)).map fun a =>
        (a.participant, (steps reentrant)[a.first]?, (steps reentrant)[a.last]?)).Perm
      ((reentrant.filter fun m => !m.isAsync).map fun m =>
        (m.receiver, some m.call, some m.return)) ∧
    ∀ a ∈ activations (steps reentrant), a.depth =
      (activations (steps reentrant)).countP fun b =>
        b.participant = a.participant ∧ a.Inside b :=
  have h := activations_steps reentrant (by decide)
  ⟨by decide, by decide, h.2.1, h.2.2.2⟩

end Timeline

end Lifeline
