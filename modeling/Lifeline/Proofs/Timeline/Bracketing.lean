import Lifeline.Timeline.Step
import Mathlib.Data.List.TakeDrop
import Mathlib.Data.List.TakeWhile

/-! # The timeline is well bracketed

A timeline is read from front to back with a stack of the calls that still wait for their return
(`Progress`). `Runs p ss q` says that the steps `ss` lead from `p` to `q` by the rules of the
timeline: a message is called only while the stack is empty or the receiver of its top call is the
sender, nothing comes between a call to oneself and its return, and any other call returns only
when no message is left or the next one comes from somebody else.

`steps_runs` shows that the steps of every list of messages are such a run, and
`steps_wellBracketed` spells out what this means for each single step. -/

namespace Lifeline.Timeline

/-- How far the reading of a timeline has come: the calls that wait for their return, innermost
first, and the messages that have not been called yet. -/
structure Progress where
  pending : List Message
  coming : List Message
  deriving DecidableEq, Repr

namespace Progress

/-- Reads a step. A call is that of the next message, and waits for its return unless it is
asynchronous; a return answers the innermost call that waits. -/
def read? (p : Progress) (s : Step) : Option Progress :=
  match s.kind, p.coming, p.pending with
  | .call, m :: rest, _ =>
      if s = ⟨.call, m.sender, m.receiver, m.label, m.index, m.isAsync⟩ then
        some ⟨if m.isAsync then p.pending else m :: p.pending, rest⟩
      else none
  | .return, _, m :: rest =>
      if s = ⟨.return, m.receiver, m.sender, m.reply.getD "", m.index, false⟩ then
        some ⟨rest, p.coming⟩
      else none
  | _, _, _ => none

/-- Reads steps in order. -/
def readAll? (p : Progress) : List Step → Option Progress
  | [] => some p
  | s :: rest => (p.read? s).bind fun q => q.readAll? rest

/-- The step comes at its time, where `after` are the steps behind it. -/
def Timely (p : Progress) (s : Step) (after : List Step) : Prop :=
  (∃ m rest, p.coming = m :: rest ∧ s = m.call ∧
    (∀ top ∈ p.pending.head?, top.receiver = m.sender) ∧
    (m.isAsync = false → m.isSelfCall = true → after.head? = some m.return)) ∨
  ∃ m rest, p.pending = m :: rest ∧ s = m.return ∧
    (m.isSelfCall = true ∨ ∀ next ∈ p.coming.head?, next.sender ≠ m.receiver)

end Progress

/-- The steps lead from one progress to another by the rules of the timeline. -/
inductive Runs : Progress → List Step → Progress → Prop
  | done (p : Progress) : Runs p [] p
  | call {m : Message} {pending coming : List Message} {ss : List Step} {q : Progress}
      (top : ∀ t ∈ pending.head?, t.receiver = m.sender ∧ t.isSelfCall = false)
      (next : Runs ⟨if m.isAsync then pending else m :: pending, coming⟩ ss q) :
      Runs ⟨pending, m :: coming⟩ (m.call :: ss) q
  | reply {m : Message} {pending coming : List Message} {ss : List Step} {q : Progress}
      (due : m.isSelfCall = true ∨ ∀ n ∈ coming.head?, n.sender ≠ m.receiver)
      (next : Runs ⟨pending, coming⟩ ss q) :
      Runs ⟨m :: pending, coming⟩ (m.return :: ss) q

namespace Runs

variable {p q r : Progress} {ss tt : List Step}

theorem trans (h : Runs p ss q) (h' : Runs q tt r) : Runs p (ss ++ tt) r := by
  induction h with
  | done p => exact h'
  | call top _ ih => exact .call top (ih h')
  | reply due _ ih => exact .reply due (ih h')

theorem split (h : Runs p (ss ++ tt) r) : ∃ q, Runs p ss q ∧ Runs q tt r := by
  induction ss generalizing p with
  | nil => exact ⟨p, .done p, h⟩
  | cons s ss ih =>
      cases h with
      | call top next =>
          obtain ⟨q, h₁, h₂⟩ := ih next
          exact ⟨q, .call top h₁, h₂⟩
      | reply due next =>
          obtain ⟨q, h₁, h₂⟩ := ih next
          exact ⟨q, .reply due h₁, h₂⟩

theorem readAll?_eq (h : Runs p ss q) : p.readAll? ss = some q := by
  induction h with
  | done p => rfl
  | call top _ ih => simpa [Progress.readAll?, Progress.read?, Message.call] using ih
  | reply due _ ih => simpa [Progress.readAll?, Progress.read?, Message.return] using ih

theorem calls_eq (h : Runs p ss q) :
    ss.filter Step.isCall ++ q.coming.map Message.call = p.coming.map Message.call := by
  induction h with
  | done p => rfl
  | call top _ ih => simpa [Step.isCall, Message.call] using ih
  | reply due _ ih => simpa [Step.isCall, Message.return] using ih

theorem head?_of_selfCall {m : Message} {pending coming : List Message}
    (h : Runs ⟨m :: pending, coming⟩ ss ⟨[], []⟩) (hm : m.isSelfCall = true) :
    ss.head? = some m.return := by
  cases h with
  | call top next =>
      have := (top m rfl).2
      simp [hm] at this
  | reply due next => rfl

theorem timely {s : Step} (h : Runs p (s :: ss) ⟨[], []⟩) : p.Timely s ss := by
  cases h with
  | @call m pending coming _ _ top next =>
      refine Or.inl ⟨m, coming, rfl, rfl, fun t ht => (top t ht).1, ?_⟩
      intro hsync hself
      simp only [hsync, Bool.false_eq_true, ↓reduceIte] at next
      exact next.head?_of_selfCall hself
  | @reply m pending coming _ _ due next => exact Or.inr ⟨m, pending, rfl, rfl, due⟩

theorem flush (pending : List Message) :
    Runs ⟨pending, []⟩ (pending.map Message.return) ⟨[], []⟩ := by
  induction pending with
  | nil => exact .done _
  | cons m pending ih => exact .reply (Or.inr (by simp)) ih

end Runs

variable {m : Message} {pending coming done still : List Message}

/-- Unwinding splits the stack; the calls in front do not wait for the sender, and the first one
behind them does. -/
theorem unwind_eq {sender : String} (h : unwind sender pending = (done, still)) :
    pending = done ++ still ∧ (∀ t ∈ done, t.receiver ≠ sender) ∧
      ∀ t ∈ still.head?, t.receiver = sender := by
  unfold unwind at h
  rw [List.span_eq_takeWhile_dropWhile] at h
  obtain ⟨rfl, rfl⟩ := Prod.mk.inj h
  refine ⟨(List.takeWhile_append_dropWhile ..).symm, ?_, ?_⟩
  · intro t ht
    simpa using List.mem_takeWhile_imp ht
  · intro t ht
    have := List.head?_dropWhile_not (fun m : Message => decide (m.receiver ≠ sender)) pending
    rw [Option.mem_def.mp ht] at this
    simpa using this

theorem Runs.unwound (h : ∀ t ∈ done, t.receiver ≠ m.sender) :
    Runs ⟨done ++ still, m :: coming⟩ (done.map Message.return) ⟨still, m :: coming⟩ := by
  induction done with
  | nil => exact .done _
  | cons t done ih =>
      refine .reply (Or.inr ?_) (ih fun u hu => h u (List.mem_cons_of_mem t hu))
      intro n hn
      obtain rfl : m = n := by simpa using hn
      exact (h t List.mem_cons_self).symm

/-- From any stack without calls to oneself, the steps of the messages run up to the end. -/
theorem stepsFrom_runs (ms : List Message) (h : ∀ t ∈ pending, t.isSelfCall = false) :
    Runs ⟨pending, ms⟩ (stepsFrom pending ms) ⟨[], []⟩ := by
  induction ms generalizing pending with
  | nil => exact .flush pending
  | cons m ms ih =>
      obtain ⟨⟨done, still⟩, hu⟩ : ∃ u, unwind m.sender pending = u := ⟨_, rfl⟩
      obtain ⟨rfl, hdone, htop⟩ := unwind_eq hu
      have hstill : ∀ t ∈ still, t.isSelfCall = false := fun t ht =>
        h t (List.mem_append_right done ht)
      have hcall : ∀ t ∈ still.head?, t.receiver = m.sender ∧ t.isSelfCall = false := fun t ht =>
        ⟨htop t ht, hstill t (List.mem_of_mem_head? ht)⟩
      simp only [stepsFrom, hu]
      refine (Runs.unwound hdone).trans (.call hcall ?_)
      -- a call to oneself returns at once, so the stack behind the call stays without one
      cases hasync : m.isAsync with
      | true => exact ih hstill
      | false =>
          cases hself : m.isSelfCall with
          | true => exact .reply (Or.inl hself) (ih hstill)
          | false =>
              refine ih ?_
              intro t ht
              rcases List.mem_cons.mp ht with rfl | ht
              · exact hself
              · exact hstill t ht

theorem steps_runs (ms : List Message) : Runs ⟨[], ms⟩ (steps ms) ⟨[], []⟩ :=
  stepsFrom_runs ms (by simp)

/-- **The timeline of any list of messages is well bracketed.** Its calls are those of the messages
in their order; read with a stack, every return answers the innermost open call and none stays
open; a message is called only while the stack is empty or its sender is the receiver of the top
call; a call to oneself returns in the very next step, and any other call returns only after the
last message or while the next message comes from someone else than its receiver. -/
theorem steps_wellBracketed (ms : List Message) :
    (steps ms).filter Step.isCall =
      ms.map (fun m => ⟨.call, m.sender, m.receiver, m.label, m.index, m.isAsync⟩) ∧
    Progress.readAll? ⟨[], ms⟩ (steps ms) = some ⟨[], []⟩ ∧
    ∀ before s after, steps ms = before ++ s :: after →
      ∃ p, Progress.readAll? ⟨[], ms⟩ before = some p ∧ p.Timely s after := by
  have hrun := steps_runs ms
  have hcalls := hrun.calls_eq
  rw [List.map_nil, List.append_nil] at hcalls
  refine ⟨hcalls, hrun.readAll?_eq, ?_⟩
  intro before s after h
  rw [h] at hrun
  obtain ⟨p, hbefore, hafter⟩ := hrun.split
  exact ⟨p, hbefore.readAll?_eq, hafter.timely⟩

end Lifeline.Timeline
