import Lifeline.Timeline.Activation
import Mathlib.Data.List.Nodup
import Mathlib.Data.Set.Card

/-! # Activations are matched brackets

The steps that concern one participant are brackets: a synchronous call to it opens one, a return
from it closes one, and nothing else counts (`brackets`). Two brackets match when what stands
between them is balanced (`Matched`). Any list of steps may be read this way, also one with
returns that answer no call and calls that never return.

The open activations of all participants are kept in one list. `filter_activationsFrom` shows that
each participant still reads its own brackets with a stack of its own (`pairs`),
`openAfter_eq_cons_iff` that the top of such a stack is the opening whose partner would come next,
and `activations_matched` that activations are exactly the pairs of matched brackets. -/

namespace Lifeline

/-- A bracket of a participant. -/
inductive Bracket
  | opening
  | closing
  deriving DecidableEq, Repr

/-- A synchronous call opens a bracket of its target, and a return closes one of its source. -/
def Step.bracket? (id : String) (s : Step) : Option Bracket :=
  match s.kind with
  | .call => if s.target = id ∧ s.isAsync = false then some .opening else none
  | .return => if s.source = id then some .closing else none

namespace Timeline

/-- The brackets of a participant with their places, where the first step has the place `index`. -/
def bracketsFrom (id : String) (index : Nat) (ss : List Step) : List (Nat × Bracket) :=
  (ss.zipIdx index).filterMap fun (s, place) => (s.bracket? id).map fun b => (place, b)

/-- The brackets of a participant, each with its place in the timeline. -/
def brackets (id : String) (ss : List Step) : List (Nat × Bracket) := bracketsFrom id 0 ss

/-- Every bracket has its partner. -/
inductive Balanced : List (Nat × Bracket) → Prop
  | nil : Balanced []
  | pair {inside behind : List (Nat × Bracket)} (i j : Nat) (hinside : Balanced inside)
      (hbehind : Balanced behind) :
      Balanced ((i, .opening) :: (inside ++ (j, .closing) :: behind))

/-- The brackets at two places match: what stands between them is balanced. -/
def Matched (es : List (Nat × Bracket)) (i j : Nat) : Prop :=
  ∃ before inside after, es = before ++ (i, .opening) :: (inside ++ (j, .closing) :: after) ∧
    Balanced inside

/-- The bracket at a place is opened and has no partner. -/
def Unclosed (es : List (Nat × Bracket)) (i : Nat) : Prop :=
  (i, .opening) ∈ es ∧ ∀ j, ¬ Matched es i j

/-! ### The brackets of one participant -/

/-- The places of the brackets that are open after others, innermost first. -/
def openAfter (opened : List Nat) : List (Nat × Bracket) → List Nat
  | [] => opened
  | (place, .opening) :: es => openAfter (place :: opened) es
  | (_, .closing) :: es => openAfter opened.tail es

/-- The activations of a participant, read off its brackets with a stack. -/
def pairs (id : String) (opened : List Nat) : List (Nat × Bracket) → List Activation
  | [] => []
  | (place, .opening) :: es => pairs id (place :: opened) es
  | (place, .closing) :: es =>
    match opened with
    | [] => pairs id [] es
    | first :: opened => ⟨id, first, place, opened.length⟩ :: pairs id opened es

section
variable {id : String} {opened rest : List Nat} {es es' before inside : List (Nat × Bracket)}
  {i j place : Nat} {b : Bracket} {a : Activation}

theorem openAfter_append (opened : List Nat) (es es' : List (Nat × Bracket)) :
    openAfter opened (es ++ es') = openAfter (openAfter opened es) es' := by
  induction es generalizing opened with
  | nil => rfl
  | cons e es ih =>
      obtain ⟨place, _ | _⟩ := e
      · exact ih (place :: opened)
      · exact ih opened.tail

theorem Balanced.append (h : Balanced es) (h' : Balanced es') : Balanced (es ++ es') := by
  induction h with
  | nil => exact h'
  | pair i j hinside _ _ ih =>
      rw [List.cons_append, List.append_assoc, List.cons_append]
      exact .pair i j hinside ih

theorem Balanced.openAfter_eq (h : Balanced es) (opened : List Nat) :
    openAfter opened es = opened := by
  induction h generalizing opened with
  | nil => rfl
  | pair i j _ _ ihinside ihbehind =>
      rw [openAfter, openAfter_append, ihinside, openAfter, ihbehind, List.tail_cons]

/-- The top of the stack is the last opening behind which all is balanced. -/
theorem openAfter_eq_cons_iff : openAfter [] es = i :: rest ↔
    ∃ before inside, es = before ++ (i, .opening) :: inside ∧ Balanced inside ∧
      openAfter [] before = rest := by
  constructor
  · -- a closing pops the opening that its partner has pushed, so shorter lists come in twice
    induction hn : es.length using Nat.strong_induction_on generalizing es i rest with
    | _ n ih =>
        intro h
        rcases List.eq_nil_or_concat es with rfl | ⟨es, ⟨place, _ | _⟩, rfl⟩
        · simp [openAfter] at h
        · rw [List.concat_eq_append, openAfter_append] at h
          obtain ⟨rfl, rfl⟩ := List.cons.inj h
          exact ⟨es, [], by simp, .nil, rfl⟩
        · rw [List.concat_eq_append, openAfter_append] at h
          rw [List.length_concat] at hn
          obtain ⟨k, hk⟩ : ∃ k, openAfter [] es = k :: i :: rest := by
            cases hes : openAfter [] es with
            | nil => simp [hes, openAfter] at h
            | cons k opened =>
                rw [hes] at h
                exact ⟨k, congrArg _ h⟩
          obtain ⟨before, inner, rfl, hinner, hbefore⟩ := ih es.length (by omega) rfl hk
          obtain ⟨front, outer, rfl, houter, hfront⟩ :=
            ih before.length (by simp at hn; omega) rfl hbefore
          refine ⟨front, outer ++ (k, .opening) :: (inner ++ [(place, .closing)]), ?_, ?_, hfront⟩
          · simp
          · exact houter.append (.pair k place hinner .nil)
  · rintro ⟨before, inside, rfl, hinside, hbefore⟩
    rw [openAfter_append, openAfter, hinside.openAfter_eq, hbefore]

theorem matched_concat_iff : Matched (es ++ [(place, b)]) i j ↔
    Matched es i j ∨ b = .closing ∧ j = place ∧ (openAfter [] es).head? = some i := by
  constructor
  · rintro ⟨before, inside, after, heq, hinside⟩
    rcases List.eq_nil_or_concat after with rfl | ⟨after, e, rfl⟩
    · have heq' : es ++ [(place, b)] = (before ++ (i, .opening) :: inside) ++ [(j, .closing)] := by
        simpa using heq
      obtain ⟨rfl, hlast⟩ := List.append_inj' heq' rfl
      obtain ⟨rfl, rfl⟩ := Prod.mk.inj (List.singleton_inj.mp hlast)
      have htop : openAfter [] (before ++ (i, .opening) :: inside) = i :: openAfter [] before :=
        openAfter_eq_cons_iff.mpr ⟨before, inside, rfl, hinside, rfl⟩
      exact Or.inr ⟨rfl, rfl, by rw [htop, List.head?_cons]⟩
    · have heq' : es ++ [(place, b)] =
          (before ++ (i, .opening) :: (inside ++ (j, .closing) :: after)) ++ [e] := by
        simpa using heq
      exact Or.inl ⟨before, inside, after, (List.append_inj' heq' rfl).1, hinside⟩
  · rintro (⟨before, inside, after, rfl, hinside⟩ | ⟨rfl, rfl, htop⟩)
    · exact ⟨before, inside, after ++ [(place, b)], by simp, hinside⟩
    · obtain ⟨rest, hrest⟩ := List.head?_eq_some_iff.mp htop
      obtain ⟨before, inside, rfl, hinside, -⟩ := openAfter_eq_cons_iff.mp hrest
      exact ⟨before, inside, [], by simp, hinside⟩

theorem Matched.opening_mem (h : Matched es i j) : (i, .opening) ∈ es := by
  obtain ⟨before, inside, after, rfl, -⟩ := h
  simp

theorem unclosed_concat_opening (h : place ∉ es.map Prod.fst) :
    Unclosed (es ++ [(place, .opening)]) i ↔ i = place ∨ Unclosed es i := by
  have hfresh : ∀ j, ¬ Matched es place j := fun j hj =>
    h (List.mem_map.mpr ⟨_, hj.opening_mem, rfl⟩)
  unfold Unclosed
  simp only [matched_concat_iff, List.mem_append, List.mem_singleton, Prod.mk.injEq, and_true,
    reduceCtorEq, false_and, or_false]
  constructor
  · rintro ⟨hmem | rfl, hnone⟩
    · exact Or.inr ⟨hmem, hnone⟩
    · exact Or.inl rfl
  · rintro (rfl | ⟨hmem, hnone⟩)
    · exact ⟨Or.inr rfl, hfresh⟩
    · exact ⟨Or.inl hmem, hnone⟩

theorem unclosed_concat_closing : Unclosed (es ++ [(place, .closing)]) i ↔
    Unclosed es i ∧ (openAfter [] es).head? ≠ some i := by
  unfold Unclosed
  simp only [matched_concat_iff, List.mem_append, List.mem_singleton, Prod.mk.injEq, and_false,
    reduceCtorEq, or_false, true_and, not_or, forall_and, not_and, forall_eq, ne_eq, and_assoc]

theorem openAfter_sublist (es : List (Nat × Bracket)) :
    (openAfter [] es).Sublist (es.map Prod.fst).reverse := by
  induction es using List.reverseRecOn with
  | nil => exact .slnil
  | append_singleton es e ih =>
      rw [openAfter_append, List.map_append, List.reverse_append]
      obtain ⟨place, _ | _⟩ := e
      · exact ih.cons_cons place
      · exact ((List.tail_sublist _).trans ih).cons place

theorem nodup_openAfter (h : (es.map Prod.fst).Nodup) : (openAfter [] es).Nodup :=
  (List.nodup_reverse.mpr h).sublist (openAfter_sublist es)

theorem mem_openAfter_iff (h : (es.map Prod.fst).Nodup) : i ∈ openAfter [] es ↔ Unclosed es i := by
  induction es using List.reverseRecOn with
  | nil => simp [openAfter, Unclosed]
  | append_singleton es e ih =>
      rw [List.map_append, List.nodup_append'] at h
      obtain ⟨hes, -, hplace⟩ := h
      have hstack := nodup_openAfter hes
      rw [openAfter_append]
      obtain ⟨place, _ | _⟩ := e
      · rw [unclosed_concat_opening (fun hmem => hplace hmem (by simp)), ← ih hes]
        exact List.mem_cons
      · rw [unclosed_concat_closing, ← ih hes, openAfter, openAfter]
        cases hopen : openAfter [] es with
        | nil => simp
        | cons k opened =>
            rw [hopen, List.nodup_cons] at hstack
            rw [List.tail_cons, List.head?_cons, List.mem_cons, ne_eq, Option.some.injEq]
            constructor
            · intro hi
              refine ⟨Or.inr hi, ?_⟩
              rintro rfl
              exact hstack.1 hi
            · rintro ⟨rfl | hi, hne⟩
              · exact absurd rfl hne
              · exact hi

theorem exists_append_cons_iff {α : Type} {e x : α} {es : List α} {P : List α → Prop} :
    (∃ before after, e :: es = before ++ x :: after ∧ P before) ↔
      e = x ∧ P [] ∨ ∃ before after, es = before ++ x :: after ∧ P (e :: before) := by
  constructor
  · rintro ⟨_ | ⟨e', before⟩, after, heq, hP⟩
    · exact Or.inl ⟨(List.cons.inj heq).1, hP⟩
    · obtain ⟨rfl, rfl⟩ := List.cons.inj heq
      exact Or.inr ⟨before, after, rfl, hP⟩
  · rintro (⟨rfl, hP⟩ | ⟨before, after, rfl, hP⟩)
    · exact ⟨[], es, rfl, hP⟩
    · exact ⟨e :: before, after, rfl, hP⟩

/-- A closing bracket ends the activation that the top of the stack has begun. -/
theorem mem_pairs_iff : a ∈ pairs id opened es ↔ a.participant = id ∧
    ∃ before after, es = before ++ (a.last, .closing) :: after ∧
      ∃ rest, openAfter opened before = a.first :: rest ∧ a.depth = rest.length := by
  induction es generalizing opened with
  | nil => simp [pairs]
  | cons e es ih =>
      rw [exists_append_cons_iff]
      obtain ⟨place, _ | _⟩ := e
      · simp only [pairs, ih, openAfter, Prod.mk.injEq, reduceCtorEq, and_false, false_and,
          false_or]
      · cases opened with
        | nil =>
            simp only [pairs, ih, openAfter, List.tail_nil, reduceCtorEq, false_and, exists_false,
              and_false, false_or]
        | cons first opened =>
            simp only [pairs, List.mem_cons, ih, openAfter, List.tail_cons, Prod.mk.injEq, and_true,
              List.cons.injEq, and_or_left]
            refine or_congr_left ?_
            constructor
            · rintro rfl
              exact ⟨rfl, rfl, opened, ⟨rfl, rfl⟩, rfl⟩
            · rintro ⟨rfl, hlast, rest, ⟨hfirst, rfl⟩, hdepth⟩
              cases a
              simp_all

end

/-! ### The brackets of all participants -/

/-- The first steps of the open activations of a participant, innermost first. -/
def own (id : String) (opened : Open) : List Nat :=
  (opened.filter fun o => o.1 = id).map Prod.snd

section
variable {id p : String} {opened rest : Open} {first index : Nat} {s : Step} {ss : List Step}

theorem own_cons_self : own id ((id, first) :: opened) = first :: own id opened := by
  simp [own]

theorem own_cons_of_ne (h : p ≠ id) : own id ((p, first) :: opened) = own id opened := by
  simp [own, h]

theorem own_of_closeInnermost?_eq_none (h : closeInnermost? id opened = none) :
    own id opened = [] := by
  induction opened with
  | nil => rfl
  | cons o opened ih =>
      obtain ⟨p, n⟩ := o
      by_cases hp : p = id
      · simp [closeInnermost?, hp] at h
      · rw [own_cons_of_ne hp]
        exact ih (by simpa [closeInnermost?, hp] using h)

theorem own_of_closeInnermost?_eq_some (h : closeInnermost? id opened = some (first, rest)) :
    own id opened = first :: own id rest ∧ ∀ p, p ≠ id → own p opened = own p rest := by
  induction opened generalizing rest with
  | nil => simp [closeInnermost?] at h
  | cons o opened ih =>
      obtain ⟨q, n⟩ := o
      by_cases hq : q = id
      · subst hq
        obtain ⟨rfl, rfl⟩ : n = first ∧ opened = rest := by simpa [closeInnermost?] using h
        exact ⟨own_cons_self, fun p hp => own_cons_of_ne hp.symm⟩
      · rw [closeInnermost?, if_neg hq, Option.map_eq_some_iff] at h
        obtain ⟨⟨m, rest'⟩, hclose, heq⟩ := h
        obtain ⟨rfl, rfl⟩ := Prod.mk.inj heq
        obtain ⟨hself, hothers⟩ := ih hclose
        refine ⟨?_, fun p hp => ?_⟩
        · rw [own_cons_of_ne hq, own_cons_of_ne hq, hself]
        · by_cases hpq : q = p
          · subst hpq
            rw [own_cons_self, own_cons_self, hothers q hp]
          · rw [own_cons_of_ne hpq, own_cons_of_ne hpq, hothers p hp]

theorem length_own (id : String) (opened : Open) :
    (own id opened).length = opened.countP fun o => o.1 = id := by
  rw [own, List.length_map, List.countP_eq_length_filter]

theorem bracketsFrom_cons (id : String) (index : Nat) (s : Step) (ss : List Step) :
    bracketsFrom id index (s :: ss) =
      match s.bracket? id with
      | some b => (index, b) :: bracketsFrom id (index + 1) ss
      | none => bracketsFrom id (index + 1) ss := by
  cases hs : s.bracket? id <;> simp [bracketsFrom, hs]

/-- The activations of a participant are those that its own brackets give: what other participants
do, and asynchronous calls, leave its stack as it is. -/
theorem filter_activationsFrom (id : String) (opened : Open) (index : Nat) (ss : List Step) :
    (activationsFrom opened index ss).filter (fun a => a.participant = id) =
      pairs id (own id opened) (bracketsFrom id index ss) := by
  induction ss generalizing opened index with
  | nil => rfl
  | cons s ss ih =>
      rw [bracketsFrom_cons, activationsFrom, Step.bracket?]
      cases s.kind with
      | call =>
          cases hasync : s.isAsync with
          | true => simpa using ih opened (index + 1)
          | false =>
              by_cases htarget : s.target = id
              · subst htarget
                simpa [pairs, own_cons_self] using ih ((s.target, index) :: opened) (index + 1)
              · simpa [htarget, own_cons_of_ne htarget] using
                  ih ((s.target, index) :: opened) (index + 1)
      | «return» =>
          by_cases hsource : s.source = id
          · subst hsource
            cases hclose : closeInnermost? s.source opened with
            | none =>
                have hown := own_of_closeInnermost?_eq_none hclose
                simpa [pairs, hown] using ih opened (index + 1)
            | some found =>
                obtain ⟨hown, -⟩ := own_of_closeInnermost?_eq_some hclose
                simpa [pairs, hown, length_own] using ih found.2 (index + 1)
          · cases hclose : closeInnermost? s.source opened with
            | none => simpa [hsource] using ih opened (index + 1)
            | some found =>
                obtain ⟨-, hothers⟩ := own_of_closeInnermost?_eq_some hclose
                rw [hothers id (Ne.symm hsource)]
                simpa [hsource] using ih found.2 (index + 1)

theorem le_of_mem_bracketsFrom {e : Nat × Bracket} (h : e ∈ bracketsFrom id index ss) :
    index ≤ e.1 := by
  induction ss generalizing index with
  | nil => simp [bracketsFrom] at h
  | cons s ss ih =>
      rw [bracketsFrom_cons] at h
      cases hs : s.bracket? id with
      | none =>
          rw [hs] at h
          exact (ih h).trans' (Nat.le_succ index)
      | some b =>
          rw [hs] at h
          rcases List.mem_cons.mp h with rfl | h
          · exact Nat.le_refl index
          · exact (ih h).trans' (Nat.le_succ index)

theorem pairwise_bracketsFrom (id : String) (index : Nat) (ss : List Step) :
    (bracketsFrom id index ss).Pairwise fun e e' => e.1 < e'.1 := by
  induction ss generalizing index with
  | nil => exact .nil
  | cons s ss ih =>
      rw [bracketsFrom_cons]
      cases s.bracket? id with
      | none => exact ih (index + 1)
      | some b =>
          exact List.pairwise_cons.mpr ⟨fun e he => le_of_mem_bracketsFrom he, ih (index + 1)⟩

theorem nodup_brackets (id : String) (ss : List Step) : ((brackets id ss).map Prod.fst).Nodup :=
  List.pairwise_map.mpr ((pairwise_bracketsFrom id 0 ss).imp Nat.ne_of_lt)

theorem bracketsFrom_take (id : String) (index n : Nat) (ss : List Step) :
    bracketsFrom id index (ss.take n) =
      (bracketsFrom id index ss).filter fun e => e.1 < index + n := by
  induction ss generalizing index n with
  | nil => simp [bracketsFrom]
  | cons s ss ih =>
      cases n with
      | zero =>
          rw [List.take_zero, eq_comm, Nat.add_zero]
          exact List.filter_eq_nil_iff.mpr fun e he => by
            simpa using le_of_mem_bracketsFrom he
      | succ n =>
          have hindex : index + 1 + n = index + (n + 1) := by omega
          rw [List.take_succ_cons, bracketsFrom_cons, bracketsFrom_cons, ih, hindex]
          cases s.bracket? id with
          | none => rfl
          | some b => rw [List.filter_cons_of_pos (by simp)]

theorem brackets_take {before after : List (Nat × Bracket)} {place : Nat} {b : Bracket}
    (h : brackets id ss = before ++ (place, b) :: after) :
    brackets id (ss.take (place + 1)) = before ++ [(place, b)] := by
  have hsorted := pairwise_bracketsFrom id 0 ss
  change (brackets id ss).Pairwise _ at hsorted
  rw [h, List.pairwise_append, List.pairwise_cons] at hsorted
  obtain ⟨-, ⟨hafter, -⟩, hbefore⟩ := hsorted
  rw [brackets, bracketsFrom_take, Nat.zero_add]
  change (brackets id ss).filter _ = _
  rw [h, List.filter_append, List.filter_cons_of_pos (by simp)]
  congr 1
  · refine List.filter_eq_self.mpr fun e he => ?_
    have := hbefore e he (place, b) List.mem_cons_self
    simp only [decide_eq_true_eq]
    omega
  · refine congrArg _ (List.filter_eq_nil_iff.mpr fun e he => ?_)
    have := hafter e he
    simp only [decide_eq_true_eq]
    omega

theorem perm_of_closeInnermost? (h : closeInnermost? id opened = some (first, rest)) :
    opened.Perm ((id, first) :: rest) := by
  induction opened generalizing rest with
  | nil => simp [closeInnermost?] at h
  | cons o opened ih =>
      obtain ⟨q, n⟩ := o
      by_cases hq : q = id
      · subst hq
        obtain ⟨rfl, rfl⟩ : n = first ∧ opened = rest := by simpa [closeInnermost?] using h
        exact .refl _
      · rw [closeInnermost?, if_neg hq, Option.map_eq_some_iff] at h
        obtain ⟨⟨m, rest'⟩, hclose, heq⟩ := h
        obtain ⟨rfl, rfl⟩ := Prod.mk.inj heq
        exact ((ih hclose).cons (q, n)).trans (.swap _ _ rest')

/-- Behind a closing bracket the open ones of the participant are the stack below its partner. -/
theorem ncard_unclosed {before after : List (Nat × Bracket)} {place i : Nat} {below : List Nat}
    (h : brackets id ss = before ++ (place, .closing) :: after)
    (hopen : openAfter [] before = i :: below) :
    {k | Unclosed (brackets id (ss.take (place + 1))) k}.ncard = below.length := by
  have hnodup := nodup_brackets id (ss.take (place + 1))
  have hbelow : openAfter [] (brackets id (ss.take (place + 1))) = below := by
    rw [brackets_take h, openAfter_append, hopen]
    rfl
  have hset : {k | Unclosed (brackets id (ss.take (place + 1))) k} =
      (below.toFinset : Set Nat) := by
    ext k
    rw [Set.mem_ofPred_eq, ← mem_openAfter_iff hnodup, hbelow, List.coe_toFinset, Set.mem_ofPred_eq]
  rw [hset, Set.ncard_coe_finset, List.toFinset_card_of_nodup (hbelow ▸ nodup_openAfter hnodup)]

theorem mem_activations_iff {a : Activation} :
    a ∈ activations ss ↔ a ∈ pairs a.participant [] (brackets a.participant ss) := by
  have hpairs := filter_activationsFrom a.participant [] 0 ss
  change (activations ss).filter _ = pairs _ [] (brackets _ ss) at hpairs
  rw [← hpairs, List.mem_filter]
  simp

/-- Activations end one after the other, and each has a first step of its own. -/
theorem pairwise_activationsFrom (opened : Open) (index : Nat) (ss : List Step)
    (hfresh : ∀ n ∈ opened.map Prod.snd, n < index)
    (hnodup : (opened.map Prod.snd).Nodup) :
    ((activationsFrom opened index ss).Pairwise fun a b => a.last < b.last ∧ a.first ≠ b.first) ∧
      ∀ a ∈ activationsFrom opened index ss,
        index ≤ a.last ∧ (a.first ∈ opened.map Prod.snd ∨ index ≤ a.first) := by
  induction ss generalizing opened index with
  | nil => simp [activationsFrom]
  | cons s ss ih =>
      have hfresh' : ∀ n ∈ opened.map Prod.snd, n < index + 1 := fun n hn =>
        Nat.lt_succ_of_lt (hfresh n hn)
      obtain ⟨hpass, hbounds⟩ := ih opened (index + 1) hfresh' hnodup
      have hskip : ∀ a ∈ activationsFrom opened (index + 1) ss,
          index ≤ a.last ∧ (a.first ∈ opened.map Prod.snd ∨ index ≤ a.first) := fun a ha =>
        (hbounds a ha).imp Nat.le_of_succ_le (Or.imp_right Nat.le_of_succ_le)
      rw [activationsFrom]
      cases s.kind with
      | call =>
          cases s.isAsync with
          | true => exact ⟨hpass, hskip⟩
          | false =>
              have hnew : index ∉ opened.map Prod.snd := fun h => Nat.lt_irrefl _ (hfresh index h)
              obtain ⟨hpush, hbounds⟩ := ih ((s.target, index) :: opened) (index + 1)
                (List.forall_mem_cons.mpr ⟨Nat.lt_succ_self index, hfresh'⟩)
                (List.nodup_cons.mpr ⟨hnew, hnodup⟩)
              refine ⟨hpush, fun a ha => ?_⟩
              obtain ⟨hlast, hfirst⟩ := hbounds a ha
              refine ⟨Nat.le_of_succ_le hlast, ?_⟩
              rcases hfirst with hfirst | hfirst
              · rcases List.mem_cons.mp hfirst with heq | hmem
                · exact Or.inr heq.ge
                · exact Or.inl hmem
              · exact Or.inr (Nat.le_of_succ_le hfirst)
      | «return» =>
          cases hclose : closeInnermost? s.source opened with
          | none => exact ⟨hpass, hskip⟩
          | some found =>
              obtain ⟨first, rest⟩ := found
              have hperm := (perm_of_closeInnermost? hclose).map Prod.snd
              obtain ⟨hfirst, hrest⟩ : first ∉ rest.map Prod.snd ∧ (rest.map Prod.snd).Nodup :=
                List.nodup_cons.mp (hperm.nodup_iff.mp hnodup)
              obtain ⟨hpop, hbounds⟩ := ih rest (index + 1)
                (fun n hn => hfresh' n (hperm.mem_iff.mpr (List.mem_cons_of_mem _ hn))) hrest
              have hmem : first ∈ opened.map Prod.snd := hperm.mem_iff.mpr List.mem_cons_self
              refine ⟨List.pairwise_cons.mpr ⟨fun a ha => ?_, hpop⟩,
                List.forall_mem_cons.mpr ⟨⟨Nat.le_refl index, Or.inl hmem⟩, fun a ha => ?_⟩⟩
              · obtain ⟨hlast, hmem' | hle⟩ := hbounds a ha
                · exact ⟨hlast, fun heq : first = a.first => hfirst (heq ▸ hmem')⟩
                · exact ⟨hlast, (Nat.lt_of_lt_of_le (hfresh' first hmem) hle).ne⟩
              · obtain ⟨hlast, hfirst⟩ := hbounds a ha
                refine ⟨Nat.le_of_succ_le hlast, hfirst.imp (fun h => ?_) Nat.le_of_succ_le⟩
                exact hperm.mem_iff.mpr (List.mem_cons_of_mem _ h)

end

/-- **Activations are the matched brackets of their participants.** For any list of steps, an
activation is reported exactly if its first and its last step are matching brackets of its
participant, read without the steps that do not concern it; its depth is the number of brackets of
the participant that are open, also if they are never closed, once the last step is done.
Activations are listed in the order of their last steps, and no step begins or ends two of them. -/
theorem activations_matched (ss : List Step) :
    (∀ a, a ∈ activations ss ↔
      Matched (brackets a.participant ss) a.first a.last ∧
      a.depth = {i | Unclosed (brackets a.participant (ss.take (a.last + 1))) i}.ncard) ∧
    (activations ss).Pairwise fun a b => a.last < b.last ∧ a.first ≠ b.first := by
  refine ⟨fun a => ?_, (pairwise_activationsFrom [] 0 ss (by simp) .nil).1⟩
  rw [mem_activations_iff, mem_pairs_iff]
  constructor
  · rintro ⟨-, before, after, hbrackets, below, hopen, hdepth⟩
    refine ⟨?_, hdepth.trans (ncard_unclosed hbrackets hopen).symm⟩
    obtain ⟨front, inside, rfl, hinside, -⟩ := openAfter_eq_cons_iff.mp hopen
    exact ⟨front, inside, after, by simp [hbrackets], hinside⟩
  · rintro ⟨⟨front, inside, after, hbrackets, hinside⟩, hdepth⟩
    have hopen : openAfter [] (front ++ (a.first, .opening) :: inside) =
        a.first :: openAfter [] front :=
      openAfter_eq_cons_iff.mpr ⟨front, inside, rfl, hinside, rfl⟩
    have hsplit : brackets a.participant ss =
        (front ++ (a.first, .opening) :: inside) ++ (a.last, .closing) :: after := by
      simp [hbrackets]
    exact ⟨rfl, _, after, hsplit, _, hopen, hdepth.trans (ncard_unclosed hsplit hopen)⟩

/-- The first return answers no call, and the first call never returns: it counts as open around
the second one. -/
example : activations [⟨.return, "B", "A", "", 0, false⟩, ⟨.call, "A", "B", "", 1, false⟩,
    ⟨.call, "C", "B", "", 2, false⟩, ⟨.call, "B", "C", "", 3, true⟩,
    ⟨.return, "B", "C", "", 2, false⟩] = [⟨"B", 2, 4, 1⟩] := by
  decide

end Timeline

end Lifeline
