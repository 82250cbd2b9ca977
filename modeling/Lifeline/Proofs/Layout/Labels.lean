import Lifeline.Proofs.Diagram.History
import Lifeline.Proofs.Layout.Placement
import Lifeline.Proofs.Reader.Order
import Mathlib.Algebra.Order.BigOperators.Group.List
import Mathlib.Algebra.Order.Field.Rat
import Mathlib.Data.List.GetD
import Mathlib.Tactic.FieldSimp
import Mathlib.Tactic.Linarith
import Mathlib.Tactic.Ring

/-! # Room for labels

The gaps between headers are widened for one message after the other, and never become narrower. In
exact arithmetic two lifelines are as far apart as the headers and gaps between them are wide
(`span_placedParticipants`). What a label lacks between two lifelines is shared out evenly, but each
share is added to the width that gaps have before anything is widened. So a label has room where the
messages before it have widened none of its gaps, and otherwise it may lack as much as these have
been widened (`labelWidth_le_span`, `Diagram.labels_read`). -/

namespace Lifeline.Layout

/-- The gaps that the label of a message lies above, from left to right; for a call to oneself, the
gap on the right. -/
def spannedGaps (ps : List Participant) (m : Message) : List Nat :=
  match ps.findIdx? fun p => p.id == m.sender, ps.findIdx? fun p => p.id == m.receiver with
  | some i, some j => if i = j then [i] else List.range' (min i j) (max i j - min i j)
  | _, _ => []

/-! ### Sums of distances -/

section
variable {α : Type} {first last : Nat} {ds : List α}

theorem length_between (hlast : last ≤ ds.length) :
    (between first last ds).length = last - first := by
  unfold between
  rw [List.length_take, List.length_drop]
  omega

theorem between_cons (hfirst : first < ds.length) (hlast : first < last) :
    between first last ds = ds[first] :: between (first + 1) last ds := by
  have hcount : last - first = (last - (first + 1)) + 1 := by omega
  rw [between, List.drop_eq_getElem_cons hfirst, hcount, List.take_succ_cons]
  rfl

theorem subset_between (first last : Nat) (ds : List α) : between first last ds ⊆ ds :=
  fun _ hd => List.mem_of_mem_drop (List.mem_of_mem_take hd)

theorem map_range'_eq_between (hlast : last ≤ ds.length) (d : α) :
    (List.range' first (last - first)).map (ds.getD · d) = between first last ds := by
  apply List.ext_getElem
  · rw [List.length_map, List.length_range', length_between hlast]
  · intro n hn hn'
    rw [List.length_map, List.length_range'] at hn
    simp only [between, List.getElem_map, List.getElem_range', List.getElem_take,
      List.getElem_drop, Nat.one_mul]
    exact List.getD_eq_getElem ds d (by omega)

variable [Field α]

theorem total_eq_sum (ds : List α) : total ds = ds.sum := by
  unfold total
  rw [Nat.cast_zero, List.sum_eq_foldl]

theorem sum_take (h : first ≤ last) (ds : List α) :
    (ds.take last).sum = (ds.take first).sum + (between first last ds).sum := by
  have hlast : last = first + (last - first) := by omega
  rw [between, ← List.sum_append, ← List.take_add, ← hlast]

theorem forall₂_le_trans {α : Type} [Preorder α] {ds es fs : List α}
    (h : List.Forall₂ (· ≤ ·) ds es) (h' : List.Forall₂ (· ≤ ·) es fs) :
    List.Forall₂ (· ≤ ·) ds fs := by
  induction h generalizing fs with
  | nil => exact h'
  | cons hde _ ih =>
      cases h' with
      | cons hef hrest => exact .cons (hde.trans hef) (ih hrest)

theorem sum_map_sub (ds : List α) (d : α) :
    (ds.map (· - d)).sum = ds.sum - (ds.length : α) * d := by
  induction ds with
  | nil => simp
  | cons e ds ih =>
      rw [List.map_cons, List.sum_cons, ih, List.sum_cons, List.length_cons, Nat.cast_succ]
      ring

/-- The distance between two lifelines, from left to right, where the headers and the gaps on their
right have these widths. -/
def span (widths gaps : List α) (first last : Nat) : α :=
  half (widths.getD first 0) + half (widths.getD last 0) + (between first last gaps).sum +
    (between (first + 1) last widths).sum

end

/-! ### Widening gaps for one message -/

section
variable {α : Type} [Field α] [LinearOrder α] (c : Config α) {ps : List Participant}
  {widths gaps gaps' : List α} {i j first last slot : Nat} {label : α}

theorem widenGaps_self : widenGaps c widths i i label gaps =
    if i + 1 < gaps.length then
      gaps.modify i (max · (label + c.selfCallWidth - half (widths.getD i 0)))
    else gaps := by
  simp only [widenGaps, if_true, Nat.cast_zero]

/-- What a message between two different participants does to the gaps. -/
theorem widenGaps_of_ne (h : i ≠ j) : widenGaps c widths i j label gaps =
    if span widths gaps (min i j) (max i j) < label then
      gaps.mapIdx fun slot gap =>
        if min i j ≤ slot ∧ slot < max i j then
          max gap (c.participantGap +
            (label - span widths gaps (min i j) (max i j)) / ((max i j - min i j : Nat) : α))
        else gap
    else gaps := by
  simp only [widenGaps, if_neg h, total_eq_sum, span, Nat.cast_zero]
  rfl

theorem le_widenGaps : List.Forall₂ (· ≤ ·) gaps (widenGaps c widths i j label gaps) := by
  refine List.forall₂_iff_get.mpr ⟨(length_widenGaps ..).symm, fun slot hslot hslot' => ?_⟩
  rw [List.get_eq_getElem, List.get_eq_getElem]
  by_cases hij : i = j
  · subst hij
    simp only [widenGaps_self]
    split
    · rw [List.getElem_modify]
      split
      · exact le_max_left _ _
      · exact le_rfl
    · exact le_rfl
  · simp only [widenGaps_of_ne c hij]
    split
    · rw [List.getElem_mapIdx]
      split
      · exact le_max_left _ _
      · exact le_rfl
    · exact le_rfl

variable [IsStrictOrderedRing α]

theorem span_mono (widths : List α) (h : List.Forall₂ (· ≤ ·) gaps gaps') (first last : Nat) :
    span widths gaps first last ≤ span widths gaps' first last := by
  have hgaps : (between first last gaps).sum ≤ (between first last gaps').sum :=
    (List.forall₂_take _ (List.forall₂_drop _ h)).sum_le_sum
  unfold span
  linarith

/-- **One message.** Behind its turn, the label of a message lacks no more room than its gaps had
been widened before. -/
theorem label_le_span (hij : i ≠ j) (hi : i < gaps.length) (hj : j < gaps.length)
    (hwide : ∀ gap ∈ gaps, c.participantGap ≤ gap) :
    label ≤ span widths (widenGaps c widths i j label gaps) (min i j) (max i j) +
      ((between (min i j) (max i j) gaps).map (· - c.participantGap)).sum := by
  have hlast : max i j ≤ gaps.length := by omega
  rw [widenGaps_of_ne c hij]
  split
  · next hlack =>
    set share := (label - span widths gaps (min i j) (max i j)) / ((max i j - min i j : Nat) : α)
      with hshare
    have hle : ∀ gap ∈ between (min i j) (max i j) (gaps.mapIdx fun slot gap =>
        if min i j ≤ slot ∧ slot < max i j then max gap (c.participantGap + share) else gap),
        c.participantGap + share ≤ gap := by
      intro gap hgap
      obtain ⟨n, hn⟩ := List.mem_iff_getElem?.mp hgap
      rw [between, List.getElem?_take] at hn
      split at hn
      · next hlt =>
          rw [List.getElem?_drop, List.getElem?_mapIdx] at hn
          obtain ⟨old, -, rfl⟩ := Option.map_eq_some_iff.mp hn
          rw [if_pos ⟨by omega, by omega⟩]
          exact le_max_right _ _
      · cases hn
    have hnew := List.card_nsmul_le_sum _ _ hle
    rw [length_between (by rw [List.length_mapIdx]; exact hlast), nsmul_eq_mul] at hnew
    have hpos : ((max i j - min i j : Nat) : α) ≠ 0 := by
      rw [Nat.cast_ne_zero]
      omega
    have hshares : ((max i j - min i j : Nat) : α) * share =
        label - span widths gaps (min i j) (max i j) := by
      rw [hshare]
      field_simp
    rw [sum_map_sub, length_between hlast]
    unfold span at hshares ⊢
    rw [mul_add, hshares] at hnew
    linarith
  · next hfits =>
    have hexcess : 0 ≤ ((between (min i j) (max i j) gaps).map (· - c.participantGap)).sum := by
      refine List.sum_nonneg fun x hx => ?_
      obtain ⟨gap, hgap, rfl⟩ := List.mem_map.mp hx
      exact sub_nonneg.mpr (hwide gap (subset_between _ _ _ hgap))
    linarith [not_lt.mp hfits]

/-- A label that has room in narrow gaps widens no gaps that are wider. -/
theorem widenGaps_of_le (hle : List.Forall₂ (· ≤ ·) gaps gaps') (hi : i < gaps.length)
    (hj : j < gaps.length) (hwide : ∀ gap ∈ gaps, gap = c.participantGap)
    (hsame : widenGaps c widths i j label gaps = gaps) :
    widenGaps c widths i j label gaps' = gaps' := by
  by_cases hij : i = j
  · subst hij
    rw [widenGaps_self] at hsame ⊢
    rw [← hle.length_eq]
    split
    · next hlast =>
      rw [if_pos hlast] at hsame
      have hat := congrArg (fun gs => gs[i]?) hsame
      simp only [List.getElem?_modify, if_true, List.getElem?_eq_getElem hi] at hat
      have hroom := max_eq_left_iff.mp (Option.some.inj hat)
      apply List.ext_getElem?
      intro slot
      rw [List.getElem?_modify]
      cases hslot : gaps'[slot]? with
      | none => rfl
      | some gap =>
          by_cases heq : i = slot
          · subst heq
            obtain ⟨hlt, rfl⟩ := List.getElem?_eq_some_iff.mp hslot
            have hgap : gaps[i] ≤ gaps'[i] := hle.get hi hlt
            simp only [if_true]
            exact congrArg some (max_eq_left (hroom.trans hgap))
          · simp [heq]
    · rfl
  · rw [widenGaps_of_ne c hij] at hsame ⊢
    rw [if_neg]
    intro hlack
    have hmono := span_mono widths hle (min i j) (max i j)
    have hless : span widths gaps (min i j) (max i j) < label := lt_of_le_of_lt hmono hlack
    rw [if_pos hless] at hsame
    have hfirst : min i j < gaps.length := by omega
    have hat := congrArg (fun gs => gs[min i j]?) hsame
    simp only [List.getElem?_mapIdx, List.getElem?_eq_getElem hfirst, Option.map_some,
      Option.some.injEq] at hat
    rw [if_pos ⟨le_rfl, by omega⟩, hwide _ (List.getElem_mem hfirst), max_eq_left_iff] at hat
    have hpos : (0 : α) < ((max i j - min i j : Nat) : α) := by
      rw [Nat.cast_pos]
      omega
    have hshare := div_pos (sub_pos.mpr hless) hpos
    linarith

end

/-! ### Widening gaps for all messages -/

section
variable {α : Type} [Field α] [LinearOrder α] (c : Config α) (ps : List Participant)
  {gaps : List α} {ms : List Message} {m n : Message} {i j slot : Nat}

/-- The gaps, widened for one message. -/
def widenFor (gaps : List α) (m : Message) : List α :=
  match ps.findIdx? fun p => p.id == m.sender, ps.findIdx? fun p => p.id == m.receiver with
  | some i, some j => widenGaps c (ps.map (headerWidth c)) i j (labelWidth c m) gaps
  | _, _ => gaps

theorem gapsFor_append (ms ns : List Message) :
    gapsFor c ps (ms ++ ns) = ns.foldl (widenFor c ps) (gapsFor c ps ms) :=
  List.foldl_append

theorem gapsFor_nil : gapsFor c ps [] = List.replicate ps.length c.participantGap := rfl

/-- How much messages have widened the gaps that the label of another message lies above. -/
def widened (before : List Message) (m : Message) : α :=
  ((spannedGaps ps m).map fun slot =>
    (gapsFor c ps before).getD slot c.participantGap - c.participantGap).sum

/-- The label of the message has no room in the gaps as they are before any is widened. -/
def Crowds (m : Message) : Prop := gapsFor c ps [m] ≠ gapsFor c ps []

instance (m : Message) : Decidable (Crowds c ps m) := instDecidableNot

variable {c ps}

theorem le_foldl_widenFor (ms : List Message) (gaps : List α) :
    List.Forall₂ (· ≤ ·) gaps (ms.foldl (widenFor c ps) gaps) := by
  induction ms generalizing gaps with
  | nil => exact List.forall₂_same.mpr fun _ _ => le_rfl
  | cons m ms ih =>
      have hstep : List.Forall₂ (· ≤ ·) gaps (widenFor c ps gaps m) := by
        unfold widenFor
        split
        · exact le_widenGaps c
        · exact List.forall₂_same.mpr fun _ _ => le_rfl
      exact forall₂_le_trans hstep (ih _)

theorem participantGap_le {gap : α} (h : gap ∈ gapsFor c ps ms) : c.participantGap ≤ gap := by
  have hle : List.Forall₂ (· ≤ ·) (List.replicate ps.length c.participantGap)
      (gapsFor c ps ms) := le_foldl_widenFor ms _
  obtain ⟨slot, hslot, rfl⟩ := List.mem_iff_getElem.mp h
  have hlt : slot < (List.replicate ps.length c.participantGap).length :=
    hle.length_eq.symm ▸ hslot
  have hat := hle.get hlt hslot
  rw [List.get_eq_getElem, List.getElem_replicate] at hat
  exact hat

theorem getElem?_widenFor (h : slot ∉ spannedGaps ps m) (gaps : List α) :
    (widenFor c ps gaps m)[slot]? = gaps[slot]? := by
  unfold widenFor
  unfold spannedGaps at h
  split
  · next i j hi hj =>
    simp only [hi, hj] at h
    by_cases hij : i = j
    · subst hij
      rw [if_pos rfl, List.mem_singleton] at h
      rw [widenGaps_self]
      split
      · simp [Ne.symm h]
      · rfl
    · rw [if_neg hij, List.mem_range'_1] at h
      rw [widenGaps_of_ne c hij]
      split
      · have hout : ¬(min i j ≤ slot ∧ slot < max i j) := by omega
        simp only [List.getElem?_mapIdx, if_neg hout, Option.map_id_fun', id_eq]
      · rfl
  · rfl

variable [IsStrictOrderedRing α]

theorem widenFor_gapsFor (h : ¬Crowds c ps m) (ms : List Message) :
    widenFor c ps (gapsFor c ps ms) m = gapsFor c ps ms := by
  have hsame : widenFor c ps (gapsFor c ps []) m = gapsFor c ps [] := not_not.mp h
  unfold widenFor at hsame ⊢
  split
  · next i j hi hj =>
    simp only [hi, hj] at hsame
    have hle : List.Forall₂ (· ≤ ·) (gapsFor c ps []) (gapsFor c ps ms) := le_foldl_widenFor ms _
    have hlen := length_gapsFor c ps []
    refine widenGaps_of_le c hle ?_ ?_ ?_ hsame
    · rw [hlen]
      exact (List.findIdx?_eq_some_iff_getElem.mp hi).1
    · rw [hlen]
      exact (List.findIdx?_eq_some_iff_getElem.mp hj).1
    · intro gap hgap
      exact List.eq_of_mem_replicate hgap
  · rfl

/-- Where no message without room has a gap in common with another message, none of its gaps is
widened. -/
theorem getD_gapsFor (h : ∀ n ∈ ms, Crowds c ps n → (spannedGaps ps n).Disjoint (spannedGaps ps m))
    (hslot : slot ∈ spannedGaps ps m) :
    (gapsFor c ps ms).getD slot c.participantGap = c.participantGap := by
  induction ms using List.reverseRecOn with
  | nil =>
      rw [gapsFor_nil, List.getD_eq_getElem?_getD, List.getElem?_replicate]
      split <;> rfl
  | append_singleton ms n ih =>
      have hbefore := ih fun n hn => h n (List.mem_append_left _ hn)
      have hn := h n (List.mem_append_right _ (List.mem_singleton_self n))
      rw [gapsFor_append, List.foldl_cons, List.foldl_nil]
      by_cases hcrowds : Crowds c ps n
      · have hout : slot ∉ spannedGaps ps n := fun hin => hn hcrowds hin hslot
        rw [List.getD_eq_getElem?_getD, getElem?_widenFor hout, ← List.getD_eq_getElem?_getD]
        exact hbefore
      · rw [widenFor_gapsFor hcrowds]
        exact hbefore

theorem widened_eq_zero
    (h : ∀ n ∈ ms, Crowds c ps n → (spannedGaps ps n).Disjoint (spannedGaps ps m)) :
    widened c ps ms m = 0 := by
  unfold widened
  refine List.sum_eq_zero fun x hx => ?_
  obtain ⟨slot, hslot, rfl⟩ := List.mem_map.mp hx
  rw [getD_gapsFor h hslot, sub_self]

/-- **All messages.** In the end the label of a message lacks no more room than its gaps had been
widened by the messages before it. -/
theorem labelWidth_le_span (before behind : List Message)
    (hi : ps.findIdx? (fun p => p.id == m.sender) = some i)
    (hj : ps.findIdx? (fun p => p.id == m.receiver) = some j) (hij : i ≠ j) :
    labelWidth c m ≤ span (ps.map (headerWidth c)) (gapsFor c ps (before ++ m :: behind))
      (min i j) (max i j) + widened c ps before m := by
  have hlen := length_gapsFor c ps before
  have hilt : i < (gapsFor c ps before).length :=
    hlen.symm ▸ (List.findIdx?_eq_some_iff_getElem.mp hi).1
  have hjlt : j < (gapsFor c ps before).length :=
    hlen.symm ▸ (List.findIdx?_eq_some_iff_getElem.mp hj).1
  have hgaps : widened c ps before m =
      ((between (min i j) (max i j) (gapsFor c ps before)).map (· - c.participantGap)).sum := by
    rw [← map_range'_eq_between (by omega) c.participantGap, List.map_map, widened, spannedGaps,
      hi, hj]
    simp only [if_neg hij]
    rfl
  have hturn : labelWidth c m ≤ span (ps.map (headerWidth c))
      (widenFor c ps (gapsFor c ps before) m) (min i j) (max i j) + widened c ps before m := by
    rw [hgaps, widenFor, hi, hj]
    exact label_le_span c hij hilt hjlt fun gap hgap => participantGap_le hgap
  have hlater : List.Forall₂ (· ≤ ·) (widenFor c ps (gapsFor c ps before) m)
      (gapsFor c ps (before ++ m :: behind)) := by
    rw [gapsFor_append, List.foldl_cons]
    exact le_foldl_widenFor behind _
  have hspan := span_mono (ps.map (headerWidth c)) hlater (min i j) (max i j)
  linarith

end

/-! ### The distance between lifelines -/

section
variable {α : Type} [Field α] [LinearOrder α] {c : Config α} {ps : List Participant}
  {gaps : List α} {left : α} {i j : Nat}

/-- A participant whose header begins at `left`. -/
def placedAt (c : Config α) (left : α) (p : Participant) : PlacedParticipant α :=
  ⟨p.id, p.label, p.kind, left + half (headerWidth c p), headerWidth c p,
    ⟨left, c.margin, headerWidth c p, c.participantHeight⟩⟩

theorem getElem?_placeParticipants (pgs : List (Participant × α)) (left : α) (i : Nat) :
    (placeParticipants c left pgs)[i]? = pgs[i]?.map fun pg =>
      placedAt c (left + ((pgs.take i).map fun pg => headerWidth c pg.1 + pg.2).sum) pg.1 := by
  induction pgs generalizing left i with
  | nil => rfl
  | cons pg pgs ih =>
      cases i with
      | zero => simp [placeParticipants, placedAt]
      | succ i =>
          rw [placeParticipants, List.getElem?_cons_succ, ih, List.getElem?_cons_succ,
            List.take_succ_cons, List.map_cons, List.sum_cons, add_assoc left]

theorem x_placeParticipants (pgs : List (Participant × α)) (left : α) (i : Nat) :
    (placeParticipants c left pgs)[i]?.map PlacedParticipant.x = pgs[i]?.map fun pg =>
      left + ((pgs.take i).map fun pg => headerWidth c pg.1 + pg.2).sum +
        half (headerWidth c pg.1) := by
  rw [getElem?_placeParticipants, Option.map_map]
  rfl

theorem x_placeParticipants_zip (hlen : gaps.length = ps.length) (hi : i < ps.length) :
    (placeParticipants c left (ps.zip gaps))[i]?.map PlacedParticipant.x =
      some (left + ((ps.map (headerWidth c)).take i).sum + (gaps.take i).sum +
        half ((ps.map (headerWidth c)).getD i 0)) := by
  have hat : (ps.zip gaps)[i]? = some (ps[i], gaps[i]) := by
    rw [List.getElem?_eq_getElem (by rw [List.length_zip]; omega), List.getElem_zip]
  have hwidths : ((ps.zip gaps).take i).map (fun pg => headerWidth c pg.1) =
      (ps.map (headerWidth c)).take i := by
    rw [List.map_take, ← List.map_fst_zip hlen.ge, List.map_map, List.map_fst_zip hlen.ge]
    rfl
  have hgaps : ((ps.zip gaps).take i).map Prod.snd = gaps.take i := by
    rw [List.map_take, List.map_snd_zip hlen.le]
  rw [x_placeParticipants, hat, Option.map_some, List.sum_map_add, hwidths, hgaps,
    List.getD_eq_getElem _ _ (by rw [List.length_map]; exact hi), List.getElem_map, ← add_assoc]

theorem lifeline?_placeParticipants (hlen : gaps.length = ps.length) (id : String) :
    lifeline? (placeParticipants c left (ps.zip gaps)) id =
      (ps.findIdx? fun p => p.id == id).bind fun slot =>
        (placeParticipants c left (ps.zip gaps))[slot]?.map PlacedParticipant.x := by
  have hids : (placeParticipants c left (ps.zip gaps)).map PlacedParticipant.id =
      ps.map Participant.id := by
    rw [ids_placeParticipants, List.map_fst_zip hlen.ge]
  have hslot : (placeParticipants c left (ps.zip gaps)).findIdx? (fun p => p.id == id) =
      ps.findIdx? fun p => p.id == id := by
    have hfind := congrArg (List.findIdx? (· == id)) hids
    rwa [List.findIdx?_map, List.findIdx?_map] at hfind
  rw [lifeline?, List.find?_eq_bind_findIdx?_getElem?, hslot, Option.map_bind]
  rfl

variable [IsStrictOrderedRing α] {x y : α}

/-- **Two lifelines.** The one on the right is as far away as the headers and gaps between the two
are wide. -/
theorem sub_eq_span (hlen : gaps.length = ps.length) (hij : i < j) (hj : j < ps.length)
    (hx : (placeParticipants c left (ps.zip gaps))[i]?.map PlacedParticipant.x = some x)
    (hy : (placeParticipants c left (ps.zip gaps))[j]?.map PlacedParticipant.x = some y) :
    y - x = span (ps.map (headerWidth c)) gaps i j := by
  rw [x_placeParticipants_zip hlen (hij.trans hj), Option.some.injEq] at hx
  rw [x_placeParticipants_zip hlen hj, Option.some.injEq] at hy
  have hi : i < (ps.map (headerWidth c)).length := by
    rw [List.length_map]
    exact hij.trans hj
  have hwidths := sum_take hij.le (ps.map (headerWidth c))
  rw [between_cons hi hij, List.sum_cons, ← List.getD_eq_getElem _ 0 hi] at hwidths
  have hgaps := sum_take hij.le gaps
  have hhalf : half ((ps.map (headerWidth c)).getD i 0) + half ((ps.map (headerWidth c)).getD i 0) =
      (ps.map (headerWidth c)).getD i 0 := by
    rw [half, Nat.cast_ofNat, add_halves]
  rw [← hx, ← hy, hwidths, hgaps]
  unfold span
  linarith

theorem span_le_abs_sub (hlen : gaps.length = ps.length) (hij : i ≠ j) (hi : i < ps.length)
    (hj : j < ps.length)
    (hx : (placeParticipants c left (ps.zip gaps))[i]?.map PlacedParticipant.x = some x)
    (hy : (placeParticipants c left (ps.zip gaps))[j]?.map PlacedParticipant.x = some y) :
    span (ps.map (headerWidth c)) gaps (min i j) (max i j) ≤ |x - y| := by
  rcases Nat.lt_or_gt_of_ne hij with hlt | hlt
  · rw [min_eq_left hlt.le, max_eq_right hlt.le, ← sub_eq_span hlen hlt hj hx hy, abs_sub_comm]
    exact le_abs_self _
  · rw [min_eq_right hlt.le, max_eq_left hlt.le, ← sub_eq_span hlen hlt hi hy hx]
    exact le_abs_self _

end

end Lifeline.Layout

namespace Lifeline.Diagram

open Layout

variable {d : Diagram} {text : List Char}

theorem exists_slot {id : String} (h : id ∈ d.ids) :
    ∃ slot, (d.orderedParticipants.findIdx? fun p => p.id == id) = some slot := by
  obtain ⟨p, hp, hid⟩ := List.mem_map.mp h
  have hslot : (d.orderedParticipants.findIdx? fun p => p.id == id).isSome := by
    rw [List.findIdx?_isSome, List.any_eq_true]
    exact ⟨p, d.orderedParticipants_perm.mem_iff.mpr hp, beq_iff_eq.mpr hid⟩
  exact Option.isSome_iff_exists.mp hslot

variable {α : Type} [Field α] [LinearOrder α] [IsStrictOrderedRing α]

/-- The lifelines at both ends of a message, and how far apart they are. -/
theorem Registered.labelWidth_le (h : d.Registered) (c : Config α) {m : Message} {k : Nat}
    (hm : d.messages[k]? = some m) (hne : m.sender ≠ m.receiver) :
    ∃ x y, lifeline? (placedParticipants c d) m.sender = some x ∧
      lifeline? (placedParticipants c d) m.receiver = some y ∧
      labelWidth c m ≤ |x - y| + widened c d.orderedParticipants (d.messages.take k) m := by
  obtain ⟨hsender, hreceiver⟩ := h.ends m (List.mem_of_getElem? hm)
  obtain ⟨i, hi⟩ := exists_slot hsender
  obtain ⟨j, hj⟩ := exists_slot hreceiver
  obtain ⟨p, -, -, hx⟩ := exists_lifeline? ((mem_ids_placedParticipants c).mpr hsender)
  obtain ⟨q, -, -, hy⟩ := exists_lifeline? ((mem_ids_placedParticipants c).mpr hreceiver)
  refine ⟨p.x, q.x, hx, hy, ?_⟩
  obtain ⟨hilt, hisender, -⟩ := List.findIdx?_eq_some_iff_getElem.mp hi
  obtain ⟨hjlt, hjreceiver, -⟩ := List.findIdx?_eq_some_iff_getElem.mp hj
  have hij : i ≠ j := by
    rintro rfl
    exact hne ((beq_iff_eq.mp hisender).symm.trans (beq_iff_eq.mp hjreceiver))
  have hlen := length_gapsFor c d.orderedParticipants d.messages
  rw [placedParticipants, lifeline?_placeParticipants hlen, hi, Option.bind_some] at hx
  rw [placedParticipants, lifeline?_placeParticipants hlen, hj, Option.bind_some] at hy
  have hspan := span_le_abs_sub hlen hij hilt hjlt hx hy
  obtain ⟨hklt, rfl⟩ := List.getElem?_eq_some_iff.mp hm
  have hlabel := labelWidth_le_span (c := c) (d.messages.take k) (d.messages.drop (k + 1)) hi hj hij
  rw [← List.drop_eq_getElem_cons hklt, List.take_append_drop] at hlabel
  linarith

/-- **Labels have room where they do not compete.** The two lifelines of a message are at least as
far apart as its label is wide, with its padding on both sides, up to what the messages before it
have widened the gaps between the two. In particular its label has room if no message before it
that needs wider gaps shares one with it. -/
theorem labels_read (h : empty.read text = (none, d)) (c : Config α) (v : View) :
    ∃ g, d.layout c v = .ok g ∧
      ∀ (k : Nat) (m : Message), d.messages[k]? = some m → m.sender ≠ m.receiver →
        ∃ x y, lifeline? g.participants m.sender = some x ∧
          lifeline? g.participants m.receiver = some y ∧
          labelWidth c m ≤ |x - y| + widened c d.orderedParticipants (d.messages.take k) m ∧
          ((∀ n ∈ d.messages.take k, Crowds c d.orderedParticipants n →
              (spannedGaps d.orderedParticipants n).Disjoint
                (spannedGaps d.orderedParticipants m)) →
            labelWidth c m ≤ |x - y|) := by
  obtain ⟨hsound, hread⟩ := sound_of_read h
  obtain ⟨ts, g, -, hg, hmoves⟩ := hsound.registered.layout hread c v
  refine ⟨g, hg, fun k m hm hne => ?_⟩
  obtain ⟨x, y, hx, hy, hlabel⟩ := hsound.registered.labelWidth_le c hm hne
  obtain ⟨dx, hagrees⟩ := hmoves.exists_shift
  have hshift : ∀ {id : String} {x : α}, lifeline? (placedParticipants c d) id = some x →
      lifeline? g.participants id = some (x + dx) := by
    intro id x hx
    rw [lifeline?, Option.map_eq_some_iff] at hx
    obtain ⟨p, hp, rfl⟩ := hx
    have hfind : ((placedParticipants c d).map fun p =>
        { p with x := p.x + dx, rect := p.rect.shift dx }).find? (fun p => p.id == id) =
          some { p with x := p.x + dx, rect := p.rect.shift dx } := by
      rw [List.find?_map]
      exact congrArg (Option.map _) hp
    rw [lifeline?, hagrees.participants]
    exact congrArg (Option.map _) hfind
  refine ⟨x + dx, y + dx, hshift hx, hshift hy, ?_⟩
  rw [add_sub_add_right_eq_sub]
  refine ⟨hlabel, fun hfree => ?_⟩
  rwa [widened_eq_zero hfree, add_zero] at hlabel

/-- Two labels that need wider gaps, side by side, and one above both. -/
def neighbours : List Char :=
  "A -> B: fourteen chars\nB -> C: and sixteen more\nC -> A: short: but answered at length".toList

theorem labels_read_neighbours : ∃ d m, empty.read neighbours = (none, d) ∧
    d.messages[1]? = some m ∧ m.sender ≠ m.receiver ∧
    (∀ n ∈ d.messages.take 1, Crowds (Config.standard : Config ℚ) d.orderedParticipants n ∧
      (spannedGaps d.orderedParticipants n).Disjoint (spannedGaps d.orderedParticipants m)) ∧
    ∃ g x y, d.layout (Config.standard : Config ℚ) .everything = .ok g ∧
      lifeline? g.participants m.sender = some x ∧ lifeline? g.participants m.receiver = some y ∧
      labelWidth (Config.standard : Config ℚ) m ≤ |x - y| := by
  have htext : neighbours = _ := String.toList_ofList
  have h := read_of_fst empty neighbours (by rw [htext]; decide +kernel)
  have hm : (empty.read neighbours).2.messages[1]? =
      some ⟨1, "B", "C", "and sixteen more", none, 2, false⟩ := by rw [htext]; decide +kernel
  have hne : "B" ≠ "C" := by decide
  have hapart : ∀ n ∈ (empty.read neighbours).2.messages.take 1,
      Crowds (Config.standard : Config ℚ) (empty.read neighbours).2.orderedParticipants n ∧
        (spannedGaps (empty.read neighbours).2.orderedParticipants n).Disjoint
          (spannedGaps (empty.read neighbours).2.orderedParticipants
            ⟨1, "B", "C", "and sixteen more", none, 2, false⟩) := by
    unfold List.Disjoint
    rw [htext]
    decide +kernel
  obtain ⟨g, hg, hlabels⟩ := labels_read h (Config.standard : Config ℚ) .everything
  obtain ⟨x, y, hx, hy, -, hroom⟩ := hlabels 1 _ hm hne
  exact ⟨_, _, h, hm, hne, hapart, g, x, y, hg, hx, hy, hroom fun n hn _ => (hapart n hn).2⟩

/-- Two labels that need the same gap wider. -/
def rivals : List Char := "A -> B: thirteen char\nA -> B: fourteen chars".toList

/-- The second label is 130 wide, and stands between lifelines that are 127 apart. -/
theorem labels_read_rivals : ∃ d m, empty.read rivals = (none, d) ∧ d.messages[1]? = some m ∧
    m.sender ≠ m.receiver ∧
    (d.layout (Config.standard : Config ℚ) .everything).toOption.map (fun g =>
      (lifeline? g.participants m.sender, lifeline? g.participants m.receiver)) =
        some (some 60, some 187) ∧
    |(60 : ℚ) - 187| < labelWidth .standard m := by
  have htext : rivals = _ := String.toList_ofList
  have h := read_of_fst empty rivals (by rw [htext]; decide +kernel)
  exact ⟨_, ⟨1, "A", "B", "fourteen chars", none, 2, false⟩, h, by rw [htext]; decide +kernel,
    by decide, by rw [htext]; decide +kernel, by decide +kernel⟩

end Lifeline.Diagram
