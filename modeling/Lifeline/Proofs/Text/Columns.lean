import Lifeline.Text.Columns
import Mathlib.Algebra.Ring.Nat

/-! # Texts side by side

A character takes a column back only where one behind it has added it, so no text is narrower than
nothing (`measure_nonneg`). A space is never drawn together with its neighbours, so the columns of
two texts with a space between them add up (`columns_append_space`). Of other characters this is
not true in general; `Additive` says that it is true of given ones. -/

namespace Lifeline.Text

/-! ### What may be taken back -/

/-- The columns that a character in front may take back. -/
def Follow.due : Follow → Int
  | .ligature .. => 1
  | .joinedFlags run => if run = .even then 0 else 1
  | _ => 0

/-- The columns that become due with a character are among those that were due before and those that
it adds. -/
def Paid (due : Int) (placed : Int × Follow) : Prop := placed.2.due ≤ due + placed.1

instance (due : Int) (placed : Int × Follow) : Decidable (Paid due placed) :=
  inferInstanceAs (Decidable (_ ≤ _))

section
variable (c : Char) (f : Follow) (request : Presentation) {due due' : Int}
  {placed placed' : Int × Follow}

theorem Follow.due_nonneg : 0 ≤ f.due := by
  unfold Follow.due
  split
  · decide
  · split <;> decide
  · decide

theorem Follow.due_select : (f.select request).due ≤ f.due := by
  cases f with
  | ligature l r => exact Int.le_refl 1
  | joinedFlags run => exact Follow.due_nonneg _
  | joined keycap selected => cases request <;> exact Int.le_refl 0
  | _ => exact Int.le_refl 0

theorem Follow.due_unselect : f.unselect.due ≤ f.due := by
  cases f with
  | joined keycap selected => cases selected <;> exact Int.le_refl 0
  | _ => exact Int.le_refl _

variable {f}

theorem Paid.mono (h : Paid due placed) (hle : due ≤ due') : Paid due' placed :=
  Int.le_trans h (Int.add_le_add_right hle _)

theorem Paid.ite {p : Prop} [Decidable p] (h : Paid due placed) (h' : Paid due placed') :
    Paid due (if p then placed else placed') := by
  split
  · exact h
  · exact h'

theorem paid_of_due_le {g : Follow} (h : g.due ≤ due) : Paid due (0, g) :=
  Int.le_trans h (Int.le_of_eq (Int.add_zero due).symm)

theorem paid_alone : Paid 0 (alone c) := by
  unfold alone
  repeat refine .ite (by decide) ?_
  exact Int.add_nonneg (Int.le_refl 0) (Int.natCast_nonneg _)

theorem paid_form {l : Ligature} (h : l.form c = some placed) : Paid 1 placed := by
  unfold Ligature.form at h
  repeat' split at h
  all_goals cases h
  all_goals decide

theorem paid_placeBefore (f : Follow) : Paid f.due (placeBefore c f) := by
  have halone : Paid f.due (alone c) := (paid_alone c).mono f.due_nonneg
  cases f with
  | lineFeed => exact .ite (by decide) halone
  | alef r =>
      change Paid 0 _
      exact .ite (by decide) (.ite (Int.le_refl 0) halone)
  | ligature l r =>
      refine .ite (Int.le_refl 1) (.ite (Int.le_refl 1) ?_)
      cases hform : l.form c with
      | none => exact halone
      | some p => exact paid_form c hform
  | skinTone => exact .ite (by decide) (.ite (by decide) halone)
  | flags several =>
      change Paid 0 _
      exact .ite (by decide) (.ite (by decide) halone)
  | emoji => exact .ite (by decide) halone
  | joined keycap selected =>
      change Paid 0 _
      cases keycap with
      | true => exact halone
      | false =>
          refine .ite (by decide) (.ite (by decide) (.ite (by decide) ?_))
          exact .ite (by decide) (.ite (by decide) halone)
  | joinedFlags run =>
      refine .ite ?_ (.ite (paid_of_due_le (Follow.due_nonneg _)) halone)
      cases run <;> decide
  | joinedTags letters digits =>
      change Paid 0 _
      have htag : ∀ a b, Paid 0 (0, .joinedTags a b) := fun a b => Int.le_refl 0
      exact .ite (htag _ _) (.ite (htag _ _) (.ite (by decide) halone))
  | _ => exact halone

theorem paid_place (f : Follow) : Paid f.due (place c f) := by
  have hunselect : Paid f.due (placeBefore c f.unselect) :=
    (paid_placeBefore c f.unselect).mono f.due_unselect
  have hselect : ∀ request, Paid f.due (0, f.select request) := fun request =>
    paid_of_due_le (f.due_select request)
  refine .ite (hselect _) (.ite (hselect _) ?_)
  cases f.request with
  | none => exact paid_placeBefore c f
  | some request =>
      cases request with
      | asEmoji =>
          have hemoji : Paid 0 (if f.isJoined then 0 else 2, .emoji) := by
            cases f.isJoined <;> decide
          exact .ite (hemoji.mono f.due_nonneg) hunselect
      | asText =>
          have htext : Paid 0 (1, .nothing) := by decide
          exact .ite (htext.mono f.due_nonneg) hunselect

end

theorem due_le_measure (text : List Char) : (measure text).2.due ≤ (measure text).1 := by
  induction text with
  | nil => exact Int.le_refl 0
  | cons c text ih => exact Int.le_trans (paid_place c _) (Int.add_le_add_right ih _)

theorem measure_nonneg (text : List Char) : 0 ≤ (measure text).1 :=
  Int.le_trans (Follow.due_nonneg _) (due_le_measure text)

/-! ### Spaces -/

theorem form_space (l : Ligature) : l.form ' ' = none := by
  cases l with
  | hebrewLamed isJoined | bugineseYa isJoined | tifinagh isJoined | oldTurkicI isJoined =>
      cases isJoined <;> rfl
  | _ => rfl

theorem placeBefore_space (f : Follow) : placeBefore ' ' f = (1, .nothing) := by
  cases f with
  | ligature l r =>
      change (l.form ' ').getD (alone ' ') = _
      rw [form_space]
      rfl
  | flags several => cases several <;> rfl
  | joined keycap selected => cases keycap <;> rfl
  | joinedFlags run => cases run <;> rfl
  | _ => rfl

/-- Nothing that follows a space changes its columns, and a space begins nothing. -/
theorem place_space (f : Follow) : place ' ' f = (1, .nothing) := by
  rw [place, if_neg (by decide), if_neg (by decide)]
  cases f.request with
  | none => exact placeBefore_space f
  | some request => cases request <;> exact placeBefore_space _

theorem measure_append_space (front behind : List Char) :
    measure (front ++ ' ' :: behind) =
      ((measure behind).1 + 1 + (measure front).1, (measure front).2) := by
  induction front with
  | nil =>
      change ((measure behind).1 + (place ' ' _).1, (place ' ' _).2) = _
      rw [place_space]
      simp [measure]
  | cons c front ih =>
      rw [List.cons_append, measure, ih, measure]
      simp only [Prod.mk.injEq, and_true]
      exact Int.add_assoc ..

/-- Texts with a space between them take the columns of both, and one for the space. -/
theorem columns_append_space (front behind : List Char) :
    columns (front ++ ' ' :: behind) = columns front + 1 + columns behind := by
  have hfront := measure_nonneg front
  have hbehind := measure_nonneg behind
  rw [columns, measure_append_space, columns, columns]
  omega

/-! ### Texts whose characters do not change the columns of each other -/

/-- The columns of a character by itself. Control characters count for nothing. -/
def ownColumns (c : Char) : Nat := (Unicode.columns? c).getD 0

/-- The columns of all texts of these characters add up. -/
def Additive (chars : List Char) : Prop :=
  ∀ text : List Char, text ⊆ chars → columns text = (text.map ownColumns).sum

/-- Characters that begin nothing do not change the columns of each other. -/
theorem additive_of_place {chars : List Char}
    (h : chars.all fun c => place c .nothing = (↑(ownColumns c), .nothing)) : Additive chars := by
  intro text htext
  simp only [List.all_eq_true, decide_eq_true_eq] at h
  have hmeasure : measure text = (↑(text.map ownColumns).sum, .nothing) := by
    induction text with
    | nil => rfl
    | cons c text ih =>
        obtain ⟨hc, htext⟩ := List.cons_subset.mp htext
        rw [measure, ih htext]
        simp only [h c hc, List.map_cons, List.sum_cons, Int.natCast_add, Int.add_comm]
  rw [columns, hmeasure, Int.toNat_natCast]

end Lifeline.Text
