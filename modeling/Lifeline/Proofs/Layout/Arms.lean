import Lifeline.Proofs.Layout.Nesting

/-! # The arms of a block

The entries of a body are those of its main arm, followed by those of the others, each behind its
branch. So the messages and the blocks of a body are parted among its arms
(`Outline.messages_arms`, `Outline.allBlocks_arms`), and an arm with a visible step belongs to a
block with one (`Visible.exists_firstRow?_of_arm`). The frame of a block has one divider for each
arm with a visible step, the main one apart (`forall₂_dividers`). -/

namespace Lifeline

namespace Outline

variable {o : Outline} {arm : Branch × Outline}

theorem messages_arms (o : Outline) :
    o.messages = o.arms.1.messages ++ o.arms.2.flatMap fun arm => arm.2.messages := by
  induction o with
  | empty => rfl
  | entry e rest ih =>
      cases e with
      | message m => exact congrArg (m :: ·) ih
      | «section» s => exact ih
      | note n => exact ih
      | branch b => exact ih
  | block head body rest _ ih =>
      simp only [arms, messages_block, ih, List.append_assoc]

theorem allBlocks_arms (depth : Nat) (o : Outline) : o.allBlocks depth =
    o.arms.1.allBlocks depth ++ o.arms.2.flatMap fun arm => arm.2.allBlocks depth := by
  induction o with
  | empty => rfl
  | entry e rest ih =>
      cases e with
      | branch b => exact ih
      | _ => exact ih
  | block head body rest _ ih =>
      simp only [arms, allBlocks, ih, List.cons_append, List.append_assoc]

theorem arm_messages_subset (h : arm ∈ o.arms.2) : arm.2.messages ⊆ o.messages := by
  intro m hm
  rw [messages_arms o]
  exact List.mem_append_right _ (List.mem_flatMap.mpr ⟨arm, h, hm⟩)

/-- A block of a body comes before an arm, lies inside the arm, or comes behind it. -/
theorem before_or_inside_or_behind {z : NestedBlock} {depth : Nat}
    (ho : o.messages.Pairwise fun m n => m.index < n.index) (harm : arm ∈ o.arms.2)
    (hz : z ∈ o.allBlocks depth) :
    (∀ m ∈ z.body.messages, ∀ n ∈ arm.2.messages, m.index < n.index) ∨
      z.body.messages ⊆ arm.2.messages ∨
      ∀ n ∈ arm.2.messages, ∀ m ∈ z.body.messages, n.index < m.index := by
  rw [messages_arms o, List.pairwise_append, List.pairwise_flatMap] at ho
  obtain ⟨-, ⟨-, harms⟩, hmain⟩ := ho
  rw [allBlocks_arms depth o] at hz
  rcases List.mem_append.mp hz with hz | hz
  · exact Or.inl fun m hm n hn =>
      hmain m (messages_subset hz hm) n (List.mem_flatMap.mpr ⟨arm, harm, hn⟩)
  · obtain ⟨arm', harm', hz⟩ := List.mem_flatMap.mp hz
    have hinside := messages_subset hz
    obtain ⟨i, hi, rfl⟩ := List.mem_iff_getElem.mp harm'
    obtain ⟨j, hj, rfl⟩ := List.mem_iff_getElem.mp harm
    rw [List.pairwise_iff_getElem] at harms
    rcases Nat.lt_trichotomy i j with hlt | rfl | hgt
    · exact Or.inl fun m hm n hn => harms i j hi hj hlt m (hinside hm) n hn
    · exact Or.inr (Or.inl hinside)
    · exact Or.inr (Or.inr fun n hn m hm => harms j i hj hi hgt n hn m (hinside hm))

end Outline

namespace Layout

theorem Visible.exists_firstRow?_of_arm {w : Visible} {o : Outline} {arm : Branch × Outline}
    {row : Nat} (harm : arm ∈ o.arms.2) (hrow : w.firstRow? arm.2 = some row) :
    ∃ first, w.firstRow? o = some first ∧ first ≤ row := by
  have hmem := covered_mono (Outline.arm_messages_subset harm) (mem_covered_of_firstRow? hrow)
  obtain ⟨first, hfirst⟩ := exists_firstRow? hmem
  exact ⟨first, hfirst, (firstRow?_eq_some_iff.mp hfirst).2 row hmem⟩

theorem Visible.above_or_below_arm {d : Diagram} {v : View} {o : Outline} {arm : Branch × Outline}
    {z : NestedBlock} {depth row : Nat} (hd : d.Registered)
    (ho : o.messages.Pairwise fun m n => m.index < n.index) (harm : arm ∈ o.arms.2)
    (hz : z ∈ o.allBlocks depth) (hrow : (of d v).firstRow? arm.2 = some row) :
    (∀ r ∈ (of d v).covered z.body, r < row) ∨ ∀ r ∈ (of d v).covered z.body, row ≤ r := by
  rcases Outline.before_or_inside_or_behind ho harm hz with hbefore | hinside | hbehind
  · exact Or.inl fun r hr => covered_lt hd hbefore hr (mem_covered_of_firstRow? hrow)
  · exact Or.inr fun r hr => (firstRow?_eq_some_iff.mp hrow).2 r (covered_mono hinside hr)
  · exact Or.inr fun r hr => (covered_lt hd hbehind (mem_covered_of_firstRow? hrow) hr).le

/-- The arms of a block that have a visible step, the main one apart. -/
def shownArms (d : Diagram) (v : View) (b : NestedBlock) : List (Branch × Outline) :=
  b.body.arms.2.filter fun arm => ((Visible.of d v).firstRow? arm.2).isSome

section
variable {α : Type} [Add α] [Sub α] [Mul α] [Div α] [NatCast α] [Max α] [Min α] [LT α]
  [DecidableLT α] {c : Config α} {d : Diagram} {v : View} {b : NestedBlock} {f : Frame α}

/-- A frame has a divider for each arm with a visible step: halfway between the first row of the arm
and the row above it, unless the block begins with the arm. -/
theorem forall₂_dividers (hf : blockFrame? c d v b = some f) :
    ∃ first, (Visible.of d v).firstRow? b.body = some first ∧
      List.Forall₂ (fun arm x => arm ∈ b.body.arms.2 ∧ ∃ row,
        (Visible.of d v).firstRow? arm.2 = some row ∧ x = {
          label := arm.1.label
          isElse := arm.1.isElse
          y := if first < row then half ((heights c d (.of d v)).row (row - 1) +
              (heights c d (.of d v)).row row)
            else (heights c d (.of d v)).row row - half c.branchPadding })
        (shownArms d v b) f.dividers := by
  unfold blockFrame? frameOf? at hf
  simp only [Option.bind_eq_bind, Option.bind_eq_some_iff, Option.pure_def, Option.some.injEq] at hf
  obtain ⟨first, hfirst, last, -, sides, -, rfl⟩ := hf
  refine ⟨first, hfirst, ?_⟩
  refine (forall₂_filterMap fun arm _ => Option.isSome_map ..).imp fun arm x hx => ⟨hx.1, ?_⟩
  obtain ⟨row, hrow, hx⟩ := Option.map_eq_some_iff.mp hx.2
  exact ⟨row, hrow, hx.symm⟩

end

end Layout

end Lifeline
