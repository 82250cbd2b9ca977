import Lifeline.Proofs.Diagram.Walk
import Lifeline.Reader.State
import Mathlib.Data.List.TakeWhile

/-! # The outline that a reading builds

While blocks are open, what has been read lies in the outline of the diagram and in the bodies of
the open blocks. `State.places` lists all of it from front to back, with the blocks around it as
they will be once everything is closed. Closing a block does not change this list, and an entry is
added at its end, inside the blocks that are open (`State.path`): the outline at the end of a
document is known from the state in which each line has been read. -/

namespace Lifeline.Reader

/-- The arm of an open block that takes entries. -/
def OpenBlock.arm (b : OpenBlock) : Arm := b.body.lastArm

/-- An open block without its body. -/
@[ext]
structure Frame where
  head : BlockHead
  indent : Nat
  arm : Arm
  deriving DecidableEq, Repr

/-- The open block without its body. -/
def OpenBlock.frame (b : OpenBlock) : Frame := ⟨b.head, b.indent, b.arm⟩

/-- The open blocks, innermost first. -/
def State.frames (s : State) : List Frame := s.stack.map OpenBlock.frame

/-- The blocks that are open, with the arms that take entries. -/
def framesPath (fs : List Frame) : Path := fs.map fun f => (f.head, f.arm)

/-- The path at which the next entry is added. -/
def State.path (s : State) : Path := framesPath s.frames

/-- The places in open blocks, from front to back. -/
def stackPlaces : List OpenBlock → List Place
  | [] => []
  | b :: bs =>
      let around := framesPath (bs.map OpenBlock.frame)
      stackPlaces bs ++ ⟨.block b.head, around⟩ :: Outline.places ((b.head, .main) :: around) b.body

/-- The places of everything that has been read, from front to back. -/
def State.places (s : State) : List Place :=
  Outline.places [] s.diagram.outline ++ stackPlaces s.stack

/-- The state without the outline and the open blocks. -/
def State.besides (s : State) : State :=
  { s with diagram := { s.diagram with outline := .empty }, stack := [] }

/-- No branch follows an `else`, in what is closed and in what is open; and an open block knows
whether it has an `else`. -/
structure State.Orderly (s : State) : Prop where
  outline : s.diagram.outline.Orderly
  top : s.diagram.outline.branches = []
  body : ∀ b ∈ s.stack, b.body.Orderly
  hasElse : ∀ b ∈ s.stack, b.hasElse = true ↔ ∃ x ∈ b.body.branches, x.isElse = true

/-! ### Adding to the end -/

section append
variable (s : State) {o : Outline}

theorem besides_append : (s.append o).besides = s.besides := by
  unfold State.append
  split <;> rfl

/-- What is added stands behind everything else, inside the open blocks. -/
theorem places_append : (s.append o).places = s.places ++ Outline.places s.path o := by
  unfold State.append State.places State.path State.frames
  split
  · next h =>
      simp only [h, Diagram.extend, Outline.places_append, Outline.endPath_nil, stackPlaces,
        List.append_nil, List.map_nil, framesPath]
  · next b bs h =>
      simp only [h, stackPlaces, Outline.places_append, Outline.endPath_main, List.map_cons,
        List.append_assoc, List.cons_append]
      rfl

theorem frames_append (ho : o.branches = []) : (s.append o).frames = s.frames := by
  unfold State.append State.frames
  split
  · next h => rw [h]
  · next b bs h =>
      rw [h]
      simp [OpenBlock.frame, OpenBlock.arm, Outline.lastArm, Outline.branches_append, ho]

theorem State.Orderly.append {s : State} (h : s.Orderly) (ho : o.Orderly) (hb : o.branches = []) :
    (s.append o).Orderly := by
  obtain ⟨houtline, htop, hbody, helse⟩ := h
  unfold State.append
  split
  · next hs =>
      refine ⟨houtline.append ho fun _ => hb, ?_, hbody, helse⟩
      show (s.diagram.outline ++ o).branches = []
      rw [Outline.branches_append, htop, hb, List.append_nil]
  · next b bs hs =>
      rw [hs] at hbody helse
      refine ⟨houtline, htop, ?_, ?_⟩
      · intro c hc
        rcases List.mem_cons.mp hc with rfl | hc
        · exact (hbody b List.mem_cons_self).append ho fun _ => hb
        · exact hbody c (List.mem_cons_of_mem b hc)
      · intro c hc
        rcases List.mem_cons.mp hc with rfl | hc
        · show b.hasElse = true ↔ ∃ x ∈ (b.body ++ o).branches, x.isElse = true
          rw [Outline.branches_append, hb, List.append_nil]
          exact helse b List.mem_cons_self
        · exact helse c (List.mem_cons_of_mem b hc)

end append

/-! ### Closing blocks -/

section close
variable (s : State)

theorem besides_closeBlock : s.closeBlock.besides = s.besides := by
  unfold State.closeBlock
  split
  · rfl
  · exact besides_append _

theorem places_closeBlock : s.closeBlock.places = s.places := by
  unfold State.closeBlock
  split
  · rfl
  · next b bs h =>
      rw [places_append]
      simp [State.places, State.path, State.frames, h, stackPlaces, OpenBlock.close,
        Outline.places]

theorem frames_closeBlock : s.closeBlock.frames = s.frames.tail := by
  unfold State.closeBlock
  split
  · next h => simp [State.frames, h]
  · next b bs h =>
      rw [frames_append _ rfl]
      simp [State.frames, h]

theorem State.Orderly.closeBlock {s : State} (h : s.Orderly) : s.closeBlock.Orderly := by
  unfold State.closeBlock
  split
  · exact h
  · next b bs hs =>
      obtain ⟨houtline, htop, hbody, helse⟩ := h
      rw [hs] at hbody helse
      refine State.Orderly.append ⟨houtline, htop, ?_, ?_⟩ ?_ rfl
      · exact fun c hc => hbody c (List.mem_cons_of_mem b hc)
      · exact fun c hc => helse c (List.mem_cons_of_mem b hc)
      · exact ⟨hbody b List.mem_cons_self, trivial⟩

/-- What closing one block keeps, closing several blocks keeps. -/
theorem closeWhile_of_closeBlock {P : State → Prop} (hP : ∀ s, P s → P s.closeBlock)
    (p : OpenBlock → Bool) (bs : List OpenBlock) {s : State} (h : P s) : P (closeWhile p bs s) := by
  induction bs generalizing s with
  | nil => exact h
  | cons b bs ih =>
      rw [closeWhile]
      split
      · exact ih (hP s h)
      · exact h

variable (p : OpenBlock → Bool) (bs : List OpenBlock)

theorem besides_closeWhile : (closeWhile p bs s).besides = s.besides :=
  closeWhile_of_closeBlock (P := fun t => t.besides = s.besides)
    (fun t h => (besides_closeBlock t).trans h) p bs rfl

theorem places_closeWhile : (closeWhile p bs s).places = s.places :=
  closeWhile_of_closeBlock (P := fun t => t.places = s.places)
    (fun t h => (places_closeBlock t).trans h) p bs rfl

theorem State.Orderly.closeWhile {s : State} (h : s.Orderly) : (closeWhile p bs s).Orderly :=
  closeWhile_of_closeBlock (P := State.Orderly) (fun _ => State.Orderly.closeBlock) p bs h

/-- The blocks in front are closed, as long as the condition holds of them. -/
theorem frames_closeWhile {q : Frame → Bool} (hq : ∀ b, p b = q b.frame)
    (h : s.frames = bs.map OpenBlock.frame) :
    (closeWhile p bs s).frames = s.frames.dropWhile q := by
  induction bs generalizing s with
  | nil => rw [closeWhile, h]; rfl
  | cons b bs ih =>
      rw [closeWhile, h, List.map_cons, List.dropWhile_cons, ← hq]
      split
      · rw [ih, frames_closeBlock, h]
        · rfl
        · rw [frames_closeBlock, h]; rfl
      · rw [h]; rfl

/-- A line of some indentation ends the block; a line that starts a branch leaves a block of its own
indentation open, unless that is a loop. -/
def Frame.endsAt (indent : Nat) (startsBranch : Bool) (f : Frame) : Bool :=
  indent ≤ f.indent && !(startsBranch && f.indent == indent && f.head.kind != .loop)

variable (indent : Nat) (startsBranch : Bool)

theorem besides_closeBlocks : (s.closeBlocks indent startsBranch).besides = s.besides :=
  besides_closeWhile s _ _

theorem places_closeBlocks : (s.closeBlocks indent startsBranch).places = s.places :=
  places_closeWhile s _ _

theorem State.Orderly.closeBlocks {s : State} (h : s.Orderly) :
    (s.closeBlocks indent startsBranch).Orderly := h.closeWhile _ _

theorem frames_closeBlocks : (s.closeBlocks indent startsBranch).frames =
    s.frames.dropWhile (Frame.endsAt indent startsBranch) :=
  frames_closeWhile s _ _ (fun _ => rfl) rfl

theorem besides_closeAll : s.closeAll.besides = s.besides := besides_closeWhile s _ _

theorem places_closeAll : s.closeAll.places = s.places := places_closeWhile s _ _

theorem State.Orderly.closeAll {s : State} (h : s.Orderly) : s.closeAll.Orderly := h.closeWhile _ _

theorem stack_closeAll : s.closeAll.stack = [] := by
  have h : s.closeAll.frames = s.frames.dropWhile fun _ => true :=
    frames_closeWhile s _ _ (fun _ => rfl) rfl
  have hnil : s.frames.dropWhile (fun _ => true) = [] := List.dropWhile_eq_nil_iff.mpr (by simp)
  rw [hnil] at h
  exact List.map_eq_nil_iff.mp h

end close

/-! ### Notes -/

/-- A note is added at the end, or left out. -/
theorem addNote_eq (s : State) (participant : Option String) (side : Side) (text : List Char)
    (line : Nat) (afterMessage : Option Nat) :
    s.addNote participant side text line afterMessage = s ∨
    ∃ id, participant = some id ∧ text ≠ [] ∧ s.diagram.hasParticipant id = true ∧
      s.addNote participant side text line afterMessage =
        s.append (Entry.note ⟨String.ofList text, side, id, line, afterMessage⟩).alone := by
  cases participant with
  | none => exact Or.inl rfl
  | some id =>
      by_cases hskip : (text.isEmpty || !s.diagram.hasParticipant id) = true
      · exact Or.inl (if_pos hskip)
      · refine Or.inr ⟨id, rfl, ?_, ?_, if_neg hskip⟩
        · rintro rfl
          exact hskip rfl
        · cases hid : s.diagram.hasParticipant id with
          | true => rfl
          | false => simp [hid] at hskip

theorem besides_addNote (s : State) (participant : Option String) (side : Side) (text : List Char)
    (line : Nat) (afterMessage : Option Nat) :
    (s.addNote participant side text line afterMessage).besides = s.besides := by
  obtain h | ⟨id, -, -, -, h⟩ := addNote_eq s participant side text line afterMessage
  · rw [h]
  · rw [h, besides_append]

theorem closeNote_of_none {s : State} (h : s.note = none) : s.closeNote = s := by
  unfold State.closeNote
  rw [h]

theorem closeNote_of_some {s : State} {n : OpenNote} (h : s.note = some n) :
    s.closeNote = ({ s with note := none } : State).addNote n.participant n.side n.text n.line
      n.afterMessage := by
  unfold State.closeNote
  rw [h]

theorem besides_closeNote (s : State) : s.closeNote.besides = { s.besides with note := none } := by
  cases hn : s.note with
  | none =>
      rw [closeNote_of_none hn, ← hn]
      rfl
  | some n =>
      rw [closeNote_of_some hn, besides_addNote]
      rfl

end Lifeline.Reader
