import Lifeline.Detection.Pipeline
import Lifeline.Proofs.Diagram.History
import Lifeline.Proofs.Layout.Placement
import Lifeline.Proofs.Reader.Order
import Lifeline.Proofs.Reader.Signs
import Mathlib.Algebra.Field.Rat

/-! # What can be read is detected

The detector and the reader look at a text in different ways, but what the reader has met of a
sequence diagram is a sign to the detector as well (`Diagram.accepts_of_read`). So the pipeline
loses nothing by asking the detector first: it draws the texts that can be read, and no others
(`Pipeline.process_sequence`). -/

namespace Lifeline

open Diagram Reader

/-- A text that can be read is taken for a sequence diagram. -/
theorem Diagram.accepts_of_read {text : List Char} {d : Diagram}
    (h : empty.read text = (none, d)) : Detection.accepts text = true := by
  rw [Detection.accepts_iff]
  unfold Diagram.read at h
  split at h
  · simp at h
  · next s hs =>
      rcases signs_readLines hs with hsame | ⟨raw, hraw, hheader | ⟨statement, hstatement⟩⟩
      · have hfinish := Prod.mk.inj ((signs_finish s).trans hsame)
        have hchart : s.finish.hasChart = false := hfinish.1
        have hmessages : s.finish.diagram.messages = [] := hfinish.2
        simp only [hchart, hmessages, List.isEmpty_nil, Bool.not_false, Bool.true_and] at h
        split at h
        · simp at h
        · next harrow => exact Or.inr (by simpa using harrow)
      · exact Or.inl (Detection.hasHeader_of_mem_lines hraw hheader)
      · exact Or.inr (Detection.hasArrowLike_of_mem_lines hraw hstatement)

namespace Detection.Pipeline

open Layout

section

variable {α : Type} {c : Config α} {text : List Char} {d : Diagram}

theorem detect_sequence (c : Config α) (text : List Char) : (sequence c).detect text =
    if sequenceDetector.accepts text then .ok sequenceName else .error .undetected := by
  have hsurest : surest (sequence c).detectors text =
      candidate? text (sequenceName, sequenceDetector) := rfl
  unfold detect
  rw [hsurest, candidate?]
  cases sequenceDetector.accepts text <;> rfl

theorem read_eq (c : Config α) (text : List Char) : (sequence c).read text =
    match Diagram.empty.read text with
    | (none, d) => .ok d
    | (some cause, _) => .error (.read cause) := by
  have hread : (sequence c).read text = (Diagram.ofText text).mapError .read := rfl
  rw [hread, Diagram.ofText]
  obtain ⟨cause, d⟩ := Diagram.empty.read text
  cases cause <;> rfl

theorem read_eq_ok_iff :
    (sequence c).read text = .ok d ↔ Diagram.empty.read text = (none, d) := by
  rw [read_eq]
  split <;> simp_all

theorem read_eq_error {cause : ReadError} (h : (Diagram.empty.read text).1 = some cause) :
    (sequence c).read text = .error (.read cause) := by
  rw [read_eq]
  split <;> simp_all

variable [Add α] [Sub α] [Mul α] [Div α] [NatCast α] [Max α] [Min α] [LT α] [DecidableLT α]

/-- The pipeline reads and lays out what its detector accepts. -/
theorem process_eq (c : Config α) (text : List Char) (v : View) : (sequence c).process text v =
    if sequenceDetector.accepts text then
      ((sequence c).read text).bind fun d => (sequence c).layout d v
    else .error .undetected := by
  unfold process
  rw [detect_sequence]
  cases sequenceDetector.accepts text with
  | true => rfl
  | false => rfl

theorem exists_layout (h : (sequence c).read text = .ok d) (v : View) :
    ∃ g, (sequence c).layout d v = .ok g := by
  obtain ⟨hsound, hread⟩ := sound_of_read (read_eq_ok_iff.mp h)
  obtain ⟨_, g, -, hg, -⟩ := hsound.registered.layout_fits hread c v
  have hlayout : (sequence c).layout d v = (d.layout c v).mapError .layout := rfl
  exact ⟨g, by rw [hlayout, hg]; rfl⟩

/-- **The detector keeps no text back that can be read.** It accepts every such text, and the
pipeline draws, under every view, what it draws if the detector is not asked. A text that cannot be
read is not drawn under any view: the error is that of the reading if the detector accepts the
text. -/
theorem process_sequence (c : Config α) (text : List Char) :
    (∀ d, (sequence c).read text = .ok d → sequenceDetector.accepts text = true ∧
      ∀ v, ∃ g, (sequence c).layout d v = .ok g ∧ (sequence c).process text v = .ok g) ∧
    ∀ e, (sequence c).read text = .error e → ∀ v, (sequence c).process text v =
      .error (if sequenceDetector.accepts text then e else .undetected) := by
  refine ⟨?_, ?_⟩
  · intro d h
    have haccepts : sequenceDetector.accepts text = true := accepts_of_read (read_eq_ok_iff.mp h)
    refine ⟨haccepts, fun v => ?_⟩
    obtain ⟨g, hg⟩ := exists_layout h v
    refine ⟨g, hg, ?_⟩
    rw [process_eq, if_pos haccepts, h]
    exact hg
  · intro e h v
    rw [process_eq, h]
    split <;> rfl

end

/-- A header with blanks, capitals and line ends of all sorts, and no message. -/
def oddHeader : List Char := "\u3000ChArT\t: SEQUENCE\u00a0\r\ntitle: Empty\r\n".toList

/-- An arrow in a title only. -/
def arrowTitle : List Char := "\n title: a ~> b".toList

/-- A message, and a line that cannot be read. -/
def strayed : List Char := "A -> B: go\n# stray".toList

theorem process_sequence_mixed :
    (∃ d, (sequence (Config.standard : Config ℚ)).read oddHeader = .ok d ∧
      sequenceDetector.accepts oddHeader = true ∧ ∀ v, ∃ g,
        (sequence (Config.standard : Config ℚ)).layout d v = .ok g ∧
        (sequence (Config.standard : Config ℚ)).process oddHeader v = .ok g) ∧
    (∃ d, (sequence (Config.standard : Config ℚ)).read arrowTitle = .ok d ∧
      sequenceDetector.accepts arrowTitle = true) ∧
    (∀ v, (sequence (Config.standard : Config ℚ)).process strayed v =
      .error (.read (.atLine 2 .strayHash))) ∧
    ∀ v, (sequence (Config.standard : Config ℚ)).process "hello".toList v = .error .undetected := by
  have hheader := read_of_fst Diagram.empty oddHeader (by decide +kernel)
  have htitle := read_of_fst Diagram.empty arrowTitle (by decide +kernel)
  have hstrayed : (Diagram.empty.read strayed).1 = some (.atLine 2 .strayHash) := by decide +kernel
  have hhello : (Diagram.empty.read "hello".toList).1 = some .noContent := by decide +kernel
  have haccepts : sequenceDetector.accepts strayed = true ∧
      sequenceDetector.accepts "hello".toList = false := by decide +kernel
  refine ⟨?_, ?_, ?_, ?_⟩
  · have hread := (read_eq_ok_iff (c := (Config.standard : Config ℚ))).mpr hheader
    exact ⟨_, hread, (process_sequence _ oddHeader).1 _ hread⟩
  · have hread := (read_eq_ok_iff (c := (Config.standard : Config ℚ))).mpr htitle
    exact ⟨_, hread, ((process_sequence _ arrowTitle).1 _ hread).1⟩
  · intro v
    rw [(process_sequence _ strayed).2 _ (read_eq_error hstrayed) v, if_pos haccepts.1]
  · intro v
    rw [(process_sequence _ "hello".toList).2 _ (read_eq_error hhello) v, haccepts.2]
    rfl

end Detection.Pipeline

end Lifeline
