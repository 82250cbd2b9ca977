import Lifeline.Layout.Drawing
import Lifeline.Reader.Document

/-! # From a text to a drawing

A pipeline holds detectors, each under a name of its own, and the measures of a layout if it can
read and lay out sequence diagrams at all. The detector that is surest of a text names its type;
among equals it is the one registered first. Only the type `sequence` can be processed. -/

namespace Lifeline.Detection

open Lifeline.Layout

/-- Recognises the texts of one type of diagram. -/
structure Detector where
  /-- How sure it is, in hundredths. -/
  confidence : List Char → Nat
  accepts : List Char → Bool

/-- The detector of sequence diagrams. -/
def sequenceDetector : Detector := ⟨Detection.confidence, Detection.accepts⟩

/-- The name under which the detector of sequence diagrams is registered. -/
def sequenceName : String := "sequence"

/-- What makes a text a sequence diagram, as shown to readers. -/
def sequencePatterns : List String := ["chart: sequence", "->", "~>"]

/-- Detectors, and the measures of the layout. -/
structure Pipeline (α : Type) where
  detectors : List (String × Detector)
  config : Option (Config α)

/-- Why a text could not be processed. -/
inductive PipelineError
  | read (cause : ReadError)
  | layout (cause : LayoutError)
  /-- No detector accepts the text. -/
  | undetected
  /-- The pipeline cannot read. -/
  | noReader
  /-- The pipeline cannot lay out. -/
  | noLayout
  /-- The text is a diagram of another type. -/
  | unsupported
  deriving DecidableEq, Repr

/-- The wording of an error. -/
def PipelineError.message : PipelineError → String
  | .read cause => cause.message
  | .layout cause => cause.message
  | .undetected => "Detection error: No suitable detector found for input"
  | .noReader => "No sequence parser available"
  | .noLayout => "No sequence layout available"
  | .unsupported => "Only sequence diagrams are currently supported"

/-- The surer of two candidates, the first one among equals. -/
def surer : Option (String × Nat) → Option (String × Nat) → Option (String × Nat)
  | none, b => b
  | some a, none => some a
  | some a, some b => if a.2 < b.2 then some b else some a

/-- What a detector says about a text. -/
def candidate? (text : List Char) (d : String × Detector) : Option (String × Nat) :=
  if d.2.accepts text then some (d.1, d.2.confidence text) else none

/-- The surest of detectors that are asked in turn. -/
def surest (ds : List (String × Detector)) (text : List Char) : Option (String × Nat) :=
  ds.foldl (fun best d => surer best (candidate? text d)) none

namespace Pipeline

variable {α : Type}

/-- A pipeline that can do nothing. -/
def empty : Pipeline α := ⟨[], none⟩

/-- Registers a detector, in place of another one of the name. -/
def register (p : Pipeline α) (name : String) (d : Detector) : Pipeline α :=
  if p.detectors.any fun e => e.1 == name then
    { p with detectors := p.detectors.map fun e => if e.1 = name then (name, d) else e }
  else { p with detectors := p.detectors ++ [(name, d)] }

/-- Registers the detector of sequence diagrams. -/
def registerDefaults (p : Pipeline α) : Pipeline α := p.register sequenceName sequenceDetector

/-- A pipeline for sequence diagrams. -/
def sequence (c : Config α) : Pipeline α := (⟨[], some c⟩ : Pipeline α).registerDefaults

/-- The names of the detectors. -/
def names (p : Pipeline α) : List String := p.detectors.map (·.1)

/-- The pipeline can read and lay out sequence diagrams. -/
def handlesSequence (p : Pipeline α) : Bool := p.config.isSome

/-- The name of the detector that is surest of a text. -/
def detect (p : Pipeline α) (text : List Char) : Except PipelineError String :=
  match surest p.detectors text with
  | some (name, _) => .ok name
  | none => .error .undetected

/-- The diagram of a text, whatever the detectors say. -/
def read (p : Pipeline α) (text : List Char) : Except PipelineError Diagram :=
  match p.config with
  | none => .error .noReader
  | some _ => (Diagram.ofText text).mapError .read

variable [Add α] [Sub α] [Mul α] [Div α] [NatCast α] [Max α] [Min α] [LT α] [DecidableLT α]

/-- The drawing of a diagram. -/
def layout (p : Pipeline α) (d : Diagram) (v : View) : Except PipelineError (Drawing α) :=
  match p.config with
  | none => .error .noLayout
  | some c => (d.layout c v).mapError .layout

/-- The drawing of a text: it is detected, read and laid out. -/
def process (p : Pipeline α) (text : List Char) (v : View) :
    Except PipelineError (Drawing α) := do
  let name ← p.detect text
  if name ≠ sequenceName then throw .unsupported
  let d ← p.read text
  p.layout d v

theorem process_of_detect_error {p : Pipeline α} {text : List Char} {v : View} {e : PipelineError}
    (h : p.detect text = .error e) : p.process text v = .error e := by
  simp only [process, h]; rfl

end Pipeline

end Lifeline.Detection
