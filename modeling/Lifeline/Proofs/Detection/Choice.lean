import Lifeline.Proofs.Detection.Acceptance

/-! # Which detector decides

The surest detector is found by asking the detectors one after the other and keeping the best answer
so far. What is kept is the first one of those that no other one exceeds (`surest_cases`). So the
order in which they are asked matters if two detectors share the highest confidence, and only then:
each of the *leaders* of a text is the answer in some order, and no other detector is in any
(`Pipeline.detect_reordered`). -/

namespace Lifeline.Detection

open Layout

/-- The detector accepts the text, and no detector that accepts it is surer. -/
def Leads (ds : List (String × Detector)) (text : List Char) (d : String × Detector) : Prop :=
  d ∈ ds ∧ d.2.accepts text = true ∧
    ∀ e ∈ ds, e.2.accepts text = true → e.2.confidence text ≤ d.2.confidence text

section
variable {ds es : List (String × Detector)} {text : List Char} {c d : String × Detector}

theorem Leads.perm (h : Leads ds text d) (hperm : ds.Perm es) : Leads es text d :=
  ⟨hperm.mem_iff.mp h.1, h.2.1, fun e he => h.2.2 e (hperm.mem_iff.mpr he)⟩

/-! ### Asking in turn -/

theorem surest_concat (ds : List (String × Detector)) (d : String × Detector) (text : List Char) :
    surest (ds ++ [d]) text = surer (surest ds text) (candidate? text d) := by
  rw [surest, List.foldl_append]
  rfl

/-- The detector is the first one of those that no other one exceeds. -/
def Chosen (ds : List (String × Detector)) (text : List Char) (d : String × Detector) : Prop :=
  ∃ before behind, ds = before ++ d :: behind ∧ d.2.accepts text = true ∧
    (∀ e ∈ before, e.2.accepts text = true → e.2.confidence text < d.2.confidence text) ∧
    ∀ e ∈ behind, e.2.accepts text = true → e.2.confidence text ≤ d.2.confidence text

theorem Chosen.leads (h : Chosen ds text d) : Leads ds text d := by
  obtain ⟨before, behind, rfl, hd, hbefore, hbehind⟩ := h
  refine ⟨by simp, hd, fun e he hyes => ?_⟩
  rcases List.mem_append.mp he with he | he
  · exact (hbefore e he hyes).le
  · rcases List.mem_cons.mp he with rfl | he
    · exact le_rfl
    · exact hbehind e he hyes

theorem Chosen.concat (h : Chosen ds text d)
    (hc : c.2.accepts text = true → c.2.confidence text ≤ d.2.confidence text) :
    Chosen (ds ++ [c]) text d := by
  obtain ⟨before, behind, rfl, hd, hbefore, hbehind⟩ := h
  refine ⟨before, behind ++ [c], by simp, hd, hbefore, fun e he hyes => ?_⟩
  rcases List.mem_append.mp he with he | he
  · exact hbehind e he hyes
  · obtain rfl := List.mem_singleton.mp he
    exact hc hyes

theorem chosen_concat (hc : c.2.accepts text = true)
    (h : ∀ e ∈ ds, e.2.accepts text = true → e.2.confidence text < c.2.confidence text) :
    Chosen (ds ++ [c]) text c :=
  ⟨ds, [], rfl, hc, h, fun _ he => absurd he List.not_mem_nil⟩

/-- The detectors have been asked in turn: no one has accepted the text, or the answer is that of
the chosen one. -/
theorem surest_cases (ds : List (String × Detector)) (text : List Char) :
    (surest ds text = none ∧ ∀ e ∈ ds, e.2.accepts text = false) ∨
    ∃ d, Chosen ds text d ∧ surest ds text = some (d.1, d.2.confidence text) := by
  induction ds using List.reverseRecOn with
  | nil => exact Or.inl ⟨rfl, fun e he => absurd he List.not_mem_nil⟩
  | append_singleton ds c ih =>
      rw [surest_concat, candidate?]
      cases hc : c.2.accepts text with
      | false =>
          rcases ih with ⟨hnone, hall⟩ | ⟨d, hd, hsome⟩
          · refine Or.inl ⟨by rw [hnone]; rfl, fun e he => ?_⟩
            rcases List.mem_append.mp he with he | he
            · exact hall e he
            · rwa [List.mem_singleton.mp he]
          · refine Or.inr ⟨d, hd.concat fun hyes => ?_, by rw [hsome]; rfl⟩
            exact absurd (hc.symm.trans hyes) (by decide)
      | true =>
          rcases ih with ⟨hnone, hall⟩ | ⟨d, hd, hsome⟩
          · refine Or.inr ⟨c, chosen_concat hc fun e he hyes => ?_, by rw [hnone]; rfl⟩
            exact absurd ((hall e he).symm.trans hyes) (by decide)
          · rw [hsome, if_pos rfl, surer]
            by_cases hless : d.2.confidence text < c.2.confidence text
            · refine Or.inr ⟨c, chosen_concat hc fun e he hyes => ?_, if_pos hless⟩
              exact (hd.leads.2.2 e he hyes).trans_lt hless
            · exact Or.inr ⟨d, hd.concat fun _ => Nat.not_lt.mp hless, if_neg hless⟩

theorem exists_leads {answer : String × Nat} (h : surest ds text = some answer) :
    ∃ d, Leads ds text d ∧ d.1 = answer.1 := by
  rcases surest_cases ds text with ⟨hnone, -⟩ | ⟨d, hd, hsome⟩
  · cases h.symm.trans hnone
  · exact ⟨d, hd.leads, by rw [Option.some.inj (h.symm.trans hsome)]⟩

/-- A leader that is asked first keeps the lead. -/
theorem surest_cons (h : Leads (d :: ds) text d) :
    surest (d :: ds) text = some (d.1, d.2.confidence text) := by
  rcases surest_cases (d :: ds) text with
    ⟨-, hall⟩ | ⟨c, ⟨before, behind, hsplit, hc, hbefore, -⟩, hsome⟩
  · exact absurd ((hall d List.mem_cons_self).symm.trans h.2.1) (by decide)
  · cases before with
    | nil =>
        obtain ⟨rfl, -⟩ := List.cons.inj hsplit
        exact hsome
    | cons first before =>
        obtain ⟨rfl, rfl⟩ := List.cons.inj hsplit
        have hless := hbefore d List.mem_cons_self h.2.1
        have hle := h.2.2 c (by simp) hc
        exact absurd hless (Nat.not_lt.mpr hle)

theorem surest_eq_none_iff : surest ds text = none ↔ ∀ e ∈ ds, e.2.accepts text = false := by
  rcases surest_cases ds text with ⟨hnone, hall⟩ | ⟨d, hd, hsome⟩
  · exact iff_of_true hnone hall
  · refine iff_of_false (by rw [hsome]; simp) fun hall => ?_
    exact absurd ((hall d hd.leads.1).symm.trans hd.leads.2.1) (by decide)

end

/-! ### Pipelines that ask in another order -/

namespace Pipeline

section
variable {α : Type} {p q : Pipeline α} {text : List Char} {name : String} {d : String × Detector}

/-- The two pipelines differ in nothing but the order of their detectors. -/
structure Reordered (p q : Pipeline α) : Prop where
  detectors : p.detectors.Perm q.detectors
  config : p.config = q.config

theorem Reordered.refl (p : Pipeline α) : p.Reordered p := ⟨.refl _, rfl⟩

theorem Reordered.detect_eq_error_iff (h : p.Reordered q) :
    q.detect text = .error .undetected ↔ ∀ e ∈ p.detectors, e.2.accepts text = false := by
  have hmem : (∀ e ∈ p.detectors, e.2.accepts text = false) ↔ surest q.detectors text = none := by
    rw [surest_eq_none_iff]
    exact forall_congr' fun e => by rw [h.detectors.mem_iff]
  rw [hmem, detect]
  split
  · next hsome => simp [hsome]
  · next hnone => simp [hnone]

theorem Reordered.detect_cases (h : p.Reordered q) (text : List Char) :
    (∃ d, Leads p.detectors text d ∧ q.detect text = .ok d.1) ∨
      (∀ d, ¬ Leads p.detectors text d) ∧ q.detect text = .error .undetected := by
  cases hbest : surest q.detectors text with
  | some answer =>
      obtain ⟨d, hd, hname⟩ := exists_leads hbest
      exact Or.inl ⟨d, hd.perm h.detectors.symm, by rw [detect, hbest, hname]⟩
  | none =>
      refine Or.inr ⟨fun d hd => ?_, by rw [detect, hbest]⟩
      have hall := surest_eq_none_iff.mp hbest d (h.detectors.mem_iff.mp hd.1)
      exact absurd (hall.symm.trans hd.2.1) (by decide)

/-- Every leader decides in some order. -/
theorem exists_reordered (h : Leads p.detectors text d) :
    ∃ q, p.Reordered q ∧ q.detect text = .ok d.1 := by
  obtain ⟨before, behind, hsplit⟩ := List.append_of_mem h.1
  have hperm : p.detectors.Perm (d :: (before ++ behind)) := by
    rw [hsplit]
    exact List.perm_middle
  refine ⟨{ p with detectors := d :: (before ++ behind) }, ⟨hperm, rfl⟩, ?_⟩
  rw [detect, surest_cons (h.perm hperm)]

theorem exists_reordered_iff : (∃ q, p.Reordered q ∧ q.detect text = .ok name) ↔
    ∃ d, Leads p.detectors text d ∧ d.1 = name := by
  constructor
  · rintro ⟨q, hq, hname⟩
    rcases hq.detect_cases text with ⟨d, hd, hdetect⟩ | ⟨-, hdetect⟩
    · exact ⟨d, hd, Except.ok.inj (hdetect.symm.trans hname)⟩
    · cases hdetect.symm.trans hname
  · rintro ⟨d, hd, rfl⟩
    exact exists_reordered hd

/-- The order makes no difference exactly if all leaders have the same name. -/
theorem detect_congr_iff : (∀ q, p.Reordered q → q.detect text = p.detect text) ↔
    ∀ d e, Leads p.detectors text d → Leads p.detectors text e → d.1 = e.1 := by
  constructor
  · intro hsame d e hd he
    obtain ⟨q, hq, hname⟩ := exists_reordered hd
    obtain ⟨r, hr, hname'⟩ := exists_reordered he
    have heq := (hsame q hq).trans (hsame r hr).symm
    exact Except.ok.inj ((hname.symm.trans heq).trans hname')
  · intro hsame q hq
    rcases hq.detect_cases text, (Reordered.refl p).detect_cases text with
      ⟨⟨d, hd, hdetect⟩ | ⟨hnone, hdetect⟩, ⟨e, he, hdetect'⟩ | ⟨hnone', hdetect'⟩⟩
    · rw [hdetect, hdetect', hsame d e hd he]
    · exact absurd hd (hnone' d)
    · exact absurd he (hnone e)
    · rw [hdetect, hdetect']

end

section
variable {α : Type} {p q : Pipeline α} {text : List Char} {name : String} {v : View}
  [Add α] [Sub α] [Mul α] [Div α] [NatCast α] [Max α] [Min α] [LT α] [DecidableLT α]

theorem Reordered.process_eq (h : p.Reordered q) (hdetect : q.detect text = p.detect text) :
    q.process text v = p.process text v := by
  have hread : q.read text = p.read text := by rw [read, read, h.config]
  have hlayout : ∀ d, q.layout d v = p.layout d v := fun d => by rw [layout, layout, h.config]
  simp only [process, hdetect, hread, hlayout]

theorem process_of_other (h : p.detect text = .ok name) (hname : name ≠ sequenceName) :
    p.process text v = .error .unsupported := by
  simp only [process, h, bind, Except.bind]
  rw [if_pos hname]
  rfl

theorem process_of_sequence (h : p.detect text = .ok sequenceName) :
    p.process text v = (p.read text).bind fun d => p.layout d v := by
  rw [process, h]
  rfl

theorem process_ne_unsupported (h : p.detect text = .ok sequenceName) :
    p.process text v ≠ .error .unsupported := by
  rw [process_of_sequence h, read]
  cases hc : p.config with
  | none => simp [Except.bind]
  | some c =>
      cases Diagram.ofText text with
      | error e => simp [Except.mapError, Except.bind]
      | ok d => cases hd : d.layout c v <;> simp [layout, hc, Except.mapError, Except.bind, hd]

/-- The order makes no difference to what a text is made into exactly if the detector of sequence
diagrams is no leader or no other one is. -/
theorem process_congr_iff : (∀ q, p.Reordered q → q.process text v = p.process text v) ↔
    (∀ d, Leads p.detectors text d → d.1 = sequenceName) ∨
      ∀ d, Leads p.detectors text d → d.1 ≠ sequenceName := by
  constructor
  · intro hsame
    by_contra hmixed
    push Not at hmixed
    obtain ⟨⟨d, hd, hother⟩, e, he, hsequence⟩ := hmixed
    obtain ⟨q, hq, hname⟩ := exists_reordered hd
    obtain ⟨r, hr, hname'⟩ := exists_reordered he
    have hrefused : r.process text v = .error .unsupported := by
      rw [hsame r hr, ← hsame q hq, process_of_other hname hother]
    exact process_ne_unsupported (hsequence ▸ hname') hrefused
  · rintro (hsequence | hother) q hq
    · refine hq.process_eq (detect_congr_iff.mpr (fun d e hd he => ?_) q hq)
      rw [hsequence d hd, hsequence e he]
    · rcases hq.detect_cases text, (Reordered.refl p).detect_cases text with
        ⟨⟨d, hd, hdetect⟩ | ⟨hnone, hdetect⟩, ⟨e, he, hdetect'⟩ | ⟨hnone', hdetect'⟩⟩
      · rw [process_of_other hdetect (hother d hd), process_of_other hdetect' (hother e he)]
      · exact absurd hd (hnone' d)
      · exact absurd he (hnone e)
      · rw [process_of_detect_error hdetect, process_of_detect_error hdetect']

/-- **The order of the detectors decides among leaders, and nothing else.** With the detectors asked
in any order, a text is detected under the names of its leaders and no others, and whether it is
detected at all does not depend on the order. So the name does not depend on the order exactly if
all leaders have it; and what the pipeline makes of the text does not exactly if the detector of
sequence diagrams is no leader or no other one is. -/
theorem detect_reordered (p : Pipeline α) (text : List Char) :
    (∀ name, (∃ q, p.Reordered q ∧ q.detect text = .ok name) ↔
      ∃ d, Leads p.detectors text d ∧ d.1 = name) ∧
    (∀ q, p.Reordered q → (q.detect text = .error .undetected ↔
      ∀ e ∈ p.detectors, e.2.accepts text = false)) ∧
    ((∀ q, p.Reordered q → q.detect text = p.detect text) ↔
      ∀ d e, Leads p.detectors text d → Leads p.detectors text e → d.1 = e.1) ∧
    ∀ v, (∀ q, p.Reordered q → q.process text v = p.process text v) ↔
      (∀ d, Leads p.detectors text d → d.1 = sequenceName) ∨
        ∀ d, Leads p.detectors text d → d.1 ≠ sequenceName := by
  refine ⟨fun name => exists_reordered_iff, ?_, detect_congr_iff, fun v => process_congr_iff⟩
  intro q hq
  exact hq.detect_eq_error_iff

end

/-- The detector of sequence diagrams, under two names. -/
def twins : Pipeline ℚ := (sequence Config.standard).register "flow" sequenceDetector

/-- The same two, asked in the opposite order. -/
def twinsTurned : Pipeline ℚ := { twins with detectors := twins.detectors.reverse }

/-- A message. -/
def oneMessage : List Char := "A -> B".toList

theorem leads_twins : ∀ d ∈ twins.detectors, Leads twins.detectors oneMessage d := by
  have hall : ∀ d ∈ twins.detectors, d.2.accepts oneMessage = true ∧
      d.2.confidence oneMessage = 60 := by
    decide +kernel
  intro d hd
  refine ⟨hd, (hall d hd).1, fun e he _ => ?_⟩
  rw [(hall d hd).2, (hall e he).2]

theorem detect_reordered_twins :
    (∃ q, twins.Reordered q ∧ q.detect oneMessage = .ok "sequence") ∧
    (∃ q, twins.Reordered q ∧ q.detect oneMessage = .ok "flow") ∧
    (¬ ∃ q, twins.Reordered q ∧ q.detect oneMessage = .ok "other") ∧
    twins.Reordered twinsTurned ∧ twinsTurned.detect "hello".toList = .error .undetected ∧
    ¬ ∀ q, twins.Reordered q → q.process oneMessage .everything =
      twins.process oneMessage .everything := by
  have hmem : ("sequence", sequenceDetector) ∈ twins.detectors ∧
      ("flow", sequenceDetector) ∈ twins.detectors := by
    have htwins : twins.detectors =
        [("sequence", sequenceDetector), ("flow", sequenceDetector)] := rfl
    simp [htwins]
  obtain ⟨hnames, -, -, hprocess⟩ := detect_reordered twins oneMessage
  have hturned : twins.Reordered twinsTurned := ⟨(List.reverse_perm _).symm, rfl⟩
  refine ⟨(hnames _).mpr ⟨_, leads_twins _ hmem.1, rfl⟩,
    (hnames _).mpr ⟨_, leads_twins _ hmem.2, rfl⟩, ?_, hturned, ?_, ?_⟩
  · rw [hnames]
    rintro ⟨d, hd, hname⟩
    have hall : ∀ d ∈ twins.detectors, d.1 ≠ "other" := by decide +kernel
    exact hall d hd.1 hname
  · refine ((detect_reordered twins "hello".toList).2.1 _ hturned).mpr ?_
    decide +kernel
  · rw [hprocess]
    rintro (hsequence | hother)
    · exact absurd (hsequence _ (leads_twins _ hmem.2)) (by decide)
    · exact absurd rfl (hother _ (leads_twins _ hmem.1))

/-- The name, and whether the text is drawn, depend on which of two equals is asked first. -/
theorem detect_twins :
    twins.names.Nodup ∧ twins.Reordered twinsTurned ∧
    twins.detect oneMessage = .ok "sequence" ∧ twinsTurned.detect oneMessage = .ok "flow" ∧
    ∀ v, (∃ g, twins.process oneMessage v = .ok g) ∧
      twinsTurned.process oneMessage v = .error .unsupported := by
  have hdetect : twins.detect oneMessage = .ok "sequence" ∧
      twinsTurned.detect oneMessage = .ok "flow" := by decide +kernel
  refine ⟨by decide +kernel, ⟨(List.reverse_perm _).symm, rfl⟩, hdetect.1, hdetect.2, fun v => ?_⟩
  refine ⟨?_, process_of_other hdetect.2 (by decide)⟩
  have hread := (read_eq_ok_iff (c := (Config.standard : Config ℚ))).mpr
    (Diagram.read_of_fst Diagram.empty oneMessage (by decide +kernel))
  have htwins : twins.read oneMessage =
      (sequence (Config.standard : Config ℚ)).read oneMessage := rfl
  obtain ⟨g, hg⟩ := exists_layout hread v
  refine ⟨g, ?_⟩
  rw [process_of_sequence hdetect.1, htwins, hread]
  exact hg

end Pipeline

end Lifeline.Detection
