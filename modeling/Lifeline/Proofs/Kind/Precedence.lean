import Lifeline.Kind.Rules
import Lifeline.Proofs.Text.Line

/-! # Rules that decide

Names of participants fit several rules at once, and the first one decides. A rule decides about
some name or other (`Decides`) unless rules of other kinds that come before it take all names that
fit it. For all rules but one a word of the pattern, with a character around it where the pattern
allows for it, is such a name (`decides_of_ne`). To see that, no rule need be tried on a name that
lacks a pair of neighbours of each of its words (`neighbours_lor_of_isInfix`).

The rule for partners never decides (`not_decides_partner`): what ends in `partner` ends in `er`,
too, and no rule for systems of other parties that comes before those for people fits such a name.
-/

namespace Lifeline

open Lifeline.Unicode (isBlank)

/-- Some name that fits the rule has the kind of the rule. -/
def Decides (r : NamePattern × ParticipantKind) : Prop :=
  ∃ name, r.1.fits (Text.trim name) = true ∧ inferKind name = r.2

/-! ### Words and their neighbours

A word that fits a name stands in it, next to the start or the end where the pattern says so. Then
any two neighbours in the word are neighbours in the name. The pairs of neighbours are kept as the
bits of a number, so that one operation on numbers tells that a word does not fit. -/

/-- The pairs of neighbours in a text. -/
def neighbours : List Char → Nat
  | c :: d :: rest => 1 <<< (32 * c.toNat + d.toNat) ||| neighbours (d :: rest)
  | _ => 0

theorem testBit_neighbours {text : List Char} {i : Nat} : (neighbours text).testBit i = true ↔
    ∃ c d, [c, d] <:+: text ∧ 32 * c.toNat + d.toNat = i := by
  induction text with
  | nil => simp [neighbours]
  | cons c text ih =>
    cases text with
    | nil => simp [neighbours, List.infix_cons_iff]
    | cons d rest =>
      rw [neighbours, Nat.testBit_or, Nat.one_shiftLeft, Nat.testBit_two_pow, Bool.or_eq_true,
        decide_eq_true_iff, ih]
      constructor
      · rintro (hi | ⟨a, b, hab, hi⟩)
        · exact ⟨c, d, ⟨[], rest, rfl⟩, hi⟩
        · exact ⟨a, b, hab.trans (List.suffix_cons c _).isInfix, hi⟩
      · rintro ⟨a, b, hab, hi⟩
        rcases List.infix_cons_iff.mp hab with hfirst | hab
        · obtain ⟨rfl, hsecond⟩ := List.cons_prefix_cons.mp hfirst
          obtain ⟨rfl, -⟩ := List.cons_prefix_cons.mp hsecond
          exact Or.inl hi
        · exact Or.inr ⟨a, b, hab, hi⟩

theorem neighbours_lor_of_isInfix {word text : List Char} (h : word <:+: text) :
    neighbours word ||| neighbours text = neighbours text := by
  refine Nat.eq_of_testBit_eq fun i => ?_
  rw [Nat.testBit_or, Bool.or_eq_right_iff_imp, testBit_neighbours, testBit_neighbours]
  rintro ⟨c, d, hcd, hi⟩
  exact ⟨c, d, hcd.trans h, hi⟩

/-- A name between signs for its two ends. -/
def enclosed (name : List Char) : List Char := '^' :: name ++ ['$']

namespace NamePattern

/-- The words of a pattern. -/
def words : NamePattern → List String
  | is ws | starts ws | ends ws | holds ws => ws

/-- A word with the signs of the ends that the pattern ties it to. -/
def tied (p : NamePattern) (word : List Char) : List Char :=
  match p with
  | is _ => '^' :: word ++ ['$']
  | starts _ => '^' :: word
  | ends _ => word ++ ['$']
  | holds _ => word

/-- A name for a word of the pattern: the word, with another character at each end where the pattern
leaves open what stands there. -/
def sample (p : NamePattern) (word : List Char) : List Char :=
  match p with
  | is _ => word
  | starts _ => word ++ ['_']
  | ends _ => '_' :: word
  | holds _ => '_' :: word ++ ['_']

variable {p : NamePattern} {name : List Char} {w : String}

theorem exists_infix_of_fits (h : p.fits name = true) :
    ∃ w ∈ p.words, p.tied w.toList <:+: enclosed (Text.folded name) := by
  cases p <;> obtain ⟨w, hw, hfits⟩ := List.any_eq_true.mp h <;> refine ⟨w, hw, ?_⟩
  case is => exact beq_iff_eq.mp hfits ▸ List.infix_refl _
  case starts =>
    exact ((List.cons_prefix_cons.mpr ⟨rfl, List.isPrefixOf_iff_prefix.mp hfits⟩).trans
      (List.prefix_append _ _)).isInfix
  case ends =>
    obtain ⟨front, hfront⟩ := List.isSuffixOf_iff_suffix.mp hfits
    exact ⟨'^' :: front, [], by simp [enclosed, tied, ← hfront]⟩
  case holds =>
    exact (Text.contains_iff.mp hfits).trans
      ((List.prefix_append _ _).isInfix.trans (List.suffix_cons _ _).isInfix)

end NamePattern

/-! ### Samples -/

/-- From the hyphen to the small z in the table of characters, but for the capital letters. The words
of patterns and their samples are made of these. -/
def isPlainChar (c : Char) : Bool :=
  Nat.ble 0x2D c.toNat && Nat.ble c.toNat 0x7A && (Nat.ble c.toNat 0x40 || Nat.ble 0x5B c.toNat)

theorem of_isPlainChar {c : Char} (h : isPlainChar c = true) :
    isBlank c = false ∧ Text.foldCase c = c := by
  have htable : ∀ n < 0x7B, isPlainChar (Char.ofNat n) = true →
      isBlank (Char.ofNat n) = false ∧ Text.foldCase (Char.ofNat n) = Char.ofNat n := by
    decide
  have hle : c.toNat ≤ 0x7A := by
    simp only [isPlainChar, Bool.and_eq_true, Nat.ble_eq] at h
    exact h.1.2
  have := htable c.toNat (Nat.lt_succ_of_le hle)
  rw [Char.ofNat_toNat] at this
  exact this h

namespace NamePattern

variable {p : NamePattern} {word : List Char}

theorem plain_sample (h : ∀ c ∈ word, isPlainChar c = true) :
    ∀ c ∈ p.sample word, isPlainChar c = true := by
  have hdash : isPlainChar '_' = true := by decide
  intro c hc
  cases p <;> simp only [sample, List.mem_append, List.mem_cons, List.not_mem_nil, or_false] at hc
  case is => exact h c hc
  case starts => rcases hc with hc | rfl <;> [exact h c hc; exact hdash]
  case ends => rcases hc with rfl | hc <;> [exact hdash; exact h c hc]
  case holds => rcases hc with (rfl | hc) | rfl <;> [exact hdash; exact h c hc; exact hdash]

theorem trim_sample (h : ∀ c ∈ word, isPlainChar c = true) :
    Text.trim (p.sample word) = p.sample word := by
  have hplain : ∀ c ∈ p.sample word, isBlank c = false := fun c hc =>
    (of_isPlainChar (plain_sample h c hc)).1
  refine Text.Trimmed.trim_eq ⟨fun c hc => hplain c ?_, fun c hc => hplain c ?_⟩
  · exact List.mem_of_mem_head? hc
  · exact List.mem_of_mem_getLast? hc

theorem folded_sample (h : ∀ c ∈ word, isPlainChar c = true) :
    Text.folded (p.sample word) = p.sample word :=
  (List.map_congr_left fun c hc => (of_isPlainChar (plain_sample h c hc)).2).trans (List.map_id _)

theorem fits_sample {w : String} (hw : w ∈ p.words) (h : ∀ c ∈ w.toList, isPlainChar c = true) :
    p.fits (p.sample w.toList) = true := by
  unfold NamePattern.fits
  rw [folded_sample h]
  cases p <;> refine List.any_eq_true.mpr ⟨w, hw, ?_⟩
  case is => exact beq_self_eq_true _
  case starts => exact List.isPrefixOf_iff_prefix.mpr (List.prefix_append _ _)
  case ends => exact List.isSuffixOf_iff_suffix.mpr (List.suffix_cons _ _)
  case holds => exact Text.contains_iff.mpr ⟨['_'], ['_'], rfl⟩

end NamePattern

/-! ### Words that decide -/

/-- The rule for partners. -/
def partnerRule : NamePattern × ParticipantKind := (.ends ["partner"], .external)

/-- A word of a rule: the neighbours that it asks of a name, and those that its sample has. -/
structure Claim where
  word : String
  kind : ParticipantKind
  asked : Nat
  offered : Nat

/-- What the words of a rule claim. -/
def claimsOf (r : NamePattern × ParticipantKind) : List Claim :=
  r.1.words.map fun w => ⟨w, r.2, neighbours (r.1.tied w.toList),
    neighbours (enclosed (r.1.sample w.toList))⟩

/-- The words whose samples go to an earlier rule of another kind: `layer` takes the first, and the
suffix -er the second. -/
def overruledWords : List String := ["player", "partner"]

/-- The first claim leaves the sample of the second alone, or gives it the same kind. -/
def Claim.yields (x y : Claim) : Bool :=
  bif Nat.beq (Nat.lor x.asked y.offered) y.offered then
    decide (x.kind = y.kind) || overruledWords.contains y.word
  else true

theorem Claim.kind_eq_of_yields {x y : Claim} (h : x.yields y = true)
    (hasked : x.asked ||| y.offered = y.offered)
    (hword : overruledWords.contains y.word = false) : x.kind = y.kind := by
  have hbeq : Nat.beq (Nat.lor x.asked y.offered) y.offered = true := Nat.beq_eq.mpr hasked
  rw [yields, hbeq, cond_true, hword, Bool.or_false] at h
  exact of_decide_eq_true h

section
variable {α : Type} {test : α → α → Bool} {l : List α}

/-- Every element passes the test, and so does what else there is to test. The recursors stand here
by themselves, as the kernel computes with them many times faster than with equations. -/
noncomputable def allThen (test : α → Bool) (more : Bool) (l : List α) : Bool :=
  List.rec more (fun a _ ih => bif test a then ih else false) l

/-- Every element passes the test with each that follows it. -/
noncomputable def allPairs (test : α → α → Bool) (l : List α) : Bool :=
  List.rec true (fun a rest ih => allThen (test a) ih rest) l

theorem allThen_eq (test : α → Bool) (more : Bool) (l : List α) :
    allThen test more l = (l.all test && more) := by
  induction l with
  | nil => rfl
  | cons a l ih =>
    have hcons : allThen test more (a :: l) = bif test a then allThen test more l else false := rfl
    rw [hcons, ih, List.all_cons, Bool.cond_false_right, Bool.and_assoc]

theorem pairwise_of_allPairs (h : allPairs test l = true) :
    l.Pairwise fun a b => test a b = true := by
  induction l with
  | nil => exact List.Pairwise.nil
  | cons a l ih =>
    have hcons : allPairs test (a :: l) = allThen (test a) (allPairs test l) l := rfl
    rw [hcons, allThen_eq, Bool.and_eq_true, List.all_eq_true] at h
    exact List.pairwise_cons.mpr ⟨h.1, ih h.2⟩

end

theorem kindRules_checked :
    (∀ r ∈ kindRules, (∀ w ∈ r.1.words, allThen isPlainChar true w.toList = true) ∧
      (r ≠ partnerRule → ∃ w ∈ r.1.words, overruledWords.contains w = false)) ∧
    allPairs Claim.yields (kindRules.flatMap claimsOf) = true := by
  decide +kernel

section
variable {q r : NamePattern × ParticipantKind} {w : String}

theorem plain_of_mem (hr : r ∈ kindRules) (hw : w ∈ r.1.words) :
    ∀ c ∈ w.toList, isPlainChar c = true := by
  have hplain := (kindRules_checked.1 r hr).1 w hw
  rw [allThen_eq, Bool.and_true] at hplain
  exact List.all_eq_true.mp hplain

/-- A rule that takes the sample of a word, and stands ahead of the rule of the word, gives it the
same kind, unless the word is one of the two. -/
theorem kind_eq_of_fits {ahead behind : List (NamePattern × ParticipantKind)}
    (hrules : kindRules = ahead ++ r :: behind) (hq : q ∈ ahead) (hw : w ∈ r.1.words)
    (hne : overruledWords.contains w = false) (hfits : q.1.fits (r.1.sample w.toList) = true) :
    q.2 = r.2 := by
  have hr : r ∈ kindRules := hrules ▸ List.mem_append_right _ List.mem_cons_self
  have hpairs := List.pairwise_flatMap.mp (pairwise_of_allPairs kindRules_checked.2)
  rw [hrules, List.pairwise_append] at hpairs
  obtain ⟨v, hv, hpart⟩ := NamePattern.exists_infix_of_fits hfits
  rw [NamePattern.folded_sample (plain_of_mem hr hw)] at hpart
  have hyields := hpairs.2.2.2 q hq r List.mem_cons_self _ (List.mem_map_of_mem hv) _
    (List.mem_map_of_mem hw)
  exact Claim.kind_eq_of_yields hyields (neighbours_lor_of_isInfix hpart) hne

theorem decides_of_ne (hr : r ∈ kindRules) (hne : r ≠ partnerRule) : Decides r := by
  obtain ⟨w, hw, hword⟩ := (kindRules_checked.1 r hr).2 hne
  have hplain := plain_of_mem hr hw
  have hfits := NamePattern.fits_sample hw hplain
  refine ⟨r.1.sample w.toList, by rwa [NamePattern.trim_sample hplain], ?_⟩
  obtain ⟨ahead, behind, hrules⟩ := List.append_of_mem hr
  rw [inferKind, NamePattern.trim_sample hplain, hrules, List.find?_append]
  cases hfind : ahead.find? fun q => q.1.fits (r.1.sample w.toList) with
  | none => simp [hfits]
  | some q =>
    have hq := List.find?_some hfind
    exact kind_eq_of_fits hrules (List.mem_of_find?_eq_some hfind) hw hword hq

end

/-! ### The rule that does not decide -/

/-- A name with this ending may fit the pattern. -/
def NamePattern.mayEnd (p : NamePattern) (ending : List Char) : Bool :=
  match p with
  | is ws => ws.any fun w => ending.isSuffixOf w.toList
  | ends ws => ws.any fun w => w.toList.isSuffixOf ending || ending.isSuffixOf w.toList
  | starts _ | holds _ => true

theorem NamePattern.mayEnd_of_fits {p : NamePattern} {name ending : List Char}
    (h : p.fits name = true) (hending : ending <:+ Text.folded name) : p.mayEnd ending = true := by
  cases p with
  | starts _ => rfl
  | holds _ => rfl
  | is ws =>
    obtain ⟨w, hw, hfits⟩ := List.any_eq_true.mp h
    refine List.any_eq_true.mpr ⟨w, hw, List.isSuffixOf_iff_suffix.mpr ?_⟩
    rwa [beq_iff_eq.mp hfits]
  | ends ws =>
    obtain ⟨w, hw, hfits⟩ := List.any_eq_true.mp h
    refine List.any_eq_true.mpr ⟨w, hw, ?_⟩
    rw [Bool.or_eq_true, List.isSuffixOf_iff_suffix, List.isSuffixOf_iff_suffix]
    exact List.suffix_or_suffix_of_suffix (List.isSuffixOf_iff_suffix.mp hfits) hending

/-- The rules up to those for people, the last of which are those for the suffixes -er and -or. -/
def rulesUpToPeople : List (NamePattern × ParticipantKind) :=
  agentRules ++ networkRules ++ storageRules ++ cacheRules ++ streamRules ++ peopleRules

theorem inferKind_eq_of_mem {name : List Char} {r : NamePattern × ParticipantKind}
    (hr : r ∈ rulesUpToPeople) (hfits : r.1.fits (Text.trim name) = true) :
    ∃ r' ∈ rulesUpToPeople, r'.1.fits (Text.trim name) = true ∧ inferKind name = r'.2 := by
  obtain ⟨r', hfind⟩ := Option.isSome_iff_exists.mp
    (List.find?_isSome (p := fun r => r.1.fits (Text.trim name)) |>.mpr ⟨r, hr, hfits⟩)
  refine ⟨r', List.mem_of_find?_eq_some hfind, by simpa using List.find?_some hfind, ?_⟩
  have hrules : kindRules = rulesUpToPeople ++ (clientRules ++ serviceRules ++ partnerRules) := by
    simp only [kindRules, rulesUpToPeople, List.append_assoc]
  rw [inferKind, hrules, List.find?_append, hfind]
  rfl

theorem not_mayEnd_partner : ∀ r ∈ rulesUpToPeople, r.2 = .external →
    r.1.mayEnd "partner".toList = false := by
  decide +kernel

theorem not_decides_partner : ¬ Decides partnerRule := by
  rintro ⟨name, hfits, hkind⟩
  have hpartner : "partner".toList <:+ Text.folded (Text.trim name) := by
    obtain ⟨w, hw, hsuffix⟩ := List.any_eq_true.mp hfits
    rw [List.mem_singleton.mp hw] at hsuffix
    exact List.isSuffixOf_iff_suffix.mp hsuffix
  have hactor : NamePattern.fits (.ends ["er"]) (Text.trim name) = true :=
    List.any_eq_true.mpr ⟨"er", List.mem_singleton_self _,
      List.isSuffixOf_iff_suffix.mpr (.trans ⟨"partn".toList, by decide⟩ hpartner)⟩
  obtain ⟨r, hr, hr_fits, hr_kind⟩ := inferKind_eq_of_mem (r := (.ends ["er"], .actor))
    (List.mem_append_right _ (by simp [peopleRules])) hactor
  have hmay := NamePattern.mayEnd_of_fits hr_fits hpartner
  rw [not_mayEnd_partner r hr (hr_kind.symm.trans hkind)] at hmay
  exact Bool.false_ne_true hmay

/-! ### Every rule but one decides -/

/-- A rule decides about some name if and only if it is not the one for partners. -/
theorem decides_iff {r : NamePattern × ParticipantKind} (hr : r ∈ kindRules) :
    Decides r ↔ r ≠ partnerRule :=
  ⟨fun h heq => not_decides_partner (heq ▸ h), decides_of_ne hr⟩

/-- Names that end in `bank` do suggest another party's system. -/
theorem decides_iff_bank : Decides (.ends ["bank"], .external) ∧ ¬ Decides partnerRule :=
  ⟨(decides_iff (List.mem_append_right _ (by simp [partnerRules]))).mpr (by decide),
    fun h => (decides_iff (List.mem_append_right _ (by simp [partnerRules, partnerRule]))).mp h rfl⟩

/-- There is a rule for partners, and yet a partner is taken for a person. -/
theorem partner_overruled : partnerRule ∈ kindRules ∧
    partnerRule.1.fits "Partner".toList = true ∧ inferKind "Partner".toList = .actor ∧
    ¬ Decides partnerRule :=
  ⟨List.mem_append_right _ (by simp [partnerRules, partnerRule]), by decide +kernel, by decide +kernel,
    not_decides_partner⟩

end Lifeline
