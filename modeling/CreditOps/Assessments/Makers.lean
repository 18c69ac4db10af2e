import CreditOps.Assessments.Legal
import CreditOps.Assessments.Underwriting

/-!
# The makers' assessments are grounded

What both builders promise of an assessment, for every payload. The legal reviewer keeps its promise.
The underwriting maker keeps every deterministic gap and never invents an amount, but nothing checks the
calculator results that an assumption cites: its citations resolve exactly when the payload names results
of the suite there (`makers_grounded`).
-/

set_option autoImplicit false

namespace CreditOps.Assessments

open JsonValue Evidence CreditOps.Underwriting

/-- What the underwriting maker promises of an assessment. -/
structure Underwriting.Grounded (view : EvidenceView) (suite : CalculatorSuite)
    (a : Underwriting.UnderwritingAssessment) : Prop where
  keepsGaps : Underwriting.KeepsGaps suite a
  amountComputed : Underwriting.AmountComputed suite a
  citationsResolve : Underwriting.CitationsResolve view suite a

/-- **Both makers' assessments.** Whatever the payload, an underwriting assessment is grounded exactly
when the assumptions of the payload cite calculator results of the suite, and a legal assessment is
faithful to the scope of its execution. -/
theorem makers_grounded (str : JsonValue → String) (payload : Mapping) (id : Uuid) (now : Timestamp) :
    (∀ (view : EvidenceView) (suite : CalculatorSuite) (run : Underwriting.MakerRun)
      (a : Underwriting.UnderwritingAssessment),
      Underwriting.build str payload view suite run id now = .ok a →
        (Underwriting.Grounded view suite a ↔
          ∀ resultId ∈ Underwriting.basisResults str payload, resultId ∈ suite.resultIds)) ∧
    (∀ (py : Legal.PythonTexts) (asOf : Date) (scope : Legal.ReviewScope) (run : Legal.ReviewerRun)
      (a : Legal.LegalComplianceAssessment),
      scope.Computed py asOf → Legal.build str payload scope run id now = .ok a →
        Legal.Faithful scope a) := by
  constructor
  · intro view suite run a hbuild
    have hread := Underwriting.build_readFrom payload suite run id now a hbuild
    constructor
    · intro hgrounded
      exact hread.citationsResolve_iff.1 hgrounded.citationsResolve
    · intro hknown
      exact ⟨hread.keepsGaps, hread.amountComputed, hread.citationsResolve_iff.2 hknown⟩
  · intro py asOf scope run a hscope hbuild
    exact Legal.build_faithful hscope payload run id now a hbuild

/-! ## An execution of each maker -/

/-- No value but a string stands where a text is read. -/
def noTexts : JsonValue → String := fun _ => ""

def sampleFact (key : String) (value : FactValue) : EvidenceFact where
  confirmedFactId := 7
  fieldKey := key
  value
  documentVersionId := 3

def citedFact : JsonValue :=
  .object [("kind", .string "CONFIRMED_FACT"),
    ("confirmed_fact_id", .string "00000000-0000-0000-0000-000000000007")]

def citedResult (resultId : String) : JsonValue :=
  .object [("kind", .string "CALCULATOR_RESULT"), ("result_id", .string resultId)]

def sampleFinding (citations : List JsonValue) : JsonValue :=
  .object [("statement_vi", .string "On dinh"), ("citations", .array citations),
    ("confidence", .string "MEDIUM")]

def sampleSection (citations : List JsonValue) : JsonValue :=
  .object [("findings", .array [sampleFinding citations])]

namespace Underwriting

def sampleView : EvidenceView where
  caseId := 1
  caseVersion := 1
  builtAt := 0
  confirmedFacts := [sampleFact "financials.revenue" (.number 5)]

/-- One computed result, and one missing input. -/
def sampleSuite : CalculatorSuite where
  results := [⟨"calc_1", "current_ratio", [], .computed 5⟩]
  trendResults := []
  scenarioResults := []
  missing := [⟨"inventory", "financials.inventory", "no confirmed fact", .blocking⟩]

/-- A payload with one assumption, which cites one calculator result. -/
def samplePayload (basis : String) : Mapping :=
  [("business", sampleSection [citedFact]),
    ("financial", sampleSection [citedResult "calc_1"]),
    ("cash_flow", sampleSection [citedResult "calc_1"]),
    ("repayment_source", sampleSection [citedResult "calc_1"]),
    ("proposed_structure", .object [("instrument_vi", .string "Vay"),
      ("proposed_amount_result_id", .string "calc_1"), ("tenor_months", .int 12),
      ("findings", .array [sampleFinding [citedResult "calc_1"]])]),
    ("assumptions", .array [.object [("statement_vi", .string "Gia"),
      ("rationale_vi", .string "Lich su"), ("basis_citations", .array [citedResult basis])]])]

def sampleRun : MakerRun := ⟨4, 5, "model", "endpoint"⟩

theorem sample_built (basis : String) (h : ((build noTexts (samplePayload basis) sampleView sampleSuite
    sampleRun 9 0).toOption).isSome = true) :
    ∃ a, build noTexts (samplePayload basis) sampleView sampleSuite sampleRun 9 0 = .ok a := by
  obtain ⟨a, ha⟩ := Option.isSome_iff_exists.1 h
  exact ⟨a, Results.toOption_eq_some.1 ha⟩

end Underwriting

namespace Legal

/-- Every document of the checklist is present and in force. -/
def sampleView : LegalEvidenceView where
  caseId := 1
  caseVersion := 1
  builtAt := 0
  confirmedFacts := collateralChecklist.flatMap fun requirement =>
    [sampleFact (statusFieldKey requirement.docKey) (.string "PRESENT"),
      sampleFact (expiryFieldKey requirement.docKey) (.string "2030-01-01")]
  documents := []

def sampleDate : Date :=
  (Date.ofParts 2026 7 18).get (by decide)

def sampleTexts : PythonTexts where
  str := noTexts
  number := fun _ => ""
  casefold := id
  fromIsoformat := fun _ => some sampleDate

def sampleClause : PolicyKey := ⟨"kho", "v1", "tsbd", "TSBD-01", "Dieu 1"⟩

/-- An execution that was offered one clause, where one check could not be run. -/
def sampleScope : ReviewScope where
  view := sampleView
  policyHits := [⟨sampleClause, "TSBD", 1⟩]
  controlledChecks := ⟨[], [⟨.kyc, "timeout", .blocking⟩]⟩
  preAnalysis := (evaluateCollateralChecklist sampleTexts sampleView sampleDate).toOption.getD ⟨[], []⟩
  inconsistencies := []
  corpus := none

theorem sampleScope_computed : sampleScope.Computed sampleTexts sampleDate := by
  constructor
  · have hsome : (evaluateCollateralChecklist sampleTexts sampleView sampleDate).toOption.isSome = true := by
      decide +kernel
    obtain ⟨_, hpre⟩ := Option.isSome_iff_exists.1 hsome
    simp only [sampleScope, hpre, Option.getD_some]
    exact Results.toOption_eq_some.1 hpre
  · rfl

def citedClause : JsonValue :=
  .object [("kind", .string "POLICY_CITATION"), ("corpus_id", .string "kho"),
    ("corpus_version", .string "v1"), ("document_id", .string "tsbd"),
    ("clause_id", .string "TSBD-01"), ("quoted_text_vi", .string "Dieu 1")]

def samplePayload : Mapping :=
  [("ownership_consistency", sampleSection [citedClause]),
    ("collateral_review", .object [("ownership_evidence_findings",
      .array [sampleFinding [citedClause]])]),
    ("legal_entity_review", sampleSection [citedFact]),
    ("authority_signatory_review", sampleSection [citedClause])]

def sampleRun : ReviewerRun := ⟨4, 6, "model", "endpoint"⟩

end Legal

/-- The reviewer's assessment keeps the document that is present, and the maker's is grounded. -/
theorem makers_grounded_sample :
    (∃ a, Underwriting.build noTexts (Underwriting.samplePayload "calc_1") Underwriting.sampleView
      Underwriting.sampleSuite Underwriting.sampleRun 9 0 = .ok a ∧
      Underwriting.Grounded Underwriting.sampleView Underwriting.sampleSuite a) ∧
    ∃ a, Legal.build noTexts Legal.samplePayload Legal.sampleScope Legal.sampleRun 10 0 = .ok a ∧
      Legal.Faithful Legal.sampleScope a := by
  constructor
  · obtain ⟨a, ha⟩ := Underwriting.sample_built "calc_1" (by decide +kernel)
    refine ⟨a, ha, ((makers_grounded _ _ _ _).1 _ _ _ a ha).2 ?_⟩
    decide +kernel
  · have hsome : (Legal.build noTexts Legal.samplePayload Legal.sampleScope Legal.sampleRun 10
        0).toOption.isSome = true := by
      decide +kernel
    obtain ⟨a, ha⟩ := Option.isSome_iff_exists.1 hsome
    have hbuild := Results.toOption_eq_some.1 ha
    exact ⟨a, hbuild, (makers_grounded _ _ _ _).2 _ _ _ _ a Legal.sampleScope_computed hbuild⟩

theorem assumption_cites_unknown_result :
    ∃ a, Underwriting.build noTexts (Underwriting.samplePayload "calc_invented") Underwriting.sampleView
      Underwriting.sampleSuite Underwriting.sampleRun 9 0 = .ok a ∧
      ¬ Underwriting.CitationsResolve Underwriting.sampleView Underwriting.sampleSuite a := by
  obtain ⟨a, ha⟩ := Underwriting.sample_built "calc_invented" (by decide +kernel)
  refine ⟨a, ha, ?_⟩
  intro hresolve
  have hread := Underwriting.build_readFrom _ _ _ _ _ a ha
  have hknown := hread.citationsResolve_iff.1 hresolve "calc_invented" (by decide +kernel)
  exact absurd hknown (by decide +kernel)

end CreditOps.Assessments
