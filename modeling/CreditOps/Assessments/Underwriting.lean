import CreditOps.Assessments.Domain
import CreditOps.Evidence.Views
import CreditOps.Underwriting.CalculatorResults

/-!
# The underwriting maker's assessment

The maker's builder turns the payload of the language model, the scoped evidence view and the suite of
calculator results into an assessment, or raises. The reader of a citation checks a confirmed fact
against the view and leaves the id of a calculator result to the model's validator, which looks at the
findings, the risks and the mitigants.
-/

set_option autoImplicit false

namespace CreditOps.Assessments.Underwriting

open JsonValue Evidence CreditOps.Underwriting Repayments

/-! ## The assessment -/

/-- `EvidenceCitation` -/
inductive EvidenceCitation where
  | confirmedFact (confirmedFactId : Uuid)
  | calculatorResult (resultId : String) (nonempty : resultId ≠ "")
  | documentRegion (documentVersionId : Uuid) (region : SizedText 1 500)

/-- What a citation holds, by its kind. -/
def EvidenceCitation.content : EvidenceCitation → Uuid ⊕ String ⊕ Uuid × SizedText 1 500
  | .confirmedFact confirmedFactId => .inl confirmedFactId
  | .calculatorResult resultId _ => .inr (.inl resultId)
  | .documentRegion documentVersionId region => .inr (.inr (documentVersionId, region))

theorem EvidenceCitation.content_injective : Function.Injective EvidenceCitation.content := by
  intro a b h
  cases a <;> cases b <;> simp_all only [content, Sum.inl.injEq, Sum.inr.injEq, Prod.mk.injEq, reduceCtorEq]

instance : DecidableEq EvidenceCitation :=
  EvidenceCitation.content_injective.decidableEq

/-- The calculator result a citation names. -/
def EvidenceCitation.result? : EvidenceCitation → Option String
  | .calculatorResult resultId _ => some resultId
  | _ => none

/-- `RepaymentSourceSection` -/
structure RepaymentSourceSection where
  findings : NonemptyList (Finding EvidenceCitation)
  downsideScenarios : List (Finding EvidenceCitation)
deriving DecidableEq

/-- `ProposedStructureSection` -/
structure ProposedStructureSection where
  instrumentVi : SizedText 1 500
  proposedAmountVnd : Option Decimal
  tenorMonths : Option Int
  findings : NonemptyList (Finding EvidenceCitation)
  tenorInRange : ∀ months ∈ tenorMonths, 1 ≤ months ∧ months ≤ 600
  amountCited : proposedAmountVnd ≠ none →
    ∃ finding ∈ findings.1, ∃ citation ∈ finding.citations.1, citation.result?.isSome
deriving DecidableEq

/-- `RiskItem` and `MitigantItem`, which have the same fields. -/
structure RiskItem where
  riskId : SizedText 1 100
  descriptionVi : SizedText 1 4000
  citations : NonemptyList EvidenceCitation
  confidence : ConfidenceLevel
  uncertaintyVi : SizedText 0 2000
deriving DecidableEq

/-- `AssessmentProvenance` -/
structure AssessmentProvenance where
  caseId : Uuid
  caseVersion : CaseVersion
  executionId : Uuid
  taskId : Uuid
  promptVersion : String
  modelId : String
  endpointId : String
  evidenceViewBuiltAt : Timestamp
  createdAt : Timestamp
  versionPositive : 1 ≤ caseVersion
  textsNonempty : promptVersion ≠ "" ∧ modelId ≠ "" ∧ endpointId ≠ ""

/-- The fields of `UnderwritingAssessment`. -/
structure AssessmentFields where
  id : Uuid
  provenance : AssessmentProvenance
  business : AssessmentSection EvidenceCitation
  financial : AssessmentSection EvidenceCitation
  cashFlow : AssessmentSection EvidenceCitation
  repaymentSource : RepaymentSourceSection
  proposedStructure : ProposedStructureSection
  risks : List RiskItem
  mitigants : List RiskItem
  assumptions : List (AssumptionItem EvidenceCitation)
  evidenceGaps : List EvidenceGapItem
  calculatorResults : List CalculatorResult
  trendResults : List TrendResult
  scenarioResults : List ScenarioResult

namespace AssessmentFields

/-- `_iter_findings` -/
def iterFindings (a : AssessmentFields) : List (Finding EvidenceCitation) :=
  a.business.findings.1 ++ a.financial.findings.1 ++ a.cashFlow.findings.1 ++
    a.repaymentSource.findings.1 ++ a.repaymentSource.downsideScenarios ++
    a.proposedStructure.findings.1

/-- The citations the validator looks at. -/
def checkedCitations (a : AssessmentFields) : List EvidenceCitation :=
  a.iterFindings.flatMap (·.citations.1) ++ a.risks.flatMap (·.citations.1) ++
    a.mitigants.flatMap (·.citations.1)

/-- Every citation of the assessment: the ones the validator looks at, and those of the assumptions. -/
def citations (a : AssessmentFields) : List EvidenceCitation :=
  a.checkedCitations ++ a.assumptions.flatMap (·.basisCitations)

def knownResultIds (a : AssessmentFields) : List String :=
  a.calculatorResults.map (·.resultId) ++ a.trendResults.map (·.resultId) ++
    a.scenarioResults.map (·.resultId)

/-- What `_citations_resolve_and_mitigants_bind` checks. -/
structure Valid (a : AssessmentFields) : Prop where
  resolves : ∀ citation ∈ a.checkedCitations, ∀ resultId ∈ citation.result?,
    resultId ∈ a.knownResultIds
  riskIdsUnique : (a.risks.map (·.riskId.text)).Nodup
  mitigantsBind : ∀ mitigant ∈ a.mitigants, mitigant.riskId.text ∈ a.risks.map (·.riskId.text)

instance (a : AssessmentFields) : Decidable a.Valid :=
  decidable_of_iff
    ((∀ citation ∈ a.checkedCitations, ∀ resultId ∈ citation.result?, resultId ∈ a.knownResultIds) ∧
      (a.risks.map (·.riskId.text)).Nodup ∧
      ∀ mitigant ∈ a.mitigants, mitigant.riskId.text ∈ a.risks.map (·.riskId.text))
    ⟨fun h => ⟨h.1, h.2.1, h.2.2⟩, fun h => ⟨h.resolves, h.riskIdsUnique, h.mitigantsBind⟩⟩

end AssessmentFields

/-- `UnderwritingAssessment` -/
structure UnderwritingAssessment extends AssessmentFields where
  valid : toAssessmentFields.Valid

/-! ## Deterministic gaps -/

/-- The text of the gap a missing input makes. -/
def missingInformation (missing : MissingEvidence) : String :=
  "Thieu du kien da xac nhan cho truong '" ++ missing.fieldKey ++ "' (" ++ missing.reason ++ ")."

/-- The gap of one missing input. -/
def gapOf (missing : MissingEvidence) : Except BuildFault EvidenceGapItem :=
  makeGap (missingInformation missing)
    ("Can cho tinh toan xac dinh '" ++ missing.inputName ++ "' trong phan tich tin dung.")
    missing.blockingLevel ["Bao cao tai chinh da xac nhan boi can bo phu trach."]

/-- The missing inputs whose text no earlier one has. -/
def firstOfEachText (seen : List String) : List MissingEvidence → List MissingEvidence
  | [] => []
  | missing :: rest =>
    if missingInformation missing ∈ seen then firstOfEachText seen rest
    else missing :: firstOfEachText (missingInformation missing :: seen) rest

/-- `deterministic_gap_items` -/
def deterministicGapItems (suite : CalculatorSuite) : Except BuildFault (List EvidenceGapItem) :=
  (firstOfEachText [] suite.missing).mapM gapOf

/-! ## Reading the payload -/

section Readers

variable (str : JsonValue → String)

/-- One element of `_citations_from`. -/
def citationFrom (view : EvidenceView) (value : JsonValue) : Except BuildFault EvidenceCitation := do
  let item ← asItem value
  match item.lookup "kind" with
  | some (.string "CONFIRMED_FACT") =>
    let id ← knownUuid (view.confirmedFacts.map (·.confirmedFactId))
      "citation references a confirmed fact outside the scoped evidence view: "
      (getText str item "confirmed_fact_id")
    return .confirmedFact id
  | some (.string "CALCULATOR_RESULT") =>
    if h : getText str item "result_id" ≠ "" then .ok (.calculatorResult (getText str item "result_id") h)
    else .error (.validation "CalculatorResultCitation" "result_id")
  | kind => .error (.outputInvalid "unsupported citation kind: " kind.toList)

/-- One element of `risks` or of `mitigants`. -/
def riskFrom (view : EvidenceView) (model : String) (item : Mapping) : Except BuildFault RiskItem := do
  let citations ← citationsAt (citationFrom str view) item "citations"
  let confidence ← confidenceFrom str item
  let riskId ← validated model "risk_id" (SizedText.ofText? 1 100 (getText str item "risk_id"))
  let descriptionVi ← validated model "description_vi"
    (SizedText.ofText? 1 4000 (getText str item "description_vi"))
  let citations ← validated model "citations" (NonemptyList.ofList? citations)
  let uncertaintyVi ← validated model "uncertainty_vi"
    (SizedText.ofText? 0 2000 (getText str item "uncertainty_vi"))
  return { riskId, descriptionVi, citations, confidence, uncertaintyVi }

/-- `_resolve_amount`: of two computed results with one id the later one stands. -/
def resolveAmount (structureRaw : Mapping) (suite : CalculatorSuite) :
    Except BuildFault (Option Decimal) :=
  match structureRaw.lookup "proposed_amount_result_id" with
  | none | some .null => .ok none
  | some raw =>
    let named := suite.results.reverse.findSome? fun result =>
      match result.outcome with
      | .computed value => if result.resultId = textOf str raw then some value else none
      | .notComputable _ => none
    match named with
    | some value => .ok (some value)
    | none => .error (.outputInvalid
        "proposed amount references an unknown or not-computable calculator result: " [raw])

/-- `proposed_structure` -/
def structureFrom (payload : Mapping) (view : EvidenceView) (suite : CalculatorSuite) :
    Except BuildFault ProposedStructureSection := do
  let raw ← sectionAt payload "proposed_structure"
  let proposedAmountVnd ← resolveAmount str raw suite
  let findings ← findingsFrom str (citationFrom str view) payload "proposed_structure"
  let instrumentVi ← validated "ProposedStructureSection" "instrument_vi"
    (SizedText.ofText? 1 500 (getText str raw "instrument_vi"))
  let tenorMonths := (raw.lookup "tenor_months").bind int?
  let findings ← validated "ProposedStructureSection" "findings" (NonemptyList.ofList? findings)
  if htenor : ∀ months ∈ tenorMonths, 1 ≤ months ∧ months ≤ 600 then
    if hcited : proposedAmountVnd ≠ none →
        ∃ finding ∈ findings.1, ∃ citation ∈ finding.citations.1, citation.result?.isSome then
      return ⟨instrumentVi, proposedAmountVnd, tenorMonths, findings, htenor, hcited⟩
    else .error (.validation "ProposedStructureSection" "")
  else .error (.validation "ProposedStructureSection" "tenor_months")

/-! ## The builder -/

/-- `MakerRunContext`, with the model and the endpoint that answered. -/
structure MakerRun where
  taskId : Uuid
  executionId : Uuid
  modelId : String
  endpointId : String
deriving DecidableEq

/-- `UNDERWRITING_PROMPT_VERSION` -/
def promptVersion : String := "underwriting-prompt-v1"

def makeProvenance (view : EvidenceView) (run : MakerRun) (now : Timestamp) :
    Except BuildFault AssessmentProvenance :=
  if hver : 1 ≤ view.caseVersion then
    if htexts : promptVersion ≠ "" ∧ run.modelId ≠ "" ∧ run.endpointId ≠ "" then
      .ok ⟨view.caseId, view.caseVersion, run.executionId, run.taskId, promptVersion, run.modelId,
        run.endpointId, view.builtAt, now, hver, htexts⟩
    else .error (.validation "AssessmentProvenance" "model_id")
  else .error (.validation "AssessmentProvenance" "case_version")

/-- One section of findings. -/
def sectionFrom (payload : Mapping) (view : EvidenceView) (key : String) :
    Except BuildFault (AssessmentSection EvidenceCitation) := do
  let findings ← findingsFrom str (citationFrom str view) payload key
  makeSection findings

/-- The fields of the assessment, read from the payload. -/
def fieldsFrom (payload : Mapping) (view : EvidenceView) (suite : CalculatorSuite) (run : MakerRun)
    (id : Uuid) (now : Timestamp) : Except BuildFault AssessmentFields := do
  let repaymentRaw ← sectionAt payload "repayment_source"
  let downsideScenarios ←
    itemsAt repaymentRaw "downside_scenarios" (findingFrom str (citationFrom str view))
  let proposedStructure ← structureFrom str payload view suite
  let risks ← itemsAt payload "risks" (riskFrom str view "RiskItem")
  let mitigants ← itemsAt payload "mitigants" (riskFrom str view "MitigantItem")
  let assumptions ← itemsAt payload "assumptions" (assumptionFrom str (citationFrom str view))
  let llmGaps ← itemsAt payload "evidence_gaps" (gapFrom str)
  let deterministic ← deterministicGapItems suite
  let provenance ← makeProvenance view run now
  let business ← sectionFrom str payload view "business"
  let financial ← sectionFrom str payload view "financial"
  let cashFlow ← sectionFrom str payload view "cash_flow"
  let findings ← findingsFrom str (citationFrom str view) payload "repayment_source"
  let findings ← validated "RepaymentSourceSection" "findings" (NonemptyList.ofList? findings)
  return {
    id, provenance, business, financial, cashFlow
    repaymentSource := { findings, downsideScenarios }
    proposedStructure, risks, mitigants, assumptions
    evidenceGaps := mergedGaps deterministic llmGaps
    calculatorResults := suite.results
    trendResults := suite.trendResults
    scenarioResults := suite.scenarioResults }

/-- `UnderwritingAssessment(...)` -/
def makeAssessment (fields : AssessmentFields) : Except BuildFault UnderwritingAssessment :=
  if h : fields.Valid then .ok ⟨fields, h⟩
  else .error (.validation "UnderwritingAssessment" "")

/-- `BuildAssessment.build` -/
def build (payload : Mapping) (view : EvidenceView) (suite : CalculatorSuite) (run : MakerRun)
    (id : Uuid) (now : Timestamp) : Except BuildFault UnderwritingAssessment :=
  (do
    let fields ← fieldsFrom str payload view suite run id now
    makeAssessment fields).mapError (BuildFault.wrapped "maker output rejected: ")

end Readers

/-! ## What a citation resolves to -/

/-- The citation names a confirmed fact or a document of the view, or a result of the suite. -/
def EvidenceCitation.ResolvesIn (view : EvidenceView) (suite : CalculatorSuite) :
    EvidenceCitation → Prop
  | .confirmedFact id => Named (view.confirmedFacts.map (·.confirmedFactId)) id
  | .calculatorResult resultId _ => resultId ∈ suite.resultIds
  | .documentRegion id _ => Named (view.confirmedFacts.map (·.documentVersionId)) id

/-- What the reader of citations ensures: only a calculator result is left to check. -/
def EvidenceCitation.Read (view : EvidenceView) (suite : CalculatorSuite)
    (citation : EvidenceCitation) : Prop :=
  (∀ resultId ∈ citation.result?, resultId ∈ suite.resultIds) → citation.ResolvesIn view suite

section Citations

variable {str : JsonValue → String} {view : EvidenceView}

/-- The calculator result a value of the payload cites. -/
def citedResult? (str : JsonValue → String) (value : JsonValue) : Option String :=
  value.mapping?.bind fun item =>
    match item.lookup "kind" with
    | some (.string "CALCULATOR_RESULT") => some (getText str item "result_id")
    | _ => none

/-- **The reader of a citation.** It names the result the payload names, and what it names otherwise
resolves. -/
theorem citationFrom_ensures (suite : CalculatorSuite) (value : JsonValue) :
    Ensures (citationFrom str view value) fun citation =>
      citation.result? = citedResult? str value ∧ citation.Read view suite := by
  unfold citationFrom
  refine Ensures.bind (Ensures.self _) fun item hitem => ?_
  -- the value is the dictionary the reader looks into
  have hvalue : value.mapping? = some item := by
    unfold asItem at hitem
    split at hitem
    · cases hitem
      assumption
    · cases hitem
  unfold citedResult?
  rw [hvalue, Option.bind_some]
  split
  · next hkind =>
    rw [hkind]
    refine Ensures.bind knownUuid_named fun id hid => ?_
    apply Ensures.ok
    exact ⟨rfl, fun _ => hid⟩
  · next hkind =>
    rw [hkind]
    split
    · apply Ensures.ok
      exact ⟨rfl, fun hknown => hknown _ rfl⟩
    · exact Ensures.error _
  · exact Ensures.error _

theorem citationFrom_read (suite : CalculatorSuite) (value : JsonValue) :
    Ensures (citationFrom str view value) (EvidenceCitation.Read view suite) :=
  Ensures.mono (citationFrom_ensures suite value) fun _ h => h.2

theorem riskFrom_read (suite : CalculatorSuite) (model : String) (item : Mapping) :
    Ensures (riskFrom str view model item) fun risk =>
      ∀ citation ∈ risk.citations.1, citation.Read view suite := by
  refine Ensures.bind (citationsAt_ensures (citationFrom_read suite) item _) fun cited hcited => ?_
  refine Ensures.bind (Ensures.self _) fun _ _ => ?_
  refine Ensures.bind (Ensures.self _) fun _ _ => ?_
  refine Ensures.bind (Ensures.self _) fun _ _ => ?_
  refine Ensures.bind (Ensures.self _) fun citations hcits => ?_
  refine Ensures.bind (Ensures.self _) fun _ _ => ?_
  apply Ensures.ok
  intro citation hmem
  rw [NonemptyList.val_of_ofList? (validated_eq_ok hcits)] at hmem
  exact hcited citation hmem

theorem sectionFrom_read (suite : CalculatorSuite) (payload : Mapping) (key : String) :
    Ensures (sectionFrom str payload view key) fun part =>
      ∀ finding ∈ part.findings.1, finding.Cites (EvidenceCitation.Read view suite) := by
  refine Ensures.bind (findingsFrom_cites (citationFrom_read suite) payload key) fun read hread => ?_
  refine Ensures.bind (Ensures.self _) fun findings hfinds => ?_
  apply Ensures.ok
  intro finding hmem
  rw [NonemptyList.val_of_ofList? (validated_eq_ok hfinds)] at hmem
  exact hread finding hmem

/-- **The proposed amount is the value of a computed result.** -/
theorem resolveAmount_computed (raw : Mapping) (suite : CalculatorSuite) :
    Ensures (resolveAmount str raw suite) fun amount =>
      ∀ value ∈ amount, ∃ result ∈ suite.results, result.outcome = .computed value := by
  unfold resolveAmount
  split
  · apply Ensures.ok
    intro value h
    cases h
  · apply Ensures.ok
    intro value h
    cases h
  · next found _ _ =>
    dsimp only
    split
    · next value hnamed =>
      apply Ensures.ok
      rintro _ ⟨⟩
      obtain ⟨result, hres, hvalue⟩ := List.exists_of_findSome?_eq_some hnamed
      refine ⟨result, List.mem_reverse.1 hres, ?_⟩
      cases hout : result.outcome with
      | notComputable =>
        simp only [hout] at hvalue
        cases hvalue
      | computed =>
        simp only [hout] at hvalue
        split at hvalue
        · cases hvalue
          rfl
        · cases hvalue
    · exact Ensures.error _

theorem structureFrom_read (payload : Mapping) (suite : CalculatorSuite) :
    Ensures (structureFrom str payload view suite) fun proposed =>
      (∀ value ∈ proposed.proposedAmountVnd, ∃ result ∈ suite.results,
        result.outcome = .computed value) ∧
      ∀ finding ∈ proposed.findings.1, finding.Cites (EvidenceCitation.Read view suite) := by
  refine Ensures.bind (Ensures.self _) fun raw _ => ?_
  refine Ensures.bind (resolveAmount_computed raw suite) fun amount hamount => ?_
  refine Ensures.bind (findingsFrom_cites (citationFrom_read suite) payload _) fun read hread => ?_
  refine Ensures.bind (Ensures.self _) fun _ _ => ?_
  refine Ensures.bind (Ensures.self _) fun findings hfinds => ?_
  split
  · split
    · apply Ensures.ok
      refine ⟨hamount, ?_⟩
      intro finding hmem
      rw [NonemptyList.val_of_ofList? (validated_eq_ok hfinds)] at hmem
      exact hread finding hmem
    · exact Ensures.error _
  · exact Ensures.error _

/-! ## What the builder ensures -/

/-- What the fields owe to the payload, the view and the suite. -/
structure ReadFrom (str : JsonValue → String) (payload : Mapping) (view : EvidenceView)
    (suite : CalculatorSuite) (a : AssessmentFields) : Prop where
  gaps : ∃ deterministic llmGaps, deterministicGapItems suite = .ok deterministic ∧
    a.evidenceGaps = mergedGaps deterministic llmGaps
  amount : ∀ value ∈ a.proposedStructure.proposedAmountVnd,
    ∃ result ∈ suite.results, result.outcome = .computed value
  checked : ∀ citation ∈ a.checkedCitations, citation.Read view suite
  assumptions : itemsAt payload "assumptions" (assumptionFrom str (citationFrom str view)) =
    .ok a.assumptions
  results : a.knownResultIds = suite.resultIds

/-- **What the fields owe to the payload.** -/
theorem fieldsFrom_readFrom (payload : Mapping) (suite : CalculatorSuite) (run : MakerRun) (id : Uuid)
    (now : Timestamp) :
    Ensures (fieldsFrom str payload view suite run id now) (ReadFrom str payload view suite) := by
  refine Ensures.bind (Ensures.self _) fun repaymentRaw _ => ?_
  refine Ensures.bind (itemsAt_ensures (findingFrom_cites (citationFrom_read suite)) _ _)
    fun downside hdownside => ?_
  refine Ensures.bind (structureFrom_read payload suite) fun proposed hprop => ?_
  refine Ensures.bind (itemsAt_ensures (riskFrom_read suite "RiskItem") _ _) fun risks hrisks => ?_
  refine Ensures.bind (itemsAt_ensures (riskFrom_read suite "MitigantItem") _ _)
    fun mitigants hmitigants => ?_
  refine Ensures.bind (Ensures.self _) fun assumptions hassumptions => ?_
  refine Ensures.bind (Ensures.self _) fun llmGaps _ => ?_
  refine Ensures.bind (Ensures.self _) fun deterministic hdet => ?_
  refine Ensures.bind (Ensures.self _) fun provenance _ => ?_
  refine Ensures.bind (sectionFrom_read suite payload _) fun business hbusiness => ?_
  refine Ensures.bind (sectionFrom_read suite payload _) fun financial hfinancial => ?_
  refine Ensures.bind (sectionFrom_read suite payload _) fun cashFlow hcashFlow => ?_
  refine Ensures.bind (findingsFrom_cites (citationFrom_read suite) payload _) fun read hread => ?_
  refine Ensures.bind (Ensures.self _) fun findings hfinds => ?_
  rw [← NonemptyList.val_of_ofList? (validated_eq_ok hfinds)] at hread
  apply Ensures.ok
  constructor
  · exact ⟨deterministic, llmGaps, hdet, rfl⟩
  · exact hprop.1
  · -- the findings come from the sections, the others from the risks and the mitigants
    intro citation hmem
    simp only [AssessmentFields.checkedCitations, AssessmentFields.iterFindings, List.flatMap_append,
      List.mem_append, List.mem_flatMap] at hmem
    rcases hmem with ((((((⟨f, hf, hc⟩ | ⟨f, hf, hc⟩) | ⟨f, hf, hc⟩) | ⟨f, hf, hc⟩) | ⟨f, hf, hc⟩) |
      ⟨f, hf, hc⟩) | ⟨risk, hrisk, hc⟩) | ⟨mitigant, hmitigant, hc⟩
    · exact hbusiness f hf citation hc
    · exact hfinancial f hf citation hc
    · exact hcashFlow f hf citation hc
    · exact hread f hf citation hc
    · exact hdownside f hf citation hc
    · exact hprop.2 f hf citation hc
    · exact hrisks risk hrisk citation hc
    · exact hmitigants mitigant hmitigant citation hc
  · exact hassumptions
  · rfl

/-- **What an assessment owes to the payload.** -/
theorem build_readFrom (payload : Mapping) (suite : CalculatorSuite) (run : MakerRun) (id : Uuid)
    (now : Timestamp) :
    Ensures (build str payload view suite run id now) fun a =>
      ReadFrom str payload view suite a.toAssessmentFields := by
  apply Ensures.mapError
  refine Ensures.bind (fieldsFrom_readFrom payload suite run id now) fun fields hflds => ?_
  unfold makeAssessment
  split
  · exact Ensures.ok hflds
  · exact Ensures.error _

end Citations

/-! ## The promises -/

/-- Every deterministic gap is among the gaps of the assessment. -/
def KeepsGaps (suite : CalculatorSuite) (a : UnderwritingAssessment) : Prop :=
  ∃ deterministic, deterministicGapItems suite = .ok deterministic ∧
    deterministic ⊆ a.evidenceGaps ∧
    ∀ missing ∈ suite.missing, ∃ gap ∈ a.evidenceGaps,
      gap.missingInformationVi.text = missingInformation missing

/-- The proposed amount is absent, or the value of a computed result of the suite. -/
def AmountComputed (suite : CalculatorSuite) (a : UnderwritingAssessment) : Prop :=
  a.proposedStructure.proposedAmountVnd = none ∨
    ∃ result ∈ suite.results, ∃ value, result.outcome = .computed value ∧
      a.proposedStructure.proposedAmountVnd = some value

/-- Every citation of the assessment resolves. -/
def CitationsResolve (view : EvidenceView) (suite : CalculatorSuite) (a : UnderwritingAssessment) :
    Prop :=
  ∀ citation ∈ a.citations, citation.ResolvesIn view suite

/-- The calculator results the basis citations of the payload's assumptions name. -/
def basisResults (str : JsonValue → String) (payload : Mapping) : List String :=
  match iterateAt payload "assumptions" with
  | .error _ => []
  | .ok items => (mappings items).flatMap fun item =>
      match iterateAt item "basis_citations" with
      | .error _ => []
      | .ok cited => cited.filterMap (citedResult? str)

section Promises

variable {str : JsonValue → String} {payload : Mapping} {view : EvidenceView}
  {suite : CalculatorSuite} {a : UnderwritingAssessment}

/-- Each missing text has a gap of its own. -/
theorem exists_firstOfEachText (seen : List String) {items : List MissingEvidence} :
    ∀ missing ∈ items, missingInformation missing ∈ seen ∨
      ∃ first ∈ firstOfEachText seen items, missingInformation first = missingInformation missing := by
  induction items generalizing seen with
  | nil =>
    intro missing h
    cases h
  | cons head _ ih =>
    intro missing hmem
    simp only [firstOfEachText]
    split
    · next hseen =>
      rcases List.mem_cons.1 hmem with rfl | htail
      · exact .inl hseen
      · exact ih seen missing htail
    · next hfresh =>
      rcases List.mem_cons.1 hmem with rfl | htail
      · exact .inr ⟨missing, List.mem_cons_self .., rfl⟩
      · rcases ih (missingInformation head :: seen) missing htail with
          hseen | ⟨first, hfirst, heq⟩
        · rcases List.mem_cons.1 hseen with hhead | hold
          · exact .inr ⟨head, List.mem_cons_self .., hhead.symm⟩
          · exact .inl hold
        · exact .inr ⟨first, List.mem_cons_of_mem _ hfirst, heq⟩

theorem gapOf_text (missing : MissingEvidence) : Ensures (gapOf missing) fun gap =>
    gap.missingInformationVi.text = missingInformation missing := by
  refine Ensures.bind (Ensures.self _) fun text htext => ?_
  refine Ensures.bind (Ensures.self _) fun _ _ => ?_
  apply Ensures.ok
  exact SizedText.text_of_ofText? (validated_eq_ok htext)

theorem ReadFrom.keepsGaps (h : ReadFrom str payload view suite a.toAssessmentFields) :
    KeepsGaps suite a := by
  obtain ⟨deterministic, _, hdet, hgaps⟩ := h.gaps
  have hkept : deterministic ⊆ a.evidenceGaps := by
    rw [hgaps]
    exact subset_mergedGaps
  refine ⟨deterministic, hdet, hkept, ?_⟩
  intro missing hmissing
  rcases exists_firstOfEachText [] missing hmissing with hseen | ⟨first, hfirst, heq⟩
  · cases hseen
  obtain ⟨gap, hgap, hof⟩ := Results.exists_right_of_mem (Results.mapM_eq_ok.1 hdet) hfirst
  exact ⟨gap, hkept hgap, (gapOf_text first gap hof).trans heq⟩

theorem ReadFrom.amountComputed (h : ReadFrom str payload view suite a.toAssessmentFields) :
    AmountComputed suite a := by
  cases hamount : a.proposedStructure.proposedAmountVnd with
  | none => exact .inl hamount
  | some value =>
    obtain ⟨result, hres, hout⟩ := h.amount value hamount
    exact .inr ⟨result, hres, value, hout, hamount⟩

theorem ReadFrom.checked_resolve (h : ReadFrom str payload view suite a.toAssessmentFields) :
    ∀ citation ∈ a.checkedCitations, citation.ResolvesIn view suite := by
  intro citation hmem
  apply h.checked citation hmem
  intro resultId hres
  rw [← h.results]
  exact a.valid.resolves citation hmem resultId hres

/-- An assumption cites the results its item of the payload names. -/
theorem assumptionFrom_results (item : Mapping) :
    Ensures (assumptionFrom str (citationFrom str view) item) fun assumption =>
      assumption.basisCitations.filterMap (·.result?) =
        match iterateAt item "basis_citations" with
        | .error _ => []
        | .ok cited => cited.filterMap (citedResult? str) := by
  refine Ensures.bind (Ensures.self _) fun citations hcits => ?_
  refine Ensures.mono makeAssumption_basis fun assumption hbasis => ?_
  obtain ⟨_, hraw, hread⟩ := Results.bind_eq_ok.1 hcits
  rw [hbasis, hraw]
  dsimp only
  -- citation by citation
  have hpairs := Results.mapM_eq_ok.1 hread
  clear hraw hread hcits hbasis
  induction hpairs with
  | nil => rfl
  | cons hcit _ ih =>
    have hsame := (citationFrom_ensures ⟨[], [], [], []⟩ _ _ hcit).1
    rw [List.filterMap_cons, List.filterMap_cons, hsame, ih]

theorem ReadFrom.results_of_assumptions (h : ReadFrom str payload view suite a.toAssessmentFields) :
    a.assumptions.flatMap (·.basisCitations.filterMap (·.result?)) = basisResults str payload := by
  obtain ⟨_, hraw, hread⟩ := Results.bind_eq_ok.1 h.assumptions
  unfold basisResults
  rw [hraw]
  dsimp only
  rw [List.flatMap_def, List.flatMap_def]
  congr 1
  exact Results.map_eq_of_forall₂ (Results.mapM_eq_ok.1 hread) fun hone =>
    assumptionFrom_results _ _ hone

/-- **When every citation resolves.** The citations the validator looks at always do; those of the
assumptions do when the payload names results of the suite. -/
theorem ReadFrom.citationsResolve_iff (h : ReadFrom str payload view suite a.toAssessmentFields) :
    CitationsResolve view suite a ↔ ∀ resultId ∈ basisResults str payload,
      resultId ∈ suite.resultIds := by
  rw [← h.results_of_assumptions]
  constructor
  · intro hall resultId hmem
    obtain ⟨assumption, hassumption, hcited⟩ := List.mem_flatMap.1 hmem
    obtain ⟨citation, hcit, hres⟩ := List.mem_filterMap.1 hcited
    have hresolves := hall citation (List.mem_append_right _
      (List.mem_flatMap.2 ⟨assumption, hassumption, hcit⟩))
    cases citation with
    | confirmedFact | documentRegion => cases hres
    | calculatorResult =>
      cases hres
      exact hresolves
  · intro hknown citation hmem
    rcases List.mem_append.1 hmem with hchecked | hbasis
    · exact h.checked_resolve citation hchecked
    · obtain ⟨assumption, hassumption, hcit⟩ := List.mem_flatMap.1 hbasis
      -- the reader checked what is no calculator result
      have hread := itemsAt_ensures (assumptionFrom_cites (citationFrom_read suite)) payload _ _
        h.assumptions assumption hassumption citation hcit
      apply hread
      intro resultId hres
      exact hknown resultId (List.mem_flatMap.2 ⟨assumption, hassumption,
        List.mem_filterMap.2 ⟨citation, hcit, hres⟩⟩)

end Promises

end CreditOps.Assessments.Underwriting
