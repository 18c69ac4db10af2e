import CreditOps.Assessments.LegalEvidence

/-!
# The legal reviewer's assessment

The reviewer's builder turns the payload of the language model and the deterministic pre-analysis into
an assessment, or raises. Its reader of citations checks each kind against what the execution was given,
and the model's validators look at every citation, those of the assumptions included.
-/

set_option autoImplicit false

namespace CreditOps.Assessments.Legal

open JsonValue Evidence

/-! ## The assessment -/

/-- `PolicyFinding` -/
structure PolicyFinding where
  possibleIssueVi : SizedText 1 4000
  citations : NonemptyList PolicyCitation
  confidence : ConfidenceLevel
  uncertaintyVi : SizedText 0 2000
deriving DecidableEq

/-- `ControlledCheckInterpretation` -/
structure ControlledCheckInterpretation where
  invocationId : Uuid
  statementVi : SizedText 1 2000
  confidence : ConfidenceLevel
  uncertaintyVi : SizedText 0 2000
deriving DecidableEq

/-- `OwnershipConsistencySection` -/
structure OwnershipConsistencySection where
  findings : NonemptyList (Finding EvidenceCitation)
  inconsistencies : List OwnershipInconsistencyItem
deriving DecidableEq

/-- `CollateralDocumentItem` -/
structure CollateralDocumentItem where
  documentTypeKey : SizedText 1 200
  labelVi : SizedText 1 300
  status : CollateralDocumentStatus
  citations : NonemptyList EvidenceCitation
  expiryDate : Option Date
  notesVi : SizedText 0 1000
deriving DecidableEq

/-- `CollateralReviewSection` -/
structure CollateralReviewSection where
  documentItems : List CollateralDocumentItem
  ownershipEvidenceFindings : NonemptyList (Finding EvidenceCitation)
deriving DecidableEq

/-- `ExceptionCategory` -/
inductive ExceptionCategory where
  | policy
  | legal
  | collateral
deriving DecidableEq

def ExceptionCategory.value : ExceptionCategory → String
  | .policy => "POLICY"
  | .legal => "LEGAL"
  | .collateral => "COLLATERAL"

/-- `ExceptionItem` -/
structure ExceptionItem where
  category : ExceptionCategory
  possibleIssueVi : SizedText 1 4000
  citations : NonemptyList EvidenceCitation
  confidence : ConfidenceLevel
  uncertaintyVi : SizedText 1 2000
deriving DecidableEq

/-- `PolicyCorpusRef`, and the fields of the corpus it is made from. -/
structure PolicyCorpus where
  corpusId : String
  version : String
  checksumSha256 : String
  isSynthetic : Bool
deriving DecidableEq

/-- `PolicyCorpusRef` -/
structure PolicyCorpusRef where
  corpusId : SizedText 1 200
  version : SizedText 1 50
  checksumSha256 : SizedText 1 64
  isSynthetic : Bool
deriving DecidableEq

/-- `LegalAssessmentProvenance` -/
structure LegalAssessmentProvenance where
  caseId : Uuid
  caseVersion : CaseVersion
  executionId : Uuid
  taskId : Uuid
  promptVersion : String
  modelId : String
  endpointId : String
  evidenceViewBuiltAt : Timestamp
  createdAt : Timestamp
  versionPositive : 1 ≤ caseVersion
  textsNonempty : promptVersion ≠ "" ∧ modelId ≠ "" ∧ endpointId ≠ ""

/-- The fields of `LegalComplianceAssessment`. -/
structure AssessmentFields where
  id : Uuid
  provenance : LegalAssessmentProvenance
  legalEntityReview : AssessmentSection EvidenceCitation
  authoritySignatoryReview : AssessmentSection EvidenceCitation
  ownershipConsistency : OwnershipConsistencySection
  policyReview : List PolicyFinding
  controlledCheckInterpretations : List ControlledCheckInterpretation
  collateralReview : CollateralReviewSection
  exceptions : List ExceptionItem
  assumptions : List (AssumptionItem EvidenceCitation)
  evidenceGaps : List EvidenceGapItem
  policyHits : List PolicyCitation
  policyCorpusRef : Option PolicyCorpusRef
  controlledCheckResults : List ControlledCheckResult

namespace AssessmentFields

/-- `_iter_findings` -/
def iterFindings (a : AssessmentFields) : List (Finding EvidenceCitation) :=
  a.legalEntityReview.findings.1 ++ a.authoritySignatoryReview.findings.1 ++
    a.ownershipConsistency.findings.1 ++ a.collateralReview.ownershipEvidenceFindings.1

/-- `_iter_all_citations` -/
def iterAllCitations (a : AssessmentFields) : List EvidenceCitation :=
  a.iterFindings.flatMap (·.citations.1) ++
    a.policyReview.flatMap (·.citations.1.map .policy) ++
    a.collateralReview.documentItems.flatMap (·.citations.1) ++
    a.ownershipConsistency.inconsistencies.flatMap (·.citations) ++
    a.exceptions.flatMap (·.citations.1) ++
    a.assumptions.flatMap (·.basisCitations)

def knownInvocations (a : AssessmentFields) : List Uuid :=
  a.controlledCheckResults.map (·.invocationId)

/-- What the validators of the assessment check; each ownership inconsistency has two citations by its
own type. -/
structure Valid (a : AssessmentFields) : Prop where
  policyGrounded : ∀ citation ∈ a.iterAllCitations, ∀ policy, citation = .policy policy →
    policy.key ∈ a.policyHits.map (·.key)
  checksGrounded : ∀ citation ∈ a.iterAllCitations, ∀ invocationId,
    citation = .controlledCheck invocationId → invocationId ∈ a.knownInvocations
  interpretationsGrounded : ∀ interpretation ∈ a.controlledCheckInterpretations,
    interpretation.invocationId ∈ a.knownInvocations

/-- What the validators check of one citation. -/
def citationGrounded (a : AssessmentFields) : EvidenceCitation → Bool
  | .policy policy => policy.key ∈ a.policyHits.map (·.key)
  | .controlledCheck invocationId => invocationId ∈ a.knownInvocations
  | _ => true

theorem valid_iff (a : AssessmentFields) : a.Valid ↔
    (∀ citation ∈ a.iterAllCitations, a.citationGrounded citation = true) ∧
      ∀ interpretation ∈ a.controlledCheckInterpretations,
        interpretation.invocationId ∈ a.knownInvocations := by
  constructor
  · intro h
    refine ⟨?_, h.interpretationsGrounded⟩
    intro citation hmem
    cases citation with
    | confirmedFact | documentRegion => rfl
    | policy policy => exact decide_eq_true (h.policyGrounded _ hmem policy rfl)
    | controlledCheck id => exact decide_eq_true (h.checksGrounded _ hmem id rfl)
  · rintro ⟨hcits, hinterpretations⟩
    refine ⟨?_, ?_, hinterpretations⟩
    all_goals
      rintro _ hmem _ rfl
      exact of_decide_eq_true (hcits _ hmem)

instance (a : AssessmentFields) : Decidable a.Valid :=
  decidable_of_iff _ a.valid_iff.symm

end AssessmentFields

/-- `LegalComplianceAssessment` -/
structure LegalComplianceAssessment extends AssessmentFields where
  valid : toAssessmentFields.Valid

/-! ## Reading the payload -/

/-- What an execution of the reviewer is given beside the payload. -/
structure ReviewScope where
  view : LegalEvidenceView
  policyHits : List PolicyHit
  controlledChecks : ControlledCheckSuite
  preAnalysis : CollateralPreAnalysis
  inconsistencies : List OwnershipInconsistencyItem
  corpus : Option PolicyCorpus

/-- `invocation_ids` -/
def ReviewScope.invocationIds (scope : ReviewScope) : List Uuid :=
  scope.controlledChecks.results.map (·.invocationId)

/-- `ReviewerRunContext`, with the model and the endpoint that answered. -/
structure ReviewerRun where
  taskId : Uuid
  executionId : Uuid
  modelId : String
  endpointId : String
deriving DecidableEq

section Readers

variable (str : JsonValue → String)

/-- The clause an item names. -/
def policyKeyFrom (item : Mapping) : PolicyKey where
  corpusId := getText str item "corpus_id"
  corpusVersion := getText str item "corpus_version"
  documentId := getText str item "document_id"
  clauseId := getText str item "clause_id"
  quotedTextVi := getText str item "quoted_text_vi"

/-- One element of `_citations_from`. -/
def citationFrom (scope : ReviewScope) (value : JsonValue) : Except BuildFault EvidenceCitation := do
  let item ← asItem value
  match item.lookup "kind" with
  | some (.string "CONFIRMED_FACT") =>
    let id ← knownUuid (scope.view.confirmedFacts.map (·.confirmedFactId))
      "citation references a confirmed fact outside the scoped evidence view: "
      (getText str item "confirmed_fact_id")
    return .confirmedFact id
  | some (.string "DOCUMENT_REGION") =>
    let id ← knownUuid (scope.view.documents.map (·.documentVersionId))
      "citation references a document outside the scoped evidence view: "
      (getText str item "document_version_id")
    let region ← validated "DocumentRegionCitation" "region"
      (SizedText.ofText? 1 500 (getText str item "region"))
    return .documentRegion id region
  | some (.string "POLICY_CITATION") =>
    let key := policyKeyFrom str item
    require (.outputInvalid
      "policy citation does not resolve to a clause retrieval offered for this execution: " [])
      (key ∈ scope.policyHits.map (·.key))
    let citation ← makePolicyCitation "PolicyCitation" key
    return .policy citation
  | some (.string "CONTROLLED_CHECK") =>
    let id ← knownUuid scope.invocationIds
      "citation references an unknown controlled-check invocation id: "
      (getText str item "invocation_id")
    return .controlledCheck id
  | kind => .error (.outputInvalid "unsupported citation kind: " kind.toList)

/-- The policy citation a citation is. -/
def EvidenceCitation.policy? : EvidenceCitation → Option PolicyCitation
  | .policy citation => some citation
  | _ => none

/-- One element of `policy_review`; its citations of other kinds are dropped. -/
def policyFindingFrom (scope : ReviewScope) (item : Mapping) : Except BuildFault PolicyFinding := do
  let citations ← citationsAt (citationFrom str scope) item "citations"
  let confidence ← confidenceFrom str item
  let possibleIssueVi ← validated "PolicyFinding" "possible_issue_vi"
    (SizedText.ofText? 1 4000 (getText str item "possible_issue_vi"))
  let citations ← validated "PolicyFinding" "citations"
    (NonemptyList.ofList? (citations.filterMap (·.policy?)))
  let uncertaintyVi ← validated "PolicyFinding" "uncertainty_vi"
    (SizedText.ofText? 0 2000 (getText str item "uncertainty_vi"))
  return { possibleIssueVi, citations, confidence, uncertaintyVi }

/-- One element of `controlled_check_interpretations`. -/
def interpretationFrom (item : Mapping) : Except BuildFault ControlledCheckInterpretation := do
  let invocationId ← uuidFrom (getText str item "invocation_id")
  let confidence ← confidenceFrom str item
  let statementVi ← validated "ControlledCheckInterpretation" "statement_vi"
    (SizedText.ofText? 1 2000 (getText str item "statement_vi"))
  let uncertaintyVi ← validated "ControlledCheckInterpretation" "uncertainty_vi"
    (SizedText.ofText? 0 2000 (getText str item "uncertainty_vi"))
  return { invocationId, statementVi, confidence, uncertaintyVi }

/-- One element of `exceptions`. -/
def exceptionFrom (scope : ReviewScope) (item : Mapping) : Except BuildFault ExceptionItem := do
  let category ← chosen [.policy, .legal, .collateral] ExceptionCategory.value
    (getText str item "category")
  let citations ← citationsAt (citationFrom str scope) item "citations"
  let confidence ← confidenceFrom str item
  let possibleIssueVi ← validated "ExceptionItem" "possible_issue_vi"
    (SizedText.ofText? 1 4000 (getText str item "possible_issue_vi"))
  let citations ← validated "ExceptionItem" "citations" (NonemptyList.ofList? citations)
  let uncertaintyVi ← validated "ExceptionItem" "uncertainty_vi"
    (SizedText.ofText? 1 2000 (getText str item "uncertainty_vi"))
  return { category, possibleIssueVi, citations, confidence, uncertaintyVi }

end Readers

/-- One checklist item on the assessment. -/
def documentItemOf (item : CollateralItemResult) : Except BuildFault CollateralDocumentItem := do
  let documentTypeKey ← validated "CollateralDocumentItem" "document_type_key"
    (SizedText.ofText? 1 200 item.documentTypeKey)
  let labelVi ← validated "CollateralDocumentItem" "label_vi" (SizedText.ofText? 1 300 item.labelVi)
  let citations ← validated "CollateralDocumentItem" "citations"
    (NonemptyList.ofList? item.citations)
  let notesVi ← validated "CollateralDocumentItem" "notes_vi" (SizedText.ofText? 0 1000 item.notesVi)
  return { documentTypeKey, labelVi, status := item.status, citations, expiryDate := item.expiryDate,
           notesVi }

/-- The checklist item a document item stands for. -/
def CollateralDocumentItem.result (item : CollateralDocumentItem) : CollateralItemResult where
  documentTypeKey := item.documentTypeKey.text
  labelVi := item.labelVi.text
  status := item.status
  citations := item.citations.1
  expiryDate := item.expiryDate
  notesVi := item.notesVi.text

/-! ## Deterministic gaps -/

/-- The gap of a check that could not be run. -/
def missingCheckGap (check : MissingControlledCheck) : Except BuildFault EvidenceGapItem :=
  makeGap ("Không thể thực hiện kiểm tra " ++ check.checkType.value ++ ": " ++ check.reason)
    "Cần để diễn giải kết quả kiểm tra kiểm soát." check.blockingLevel []

/-- The gap of an execution without a policy corpus. -/
def noCorpusGap : Except BuildFault EvidenceGapItem :=
  makeGap "Không có kho chính sách nào được cấu hình cho thẩm định pháp lý."
    "Cần một kho chính sách tổng hợp (synthetic) đã được cấu hình phiên bản và kiểm tra checksum trước khi trả lời câu hỏi chính sách (ADR-0002)."
    .conditional []

/-- `deterministic_gaps` -/
def deterministicGaps (scope : ReviewScope) : Except BuildFault (List EvidenceGapItem) := do
  let checkGaps ← scope.controlledChecks.missing.mapM missingCheckGap
  let corpusGaps ← if scope.policyHits = [] then [noCorpusGap].mapM id else .ok []
  return scope.preAnalysis.gaps ++ checkGaps ++ corpusGaps

/-! ## The builder -/

/-- `LEGAL_PROMPT_VERSION` -/
def promptVersion : String := "legal-prompt-v1"

def makeProvenance (view : LegalEvidenceView) (run : ReviewerRun) (now : Timestamp) :
    Except BuildFault LegalAssessmentProvenance :=
  if hver : 1 ≤ view.caseVersion then
    if htexts : promptVersion ≠ "" ∧ run.modelId ≠ "" ∧ run.endpointId ≠ "" then
      .ok ⟨view.caseId, view.caseVersion, run.executionId, run.taskId, promptVersion, run.modelId,
        run.endpointId, view.builtAt, now, hver, htexts⟩
    else .error (.validation "LegalAssessmentProvenance" "model_id")
  else .error (.validation "LegalAssessmentProvenance" "case_version")

def makeCorpusRef (corpus : PolicyCorpus) : Except BuildFault PolicyCorpusRef := do
  let corpusId ← validated "PolicyCorpusRef" "corpus_id" (SizedText.ofText? 1 200 corpus.corpusId)
  let version ← validated "PolicyCorpusRef" "version" (SizedText.ofText? 1 50 corpus.version)
  let checksumSha256 ← validated "PolicyCorpusRef" "checksum_sha256"
    (SizedText.ofText? 1 64 corpus.checksumSha256)
  return { corpusId, version, checksumSha256, isSynthetic := corpus.isSynthetic }

section Builder

variable (str : JsonValue → String)

/-- `policy_review` -/
def policyReviewFrom (payload : Mapping) (scope : ReviewScope) :
    Except BuildFault (List PolicyFinding) := do
  let raw ← listAt payload "policy_review"
  require (.outputInvalid "policy findings present without a configured policy corpus" [])
    (scope.policyHits ≠ [] ∨ raw.length = 0)
  (mappings raw).mapM (policyFindingFrom str scope)

/-- `controlled_check_interpretations` -/
def interpretationsFrom (payload : Mapping) (scope : ReviewScope) :
    Except BuildFault (List ControlledCheckInterpretation) := do
  let interpretations ← listItemsAt payload "controlled_check_interpretations" (interpretationFrom str)
  require (.outputInvalid
    "controlled-check interpretation references an unknown invocation id: " [])
    (∀ interpretation ∈ interpretations,
      uuidText interpretation.invocationId ∈ scope.invocationIds.map uuidText)
  return interpretations

/-- `collateral_review.ownership_evidence_findings` -/
def ownershipEvidenceFrom (payload : Mapping) (scope : ReviewScope) :
    Except BuildFault (List (Finding EvidenceCitation)) := do
  let entries ← sectionAt payload "collateral_review"
  match (entries.lookup "ownership_evidence_findings").bind list? with
  | none | some [] =>
    .error (.outputInvalid "collateral_review.ownership_evidence_findings is required" [])
  | some raw => (mappings raw).mapM (findingFrom str (citationFrom str scope))

/-- One section of findings. -/
def sectionFrom (payload : Mapping) (scope : ReviewScope) (key : String) :
    Except BuildFault (AssessmentSection EvidenceCitation) := do
  let findings ← findingsFrom str (citationFrom str scope) payload key
  makeSection findings

/-- The fields of the assessment, read from the payload. -/
def fieldsFrom (payload : Mapping) (scope : ReviewScope) (run : ReviewerRun) (id : Uuid)
    (now : Timestamp) : Except BuildFault AssessmentFields := do
  let _ ← sectionAt payload "ownership_consistency"
  let policyReview ← policyReviewFrom str payload scope
  let controlledCheckInterpretations ← interpretationsFrom str payload scope
  let ownershipEvidence ← ownershipEvidenceFrom str payload scope
  let documentItems ← scope.preAnalysis.items.mapM documentItemOf
  let exceptions ← listItemsAt payload "exceptions" (exceptionFrom str scope)
  let assumptions ←
    listItemsAt payload "assumptions" (assumptionFrom str (citationFrom str scope))
  let llmGaps ← listItemsAt payload "evidence_gaps" (gapFrom str)
  let deterministic ← deterministicGaps scope
  let provenance ← makeProvenance scope.view run now
  let legalEntityReview ← sectionFrom str payload scope "legal_entity_review"
  let authoritySignatoryReview ← sectionFrom str payload scope "authority_signatory_review"
  let ownership ← findingsFrom str (citationFrom str scope) payload "ownership_consistency"
  let ownershipFindings ← validated "OwnershipConsistencySection" "findings"
    (NonemptyList.ofList? ownership)
  let ownershipEvidenceFindings ← validated "CollateralReviewSection" "ownership_evidence_findings"
    (NonemptyList.ofList? ownershipEvidence)
  let policyHits ← scope.policyHits.mapM fun hit => makePolicyCitation "PolicyHitRecord" hit.key
  let policyCorpusRef ← scope.corpus.mapM makeCorpusRef
  return {
    id, provenance, legalEntityReview, authoritySignatoryReview
    ownershipConsistency := { findings := ownershipFindings, inconsistencies := scope.inconsistencies }
    policyReview, controlledCheckInterpretations
    collateralReview := { documentItems, ownershipEvidenceFindings }
    exceptions, assumptions
    evidenceGaps := mergedGaps deterministic llmGaps
    policyHits, policyCorpusRef
    controlledCheckResults := scope.controlledChecks.results }

/-- `LegalComplianceAssessment(...)` -/
def makeAssessment (fields : AssessmentFields) : Except BuildFault LegalComplianceAssessment :=
  if h : fields.Valid then .ok ⟨fields, h⟩
  else .error (.validation "LegalComplianceAssessment" "")

/-- `BuildAssessment.build` -/
def build (payload : Mapping) (scope : ReviewScope) (run : ReviewerRun) (id : Uuid)
    (now : Timestamp) : Except BuildFault LegalComplianceAssessment :=
  (do
    let fields ← fieldsFrom str payload scope run id now
    makeAssessment fields).mapError (BuildFault.wrapped "reviewer output rejected: ")

end Builder

/-! ## What a citation resolves to -/

/-- The citation names a confirmed fact or a document of the view, a clause retrieval offered, or a check
that was run. -/
def EvidenceCitation.ResolvesIn (scope : ReviewScope) : EvidenceCitation → Prop
  | .confirmedFact id => Named (scope.view.confirmedFacts.map (·.confirmedFactId)) id
  | .documentRegion id _ => Named (scope.view.documents.map (·.documentVersionId)) id
  | .policy citation => citation.key ∈ scope.policyHits.map (·.key)
  | .controlledCheck id => Named scope.invocationIds id

section Citations

variable {str : JsonValue → String} {scope : ReviewScope}

theorem makePolicyCitation_key (model : String) (key : PolicyKey) :
    Ensures (makePolicyCitation model key) (·.key = key) := by
  refine Ensures.bind (Ensures.self _) fun corpusId hcorpus => ?_
  refine Ensures.bind (Ensures.self _) fun version hver => ?_
  refine Ensures.bind (Ensures.self _) fun document hdoc => ?_
  refine Ensures.bind (Ensures.self _) fun clause hclause => ?_
  refine Ensures.bind (Ensures.self _) fun quoted hquoted => ?_
  apply Ensures.ok
  simp only [PolicyCitation.key, SizedText.text_of_ofText? (validated_eq_ok hcorpus),
    SizedText.text_of_ofText? (validated_eq_ok hver),
    SizedText.text_of_ofText? (validated_eq_ok hdoc),
    SizedText.text_of_ofText? (validated_eq_ok hclause),
    SizedText.text_of_ofText? (validated_eq_ok hquoted)]

/-- **The reader of a citation.** What it accepts is in the scope of the execution. -/
theorem citationFrom_resolves (value : JsonValue) :
    Ensures (citationFrom str scope value) (EvidenceCitation.ResolvesIn scope) := by
  unfold citationFrom
  refine Ensures.bind (Ensures.self _) fun item _ => ?_
  split
  · refine Ensures.bind knownUuid_named fun id hid => ?_
    exact Ensures.ok hid
  · refine Ensures.bind knownUuid_named fun id hid => ?_
    refine Ensures.bind (Ensures.self _) fun region _ => ?_
    exact Ensures.ok hid
  · refine Ensures.bind ensures_require fun _ hknown => ?_
    refine Ensures.bind (makePolicyCitation_key _ _) fun citation hkey => ?_
    apply Ensures.ok
    rw [← hkey] at hknown
    exact hknown
  · refine Ensures.bind knownUuid_named fun id hid => ?_
    exact Ensures.ok hid
  · exact Ensures.error _

theorem policyFindingFrom_resolves (item : Mapping) :
    Ensures (policyFindingFrom str scope item) fun finding =>
      ∀ citation ∈ finding.citations.1, (EvidenceCitation.policy citation).ResolvesIn scope := by
  refine Ensures.bind (citationsAt_ensures citationFrom_resolves item _) fun cited hcited => ?_
  refine Ensures.bind (Ensures.self _) fun _ _ => ?_
  refine Ensures.bind (Ensures.self _) fun _ _ => ?_
  refine Ensures.bind (Ensures.self _) fun citations hcits => ?_
  refine Ensures.bind (Ensures.self _) fun _ _ => ?_
  apply Ensures.ok
  intro policy hmem
  rw [NonemptyList.val_of_ofList? (validated_eq_ok hcits)] at hmem
  obtain ⟨citation, hcit, hpolicy⟩ := List.mem_filterMap.1 hmem
  -- only the policy citations are kept
  cases citation with
  | confirmedFact | documentRegion | controlledCheck => cases hpolicy
  | policy =>
    cases hpolicy
    exact hcited _ hcit

theorem exceptionFrom_resolves (item : Mapping) :
    Ensures (exceptionFrom str scope item) fun exception =>
      ∀ citation ∈ exception.citations.1, citation.ResolvesIn scope := by
  refine Ensures.bind (Ensures.self _) fun _ _ => ?_
  refine Ensures.bind (citationsAt_ensures citationFrom_resolves item _) fun cited hcited => ?_
  refine Ensures.bind (Ensures.self _) fun _ _ => ?_
  refine Ensures.bind (Ensures.self _) fun _ _ => ?_
  refine Ensures.bind (Ensures.self _) fun citations hcits => ?_
  refine Ensures.bind (Ensures.self _) fun _ _ => ?_
  apply Ensures.ok
  intro citation hmem
  rw [NonemptyList.val_of_ofList? (validated_eq_ok hcits)] at hmem
  exact hcited citation hmem

theorem policyReviewFrom_resolves (payload : Mapping) :
    Ensures (policyReviewFrom str payload scope) fun findings => ∀ finding ∈ findings,
      ∀ citation ∈ finding.citations.1, (EvidenceCitation.policy citation).ResolvesIn scope := by
  refine Ensures.bind (Ensures.self _) fun raw _ => ?_
  refine Ensures.bind (Ensures.self _) fun _ _ => ?_
  exact Ensures.mapM policyFindingFrom_resolves _

theorem interpretationsFrom_named (payload : Mapping) :
    Ensures (interpretationsFrom str payload scope) fun interpretations =>
      ∀ interpretation ∈ interpretations, Named scope.invocationIds interpretation.invocationId := by
  refine Ensures.bind (Ensures.self _) fun interpretations _ => ?_
  refine Ensures.bind ensures_require fun _ hknown => ?_
  apply Ensures.ok
  intro interpretation hmem
  obtain ⟨id, hid, htext⟩ := List.mem_map.1 (hknown interpretation hmem)
  exact ⟨id, hid, htext⟩

theorem ownershipEvidenceFrom_resolves (payload : Mapping) :
    Ensures (ownershipEvidenceFrom str payload scope) fun findings =>
      ∀ finding ∈ findings, finding.Cites (EvidenceCitation.ResolvesIn scope) := by
  refine Ensures.bind (Ensures.self _) fun entries _ => ?_
  split
  · exact Ensures.error _
  · exact Ensures.error _
  · exact Ensures.mapM (findingFrom_cites citationFrom_resolves) _

theorem sectionFrom_resolves (payload : Mapping) (key : String) :
    Ensures (sectionFrom str payload scope key) fun part =>
      ∀ finding ∈ part.findings.1, finding.Cites (EvidenceCitation.ResolvesIn scope) := by
  refine Ensures.bind (findingsFrom_cites citationFrom_resolves payload key) fun read hread => ?_
  refine Ensures.bind (Ensures.self _) fun findings hfinds => ?_
  apply Ensures.ok
  rw [NonemptyList.val_of_ofList? (validated_eq_ok hfinds)]
  exact hread

theorem documentItemOf_result (item : CollateralItemResult) :
    Ensures (documentItemOf item) (·.result = item) := by
  refine Ensures.bind (Ensures.self _) fun key hkey => ?_
  refine Ensures.bind (Ensures.self _) fun label hlabel => ?_
  refine Ensures.bind (Ensures.self _) fun citations hcits => ?_
  refine Ensures.bind (Ensures.self _) fun notes hnotes => ?_
  apply Ensures.ok
  simp only [CollateralDocumentItem.result, SizedText.text_of_ofText? (validated_eq_ok hkey),
    SizedText.text_of_ofText? (validated_eq_ok hlabel),
    NonemptyList.val_of_ofList? (validated_eq_ok hcits),
    SizedText.text_of_ofText? (validated_eq_ok hnotes)]

theorem documentItems_results (items : List CollateralItemResult) :
    Ensures (items.mapM documentItemOf) fun documentItems =>
      documentItems.map (·.result) = items := by
  intro documentItems h
  have hsame : documentItems.map (·.result) = items.map fun item => item :=
    Results.map_eq_of_forall₂ (Results.mapM_eq_ok.1 h) fun hone => documentItemOf_result _ _ hone
  rw [hsame, List.map_id']

/-! ## What the builder ensures -/

/-- What the fields owe to the scope of the execution. -/
structure BuiltFrom (scope : ReviewScope) (a : AssessmentFields) : Prop where
  gaps : ∃ deterministic llmGaps, deterministicGaps scope = .ok deterministic ∧
    a.evidenceGaps = mergedGaps deterministic llmGaps
  items : a.collateralReview.documentItems.map (·.result) = scope.preAnalysis.items
  inconsistencies : a.ownershipConsistency.inconsistencies = scope.inconsistencies
  citations : ∀ citation ∈ a.iterAllCitations, citation.ResolvesIn scope ∨
    (∃ item ∈ scope.preAnalysis.items, citation ∈ item.citations) ∨
    ∃ inconsistency ∈ scope.inconsistencies, citation ∈ inconsistency.citations
  interpretations : ∀ interpretation ∈ a.controlledCheckInterpretations,
    Named scope.invocationIds interpretation.invocationId

/-- **What the fields owe to the scope.** -/
theorem fieldsFrom_builtFrom (payload : Mapping) (run : ReviewerRun) (id : Uuid) (now : Timestamp) :
    Ensures (fieldsFrom str payload scope run id now) (BuiltFrom scope) := by
  refine Ensures.bind (Ensures.self _) fun _ _ => ?_
  refine Ensures.bind (policyReviewFrom_resolves payload) fun policyReview hpolicy => ?_
  refine Ensures.bind (interpretationsFrom_named payload) fun interpretations hinterpretations => ?_
  refine Ensures.bind (ownershipEvidenceFrom_resolves payload) fun evidence hevid => ?_
  refine Ensures.bind (documentItems_results _) fun documentItems hress => ?_
  refine Ensures.bind (listItemsAt_ensures exceptionFrom_resolves _ _) fun exceptions hexceptions => ?_
  refine Ensures.bind (listItemsAt_ensures (assumptionFrom_cites citationFrom_resolves) _ _)
    fun assumptions hassumptions => ?_
  refine Ensures.bind (Ensures.self _) fun llmGaps _ => ?_
  refine Ensures.bind (Ensures.self _) fun deterministic hdet => ?_
  refine Ensures.bind (Ensures.self _) fun provenance _ => ?_
  refine Ensures.bind (sectionFrom_resolves payload _) fun entity hentity => ?_
  refine Ensures.bind (sectionFrom_resolves payload _) fun authority hauthority => ?_
  refine Ensures.bind (findingsFrom_cites citationFrom_resolves payload _) fun ownership hownership => ?_
  refine Ensures.bind (Ensures.self _) fun ownershipFindings hownershipFindings => ?_
  refine Ensures.bind (Ensures.self _) fun evidenceFindings hevidenceFindings => ?_
  refine Ensures.bind (Ensures.self _) fun policyHits _ => ?_
  refine Ensures.bind (Ensures.self _) fun corpusRef _ => ?_
  rw [← NonemptyList.val_of_ofList? (validated_eq_ok hownershipFindings)] at hownership
  rw [← NonemptyList.val_of_ofList? (validated_eq_ok hevidenceFindings)] at hevid
  apply Ensures.ok
  refine ⟨⟨deterministic, llmGaps, hdet, rfl⟩, hress, rfl, ?_, hinterpretations⟩
  intro citation hmem
  simp only [AssessmentFields.iterAllCitations, AssessmentFields.iterFindings, List.flatMap_append,
    List.mem_append, List.mem_flatMap, List.mem_map] at hmem
  rcases hmem with ((((((((⟨f, hf, hc⟩ | ⟨f, hf, hc⟩) | ⟨f, hf, hc⟩) | ⟨f, hf, hc⟩) |
    ⟨f, hf, policy, hc, rfl⟩) | ⟨item, hitem, hc⟩) | ⟨i, hi, hc⟩) | ⟨e, he, hc⟩) | ⟨a, ha, hc⟩)
  · exact .inl (hentity f hf citation hc)
  · exact .inl (hauthority f hf citation hc)
  · exact .inl (hownership f hf citation hc)
  · exact .inl (hevid f hf citation hc)
  · exact .inl (hpolicy f hf policy hc)
  · -- a document item cites what its checklist item cites
    refine .inr (.inl ⟨item.result, ?_, hc⟩)
    rw [← hress]
    exact List.mem_map_of_mem hitem
  · exact .inr (.inr ⟨i, hi, hc⟩)
  · exact .inl (hexceptions e he citation hc)
  · exact .inl (hassumptions a ha citation hc)

end Citations

/-! ## The promises -/

/-- The pre-analysis is the one computed from the view. -/
structure ReviewScope.Computed (py : PythonTexts) (asOf : Date) (scope : ReviewScope) : Prop where
  checklist : evaluateCollateralChecklist py scope.view asOf = .ok scope.preAnalysis
  ownership : checkOwnershipConsistency py scope.view = .ok scope.inconsistencies

/-- Everything deterministic is on the assessment, and whatever it cites is in scope. -/
structure Faithful (scope : ReviewScope) (a : LegalComplianceAssessment) : Prop where
  keepsItems : a.collateralReview.documentItems.map (·.result) = scope.preAnalysis.items
  keepsInconsistencies : a.ownershipConsistency.inconsistencies = scope.inconsistencies
  keepsGaps : ∃ deterministic, deterministicGaps scope = .ok deterministic ∧
    deterministic ⊆ a.evidenceGaps
  citationsResolve : ∀ citation ∈ a.iterAllCitations, citation.ResolvesIn scope
  interpretationsResolve : ∀ interpretation ∈ a.controlledCheckInterpretations,
    Named scope.invocationIds interpretation.invocationId

variable {scope : ReviewScope}

theorem CitesFact.resolvesIn {citation : EvidenceCitation} (h : CitesFact scope.view citation) :
    citation.ResolvesIn scope := by
  obtain ⟨fact, hfact, rfl⟩ := h
  exact ⟨fact.confirmedFactId, List.mem_map_of_mem hfact, rfl⟩

variable {py : PythonTexts} {asOf : Date}

theorem BuiltFrom.faithful {a : LegalComplianceAssessment} (h : BuiltFrom scope a.toAssessmentFields)
    (hscope : scope.Computed py asOf) : Faithful scope a := by
  refine ⟨h.items, h.inconsistencies, ?_, ?_, h.interpretations⟩
  · obtain ⟨deterministic, _, hdet, hgaps⟩ := h.gaps
    refine ⟨deterministic, hdet, ?_⟩
    rw [hgaps]
    exact subset_mergedGaps
  · intro citation hmem
    rcases h.citations citation hmem with hresolves | ⟨item, hitem, hc⟩ | ⟨i, hi, hc⟩
    · exact hresolves
    · have hcites := evaluateCollateralChecklist_cites _ hscope.checklist item hitem
      exact (hcites.2 citation hc).resolvesIn
    · exact (checkOwnershipConsistency_cites _ hscope.ownership i hi citation hc).resolvesIn

/-- **What the reviewer's builder returns is faithful.** -/
theorem build_faithful {str : JsonValue → String} (hscope : scope.Computed py asOf) (payload : Mapping)
    (run : ReviewerRun) (id : Uuid) (now : Timestamp) :
    Ensures (build str payload scope run id now) (Faithful scope) := by
  apply Ensures.mapError
  refine Ensures.bind (fieldsFrom_builtFrom payload run id now) fun fields hflds => ?_
  unfold makeAssessment
  split
  · next hvalid => exact Ensures.ok (BuiltFrom.faithful (a := ⟨fields, hvalid⟩) hflds hscope)
  · exact Ensures.error _

end CreditOps.Assessments.Legal
