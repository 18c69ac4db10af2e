import CreditOps.Assessments.Legal
import CreditOps.Assessments.Underwriting

/-!
# The checker's assessment

The schema of the independent risk review: references into the two makers' assessments, challenges,
omitted risks, reviews of mitigants, visibility checks, recommendations and gaps. The paths that can be
referenced are enumerated from the assessments under review.
-/

set_option autoImplicit false

namespace CreditOps.Assessments.RiskReview

open Orchestration

/-! ## References and citations -/

/-- `MakerSource` -/
inductive MakerSource where
  | creditUnderwriting
  | legalComplianceCollateral
deriving DecidableEq

def MakerSource.value : MakerSource → String
  | .creditUnderwriting => "CREDIT_UNDERWRITING"
  | .legalComplianceCollateral => "LEGAL_COMPLIANCE_COLLATERAL"

/-- `MakerFindingRef`: a place in one maker's assessment. -/
structure MakerFindingRef where
  makerSource : MakerSource
  makerAssessmentId : Uuid
  sectionPath : SizedText 1 200
deriving DecidableEq

def makeRef (makerSource : MakerSource) (makerAssessmentId : Uuid) (sectionPath : String) :
    Except BuildFault MakerFindingRef := do
  let sectionPath ← validated "MakerFindingRef" "section_path" (SizedText.ofText? 1 200 sectionPath)
  return { makerSource, makerAssessmentId, sectionPath }

/-- `EvidenceCitation` -/
inductive EvidenceCitation where
  | confirmedFact (confirmedFactId : Uuid)
  | calculatorResult (resultId : String) (nonempty : resultId ≠ "")
  | documentRegion (documentVersionId : Uuid) (region : SizedText 1 500)
  | policy (citation : Legal.PolicyCitation)
  | controlledCheck (invocationId : Uuid)
  | makerFinding (ref : MakerFindingRef)

/-- What a citation holds, by its kind. -/
def EvidenceCitation.content :
    EvidenceCitation → (Underwriting.EvidenceCitation ⊕ Legal.PolicyCitation) ⊕ Uuid ⊕ MakerFindingRef
  | .confirmedFact confirmedFactId => .inl (.inl (.confirmedFact confirmedFactId))
  | .calculatorResult resultId nonempty => .inl (.inl (.calculatorResult resultId nonempty))
  | .documentRegion documentVersionId region => .inl (.inl (.documentRegion documentVersionId region))
  | .policy citation => .inl (.inr citation)
  | .controlledCheck invocationId => .inr (.inl invocationId)
  | .makerFinding ref => .inr (.inr ref)

theorem EvidenceCitation.content_injective : Function.Injective EvidenceCitation.content := by
  intro a b h
  cases a <;> cases b <;> simp_all [content]

instance : DecidableEq EvidenceCitation :=
  EvidenceCitation.content_injective.decidableEq

/-! ## Challenges -/

/-- `ChallengeType` -/
inductive ChallengeType where
  | unsupportedAssumption
  | omittedRisk
  | inadequateMitigant
  | gapVisibility
  | exceptionVisibility
  | otherConcern
deriving DecidableEq

def ChallengeType.value : ChallengeType → String
  | .unsupportedAssumption => "UNSUPPORTED_ASSUMPTION"
  | .omittedRisk => "OMITTED_RISK"
  | .inadequateMitigant => "INADEQUATE_MITIGANT"
  | .gapVisibility => "GAP_VISIBILITY"
  | .exceptionVisibility => "EXCEPTION_VISIBILITY"
  | .otherConcern => "OTHER_CONCERN"

/-- The stored text of a severity. -/
def severityValue : ChallengeSeverity → String
  | .low => "LOW"
  | .medium => "MEDIUM"
  | .high => "HIGH"
  | .critical => "CRITICAL"

/-- `RecommendationType` -/
inductive RecommendationType where
  | requestInformation
  | structuralChangeSuggestion
  | manualReview
  | escalation
deriving DecidableEq

def RecommendationType.value : RecommendationType → String
  | .requestInformation => "REQUEST_INFORMATION"
  | .structuralChangeSuggestion => "STRUCTURAL_CHANGE_SUGGESTION"
  | .manualReview => "MANUAL_REVIEW"
  | .escalation => "ESCALATION"

/-- `RaisedBy` -/
inductive RaisedBy where
  | deterministic
  | llm
deriving DecidableEq

/-- The default of `Challenge.raised_by`. -/
def RaisedBy.unstated : RaisedBy := .llm

/-- `Challenge` -/
structure Challenge where
  id : Uuid
  target : MakerFindingRef
  challengeType : ChallengeType
  statementVi : SizedText 1 4000
  citations : NonemptyList EvidenceCitation
  severity : ChallengeSeverity
  confidence : ConfidenceLevel
  raisedBy : RaisedBy
  raisedBlind : Bool
deriving DecidableEq

def makeChallenge (id : Uuid) (target : MakerFindingRef) (challengeType : ChallengeType)
    (statementVi : String) (citations : List EvidenceCitation) (severity : ChallengeSeverity)
    (confidence : ConfidenceLevel) (raisedBy : RaisedBy) (raisedBlind : Bool) :
    Except BuildFault Challenge := do
  let statementVi ← validated "Challenge" "statement_vi" (SizedText.ofText? 1 4000 statementVi)
  let citations ← validated "Challenge" "citations" (NonemptyList.ofList? citations)
  return { id, target, challengeType, statementVi, citations, severity, confidence, raisedBy,
           raisedBlind }

/-! ## The other items -/

/-- `OmittedRiskItem` -/
structure OmittedRiskItem where
  descriptionVi : SizedText 1 4000
  citations : NonemptyList EvidenceCitation
  confidence : ConfidenceLevel
  uncertaintyVi : SizedText 0 2000
deriving DecidableEq

/-- `MitigantAdequacyReview` -/
structure MitigantAdequacyReview where
  riskTarget : MakerFindingRef
  mitigantTarget : MakerFindingRef
  concernVi : SizedText 1 4000
  citations : NonemptyList EvidenceCitation
  confidence : ConfidenceLevel
  uncertaintyVi : SizedText 0 2000
deriving DecidableEq

/-- `VisibilityGapItem` -/
structure VisibilityGapItem where
  source : MakerSource
  sourceAssessmentId : Uuid
  missingInformationVi : SizedText 1 2000
  blockingLevel : GapBlockingLevel
  stillVisible : Bool
deriving DecidableEq

/-- `VisibilityExceptionItem` -/
structure VisibilityExceptionItem where
  sourceAssessmentId : Uuid
  category : Legal.ExceptionCategory
  possibleIssueVi : SizedText 1 4000
  stillVisible : Bool
deriving DecidableEq

/-- `VisibilityChecks` -/
structure VisibilityChecks where
  blockingGaps : List VisibilityGapItem
  exceptions : List VisibilityExceptionItem
deriving DecidableEq

/-- `RecommendationItem` -/
structure RecommendationItem where
  recommendationType : RecommendationType
  rationaleVi : SizedText 1 2000
  citations : List EvidenceCitation
deriving DecidableEq

/-! ## The assessment -/

/-- `MakerReviewedRef` -/
structure MakerReviewedRef where
  makerSource : MakerSource
  assessmentId : Uuid
  executionId : Uuid
deriving DecidableEq

/-- `RiskReviewProvenance` -/
structure RiskReviewProvenance where
  caseId : Uuid
  caseVersion : CaseVersion
  executionId : Uuid
  taskId : Uuid
  promptVersion : String
  modelId : String
  endpointId : String
  evidenceViewBuiltAt : Timestamp
  createdAt : Timestamp
  makerAssessmentsReviewed : List MakerReviewedRef
  versionPositive : 1 ≤ caseVersion
  textsNonempty : promptVersion ≠ "" ∧ modelId ≠ "" ∧ endpointId ≠ ""
  twoReviewed : 2 ≤ makerAssessmentsReviewed.length

/-- The fields of `RiskReviewAssessment`. -/
structure AssessmentFields where
  id : Uuid
  provenance : RiskReviewProvenance
  challenges : List Challenge
  omittedRisks : List OmittedRiskItem
  mitigantAdequacyReviews : List MitigantAdequacyReview
  visibilityChecks : VisibilityChecks
  recommendations : List RecommendationItem
  evidenceGaps : List EvidenceGapItem

namespace AssessmentFields

/-- `_iter_all_citations` -/
def iterAllCitations (a : AssessmentFields) : List EvidenceCitation :=
  a.challenges.flatMap (·.citations.1) ++ a.omittedRisks.flatMap (·.citations.1) ++
    a.mitigantAdequacyReviews.flatMap (·.citations.1) ++ a.recommendations.flatMap (·.citations)

/-- The references the validator looks at: targets, and the maker passages that are cited. -/
def references (a : AssessmentFields) : List MakerFindingRef :=
  a.challenges.map (·.target) ++ a.mitigantAdequacyReviews.map (·.riskTarget) ++
    a.mitigantAdequacyReviews.map (·.mitigantTarget) ++
    a.iterAllCitations.filterMap fun citation =>
      match citation with
      | .makerFinding ref => some ref
      | _ => none

/-- What the validators of the assessment check. -/
structure Valid (a : AssessmentFields) : Prop where
  bothMakers : ∀ source, source ∈ a.provenance.makerAssessmentsReviewed.map (·.makerSource)
  independent : a.provenance.executionId ∉
    a.provenance.makerAssessmentsReviewed.map (·.executionId)
  referencesReviewed : ∀ ref ∈ a.references,
    ref.makerAssessmentId ∈ a.provenance.makerAssessmentsReviewed.map (·.assessmentId)

instance (a : AssessmentFields) : Decidable a.Valid :=
  decidable_of_iff
    ((∀ source ∈ [MakerSource.creditUnderwriting, .legalComplianceCollateral],
        source ∈ a.provenance.makerAssessmentsReviewed.map (·.makerSource)) ∧
      a.provenance.executionId ∉ a.provenance.makerAssessmentsReviewed.map (·.executionId) ∧
      ∀ ref ∈ a.references,
        ref.makerAssessmentId ∈ a.provenance.makerAssessmentsReviewed.map (·.assessmentId))
    ⟨fun h => ⟨fun source => h.1 source (by cases source <;> simp), h.2.1, h.2.2⟩,
      fun h => ⟨fun source _ => h.bothMakers source, h.independent, h.referencesReviewed⟩⟩

end AssessmentFields

/-- `RiskReviewAssessment` -/
structure RiskReviewAssessment extends AssessmentFields where
  valid : toAssessmentFields.Valid

/-! ## The target universe -/

/-- `f"{name}[{i}]"` for each item, with what `f` reads of it. -/
def located {α β : Type} (name : String) (items : List α) (f : α → β) : List (String × β) :=
  items.zipIdx.map fun p => (name ++ "[" ++ toString p.2 ++ "]", f p.1)

/-- `f"{name}[{i}]" for i in range(len(items))` -/
def paths {α : Type} (name : String) (items : List α) : List String :=
  (located name items fun _ => ()).map (·.1)

/-- `underwriting_target_paths` -/
def underwritingTargetPaths (a : Underwriting.UnderwritingAssessment) : List String :=
  paths "business.findings" a.business.findings.1 ++
    paths "financial.findings" a.financial.findings.1 ++
    paths "cash_flow.findings" a.cashFlow.findings.1 ++
    paths "repayment_source.findings" a.repaymentSource.findings.1 ++
    paths "repayment_source.downside_scenarios" a.repaymentSource.downsideScenarios ++
    paths "proposed_structure.findings" a.proposedStructure.findings.1 ++
    paths "risks" a.risks ++ paths "mitigants" a.mitigants ++ paths "assumptions" a.assumptions ++
    paths "evidence_gaps" a.evidenceGaps

/-- `legal_target_paths` -/
def legalTargetPaths (a : Legal.LegalComplianceAssessment) : List String :=
  paths "legal_entity_review.findings" a.legalEntityReview.findings.1 ++
    paths "authority_signatory_review.findings" a.authoritySignatoryReview.findings.1 ++
    paths "ownership_consistency.findings" a.ownershipConsistency.findings.1 ++
    paths "ownership_consistency.inconsistencies" a.ownershipConsistency.inconsistencies ++
    paths "policy_review" a.policyReview ++
    paths "controlled_check_interpretations" a.controlledCheckInterpretations ++
    paths "collateral_review.document_items" a.collateralReview.documentItems ++
    paths "collateral_review.ownership_evidence_findings"
      a.collateralReview.ownershipEvidenceFindings.1 ++
    paths "exceptions" a.exceptions ++ paths "assumptions" a.assumptions ++
    paths "evidence_gaps" a.evidenceGaps

/-- `TargetUniverse` -/
structure TargetUniverse where
  underwritingAssessmentId : Uuid
  underwritingPaths : List String
  legalAssessmentId : Uuid
  legalPaths : List String
deriving DecidableEq

/-- `TargetUniverse.contains` -/
def TargetUniverse.contains (targets : TargetUniverse) (ref : MakerFindingRef) : Bool :=
  match ref.makerSource with
  | .creditUnderwriting =>
    ref.makerAssessmentId = targets.underwritingAssessmentId ∧
      ref.sectionPath.text ∈ targets.underwritingPaths
  | .legalComplianceCollateral =>
    ref.makerAssessmentId = targets.legalAssessmentId ∧
      ref.sectionPath.text ∈ targets.legalPaths

/-- `build_target_universe` -/
def buildTargetUniverse (underwriting : Underwriting.UnderwritingAssessment)
    (legal : Legal.LegalComplianceAssessment) : TargetUniverse where
  underwritingAssessmentId := underwriting.id
  underwritingPaths := underwritingTargetPaths underwriting
  legalAssessmentId := legal.id
  legalPaths := legalTargetPaths legal

end CreditOps.Assessments.RiskReview
