import CreditOps.Assessments.RiskReviewDomain

/-!
# The checker's deterministic pre-analysis

Before the language model is asked, the checker looks for citations of facts that are no longer live, for
blocking gaps that are no longer visible, for assumptions no risk and no mitigant takes up, and for items
of low confidence. Each finding becomes a challenge that cites the passage it is about.
-/

set_option autoImplicit false

namespace CreditOps.Assessments.RiskReview

open Evidence Orchestration

/-! ## Drafts of challenges -/

/-- What a deterministic rule found: the passage, and the challenge to raise about it. -/
structure ChallengeDraft where
  makerSource : MakerSource
  makerAssessmentId : Uuid
  sectionPath : String
  challengeType : ChallengeType
  statementVi : String
  severity : ChallengeSeverity
  confidence : ConfidenceLevel
deriving DecidableEq

/-- The challenge of a draft: it cites the passage it targets. None of the rules states who raised it. -/
def ChallengeDraft.raise (draft : ChallengeDraft) (id : Uuid) : Except BuildFault Challenge := do
  let target ← makeRef draft.makerSource draft.makerAssessmentId draft.sectionPath
  makeChallenge id target draft.challengeType draft.statementVi [.makerFinding target] draft.severity
    draft.confidence .unstated false

/-- The challenges of the drafts, in order, with the uuids drawn from `first` on. -/
def raiseAll (ids : Nat → Uuid) (first : Nat) (drafts : List ChallengeDraft) :
    Except BuildFault (List Challenge) :=
  (drafts.zipIdx first).mapM fun p => p.1.raise (ids p.2)

/-! ## Citations of facts that are no longer live -/

/-- The confirmed fact an underwriting citation names. -/
def underwritingFact? : Underwriting.EvidenceCitation → Option Uuid
  | .confirmedFact id => some id
  | _ => none

/-- The confirmed fact a legal citation names. -/
def legalFact? : Legal.EvidenceCitation → Option Uuid
  | .confirmedFact id => some id
  | _ => none

/-- `_iter_underwriting_citations` -/
def iterUnderwritingCitations (a : Underwriting.UnderwritingAssessment) :
    List (String × List Underwriting.EvidenceCitation) :=
  located "business.findings" a.business.findings.1 (·.citations.1) ++
    located "financial.findings" a.financial.findings.1 (·.citations.1) ++
    located "cash_flow.findings" a.cashFlow.findings.1 (·.citations.1) ++
    located "repayment_source.findings" a.repaymentSource.findings.1 (·.citations.1) ++
    located "repayment_source.downside_scenarios" a.repaymentSource.downsideScenarios
      (·.citations.1) ++
    located "proposed_structure.findings" a.proposedStructure.findings.1 (·.citations.1) ++
    located "risks" a.risks (·.citations.1) ++ located "mitigants" a.mitigants (·.citations.1)

/-- `_iter_legal_citations` -/
def iterLegalCitations (a : Legal.LegalComplianceAssessment) :
    List (String × List Legal.EvidenceCitation) :=
  located "legal_entity_review.findings" a.legalEntityReview.findings.1 (·.citations.1) ++
    located "authority_signatory_review.findings" a.authoritySignatoryReview.findings.1
      (·.citations.1) ++
    located "ownership_consistency.findings" a.ownershipConsistency.findings.1 (·.citations.1) ++
    located "policy_review" a.policyReview (·.citations.1.map .policy) ++
    located "collateral_review.document_items" a.collateralReview.documentItems (·.citations.1) ++
    located "collateral_review.ownership_evidence_findings"
      a.collateralReview.ownershipEvidenceFindings.1 (·.citations.1) ++
    located "exceptions" a.exceptions (·.citations.1)

/-- The draft for one citation that no longer resolves. -/
def groundingDraft (source : MakerSource) (makerId : Uuid) (path : String) : ChallengeDraft where
  makerSource := source
  makerAssessmentId := makerId
  sectionPath := path
  challengeType := .otherConcern
  statementVi := "Trich dan den mot du kien da xac nhan khong con ton tai trong pham vi bang chung " ++
    "hien tai cua ho so (" ++ path ++ ")."
  severity := .high
  confidence := .high

/-- The drafts about one maker's located citations. -/
def groundingDraftsOf {Citation : Type} (live : List String) (source : MakerSource) (makerId : Uuid)
    (fact? : Citation → Option Uuid) (items : List (String × List Citation)) : List ChallengeDraft :=
  items.flatMap fun item => (item.2.filterMap fact?).filterMap fun id =>
    if uuidText id ∈ live then none else some (groundingDraft source makerId item.1)

/-- `cross_check_citation_grounding` -/
def groundingDrafts (underwriting : Underwriting.UnderwritingAssessment)
    (legal : Legal.LegalComplianceAssessment) (view : CheckerEvidenceView) : List ChallengeDraft :=
  let live := view.confirmedFacts.map fun fact => uuidText fact.confirmedFactId
  groundingDraftsOf live .creditUnderwriting underwriting.id underwritingFact?
      (iterUnderwritingCitations underwriting) ++
    groundingDraftsOf live .legalComplianceCollateral legal.id legalFact? (iterLegalCitations legal)

/-! ## Visibility -/

/-- The visibility items of one maker's blocking gaps. -/
def visibilityGapItems (openTexts : List String) (source : MakerSource) (makerId : Uuid)
    (gaps : List EvidenceGapItem) : List VisibilityGapItem :=
  (gaps.filter (·.blockingLevel = .blocking)).map fun gap =>
    { source
      sourceAssessmentId := makerId
      missingInformationVi := gap.missingInformationVi
      blockingLevel := gap.blockingLevel
      stillVisible := gap.missingInformationVi.text ∈ openTexts }

/-- The checks of `recompute_visibility`; an exception is always carried forward. -/
def visibilityChecks (underwriting : Underwriting.UnderwritingAssessment)
    (legal : Legal.LegalComplianceAssessment) (openGaps : List EvidenceGap) : VisibilityChecks :=
  let openTexts := openGaps.map (·.missingInformationVi)
  { blockingGaps :=
      visibilityGapItems openTexts .creditUnderwriting underwriting.id underwriting.evidenceGaps ++
        visibilityGapItems openTexts .legalComplianceCollateral legal.id legal.evidenceGaps
    exceptions := legal.exceptions.map fun exception =>
      { sourceAssessmentId := legal.id
        category := exception.category
        possibleIssueVi := exception.possibleIssueVi
        stillVisible := true } }

/-- The draft for a gap that is no longer visible. -/
def gapVisibilityDraft (underwritingId legalId : Uuid) (item : VisibilityGapItem) :
    ChallengeDraft where
  makerSource := item.source
  makerAssessmentId := match item.source with
    | .creditUnderwriting => underwritingId
    | .legalComplianceCollateral => legalId
  sectionPath := "evidence_gaps[*]"
  challengeType := .gapVisibility
  statementVi := "Khoang trong bang chung chan (BLOCKING) da cong bo khong con hien thi trong ho so: " ++
    item.missingInformationVi.text
  severity := .high
  confidence := .high

/-- The draft for an exception that is no longer visible. -/
def exceptionVisibilityDraft (legalId : Uuid) (item : VisibilityExceptionItem) : ChallengeDraft where
  makerSource := .legalComplianceCollateral
  makerAssessmentId := legalId
  sectionPath := "exceptions[*]"
  challengeType := .exceptionVisibility
  statementVi := "Kha nang ngoai le da cong bo khong con hien thi trong ho so: " ++
    item.possibleIssueVi.text
  severity := .high
  confidence := .high

/-- `visibility_challenges_from` -/
def visibilityDrafts (checks : VisibilityChecks) (underwritingId legalId : Uuid) :
    List ChallengeDraft :=
  (checks.blockingGaps.filter (!·.stillVisible)).map (gapVisibilityDraft underwritingId legalId) ++
    (checks.exceptions.filter (!·.stillVisible)).map (exceptionVisibilityDraft legalId)

/-! ## Assumptions nobody takes up -/

/-- `_underwriting_citation_key` -/
def underwritingCitationKey : Underwriting.EvidenceCitation → String × String
  | .confirmedFact id => ("CONFIRMED_FACT", uuidText id)
  | .calculatorResult resultId _ => ("CALCULATOR_RESULT", resultId)
  | .documentRegion id region => ("DOCUMENT_REGION", uuidText id ++ ":" ++ region.text)

/-- The draft for one assumption. -/
def assumptionDraft (underwritingId : Uuid) (index : Nat)
    (assumption : AssumptionItem Underwriting.EvidenceCitation) : ChallengeDraft where
  makerSource := .creditUnderwriting
  makerAssessmentId := underwritingId
  sectionPath := "assumptions[" ++ toString index ++ "]"
  challengeType := .unsupportedAssumption
  statementVi := "Gia dinh cua MAKER khong duoc bat ky rui ro hay bien phap giam thieu nao tham chieu " ++
    "lai: " ++ assumption.statementVi.text
  severity := .medium
  confidence := .medium

/-- The keys of what the risks and the mitigants cite. -/
def downstreamKeys (a : Underwriting.UnderwritingAssessment) : List (String × String) :=
  a.risks.flatMap (·.citations.1.map underwritingCitationKey) ++
    a.mitigants.flatMap (·.citations.1.map underwritingCitationKey)

/-- An assumption with a basis that no risk and no mitigant cites. -/
def Unaddressed (a : Underwriting.UnderwritingAssessment)
    (assumption : AssumptionItem Underwriting.EvidenceCitation) : Prop :=
  assumption.basisCitations ≠ [] ∧
    ∀ citation ∈ assumption.basisCitations, underwritingCitationKey citation ∉ downstreamKeys a

instance (a : Underwriting.UnderwritingAssessment)
    (assumption : AssumptionItem Underwriting.EvidenceCitation) : Decidable (Unaddressed a assumption) :=
  inferInstanceAs (Decidable (_ ∧ _))

/-- `detect_unaddressed_assumptions` -/
def assumptionDrafts (a : Underwriting.UnderwritingAssessment) : List ChallengeDraft :=
  a.assumptions.zipIdx.filterMap fun p =>
    if Unaddressed a p.1 then some (assumptionDraft a.id p.2 p.1) else none

/-! ## Items of low confidence -/

/-- `CONFIDENCE_FLAG_THRESHOLD` -/
def confidenceFlagThreshold : ConfidenceLevel := .low

/-- `_underwriting_confidence_items` -/
def underwritingConfidenceItems (a : Underwriting.UnderwritingAssessment) :
    List (String × ConfidenceLevel) :=
  located "business.findings" a.business.findings.1 (·.confidence) ++
    located "financial.findings" a.financial.findings.1 (·.confidence) ++
    located "cash_flow.findings" a.cashFlow.findings.1 (·.confidence) ++
    located "risks" a.risks (·.confidence) ++ located "mitigants" a.mitigants (·.confidence)

/-- `_legal_confidence_items` -/
def legalConfidenceItems (a : Legal.LegalComplianceAssessment) : List (String × ConfidenceLevel) :=
  located "legal_entity_review.findings" a.legalEntityReview.findings.1 (·.confidence) ++
    located "authority_signatory_review.findings" a.authoritySignatoryReview.findings.1
      (·.confidence) ++
    located "exceptions" a.exceptions (·.confidence)

/-- The draft for one item of low confidence. -/
def confidenceDraft (source : MakerSource) (makerId : Uuid) (path : String)
    (confidence : ConfidenceLevel) : ChallengeDraft where
  makerSource := source
  makerAssessmentId := makerId
  sectionPath := path
  challengeType := .otherConcern
  statementVi := "Muc do tin cay cua MAKER cho muc '" ++ path ++ "' o nguong " ++ confidence.value ++
    ", can duoc xem xet them."
  severity := .low
  confidence := .medium

/-- The drafts about one maker's items. -/
def confidenceDraftsOf (source : MakerSource) (makerId : Uuid)
    (items : List (String × ConfidenceLevel)) : List ChallengeDraft :=
  (items.filter (·.2 = confidenceFlagThreshold)).map fun item =>
    confidenceDraft source makerId item.1 item.2

/-- `flag_low_confidence_findings` -/
def confidenceDrafts (underwriting : Underwriting.UnderwritingAssessment)
    (legal : Legal.LegalComplianceAssessment) : List ChallengeDraft :=
  confidenceDraftsOf .creditUnderwriting underwriting.id (underwritingConfidenceItems underwriting) ++
    confidenceDraftsOf .legalComplianceCollateral legal.id (legalConfidenceItems legal)

/-! ## The pre-analysis -/

/-- `DeterministicPreAnalysis` -/
structure DeterministicPreAnalysis where
  citationGroundingChallenges : List Challenge
  visibilityChecks : VisibilityChecks
  visibilityChallenges : List Challenge
  unaddressedAssumptionChallenges : List Challenge
  lowConfidenceChallenges : List Challenge
deriving DecidableEq

/-- `all_challenges` -/
def DeterministicPreAnalysis.allChallenges (pre : DeterministicPreAnalysis) : List Challenge :=
  pre.citationGroundingChallenges ++ pre.visibilityChallenges ++
    pre.unaddressedAssumptionChallenges ++ pre.lowConfidenceChallenges

/-- `compute_deterministic_pre_analysis`; the visibility challenges draw their uuids first. -/
def computeDeterministicPreAnalysis (underwriting : Underwriting.UnderwritingAssessment)
    (legal : Legal.LegalComplianceAssessment) (view : CheckerEvidenceView)
    (openGaps : List EvidenceGap) (ids : Nat → Uuid) :
    Except BuildFault DeterministicPreAnalysis := do
  let checks := visibilityChecks underwriting legal openGaps
  let visibility := visibilityDrafts checks underwriting.id legal.id
  let grounding := groundingDrafts underwriting legal view
  let assumptions := assumptionDrafts underwriting
  let visibilityChallenges ← raiseAll ids 0 visibility
  let citationGroundingChallenges ← raiseAll ids visibility.length grounding
  let unaddressedAssumptionChallenges ← raiseAll ids (visibility.length + grounding.length) assumptions
  let lowConfidenceChallenges ←
    raiseAll ids (visibility.length + grounding.length + assumptions.length)
      (confidenceDrafts underwriting legal)
  return { citationGroundingChallenges, visibilityChecks := checks, visibilityChallenges,
           unaddressedAssumptionChallenges, lowConfidenceChallenges }

/-! ## What deterministic challenges cite -/

/-- The challenge cites one passage, the one it targets, and carries the defaults of its provenance. -/
structure Challenge.Plain (challenge : Challenge) : Prop where
  citations : challenge.citations.1 = [.makerFinding challenge.target]
  raisedBy : challenge.raisedBy = .unstated
  raisedBlind : challenge.raisedBlind = false

theorem makeChallenge_spec (id : Uuid) (target : MakerFindingRef) (challengeType : ChallengeType)
    (statementVi : String) (citations : List EvidenceCitation) (severity : ChallengeSeverity)
    (confidence : ConfidenceLevel) (raisedBy : RaisedBy) (raisedBlind : Bool) :
    Ensures (makeChallenge id target challengeType statementVi citations severity confidence raisedBy
      raisedBlind) fun challenge => challenge.target = target ∧ challenge.citations.1 = citations ∧
        challenge.raisedBy = raisedBy ∧ challenge.raisedBlind = raisedBlind := by
  refine Ensures.bind (Ensures.self _) fun _ _ => ?_
  refine Ensures.bind (Ensures.self _) fun cited hcited => ?_
  apply Ensures.ok
  exact ⟨rfl, NonemptyList.val_of_ofList? (validated_eq_ok hcited), rfl, rfl⟩

theorem raise_plain (draft : ChallengeDraft) (id : Uuid) :
    Ensures (draft.raise id) Challenge.Plain := by
  refine Ensures.bind (Ensures.self _) fun target _ => ?_
  refine Ensures.mono (makeChallenge_spec _ _ _ _ _ _ _ _ _) fun challenge h => ?_
  obtain ⟨htarget, hcits, hraisedBy, hblind⟩ := h
  refine ⟨?_, hraisedBy, hblind⟩
  rw [hcits, htarget]

theorem raiseAll_plain (ids : Nat → Uuid) (first : Nat) (drafts : List ChallengeDraft) :
    Ensures (raiseAll ids first drafts) fun challenges =>
      ∀ challenge ∈ challenges, challenge.Plain := by
  apply Ensures.mapM
  intro p
  exact raise_plain p.1 (ids p.2)

/-- **Every deterministic challenge is plain.** -/
theorem computeDeterministicPreAnalysis_plain (underwriting : Underwriting.UnderwritingAssessment)
    (legal : Legal.LegalComplianceAssessment) (view : CheckerEvidenceView)
    (openGaps : List EvidenceGap) (ids : Nat → Uuid) :
    Ensures (computeDeterministicPreAnalysis underwriting legal view openGaps ids) fun pre =>
      ∀ challenge ∈ pre.allChallenges, challenge.Plain := by
  refine Ensures.bind (raiseAll_plain _ _ _) fun visibility hvisibility => ?_
  refine Ensures.bind (raiseAll_plain _ _ _) fun grounding hgrounding => ?_
  refine Ensures.bind (raiseAll_plain _ _ _) fun assumptions hassumptions => ?_
  refine Ensures.bind (raiseAll_plain _ _ _) fun confidence hconfidence => ?_
  apply Ensures.ok
  intro challenge hmem
  simp only [DeterministicPreAnalysis.allChallenges, List.mem_append] at hmem
  rcases hmem with ((hmem | hmem) | hmem) | hmem
  · exact hgrounding challenge hmem
  · exact hvisibility challenge hmem
  · exact hassumptions challenge hmem
  · exact hconfidence challenge hmem

end CreditOps.Assessments.RiskReview
